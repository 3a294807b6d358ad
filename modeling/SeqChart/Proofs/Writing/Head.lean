import SeqChart.Proofs.Chart.Settings
import SeqChart.Proofs.Reading.Image
import SeqChart.Proofs.Writing.Words
/-!
What is written for attributes, options and entities, and what it means. Main statements,
`attributes_written`, `optionsPart_written` and `entitiesPart_written`: the head of a chart comes
back, as far as the dialect knows it.
-/

namespace SeqChart

open Grammar

/-- The attributes that the dialect knows, and no others. -/
def Dialect.Keeps (dialect : Dialect) (attrs attrs' : Mapping String String) : Prop :=
  ∀ key, attrs'.get? key = if key ∈ dialect.attributes then attrs.get? key else none

theorem Dialect.nodup_attributes (dialect : Dialect) : dialect.attributes.Nodup := by
  cases dialect <;> decide

namespace Writer

/-! ## Attributes -/

theorem attributeName_known : ∀ name ∈ attributeNames,
    (name.toList ≠ [] ∧ name.toList.all Text.isWord = true) ∧ attributeName? name = some name := by
  decide

def assignmentText (pair : String × String) : List Char :=
  pair.1.toList ++ '=' :: quote pair.2.toList

theorem endsWord_cons {c : Char} (s : List Char) (other : Text.isWord c = false) :
    EndsWord (c :: s) := by
  rintro d ⟨⟩
  exact other

theorem assignment_written {pair : String × String} (known : pair.1 ∈ attributeNames)
    (complete : EscapeComplete pair.2.toList) (r : List Char) :
    Assignment (assignmentText pair ++ r) pair r := by
  obtain ⟨letters, named⟩ := attributeName_known pair.1 known
  have word := word_append letters
    (endsWord_cons (quote pair.2.toList ++ r) (c := '=') (by decide))
  rw [assignmentText, List.append_assoc, List.cons_append]
  exact .mk word (by rwa [String.ofList_toList]) (Gap.refl _) (Gap.refl _) (value_quote complete)

theorem assignments_written (style : Style) {pairs : List (String × String)}
    (nonempty : pairs ≠ [])
    (proper : ∀ pair ∈ pairs, pair.1 ∈ attributeNames ∧ EscapeComplete pair.2.toList)
    (before : List String) (r : List Char) :
    ListOf (fun _ => Assignment) before
      (List.intercalate (',' :: space style) (pairs.map assignmentText) ++ r) pairs r := by
  induction pairs generalizing before with
  | nil => exact absurd rfl nonempty
  | cons pair rest step =>
    obtain ⟨⟨known, complete⟩, properRest⟩ := List.forall_mem_cons.1 proper
    cases rest with
    | nil => simpa using ListOf.one (assignment_written known complete r)
    | cons next rest =>
      have more := step (by simp) properRest []
      rw [List.map_cons, List.map_cons, List.intercalate_cons_cons, List.append_assoc,
        List.append_assoc]
      exact .more (assignment_written known complete _) (Gap.refl _)
        (Layout.of_blanks (blank_space style) .done) more

theorem attributes_written (style : Style) {attrs : Mapping String String}
    (proper : ProperAttrs attrs) (r : List Char) :
    ∃ attrs', Attributes (attributesText style attrs ++ r) attrs' r ∧
      style.dialect.Keeps attrs attrs' := by
  let pairs := style.dialect.attributes.filterMap fun name => (attrs.get? name).map (name, ·)
  have texts : style.dialect.attributes.filterMap (fun name =>
      (attrs.get? name).map fun value => name.toList ++ '=' :: quote value.toList) =
      pairs.map assignmentText := by
    rw [List.map_filterMap]
    refine List.filterMap_congr fun name _ => ?_
    cases attrs.get? name <;> rfl
  refine ⟨Mapping.ofList pairs, ?_,
    Mapping.get?_ofList_names style.dialect.nodup_attributes attrs⟩
  rw [attributesText, texts]
  split
  · rename_i empty
    have none : pairs = [] := by simpa using empty
    rw [none]
    exact .absent
  · rename_i some_pair
    have nonempty : pairs ≠ [] := by simpa using some_pair
    have known : ∀ pair ∈ pairs, pair.1 ∈ attributeNames ∧ EscapeComplete pair.2.toList := by
      intro pair member
      obtain ⟨name, -, present⟩ := List.mem_filterMap.1 member
      obtain ⟨value, found, rfl⟩ := Option.map_eq_some_iff.1 present
      exact proper name value found
    rw [List.append_assoc, List.append_assoc, List.cons_append]
    exact .some (Layout.of_blanks (blank_space style) .done).gap (Gap.refl _)
      (assignments_written style nonempty known [] _) (Gap.refl _)

/-- Attributes do not lengthen a word before them. -/
theorem endsWord_attributesText (style : Style) (attrs : Mapping String String) {r : List Char}
    (ends : EndsWord r) : EndsWord (attributesText style attrs ++ r) := by
  rw [attributesText]
  split
  · exact ends
  · rw [space]
    split
    · exact endsWord_cons _ rfl
    · exact endsWord_cons _ rfl

/-! ## Lists of items -/

/-- The comments before an item lead to it. -/
theorem layout_before (style : Style) (level : Nat) {comments : List String}
    (proper : ProperComments comments) (s : List Char) :
    Layout (commentsText style level comments ++ (margin style level ++ s)) comments s := by
  simpa using layout_commentsText style level proper
    (Layout.of_blanks (blank_margin style level) (.done (s := s)))

theorem list_written {α β : Type} (Item : List String → List Char → β → List Char → Prop)
    (Means : α → β → Prop) (style : Style) (comments : α → List String) (text : α → List Char)
    {items : List α} (nonempty : items ≠ [])
    (proper : ∀ a ∈ items, ProperComments (comments a))
    (written : ∀ a ∈ items, ∀ r, EndsWord r → ∃ b, Item (comments a) (text a ++ r) b r ∧ Means a b)
    (x : List Char) :
    ∃ bs s t, Layout (listText.go style (items.map fun a => (comments a, text a)) ++ x)
      (comments (items.head nonempty)) s ∧
      ListOf Item (comments (items.head nonempty)) s bs t ∧
      Gap t (';' :: (lineEnd style ++ x)) ∧ List.Forall₂ Means items bs := by
  induction items with
  | nil => exact absurd rfl nonempty
  | cons a rest step =>
    obtain ⟨properFirst, properRest⟩ := List.forall_mem_cons.1 proper
    obtain ⟨first, writtenRest⟩ := List.forall_mem_cons.1 written
    cases rest with
    | nil =>
      obtain ⟨b, item, means⟩ := first (';' :: (lineEnd style ++ x))
        (endsWord_cons _ rfl)
      refine ⟨[b], _, _, ?_, .one item, Gap.refl _, .cons means .nil⟩
      simpa [listText.go] using layout_before style 1 properFirst _
    | cons a' rest =>
      obtain ⟨bs, s, t, layout, list, closed, meansRest⟩ :=
        step (by simp) properRest writtenRest
      obtain ⟨b, item, means⟩ := first
        (',' :: (lineEnd style ++ (listText.go style ((a' :: rest).map fun a =>
          (comments a, text a)) ++ x))) (endsWord_cons _ rfl)
      refine ⟨b :: bs, _, t, ?_, .more item (Gap.refl _)
        (Layout.of_blanks (blank_lineEnd style) layout) list, closed, .cons means meansRest⟩
      simpa [listText.go] using layout_before style 1 properFirst _

/-! ## Options -/

/-- Whether the dialect writes a setting. The automatic width is never written. -/
def isWritten (dialect : Dialect) (x : Setting String Bool) : Bool :=
  dialect.options.contains x.name && x != .text .width "auto"

def settingText : Setting String Bool → List Char
  | .text option value => option.name.toList ++ '=' :: quote value.toList
  | .flag option value => option.name.toList ++ '=' :: (if value then "true" else "false").toList

theorem settingText?_eq (style : Style) (x : Setting String Bool) :
    settingText? style x =
      if isWritten style.dialect x then some (settingText x) else none := by
  unfold settingText? isWritten
  cases known : style.dialect.options.contains x.name with
  | false => simp
  | true =>
    cases x with
    | flag option value => simp [settingText]
    | text option value =>
      by_cases auto : option = .width ∧ value = "auto"
      · simp [auto]
      · have other : (Setting.text option value : Setting String Bool) ≠ .text .width "auto" := by
          simpa using auto
        simp [settingText, auto, other]

theorem filterMap_settingText? (style : Style) (settings : List (Setting String Bool)) :
    settings.filterMap (settingText? style) =
      (settings.filter (isWritten style.dialect)).map settingText := by
  rw [← List.filterMap_eq_filter, List.map_filterMap]
  refine List.filterMap_congr fun x _ => ?_
  rw [settingText?_eq]
  split <;> rename_i kept <;> simp [Option.guard, kept]

theorem optionName_known (option : OptionName) :
    (option.name.toList ≠ [] ∧ option.name.toList.all Text.isWord = true) ∧
      Text.lowerText option.name = option.name := by
  have all : ∀ option ∈ OptionName.all,
      option.name.toList ≠ [] ∧ option.name.toList.all Text.isWord = true := by decide
  exact ⟨all option (OptionName.mem_all option), option.lowerText_name⟩

/-- What a setting must be like to be read back. -/
def ProperSetting : Setting String Bool → Prop
  | .text .watermark value => EscapeComplete value.toList
  | .text _ value => Numeral value.toList
  | .flag _ _ => True

theorem word_flagValue (value : Bool) {r : List Char} (ends : EndsWord r) :
    Value ((if value then "true" else "false").toList ++ r) (if value then "true" else "false")
      r := by
  have known : ∀ value : Bool, (if value then "true" else "false").toList ≠ [] ∧
      (if value then "true" else "false").toList.all Text.isWord = true := by
    decide
  have word := word_append (known value) ends
  have whole := Value.word word (by
    intro v' r' fraction
    obtain ⟨after, point, -⟩ := fraction_iff.1 fraction
    cases value with
    | true =>
      have same : ("true".toList ++ r).dropWhile Text.isDigit = "true".toList ++ r :=
        List.dropWhile_cons_of_neg (by decide)
      cases same.symm.trans point
    | false =>
      have same : ("false".toList ++ r).dropWhile Text.isDigit = "false".toList ++ r :=
        List.dropWhile_cons_of_neg (by decide)
      cases same.symm.trans point)
  simpa using whole

theorem setting_written {x : Setting String Bool} (proper : ProperSetting x) {r : List Char}
    (ends : EndsWord r) : OptionItem (settingText x ++ r) x r := by
  have keyword (option : OptionName) (s : List Char) :
      Keyword option.name (option.name.toList ++ '=' :: s) ('=' :: s) := by
    obtain ⟨letters, lowered⟩ := optionName_known option
    exact ⟨option.name.toList, word_append letters (endsWord_cons _ rfl),
      by rwa [String.ofList_toList]⟩
  cases x with
  | flag option value =>
    have item : OptionItem (option.name.toList ++ '=' ::
        ((if value then "true" else "false").toList ++ r)) (.flag option value) r := by
      refine .mk (keyword (.flag option) _) (Gap.refl _) (Gap.refl _) (word_flagValue value ends) ?_
      cases value with
      | true => exact .on (by decide)
      | false => exact .off (by decide)
    simpa [settingText] using item
  | text option value =>
    have item (complete : EscapeComplete value.toList)
        (legal : Legal (.text option) value (.text option value)) :
        OptionItem (settingText (.text option value) ++ r) (.text option value) r := by
      have item := OptionItem.mk (keyword (.text option) (quote value.toList ++ r)) (Gap.refl _)
        (Gap.refl _) (value_quote complete) legal
      simpa [settingText, OptionName.name] using item
    have numeric (numeral : Numeral value.toList) (isNumeric : option.isNumeric = true) :
        OptionItem (settingText (.text option value) ++ r) (.text option value) r :=
      item numeral.escapeComplete (.number isNumeric numeral)
    cases option with
    | watermark => exact item proper .watermark
    | hscale => exact numeric proper rfl
    | width => exact numeric proper rfl
    | arcgradient => exact numeric proper rfl

theorem properSetting {options : Options String Bool String} (proper : options.Proper)
    {x : Setting String Bool} (member : x ∈ options.settings) (other : x ≠ .text .width "auto") :
    ProperSetting x := by
  obtain ⟨name, -, present⟩ := List.mem_filterMap.1 member
  cases name with
  | flag option =>
    obtain ⟨value, -, rfl⟩ := Option.map_eq_some_iff.1 present
    trivial
  | text option =>
    obtain ⟨value, found, rfl⟩ := Option.map_eq_some_iff.1 present
    cases option with
    | hscale => exact proper.hscale value found
    | arcgradient => exact proper.arcgradient value found
    | watermark => exact proper.watermark value found
    | width =>
      refine (proper.width value found).resolve_left ?_
      rintro rfl
      exact other rfl

/-- The options that the dialect writes. -/
def keptOptions (dialect : Dialect) (options : Options String Bool String) :
    Options String Bool String :=
  Options.ofSettings (options.settings.filter (isWritten dialect))

theorem isWritten_text {option : TextOption} (other : option ≠ .width) (dialect : Dialect)
    (value : String) :
    isWritten dialect (.text option value) = dialect.options.contains (.text option) := by
  have named : (Setting.text option value : Setting String Bool) ≠ .text .width "auto" := by
    rintro ⟨⟩
    exact other rfl
  rw [isWritten, bne_iff_ne.2 named, Bool.and_true]
  rfl

theorem isWritten_flag (dialect : Dialect) (option : FlagOption) (value : Bool) :
    isWritten dialect (.flag option value) = dialect.options.contains (.flag option) := by
  simp [isWritten, Setting.name]

theorem isWritten_width (dialect : Dialect) (value : String) :
    isWritten dialect (.text .width value) = (value != "auto") := by
  cases dialect <;> simp [isWritten, Dialect.options, OptionName.all, Setting.name, bne]

theorem keptOptions_xu {options : Options String Bool String} (known : options.extra = ∅) :
    keptOptions .xu options = { options with width := options.width.filter (· != "auto") } := by
  have all (name : OptionName) : Dialect.xu.options.contains name = true :=
    List.contains_iff_mem.2 (OptionName.mem_all name)
  rw [keptOptions, Options.ofSettings_filter]
  simp [isWritten_text, isWritten_flag, isWritten_width, Options.filter_all, known,
    -List.contains_eq_mem, all]

theorem keptOptions_mscgen (options : Options String Bool String) :
    keptOptions .mscgen options = {
      hscale := options.hscale
      width := options.width.filter (· != "auto")
      arcgradient := options.arcgradient
      wordwraparcs := options.wordwraparcs } := by
  rw [keptOptions, Options.ofSettings_filter]
  simp [isWritten_text, isWritten_flag, isWritten_width, Options.filter_all, Dialect.options]

theorem optionsText_eq (style : Style) (options : Options String Bool String) :
    optionsText style options = listText style
      ((options.settings.filter (isWritten style.dialect)).map fun x => ([], settingText x)) := by
  rw [optionsText, filterMap_settingText?, List.map_map]
  rfl

theorem optionsText_of_unset {style : Style} {options : Options String Bool String}
    (unset : keptOptions style.dialect options = {}) : optionsText style options = [] := by
  rw [keptOptions, Options.ofSettings] at unset
  have none := (Options.foldl_set_eq unset).2
  rw [optionsText_eq, none]
  rfl

/-- Settings that are written one by one come before what is written behind them. -/
theorem settings_written (style : Style) {settings : List (Setting String Bool)}
    (written : ∀ x ∈ settings, ∀ r, EndsWord r → OptionItem (settingText x ++ r) x r)
    {s t : List Char} {between : List String} (layout : Layout s between t) :
    ∃ before u, Layout (listText style (settings.map fun x => ([], settingText x)) ++ s) before u ∧
      OptionsPart before u (Options.ofSettings settings) between t ∧ (settings = [] → u = t) := by
  rw [listText]
  split
  · rename_i empty
    have none : settings = [] := by simpa using empty
    rw [none]
    exact ⟨between, t, layout, .absent, fun _ => rfl⟩
  · rename_i some_item
    have nonempty : settings ≠ [] := by simpa using some_item
    obtain ⟨settings, u, v, layout', list, closed, same⟩ :=
      list_written (fun _ => OptionItem) Eq style (fun _ => []) settingText nonempty
        (fun _ _ => List.forall_mem_nil _)
        (fun x member r ends => ⟨x, written x member r ends, rfl⟩) (lineEnd style ++ s)
    rw [List.forall₂_eq_eq_eq] at same
    subst same
    rw [List.append_assoc]
    exact ⟨[], u, layout', .present list closed
      (Layout.of_blanks (blank_lineEnd style) (Layout.of_blanks (blank_lineEnd style) layout)),
      fun none => absurd none nonempty⟩

theorem optionsPart_written (style : Style) {options : Options String Bool String}
    (proper : options.Proper) {s t : List Char} {between : List String}
    (layout : Layout s between t) :
    ∃ before u, Layout (optionsText style options ++ s) before u ∧
      OptionsPart before u (keptOptions style.dialect options) between t := by
  have written : ∀ x ∈ options.settings.filter (isWritten style.dialect), ∀ r, EndsWord r →
      OptionItem (settingText x ++ r) x r := by
    intro x member r ends
    obtain ⟨present, kept⟩ := List.mem_filter.1 member
    have other : x ≠ .text .width "auto" := by
      rintro rfl
      simp [isWritten] at kept
    exact setting_written (properSetting proper present other) ends
  rw [optionsText_eq, keptOptions]
  obtain ⟨before, u, layout', part, -⟩ := settings_written style written layout
  exact ⟨before, u, layout', part⟩

/-! ## Entities -/

/-- The entity with the attributes that the dialect knows. -/
def KeepsEntity (dialect : Dialect) (entity entity' : Entity String String) : Prop :=
  entity'.name = entity.name ∧ dialect.Keeps entity.attrs entity'.attrs ∧
    entity'.comments = entity.comments

theorem entity_written (style : Style) {entity : Entity String String} (proper : entity.Proper)
    {r : List Char} (ends : EndsWord r) :
    ∃ entity', EntityItem entity.comments (entityText style entity ++ r) entity' r ∧
      KeepsEntity style.dialect entity entity' := by
  obtain ⟨attrs', stands, keeps⟩ := attributes_written style proper.attrs r
  rw [entityText, List.append_assoc]
  exact ⟨_, .mk (name_nameText proper.name (endsWord_attributesText style _ ends)) stands,
    rfl, keeps, rfl⟩

def entitiesText (style : Style) (entities : List (Entity String String)) : List Char :=
  listText style (entities.map fun entity => (entity.comments, entityText style entity))

theorem entitiesPart_written (style : Style) {entities : List (Entity String String)}
    (proper : ∀ entity ∈ entities, entity.Proper) {s t : List Char} {after : List String}
    (layout : Layout s after t) :
    ∃ entities' before u, Layout (entitiesText style entities ++ s) before u ∧
      EntitiesPart before u entities' after t ∧
      List.Forall₂ (KeepsEntity style.dialect) entities entities' := by
  rw [entitiesText, listText]
  split
  · rename_i empty
    have none : entities = [] := by simpa using empty
    subst none
    exact ⟨[], after, t, layout, .absent, .nil⟩
  · rename_i some_item
    have nonempty : entities ≠ [] := by simpa using some_item
    obtain ⟨entities', u, v, layout', list, closed, keeps⟩ :=
      list_written EntityItem (KeepsEntity style.dialect) style Entity.comments (entityText style)
        nonempty
        (fun entity member => (proper entity member).comments)
        (fun entity member r ends => entity_written style (proper entity member) ends)
        (lineEnd style ++ s)
    rw [List.append_assoc]
    exact ⟨entities', _, u, layout', .present list closed
      (Layout.of_blanks (blank_lineEnd style) (Layout.of_blanks (blank_lineEnd style) layout)),
      keeps⟩

theorem entities_beq {dialect : Dialect} (keep : Mapping String String → Mapping String String)
    (same : ∀ {attrs attrs'}, ProperAttrs attrs → dialect.Keeps attrs attrs' →
      (attrs' == keep attrs) = true)
    {entities entities' : List (Entity String String)}
    (keeps : List.Forall₂ (KeepsEntity dialect) entities entities')
    (proper : ∀ entity ∈ entities, entity.Proper) :
    List.Forall₂ (fun a b => (a == b) = true) entities'
      (entities.map fun entity => { entity with attrs := keep entity.attrs }) := by
  induction keeps with
  | nil => exact .nil
  | cons first _ step =>
    obtain ⟨properFirst, properRest⟩ := List.forall_mem_cons.1 proper
    obtain ⟨sameName, keepsAttrs, sameComments⟩ := first
    exact .cons (Entity.beq_iff.2 ⟨sameName, same properFirst.attrs keepsAttrs, sameComments⟩)
      (step properRest)

end Writer

end SeqChart
