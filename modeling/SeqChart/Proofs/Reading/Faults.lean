import SeqChart.Proofs.Data.Except
import SeqChart.Proofs.Reading.Head
import SeqChart.Reader.Chart
/-!
Where readers stop. Main statement, `chart_blames`: a fault lies in the text that is read, and what
is expected instead of something else is expected where no layout stands.

Readers stop at the place they have reached, or at a place they remember. So the text as a whole is
kept apart from what is left of it (`Blames`), and what holds of the place that has been reached is
passed on from one reader to the next (`Blames.bind`).
-/

namespace SeqChart

open Grammar

/-- The fault lies in the text, and not on layout if something else is expected in its place. -/
structure Fault.Placed (text : List Char) (fault : Fault) : Prop where
  inside : fault.rest <:+ text
  solid : fault.cause.wanted?.isSome = true → Solid fault.rest

namespace Reader

variable {α β σ : Type} {text : List Char} {Here : List Char → Prop}

/-- Where the reader fails in the text, at a place of which `Here` holds, the fault is placed. -/
def Blames (text : List Char) (Here : List Char → Prop) (p : Reader α) : Prop :=
  ∀ s fault, s <:+ text → Here s → p s = .error fault → fault.Placed text

def Anywhere (_ : List Char) : Prop := True

theorem Blames.at {p : Reader α} (blames : Blames text Anywhere p) : Blames text Here p :=
  fun s fault inside _ failed => blames s fault inside trivial failed

/-! ## Composed readers -/

theorem blames_of_total {p : Reader α} (total : ∀ s, ∃ result, p s = .ok result) :
    Blames text Here p := by
  intro s fault inside here failed
  obtain ⟨result, read⟩ := total s
  cases read.symm.trans failed

theorem blames_pure (a : α) : Blames text Here (pure a : Reader α) :=
  blames_of_total fun _ => ⟨_, rfl⟩

theorem blames_fail (cause : Cause) : Blames text Solid (fail cause : Reader α) := by
  intro s fault inside solid failed
  cases failed
  exact ⟨inside, fun _ => solid⟩

theorem blames_fail_other {cause : Cause} (other : cause.wanted? = none) :
    Blames text Here (fail cause : Reader α) := by
  intro s fault inside here failed
  cases failed
  exact ⟨inside, fun wanted => by simp [other] at wanted⟩

theorem blames_failAt {place : List Char} {cause : Cause} (inside : place <:+ text)
    (other : cause.wanted? = none) : Blames text Here (failAt place cause : Reader α) := by
  intro s fault _ here failed
  cases failed
  exact ⟨inside, fun wanted => by simp [other] at wanted⟩

theorem bind_eq_error_iff {p : Reader α} {f : α → Reader β} {s : List Char} {fault : Fault} :
    (p >>= f) s = .error fault ↔
      p s = .error fault ∨ ∃ a r, p s = .ok (a, r) ∧ f a r = .error fault := by
  rw [bind_apply]
  cases p s with
  | error e => simp
  | ok result =>
    obtain ⟨a, r⟩ := result
    constructor
    · exact fun failed => .inr ⟨a, r, rfl, failed⟩
    · rintro (⟨⟨⟩⟩ | ⟨_, _, same, failed⟩)
      cases same
      exact failed

theorem Blames.bind {There : α → List Char → Prop} {p : Reader α} {f : α → Reader β}
    (first : Blames text Here p) (ends : LeavesEnd p)
    (leads : ∀ s a r, Here s → p s = .ok (a, r) → There a r)
    (next : ∀ a, Blames text (There a) (f a)) : Blames text Here (p >>= f) := by
  intro s fault inside here failed
  rcases bind_eq_error_iff.1 failed with stopped | ⟨a, r, read, failed⟩
  · exact first s fault inside here stopped
  · exact next a r fault ((ends s a r read).trans inside) (leads s a r here read) failed

theorem Blames.bind_any {p : Reader α} {f : α → Reader β} (first : Blames text Here p)
    (ends : LeavesEnd p) (next : ∀ a, Blames text Anywhere (f a)) : Blames text Here (p >>= f) :=
  first.bind ends (fun _ _ _ _ _ => trivial) next

theorem blames_get_bind {f : List Char → Reader α}
    (next : ∀ place, place <:+ text → Blames text Here (f place)) :
    Blames text Here (get >>= f) := by
  intro s fault inside here failed
  exact next s inside s fault inside here failed

/-- Where no token is taken the place stays. -/
theorem blames_accept_bind {token : List Char} {f : Bool → Reader α}
    (taken : Blames text Anywhere (f true)) (absent : Blames text Here (f false)) :
    Blames text Here (accept token >>= f) := by
  intro s fault inside here failed
  by_cases stands : token <+: s
  · obtain ⟨r, rfl⟩ := stands
    rw [bind_of_ok (accept_append token r)] at failed
    exact taken r fault ((List.suffix_append token r).trans inside) trivial failed
  · rw [bind_of_ok (accept_of_absent stands)] at failed
    exact absent s fault inside here failed

theorem blames_acceptAny_bind {token : α → String} {choices : List α} {f : Option α → Reader β}
    (taken : ∀ a, Blames text Anywhere (f (some a))) (absent : Blames text Here (f none)) :
    Blames text Here (acceptAny token choices >>= f) := by
  intro s fault inside here failed
  rcases acceptAny_cases token choices s with ⟨none, -⟩ | ⟨_, a, _, r, -, splits, -, some⟩
  · rw [bind_of_ok none] at failed
    exact absent s fault inside here failed
  · rw [bind_of_ok some] at failed
    refine taken a r fault (List.IsSuffix.trans ?_ inside) trivial failed
    exact ⟨_, splits.symm⟩

theorem keyword?_cases (token : α → String) (choices : List α) (s : List Char) :
    keyword? token choices s = .ok (none, s) ∨
      ∃ a, keyword? token choices s = .ok (some a, s.dropWhile Text.isWord) := by
  unfold keyword?
  dsimp only
  split
  · exact .inr ⟨_, rfl⟩
  · exact .inl rfl

theorem blames_keyword_bind {token : α → String} {choices : List α} {f : Option α → Reader β}
    (taken : ∀ a, Blames text Anywhere (f (some a))) (absent : Blames text Here (f none)) :
    Blames text Here (keyword? token choices >>= f) := by
  intro s fault inside here failed
  rcases keyword?_cases token choices s with none | ⟨a, some⟩
  · rw [bind_of_ok none] at failed
    exact absent s fault inside here failed
  · rw [bind_of_ok some] at failed
    exact taken a _ fault ((List.dropWhile_suffix _).trans inside) trivial failed

theorem blames_word : Blames text Here word := blames_of_total fun _ => ⟨_, rfl⟩

/-- A word is needed, and where it is missing the place stays. -/
theorem blames_needed_word_bind {cause : Cause} {f : List Char → Reader α}
    (next : ∀ w, Blames text Anywhere (f w)) :
    Blames text Solid (do
      let w ← word
      if (String.ofList w).isEmpty then fail cause else f w) := by
  have stays : ∀ s w r, Solid s → word s = .ok (w, r) → w = [] → Solid r := by
    intro s w r solid read empty
    obtain ⟨rfl, rfl⟩ := Prod.mk.inj (Except.ok.inj read)
    have splits := List.takeWhile_append_dropWhile (p := Text.isWord) (l := s)
    rw [empty, List.nil_append] at splits
    rwa [splits]
  refine Blames.bind blames_word leavesEnd_word stays fun w => ?_
  split
  · rename_i empty
    intro s fault inside solid failed
    exact blames_fail _ s fault inside (solid (by simpa [ofList_isEmpty] using empty)) failed
  · exact (next w).at

theorem Blames.chain {item : σ → Reader (α × Option σ)} {advances : ∀ x, Advances (item x)}
    (items : ∀ x, Blames text Anywhere (item x)) (x : σ) :
    Blames text Anywhere (chain item advances x) := by
  intro s fault inside _ failed
  fun_induction Reader.chain item advances x s with
  | case1 x s e stopped =>
    cases failed
    exact items x s _ inside trivial stopped
  | case2 => cases failed
  | case3 x s a y r read less step =>
    exact step ((advances x s _ r read).1.trans inside) trivial
      (Except.map_eq_error_iff.1 failed)

/-! ## Layout -/

theorem comment?_eq_error {s : List Char} {fault : Fault} (failed : comment? s = .error fault) :
    fault = ⟨.unterminatedComment, s⟩ := by
  unfold comment? at failed
  split at failed
  · split at failed
    · cases failed
    · cases failed
      rfl
  · cases failed
  · cases failed
  · cases failed

theorem comments_eq_error {s : List Char} {fault : Fault} (failed : comments s = .error fault) :
    fault.cause = .unterminatedComment ∧ fault.rest <:+ s := by
  fun_induction comments s with
  | case1 s e stopped =>
    cases failed
    obtain rfl := comment?_eq_error stopped
    exact ⟨rfl, List.dropWhile_suffix _⟩
  | case2 => cases failed
  | case3 s c r read less ends step =>
    obtain ⟨cause, inside⟩ := step (Except.map_eq_error_iff.1 failed)
    exact ⟨cause, (inside.trans (comment?_some read).1).trans (List.dropWhile_suffix _)⟩

theorem comments_blames : Blames text Here comments := by
  intro s fault inside _ failed
  obtain ⟨cause, inside'⟩ := comments_eq_error failed
  exact ⟨inside'.trans inside, fun wanted => by simp [cause, Cause.wanted?] at wanted⟩

theorem skipLayout_blames : Blames text Here skipLayout :=
  fun s fault inside here failed =>
    comments_blames s fault inside here (Except.map_eq_error_iff.1 failed)

/-- Behind layout, no layout stands. -/
theorem blames_skipLayout_bind {f : Unit → Reader α} (next : Blames text Solid (f ())) :
    Blames text Here (skipLayout >>= f) :=
  skipLayout_blames.bind leavesEnd_skipLayout
    (fun _ _ _ _ read => (skipLayout_eq_ok_iff.1 read).2) fun _ => next

theorem blames_comments_bind {f : List String → Reader α}
    (next : ∀ before, Blames text Solid (f before)) : Blames text Here (comments >>= f) :=
  Blames.bind comments_blames leavesEnd_comments
    (fun _ _ _ _ read => (comments_eq_ok_iff.1 read).2) next

theorem expect_blames (token : String) : Blames text Here (expect token) := by
  refine blames_skipLayout_bind (blames_accept_bind ?_ ?_)
  · exact blames_pure _
  · exact blames_fail _

/-! ## Names and values -/

/-- Where no string stands the place stays. -/
theorem blames_quoted_bind {f : Option String → Reader α}
    (taken : ∀ v, Blames text Anywhere (f (some v))) (absent : Blames text Here (f none)) :
    Blames text Here (quoted? >>= f) := by
  intro s fault inside here failed
  rcases bind_eq_error_iff.1 failed with stopped | ⟨found, r, read, stops⟩
  · unfold quoted? at stopped
    split at stopped
    · split at stopped
      · cases stopped
      · cases stopped
        exact ⟨inside, fun wanted => by cases wanted⟩
    · cases stopped
  · cases found with
    | some v => exact taken v r fault ((quoted?_some read).1.trans inside) trivial stops
    | none =>
      obtain rfl := quoted?_none read
      exact absent r fault inside here stops

theorem name_blames : Blames text Here name := by
  refine blames_skipLayout_bind (blames_get_bind fun place inside => ?_)
  refine blames_quoted_bind (fun v => ?_) (blames_needed_word_bind fun w => ?_)
  · dsimp only
    split
    · exact blames_failAt inside rfl
    · exact blames_pure _
  · split
    · exact blames_failAt inside rfl
    · exact blames_pure _

theorem endpoint_blames : Blames text Here endpoint :=
  blames_skipLayout_bind (blames_accept_bind (blames_pure _) name_blames)

theorem bareValue_blames : Blames text Solid bareValue := by
  intro s fault inside solid failed
  unfold bareValue at failed
  split at failed
  · cases failed
  · cases failed
    exact ⟨inside, fun _ => solid⟩

theorem value_blames : Blames text Here value :=
  blames_skipLayout_bind (blames_quoted_bind (fun _ => blames_pure _) bareValue_blames)

/-! ## Lists -/

section

variable {item : List String → Reader α} {close : Char} {closesItself : α → Bool}

theorem listed_blames (items : ∀ before, Blames text Anywhere (item before))
    (advances : ∀ before, Advances (item before)) (before : List String) :
    Blames text Anywhere (listed item close closesItself before) := by
  refine (items before).bind_any (advances before).leavesEnd fun a => ?_
  refine blames_skipLayout_bind (blames_accept_bind (blames_pure _) (blames_accept_bind ?_ ?_))
  · exact blames_comments_bind fun _ => blames_pure _
  · rw [if_neg Bool.false_ne_true]
    split
    · exact blames_pure _
    · exact blames_fail _

theorem series_blames (items : ∀ before, Blames text Anywhere (item before))
    (advances : ∀ before, Advances (item before)) (before : List String) :
    Blames text Here (series item advances close closesItself before) :=
  (Blames.chain (listed_blames items advances) before).at

end

/-! ## Options, attributes and entities -/

theorem OptionName.wanted?_of_setting {option : OptionName} {value : String} {cause : Cause}
    (refused : option.setting value = .error cause) : cause.wanted? = none := by
  cases option with
  | flag option =>
    simp only [OptionName.setting] at refused
    split at refused
    · cases refused
    · split at refused
      · cases refused
      · cases refused
        rfl
  | text option =>
    simp only [OptionName.setting] at refused
    split at refused
    · cases refused
    · split at refused
      · cases refused
        rfl
      · cases refused

theorem setting_blames : Blames text Anywhere setting := by
  refine blames_skipLayout_bind (blames_get_bind fun place inside => ?_)
  refine blames_needed_word_bind fun w => ?_
  split
  · exact blames_failAt inside rfl
  · refine (expect_blames _).bind_any (leavesEnd_expect _) fun _ =>
      blames_skipLayout_bind (blames_get_bind fun place' inside' =>
        value_blames.bind_any advances_value.leavesEnd fun v => ?_)
    split
    · exact blames_pure _
    · rename_i cause refused
      exact blames_failAt inside' (OptionName.wanted?_of_setting refused)

theorem options_blames : Blames text Here options :=
  (series_blames (fun _ => setting_blames) _ _).bind_any (advances_series _ _ _ _).leavesEnd
    fun _ => blames_pure _

/-- Looking ahead fails where the reader does. -/
theorem Blames.ahead {p : Reader α} (blames : Blames text Here p) : Blames text Here (ahead p) := by
  intro s fault inside here failed
  exact blames s fault inside here (Except.map_eq_error_iff.1 failed)

theorem atOption_blames : Blames text Here atOption := by
  refine (blames_word.bind_any leavesEnd_word fun w => ?_).ahead
  split
  · exact blames_pure _
  · exact blames_skipLayout_bind (blames_of_total fun s => by
      rw [accept]
      split <;> exact ⟨_, rfl⟩)

theorem leavesEnd_atOption : LeavesEnd atOption := by
  intro s found r read
  exact (ahead_eq_ok_iff.1 read).1 ▸ List.suffix_refl _

theorem advances_options : Advances options :=
  (advances_series _ _ _ _).bind fun _ => leavesEnd_pure _

theorem leavesEnd_optionsPart (before : List String) : LeavesEnd (optionsPart before) := by
  refine leavesEnd_atOption.bind fun found => ?_
  split
  · exact advances_options.leavesEnd.bind fun _ =>
      LeavesEnd.bind leavesEnd_comments fun _ => leavesEnd_pure _
  · exact leavesEnd_pure _

theorem optionsPart_blames (before : List String) : Blames text Here (optionsPart before) := by
  refine atOption_blames.bind_any leavesEnd_atOption fun found => ?_
  split
  · exact options_blames.bind_any advances_options.leavesEnd fun _ =>
      blames_comments_bind fun _ => blames_pure _
  · exact blames_pure _

theorem assignment_blames : Blames text Anywhere assignment := by
  refine blames_skipLayout_bind (blames_get_bind fun place inside => ?_)
  refine blames_needed_word_bind fun w => ?_
  split
  · exact blames_failAt inside rfl
  · exact (expect_blames _).bind_any (leavesEnd_expect _) fun _ =>
      value_blames.bind_any advances_value.leavesEnd fun _ => blames_pure _

theorem attributes_blames : Blames text Here attributes := by
  refine blames_skipLayout_bind (blames_accept_bind ?_ (blames_pure _))
  refine blames_skipLayout_bind (blames_accept_bind (blames_pure _) ?_)
  exact (series_blames (fun _ => assignment_blames) _ _).bind_any
    (advances_series _ _ _ _).leavesEnd fun _ => blames_pure _

theorem entity_blames (before : List String) : Blames text Anywhere (entity before) :=
  name_blames.bind_any advances_name.leavesEnd fun _ =>
    attributes_blames.bind_any leavesEnd_attributes fun _ => blames_pure _

theorem atEntity_blames : Blames text Here atEntity := by
  intro s fault inside here failed
  unfold atEntity at failed
  dsimp only at failed
  split at failed
  · cases failed
  · split at failed
    · cases failed
    · rename_i n r read
      have blames : Blames text Anywhere skipLayout := skipLayout_blames
      exact blames r fault ((advances_name s n r read).1.trans inside) trivial
        (Except.map_eq_error_iff.1 failed)

/-- Looking ahead leaves the place as it is. -/
theorem leavesEnd_atEntity : LeavesEnd atEntity := by
  intro s found r read
  exact atEntity_leaves read ▸ List.suffix_refl _

theorem leavesEnd_entitiesPart (before : List String) : LeavesEnd (entitiesPart before) := by
  refine leavesEnd_atEntity.bind fun found => ?_
  split
  · exact (advances_series _ _ _ _).leavesEnd.bind fun _ =>
      LeavesEnd.bind leavesEnd_comments fun _ => leavesEnd_pure _
  · exact leavesEnd_pure _

theorem entitiesPart_blames (before : List String) : Blames text Here (entitiesPart before) := by
  refine atEntity_blames.bind_any leavesEnd_atEntity fun found => ?_
  split
  · exact (series_blames entity_blames _ _).bind_any (advances_series _ _ _ _).leavesEnd fun _ =>
      blames_comments_bind fun _ => blames_pure _
  · exact blames_pure _

/-! ## Arcs and rows -/

section

variable {inner : Option Body} {limit : Int}
  (inside : ∀ body ∈ inner, Blames text Anywhere body.read)

include inside

theorem block_blames (kind : BoxKind ⊕ InlineKind) (source : String) (before : List String) :
    Blames text Here (block limit inner kind source before) := by
  refine name_blames.bind_any advances_name.leavesEnd fun target =>
    attributes_blames.bind_any leavesEnd_attributes fun attrs => ?_
  cases kind with
  | inl kind => exact blames_pure _
  | inr kind =>
    cases inner with
    | none => exact blames_fail_other rfl
    | some body =>
      exact (expect_blames _).bind_any (leavesEnd_expect _) fun _ =>
        (inside body rfl).bind_any body.leavesEnd fun _ =>
          (expect_blames _).bind_any (leavesEnd_expect _) fun _ => blames_pure _

theorem arcFrom_blames {place : List Char} (behind : place <:+ text) (source : String)
    (before : List String) : Blames text Here (arcFrom limit inner place source before) := by
  refine blames_skipLayout_bind (blames_acceptAny_bind (fun kind => ?_) ?_)
  · exact endpoint_blames.bind_any advances_endpoint.leavesEnd fun _ =>
      attributes_blames.bind_any leavesEnd_attributes fun _ => blames_pure _
  · refine blames_keyword_bind (fun kind => ?_) (blames_fail _)
    dsimp only
    split
    · exact blames_failAt behind rfl
    · exact block_blames inside kind source before

theorem arc_blames (before : List String) : Blames text Here (arc limit inner before) := by
  refine blames_skipLayout_bind (blames_acceptAny_bind (fun kind => ?_) ?_)
  · exact attributes_blames.bind_any leavesEnd_attributes fun _ => blames_pure _
  · exact blames_get_bind fun place behind =>
      endpoint_blames.bind_any advances_endpoint.leavesEnd fun source =>
        arcFrom_blames inside behind source before

theorem rowAndNext_blames (before : List String) :
    Blames text Anywhere (rowAndNext limit inner before) :=
  (series_blames (arc_blames inside) _ _).bind_any (advances_series _ _ _ _).leavesEnd fun _ =>
    blames_comments_bind fun _ => blames_get_bind fun _ _ => blames_pure _

theorem rows_blames (before : List String) : Blames text Here (rows limit inner before) := by
  refine blames_get_bind fun rest _ => ?_
  split
  · exact blames_pure _
  · exact (Blames.chain (rowAndNext_blames inside) before).at

end

theorem inside_blames (limit : Int) (levels : Nat) :
    ∀ body ∈ inside limit levels, Blames text Anywhere body.read := by
  induction levels with
  | zero =>
    rintro body ⟨⟩
  | succ levels step =>
    rintro body ⟨⟩
    exact blames_comments_bind fun before => rows_blames step before

/-! ## Charts -/

theorem leavesEnd_entitiesAndRows (limit : Int) (before : List String) :
    LeavesEnd (entitiesAndRows limit before) :=
  (leavesEnd_entitiesPart before).bind fun _ => (leavesEnd_rows _ _ _).bind fun _ =>
    leavesEnd_pure _

theorem entitiesAndRows_blames (limit : Int) (before : List String) :
    Blames text Here (entitiesAndRows limit before) :=
  (entitiesPart_blames before).bind_any (leavesEnd_entitiesPart before) fun found =>
    (rows_blames (inside_blames limit limit.toNat) found.2).bind_any (leavesEnd_rows _ _ _)
      fun _ => blames_pure _

theorem leavesEnd_content (limit : Int) (before : List String) : LeavesEnd (content limit before) :=
  (leavesEnd_optionsPart before).bind fun found =>
    (leavesEnd_entitiesAndRows limit found.2).bind fun _ => leavesEnd_pure _

theorem content_blames (limit : Int) (before : List String) :
    Blames text Here (content limit before) :=
  (optionsPart_blames before).bind_any (leavesEnd_optionsPart before) fun found =>
    (entitiesAndRows_blames limit found.2).bind_any (leavesEnd_entitiesAndRows limit found.2)
      fun _ => blames_pure _

theorem chart_blames (limit : Int) : Blames text Here (chart limit) := by
  refine blames_comments_bind fun head => blames_keyword_bind (fun _ => ?_) (blames_fail _)
  refine (expect_blames _).bind_any (leavesEnd_expect _) fun _ =>
    blames_comments_bind fun before => ?_
  refine (content_blames limit before).bind_any (leavesEnd_content limit before) fun content =>
    (expect_blames _).bind_any (leavesEnd_expect _) fun _ =>
      blames_skipLayout_bind (blames_get_bind fun rest _ => ?_)
  split
  · exact blames_pure _
  · exact blames_fail _

end Reader

end SeqChart
