import SeqChart.Proofs.Chart.Proper
import SeqChart.Proofs.Reading.Lexis
import SeqChart.Proofs.Grammar.Syntax
import SeqChart.Proofs.Text.Trim
/-!
What a text can mean. Main statement, `Program.proper`: a chart that the grammar has a text for is
proper, and its blocks nest no deeper than allowed.
-/

namespace SeqChart

open Grammar

/-! ## Texts -/

theorem EscapeComplete.of_plain {s : List Char} (plain : ∀ c ∈ s, c ≠ '\\') : EscapeComplete s := by
  induction s with
  | nil => exact .nil
  | cons c s step =>
    exact .plain (plain c (by simp)) (step fun d member => plain d (List.mem_cons_of_mem _ member))

namespace Grammar

theorem QuotedRest.escapeComplete {s v r : List Char} (rest : QuotedRest s v r) :
    EscapeComplete v := by
  induction rest with
  | close => exact .nil
  | quote _ step => exact .plain (by decide) step
  | pair notQuote _ step => exact .pair notQuote step
  | plain _ notBackslash _ step => exact .plain notBackslash step

theorem Word.escapeComplete {s w r : List Char} (word : Word s w r) : EscapeComplete w := by
  refine EscapeComplete.of_plain fun c member => ?_
  rintro rfl
  exact absurd (word.letters _ member) (by decide)

theorem Decimal.escapeComplete {v : List Char} (decimal : Decimal v) : EscapeComplete v := by
  obtain ⟨whole, places, rfl, -, digits⟩ := decimal
  refine EscapeComplete.of_plain fun c member => ?_
  rintro rfl
  have member : '\\' ∈ whole ++ places := by simpa using member
  exact absurd (digits _ member) (by decide)

theorem Numeral.escapeComplete {v : List Char} (numeral : Numeral v) : EscapeComplete v := by
  rcases numeral with decimal | ⟨-, digits⟩
  · exact decimal.escapeComplete
  · refine EscapeComplete.of_plain fun c member => ?_
    rintro rfl
    exact absurd (digits _ member) (by decide)

theorem Name.proper {s r : List Char} {n : String} (named : Name s n r) : ProperName n := by
  cases named with
  | bare word _ =>
    refine ⟨fun empty => word.nonempty ?_, by simpa using word.escapeComplete⟩
    simpa using congrArg String.toList empty
  | quoted quoted nonempty =>
    obtain ⟨_, _, rest⟩ := quoted
    refine ⟨fun empty => nonempty ?_, by simpa using rest.escapeComplete⟩
    simpa using congrArg String.toList empty

theorem End.proper {s r : List Char} {n : String} (ended : End s n r) : ProperName n := by
  cases ended with
  | all => exact ⟨by decide, .plain (by decide) .nil⟩
  | name named => exact named.proper

theorem Value.escapeComplete {s r : List Char} {v : String} (value : Value s v r) :
    EscapeComplete v.toList := by
  cases value with
  | quoted quoted =>
    obtain ⟨_, _, rest⟩ := quoted
    simpa using rest.escapeComplete
  | fraction fraction => simpa using fraction.decimal.escapeComplete
  | word word _ => simpa using word.escapeComplete

end Grammar

/-! ## Comments -/

namespace Grammar

theorem LineComment.trimRight {text : List Char} (inLine : LineComment text) :
    LineComment (Text.trimRight text) := by
  refine ⟨?_, fun c member => ?_⟩
  · rcases inLine.marked with hash | slashes
    · exact .inl (Text.prefix_trimRight (by rintro c ⟨⟩; decide) hash)
    · exact .inr (Text.prefix_trimRight (by rintro c ⟨⟩; decide) slashes)
  · exact inLine.inLine c ((Text.prefix_of_trimRight text).subset member)

theorem Layout.proper {s r : List Char} {comments : List String} (layout : Layout s comments r) :
    ProperComments comments := by
  induction layout with
  | done => exact List.forall_mem_nil _
  | blank _ _ step => exact step
  | @block text _ _ _ closed _ step =>
    exact List.forall_mem_cons.2 ⟨.inl (by simpa using closed), step⟩
  | @line text _ _ _ inLine _ _ step =>
    refine List.forall_mem_cons.2 ⟨.inr ?_, step⟩
    rw [String.toList_ofList]
    exact ⟨inLine.trimRight, Text.trimRight_last text⟩

/-! ## Items -/

theorem Assignment.proper {s r : List Char} {pair : String × String} (item : Assignment s pair r) :
    pair.1 ∈ attributeNames ∧ EscapeComplete pair.2.toList := by
  obtain ⟨-, known, -, -, value⟩ := item
  exact ⟨List.mem_of_find?_eq_some known, value.escapeComplete⟩

theorem assignments_proper {before : List String} {s r : List Char} {pairs : List (String × String)}
    (list : ListOf (fun _ => Assignment) before s pairs r) :
    ∀ pair ∈ pairs, pair.1 ∈ attributeNames ∧ EscapeComplete pair.2.toList := by
  induction list with
  | one item => exact List.forall_mem_singleton.2 item.proper
  | more item _ _ _ step => exact List.forall_mem_cons.2 ⟨item.proper, step⟩

theorem Attributes.proper {s r : List Char} {attrs : Mapping String String}
    (stands : Attributes s attrs r) : ProperAttrs attrs := by
  intro key value found
  cases stands with
  | absent => cases found
  | empty => cases found
  | some _ _ list _ => exact assignments_proper list _ (Mapping.mem_of_get?_ofList found)

theorem OptionItem.proper {s r : List Char} {x : Setting String Bool} (item : OptionItem s x r)
    {options : Options String Bool String} (proper : options.Proper) : (options.set x).Proper := by
  obtain ⟨-, -, -, value, legal⟩ := item
  obtain ⟨hscale, width, arcgradient, watermark, extra⟩ := proper
  cases legal with
  | @number option value numeric numeral =>
    cases option with
    | hscale => exact ⟨by rintro v ⟨⟩; exact numeral, width, arcgradient, watermark, extra⟩
    | width => exact ⟨hscale, by rintro v ⟨⟩; exact .inr numeral, arcgradient, watermark, extra⟩
    | arcgradient => exact ⟨hscale, width, by rintro v ⟨⟩; exact numeral, watermark, extra⟩
    | watermark => cases numeric
  | auto => exact ⟨hscale, by rintro v ⟨⟩; exact .inl rfl, arcgradient, watermark, extra⟩
  | watermark =>
    exact ⟨hscale, width, arcgradient, by rintro v ⟨⟩; exact value.escapeComplete, extra⟩
  | @on option => cases option <;> exact ⟨hscale, width, arcgradient, watermark, extra⟩
  | @off option => cases option <;> exact ⟨hscale, width, arcgradient, watermark, extra⟩

theorem settings_proper {before : List String} {s r : List Char}
    {settings : List (Setting String Bool)}
    (list : ListOf (fun _ => OptionItem) before s settings r)
    {options : Options String Bool String} (proper : options.Proper) :
    (settings.foldl Options.set options).Proper := by
  induction list generalizing options with
  | one item => exact item.proper proper
  | more item _ _ _ step => exact step (item.proper proper)

theorem OptionsPart.proper {before next : List String} {s r : List Char}
    {options : Options String Bool String} (part : OptionsPart before s options next r) :
    options.Proper := by
  have unset : Options.Proper {} := by
    refine ⟨?_, ?_, ?_, ?_, rfl⟩ <;> (intro value set; cases set)
  cases part with
  | absent => exact unset
  | present list _ _ => exact settings_proper list unset

theorem EntityItem.proper {before : List String} {s r : List Char} {e : Entity String String}
    (comments : ProperComments before) (item : EntityItem before s e r) : e.Proper := by
  obtain ⟨named, stands⟩ := item
  exact ⟨named.proper, stands.proper, comments⟩

theorem EntitiesPart.proper {before next : List String} {s r : List Char}
    {es : List (Entity String String)} (comments : ProperComments before)
    (part : EntitiesPart before s es next r) : ∀ e ∈ es, e.Proper := by
  cases part with
  | absent => exact List.forall_mem_nil _
  | present list closed _ =>
    clear closed
    induction list with
    | one item => exact List.forall_mem_singleton.2 (item.proper comments)
    | more item _ layout _ step =>
      exact List.forall_mem_cons.2 ⟨item.proper comments, step layout.proper⟩

theorem OptionsPart.comments {before next : List String} {s r : List Char}
    {options : Options String Bool String} (comments : ProperComments before)
    (part : OptionsPart before s options next r) : ProperComments next := by
  cases part with
  | absent => exact comments
  | present _ _ layout => exact layout.proper

theorem EntitiesPart.comments {before next : List String} {s r : List Char}
    {es : List (Entity String String)} (comments : ProperComments before)
    (part : EntitiesPart before s es next r) : ProperComments next := by
  cases part with
  | absent => exact comments
  | present _ _ layout => exact layout.proper

/-! ## Arcs and rows -/

section

variable {Block : List Char → Rows String String → List Char → Prop} {levels : Nat}

theorem ArcItem.proper
    (blocks : ∀ {s rows r}, Block s rows r → Arc.ProperRows rows ∧ Arc.nestingOfRows rows < levels)
    {before : List String} {s r : List Char} {a : Arc String String}
    (comments : ProperComments before) (item : ArcItem Block before s a r) :
    a.Proper ∧ a.nesting ≤ levels := by
  cases item with
  | empty stands => exact ⟨⟨stands.proper, comments⟩, Nat.zero_le _⟩
  | message source _ _ _ target stands =>
    exact ⟨⟨source.proper, target.proper, stands.proper, comments⟩, Nat.zero_le _⟩
  | box source other _ _ _ target stands =>
    exact ⟨⟨other, source.proper, target.proper, stands.proper, comments⟩, Nat.zero_le _⟩
  | inline source other _ _ _ target stands _ inside _ =>
    obtain ⟨rows, less⟩ := blocks inside
    exact ⟨⟨other, source.proper, target.proper, stands.proper, comments, rows⟩, less⟩

theorem row_proper
    (blocks : ∀ {s rows r}, Block s rows r → Arc.ProperRows rows ∧ Arc.nestingOfRows rows < levels)
    {before : List String} {s r : List Char} {row : List (Arc String String)}
    (comments : ProperComments before) (list : ListOf (ArcItem Block) before s row r) :
    row ≠ [] ∧ Arc.ProperRow row ∧ Arc.nestingOfRow row ≤ levels := by
  induction list with
  | one item =>
    obtain ⟨proper, less⟩ := item.proper blocks comments
    exact ⟨by simp, ⟨proper, trivial⟩, by simpa [Arc.nestingOfRow] using less⟩
  | more item _ layout _ step =>
    obtain ⟨proper, less⟩ := item.proper blocks comments
    obtain ⟨-, rest, less'⟩ := step layout.proper
    exact ⟨by simp, ⟨proper, rest⟩, Nat.max_le.2 ⟨less, less'⟩⟩

theorem RowList.proper
    (blocks : ∀ {s rows r}, Block s rows r → Arc.ProperRows rows ∧ Arc.nestingOfRows rows < levels)
    {before : List String} {s r : List Char} {rows : Rows String String}
    (comments : ProperComments before) (list : RowList Block before s rows r) :
    Arc.ProperRows rows ∧ Arc.nestingOfRows rows ≤ levels := by
  induction list with
  | nil => exact ⟨trivial, Nat.zero_le _⟩
  | closed row _ layout _ step =>
    obtain ⟨nonempty, proper, less⟩ := row_proper blocks comments row
    obtain ⟨rest, less'⟩ := step layout.proper
    exact ⟨⟨nonempty, proper, rest⟩, Nat.max_le.2 ⟨less, less'⟩⟩
  | unclosed row _ _ _ step =>
    obtain ⟨nonempty, proper, less⟩ := row_proper blocks comments row
    -- Without a semicolon no comments are left for the next row.
    obtain ⟨rest, less'⟩ := step (List.forall_mem_nil _)
    exact ⟨⟨nonempty, proper, rest⟩, Nat.max_le.2 ⟨less, less'⟩⟩

end

theorem Block.proper {levels : Nat} {s r : List Char} {rows : Rows String String}
    (inside : Block levels s rows r) :
    Arc.ProperRows rows ∧ Arc.nestingOfRows rows < levels := by
  induction levels generalizing s rows r with
  | zero => exact inside.elim
  | succ levels step =>
    obtain ⟨comments, t, layout, list⟩ := inside
    obtain ⟨proper, less⟩ := list.proper step layout.proper
    exact ⟨proper, Nat.lt_succ_of_le less⟩

/-- A text means proper charts only, and their blocks nest no deeper than allowed. -/
theorem Program.proper {levels : Nat} {source : List Char} {c : Chart}
    (program : Program levels source c) : c.Proper ∧ c.nesting ≤ levels := by
  obtain ⟨layout, -, -, layout', body, -, -⟩ := program
  obtain ⟨options, entities, list⟩ := body
  have between := options.comments layout'.proper
  obtain ⟨rows, less⟩ := list.proper Block.proper (entities.comments between)
  exact ⟨⟨options.proper, entities.proper between, rows, layout.proper⟩, less⟩

end Grammar

end SeqChart
