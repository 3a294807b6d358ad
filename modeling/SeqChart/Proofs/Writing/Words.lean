import SeqChart.Proofs.Chart.Proper
import SeqChart.Proofs.Reading.Lexis
import SeqChart.Proofs.Text.Trim
import SeqChart.Writer.Text
/-!
What is written for names, strings and comments, and what these words mean.
-/

namespace SeqChart

open Grammar

namespace Writer

/-! ## Strings and names -/

theorem quotedRest_quote {v r : List Char} (complete : EscapeComplete v) :
    QuotedRest (v.flatMap (fun c => if c = '"' then ['\\', '"'] else [c]) ++ '"' :: r) v r := by
  induction complete with
  | nil => exact .close
  | @plain c s notBackslash _ step =>
    rw [List.flatMap_cons]
    split
    · rename_i isQuote
      exact isQuote ▸ .quote step
    · rename_i notQuote
      exact .plain notQuote notBackslash step
  | pair notQuote _ step =>
    rw [List.flatMap_cons, List.flatMap_cons, if_neg (by decide), if_neg notQuote]
    exact .pair notQuote step

/-- A text reads back from between quotes when it is escape-complete. -/
theorem quoted_quote {v r : List Char} (complete : EscapeComplete v) :
    Quoted (quote v ++ r) v r := by
  refine ⟨_, ?_, quotedRest_quote complete⟩
  rw [quote, List.append_assoc, List.cons_append]
  rfl

theorem value_quote {v : String} {r : List Char} (complete : EscapeComplete v.toList) :
    Value (quote v.toList ++ r) v r := by
  simpa using Value.quoted (quoted_quote (r := r) complete)

theorem word_of_bareName {name : String} {r : List Char} (bare : isBareName name = true)
    (ends : EndsWord r) : Word (name.toList ++ r) name.toList r := by
  simp only [isBareName, Bool.and_eq_true, Bool.not_eq_true', List.all_eq_true] at bare
  refine ⟨rfl, fun empty => ?_, bare.1.2, ends⟩
  have : name = "" := by simpa using empty
  simp [this] at bare

theorem name_nameText {name : String} {r : List Char} (proper : ProperName name)
    (ends : EndsWord r) : Name (nameText name ++ r) name r := by
  rw [nameText]
  split
  · rename_i bare
    have free : Text.lowerText (String.ofList name.toList) ∉ reservedWords := by
      simp only [isBareName, Bool.and_eq_true, Bool.not_eq_true', quotedWords] at bare
      intro reserved
      have := bare.2
      simp_all
    simpa using Name.bare (word_of_bareName bare ends) free
  · have nonempty : name.toList ≠ [] := fun empty => proper.1 (by simpa using empty)
    simpa using Name.quoted (quoted_quote (r := r) proper.2) nonempty

theorem end_endText {name : String} {r : List Char} (proper : ProperName name)
    (ends : EndsWord r) : End (endText name ++ r) name r := by
  rw [endText]
  split
  · rename_i star
    subst star
    exact .all
  · exact .name (name_nameText proper ends)

/-! ## Layout and comments -/

theorem blank_space (style : Style) : ∀ c ∈ space style, Text.isBlank c = true := by
  rw [space]
  split
  · exact List.forall_mem_nil _
  · exact List.forall_mem_singleton.2 (by decide)

theorem blank_lineEnd (style : Style) : ∀ c ∈ lineEnd style, Text.isBlank c = true := by
  rw [lineEnd]
  split
  · exact List.forall_mem_nil _
  · exact List.forall_mem_singleton.2 (by decide)

theorem blank_margin (style : Style) (level : Nat) :
    ∀ c ∈ margin style level, Text.isBlank c = true := by
  rw [margin]
  split
  · exact List.forall_mem_nil _
  · intro c member
    rw [List.eq_of_mem_replicate member]
    decide

theorem layout_comment {comment : String} {comments : List String} {s r : List Char}
    (proper : ProperComment comment.toList) (layout : Layout s comments r) :
    Layout (comment.toList ++ '\n' :: s) (comment :: comments) r := by
  have layout : Layout ('\n' :: s) comments r := .blank (by decide) layout
  rcases proper with closed | ⟨inLine, stays⟩
  · simpa using Layout.block closed layout
  · have whole := Layout.line inLine (by rintro c ⟨⟩; exact .inr rfl) layout
    simpa [Text.trimRight_eq_self stays] using whole

theorem blockComment_of_start {comment : List Char} (proper : ProperComment comment)
    (starts : isBlockComment comment = true) : BlockComment comment := by
  rcases proper with closed | ⟨inLine, -⟩
  · exact closed
  · obtain ⟨rest, rfl | rfl⟩ := inLine.starts <;> simp [isBlockComment] at starts

theorem commentsText_cons (style : Style) (level : Nat) (comment : String) (rest : List String) :
    commentsText style level (comment :: rest) =
      (if style.minify && isBlockComment comment.toList then comment.toList
        else margin style level ++ comment.toList ++ ['\n']) ++ commentsText style level rest := rfl

/-- Comments that are written before an item are read before it. -/
theorem layout_commentsText (style : Style) (level : Nat) {comments : List String}
    (proper : ProperComments comments) {s r : List Char} {more : List String}
    (layout : Layout s more r) :
    Layout (commentsText style level comments ++ s) (comments ++ more) r := by
  induction comments with
  | nil => exact layout
  | cons comment rest step =>
    obtain ⟨first, properRest⟩ := List.forall_mem_cons.1 proper
    have behind := step properRest
    rw [commentsText_cons, List.append_assoc]
    split
    · rename_i tight
      have closed := blockComment_of_start first (Bool.and_eq_true_iff.1 tight).2
      simpa using Layout.block closed behind
    · rw [List.append_assoc, List.append_assoc]
      exact Layout.of_blanks (blank_margin style level) (layout_comment first behind)

end Writer

end SeqChart
