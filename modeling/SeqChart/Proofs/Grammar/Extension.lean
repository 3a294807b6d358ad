import SeqChart.Proofs.Grammar.Exchange
/-!
Texts that go on. What a rule makes of a text up to some place it also makes of the text with more
behind it, as long as a closing brace is left at that place: no word, operator or string runs past
it, and no line comment either. Main statement, `Braced.append`: a chart up to its closing brace is
the same chart, whatever follows.
-/

namespace SeqChart.Grammar

/-! ## Braces to come -/

/-- A closing brace is still to come. -/
def Pending (s : List Char) : Prop := '\x7d' ∈ s

theorem Pending.ne_nil {s : List Char} (left : Pending s) : s ≠ [] := List.ne_nil_of_mem left

theorem Pending.append {s : List Char} (left : Pending s) (front : List Char) :
    Pending (front ++ s) := List.mem_append_right front left

theorem Pending.cons {s : List Char} (left : Pending s) (c : Char) : Pending (c :: s) :=
  left.append [c]

theorem pending_brace (s : List Char) : Pending ('\x7d' :: s) := List.mem_cons_self

/-- The rule says of a longer text what it says of a text that leaves a closing brace. -/
def Extends (R : List Char → List Char → Prop) : Prop :=
  ∀ ⦃s r⦄, R s r → Pending r → Pending s ∧ ∀ t, R (s ++ t) (r ++ t)

/-- A longer text is one with another end from its brace on. -/
theorem Extends.of_exchanges {R : List Char → List Char → Prop}
    (exchanges : ∀ {z z'}, Exchange z z' → Exchanges z z' R) : Extends R := by
  intro s r holds left
  obtain ⟨y, q, rfl⟩ := List.append_of_mem left
  obtain ⟨x, rfl, -⟩ := exchanges (.brace q q) holds
  refine ⟨(pending_brace q).append x, fun t => ?_⟩
  obtain ⟨x', same, holds'⟩ := exchanges (.brace q (q ++ t)) holds
  obtain rfl := List.append_cancel_right same
  simpa using holds'

/-! ## Rules -/

/-- Layout with anything behind it stays layout. -/
theorem Layout.append_right {s r : List Char} {comments : List String}
    (layout : Layout s comments r)
    (more : r ≠ []) (t : List Char) : Layout (s ++ t) comments (r ++ t) := by
  have ends : EndsLine r → EndsLine (r ++ t) := fun ends => by
    rwa [EndsLine, List.head?_append_of_ne_nil r more]
  obtain ⟨x, rfl, layout'⟩ := layout_exchanges' (y := []) ends comments layout
  rwa [List.append_assoc]

theorem layout_extends (comments : List String) : Extends (Layout · comments ·) :=
  .of_exchanges fun exchange => layout_exchanges exchange comments

theorem gap_extends : Extends Gap := .of_exchanges gap_exchanges

theorem word_extends (w : List Char) : Extends (Word · w ·) :=
  .of_exchanges fun exchange => word_exchanges exchange w

theorem keyword_extends (token : String) : Extends (Keyword token) :=
  .of_exchanges fun exchange => keyword_exchanges exchange token

theorem body_extends (levels : Nat) (before : List String)
    (content : Content String String (Options String Bool String)) :
    Extends (Body levels before · content ·) :=
  .of_exchanges fun exchange => body_exchanges exchange levels before content

/-- The closing brace of a chart closes it, whatever follows. -/
theorem Braced.append {levels : Nat} {source r : List Char} {c : Chart}
    (braced : Braced levels source c r) (t : List Char) :
    Braced levels (source ++ t) c (r ++ t) := by
  obtain ⟨layout, keyword, opened, layout', body, closed⟩ := braced
  obtain ⟨left, closed⟩ := gap_extends closed (pending_brace _)
  obtain ⟨left, body⟩ := body_extends _ _ _ body left
  obtain ⟨left, layout'⟩ := layout_extends _ layout' left
  obtain ⟨left, opened⟩ := gap_extends opened (left.cons _)
  obtain ⟨left, keyword⟩ := keyword_extends _ keyword left
  obtain ⟨-, layout⟩ := layout_extends _ layout left
  exact .mk (layout t) (keyword t) (opened t) (layout' t) (body t) (closed t)

end SeqChart.Grammar
