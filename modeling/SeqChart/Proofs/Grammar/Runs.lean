import SeqChart.Proofs.Reading.Lexis
/-!
Texts cut into tokens and the runs of layout between them. Main statement, `Runs.unique`: a text is
cut in one way only.
-/

namespace SeqChart.Grammar

/-- A run of layout: the last character of the token before it, its comments, and the text behind
it. -/
structure Run where
  before : Char
  comments : List String
  rest : List Char

/-- A token stands here that ends with the character. A quoted string is one token and so is every
other character; a longer word is many of them, with empty runs between. -/
inductive Token : List Char → Char → List Char → Prop
  | quoted {s v r : List Char} : Quoted s v r → Token s '"' r
  | plain {c : Char} {r : List Char} : c ≠ '"' → Token (c :: r) c r

/-- Runs and tokens by turns, behind a token that ends with the first character, up to one that ends
with the second. -/
inductive Passes : Char → List Char → List Run → Char → List Char → Prop
  | done {c : Char} {s : List Char} : Passes c s [] c s
  | step {c d e : Char} {s t u r : List Char} {comments : List String} {runs : List Run} :
      Layout s comments t → Solid t → Token t d u → Passes d u runs e r →
      Passes c s (⟨c, comments, t⟩ :: runs) e r

/-- The runs of a text: the comments before its first token, and the runs behind its tokens. -/
inductive Runs : List Char → List String → List Run → Prop
  | mk {source s t r : List Char} {head last : List String} {c d : Char} {runs : List Run} :
      Layout source head s → Solid s → Token s c t → Passes c t runs d r → Layout r last [] →
      Runs source head (runs ++ [⟨d, last, []⟩])

/-! ## A text has its runs in one way only -/

theorem Layout.unique {s t t' : List Char} {comments comments' : List String}
    (layout : Layout s comments t) (solid : Solid t) (layout' : Layout s comments' t')
    (solid' : Solid t') : comments = comments' ∧ t = t' := by
  have read := Reader.comments_eq_ok_iff.2 ⟨layout, solid⟩
  have read' := Reader.comments_eq_ok_iff.2 ⟨layout', solid'⟩
  exact Prod.mk.inj (Except.ok.inj (read.symm.trans read'))

theorem Token.unique {s r r' : List Char} {c c' : Char} (token : Token s c r)
    (token' : Token s c' r') : c = c' ∧ r = r' := by
  cases token with
  | quoted quoted =>
    cases token' with
    | quoted quoted' =>
      have read := (Reader.quoted?_of_quoted quoted).symm.trans (Reader.quoted?_of_quoted quoted')
      exact ⟨rfl, (Prod.mk.inj (Except.ok.inj read)).2⟩
    | plain other =>
      obtain ⟨inside, same, -⟩ := quoted
      exact absurd (List.cons.inj same).1 other
  | plain other =>
    cases token' with
    | quoted quoted' =>
      obtain ⟨inside, same, -⟩ := quoted'
      exact absurd (List.cons.inj same).1 other
    | plain => exact ⟨rfl, rfl⟩

theorem Token.not_nil {c : Char} {r : List Char} : ¬ Token [] c r := by
  rintro ⟨⟨inside, same, -⟩⟩
  cases same

theorem Passes.unique {c d d' : Char} {s r r' : List Char} {runs runs' : List Run}
    {last last' : List String} (passes : Passes c s runs d r) (ends : Layout r last [])
    (passes' : Passes c s runs' d' r') (ends' : Layout r' last' []) :
    runs ++ [⟨d, last, []⟩] = runs' ++ [⟨d', last', []⟩] := by
  -- Only the layout at the end keeps one of the two from going on where the other is done.
  induction passes generalizing runs' with
  | done =>
    cases passes' with
    | done =>
      obtain ⟨rfl, -⟩ := ends.unique solid_nil ends' solid_nil
      rfl
    | step layout solid token _ =>
      obtain ⟨-, rfl⟩ := ends.unique solid_nil layout solid
      exact absurd token Token.not_nil
  | step layout solid token rest step =>
    cases passes' with
    | done =>
      obtain ⟨-, rfl⟩ := ends'.unique solid_nil layout solid
      exact absurd token Token.not_nil
    | step layout' solid' token' rest' =>
      obtain ⟨rfl, rfl⟩ := layout.unique solid layout' solid'
      obtain ⟨rfl, rfl⟩ := token.unique token'
      rw [List.cons_append, List.cons_append, step ends rest']

theorem Runs.unique {source : List Char} {head head' : List String} {runs runs' : List Run}
    (cut : Runs source head runs) (cut' : Runs source head' runs') :
    head = head' ∧ runs = runs' := by
  obtain ⟨layout, solid, token, passes, ends⟩ := cut
  obtain ⟨layout', solid', token', passes', ends'⟩ := cut'
  obtain ⟨rfl, rfl⟩ := layout.unique solid layout' solid'
  obtain ⟨rfl, rfl⟩ := token.unique token'
  exact ⟨rfl, passes.unique ends passes' ends'⟩

/-! ## Putting runs together -/

theorem Passes.trans {c d e : Char} {s t r : List Char} {runs more : List Run}
    (first : Passes c s runs d t) (second : Passes d t more e r) :
    Passes c s (runs ++ more) e r := by
  induction first with
  | done => exact second
  | step layout solid token _ step => exact .step layout solid token (step second)

end SeqChart.Grammar
