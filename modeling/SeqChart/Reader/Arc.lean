import SeqChart.Reader.Entity
/-!
Arcs, rows and the blocks of inline expressions.

Blocks are read level by level: the reader of a level is built from the reader of the level inside
it, and where no level is left, a block is refused.
-/

namespace SeqChart.Reader

/-- A reader of rows, for use inside an arc. -/
structure Body where
  read : Reader (Rows String String)
  leavesEnd : LeavesEnd read

def blockKinds : List (BoxKind ⊕ InlineKind) := BoxKind.all.map .inl ++ InlineKind.all.map .inr

/-- The rest of a box or an inline expression after its keyword. -/
def block (limit : Int) (inner : Option Body) (kind : BoxKind ⊕ InlineKind) (source : String)
    (before : List String) : Reader (Arc String String) := do
  let target ← name
  let attrs ← attributes
  match kind, inner with
  | .inl kind, _ => return .box kind source target attrs before
  | .inr _, none => fail (.tooDeep limit)
  | .inr kind, some body =>
    expect "\x7b"
    let rows ← body.read
    expect "\x7d"
    return .inline kind source target rows attrs before

/-- The rest of an arc after its first end, which was read at `place`. -/
def arcFrom (limit : Int) (inner : Option Body) (place : List Char) (source : String)
    (before : List String) : Reader (Arc String String) := do
  skipLayout
  match ← acceptAny ArcKind.token ArcKind.longestFirst with
  | some kind =>
    let target ← endpoint
    let attrs ← attributes
    return .message kind source target attrs before
  | none =>
    match ← keyword? (Sum.elim BoxKind.token InlineKind.token) blockKinds with
    | none => fail (.expected .arcHead)
    | some kind =>
      if source = broadcast then failAt place .misplacedBroadcast
      else block limit inner kind source before

/-- An arc; `before` holds its comments. -/
def arc (limit : Int) (inner : Option Body) (before : List String) :
    Reader (Arc String String) := do
  skipLayout
  match ← acceptAny EmptyKind.token EmptyKind.all with
  | some kind =>
    let attrs ← attributes
    return .empty kind attrs before
  | none =>
    let place ← get
    let source ← endpoint
    arcFrom limit inner place source before

theorem leavesEnd_block (limit : Int) (inner : Option Body) (kind : BoxKind ⊕ InlineKind)
    (source : String) (before : List String) :
    LeavesEnd (block limit inner kind source before) := by
  refine advances_name.leavesEnd.bind fun target => leavesEnd_attributes.bind fun attrs => ?_
  rcases kind with kind | kind
  · exact leavesEnd_pure _
  · cases inner with
    | none => exact (advances_fail _).leavesEnd
    | some body =>
      exact (leavesEnd_expect _).bind fun _ => body.leavesEnd.bind fun _ =>
        (leavesEnd_expect _).bind fun _ => leavesEnd_pure _

theorem leavesEnd_arcFrom (limit : Int) (inner : Option Body) (place : List Char) (source : String)
    (before : List String) : LeavesEnd (arcFrom limit inner place source before) := by
  refine leavesEnd_skipLayout.bind fun _ => (leavesEnd_acceptAny _ _).bind fun operator => ?_
  cases operator with
  | some kind =>
    exact advances_endpoint.leavesEnd.bind fun _ => leavesEnd_attributes.bind fun _ =>
      leavesEnd_pure _
  | none =>
    refine (leavesEnd_keyword? _ _).bind fun keyword => ?_
    cases keyword with
    | none => exact (advances_fail _).leavesEnd
    | some kind =>
      dsimp only
      split
      · exact (advances_failAt _ _).leavesEnd
      · exact leavesEnd_block _ _ _ _ _

theorem acceptAny_advances {α : Type} {token : α → String} {choices : List α} {s r : List Char}
    {a : α} (nonempty : ∀ a ∈ choices, (token a).toList ≠ [])
    (read : acceptAny token choices s = .ok (some a, r)) : r <:+ s ∧ r.length < s.length := by
  induction choices with
  | nil => exact nomatch read
  | cons b rest step =>
    rw [acceptAny, bind_apply] at read
    unfold accept at read
    cases follows : after? (token b).toList s with
    | none =>
      simp only [follows] at read
      exact step (fun a member => nonempty a (List.mem_cons_of_mem _ member)) read
    | some t =>
      simp only [follows] at read
      obtain ⟨-, rfl⟩ := Prod.mk.inj (Except.ok.inj read)
      have splits := suffix_of_after? follows
      have := List.length_pos_iff.2 (nonempty b (by simp))
      exact ⟨⟨_, splits.symm⟩, by rw [splits, List.length_append]; omega⟩

theorem advances_arc (limit : Int) (inner : Option Body) (before : List String) :
    Advances (arc limit inner before) := by
  refine leavesEnd_skipLayout.bind_advances fun _ s a t read => ?_
  rw [bind_apply] at read
  split at read
  · simp at read
  · rename_i kind r read'
    cases kind with
    | some kind =>
      obtain ⟨ends, less⟩ := acceptAny_advances (by decide) read'
      have ends' := leavesEnd_attributes.bind (fun attrs => leavesEnd_pure _) r a t read
      exact ⟨ends'.trans ends, Nat.lt_of_le_of_lt ends'.length_le less⟩
    | none =>
      have ends := leavesEnd_acceptAny _ _ _ _ _ read'
      obtain ⟨ends', less⟩ := leavesEnd_get.bind_advances (fun place =>
        advances_endpoint.bind fun source => leavesEnd_arcFrom limit inner place source before)
        r a t read
      exact ⟨ends'.trans ends, Nat.lt_of_lt_of_le less ends.length_le⟩

/-- Arcs side by side, up to a semicolon, which may be missing after an inline expression. -/
def row (limit : Int) (inner : Option Body) (before : List String) :
    Reader (List (Arc String String)) :=
  series (arc limit inner) (advances_arc limit inner) ';' Arc.isInline before

/-- Whether no row stands here. -/
def atEnd (s : List Char) : Bool := s.head?.all (· == '\x7d')

/-- A row, and the comments before the next one if there is one. -/
def rowAndNext (limit : Int) (inner : Option Body) (before : List String) :
    Reader (List (Arc String String) × Option (List String)) := do
  let arcs ← row limit inner before
  let next ← comments
  let rest ← get
  return (arcs, if atEnd rest then none else some next)

theorem advances_rowAndNext (limit : Int) (inner : Option Body) (before : List String) :
    Advances (rowAndNext limit inner before) :=
  (advances_series _ _ _ _).bind fun _ => LeavesEnd.bind leavesEnd_comments fun _ =>
    leavesEnd_get.bind fun _ => leavesEnd_pure _

/-- Rows up to a closing brace or the end; `before` holds the comments of the first. -/
def rows (limit : Int) (inner : Option Body) (before : List String) :
    Reader (Rows String String) := do
  if atEnd (← get) then return []
  chain (rowAndNext limit inner) (advances_rowAndNext limit inner) before

theorem leavesEnd_rows (limit : Int) (inner : Option Body) (before : List String) :
    LeavesEnd (rows limit inner before) := by
  refine leavesEnd_get.bind fun rest => ?_
  split
  · exact leavesEnd_pure _
  · exact (advances_chain _ _ _).leavesEnd

/-- What a block is read with where `levels` more may be nested; nothing where none may. -/
def inside (limit : Int) : Nat → Option Body
  | 0 => none
  | levels + 1 => some {
      read := do
        let before ← comments
        rows limit (inside limit levels) before
      leavesEnd := LeavesEnd.bind leavesEnd_comments fun _ => leavesEnd_rows limit _ _ }

end SeqChart.Reader
