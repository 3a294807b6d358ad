import SeqChart.Proofs.Chart.Same
import SeqChart.Reader.Chart
/-!
Charts without inline expressions, and what is left of a chart in a dialect that has none.

An inline expression becomes a line that ends its row, and its rows follow it. What marks its end is
a comment to a reader, and comments belong to the arc that comes next, whatever its level. Comments
behind the last arc are lost.
-/

namespace SeqChart

/-! ## Rows by their last items -/

/-- Items in rows, where each says whether it is the last of its row. -/
def splitRows {α : Type} : List (α × Bool) → List (List α)
  | [] => []
  | (a, ends) :: rest =>
    if ends then [a] :: splitRows rest
    else match splitRows rest with
      | [] => [[a]]
      | row :: rows => (a :: row) :: rows

/-- Related items that both end their rows or both do not. -/
def Alike {α : Type} (R : α → α → Prop) (item item' : α × Bool) : Prop :=
  R item.1 item'.1 ∧ item.2 = item'.2

/-- No row is left open. -/
def EndsRows {α : Type} (items : List (α × Bool)) : Prop := ∀ item ∈ items.getLast?, item.2 = true

section

variable {α : Type} {items more : List (α × Bool)}

theorem splitRows_of_ne_nil (nonempty : items ≠ []) :
    ∃ row rows, splitRows items = row :: rows := by
  cases items with
  | nil => exact absurd rfl nonempty
  | cons item rest =>
    unfold splitRows
    split
    · exact ⟨_, _, rfl⟩
    · split <;> exact ⟨_, _, rfl⟩

theorem splitRows_forall₂ {R : α → α → Prop} {items' : List (α × Bool)}
    (same : List.Forall₂ (Alike R) items items') :
    List.Forall₂ (List.Forall₂ R) (splitRows items) (splitRows items') := by
  induction same with
  | nil => exact .nil
  | @cons x y rest rest' first _ step =>
    obtain ⟨a, ends⟩ := x
    obtain ⟨b, ends'⟩ := y
    obtain ⟨related, rfl⟩ : R a b ∧ ends = ends' := first
    cases ends with
    | true => exact .cons (.cons related .nil) step
    | false =>
      unfold splitRows
      revert step
      generalize splitRows rest = rows
      generalize splitRows rest' = rows'
      intro step
      cases step with
      | nil => exact .cons (.cons related .nil) .nil
      | cons row rows => exact .cons (.cons related row) rows

theorem endsRows_cons_cons {first next : α × Bool} :
    EndsRows (first :: next :: items) ↔ EndsRows (next :: items) := by
  unfold EndsRows
  rw [List.getLast?_cons_cons]

theorem EndsRows.of_forall₂ {R : α → α → Prop} {items' : List (α × Bool)}
    (same : List.Forall₂ (Alike R) items items')
    (whole : EndsRows items') : EndsRows items := by
  induction same with
  | nil => exact whole
  | @cons _ y _ _ first rest step =>
    cases rest with
    | nil =>
      rintro item ⟨⟩
      exact first.2.trans (whole y rfl)
    | cons _ _ => exact endsRows_cons_cons.2 (step (endsRows_cons_cons.1 whole))

theorem EndsRows.append (first : more = [] → EndsRows items) (second : EndsRows more) :
    EndsRows (items ++ more) := by
  intro item last
  rw [List.getLast?_append] at last
  cases found : more.getLast? with
  | none =>
    rw [found] at last
    exact first (List.getLast?_eq_none_iff.1 found) item last
  | some other =>
    rw [found] at last
    exact second item (found.trans last)

end

/-! ## Flattening -/

namespace Arc

mutual

/-- The arcs that take the place of an arc, each with whether it ends its row, and the comments that
are left for the arc behind them. Comments that were left before belong to the first. -/
def flat (pending : List String) (ends : Bool) :
    Arc String String → List (Arc String String × Bool) × List String
  | .message kind source target attrs comments =>
    ([(.message kind source target (attrs.without "title") (pending ++ comments), ends)], [])
  | .box kind source target attrs comments =>
    ([(.box kind source target (attrs.without "title") (pending ++ comments), ends)], [])
  | .empty kind attrs comments =>
    ([(.empty kind (attrs.without "title") (pending ++ comments), ends)], [])
  | .inline _ source target rows attrs comments =>
    let inside := flatRows [] rows
    ((.message .line source target (attrs.without "title") (pending ++ comments), true) :: inside.1,
      inside.2 ++ [if ends then "#;" else "#,"])

def flatRow (pending : List String) :
    List (Arc String String) → List (Arc String String × Bool) × List String
  | [] => ([], pending)
  | arc :: rest =>
    let first := flat pending rest.isEmpty arc
    let more := flatRow first.2 rest
    (first.1 ++ more.1, more.2)

def flatRows (pending : List String) :
    List (List (Arc String String)) → List (Arc String String × Bool) × List String
  | [] => ([], pending)
  | row :: rest =>
    let first := flatRow pending row
    let more := flatRows first.2 rest
    (first.1 ++ more.1, more.2)

end

theorem flat_ne_nil (pending : List String) (ends : Bool) (arc : Arc String String) :
    (flat pending ends arc).1 ≠ [] := by
  cases arc <;> simp [flat]

mutual

theorem flat_endsRows : ∀ (pending : List String) (arc : Arc String String),
    EndsRows (flat pending true arc).1
  | _, .message .. => by rintro item ⟨⟩; rfl
  | _, .box .. => by rintro item ⟨⟩; rfl
  | _, .empty .. => by rintro item ⟨⟩; rfl
  | pending, .inline _ source target rows attrs comments => by
    have inside := flatRows_endsRows [] rows
    have line : EndsRows [((.message .line source target (attrs.without "title")
        (pending ++ comments), true) : Arc String String × Bool)] := by
      rintro item ⟨⟩
      rfl
    exact EndsRows.append (fun _ => line) inside

theorem flatRow_endsRows : ∀ (pending : List String) (row : List (Arc String String)),
    EndsRows (flatRow pending row).1
  | _, [] => by rintro item ⟨⟩
  | pending, [arc] => by
    refine EndsRows.append (fun _ => flat_endsRows pending arc) ?_
    rintro item ⟨⟩
  | pending, arc :: next :: rest => by
    refine EndsRows.append (fun none => ?_) (flatRow_endsRows _ (next :: rest))
    simp [flatRow, flat_ne_nil] at none

theorem flatRows_endsRows : ∀ (pending : List String) (rows : Rows String String),
    EndsRows (flatRows pending rows).1
  | _, [] => by rintro item ⟨⟩
  | pending, row :: rest =>
    EndsRows.append (fun _ => flatRow_endsRows pending row) (flatRows_endsRows _ rest)

end

end Arc

/-- What is left of a chart where there are no inline expressions, no titles and but four options.
An automatic width is what an unset width means. -/
def Chart.flatten (chart : Chart) : Chart where
  options := {
    hscale := chart.options.hscale
    width := chart.options.width.filter (· != "auto")
    arcgradient := chart.options.arcgradient
    wordwraparcs := chart.options.wordwraparcs }
  entities := chart.entities.map fun entity => { entity with attrs := entity.attrs.without "title" }
  rows := splitRows (Arc.flatRows [] chart.rows).1
  comments := chart.comments

example : (do
    let nested ← Chart.parse "msc\x7ba->b,a alt b\x7bb->c;\x7d,b->a;\x7d"
    let flat ← Chart.parse "msc\x7ba->b,a--b;b->c;\n#,\nb->a;\x7d"
    return flat == nested.flatten).toOption = some true := by
  decide +kernel

end SeqChart
