import SeqChart.Proofs.Chart.Typed
import SeqChart.Proofs.Writing.Render
/-!
The check as a gate before writing. Main statement, `check_gates_render`: the check passes the trees
that are charts and no others, a tree is refused by the writer as it is by the check, and what has
passed is written unless a key among the unknown options is no text.
-/

namespace SeqChart

namespace Tree

/-- The keys among the unknown options. -/
def extraKeys : Tree → List Scalar
  | .chart (.options _ _ _ _ _ _ _ (.mapping entries)) _ _ _ => entries.map (·.1)
  | _ => []

theorem extraKeys_of_checkOptions {options entities rows comments : Tree}
    {known : Options String Bool String} {keys : List Scalar}
    (passed : checkOptions options = .ok (known, keys)) :
    keys = (Tree.chart options entities rows comments).extraKeys := by
  unfold checkOptions at passed
  split at passed
  · simp only [Except.bind_eq_ok_iff] at passed
    obtain ⟨_, -, _, -, _, -, _, -, _, -, _, -, _, -, passed⟩ := passed
    split at passed
    · cases passed
      rfl
    · cases passed
  · cases passed

theorem extraKeys_of_check {tree : Tree} {limit : Int} {checked : Checked}
    (passed : tree.check limit = .ok checked) : checked.extraKeys = tree.extraKeys := by
  unfold check at passed
  split at passed
  · rename_i options entities rows comments
    simp only [Except.bind_eq_ok_iff] at passed
    obtain ⟨_, -, ⟨known, keys⟩, settled, passed⟩ := passed
    rw [← extraKeys_of_checkOptions settled]
    split at passed
    · simp only [Except.bind_eq_ok_iff] at passed
      obtain ⟨_, -, _, -, passed⟩ := passed
      cases passed
      rfl
    · cases passed
  · cases passed

end Tree

/-- The check decides whether a tree is a chart, and the writer goes by it: it gives the same
reason for the same trees, and writes the others. Listing unknown options takes keys that are
texts. -/
theorem Tree.check_gates_render (tree : Tree) (style : Style) (limit : Int) :
    ((∃ checked, tree.check limit = .ok checked) ↔ tree.IsChart limit) ∧
    (∀ reason, (tree.render style limit).outcome = .error (.misfit reason) ↔
      tree.check limit = .error reason) ∧
    ((∃ text, (tree.render style limit).outcome = .ok text) ↔
      tree.IsChart limit ∧ ∀ key ∈ tree.extraKeys, ∃ name, key = .text name) := by
  refine ⟨exists_check_eq_ok_iff, ?_⟩
  rw [← exists_check_eq_ok_iff, Tree.render, Logged.outcome_bind]
  cases passed : tree.check limit with
  | error reason =>
    simp [Logged.quiet, Except.mapError, bind, Except.bind]
  | ok checked =>
    -- From here on only the list of unknown options can fail.
    have written : (Logged.quiet ((Except.ok checked : Except Misfit Checked).mapError
        RenderError.misfit)).outcome >>= (fun checked =>
          (Writer.checkedText style checked).outcome) =
        (Writer.checkedText style checked).outcome := rfl
    rw [written, Writer.outcome_checkedText, ← extraKeys_of_check passed,
      ← Writer.isSome_extraNames?_iff]
    split <;> simp_all

end SeqChart
