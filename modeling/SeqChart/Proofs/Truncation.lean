import SeqChart.Proofs.Data.Except
import SeqChart.Proofs.Reading.Locality
/-!
Texts that stop too early or go on too long. Main statement, `parse_append_iff`: of a text that ends
with the brace that closes its chart, no part up to some earlier place is read, and what is put
behind it has to be layout.
-/

namespace SeqChart

open Grammar

namespace Chart

theorem parse_eq_ok_iff_braced {source : String} {limit : Int} {chart : Chart} :
    Chart.parse source limit = .ok chart ↔
      ∃ r, Reader.braced limit source.toList = .ok (chart, r) ∧ Gap r [] := by
  simp only [Chart.parse_eq_ok, Reader.braced_eq_ok_iff, Reader.program_iff_braced]
  constructor
  · intro read
    obtain ⟨⟨r, closing, gap⟩, other⟩ := read
    exact ⟨r, ⟨closing, other⟩, gap⟩
  · intro read
    obtain ⟨r, ⟨closing, other⟩, gap⟩ := read
    exact ⟨⟨r, closing, gap⟩, other⟩

theorem braced_of_parse {source : String} {limit : Int} {chart : Chart}
    (read : Chart.parse source limit = .ok chart)
    (ends : Braced limit.toNat source.toList chart []) :
    Reader.braced limit source.toList = .ok (chart, []) :=
  Reader.braced_eq_ok_iff.2 ⟨ends, (Chart.parse_eq_ok.1 read).2⟩

/-- Let a text be read as a chart, and end with the brace that closes it. Then no part of it that
stops earlier is read. With more behind it the text is read if that is layout and not otherwise, and
the chart is the same. -/
theorem parse_append_iff {source : String} {limit : Int} {chart : Chart}
    (read : Chart.parse source limit = .ok chart)
    (ends : Braced limit.toNat source.toList chart []) :
    (∀ front rest other, front ++ rest = source → rest ≠ "" →
      Chart.parse front limit ≠ .ok other) ∧
    (∀ more other, Chart.parse (source ++ more) limit = .ok other ↔
      Gap more.toList [] ∧ other = chart) := by
  have whole := braced_of_parse read ends
  refine ⟨fun front rest other splits nonempty read' => ?_, fun more other => ?_⟩
  · -- The part would be read up to a brace of its own, and so would the whole text.
    obtain ⟨r, closing, -⟩ := parse_eq_ok_iff_braced.1 read'
    have closing := Reader.braced_append closing rest.toList
    rw [← String.toList_append, splits, whole] at closing
    have none : [] = r ++ rest.toList := (Prod.mk.inj (Except.ok.inj closing)).2
    have none : rest.toList = [] := (List.append_eq_nil_iff.1 none.symm).2
    exact nonempty (String.toList_eq_nil_iff.1 none)
  · have closing := Reader.braced_append whole more.toList
    rw [parse_eq_ok_iff_braced, String.toList_append, closing]
    constructor
    · intro found
      obtain ⟨r, same, gap⟩ := found
      obtain ⟨rfl, rfl⟩ := Prod.mk.inj (Except.ok.inj same)
      exact ⟨gap, rfl⟩
    · intro found
      obtain ⟨gap, rfl⟩ := found
      exact ⟨more.toList, rfl, gap⟩

/-- A chart with braces in a string and in a comment. -/
def bracesInside : String := "msc\x7ba->b[label=\"\x7d\"];#\x7d\n\x7d"

theorem parse_append_bracesInside : ∃ chart, Chart.parse bracesInside 0 = .ok chart ∧
    Braced 0 bracesInside.toList chart [] ∧
    Chart.parse (bracesInside ++ " #\x7d") 0 = .ok chart ∧
    ∀ other, Chart.parse "msc\x7ba->b[label=\"\x7d\"];#\x7d" 0 ≠ .ok other := by
  have computed : (Reader.braced 0 bracesInside.toList).toOption.any (·.2.isEmpty) = true := by
    decide +kernel
  obtain ⟨⟨chart, r⟩, closing, empty⟩ := Except.any_toOption_iff.1 computed
  obtain rfl : r = [] := List.isEmpty_iff.1 empty
  have read := parse_eq_ok_iff_braced.2 ⟨[], closing, Gap.refl []⟩
  have ends := (Reader.braced_eq_ok_iff.1 closing).1
  have skipped : (Reader.skipLayout " #\x7d".toList).toOption.any (·.2.isEmpty) = true := by
    decide +kernel
  obtain ⟨⟨_, r⟩, skipped, empty⟩ := Except.any_toOption_iff.1 skipped
  obtain rfl : r = [] := List.isEmpty_iff.1 empty
  have gap : Gap " #\x7d".toList [] := (Reader.skipLayout_eq_ok_iff.1 skipped).1
  obtain ⟨cut, longer⟩ := parse_append_iff read ends
  refine ⟨chart, read, ends, (longer _ _).2 ⟨gap, rfl⟩, fun other => ?_⟩
  exact cut _ "\n\x7d" other (by decide) (by decide)

end Chart

end SeqChart
