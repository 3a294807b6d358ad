import SeqChart.Proofs.ErrorPlaces
import SeqChart.Proofs.Reading.Barred
import SeqChart.Proofs.Reading.ChartWants
import SeqChart.Proofs.Truncation
/-!
What stands before an error. Main statement, `completes_iff`: the text before the place at which
something else was expected is the start of a chart, unless an inline expression whose keyword
stands there is too deep.

The name and the attributes of an inline expression are read before its level is looked at. So
something may be missing in them although no text would do (`inTooDeep`).
-/

namespace SeqChart

open Grammar

namespace Chart

variable {front rest : String} {limit : Int} {e : SyntaxError}

/-- An error that says what was expected stands where the reader of charts stops for want of it. -/
theorem misses_of_refused (refused : Chart.parse (front ++ rest) limit = .error e)
    (needs : e.expected.isSome = true)
    (located : LocatedAt (front ++ rest).toList front.length e.line e.column) :
    Reader.Misses (Reader.chart limit) (front.toList ++ rest.toList) rest.toList := by
  obtain ⟨⟨cause, place⟩, failed, rfl⟩ := fault_of_parse refused
  obtain ⟨wanted, expects⟩ := Option.isSome_iff_exists.1 (Option.isSome_map ▸ needs)
  obtain rfl := Cause.eq_expected expects
  have blames : Reader.Blames (front ++ rest).toList Reader.Anywhere (Reader.chart limit) :=
    Reader.chart_blames limit
  have placed := blames _ _ (List.suffix_refl _) trivial failed
  have dropped := placed.drop_offset
  rw [(Fault.report_located _ _).unique located, String.toList_append, ← String.length_toList,
    List.drop_left] at dropped
  rw [String.toList_append] at failed
  exact ⟨wanted, dropped ▸ failed⟩

theorem exists_completion
    (missed : Reader.Misses (Reader.chart limit) (front.toList ++ rest.toList) rest.toList)
    (shallow : ∀ r, Overflows limit.toNat (front.toList ++ rest.toList) r → ¬ rest.toList <:+ r) :
    ∃ more chart, Chart.parse (front ++ more) limit = .ok chart := by
  obtain ⟨y, more, text, took⟩ := Reader.chart_completable shallow missed
  obtain rfl := List.append_cancel_right text
  obtain ⟨c, t, braced, gap⟩ := took []
  refine ⟨String.ofList ('\n' :: (more ++ [])), c, parse_eq_ok_iff_braced.2 ⟨t, ?_, gap⟩⟩
  rw [String.toList_append, String.toList_ofList]
  exact Reader.braced_eq_ok_iff.2 braced

theorem not_completable {r : List Char}
    (overflows : Overflows limit.toNat (front.toList ++ rest.toList) r) (behind : rest.toList <:+ r)
    (more : String) (chart : Chart) : Chart.parse (front ++ more) limit ≠ .ok chart := by
  intro read
  obtain ⟨y, rfl⟩ := behind
  obtain ⟨start, text, refuses⟩ := Reader.braced_refuses overflows
  rw [← List.append_assoc] at text
  obtain ⟨t, closing, -⟩ := parse_eq_ok_iff_braced.1 read
  obtain ⟨fault, failed⟩ := refuses (y ++ more.toList)
  rw [String.toList_append, List.append_cancel_right text, List.append_assoc, failed] at closing
  cases closing

/-- Let an error say what was expected, and stand behind the first part of its text. With something
else behind that part there is a chart within the same limit, unless the keyword of an inline
expression that is too deep for the limit stands in it; then there is none. -/
theorem completes_iff (refused : Chart.parse (front ++ rest) limit = .error e)
    (needs : e.expected.isSome = true)
    (located : LocatedAt (front ++ rest).toList front.length e.line e.column) :
    (∃ more chart, Chart.parse (front ++ more) limit = .ok chart) ↔
      ¬ ∃ behind, Overflows limit.toNat (front ++ rest).toList behind ∧ rest.toList <:+ behind := by
  rw [String.toList_append]
  constructor
  · rintro ⟨more, chart, read⟩ ⟨behind, overflows, inside⟩
    exact not_completable overflows inside more chart read
  · intro shallow
    exact exists_completion (misses_of_refused refused needs located) fun r overflows inside =>
      shallow ⟨r, overflows, inside⟩

/-- A row of a block up to a comma. -/
def commaInBlock : String := "msc\x7b\na alt b\x7bc->d,"

theorem completes_iff_commaInBlock : ∃ e, Chart.parse (commaInBlock ++ "!") 1 = .error e ∧
    e.expected = some "an entity name" ∧
    LocatedAt (commaInBlock ++ "!").toList commaInBlock.length e.line e.column ∧
    (∃ more chart, Chart.parse (commaInBlock ++ more) 1 = .ok chart) ∧
    ¬ ∃ behind, Overflows 1 (commaInBlock ++ "!").toList behind ∧ "!".toList <:+ behind := by
  have computed : (match Chart.parse (commaInBlock ++ "!") 1 with
      | .error e => some (e.line, e.column, e.expected)
      | .ok _ => none) = some (2, 14, some "an entity name") := by
    decide +kernel
  split at computed
  · rename_i e refused
    obtain ⟨line, column, expected⟩ : e.line = 2 ∧ e.column = 14 ∧
        e.expected = some "an entity name" := by simpa using computed
    have located : LocatedAt (commaInBlock ++ "!").toList commaInBlock.length e.line e.column := by
      rw [line, column]
      exact locatedAt_iff.2 ⟨by decide, by decide⟩
    have computed : (Chart.parse (commaInBlock ++ "...;\x7d\x7d") 1).toOption.any
        (fun _ => true) = true := by
      decide +kernel
    obtain ⟨chart, read, -⟩ := Except.any_toOption_iff.1 computed
    have completable : ∃ more chart, Chart.parse (commaInBlock ++ more) 1 = .ok chart :=
      ⟨_, chart, read⟩
    exact ⟨e, refused, expected, located, completable,
      (completes_iff refused (by simp [expected]) located).1 completable⟩
  · cases computed

/-- An inline expression where none may be, up to its keyword. -/
def inTooDeep : String := "msc\x7ba alt "

theorem overflows_inTooDeep : Overflows 0 (inTooDeep.toList ++ "!\x7d".toList) " !\x7d".toList := by
  have msc : Keyword "msc" (inTooDeep.toList ++ "!\x7d".toList) "\x7ba alt !\x7d".toList :=
    Writer.keyword_written (by decide) (by rintro c ⟨⟩; decide)
  have named : Name "a alt !\x7d".toList "a" " alt !\x7d".toList :=
    .bare (v := ['a']) (word_append (w := ['a']) (by decide) (Writer.endsWord_blank _)) (by decide)
  have gap : Gap " alt !\x7d".toList "alt !\x7d".toList := Writer.gap_blank _
  have keyword : Keyword InlineKind.alt.token "alt !\x7d".toList " !\x7d".toList :=
    Writer.keyword_written (by decide) (Writer.endsWord_blank _)
  refine .mk .done msc (Gap.refl _) .done .absent (fun _ assigns => ?_) .absent
    (.here ⟨named, by decide, gap, keyword⟩)
  obtain ⟨w, t, u, word, equals⟩ := assigns
  obtain rfl := named.of_word word
  exact not_equals_of_keyword gap keyword equals

/-- A name is said to be expected there, and no name would do. -/
theorem not_completable_inTooDeep : (∃ e, Chart.parse (inTooDeep ++ "!\x7d") 0 = .error e ∧
      e.expected = some "an entity name" ∧
      LocatedAt (inTooDeep ++ "!\x7d").toList inTooDeep.length e.line e.column) ∧
    ∀ more chart, Chart.parse (inTooDeep ++ more) 0 ≠ .ok chart := by
  refine ⟨?_, @not_completable inTooDeep "!\x7d" 0 _ overflows_inTooDeep ⟨[' '], rfl⟩⟩
  have computed : (match Chart.parse (inTooDeep ++ "!\x7d") 0 with
      | .error e => some (e.line, e.column, e.expected)
      | .ok _ => none) = some (1, 11, some "an entity name") := by
    decide +kernel
  split at computed
  · rename_i e refused
    obtain ⟨line, column, expected⟩ : e.line = 1 ∧ e.column = 11 ∧
        e.expected = some "an entity name" := by simpa using computed
    refine ⟨e, refused, expected, ?_⟩
    rw [line, column]
    exact locatedAt_iff.2 ⟨by decide, by decide⟩
  · cases computed

end Chart

end SeqChart
