import SeqChart.Proofs.Reading.Image
import SeqChart.Proofs.Writing.Words
/-!
Quoting and reading back. Main statement, `quote_reads_back_iff`: a text comes back from between
quotes, whatever follows it, when it is escape-complete; another text never does, and what is read
from between quotes is escape-complete.

A quote that is written has a backslash before it, and a backslash has none. A backslash takes the
character after it along when it is read, so what decides is whether that character was the quote.
-/

namespace SeqChart

open Grammar Reader Writer

theorem Reader.escapeComplete_of_closeQuote? {s text rest : List Char}
    (closed : closeQuote? s = some (text, rest)) : EscapeComplete text :=
  (closeQuote?_eq_some_iff.1 closed).escapeComplete

theorem Reader.escapeComplete_of_quoted? {s rest : List Char} {text : String}
    (read : quoted? s = .ok (some text, rest)) : EscapeComplete text.toList := by
  obtain ⟨v, rfl, _, _, body⟩ := quoted_of_quoted? read
  rw [String.toList_ofList]
  exact body.escapeComplete

theorem Writer.quoted?_quote {text : String} (complete : EscapeComplete text.toList)
    (rest : List Char) : quoted? (quote text.toList ++ rest) = .ok (some text, rest) := by
  have read := quoted?_of_quoted (quoted_quote (r := rest) complete)
  rwa [String.ofList_toList] at read

/-- A text is read back from between quotes, up to what follows them, if it is escape-complete, and
only then: no other text is read back whatever follows it, and what is read from between quotes,
wherever they stand, is escape-complete and comes back itself. -/
theorem quote_reads_back_iff (text : String) :
    ((∀ rest, quoted? (quote text.toList ++ rest) = .ok (some text, rest)) ↔
      EscapeComplete text.toList) ∧
    (¬ EscapeComplete text.toList →
      ∀ rest left, quoted? (quote text.toList ++ rest) ≠ .ok (some text, left)) ∧
    (∀ source value left, closeQuote? source = some (value, left) ∨
        quoted? source = .ok (some (String.ofList value), left) →
      EscapeComplete value ∧
        ∀ rest, quoted? (quote value ++ rest) = .ok (some (String.ofList value), rest)) := by
  refine ⟨⟨fun back => ?_, quoted?_quote⟩, fun incomplete rest left read => ?_,
    fun source value left read => ?_⟩
  · exact escapeComplete_of_quoted? (back [])
  · exact incomplete (escapeComplete_of_quoted? read)
  · have complete : EscapeComplete value := by
      rcases read with closed | read
      · exact escapeComplete_of_closeQuote? closed
      · have complete := escapeComplete_of_quoted? read
        rwa [String.toList_ofList] at complete
    have complete' : EscapeComplete (String.ofList value).toList := by
      rwa [String.toList_ofList]
    have back := quoted?_quote complete'
    rw [String.toList_ofList] at back
    exact ⟨complete, back⟩

/-- Of a backslash and a quote the quote ends the string; with one more backslash both come back. -/
theorem quote_reads_back_backslashes :
    quoted? (quote ['\\', '\\', '"'] ++ ['x']) = .ok (some "\\\\\"", ['x']) ∧
    (∀ rest left, quoted? (quote ['\\', '"'] ++ rest) ≠ .ok (some "\\\"", left)) ∧
    EscapeComplete ['\\', 'n'] := by
  have pairs : EscapeComplete ['\\', '\\', '"'] := .pair (by decide) (.plain (by decide) .nil)
  have early : ¬ EscapeComplete ['\\', '"'] := by
    rintro (_ | ⟨other, _⟩ | ⟨other, _⟩)
    · exact other rfl
    · exact other rfl
  have inside : closeQuote? ['\\', 'n', '"', ';'] = some (['\\', 'n'], [';']) := rfl
  exact ⟨(quote_reads_back_iff "\\\\\"").1.2 pairs ['x'], (quote_reads_back_iff "\\\"").2.1 early,
    ((quote_reads_back_iff "").2.2 _ _ _ (.inl inside)).1⟩

end SeqChart
