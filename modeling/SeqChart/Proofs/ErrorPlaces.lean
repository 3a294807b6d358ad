import SeqChart.Proofs.Reading.Faults
/-!
Where errors are and what they say. Main statement, `error_locates`: an error names the line and the
column of one place in the text, what it says was found is what stands there, and where it says what
was expected no layout stands.
-/

namespace SeqChart

open Grammar

/-! ## Lines and columns -/

/-- The offset is one of the text, and stands in that line and that column of it; both count from 1,
and the columns from the last line feed. -/
structure LocatedAt (source : List Char) (offset line column : Nat) : Prop where
  inside : offset ≤ source.length
  line : line = (source.take offset).count '\n' + 1
  column : ∃ earlier current, source.take offset = earlier ++ current ∧
    (∀ c ∈ earlier.getLast?, c = '\n') ∧ '\n' ∉ current ∧ column = current.length + 1

theorem takeWhile_reverse_of_line {earlier current : List Char}
    (breaks : ∀ c ∈ earlier.getLast?, c = '\n') (inLine : '\n' ∉ current) :
    (earlier ++ current).reverse.takeWhile (· != '\n') = current.reverse := by
  rw [List.reverse_append]
  refine takeWhile_of_stops (fun c member => ?_) fun c first => ?_
  · simp only [bne_iff_ne]
    rintro rfl
    exact inLine (List.mem_reverse.1 member)
  · rw [List.head?_reverse] at first
    simp [breaks c first]

theorem exists_line (before : List Char) : ∃ earlier current, before = earlier ++ current ∧
    (∀ c ∈ earlier.getLast?, c = '\n') ∧ '\n' ∉ current := by
  refine ⟨(before.reverse.dropWhile (· != '\n')).reverse,
    (before.reverse.takeWhile (· != '\n')).reverse, ?_, fun c last => ?_, fun member => ?_⟩
  · rw [← List.reverse_append, List.takeWhile_append_dropWhile, List.reverse_reverse]
  · rw [List.getLast?_reverse] at last
    simpa using stops_dropWhile _ _ c last
  · simpa using List.mem_takeWhile_imp (List.mem_reverse.1 member)

theorem locatedAt_iff {source : List Char} {offset line column : Nat} :
    LocatedAt source offset line column ↔
      offset ≤ source.length ∧ placeAfter (source.take offset) = (line, column) := by
  constructor
  · rintro ⟨inside, rfl, earlier, current, splits, breaks, inLine, rfl⟩
    refine ⟨inside, ?_⟩
    rw [placeAfter, splits, takeWhile_reverse_of_line breaks inLine, List.length_reverse]
  · rintro ⟨inside, place⟩
    obtain ⟨rfl, rfl⟩ := Prod.mk.inj place
    obtain ⟨earlier, current, splits, breaks, inLine⟩ := exists_line (source.take offset)
    refine ⟨inside, rfl, earlier, current, splits, breaks, inLine, ?_⟩
    rw [splits, takeWhile_reverse_of_line breaks inLine, List.length_reverse]

/-- With more characters a text ends in another place. -/
theorem eq_nil_of_placeAfter_append {before more : List Char}
    (same : placeAfter (before ++ more) = placeAfter before) : more = [] := by
  obtain ⟨lines, columns⟩ := Prod.mk.inj same
  rw [List.count_append] at lines
  have inLine : '\n' ∉ more := List.count_eq_zero.1 (by omega)
  obtain ⟨earlier, current, rfl, breaks, inLine'⟩ := exists_line before
  have inLine'' : '\n' ∉ current ++ more := by simp [inLine, inLine']
  rw [List.append_assoc, takeWhile_reverse_of_line breaks inLine'',
    takeWhile_reverse_of_line breaks inLine'] at columns
  simpa using columns

/-- No two offsets share their line and their column. -/
theorem LocatedAt.unique {source : List Char} {offset other line column : Nat}
    (located : LocatedAt source offset line column)
    (located' : LocatedAt source other line column) : offset = other := by
  wlog first : offset ≤ other generalizing offset other
  · exact (this located' located (Nat.le_of_not_le first)).symm
  obtain ⟨inside, place⟩ := locatedAt_iff.1 located
  obtain ⟨inside', place'⟩ := locatedAt_iff.1 located'
  obtain ⟨more, splits⟩ := List.take_prefix_take_left (l := source) first
  rw [← splits] at place'
  obtain rfl := eq_nil_of_placeAfter_append (place'.trans place.symm)
  have lengths := congrArg List.length splits
  simp only [List.append_nil, List.length_take] at lengths
  omega

/-! ## What is found -/

/-- The report says what stands at the offset: the whole word, the single character if that belongs
to no word, or the end. -/
structure Describes (source : List Char) (offset : Nat) (found : String) : Prop where
  ends : found = "end of input" ↔ offset = source.length
  word : ∀ w r, Word (source.drop offset) w r → found = s!"'{String.ofList w}'"
  character : ∀ c r, source.drop offset = c :: r → Text.isWord c = false → found = s!"'{c}'"

theorem between_quotes_ne (text : String) : s!"'{text}'" ≠ "end of input" := by
  intro same
  have first := congrArg (·.toList.head?) same
  rw [show s!"'{text}'" = "'" ++ text ++ "'" from rfl] at first
  simp at first

theorem foundText_of_word {s w r : List Char} (word : Word s w r) :
    foundText s = s!"'{String.ofList w}'" := by
  obtain ⟨c, rest, rfl, letter⟩ := word.head
  have nonempty : w.isEmpty = false := by simpa using word.nonempty
  simp only [foundText, word.takeWhile, nonempty]
  rfl

theorem foundText_of_character {c : Char} (other : Text.isWord c = false) (r : List Char) :
    foundText (c :: r) = s!"'{c}'" := by
  simp [foundText, other]

theorem foundText_eq_end_iff {s : List Char} : foundText s = "end of input" ↔ s = [] := by
  constructor
  · intro ended
    cases s with
    | nil => rfl
    | cons c r =>
      by_cases letter : Text.isWord c = true
      · have nonempty : (c :: r).takeWhile Text.isWord ≠ [] := by simp [letter]
        rw [foundText_of_word (word_of_takeWhile nonempty)] at ended
        exact absurd ended (between_quotes_ne _)
      · rw [foundText_of_character (by simpa using letter)] at ended
        exact absurd ended (between_quotes_ne (toString c))
  · rintro rfl
    rfl

theorem describes_foundText {source : List Char} {offset : Nat} (inside : offset ≤ source.length) :
    Describes source offset (foundText (source.drop offset)) where
  ends := by
    rw [foundText_eq_end_iff, List.drop_eq_nil_iff]
    omega
  word w r := foundText_of_word
  character c r same other := by rw [same, foundText_of_character other]

/-! ## Reports -/

/-- The offset at which what the fault leaves of the text starts. -/
def Fault.offset (source : List Char) (fault : Fault) : Nat := source.length - fault.rest.length

theorem Fault.Placed.drop_offset {source : List Char} {fault : Fault}
    (placed : fault.Placed source) : source.drop (fault.offset source) = fault.rest :=
  (List.suffix_iff_eq_drop.1 placed.inside).symm

theorem Fault.report_located (source : List Char) (fault : Fault) :
    LocatedAt source (fault.offset source) (fault.report source).line
      (fault.report source).column :=
  locatedAt_iff.2 ⟨Nat.sub_le _ _, rfl⟩

theorem Fault.found_of_report {source : List Char} {fault : Fault} {found : String}
    (stands : found ∈ (fault.report source).found) : foundText fault.rest = found := by
  simp only [Fault.report] at stands
  split at stands
  · exact Option.some.inj stands
  · cases stands

theorem Cause.eq_expected {cause : Cause} {wanted : Wanted}
    (needs : cause.wanted? = some wanted) : cause = .expected wanted := by
  cases cause with
  | expected => exact congrArg Cause.expected (Option.some.inj needs)
  | _ => cases needs

namespace Chart

theorem fault_of_parse {source : String} {limit : Int} {e : SyntaxError}
    (refused : Chart.parse source limit = .error e) :
    ∃ fault, Reader.chart limit source.toList = .error fault ∧
      e = fault.report source.toList := by
  unfold Chart.parse at refused
  split at refused
  · cases refused
  · rename_i fault failed
    exact ⟨fault, failed, (Except.error.inj refused).symm⟩

/-- The line and the column of an error are those of exactly one offset. What the error says was
found stands there. If it says what was expected, it says what was found, the text says both, and
neither a blank nor a comment starts there. -/
theorem error_locates {source : String} {limit : Int} {e : SyntaxError}
    (refused : Chart.parse source limit = .error e) :
    ∃ offset, (∀ other, LocatedAt source.toList other e.line e.column ↔ other = offset) ∧
      (∀ found ∈ e.found, Describes source.toList offset found) ∧
      (∀ wanted ∈ e.expected, ∃ found, e.found = some found ∧
        e.text = s!"syntax error: expected {wanted} but found {found}" ∧
        Solid (source.toList.drop offset)) := by
  obtain ⟨fault, failed, rfl⟩ := fault_of_parse refused
  have blames : Reader.Blames source.toList Reader.Anywhere (Reader.chart limit) :=
    Reader.chart_blames limit
  have placed := blames _ fault (List.suffix_refl _) trivial failed
  have located := fault.report_located source.toList
  have rest := placed.drop_offset
  refine ⟨fault.offset source.toList, fun other => ⟨fun located' => located'.unique located, ?_⟩,
    fun found stands => ?_, fun wanted needs => ?_⟩
  · rintro rfl
    exact located
  · obtain rfl := Fault.found_of_report stands
    exact rest ▸ describes_foundText located.inside
  · obtain ⟨needed, expects, rfl⟩ := Option.map_eq_some_iff.1 (Option.mem_def.1 needs)
    obtain ⟨cause, left⟩ := fault
    obtain rfl := Cause.eq_expected expects
    exact ⟨foundText left, rfl, rfl, rest ▸ placed.solid rfl⟩

/-- A comment and a line behind a comma, and no arc. -/
def arcMissing : String := "msc\x7b\na->b,/*x*/\n !;\x7d"

theorem error_locates_arcMissing : ∃ e, Chart.parse arcMissing 0 = .error e ∧
    (e.line = 3 ∧ e.column = 2 ∧ e.found = some "'!'" ∧ e.expected = some "an entity name") ∧
    ∃ offset, (∀ other, LocatedAt arcMissing.toList other 3 2 ↔ other = offset) ∧
      Describes arcMissing.toList offset "'!'" ∧ Solid (arcMissing.toList.drop offset) := by
  have computed : (match Chart.parse arcMissing 0 with
      | .error e => some (e.line, e.column, e.found, e.expected)
      | .ok _ => none) = some (3, 2, some "'!'", some "an entity name") := by
    decide +kernel
  split at computed
  · rename_i e refused
    obtain ⟨line, column, found, expected⟩ : e.line = 3 ∧ e.column = 2 ∧ e.found = some "'!'" ∧
        e.expected = some "an entity name" := by simpa using computed
    obtain ⟨offset, located, described, needed⟩ := error_locates refused
    obtain ⟨_, -, -, solid⟩ := needed _ expected
    rw [line, column] at located
    exact ⟨e, refused, ⟨line, column, found, expected⟩, offset, located, described _ found, solid⟩
  · cases computed

end Chart

end SeqChart
