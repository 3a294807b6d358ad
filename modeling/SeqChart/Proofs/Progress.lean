import SeqChart.Proofs.Reading.Chart
import SeqChart.Proofs.Reading.Faults
import SeqChart.Proofs.Reading.Rounds
/-!
Reading gets on. Main statement, `readers_move_on`: wherever in a source a reader starts, it ends
within the source, those that the loops are built from further on; so no loop has more rounds than
characters are left, looking ahead changes nothing, and a fault that is kept back while looking
ahead is the fault of the whole chart.
-/

namespace SeqChart

namespace Reader

variable {α : Type} {source : List Char} {pos : Nat}

/-! ## Places in a source -/

/-- Started at a place of the source, the reader leaves what follows a place of it, from the least
one on, or stops at a place that is not before its start. -/
structure EndsInside (source : List Char) (pos least : Nat) (p : Reader α) : Prop where
  returns : ∀ a r, p (source.drop pos) = .ok (a, r) →
    ∃ next, least ≤ next ∧ next ≤ source.length ∧ r = source.drop next
  fails : ∀ fault, p (source.drop pos) = .error fault →
    ∃ place, pos ≤ place ∧ place ≤ source.length ∧ fault.rest = source.drop place

theorem exists_place {r : List Char} (inside : pos ≤ source.length) (ends : r <:+ source.drop pos) :
    ∃ next, next + r.length = source.length ∧ pos ≤ next ∧ r = source.drop next := by
  have fewer := ends.length_le
  rw [List.length_drop] at fewer
  have whole := ends.trans (List.drop_suffix pos source)
  exact ⟨source.length - r.length, by omega, by omega, List.suffix_iff_eq_drop.1 whole⟩

/-- Faults lie in the text that is read. -/
def StopsInside (p : Reader α) : Prop := ∀ s fault, p s = .error fault → fault.rest <:+ s

theorem stopsInside_of_blames {p : Reader α} (blames : ∀ text, Blames text Anywhere p) :
    StopsInside p :=
  fun s fault failed => (blames s s fault (List.suffix_refl s) trivial failed).inside

theorem EndsInside.of_leavesEnd {p : Reader α} (inside : pos ≤ source.length) (ends : LeavesEnd p)
    (stops : StopsInside p) : EndsInside source pos pos p where
  returns a r read := by
    obtain ⟨next, splits, behind, rest⟩ := exists_place inside (ends _ a r read)
    exact ⟨next, behind, by omega, rest⟩
  fails fault failed := by
    obtain ⟨place, splits, behind, rest⟩ := exists_place inside (stops _ fault failed)
    exact ⟨place, behind, by omega, rest⟩

theorem EndsInside.further {p : Reader α} (ends : EndsInside source pos pos p)
    (less : ∀ a r, p (source.drop pos) = .ok (a, r) → r.length < (source.drop pos).length) :
    EndsInside source pos (pos + 1) p where
  returns a r read := by
    obtain ⟨next, behind, within, rfl⟩ := ends.returns a r read
    have fewer := less a _ read
    rw [List.length_drop, List.length_drop] at fewer
    exact ⟨next, by omega, within, rfl⟩
  fails := ends.fails

theorem EndsInside.of_advances {p : Reader α} (inside : pos ≤ source.length) (advances : Advances p)
    (stops : StopsInside p) : EndsInside source pos (pos + 1) p :=
  (EndsInside.of_leavesEnd inside advances.leavesEnd stops).further fun a r read =>
    (advances _ a r read).2

theorem leavesEnd_comment? : LeavesEnd comment? := by
  intro s found r read
  cases found with
  | none => exact comment?_none read ▸ List.suffix_refl s
  | some c => exact (comment?_some read).1

theorem leavesEnd_quoted? : LeavesEnd quoted? := by
  intro s found r read
  cases found with
  | none => exact quoted?_none read ▸ List.suffix_refl s
  | some text => exact (quoted?_some read).1

theorem quoted?_eq_error {s : List Char} {fault : Fault} (failed : quoted? s = .error fault) :
    fault = ⟨.unterminatedString, s⟩ := by
  unfold quoted? at failed
  split at failed
  · split at failed
    · cases failed
    · cases failed
      rfl
  · cases failed

/-- At a quote a string is read, or nothing is. -/
theorem quoted?_advances {s r : List Char} {found : Option String} (quote : s.head? = some '"')
    (read : quoted? s = .ok (found, r)) : r.length < s.length := by
  cases found with
  | some text => exact (quoted?_some read).2
  | none =>
    obtain ⟨inside, rfl⟩ := List.head?_eq_some_iff.1 quote
    rw [quoted?] at read
    split at read <;> cases read

theorem leavesEnd_chart (limit : Int) : LeavesEnd (chart limit) := by
  intro s c r read
  exact (chart_eq_ok_iff.1 read).1 ▸ List.nil_suffix

/-- Where the readers end that are started at a place of the source. -/
structure MovesOn (limit : Int) (levels : Nat) (before : List String) (source : List Char)
    (pos : Nat) : Prop where
  comment : EndsInside source pos pos comment?
  comments : EndsInside source pos pos comments
  layout : EndsInside source pos pos skipLayout
  string : (source.drop pos).head? = some '"' → EndsInside source pos (pos + 1) quoted?
  name : EndsInside source pos (pos + 1) name
  endpoint : EndsInside source pos (pos + 1) endpoint
  value : EndsInside source pos (pos + 1) value
  atOption : EndsInside source pos pos atOption
  setting : EndsInside source pos (pos + 1) setting
  options : EndsInside source pos (pos + 1) options
  attributes : EndsInside source pos pos attributes
  atEntity : EndsInside source pos pos atEntity
  entities : EndsInside source pos (pos + 1) (entities before)
  arc : EndsInside source pos (pos + 1) (arc limit (inside limit levels) before)
  row : EndsInside source pos (pos + 1) (row limit (inside limit levels) before)
  rows : EndsInside source pos pos (rows limit (inside limit levels) before)
  chart : EndsInside source pos pos (chart limit)

theorem movesOn (within : pos ≤ source.length) (limit : Int) (levels : Nat) (before : List String) :
    MovesOn limit levels before source pos where
  comment := .of_leavesEnd within leavesEnd_comment? fun s _ failed =>
    comment?_eq_error failed ▸ List.suffix_refl s
  comments := .of_leavesEnd within leavesEnd_comments fun _ _ failed =>
    (comments_eq_error failed).2
  layout := .of_leavesEnd within leavesEnd_skipLayout
    (stopsInside_of_blames fun _ => skipLayout_blames)
  string quote := (EndsInside.of_leavesEnd within leavesEnd_quoted? fun s _ failed =>
    quoted?_eq_error failed ▸ List.suffix_refl s).further fun _ _ => quoted?_advances quote
  name := .of_advances within advances_name (stopsInside_of_blames fun _ => name_blames)
  endpoint := .of_advances within advances_endpoint
    (stopsInside_of_blames fun _ => endpoint_blames)
  value := .of_advances within advances_value (stopsInside_of_blames fun _ => value_blames)
  atOption := .of_leavesEnd within leavesEnd_atOption
    (stopsInside_of_blames fun _ => atOption_blames)
  setting := .of_advances within advances_setting (stopsInside_of_blames fun _ => setting_blames)
  options := .of_advances within advances_options (stopsInside_of_blames fun _ => options_blames)
  attributes := .of_leavesEnd within leavesEnd_attributes
    (stopsInside_of_blames fun _ => attributes_blames)
  atEntity := .of_leavesEnd within leavesEnd_atEntity
    (stopsInside_of_blames fun _ => atEntity_blames)
  entities := .of_advances within (advances_series _ _ _ _)
    (stopsInside_of_blames fun _ => series_blames entity_blames _ _)
  arc := .of_advances within (advances_arc _ _ _)
    (stopsInside_of_blames fun _ => arc_blames (inside_blames limit levels) before)
  row := .of_advances within (advances_series _ _ _ _)
    (stopsInside_of_blames fun _ => series_blames (arc_blames (inside_blames limit levels)) _ _)
  rows := .of_leavesEnd within (leavesEnd_rows _ _ _)
    (stopsInside_of_blames fun _ => rows_blames (inside_blames limit levels) before)
  chart := .of_leavesEnd within (leavesEnd_chart limit)
    (stopsInside_of_blames fun _ => chart_blames limit)

/-! ## Rounds -/

/-- With more rounds for every loop than there are characters, and going into as many blocks inside
each other, the readers do what they do without a limit, whatever would take over then. -/
structure NeverSpent (limit : Int) (levels : Nat) (before : List String) (s : List Char) :
    Prop where
  comments : ∀ spent rounds, s.length < rounds → commentsFor spent rounds s = comments s
  settings : ∀ spent rounds, s.length < rounds →
    seriesFor (fun _ => setting) ';' (fun _ => false) spent rounds [] s =
      series (fun _ => setting) (fun _ => advances_setting) ';' (fun _ => false) [] s
  assignments : ∀ spent rounds, s.length < rounds →
    seriesFor (fun _ => assignment) ']' (fun _ => false) spent rounds [] s =
      series (fun _ => assignment) (fun _ => advances_assignment) ']' (fun _ => false) [] s
  entities : ∀ spent rounds, s.length < rounds →
    seriesFor entity ';' (fun _ => false) spent rounds before s = entities before s
  row : ∀ spent rounds, s.length < rounds →
    rowFor spent limit rounds (insideFor spent limit rounds rounds levels) before s =
      row limit (inside limit levels) before s
  rows : ∀ spent rounds, s.length < rounds →
    rowsFor spent limit rounds (insideFor spent limit rounds rounds levels) before s =
      rows limit (inside limit levels) before s

theorem neverSpent (limit : Int) (levels : Nat) (before : List String) (s : List Char) :
    NeverSpent limit levels before s where
  comments _ _ enough := commentsFor_eq enough
  settings _ _ enough := chainFor_eq enough _
  assignments _ _ enough := chainFor_eq enough _
  entities _ _ enough := chainFor_eq enough _
  row _ _ enough := rowFor_eq enough levels before
  rows _ _ enough := rowsFor_eq enough levels before

/-! ## What looking ahead keeps back -/

/-- A chart up to where entities are looked for: the comments before it, its options, and the
comments before what follows. -/
def toEntities : Reader (List String × Options String Bool String × List String) := do
  let head ← comments
  let found ← keyword? (fun _ => "msc") [()]
  if found.isNone then fail (.expected (.token "msc"))
  else
    expect "\x7b"
    let before ← comments
    let (options, between) ← optionsPart before
    return (head, options, between)

/-- While entities are looked for no name is found, and its fault is kept back. -/
structure KeepsBack (source s : List Char) (fault : Fault) : Prop where
  reached : ∃ found, toEntities source = .ok (found, s)
  failed : name s = .error fault
  passed : atEntity s = .ok (true, s)

/-- The first of the entities is then read where the name was looked for. -/
theorem entitiesAndRows_eq_error {s : List Char} {fault : Fault} (failed : name s = .error fault)
    (passed : atEntity s = .ok (true, s)) (limit : Int) (before : List String) :
    entitiesAndRows limit before s = .error fault := by
  have first : listed entity ';' (fun _ => false) before s = .error fault :=
    bind_eq_error_iff.2 (.inl (bind_eq_error_iff.2 (.inl failed)))
  have list : entities before s = .error fault := by
    rw [entities, series, chain_eq, first]
  refine bind_eq_error_iff.2 (.inl ?_)
  rw [entitiesPart, bind_of_ok passed, if_pos rfl]
  exact bind_eq_error_iff.2 (.inl list)

theorem KeepsBack.chart_eq_error {s : List Char} {fault : Fault} (back : KeepsBack source s fault)
    (limit : Int) : chart limit source = .error fault := by
  obtain ⟨⟨head, options, between⟩, reached⟩ := back.reached
  rw [toEntities, bind_eq_ok_iff] at reached
  obtain ⟨_, t, headed, reached⟩ := reached
  obtain ⟨found, u, keyword, reached⟩ := bind_eq_ok_iff.1 reached
  split at reached
  · cases reached
  · rename_i some_keyword
    obtain ⟨_, v, opened, reached⟩ := bind_eq_ok_iff.1 reached
    obtain ⟨before, w, inside, reached⟩ := bind_eq_ok_iff.1 reached
    obtain ⟨⟨options', between'⟩, x, taken, reached⟩ := bind_eq_ok_iff.1 reached
    obtain ⟨-, rfl⟩ := pure_eq_ok_iff.1 reached
    rw [chart, bind_of_ok headed, bind_of_ok keyword, if_neg some_keyword, bind_of_ok opened,
      bind_of_ok inside]
    refine bind_eq_error_iff.2 (.inl ?_)
    rw [content, bind_of_ok taken]
    exact bind_eq_error_iff.2
      (.inl (entitiesAndRows_eq_error back.failed back.passed limit between'))

end Reader

namespace Chart

open Reader

theorem parse_eq_error {source : String} {limit : Int} {fault : Fault}
    (failed : chart limit source.toList = .error fault) :
    Chart.parse source limit = .error (fault.report source.toList) := by
  rw [Chart.parse, failed]

/-- Let a reader start at a place of the source. It ends within the source, and names, values,
settings, lists, arcs and rows end further on. So with one round more for every loop than characters
are left, and going into as many blocks inside each other, no loop and no block is ever cut off.
Looking ahead leaves the place as it is. And where a fault is kept back while entities are looked
for, it is the one that is reported of the chart. -/
theorem readers_move_on (source : String) {pos : Nat} (within : pos ≤ source.toList.length)
    (limit : Int) (levels : Nat) (before : List String) :
    MovesOn limit levels before source.toList pos ∧
    NeverSpent limit levels before (source.toList.drop pos) ∧
    (∀ found r, atOption (source.toList.drop pos) = .ok (found, r) ∨
        atEntity (source.toList.drop pos) = .ok (found, r) → r = source.toList.drop pos) ∧
    (∀ fault, KeepsBack source.toList (source.toList.drop pos) fault →
      Chart.parse source limit = .error (fault.report source.toList)) := by
  refine ⟨movesOn within limit levels before, neverSpent limit levels before _, ?_,
    fun fault back => parse_eq_error (back.chart_eq_error limit)⟩
  rintro found r (looked | looked)
  · exact (ahead_eq_ok_iff.1 looked).1
  · exact atEntity_leaves looked

/-- A keyword where an entity or an arc should be. -/
def keywordForName : String := "msc\x7bwidth=1; loop;\x7d"

/-- The option at the fourth place leads further, and the fault behind the options is reported. -/
theorem readers_move_on_keywordForName :
    (4 ≤ keywordForName.toList.length ∧ ∃ option next,
      setting (keywordForName.toList.drop 4) = .ok (option, keywordForName.toList.drop next) ∧
      5 ≤ next ∧ next ≤ keywordForName.toList.length) ∧
    ∃ fault, fault.cause = .reservedName "loop" ∧
      13 ≤ keywordForName.toList.length ∧
      KeepsBack keywordForName.toList (keywordForName.toList.drop 13) fault ∧
      Chart.parse keywordForName 0 = .error (fault.report keywordForName.toList) := by
  constructor
  · have within : 4 ≤ keywordForName.toList.length := by decide
    have computed :
        (setting (keywordForName.toList.drop 4)).toOption.any (fun _ => true) = true := by
      decide +kernel
    obtain ⟨⟨option, r⟩, read, -⟩ := Except.any_toOption_iff.1 computed
    obtain ⟨next, further, inside, rfl⟩ :=
      (readers_move_on keywordForName within 0 0 []).1.setting.returns option r read
    exact ⟨within, option, next, read, further, inside⟩
  · have within : 13 ≤ keywordForName.toList.length := by decide
    have reached : (toEntities keywordForName.toList).toOption.any
        (fun result => result.2 == keywordForName.toList.drop 13) = true := by decide +kernel
    obtain ⟨⟨found, s⟩, reached, place⟩ := Except.any_toOption_iff.1 reached
    obtain rfl : s = keywordForName.toList.drop 13 := beq_iff_eq.1 place
    have passed : (atEntity (keywordForName.toList.drop 13)).toOption.any
        (fun result => result == (true, keywordForName.toList.drop 13)) = true := by decide +kernel
    obtain ⟨result, passed, looked⟩ := Except.any_toOption_iff.1 passed
    obtain rfl := beq_iff_eq.1 looked
    have failed : (match name (keywordForName.toList.drop 13) with
        | .error fault => some fault.cause
        | .ok _ => none) = some (.reservedName "loop") := by decide +kernel
    split at failed
    · rename_i fault failed'
      have back : KeepsBack keywordForName.toList (keywordForName.toList.drop 13) fault :=
        ⟨⟨found, reached⟩, failed', passed⟩
      exact ⟨fault, Option.some.inj failed, within, back,
        (readers_move_on keywordForName within 0 0 []).2.2.2 fault back⟩
    · cases failed

end Chart

end SeqChart
