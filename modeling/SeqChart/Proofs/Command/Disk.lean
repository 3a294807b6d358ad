import SeqChart.Command.Disk
/-!
What is read at a path, and what writing to it does to a disk. Main statements: `read_eq_ok_iff`,
for reading; `write_of_not_opens`, that a path that cannot be opened leaves everything as it was,
and `write_of_opens`, that else one place has what gets through of the text and every other is as it
was, whether or not the writing breaks off.
-/

namespace SeqChart.Command.Disk

variable {before after : Disk} {path text : String} {place : Path} {handle : Handle}

/-- The place holds the text, and nothing else has come, gone or changed. -/
structure Stores (before : Disk) (place : Path) (text : String) (after : Disk) : Prop where
  there : after.text? place = some text
  elsewhere : ∀ other, other ≠ place → after.text? other = before.text? other
  directories : ∀ path, after.isDirectory path = before.isDirectory path
  devices : after.devices = before.devices
  here : after.here = before.here
  limits : after.limits = before.limits

/-- The text that is read at a path: that of a file, that of the standard input, or none of another
device. -/
inductive Reads (disk : Disk) (stdin path : String) : String → Prop
  | file {place : Path} {text : String} (found : disk.target path = .file place text)
      (allowed : (disk.limitsAt place).unreadable = false)
      (through : (disk.limitsAt place).unread = none) : Reads disk stdin path text
  | stdin {place : Path} (found : disk.target path = .device place .stdin)
      (allowed : (disk.limitsAt place).unreadable = false)
      (through : (disk.limitsAt place).unread = none) : Reads disk stdin path stdin
  | device {place : Path} {device : Device} (found : disk.target path = .device place device)
      (other : device ≠ .stdin) (allowed : (disk.limitsAt place).unreadable = false)
      (through : (disk.limitsAt place).unread = none) : Reads disk stdin path ""

/-- What a path is opened as for writing: a file that is there or can be made, or a device. -/
inductive Opens (disk : Disk) (path : String) : Handle → Prop
  | file {place : Path} {old : String} (found : disk.target path = .file place old)
      (allowed : (disk.limitsAt place).unwritable = none) : Opens disk path (.file place)
  | new {parent : Path} {name : String} (found : disk.target path = .vacant parent name)
      (allowed : (disk.limitsAt parent).unwritable = none) :
      Opens disk path (.file (parent ++ [name]))
  | device {place : Path} {device : Device} (found : disk.target path = .device place device)
      (allowed : (disk.limitsAt place).unwritable = none) :
      Opens disk path (.device place device)

/-- What the disk is, and what the standard output has got, when a text has been put into what was
opened. -/
inductive Puts (before : Disk) (text : String) : Handle → Disk → String → Prop
  | file {place : Path} {after : Disk} (stores : before.Stores place text after) :
      Puts before text (.file place) after ""
  | stdout {place : Path} : Puts before text (.device place .stdout) before text
  | device {place : Path} {device : Device} (other : device ≠ .stdout) :
      Puts before text (.device place device) before ""

theorem Puts.stores {stdout : String} (puts : before.Puts text (.file place) after stdout) :
    before.Stores place text after ∧ stdout = "" := by
  cases puts with
  | file stores => exact ⟨stores, rfl⟩

theorem Opens.unique {disk : Disk} {other : Handle} (opens : disk.Opens path handle)
    (opens' : disk.Opens path other) : handle = other := by
  cases opens <;> cases opens' <;> simp_all

/-! ## Where a path leads -/

theorem isDirectory_iff {disk : Disk} {path : Path} : disk.isDirectory path = true ↔
    path <+: disk.here ∨ (∃ other ∈ disk.directories, path <+: other) ∨
      ∃ file ∈ disk.files.map (·.1) ++ disk.devices.map (·.1), path <+: file ∧ path ≠ file := by
  simp only [isDirectory, Bool.or_eq_true, List.any_eq_true, List.isPrefixOf_iff_prefix,
    Bool.and_eq_true, bne_iff_ne, ne_eq, or_assoc]

/-- What a directory is in is a directory. -/
theorem isDirectory_above {disk : Disk} {path inner : Path} (above : path <+: inner)
    (directory : disk.isDirectory inner = true) : disk.isDirectory path = true := by
  rw [isDirectory_iff] at directory ⊢
  rcases directory with inside | ⟨other, member, inside⟩ | ⟨file, member, inside, differs⟩
  · exact .inl (above.trans inside)
  · exact .inr (.inl ⟨other, member, above.trans inside⟩)
  · refine .inr (.inr ⟨file, member, above.trans inside, ?_⟩)
    rintro rfl
    exact differs (inside.eq_of_length_le above.length_le)

theorem entry_file {disk : Disk} {parent : Path} {name old : String}
    (found : disk.entry parent name = .file place old) : disk.text? place = some old := by
  unfold entry at found
  dsimp only at found
  split at found
  · cases found
  · split at found
    · cases found
      assumption
    · cases found
    · cases found

theorem entry_vacant {disk : Disk} {parent directory : Path} {name last : String}
    (found : disk.entry directory last = .vacant parent name) :
    parent = directory ∧ disk.text? (parent ++ [name]) = none := by
  unfold entry at found
  dsimp only at found
  split at found
  · cases found
  · split at found
    · cases found
    · cases found
    · cases found
      exact ⟨rfl, ‹_›⟩

theorem follow_file {disk : Disk} {slash : Bool} {start : Path} {names : List String}
    {old : String} (found : disk.follow slash start names = .file place old) :
    disk.text? place = some old := by
  fun_induction follow disk slash start names with
  | case1 => cases found
  | case2 => cases found
  | case3 start rest open_ step => exact step found
  | case4 start rest open_ other step => exact step found
  | case5 start name rest open_ other up directory step => exact step found
  | case6 => cases found
  | case7 => cases found
  | case8 => exact entry_file found

/-- A file can only be made in a directory. -/
theorem follow_vacant {disk : Disk} {slash : Bool} {start parent : Path} {name : String}
    {names : List String} (directory : disk.isDirectory start = true)
    (found : disk.follow slash start names = .vacant parent name) :
    disk.text? (parent ++ [name]) = none ∧ disk.isDirectory parent = true := by
  fun_induction follow disk slash start names with
  | case1 => cases found
  | case2 => cases found
  | case3 start rest open_ step => exact step directory found
  | case4 start rest open_ other step =>
    -- Two dots lead up, and what a directory is in is one.
    exact step (isDirectory_above (List.dropLast_prefix start) directory) found
  | case5 start name rest open_ other up inside step => exact step inside found
  | case6 => cases found
  | case7 => cases found
  | case8 =>
    obtain ⟨rfl, absent⟩ := entry_vacant found
    exact ⟨absent, directory⟩

theorem text?_of_target {disk : Disk} {old : String} (found : disk.target path = .file place old) :
    disk.text? place = some old := by
  unfold target at found
  split at found
  · cases found
  · split at found
    · cases found
    · exact follow_file found

theorem vacant_of_target {disk : Disk} {parent : Path} {name : String}
    (found : disk.target path = .vacant parent name) :
    disk.text? (parent ++ [name]) = none ∧ disk.isDirectory parent = true := by
  unfold target at found
  split at found
  · cases found
  · split at found
    · cases found
    · refine follow_vacant ?_ found
      split
      · exact isDirectory_iff.2 (.inl List.nil_prefix)
      · exact isDirectory_iff.2 (.inl (List.prefix_refl _))

/-! ## Reading -/

theorem readAt_eq_ok_iff {disk : Disk} {held : String} : disk.readAt place held = .ok text ↔
    (disk.limitsAt place).unreadable = false ∧ (disk.limitsAt place).unread = none ∧
      held = text := by
  unfold readAt
  cases (disk.limitsAt place).unreadable with
  | true => simp
  | false => cases (disk.limitsAt place).unread <;> simp

theorem read_eq_ok_iff {disk : Disk} {stdin : String} :
    disk.read stdin path = .ok text ↔ disk.Reads stdin path text := by
  constructor
  · intro done
    unfold read at done
    split at done
    · obtain ⟨allowed, through, rfl⟩ := readAt_eq_ok_iff.1 done
      exact .file ‹_› allowed through
    · obtain ⟨allowed, through, rfl⟩ := readAt_eq_ok_iff.1 done
      exact .stdin ‹_› allowed through
    · obtain ⟨allowed, through, rfl⟩ := readAt_eq_ok_iff.1 done
      exact .device ‹_› ‹_› allowed through
    · cases done
    · cases done
    · cases done
    · cases done
  · intro reads
    cases reads with
    | file found allowed through =>
      rw [read, found]
      exact readAt_eq_ok_iff.2 ⟨allowed, through, rfl⟩
    | stdin found allowed through =>
      rw [read, found]
      exact readAt_eq_ok_iff.2 ⟨allowed, through, rfl⟩
    | @device place device found other allowed through =>
      rw [read, found]
      cases device with
      | stdin => exact absurd rfl other
      | sink | full | stdout | stderr =>
        exact readAt_eq_ok_iff.2 ⟨allowed, through, rfl⟩

/-! ## What is stored -/

theorem stores_over {disk : Disk} {old : String} (present : disk.text? place = some old) :
    disk.Stores place text (disk.store place text) := by
  have lookup (other : Path) :
      ((disk.files.map fun entry => (entry.1, if entry.1 = place then text else entry.2)).find?
        (·.1 == other)).map (·.2) =
      (disk.text? other).map fun old => if other = place then text else old := by
    rw [List.find?_map, text?]
    change ((disk.files.find? (·.1 == other)).map _).map _ = _
    cases sought : disk.files.find? (·.1 == other) with
    | none => rfl
    | some found =>
      obtain rfl : found.1 = other := by simpa using List.find?_some sought
      rfl
  rw [store, present, if_pos Option.isSome_some]
  constructor
  · refine (lookup place).trans ?_
    rw [present]
    exact congrArg some (if_pos rfl)
  · intro other differs
    refine (lookup other).trans ?_
    cases disk.text? other with
    | none => rfl
    | some old => exact congrArg some (if_neg differs)
  · intro path
    simp only [isDirectory, List.map_map]
    rfl
  · rfl
  · rfl
  · rfl

/-- A new file in a directory makes no other. -/
theorem isDirectory_new {disk : Disk} {parent : Path} {name : String}
    (directory : disk.isDirectory parent = true) (path : Path) :
    { disk with files := disk.files ++ [(parent ++ [name], text)] }.isDirectory path =
      disk.isDirectory path := by
  rw [Bool.eq_iff_iff]
  constructor
  · intro inside
    rw [isDirectory_iff] at inside
    rcases inside with inside | inside | ⟨file, member, inside, differs⟩
    · exact isDirectory_iff.2 (.inl inside)
    · exact isDirectory_iff.2 (.inr (.inl inside))
    · simp only [List.map_append, List.mem_append, or_assoc] at member
      rcases member with member | new | member
      · exact isDirectory_iff.2
          (.inr (.inr ⟨file, List.mem_append_left _ member, inside, differs⟩))
      · -- What the new file is in was there before it.
        obtain rfl : file = parent ++ [name] := by simpa using new
        rcases List.prefix_concat_iff.1 inside with whole | inside
        · exact absurd whole differs
        · exact isDirectory_above inside directory
      · exact isDirectory_iff.2
          (.inr (.inr ⟨file, List.mem_append_right _ member, inside, differs⟩))
  · intro inside
    rw [isDirectory_iff] at inside ⊢
    refine inside.imp id (Or.imp id ?_)
    rintro ⟨file, member, inside⟩
    refine ⟨file, ?_, inside⟩
    simp only [List.map_append, List.mem_append] at member ⊢
    exact member.imp .inl id

theorem stores_new {disk : Disk} {parent : Path} {name : String}
    (absent : disk.text? (parent ++ [name]) = none) (directory : disk.isDirectory parent = true) :
    disk.Stores (parent ++ [name]) text (disk.store (parent ++ [name]) text) := by
  have none : disk.files.find? (·.1 == parent ++ [name]) = none := Option.map_eq_none_iff.1 absent
  rw [store, absent, if_neg (by simp)]
  constructor
  · simp [text?, List.find?_append, none]
  · intro other differs
    have last : [(parent ++ [name], text)].find? (·.1 == other) = .none := by
      simp [Ne.symm differs]
    simp only [text?, List.find?_append, last, Option.or_none]
  · exact isDirectory_new directory
  · rfl
  · rfl
  · rfl

/-- What is stored last is what is there. -/
theorem Stores.again {between : Disk} {first : String}
    (stores : before.Stores place first between) :
    before.Stores place text (between.store place text) := by
  have stored : between.Stores place text (between.store place text) := stores_over stores.there
  exact {
    there := stored.there
    elsewhere := fun other differs =>
      (stored.elsewhere other differs).trans (stores.elsewhere other differs)
    directories := fun path => (stored.directories path).trans (stores.directories path)
    devices := stored.devices.trans stores.devices
    here := stored.here.trans stores.here
    limits := stored.limits.trans stores.limits }

/-! ## Opening -/

/-- Only the limits say what breaks off, and writing does not change them. -/
theorem breakAt?_congr {disk other : Disk} (same : other.limits = disk.limits) (handle : Handle) :
    other.breakAt? handle = disk.breakAt? handle := by
  unfold breakAt? limitsAt
  rw [same]

theorem openToWrite_of_opens (opens : before.Opens path handle) :
    ∃ opened, before.openToWrite path = .ok (handle, opened) ∧
      before.Puts "" handle opened "" := by
  cases opens with
  | file found allowed =>
    refine ⟨_, ?_, .file (stores_over (text?_of_target found))⟩
    rw [openToWrite, found]
    dsimp only
    rw [allowed]
  | new found allowed =>
    obtain ⟨absent, directory⟩ := vacant_of_target found
    refine ⟨_, ?_, .file (stores_new absent directory)⟩
    rw [openToWrite, found]
    dsimp only
    rw [allowed]
  | @device place device found allowed =>
    refine ⟨before, ?_, ?_⟩
    · rw [openToWrite, found]
      dsimp only
      rw [allowed]
    · by_cases same : device = .stdout
      · exact same ▸ .stdout
      · exact .device same

theorem opens_of_openToWrite {opened : Disk}
    (done : before.openToWrite path = .ok (handle, opened)) :
    before.Opens path handle := by
  unfold openToWrite at done
  dsimp only at done
  split at done
  · split at done
    · cases done
    · cases done
      exact .file ‹_› ‹_›
  · split at done
    · cases done
    · cases done
      exact .new ‹_› ‹_›
  · split at done
    · cases done
    · cases done
      exact .device ‹_› ‹_›
  · cases done
  · cases done
  · cases done

/-! ## Writing -/

theorem write_of_not_opens (text : String) (unopened : ∀ handle, ¬ before.Opens path handle) :
    (before.write path text).disk = before ∧ (before.write path text).stdout = "" ∧
      ∃ reason, (before.write path text).trouble = some (.opening reason) := by
  unfold write
  split
  · exact ⟨rfl, rfl, _, rfl⟩
  · rename_i done
    exact absurd (opens_of_openToWrite done) (unopened _)

/-- What gets through is there, and the writing has failed if and only if it broke off. -/
theorem write_of_opens (text : String) (opens : before.Opens path handle) :
    before.Puts (before.passed handle text) handle (before.write path text).disk
        (before.write path text).stdout ∧
      (before.write path text).trouble = (before.breakAt? handle).map (.opened ·.reason) := by
  obtain ⟨opened, done, emptied⟩ := openToWrite_of_opens opens
  unfold write
  rw [done]
  cases emptied with
  | @file place opened stores =>
    simp only [passed, breakAt?_congr stores.limits]
    exact ⟨.file stores.again, trivial⟩
  | stdout => exact ⟨.stdout, rfl⟩
  | device other =>
    refine ⟨?_, rfl⟩
    dsimp only [Handle.given, put]
    rw [if_neg other]
    exact .device other

/-! ## What has changed -/

/-- The names and texts of the files that are new or hold another text than before. -/
theorem mem_changesSince_iff {names : Path} : (names, text) ∈ after.changesSince before ↔
    after.text? (after.here ++ names) = some text ∧
      before.text? (after.here ++ names) ≠ some text := by
  unfold changesSince
  rw [List.mem_filterMap]
  constructor
  · rintro ⟨⟨path, held⟩, -, shown⟩
    dsimp only at shown
    split at shown
    · rename_i changed
      obtain ⟨⟨rest, rfl⟩, differs⟩ := changed.imp_left List.isPrefixOf_iff_prefix.1
      obtain ⟨found, present, same⟩ := Option.map_eq_some_iff.1 shown
      obtain ⟨rfl, rfl⟩ := Prod.mk.inj same
      rw [List.drop_left]
      exact ⟨present, fun unchanged => differs (present.trans unchanged.symm)⟩
    · cases shown
  · rintro ⟨present, differs⟩
    obtain ⟨⟨path, held⟩, found, rfl⟩ := Option.map_eq_some_iff.1 present
    obtain rfl : path = after.here ++ names := by simpa using List.find?_some found
    refine ⟨_, List.mem_of_find?_eq_some found, ?_⟩
    dsimp only
    rw [if_pos ⟨by simp, fun same => differs (same.symm.trans present)⟩, present, List.drop_left]
    rfl

theorem not_mem_changesSince_self {disk : Disk} {entry : Path × String} :
    entry ∉ disk.changesSince disk :=
  fun member => (mem_changesSince_iff.1 member).2 (mem_changesSince_iff.1 member).1

/-- Only where a text was put has anything changed. -/
theorem Puts.changes {stdout : String} (puts : before.Puts text handle after stdout)
    {names : Path} {found : String} (changed : (names, found) ∈ after.changesSince before) :
    handle = .file (before.here ++ names) ∧ found = text := by
  obtain ⟨present, differs⟩ := mem_changesSince_iff.1 changed
  cases puts with
  | @file place after stores =>
    rw [stores.here] at present differs
    by_cases there : before.here ++ names = place
    · refine ⟨by rw [there], Option.some.inj (present.symm.trans ?_)⟩
      rw [there, stores.there]
    · exact absurd ((stores.elsewhere _ there).symm.trans present) differs
  | stdout => exact absurd present differs
  | device other => exact absurd present differs

theorem opens_of_changes {names : Path} {found : String}
    (changed : (names, found) ∈ (before.write path text).disk.changesSince before) :
    before.Opens path (.file (before.here ++ names)) := by
  by_cases opened : ∃ handle, before.Opens path handle
  · obtain ⟨handle, opens⟩ := opened
    obtain ⟨rfl, -⟩ := (write_of_opens text opens).1.changes changed
    exact opens
  · rw [(write_of_not_opens text fun handle opens => opened ⟨handle, opens⟩).1] at changed
    exact absurd changed not_mem_changesSince_self

end SeqChart.Command.Disk
