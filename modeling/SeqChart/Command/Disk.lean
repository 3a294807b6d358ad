import SeqChart.Text.Literal
/-!
The files that a command sees, from the root directory down, where in them it runs, and what the
system does not let it do to them.

Writing has two stages, and either may fail. What is opened is made or emptied at once, and only
then is the text written, so a write that breaks off leaves a beginning of it.
-/

namespace SeqChart.Command

/-- Paths are lists of names from the root directory. -/
abbrev Path := List String

/-- What looks like a file and keeps nothing. -/
inductive Device where
  /-- Holds nothing and forgets what is written to it. -/
  | sink
  /-- Has no room for anything. -/
  | full
  | stdin | stdout | stderr
deriving DecidableEq, Repr

/-- Why a file cannot be opened, read or written. -/
inductive FileError where
  | absent | inputOutput | denied | notDirectory | isDirectory | busy | tooLarge | noSpace
  | readOnly | nameTooLong | noQuota
deriving DecidableEq, Repr

namespace FileError

def all : List FileError :=
  [.absent, .inputOutput, .denied, .notDirectory, .isDirectory, .busy, .tooLarge, .noSpace,
    .readOnly, .nameTooLong, .noQuota]

theorem mem_all (e : FileError) : e ∈ all := by cases e <;> decide

/-- The number that the system gives to the error. -/
def code : FileError → Nat
  | .absent => 2
  | .inputOutput => 5
  | .denied => 13
  | .notDirectory => 20
  | .isDirectory => 21
  | .busy => 26
  | .tooLarge => 27
  | .noSpace => 28
  | .readOnly => 30
  | .nameTooLong => 36
  | .noQuota => 122

def description : FileError → String
  | .absent => "No such file or directory"
  | .inputOutput => "Input/output error"
  | .denied => "Permission denied"
  | .notDirectory => "Not a directory"
  | .isDirectory => "Is a directory"
  | .busy => "Text file busy"
  | .tooLarge => "File too large"
  | .noSpace => "No space left on device"
  | .readOnly => "Read-only file system"
  | .nameTooLong => "File name too long"
  | .noQuota => "Disk quota exceeded"

def ofCode? (code : Nat) : Option FileError := all.find? (·.code = code)

theorem ofCode?_code (e : FileError) : ofCode? e.code = some e := by cases e <;> rfl

def text (e : FileError) : String := s!"[Errno {e.code}] {e.description}"

end FileError

/-- What goes wrong with a path: it cannot be opened, or something happens after that. -/
inductive Trouble where
  | opening (reason : FileError)
  | opened (reason : FileError)
deriving DecidableEq, Repr

/-- Only at opening is the path told, as messages show a text. -/
def Trouble.message (path : String) : Trouble → String
  | .opening reason => s!"{reason.text}: {Text.literal path}"
  | .opened reason => reason.text

/-- Where writing breaks off. -/
structure Break where
  /-- How many characters get through; one that is cut through does not count. -/
  kept : Nat
  reason : FileError
deriving DecidableEq, Repr

/-- What the system does not let a command do at a place. -/
structure Limits where
  /-- No name is looked up in it. -/
  closed : Bool := false
  unreadable : Bool := false
  /-- Why it is not opened for writing or, if it is a directory, nothing is made in it. -/
  unwritable : Option FileError := none
  /-- Why it cannot be read although it is open. -/
  unread : Option FileError := none
  /-- Where writing to it breaks off although it is open. -/
  breaks : Option Break := none
deriving DecidableEq, Repr

structure Disk where
  files : List (Path × String) := []
  directories : List Path := []
  devices : List (Path × Device) := []
  /-- The directory in which a command runs. -/
  here : Path := []
  limits : List (Path × Limits) := []
deriving DecidableEq, Repr

/-- What a path leads to. -/
inductive Target where
  | file (place : Path) (text : String)
  | directory (place : Path)
  | device (place : Path) (device : Device)
  /-- Nothing, but a file could be made there. -/
  | vacant (parent : Path) (name : String)
  /-- No directory, although a slash at the end asks for one. -/
  | noDirectory (reason : FileError)
  | nowhere (reason : FileError)
deriving DecidableEq, Repr

/-- Why a path cannot lead through what is no directory. -/
def Target.obstacle : Target → FileError
  | .nowhere reason | .noDirectory reason => reason
  | .vacant .. => .absent
  | .file .. | .device .. | .directory _ => .notDirectory

/-- What has been opened for writing. -/
inductive Handle where
  | file (place : Path)
  | device (place : Path) (device : Device)
deriving DecidableEq, Repr

/-- What a device is given of a text that is written. -/
def Handle.given (device : Device) (text : String) : Handle → String
  | .file _ => ""
  | .device _ other => if other = device then text else ""

/-- The names of a path, with the empty ones. -/
def splitPath (path : String) : List String :=
  let step (c : Char) : List (List Char) → List (List Char)
    | [] => [[c]]
    | name :: names => if c = '/' then [] :: name :: names else (c :: name) :: names
  (path.toList.foldr step [[]]).map String.ofList

/-- The names of a path that mean something. -/
def namesOf (path : String) : Path := (splitPath path).filter (!·.isEmpty)

/-- How many bytes a name may have. -/
def longestName : Nat := 255

/-- How many bytes a path may have. -/
def longestPath : Nat := 4095

namespace Disk

def text? (disk : Disk) (path : Path) : Option String :=
  (disk.files.find? (·.1 == path)).map (·.2)

def device? (disk : Disk) (path : Path) : Option Device :=
  (disk.devices.find? (·.1 == path)).map (·.2)

def limitsAt (disk : Disk) (path : Path) : Limits :=
  ((disk.limits.find? (·.1 == path)).map (·.2)).getD {}

/-- Whether a directory is there, as such or because something is in it. -/
def isDirectory (disk : Disk) (path : Path) : Bool :=
  path.isPrefixOf disk.here || disk.directories.any (path.isPrefixOf ·) ||
    (disk.files.map (·.1) ++ disk.devices.map (·.1)).any fun file =>
      path.isPrefixOf file && path != file

/-- A last name that is no directory. -/
def entry (disk : Disk) (parent : Path) (name : String) : Target :=
  let place := parent ++ [name]
  if longestName < name.utf8ByteSize then .nowhere .nameTooLong
  else match disk.text? place, disk.device? place with
    | some text, _ => .file place text
    | none, some device => .device place device
    | none, none => .vacant parent name

/-- Follows the names from a directory. The root directory is its own parent. -/
def follow (disk : Disk) (slashAtEnd : Bool) (place : Path) : List String → Target
  | [] => .directory place
  | name :: rest =>
    if (disk.limitsAt place).closed then .nowhere .denied
    else if name = "." then follow disk slashAtEnd place rest
    else if name = ".." then follow disk slashAtEnd place.dropLast rest
    else if disk.isDirectory (place ++ [name]) then follow disk slashAtEnd (place ++ [name]) rest
    else
      let found := disk.entry place name
      if !rest.isEmpty then .nowhere found.obstacle
      else if slashAtEnd then .noDirectory found.obstacle
      else found

/-- What is at a path. A slash at its start stands for the root directory. -/
def target (disk : Disk) (path : String) : Target :=
  if path.isEmpty then .nowhere .absent
  else if longestPath < path.utf8ByteSize then .nowhere .nameTooLong
  else disk.follow (path.toList.getLast? = some '/')
    (if path.toList.head? = some '/' then [] else disk.here) (namesOf path)

/-- Whether something is at a path that may be read. -/
def isReadable (disk : Disk) (path : String) : Bool :=
  match disk.target path with
  | .file place _ | .directory place | .device place _ => !(disk.limitsAt place).unreadable
  | .vacant .. | .noDirectory _ | .nowhere _ => false

/-- Reads the text at a place, as far as the system lets it be read. -/
def readAt (disk : Disk) (place : Path) (text : String) : Except Trouble String :=
  if (disk.limitsAt place).unreadable then .error (.opening .denied)
  else match (disk.limitsAt place).unread with
    | some reason => .error (.opened reason)
    | none => .ok text

/-- The text at a path. The standard input holds the text that is given for it. -/
def read (disk : Disk) (stdin path : String) : Except Trouble String :=
  match disk.target path with
  | .file place text => disk.readAt place text
  | .device place .stdin => disk.readAt place stdin
  | .device place _ => disk.readAt place ""
  | .directory place =>
    .error (.opening (if (disk.limitsAt place).unreadable then .denied else .isDirectory))
  | .vacant .. => .error (.opening .absent)
  | .noDirectory reason | .nowhere reason => .error (.opening reason)

/-- Makes the file, or replaces what it holds. -/
def store (disk : Disk) (place : Path) (text : String) : Disk :=
  if (disk.text? place).isSome then
    { disk with files := disk.files.map fun (file, old) =>
      (file, if file = place then text else old) }
  else { disk with files := disk.files ++ [(place, text)] }

/-- Opens a path for writing, which makes the file or empties it. A slash at the end always asks for
a directory. -/
def openToWrite (disk : Disk) (path : String) : Except FileError (Handle × Disk) :=
  let grant (guard : Path) (handle : Handle) (opened : Disk) : Except FileError (Handle × Disk) :=
    match (disk.limitsAt guard).unwritable with
    | some reason => .error reason
    | none => .ok (handle, opened)
  match disk.target path with
  | .file place _ => grant place (.file place) (disk.store place "")
  | .vacant parent name =>
    grant parent (.file (parent ++ [name])) (disk.store (parent ++ [name]) "")
  | .device place device => grant place (.device place device) disk
  | .directory _ | .noDirectory _ => .error .isDirectory
  | .nowhere reason => .error reason

/-- Where writing to what has been opened breaks off, if it does. -/
def breakAt? (disk : Disk) : Handle → Option Break
  | .device _ .full => some ⟨0, .noSpace⟩
  | .file place | .device place _ => (disk.limitsAt place).breaks

/-- What gets through of a text that is written. -/
def passed (disk : Disk) (handle : Handle) (text : String) : String :=
  match disk.breakAt? handle with
  | some broken => String.ofList (text.toList.take broken.kept)
  | none => text

def put (disk : Disk) (text : String) : Handle → Disk
  | .file place => disk.store place text
  | .device .. => disk

/-- What has come of writing to a path. -/
structure Written where
  disk : Disk
  stdout : String := ""
  stderr : String := ""
  trouble : Option Trouble := none

def write (disk : Disk) (path text : String) : Written :=
  match disk.openToWrite path with
  | .error reason => { disk, trouble := some (.opening reason) }
  | .ok (handle, opened) =>
    let text := opened.passed handle text
    { disk := opened.put text handle
      stdout := handle.given .stdout text
      stderr := handle.given .stderr text
      trouble := (opened.breakAt? handle).map (.opened ·.reason) }

/-- The files below the place where the command runs that the other disk does not hold with the same
text, by their names from there. -/
def changesSince (disk old : Disk) : List (Path × String) :=
  disk.files.filterMap fun (path, _) =>
    if disk.here.isPrefixOf path ∧ disk.text? path ≠ old.text? path then
      (disk.text? path).map (path.drop disk.here.length, ·)
    else none

end Disk

end SeqChart.Command
