import SeqChart.Chart.Vocabulary
/-!
What is asked for on the command line.

Options may stand before and after the path of the input. Short ones may be joined, and the last of
them may take a value from the same word or the next one. Two dashes end the options.
-/

namespace SeqChart.Command

/-- Options that take a value. -/
inductive ValueOption where
  | dialect | output
deriving DecidableEq, Repr

/-- Options that do not. -/
inductive Switch where
  | minify | json | debug
deriving DecidableEq, Repr

/-- The words as they were given; of a repeated option the last one counts. -/
structure Words where
  minify : Bool := false
  json : Bool := false
  debug : Bool := false
  dialect : Option String := none
  output : Option String := none
  paths : List String := []
deriving DecidableEq, Repr

namespace Words

def turnOn (words : Words) : Switch → Words
  | .minify => { words with minify := true }
  | .json => { words with json := true }
  | .debug => { words with debug := true }

def set (words : Words) (value : String) : ValueOption → Words
  | .dialect => { words with dialect := some value }
  | .output => { words with output := some value }

def addPaths (words : Words) (paths : List String) : Words :=
  { words with paths := words.paths ++ paths }

end Words

def longOption? : String → Option (Switch ⊕ ValueOption)
  | "minify" => some (.inl .minify)
  | "json" => some (.inl .json)
  | "debug" => some (.inl .debug)
  | "dialect" => some (.inr .dialect)
  | "output" => some (.inr .output)
  | _ => none

def shortOption? : Char → Option (Switch ⊕ ValueOption)
  | 'm' => some (.inl .minify)
  | 'j' => some (.inl .json)
  | 'd' => some (.inr .dialect)
  | 'o' => some (.inr .output)
  | _ => none

/-- The words so far, and an option that waits for its value. -/
abbrev Progress := Words × Option ValueOption

/-- The letters of joined short options. What follows one that takes a value is that value. -/
def joined (words : Words) : List Char → Option Progress
  | [] => some (words, none)
  | c :: rest => do
    match ← shortOption? c with
    | .inl switch => joined (words.turnOn switch) rest
    | .inr option =>
      if rest.isEmpty then some (words, some option)
      else some (words.set (String.ofList rest) option, none)

/-- A long option, with a value after an equals sign or none. -/
def long (words : Words) (text : List Char) : Option Progress := do
  let name := String.ofList (text.takeWhile (· != '='))
  let value := text.dropWhile (· != '=')
  match ← longOption? name, value with
  | .inl switch, [] => some (words.turnOn switch, none)
  | .inl _, _ :: _ => none
  | .inr option, [] => some (words, some option)
  | .inr option, _ :: value => some (words.set (String.ofList value) option, none)

/-- Goes through the arguments; nothing when they cannot be understood. -/
def collect (words : Words) : List String → Option Words
  | [] => some words
  | argument :: rest =>
    let progress : Option (Option Progress) := match argument.toList with
      | ['-', '-'] => none
      | '-' :: '-' :: text => some (long words text)
      | '-' :: c :: text => some (joined words (c :: text))
      | _ => some (some (words.addPaths [argument], none))
    match progress with
    | none => some (words.addPaths rest)
    | some none => none
    | some (some (words, none)) => collect words rest
    | some (some (words, some option)) =>
      match rest with
      | [] => none
      | value :: rest => collect (words.set value option) rest

/-- Folds the case of a letter, the long s included. -/
def foldCase (c : Char) : Char := if c = 'ſ' then 's' else c.toLower

/-- A dialect by its exact name, in any case. -/
def dialectOf? : Option String → Option Dialect
  | none => some .standard
  | some word => Dialect.ofToken? (String.ofList (word.toList.map foldCase))

structure Request where
  input : Option String
  minify : Bool
  dialect : Dialect
  json : Bool
  /-- Where the output goes; an empty path stands for the standard output. -/
  output : Option String
  debug : Bool
deriving DecidableEq, Repr

/-- The request that the arguments make, if they make one. -/
def Request.ofArguments? (arguments : List String) : Option Request := do
  let words ← collect {} arguments
  let dialect ← dialectOf? words.dialect
  let input ← match words.paths with
    | [] => some none
    | [path] => some (some path)
    | _ => none
  some {
    input, dialect
    minify := words.minify
    json := words.json
    output := words.output.bind fun path => if path.isEmpty then none else some path
    debug := words.debug }

example : (Request.ofArguments? ["-jmo", "x", "--dialect=MSCGEN", "--", "-y"]).map
    (fun r => (r.input, r.output, r.dialect)) = some (some "-y", some "x", .mscgen) := by
  decide +kernel

end SeqChart.Command
