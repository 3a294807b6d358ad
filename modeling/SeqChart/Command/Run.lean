import SeqChart.Chart.Unload
import SeqChart.Command.Console
import SeqChart.Data.Json
import SeqChart.Translate
/-!
Running a request: the input is read and turned into a text, and only then is anything opened for
writing. A file gets the text as it is, also one that stands for an output stream; an output stream
itself gets what the console makes of it. The output streams take all that they are given.
-/

namespace SeqChart.Command

/-- Ends every line with a line feed alone. -/
def unixLines : List Char → List Char
  | '\r' :: '\n' :: rest => '\n' :: unixLines rest
  | '\r' :: rest => '\n' :: unixLines rest
  | c :: rest => c :: unixLines rest
  | [] => []

def unixText (text : String) : String := String.ofList (unixLines text.toList)

/-- What keeps a request from being carried out. -/
inductive Failure where
  | read (path : String) (reason : String)
  | source (e : SyntaxError)
  | render (e : RenderError)
  | write (path : String) (reason : String)

def Failure.message : Failure → String
  | .read path reason => s!"error: cannot read '{path}': {reason}\n"
  | .source e => s!"parse error:\n{e.message}\n"
  | .render (.misfit reason) => s!"error: {reason.message}\n"
  | .render .extraKeys => "error: extra options must have texts for keys\n"
  | .write path reason => s!"error: cannot write '{path}': {reason}\n"

/-- The chart as JSON or in the dialect asked for. -/
def Request.form (request : Request) (chart : Chart) : Logged Failure String :=
  if request.json then pure (Json.document chart.toPlain)
  else (chart.render { minify := request.minify, dialect := request.dialect }).mapError .render

/-- The output of a request for an input, with a line feed at its end. -/
def Request.produce (request : Request) (input : String) : Logged Failure String := do
  let chart ← (Chart.read (unixText input)).mapError .source
  let text ← request.form chart
  let text := text.push '\n'
  Logged.note [.written text.length]
  return text

/-- What a command leaves behind; neither of the output streams is a terminal. -/
structure Result where
  exit : Nat
  stdout : String
  stderr : String
  disk : Disk
deriving DecidableEq, Repr

/-- The debug output, if it is asked for. -/
def Request.trace (request : Request) (notes : List Note) : String :=
  if request.debug then String.join (notes.map Note.line) else ""

def Request.fails (request : Request) (console : Console) (disk : Disk) (notes : List Note)
    (failure : Failure) : Result :=
  ⟨1, "", request.trace notes ++ console.printed failure.message, disk⟩

def Request.input? (request : Request) (disk : Disk) (stdin : String) : Except Failure String :=
  match request.input with
  | none => .ok stdin
  | some path => (disk.read stdin path).mapError fun trouble => .read path (trouble.message path)

/-- Writes the output to a path. Where that breaks off, what is there by then stays. -/
def Request.save (request : Request) (console : Console) (disk : Disk) (notes : List Note)
    (path text : String) : Result :=
  let written := disk.write path text
  let trace := request.trace notes ++ written.stderr
  match written.trouble with
  | none => ⟨0, written.stdout, trace, written.disk⟩
  | some trouble =>
    let failure := Failure.write path (trouble.message path)
    ⟨1, written.stdout, trace ++ console.printed failure.message, written.disk⟩

def Request.run (request : Request) (console : Console) (disk : Disk) (stdin : String) : Result :=
  match request.input? disk stdin with
  | .error failure => request.fails console disk [] failure
  | .ok input =>
    let work := request.produce input
    match work.outcome with
    | .error failure => request.fails console disk work.notes failure
    | .ok text =>
      match request.output with
      | none => ⟨0, console.printed text, request.trace work.notes, disk⟩
      | some path => request.save console disk work.notes path text

/-- Runs a command. Nothing when the console refuses its arguments. -/
def run? (arguments : List String) (disk : Disk) (stdin : String)
    (console : Console := .standard) : Option Result :=
  (console.request? disk arguments).map fun request => request.run console disk stdin

/-- What comes of a command in any case. -/
def execute (arguments : List String) (disk : Disk) (stdin : String)
    (console : Console := .standard) : Result :=
  (run? arguments disk stdin console).getD ⟨2, "", console.refusal disk arguments, disk⟩

end SeqChart.Command
