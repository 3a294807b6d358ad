import SeqChart.Command.Run
/-!
The command line.
-/

namespace SeqChart.Command

/-- The error that the system reports, if it is one that files usually have. Some calls give its
number with a minus sign. -/
def fileError? : IO.Error → Option FileError
  | .noFileOrDirectory _ code _ | .inappropriateType _ code _ | .resourceExhausted _ code _
  | .invalidArgument _ code _ | .permissionDenied _ code _ | .resourceBusy code _
  | .hardwareFault code _ | .otherError code _ => FileError.ofCode? code.toInt32.toInt.natAbs
  | _ => none

/-- What is said about a path that cannot be used. -/
def explain (e : IO.Error) (trouble : FileError → Trouble) (path : String) : String :=
  match fileError? e with
  | some e => (trouble e).message path
  | none => toString e

def refuse : IO UInt32 := do
  IO.eprint usage
  return 2

/-- What a stream is given of a text. -/
def shown (stream : IO.FS.Stream) (text : String) : IO String := do
  return if ← stream.isTty then text else Console.standard.printed text

def stop (request : Request) (notes : List Note) (failure : Failure) : IO UInt32 := do
  IO.eprint (request.trace notes ++ (← shown (← IO.getStderr) failure.message))
  return 1

def save (request : Request) (notes : List Note) (path text : String) : IO UInt32 := do
  match ← (IO.FS.Handle.mk path .write).toBaseIO with
  | .error e => stop request notes (.write path (explain e .opening path))
  | .ok file =>
    match ← (do file.putStr text; file.flush : IO Unit).toBaseIO with
    | .error e => stop request notes (.write path (explain e .opened path))
    | .ok _ =>
      IO.eprint (request.trace notes)
      return 0

/-- Turns the input into the output and puts it where it belongs. -/
def finish (request : Request) (input : String) : IO UInt32 := do
  let work := request.produce input
  match work.outcome with
  | .error failure => stop request work.notes failure
  | .ok text =>
    match request.output with
    | none =>
      IO.eprint (request.trace work.notes)
      IO.print (← shown (← IO.getStdout) text)
      return 0
    | some path => save request work.notes path text

def start (arguments : List String) : IO UInt32 := do
  match Request.ofArguments? arguments with
  | none => refuse
  | some request =>
    match request.input with
    | none => finish request (← (← IO.getStdin).readToEnd)
    | some path =>
      match ← (IO.FS.readFile path).toBaseIO with
      | .ok input => finish request input
      | .error e =>
        match fileError? e with
        | some .absent | some .denied | some .notDirectory | some .nameTooLong => refuse
        | _ => stop request [] (.read path (explain e .opening path))

end SeqChart.Command

def main (arguments : List String) : IO UInt32 := SeqChart.Command.start arguments
