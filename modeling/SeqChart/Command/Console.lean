import SeqChart.Command.Disk
import SeqChart.Command.Request
import SeqChart.Text.Control
/-!
The library that a command takes its arguments and prints through. It is a parameter of the command,
and the standard one is what the program runs with.
-/

namespace SeqChart.Command

structure Console where
  /-- What the arguments ask for; nothing when they are refused. -/
  request? (disk : Disk) (arguments : List String) : Option Request
  /-- What is said then. -/
  refusal (disk : Disk) (arguments : List String) : String
  /-- What an output stream is given of a text, unless it is a terminal. -/
  printed (text : String) : String

/-- Whether the input of a request is there and may be read. -/
def Request.hasInput (request : Request) (disk : Disk) : Bool := request.input.all disk.isReadable

def usage : String :=
  "usage: seqchart [--minify] [--dialect xu|mscgen] [--json] [--output FILE] [INPUT]\n"

/-- Control sequences go to terminals alone. -/
def Console.standard : Console where
  request? disk arguments := do
    let request ← Request.ofArguments? arguments
    if request.hasInput disk then some request else none
  refusal _ _ := usage
  printed text := String.ofList (Text.withoutSequences text.toList)

end SeqChart.Command
