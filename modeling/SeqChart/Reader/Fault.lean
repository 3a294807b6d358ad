import SeqChart.Text.Word
/-!
What can be wrong with the text of a chart, and where.
-/

namespace SeqChart

/-- What a reader needed at a place where something else stands. -/
inductive Wanted where
  | token (text : String)
  | entityName
  | value
  | optionName
  | attributeName
  | arcHead
  /-- A comma, or the character that closes the list. -/
  | separator (close : Char)
  | endOfInput
deriving DecidableEq, Repr

def Wanted.text : Wanted → String
  | .token text => s!"'{text}'"
  | .entityName => "an entity name"
  | .value => "a value"
  | .optionName => "an option name"
  | .attributeName => "an attribute name"
  | .arcHead => "an arc operator, box or inline expression"
  | .separator close => s!"',' or '{close}'"
  | .endOfInput => "end of input"

inductive Cause where
  | expected (wanted : Wanted)
  | unterminatedComment
  | tooDeep (limit : Int)
  | unterminatedString
  | emptyName
  | reservedName (word : String)
  | unknownOption (word : String)
  | notBoolean (option value : String)
  | notNumber (option value : String)
  | unknownAttribute (word : String)
  | misplacedBroadcast
deriving DecidableEq, Repr

namespace Cause

/-- What is needed instead, where one thing is. -/
def wanted? : Cause → Option Wanted
  | .expected wanted => some wanted
  | _ => none

/-- Whether the reader stopped at the place of the fault, so that what stands there is reported.
Other faults are known only after the text that is at fault has been read. -/
def stopsThere : Cause → Bool
  | .expected _ | .unterminatedComment | .tooDeep _ => true
  | _ => false

/-- What is wrong, without the place; `found` is what stands there. -/
def text (found : String) : Cause → String
  | .expected wanted => s!"syntax error: expected {wanted.text} but found {found}"
  | .unterminatedComment => "unterminated block comment"
  | .tooDeep limit => s!"inline expressions nested deeper than {limit} levels"
  | .unterminatedString => "unterminated string"
  | .emptyName => "an entity name cannot be an empty string"
  | .reservedName word => s!"reserved word '{word}' cannot be used as an entity name unless quoted"
  | .unknownOption word => s!"unknown option '{word}'"
  | .notBoolean option value => s!"option '{option}' expects a boolean, got '{value}'"
  | .notNumber option value => s!"option '{option}' expects a number, got '{value}'"
  | .unknownAttribute word => s!"unknown attribute '{word}'"
  | .misplacedBroadcast => "'*' is only allowed on messages"

end Cause

/-- Something wrong at the place from which `rest` is left. -/
structure Fault where
  cause : Cause
  rest : List Char
deriving DecidableEq, Repr

/-- What stands at the start of a text: a whole word, a single character, or the end. -/
def foundText (rest : List Char) : String :=
  match rest with
  | [] => "end of input"
  | c :: _ =>
    let word := rest.takeWhile Text.isWord
    if word.isEmpty then s!"'{c}'" else s!"'{String.ofList word}'"

/-- A fault as it is reported; lines and columns count from 1. -/
structure SyntaxError where
  line : Nat
  column : Nat
  text : String
  expected : Option String
  found : Option String
deriving DecidableEq, Repr

def SyntaxError.message (e : SyntaxError) : String :=
  s!"line {e.line}, column {e.column}: {e.text}"

/-- The line that follows a text, and the column in it. -/
def placeAfter (before : List Char) : Nat × Nat :=
  (before.count '\n' + 1, (before.reverse.takeWhile (· != '\n')).length + 1)

/-- Reports a fault of a source that the faulty text ends. -/
def Fault.report (source : List Char) (fault : Fault) : SyntaxError :=
  let before := source.take (source.length - fault.rest.length)
  let (line, column) := placeAfter before
  let found := foundText fault.rest
  { line, column
    text := fault.cause.text found
    expected := fault.cause.wanted?.map Wanted.text
    found := if fault.cause.stopsThere then some found else none }

end SeqChart
