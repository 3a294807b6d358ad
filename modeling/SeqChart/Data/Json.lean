import SeqChart.Data.Plain
/-!
Plain data as a JSON document of ASCII characters, two columns to a level.
-/

namespace SeqChart.Json

/-- The `\u` escapes of a character, two for one beyond the sixteen-bit range. -/
def unitEscapes (code : Nat) : List Char :=
  let unit (n : Nat) := ['\\', 'u'] ++ Text.hexDigits 4 n
  if code < 0x10000 then unit code
  else
    let above := code - 0x10000
    unit (0xD800 + above / 0x400) ++ unit (0xDC00 + above % 0x400)

def escapeChar (c : Char) : List Char :=
  if c = '"' ∨ c = '\\' then ['\\', c]
  else if c = '\n' then ['\\', 'n']
  else if c = '\r' then ['\\', 'r']
  else if c = '\t' then ['\\', 't']
  else if c = '\x0c' then ['\\', 'f']
  else if c = '\x08' then ['\\', 'b']
  else if 0x20 ≤ c.toNat ∧ c.toNat < 0x7F then [c]
  else unitEscapes c.toNat

def quoted (s : String) : String :=
  String.ofList ('"' :: s.toList.flatMap escapeChar ++ ['"'])

/-- A single value, without the quotes of a text. -/
def bareText : Scalar → String
  | .null => "null"
  | .bool b => if b then "true" else "false"
  | .int n => toString n
  | .float (.infinite negative) => if negative then "-Infinity" else "Infinity"
  | .float x => x.shown
  | .text s => s

def scalarText : Scalar → String
  | .text s => quoted s
  | other => bareText other

/-- Items between brackets, each on a line of its own; nothing stands between empty brackets. -/
def bracketed (level : Nat) (opening closing : String) (items : List String) : String :=
  let line (level : Nat) := "\n" ++ String.ofList (List.replicate (2 * level) ' ')
  if items.isEmpty then opening ++ closing
  else
    opening ++ line (level + 1) ++ String.intercalate ("," ++ line (level + 1)) items ++
      line level ++ closing

mutual

def write (level : Nat) : Plain → String
  | .scalar value => scalarText value
  | .list items => bracketed level "[" "]" (writeItems (level + 1) items)
  | .object members => bracketed level "\x7b" "\x7d" (writeMembers (level + 1) members)

def writeItems (level : Nat) : List Plain → List String
  | [] => []
  | item :: rest => write level item :: writeItems level rest

def writeMembers (level : Nat) : List (Scalar × Plain) → List String
  | [] => []
  | (key, value) :: rest =>
    (quoted (bareText key) ++ ": " ++ write level value) :: writeMembers level rest

end

/-- The document that holds a value. -/
def document (value : Plain) : String := write 0 value

example : document (.record [("a", .list [.int 1, .null]), ("é😀", .list [])]) =
    "\x7b\n  \"a\": [\n    1,\n    null\n  ],\n  \"\\u00e9\\ud83d\\ude00\": []\n\x7d" := by
  decide +kernel

end SeqChart.Json
