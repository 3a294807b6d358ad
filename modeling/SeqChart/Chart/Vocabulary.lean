import SeqChart.Chart.Kind
import SeqChart.Text.Digit
import SeqChart.Text.Lower
/-!
The words that mean something in a chart: options, attributes, keywords, truth values, numbers.
-/

namespace SeqChart

/-- Options whose value is a text. -/
inductive TextOption where
  | hscale | width | arcgradient | watermark
deriving DecidableEq, Repr

namespace TextOption

def name : TextOption → String
  | hscale => "hscale"
  | width => "width"
  | arcgradient => "arcgradient"
  | watermark => "watermark"

/-- All but a watermark hold a number. -/
def isNumeric : TextOption → Bool
  | watermark => false
  | _ => true

end TextOption

/-- Options that are on or off. -/
inductive FlagOption where
  | wordwraparcs | wordwrapentities | wordwrapboxes
deriving DecidableEq, Repr

namespace FlagOption

def name : FlagOption → String
  | wordwraparcs => "wordwraparcs"
  | wordwrapentities => "wordwrapentities"
  | wordwrapboxes => "wordwrapboxes"

end FlagOption

inductive OptionName where
  | text (option : TextOption)
  | flag (option : FlagOption)
deriving DecidableEq, Repr

namespace OptionName

def name : OptionName → String
  | .text option => option.name
  | .flag option => option.name

/-- In the order in which a chart lists them. -/
def all : List OptionName :=
  [.text .hscale, .text .width, .text .arcgradient, .flag .wordwraparcs, .flag .wordwrapentities,
    .flag .wordwrapboxes, .text .watermark]

theorem mem_all (option : OptionName) : option ∈ all := by
  rcases option with option | option <;> cases option <;> decide

def ofName? (name : String) : Option OptionName := all.find? (·.name == name)

end OptionName

/-- In the order in which a chart lists them. -/
def attributeNames : List String :=
  ["label", "idurl", "id", "url", "linecolor", "textcolor", "textbgcolor", "arclinecolor",
    "arctextcolor", "arctextbgcolor", "arcskip", "title"]

/-- Replaces the British spelling of colour, wherever it occurs. -/
def americanSpelling : List Char → List Char
  | 'c' :: 'o' :: 'l' :: 'o' :: 'u' :: 'r' :: rest =>
    'c' :: 'o' :: 'l' :: 'o' :: 'r' :: americanSpelling rest
  | c :: rest => c :: americanSpelling rest
  | [] => []

/-- The spelling under which an attribute is known. -/
def attributeSpelling (word : String) : String :=
  String.ofList (americanSpelling (Text.lower word.toList))

def attributeName? (word : String) : Option String :=
  attributeNames.find? (· == attributeSpelling word)

/-- Words that cannot stand for an entity unless quoted. -/
def reservedWords : List String :=
  "msc" :: BoxKind.all.map BoxKind.token ++ InlineKind.all.map InlineKind.token

def trueWords : List String := ["true", "on", "1"]

def falseWords : List String := ["false", "off", "0"]

/-- The British spelling of the attributes that name a colour. -/
def britishAttributes : List String :=
  ["linecolour", "textcolour", "textbgcolour", "arclinecolour", "arctextcolour", "arctextbgcolour"]

/-- Words that are always quoted when a chart is written. -/
def quotedWords : List String :=
  reservedWords ++ OptionName.all.map OptionName.name ++ attributeNames ++ britishAttributes ++
    ["color", "colour"] ++ trueWords ++ falseWords

example : britishAttributes.map attributeSpelling =
    attributeNames.filter fun name => name.endsWith "color" := by decide +kernel

/-- The entity name that stands for every entity. -/
def broadcast : String := "*"

/-- Digits, or a fraction part with or without digits before its point. -/
def isNumber (s : List Char) : Bool :=
  match s.dropWhile Text.isDigit with
  | [] => !s.isEmpty
  | '.' :: fraction => !fraction.isEmpty && fraction.all Text.isDigit
  | _ => false

/-- How deep inline expressions nest unless a caller says otherwise. -/
def standardDepth : Int := 64

end SeqChart
