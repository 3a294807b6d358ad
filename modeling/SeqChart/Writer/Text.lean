import SeqChart.Chart.Basic
import SeqChart.Text.Word
import SeqChart.Writer.Dialect
/-!
The text of a chart, laid out over lines or as short as can be.
-/

namespace SeqChart

/-- How a chart is written. -/
structure Style where
  minify : Bool := false
  dialect : Dialect := .standard
deriving DecidableEq, Repr

namespace Writer

/-- A quote inside a text is escaped; a backslash is not. -/
def quote (s : List Char) : List Char :=
  '"' :: s.flatMap (fun c => if c = '"' then ['\\', '"'] else [c]) ++ ['"']

/-- Whether a name reads back as itself without quotes. -/
def isBareName (name : String) : Bool :=
  !name.isEmpty && name.toList.all Text.isWord && !quotedWords.contains (Text.lowerText name)

def nameText (name : String) : List Char :=
  if isBareName name then name.toList else quote name.toList

/-- An end of a message; the broadcast star is never quoted. -/
def endText (name : String) : List Char :=
  if name = broadcast then broadcast.toList else nameText name

def space (style : Style) : List Char := if style.minify then [] else [' ']

def lineEnd (style : Style) : List Char := if style.minify then [] else ['\n']

def margin (style : Style) (level : Nat) : List Char :=
  if style.minify then [] else List.replicate (2 * level) ' '

def isBlockComment (comment : List Char) : Bool := ['/', '*'].isPrefixOf comment

/-- Comments before an item; a line comment always ends its line. -/
def commentsText (style : Style) (level : Nat) (comments : List String) : List Char :=
  comments.flatMap fun comment =>
    if style.minify && isBlockComment comment.toList then comment.toList
    else margin style level ++ comment.toList ++ ['\n']

def attributesText (style : Style) (attrs : Mapping String String) : List Char :=
  let pairs := style.dialect.attributes.filterMap fun name =>
    (attrs.get? name).map fun value => name.toList ++ '=' :: quote value.toList
  if pairs.isEmpty then []
  else space style ++ '[' :: List.intercalate (',' :: space style) pairs ++ [']']

/-- An option that the dialect knows. The automatic width is what an unset width means. -/
def settingText? (style : Style) (setting : Setting String Bool) : Option (List Char) :=
  if !style.dialect.options.contains setting.name then none
  else match setting with
    | .text option value =>
      if option = .width ∧ value = "auto" then none
      else some (option.name.toList ++ '=' :: quote value.toList)
    | .flag option value =>
      some (option.name.toList ++ '=' :: (if value then "true" else "false").toList)

/-- Items on lines of their own with commas between them and a semicolon at the end, each with the
comments before it; an empty line follows. -/
def listText (style : Style) (items : List (List String × List Char)) : List Char :=
  if items.isEmpty then [] else go items ++ lineEnd style
where
  go : List (List String × List Char) → List Char
    | [] => []
    | (comments, item) :: rest =>
      commentsText style 1 comments ++ margin style 1 ++ item ++
        (if rest.isEmpty then ';' else ',') :: lineEnd style ++ go rest

def optionsText (style : Style) (options : Options String Bool String) : List Char :=
  listText style ((options.settings.filterMap (settingText? style)).map ([], ·))

def entityText (style : Style) (entity : Entity String String) : List Char :=
  nameText entity.name ++ attributesText style entity.attrs

/-- Two ends with an operator or keyword between them. -/
def headText (source : List Char) (operator : String) (target : List Char) : List Char :=
  source ++ ' ' :: operator.toList ++ ' ' :: target

/-- What ends the line of an arc in a row. -/
def arcEnd (style : Style) (arc : Arc String String) : List Char :=
  if arc.isInline && style.dialect.blockForm.closingEndsLine then ['\n'] else lineEnd style

mutual

def arcText (style : Style) (level : Nat) : Arc String String → List Char
  | .message kind source target attrs _ =>
    headText (endText source) kind.token (endText target) ++ attributesText style attrs
  | .box kind source target attrs _ =>
    headText (nameText source) kind.token (nameText target) ++ attributesText style attrs
  | .empty kind attrs _ => kind.token.toList ++ attributesText style attrs
  | .inline kind source target rows attrs _ =>
    let form := style.dialect.blockForm
    headText (nameText source) (form.operator?.getD kind.token) (nameText target) ++
      attributesText style attrs ++ (if form.openingApart then space style else []) ++
      form.opening :: lineEnd style ++ rowsText style (level + 1) rows ++
      margin style (level - form.outdent) ++ [form.closing]

/-- Arcs of one row, each with its comments. -/
def rowText (style : Style) (level : Nat) : List (Arc String String) → List Char
  | [] => []
  | arc :: rest =>
    commentsText style level arc.comments ++ margin style level ++ arcText style level arc ++
      (if rest.isEmpty then ';' else ',') :: arcEnd style arc ++ rowText style level rest

def rowsText (style : Style) (level : Nat) : List (List (Arc String String)) → List Char
  | [] => []
  | row :: rest => rowText style level row ++ rowsText style level rest

end

/-- The text of a chart. -/
def chartText (style : Style) (chart : Chart) : List Char :=
  chart.comments.flatMap (·.toList ++ ['\n']) ++ "msc".toList ++ space style ++
    '\x7b' :: lineEnd style ++ optionsText style chart.options ++
    listText style (chart.entities.map fun entity => (entity.comments, entityText style entity)) ++
    rowsText style 1 chart.rows ++ ['\x7d']

end Writer

end SeqChart
