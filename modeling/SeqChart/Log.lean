/-!
Notes made while charts are read and written. They are kept when the work fails later on.
-/

namespace SeqChart

inductive Note where
  | read (options entities rows : Nat)
  | droppedOption (name : String)
  | droppedExtra (names : List String)
  | written (characters : Nat)
deriving DecidableEq, Repr

namespace Note

def text : Note → String
  | .read options entities rows =>
    s!"parsed chart: {options} option(s), {entities} entit(y/ies), {rows} arc row(s)"
  | .droppedOption name => s!"dropping option '{name}': not supported by this dialect"
  | .droppedExtra names => "dropping unsupported option(s): " ++ String.intercalate ", " names
  | .written characters => s!"rendered {characters} character(s)"

/-- The part of the program that a note is attributed to. -/
def logger : Note → String
  | .read .. => "msc_text.parsers.mscgen"
  | .droppedOption _ | .droppedExtra _ => "msc_text.renderers.text"
  | .written _ => "msc_text.__main__"

/-- A line of the debug output. -/
def line (note : Note) : String := "DEBUG:" ++ note.logger ++ ":" ++ note.text ++ "\n"

end Note

/-- An outcome, with the notes made before it. -/
structure Logged (ε α : Type) where
  notes : List Note
  outcome : Except ε α

namespace Logged

variable {ε α β : Type}

instance : Monad (Logged ε) where
  pure a := ⟨[], .ok a⟩
  bind x f := match x.outcome with
    | .error e => ⟨x.notes, .error e⟩
    | .ok a => ⟨x.notes ++ (f a).notes, (f a).outcome⟩

/-- An outcome without notes. -/
def quiet (outcome : Except ε α) : Logged ε α := ⟨[], outcome⟩

def note (notes : List Note) : Logged ε Unit := ⟨notes, .ok ()⟩

def mapError {ε' : Type} (f : ε → ε') (x : Logged ε α) : Logged ε' α :=
  ⟨x.notes, x.outcome.mapError f⟩

end Logged

end SeqChart
