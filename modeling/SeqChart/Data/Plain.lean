import SeqChart.Data.Scalar
/-!
Plain data: what a chart is written down as, and read from. Objects keep the order of their members;
their keys are texts in a document, but a member of a chart may be keyed by any single value.
-/

namespace SeqChart

inductive Plain where
  | scalar (value : Scalar)
  | list (items : List Plain)
  | object (members : List (Scalar × Plain))
deriving Repr

namespace Plain

abbrev null : Plain := .scalar .null
abbrev bool (b : Bool) : Plain := .scalar (.bool b)
abbrev int (n : Int) : Plain := .scalar (.int n)
abbrev text (s : String) : Plain := .scalar (.text s)

/-- An object whose keys are texts. -/
def record (members : List (String × Plain)) : Plain :=
  .object (members.map fun (name, value) => (.text name, value))

/-- A list of texts. -/
def texts (items : List String) : Plain := .list (items.map text)

/-- The value of the member of that name. -/
def member? (name : String) (members : List (Scalar × Plain)) : Option Plain :=
  (members.find? (·.1 == .text name)).map (·.2)

mutual

/-- Equality by value; the order of an object's members does not count. -/
def same : Plain → Plain → Bool
  | .scalar a, .scalar b => a == b
  | .list as, .list bs => sameItems as bs
  | .object as, .object bs =>
    sameMembers [] as bs && bs.all fun (key, _) => as.any (·.1 == key)
  | _, _ => false

def sameItems : List Plain → List Plain → Bool
  | [], [] => true
  | a :: as, b :: bs => same a b && sameItems as bs
  | _, _ => false

/-- Every member of the first has an equal one among the second, but for members whose key is among
the keys `seen` before: of members with one key the first counts. -/
def sameMembers (seen : List Scalar) : List (Scalar × Plain) → List (Scalar × Plain) → Bool
  | [], _ => true
  | (key, a) :: as, bs =>
    (seen.any (· == key) || match bs.find? (·.1 == key) with
      | some (_, b) => same a b
      | none => false) && sameMembers (key :: seen) as bs

end

instance : BEq Plain := ⟨same⟩

/-- Whether the value counts as something: not nothing, zero, false or empty. -/
def isSet : Plain → Bool
  | .scalar value => value.isSet
  | .list items => !items.isEmpty
  | .object members => !members.isEmpty

/-- What going through the value gives: the items of a list, the characters of a text, the keys of
an object. -/
def elements? : Plain → Option (List Plain)
  | .list items => some items
  | .object members => some (members.map fun (key, _) => .scalar key)
  | .scalar (.text s) => some (s.toList.map fun c => .text (String.singleton c))
  | .scalar _ => none

example : record [("a", .int 1), ("b", .null)] == record [("b", .null), ("a", .bool true)] := by
  decide +kernel

end Plain

/-- A value other than nothing. -/
structure Present where
  value : Plain
  present : value ≠ .null

namespace Present

instance : BEq Present := ⟨fun a b => a.value == b.value⟩

instance : Repr Present := ⟨fun a => reprPrec a.value⟩

/-- The value, if it is one. -/
def of? : Plain → Option Present
  | .scalar .null => none
  | .scalar (.bool b) => some ⟨.bool b, by simp⟩
  | .scalar (.int n) => some ⟨.int n, by simp⟩
  | .scalar (.float x) => some ⟨.scalar (.float x), by simp⟩
  | .scalar (.text s) => some ⟨.text s, by simp⟩
  | .list items => some ⟨.list items, by simp⟩
  | .object members => some ⟨.object members, by simp⟩

def ofText (s : String) : Present := ⟨.text s, by simp⟩

def ofBool (b : Bool) : Present := ⟨.bool b, by simp⟩

end Present

end SeqChart
