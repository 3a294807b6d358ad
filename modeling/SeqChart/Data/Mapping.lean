/-!
Mappings that keep the order in which their keys came. No key occurs twice. A later value for a key
takes the place of the earlier one. Main statements: looking a key up after `insert`, and a list of
entries with different keys is kept as it is.
-/

namespace SeqChart

variable {κ ν : Type}

/-- Replaces the value of a key that is there, and appends a key that is not. -/
def insertEntry [BEq κ] (key : κ) (value : ν) : List (κ × ν) → List (κ × ν)
  | [] => [(key, value)]
  | (k, v) :: rest => if k == key then (k, value) :: rest else (k, v) :: insertEntry key value rest

/-- No two keys are equal. -/
def KeysApart [BEq κ] (entries : List (κ × ν)) : Prop :=
  entries.Pairwise fun earlier later => (earlier.1 == later.1) = false

theorem key_of_mem_insertEntry [BEq κ] {key : κ} {value : ν} {entries : List (κ × ν)}
    {entry : κ × ν} (member : entry ∈ insertEntry key value entries) :
    entry.1 = key ∨ ∃ old ∈ entries, old.1 = entry.1 := by
  induction entries with
  | nil => simp_all [insertEntry]
  | cons head rest step =>
    obtain ⟨k, v⟩ := head
    rw [insertEntry] at member
    split at member
    · rcases List.mem_cons.1 member with rfl | inRest
      · exact .inr ⟨(k, v), by simp, rfl⟩
      · exact .inr ⟨entry, List.mem_cons_of_mem _ inRest, rfl⟩
    · rcases List.mem_cons.1 member with rfl | inRest
      · exact .inr ⟨(k, v), by simp, rfl⟩
      · exact (step inRest).imp_right fun ⟨old, there, same⟩ =>
          ⟨old, List.mem_cons_of_mem _ there, same⟩

theorem KeysApart.insertEntry [BEq κ] {entries : List (κ × ν)} (apart : KeysApart entries)
    (key : κ) (value : ν) : KeysApart (insertEntry key value entries) := by
  induction entries with
  | nil => exact List.pairwise_singleton ..
  | cons head rest step =>
    obtain ⟨k, v⟩ := head
    obtain ⟨fresh, apart⟩ := List.pairwise_cons.1 apart
    rw [SeqChart.insertEntry]
    split
    · exact List.pairwise_cons.2 ⟨fresh, apart⟩
    · rename_i differs
      refine List.pairwise_cons.2 ⟨fun entry member => ?_, step apart⟩
      rcases key_of_mem_insertEntry member with same | ⟨old, there, same⟩
      · simpa [same] using differs
      · simpa [same] using fresh old there

structure Mapping (κ ν : Type) [BEq κ] where
  entries : List (κ × ν)
  apart : KeysApart entries

namespace Mapping

variable [BEq κ]

instance [DecidableEq κ] [DecidableEq ν] : DecidableEq (Mapping κ ν) := fun a b =>
  decidable_of_iff (a.entries = b.entries) (by cases a; cases b; simp)

instance [Repr κ] [Repr ν] : Repr (Mapping κ ν) where
  reprPrec m := reprPrec m.entries

def empty : Mapping κ ν := ⟨[], .nil⟩

instance : Inhabited (Mapping κ ν) := ⟨empty⟩

instance : EmptyCollection (Mapping κ ν) := ⟨empty⟩

def insert (m : Mapping κ ν) (key : κ) (value : ν) : Mapping κ ν :=
  ⟨insertEntry key value m.entries, m.apart.insertEntry key value⟩

/-- Of equal keys the last value counts, in the place of the first. -/
def ofList (entries : List (κ × ν)) : Mapping κ ν :=
  entries.foldl (fun m (k, v) => m.insert k v) empty

def get? (m : Mapping κ ν) (key : κ) : Option ν :=
  (m.entries.find? (·.1 == key)).map (·.2)

def keys (m : Mapping κ ν) : List κ := m.entries.map (·.1)

def isEmpty (m : Mapping κ ν) : Bool := m.entries.isEmpty

/-- The same keys with other values. -/
def mapValues {μ : Type} (f : ν → μ) (m : Mapping κ ν) : Mapping κ μ :=
  ⟨m.entries.map fun (k, v) => (k, f v), by simpa [KeysApart, List.pairwise_map] using m.apart⟩

/-- Equal keys and equal values; the order does not count. -/
instance [BEq ν] : BEq (Mapping κ ν) where
  beq a b := a.entries.length == b.entries.length &&
    a.entries.all fun (k, v) => (b.get? k).any (v == ·)

theorem find?_insertEntry [EquivBEq κ] (key other : κ) (value : ν) (entries : List (κ × ν)) :
    ((insertEntry key value entries).find? (·.1 == other)).map (·.2) =
      if key == other then some value else (entries.find? (·.1 == other)).map (·.2) := by
  induction entries with
  | nil => by_cases same : key == other <;> simp [insertEntry, same]
  | cons head rest step =>
    obtain ⟨k, v⟩ := head
    rw [insertEntry]
    by_cases replaced : k == key
    · have : (k == other) = (key == other) := BEq.congr_left replaced
      by_cases same : key == other <;> simp [replaced, this, same]
    · by_cases found : k == other
      · have : (key == other) = false := by
          rw [Bool.eq_false_iff]
          exact fun same => replaced (BEq.trans found (BEq.symm same))
        simp [replaced, found, this]
      · simpa [replaced, found] using step

theorem get?_insert [EquivBEq κ] (m : Mapping κ ν) (key other : κ) (value : ν) :
    (m.insert key value).get? other = if key == other then some value else m.get? other :=
  find?_insertEntry key other value m.entries

/-- A key that is not there is appended. -/
theorem insertEntry_of_fresh {key : κ} {value : ν} {entries : List (κ × ν)}
    (fresh : ∀ entry ∈ entries, (entry.1 == key) = false) :
    insertEntry key value entries = entries ++ [(key, value)] := by
  induction entries with
  | nil => rfl
  | cons head rest step =>
    simp [insertEntry, fresh head, step fun entry member => fresh entry (.tail _ member)]

theorem entries_foldl_insert (m : Mapping κ ν) {entries : List (κ × ν)}
    (apart : KeysApart (m.entries ++ entries)) :
    (entries.foldl (fun m (k, v) => m.insert k v) m).entries = m.entries ++ entries := by
  induction entries generalizing m with
  | nil => simp
  | cons head rest step =>
    obtain ⟨k, v⟩ := head
    have added : (m.insert k v).entries = m.entries ++ [(k, v)] :=
      insertEntry_of_fresh fun entry member =>
        (List.pairwise_append.1 apart).2.2 entry member (k, v) (by simp)
    rw [List.foldl_cons, step]
    · simp [added]
    · rw [added, List.append_assoc]
      exact apart

/-- Entries whose keys differ are kept as they are. -/
theorem entries_ofList {entries : List (κ × ν)} (apart : KeysApart entries) :
    (ofList entries).entries = entries :=
  entries_foldl_insert empty apart

theorem ofList_entries (m : Mapping κ ν) : ofList m.entries = m := by
  have same := entries_ofList m.apart
  cases h : ofList m.entries
  cases m
  simp_all

example : (ofList [("a", 1), ("b", 2), ("a", 3)]).entries = [("a", 3), ("b", 2)] := by decide

example : (ofList [("a", 1), ("b", 2)] : Mapping String Nat) == ofList [("b", 2), ("a", 1)] := by
  decide

end Mapping

end SeqChart
