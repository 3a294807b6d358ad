import Mathlib.Data.List.Perm.Subperm
import SeqChart.Data.Mapping
/-!
Mappings up to the order of their entries. Main statement, `beq_iff`: two mappings are equal when
every key has the same value in both.
-/

namespace SeqChart.Mapping

section Loose

/-! Keys and values that are equal need not be the same. -/

variable {κ ν : Type} [BEq κ]

theorem eq_empty_of_isEmpty {m : Mapping κ ν} (empty : m.isEmpty = true) : m = ∅ := by
  obtain ⟨entries, apart⟩ := m
  obtain rfl : entries = [] := List.isEmpty_iff.1 empty
  rfl

variable [ReflBEq κ]

theorem find?_of_mem {entries : List (κ × ν)} (apart : KeysApart entries) {key : κ} {value : ν}
    (member : (key, value) ∈ entries) :
    entries.find? (·.1 == key) = some (key, value) := by
  induction entries with
  | nil => cases member
  | cons head rest step =>
    obtain ⟨fresh, apart⟩ := List.pairwise_cons.1 apart
    rcases List.mem_cons.1 member with rfl | inRest
    · simp
    · rw [List.find?_cons, fresh _ inRest]
      exact step apart inRest

instance [BEq ν] [ReflBEq ν] : ReflBEq (Mapping κ ν) where
  rfl {m} := by
    have kept : m.entries.all (fun (k, v) => (m.get? k).any (v == ·)) = true := by
      refine List.all_eq_true.2 fun (key, value) member => ?_
      show (m.get? key).any (value == ·) = true
      rw [get?, find?_of_mem m.apart member]
      exact BEq.rfl
    simpa [BEq.beq] using kept

end Loose

variable {κ ν : Type} [BEq κ] [LawfulBEq κ]

theorem apart_iff_nodup {entries : List (κ × ν)} :
    KeysApart entries ↔ (entries.map (·.1)).Nodup := by
  rw [KeysApart, List.Nodup, List.pairwise_map]
  simp

theorem nodup_keys (m : Mapping κ ν) : m.keys.Nodup := apart_iff_nodup.1 m.apart

theorem get?_eq_some_iff {m : Mapping κ ν} {key : κ} {value : ν} :
    m.get? key = some value ↔ (key, value) ∈ m.entries := by
  rw [get?]
  constructor
  · intro found
    obtain ⟨⟨k, v⟩, found', same⟩ := Option.map_eq_some_iff.1 found
    have sameKey : k = key := by simpa using List.find?_some found'
    have sameValue : v = value := same
    exact sameKey ▸ sameValue ▸ List.mem_of_find?_eq_some found'
  · intro member
    rw [find?_of_mem m.apart member]
    rfl

theorem get?_eq_none_iff {m : Mapping κ ν} {key : κ} : m.get? key = none ↔ key ∉ m.keys := by
  constructor
  · intro absent member
    obtain ⟨⟨k, v⟩, there, rfl⟩ := List.mem_map.1 member
    cases (get?_eq_some_iff.2 there).symm.trans absent
  · intro absent
    cases found : m.get? key with
    | none => rfl
    | some value => exact absurd (List.mem_map_of_mem (get?_eq_some_iff.1 found)) absent

/-- Equal mappings have the same keys. -/
theorem keys_perm_of_beq [BEq ν] {a b : Mapping κ ν} (same : (a == b) = true) :
    a.keys.Perm b.keys := by
  obtain ⟨lengths, kept⟩ : a.entries.length = b.entries.length ∧
      ∀ entry ∈ a.entries, ((b.get? entry.1).any (entry.2 == ·)) = true := by
    simpa [BEq.beq] using same
  have inside : a.keys ⊆ b.keys := by
    intro key member
    obtain ⟨entry, there, rfl⟩ := List.mem_map.1 member
    by_contra absent
    have := kept entry there
    rw [get?_eq_none_iff.2 absent] at this
    cases this
  exact (List.subperm_of_subset a.nodup_keys inside).perm_of_length_le (by simp [keys, lengths])

/-- The order of the entries does not count. -/
theorem beq_iff [BEq ν] [LawfulBEq ν] {a b : Mapping κ ν} :
    (a == b) = true ↔ ∀ key, a.get? key = b.get? key := by
  have unfolded : (a == b) = true ↔ a.entries.length = b.entries.length ∧
      ∀ key value, a.get? key = some value → b.get? key = some value := by
    simp only [BEq.beq, Bool.and_eq_true, List.all_eq_true, Prod.forall, get?_eq_some_iff]
    refine and_congr (by simp) (forall₂_congr fun key value => imp_congr_right fun _ => ?_)
    rw [Option.any_eq_true, ← get?_eq_some_iff]
    constructor
    · rintro ⟨found, present, same⟩
      rw [present, eq_of_beq same]
    · exact fun present => ⟨value, present, beq_self_eq_true value⟩
  constructor
  · intro same key
    cases found : a.get? key with
    | some value => exact ((unfolded.1 same).2 key value found).symm
    | none =>
      have absent := get?_eq_none_iff.1 found
      rw [(keys_perm_of_beq same).mem_iff] at absent
      exact (get?_eq_none_iff.2 absent).symm
  · intro same
    have members (key : κ) : key ∈ a.keys ↔ key ∈ b.keys := by
      rw [← not_iff_not, ← get?_eq_none_iff, ← get?_eq_none_iff, same key]
    have keys := ((List.perm_ext_iff_of_nodup a.nodup_keys b.nodup_keys).2 members).length_eq
    exact unfolded.2 ⟨by simpa [Mapping.keys] using keys,
      fun key value found => same key ▸ found⟩

theorem beq_symm [BEq ν] [LawfulBEq ν] {a b : Mapping κ ν} (same : (a == b) = true) :
    (b == a) = true :=
  beq_iff.2 fun key => (beq_iff.1 same key).symm

theorem beq_trans [BEq ν] [LawfulBEq ν] {a b c : Mapping κ ν} (first : (a == b) = true)
    (second : (b == c) = true) : (a == c) = true :=
  beq_iff.2 fun key => (beq_iff.1 first key).trans (beq_iff.1 second key)

theorem eq_empty_of_beq [BEq ν] [LawfulBEq ν] {m : Mapping κ ν}
    (same : ((∅ : Mapping κ ν) == m) = true) : m = ∅ := by
  have nothing := beq_iff.1 same
  cases m with
  | mk entries apart =>
    cases entries with
    | nil => rfl
    | cons entry rest =>
      have present : (Mapping.mk (entry :: rest) apart).get? entry.1 = some entry.2 :=
        get?_eq_some_iff.2 (by simp)
      cases (nothing entry.1).trans present

theorem mem_of_get?_foldl {m : Mapping κ ν} {entries : List (κ × ν)} {key : κ} {value : ν}
    (found : (entries.foldl (fun m (k, v) => m.insert k v) m).get? key = some value) :
    (key, value) ∈ entries ∨ m.get? key = some value := by
  induction entries generalizing m with
  | nil => exact .inr found
  | cons head rest step =>
    rcases step found with member | found
    · exact .inl (List.mem_cons_of_mem _ member)
    · rw [get?_insert] at found
      split at found
      · rename_i same
        have sameKey : head.1 = key := by simpa using same
        have sameValue : head.2 = value := by simpa using found
        exact .inl (by simp [← sameKey, ← sameValue])
      · exact .inr found

/-- What is found in a mapping is one of the entries it was made from. -/
theorem mem_of_get?_ofList {entries : List (κ × ν)} {key : κ} {value : ν}
    (found : (ofList entries).get? key = some value) : (key, value) ∈ entries :=
  (mem_of_get?_foldl found).resolve_right (by simp [empty, get?])

/-- The entries under some names, in the order of these names. -/
theorem get?_ofList_names {names : List κ} (nodup : names.Nodup) (m : Mapping κ ν) (key : κ) :
    (ofList (names.filterMap fun name => (m.get? name).map (name, ·))).get? key =
      if key ∈ names then m.get? key else none := by
  have apart : KeysApart (names.filterMap fun name => (m.get? name).map (name, ·)) := by
    rw [KeysApart, List.pairwise_filterMap]
    refine nodup.imp fun {name other} differs entry present entry' present' => ?_
    obtain ⟨_, -, rfl⟩ := Option.map_eq_some_iff.1 present
    obtain ⟨_, -, rfl⟩ := Option.map_eq_some_iff.1 present'
    simpa using differs
  ext value
  rw [get?_eq_some_iff, entries_ofList apart, List.mem_filterMap]
  constructor
  · rintro ⟨name, member, present⟩
    obtain ⟨v, found, same⟩ := Option.map_eq_some_iff.1 present
    cases same
    rw [if_pos member, found]
  · intro found
    split at found
    · rename_i member
      exact ⟨key, member, by rw [found]; rfl⟩
    · cases found

/-- The same mapping without one of its keys. -/
def without (m : Mapping κ ν) (key : κ) : Mapping κ ν :=
  ⟨m.entries.filter (·.1 != key), m.apart.filter _⟩

theorem get?_without (m : Mapping κ ν) (key other : κ) :
    (m.without key).get? other = if other == key then none else m.get? other := by
  rw [get?, without, List.find?_filter]
  split
  · rename_i same
    obtain rfl := eq_of_beq same
    rw [List.find?_eq_none.2 fun entry _ => by simp]
    rfl
  · rename_i differs
    rw [get?]
    congr 2
    funext entry
    by_cases same : entry.1 = other
    · simpa [same] using differs
    · simp [same]

end SeqChart.Mapping
