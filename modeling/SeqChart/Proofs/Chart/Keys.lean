import SeqChart.Proofs.Chart.Settings
import SeqChart.Proofs.Data.Except
import SeqChart.Proofs.Data.Mapping
import SeqChart.Proofs.Text.Folding
import SeqChart.Chart.Load
/-!
The keys of options that no dialect knows. Main statements: whatever is loaded has settled keys
(`keysSettled_of_load`), and options come back from plain data as they were when their keys are
settled (`load_toPlain`).
-/

namespace SeqChart

theorem OptionName.ofName?_eq_none_iff {text : String} :
    ofName? text = none ↔ text ∉ all.map OptionName.name := by
  simp [ofName?, List.find?_eq_none]

namespace Options

variable {τ β ξ : Type}

/-- The keys that no dialect knows are in lower case and no names of known options: put by name,
none of them would become another. -/
def KeysSettled (options : Options τ β ξ) : Prop :=
  ∀ key ∈ options.extra.keys, Text.lowerText key = key ∧ key ∉ OptionName.all.map OptionName.name

instance (options : Options τ β ξ) : Decidable options.KeysSettled :=
  inferInstanceAs (Decidable (∀ key ∈ options.extra.keys, _ ∧ _))

theorem keysSettled_of_extra {options : Options τ β ξ} (none : options.extra = ∅) :
    options.KeysSettled := by
  intro key member
  rw [none] at member
  cases member

theorem extra_setText (options : Options τ β ξ) (option : TextOption) (value : Option τ) :
    (options.setText option value).extra = options.extra := by
  cases option <;> rfl

theorem extra_setFlag (options : Options τ β ξ) (option : FlagOption) (value : Option β) :
    (options.setFlag option value).extra = options.extra := by
  cases option <;> rfl

/-- No option is set twice. -/
theorem nodup_settings (options : Options τ β ξ) : (options.settings.map (·.name.name)).Nodup := by
  have apart : OptionName.all.Pairwise fun earlier later => earlier.name ≠ later.name := by decide
  rw [List.Nodup, List.pairwise_map, settings, List.pairwise_filterMap]
  refine apart.imp fun {first second} differs x present y present' => ?_
  cases first <;> cases second <;>
  · obtain ⟨_, -, rfl⟩ := Option.map_eq_some_iff.1 present
    obtain ⟨_, -, rfl⟩ := Option.map_eq_some_iff.1 present'
    exact differs

end Options

theorem Present.of?_value (present : Present) : Present.of? present.value = some present := by
  obtain ⟨value, isPresent⟩ := present
  cases value with
  | scalar value =>
    cases value with
    | null => exact absurd rfl isPresent
    | _ => rfl
  | _ => rfl

namespace LooseOptions

/-- Sets options by name, one after the other. -/
def putAll (options : LooseOptions) (entries : List (String × Plain)) : LooseOptions :=
  entries.foldl (fun options entry => put options entry.1 entry.2) options

theorem load_record (entries : List (String × Plain)) :
    load (.record entries) = .ok (putAll {} entries) := by
  show (entries.map fun entry => (Scalar.text entry.1, entry.2)).foldlM _ _ = _
  generalize ({} : LooseOptions) = start
  induction entries generalizing start with
  | nil => rfl
  | cons entry rest step => exact step (put start entry.1 entry.2)

theorem putAll_append (options : LooseOptions) (first second : List (String × Plain)) :
    putAll options (first ++ second) = putAll (putAll options first) second :=
  List.foldl_append

/-! ## What is loaded -/

theorem keysSettled_put {options : LooseOptions} (settled : options.KeysSettled) (key : String)
    (value : Plain) : (put options key value).KeysSettled := by
  rw [put]
  split
  · rwa [Options.KeysSettled, Options.extra_setText]
  · rwa [Options.KeysSettled, Options.extra_setFlag]
  · rename_i unknown
    intro other member
    obtain ⟨entry, there, rfl⟩ := List.mem_map.1 member
    rcases key_of_mem_insertEntry there with same | ⟨old, there, same⟩
    · rw [same]
      exact ⟨Text.lowerText_lowerText key, OptionName.ofName?_eq_none_iff.1 unknown⟩
    · rw [← same]
      exact settled old.1 (List.mem_map_of_mem there)

theorem keysSettled_of_load {data : Plain} {options : LooseOptions}
    (loaded : load data = .ok options) : options.KeysSettled := by
  obtain ⟨members, -, loaded⟩ := Except.bind_eq_ok_iff.1 loaded
  have settled : ({} : LooseOptions).KeysSettled := Options.keysSettled_of_extra rfl
  revert loaded settled
  generalize ({} : LooseOptions) = start
  intro loaded settled
  induction members generalizing start with
  | nil =>
    cases loaded
    exact settled
  | cons member rest step =>
    obtain ⟨key, value⟩ := member
    obtain ⟨next, first, loaded⟩ := Except.bind_eq_ok_iff.1 loaded
    cases key with
    | text key =>
      cases first
      exact step _ loaded (keysSettled_put settled key value)
    | _ => cases first

/-! ## What comes back -/

/-- A known option is put in its place by its own name. -/
theorem put_name (base : LooseOptions) (option : OptionName) (present : Present) :
    put base option.name present.value = base.set (match option with
      | .text option => .text option present
      | .flag option => .flag option present) := by
  have known : OptionName.ofName? (Text.lowerText option.name) = some option :=
    OptionName.ofName?_eq_some_iff.2 option.lowerText_name
  rw [put, known]
  cases option <;> simp only [Present.of?_value, Options.set]

theorem putAll_known (options base : LooseOptions) :
    putAll base (known options) = options.settings.foldl Options.set base := by
  rw [putAll, known, List.foldl_map]
  congr 1
  funext base x
  cases x with
  | text option value => exact put_name base (.text option) value
  | flag option value => exact put_name base (.flag option) value

/-- Entries with settled keys are put behind the ones that are there. -/
theorem putAll_settled {entries : List (String × Plain)}
    (settled : ∀ entry ∈ entries, Text.lowerText entry.1 = entry.1 ∧
      entry.1 ∉ OptionName.all.map OptionName.name) (base : LooseOptions) :
    putAll base entries =
      { base with
        extra := entries.foldl (fun m (key, value) => m.insert key value) base.extra } := by
  induction entries generalizing base with
  | nil => rfl
  | cons entry rest step =>
    obtain ⟨⟨lowered, unknown⟩, settled⟩ := List.forall_mem_cons.1 settled
    have kept : put base entry.1 entry.2 =
        { base with extra := base.extra.insert entry.1 entry.2 } := by
      simp only [put, lowered, OptionName.ofName?_eq_none_iff.2 unknown]
    rw [putAll, List.foldl_cons, kept]
    exact step settled _

theorem keys_known (options : LooseOptions) :
    (known options).map (·.1) = options.settings.map (·.name.name) := by
  rw [known, List.map_map]
  refine List.map_congr_left fun x _ => ?_
  cases x <;> rfl

theorem keysApart_known {options : LooseOptions} (settled : options.KeysSettled) :
    KeysApart (known options ++ options.extra.entries) := by
  rw [Mapping.apart_iff_nodup, List.map_append, keys_known]
  refine List.nodup_append.2 ⟨options.nodup_settings, options.extra.nodup_keys, ?_⟩
  intro name isKnown key isExtra
  obtain ⟨x, -, rfl⟩ := List.mem_map.1 isKnown
  rintro rfl
  exact (settled _ isExtra).2 (List.mem_map_of_mem (OptionName.mem_all x.name))

theorem load_toPlain {options : LooseOptions} (settled : options.KeysSettled) :
    load (toPlain options) = .ok options := by
  have known : putAll {} (known options) = { options with extra := (∅ : Mapping String Plain) } :=
    (putAll_known options {}).trans
      (Options.ofSettings_settings { options with extra := (∅ : Mapping String Plain) } rfl)
  rw [toPlain, load_record, Mapping.entries_ofList (keysApart_known settled), putAll_append, known,
    putAll_settled fun entry member => settled entry.1 (List.mem_map_of_mem member)]
  show Except.ok { options with extra := Mapping.ofList options.extra.entries } = _
  rw [Mapping.ofList_entries]

end LooseOptions

end SeqChart
