import SeqChart.Proofs.Data.Mapping
import SeqChart.Chart.Basic
/-!
The names of options, and options as lists of settings. Main statements: no option is unset when
something was set, and settings that are left out of the list of all settings are unset.
-/

namespace SeqChart

namespace OptionName

theorem ofName?_eq_some_iff {text : String} {option : OptionName} :
    ofName? text = some option ↔ text = option.name := by
  have apart : ∀ a ∈ all, ∀ b ∈ all, a.name = b.name → a = b := by
    decide
  constructor
  · intro found
    have same : option.name = text := by simpa using List.find?_some found
    exact same.symm
  · rintro rfl
    cases found : ofName? option.name with
    | none => exact absurd (List.find?_eq_none.1 found option (mem_all option)) (by simp)
    | some other =>
      have same : other.name = option.name := by simpa using List.find?_some found
      rw [apart other (mem_all other) option (mem_all option) same]

theorem lowerText_name (option : OptionName) : Text.lowerText option.name = option.name := by
  have lowered : ∀ option ∈ all, Text.lowerText option.name = option.name := by decide
  exact lowered option (mem_all option)

end OptionName

namespace Options

variable {τ β ξ : Type}

theorem set_ne (options : Options τ β ξ) (x : Setting τ β) : options.set x ≠ {} := by
  rcases x with ⟨option, value⟩ | ⟨option, value⟩
  · cases option <;> simp [set, setText]
  · cases option <;> simp [set, setFlag]

theorem foldl_set_eq {options : Options τ β ξ} {settings : List (Setting τ β)}
    (unset : settings.foldl set options = {}) : options = {} ∧ settings = [] := by
  induction settings generalizing options with
  | nil => exact ⟨unset, rfl⟩
  | cons x rest step => exact absurd (step unset).1 (set_ne options x)

/-- A setting that is kept fills its field, and one that is not leaves it unset. -/
theorem foldl_kept {keep : Setting τ β → Bool} {setting? : OptionName → Option (Setting τ β)}
    {name : OptionName} {rest : List OptionName} {base : Options τ β ξ} {α : Type}
    (make : α → Setting τ β) (value? : Option α)
    (stands : setting? name = (value?.map make).filter keep)
    (field : Option α → Options τ β ξ) (unset : field none = base)
    (given : ∀ value, base.set (make value) = field (some value)) :
    ((name :: rest).filterMap setting?).foldl set base =
      (rest.filterMap setting?).foldl set (field (value?.filter fun v => keep (make v))) := by
  rw [List.filterMap_cons, stands]
  cases value? with
  | none =>
    rw [← unset]
    rfl
  | some value =>
    cases kept : keep (make value) with
    | true => simp [Option.filter, kept, given]
    | false => simp [Option.filter, kept, unset]

theorem ofSettings_filter (keep : Setting τ β → Bool) (options : Options τ β ξ) :
    (ofSettings (options.settings.filter keep) : Options τ β ξ) = {
      hscale := options.hscale.filter fun v => keep (.text .hscale v)
      width := options.width.filter fun v => keep (.text .width v)
      arcgradient := options.arcgradient.filter fun v => keep (.text .arcgradient v)
      wordwraparcs := options.wordwraparcs.filter fun v => keep (.flag .wordwraparcs v)
      wordwrapentities :=
        options.wordwrapentities.filter fun v => keep (.flag .wordwrapentities v)
      wordwrapboxes := options.wordwrapboxes.filter fun v => keep (.flag .wordwrapboxes v)
      watermark := options.watermark.filter fun v => keep (.text .watermark v) } := by
  rw [settings, List.filter_filterMap, ofSettings, OptionName.all,
    foldl_kept (.text .hscale) options.hscale rfl (⟨·, none, none, none, none, none, none, ∅⟩) rfl
      fun _ => rfl,
    foldl_kept (.text .width) options.width rfl (⟨_, ·, none, none, none, none, none, ∅⟩) rfl
      fun _ => rfl,
    foldl_kept (.text .arcgradient) options.arcgradient rfl (⟨_, _, ·, none, none, none, none, ∅⟩)
      rfl
      fun _ => rfl,
    foldl_kept (.flag .wordwraparcs) options.wordwraparcs rfl (⟨_, _, _, ·, none, none, none, ∅⟩)
      rfl
      fun _ => rfl,
    foldl_kept (.flag .wordwrapentities) options.wordwrapentities rfl
      (⟨_, _, _, _, ·, none, none, ∅⟩) rfl
      fun _ => rfl,
    foldl_kept (.flag .wordwrapboxes) options.wordwrapboxes rfl (⟨_, _, _, _, _, ·, none, ∅⟩) rfl
      fun _ => rfl,
    foldl_kept (.text .watermark) options.watermark rfl (⟨_, _, _, _, _, _, ·, ∅⟩) rfl
      fun _ => rfl]
  rfl

theorem filter_all {α : Type} (value? : Option α) : value?.filter (fun _ => true) = value? := by
  cases value? <;> rfl

/-- The settings say all but for the options that no dialect knows. -/
theorem ofSettings_settings (options : Options τ β ξ) (known : options.extra = ∅) :
    (ofSettings options.settings : Options τ β ξ) = options := by
  have kept := ofSettings_filter (fun _ => true) options
  rw [List.filter_eq_self.2 fun _ _ => rfl] at kept
  simp only [filter_all] at kept
  rw [kept, ← known]

theorem eq_of_isEmpty {options : Options τ β ξ} (empty : options.isEmpty = true) :
    options = {} := by
  obtain ⟨noSettings, noExtra⟩ := (Bool.and_eq_true _ _).mp empty
  rw [← ofSettings_settings options (Mapping.eq_empty_of_isEmpty noExtra),
    List.isEmpty_iff.1 noSettings]
  rfl

end Options

end SeqChart
