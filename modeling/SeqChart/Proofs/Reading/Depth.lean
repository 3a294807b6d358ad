import SeqChart.Proofs.Reading.Chart
/-!
Reading under two limits. What is read under the one is read under the other, unless a block lies
too deep there; nothing else depends on the limit. Main statement, `chart_follows`.
-/

namespace SeqChart.Reader

variable {α β σ : Type} {limit limit' : Int}

/-- Where `q` reads something, `p` reads the same, or it stops at a block too deep for `limit`. -/
def Follows (limit : Int) (p q : Reader α) : Prop :=
  ∀ s a r, q s = .ok (a, r) → p s = .ok (a, r) ∨ ∃ place, p s = .error ⟨.tooDeep limit, place⟩

theorem Follows.refl (p : Reader α) : Follows limit p p := fun _ _ _ read => .inl read

theorem follows_tooDeep (q : Reader α) : Follows limit (fail (.tooDeep limit)) q :=
  fun s _ _ _ => .inr ⟨s, rfl⟩

theorem follows_fail (p : Reader α) (cause : Cause) : Follows limit p (fail cause) :=
  fun _ _ _ read => nomatch read

theorem Follows.bind {p q : Reader α} {f g : α → Reader β} (first : Follows limit p q)
    (next : ∀ a, Follows limit (f a) (g a)) : Follows limit (p >>= f) (q >>= g) := by
  intro s b t read
  obtain ⟨a, r, read, read'⟩ := bind_eq_ok_iff.1 read
  rcases first s a r read with same | ⟨place, stops⟩
  · rw [bind_of_ok same]
    exact next a r b t read'
  · exact .inr ⟨place, by rw [bind_apply, stops]⟩

theorem Follows.bind_right {f g : α → Reader β} (p : Reader α)
    (next : ∀ a, Follows limit (f a) (g a)) : Follows limit (p >>= f) (p >>= g) :=
  (Follows.refl p).bind next

/-! ## Lists -/

theorem Follows.chain {item item' : σ → Reader (α × Option σ)} {advances : ∀ x, Advances (item x)}
    {advances' : ∀ x, Advances (item' x)} (items : ∀ x, Follows limit (item x) (item' x)) (x : σ) :
    Follows limit (chain item advances x) (chain item' advances' x) := by
  intro s as r read
  -- The induction is on the run that reads the whole list.
  fun_induction Reader.chain item' advances' x s generalizing as r with
  | case1 => cases read
  | case2 x s a t first =>
    rw [chain_eq]
    rcases items x s _ t first with same | ⟨place, stops⟩
    · exact .inl (by rw [same]; exact read)
    · exact .inr ⟨place, by rw [stops]⟩
  | case3 x s a y t first _ step =>
    rw [chain_eq]
    cases rest : Reader.chain item' advances' y t with
    | error fault =>
      rw [rest] at read
      cases read
    | ok result =>
      obtain ⟨more, u⟩ := result
      rw [rest] at read
      cases read
      rcases items x s _ t first with same | ⟨place, stops⟩
      · rcases step _ _ rest with same' | ⟨place, stops⟩
        · exact .inl (by rw [same]; dsimp only; rw [same']; rfl)
        · exact .inr ⟨place, by rw [same]; dsimp only; rw [stops]; rfl⟩
      · exact .inr ⟨place, by rw [stops]⟩

theorem Follows.series {item item' : List String → Reader α}
    {advances : ∀ before, Advances (item before)} {advances' : ∀ before, Advances (item' before)}
    (items : ∀ before, Follows limit (item before) (item' before)) (close : Char)
    (closesItself : α → Bool) (before : List String) :
    Follows limit (series item advances close closesItself before)
      (series item' advances' close closesItself before) :=
  Follows.chain (fun before => (items before).bind fun _ => .refl _) before

/-! ## Arcs and rows -/

/-- Where both have a block, the one follows the other. -/
def FollowsInside (limit : Int) (inner inner' : Option Body) : Prop :=
  ∀ body ∈ inner, ∀ body' ∈ inner', Follows limit body.read body'.read

section

variable {inner inner' : Option Body} (inside : FollowsInside limit inner inner')

include inside

theorem block_follows (kind : BoxKind ⊕ InlineKind) (source : String) (before : List String) :
    Follows limit (block limit inner kind source before)
      (block limit' inner' kind source before) := by
  refine .bind_right _ fun target => .bind_right _ fun attrs => ?_
  cases kind with
  | inl kind => exact .refl _
  | inr kind =>
    cases inner with
    | none => exact follows_tooDeep _
    | some body =>
      cases inner' with
      | none => exact follows_fail _ _
      | some body' =>
        exact .bind_right _ fun _ => (inside body rfl body' rfl).bind fun _ => .refl _

theorem arcFrom_follows (place : List Char) (source : String) (before : List String) :
    Follows limit (arcFrom limit inner place source before)
      (arcFrom limit' inner' place source before) := by
  refine .bind_right _ fun _ => .bind_right _ fun operator => ?_
  cases operator with
  | some kind => exact .refl _
  | none =>
    refine .bind_right _ fun keyword => ?_
    cases keyword with
    | none => exact .refl _
    | some kind =>
      dsimp only
      split
      · exact .refl _
      · exact block_follows inside kind source before

theorem arc_follows (before : List String) :
    Follows limit (arc limit inner before) (arc limit' inner' before) := by
  refine .bind_right _ fun _ => .bind_right _ fun operator => ?_
  cases operator with
  | some kind => exact .refl _
  | none =>
    exact .bind_right _ fun place => .bind_right _ fun source =>
      arcFrom_follows inside place source before

theorem rows_follow (before : List String) :
    Follows limit (rows limit inner before) (rows limit' inner' before) := by
  refine .bind_right _ fun rest => ?_
  split
  · exact .refl _
  · exact Follows.chain (fun before =>
      (Follows.series (arc_follows inside) ';' Arc.isInline before).bind fun _ => .refl _) before

end

theorem inside_follows (levels levels' : Nat) :
    FollowsInside limit (inside limit levels) (inside limit' levels') := by
  induction levels generalizing levels' with
  | zero =>
    rintro body ⟨⟩
  | succ levels step =>
    cases levels' with
    | zero =>
      rintro body - body' ⟨⟩
    | succ levels' =>
      rintro body ⟨⟩ body' ⟨⟩
      exact Follows.bind_right Reader.comments fun before => rows_follow (step levels') before

/-! ## Charts -/

theorem entitiesAndRows_follows (before : List String) :
    Follows limit (entitiesAndRows limit before) (entitiesAndRows limit' before) := by
  refine Follows.bind_right _ fun found => ?_
  obtain ⟨entities, after⟩ := found
  exact (rows_follow (inside_follows _ _) after).bind fun _ => .refl _

theorem content_follows (before : List String) :
    Follows limit (content limit before) (content limit' before) := by
  refine Follows.bind_right _ fun found => ?_
  obtain ⟨options, between⟩ := found
  exact (entitiesAndRows_follows between).bind fun _ => .refl _

theorem chart_follows (limit limit' : Int) : Follows limit (chart limit) (chart limit') := by
  refine Follows.bind_right Reader.comments fun head => .bind_right _ fun found => ?_
  split
  · exact .refl _
  · exact .bind_right _ fun _ => Follows.bind_right Reader.comments fun before =>
      (content_follows before).bind fun _ => .refl _

end SeqChart.Reader
