import SeqChart.Proofs.Unloading
import SeqChart.Session
/-!
Sessions. Main statements: `run_of_error`, that a step that fails can be left out and no other
answer changes, and `restore_after_save`, that a chart that was saved comes back whatever was done
since, unless something else was saved in its slot.
-/

namespace SeqChart

namespace Draft

theorem beq_refl (draft : Draft) : (draft == draft) = true := by
  show (draft.options == draft.options && draft.entities == draft.entities &&
    Arc.sameRows draft.rows draft.rows && draft.comments == draft.comments) = true
  simp only [BEq.rfl, Arc.sameRows_refl, Bool.and_self]

theorem toPlain_ofChart (chart : LooseChart) : (ofChart chart).toPlain = .ok chart.toPlain := by
  unfold toPlain ofChart
  cases listed : chart.comments with
  | nil =>
    rw [LooseChart.toPlain, listed]
    rfl
  | cons first rest =>
    rw [LooseChart.toPlain, listed]
    rfl

theorem copy_ofChart {chart : LooseChart} (settled : chart.options.KeysSettled) :
    (ofChart chart).copy = .ok (ofChart chart) := by
  refine Except.bind_eq_ok_iff.2 ⟨_, toPlain_ofChart chart, ?_⟩
  exact Except.bind_eq_ok_iff.2 ⟨chart, LooseChart.load_toPlain_of_keysSettled settled, rfl⟩

/-- A copy has been loaded, so that it can be copied again. -/
theorem exists_of_copy {draft copy : Draft} (copied : draft.copy = .ok copy) :
    ∃ chart, copy = ofChart chart ∧ chart.options.KeysSettled := by
  obtain ⟨data, -, copied⟩ := Except.bind_eq_ok_iff.1 copied
  obtain ⟨chart, loaded, made⟩ := Except.bind_eq_ok_iff.1 copied
  cases made
  exact ⟨chart, rfl, LooseChart.keysSettled_of_load loaded⟩

end Draft

namespace Session

theorem loading_eq_ok_iff {α : Type} {outcome : Except LoadError α} {a : α} :
    loading outcome = .ok a ↔ outcome = .ok a := by
  cases outcome <;> simp [loading, Except.mapError]

variable {session next : Session} {move : Step} {answer : Answer} {name : String}

/-! ## Steps -/

theorem replace_eq_ok_iff {draft : Draft} : session.replace draft = .ok (next, answer) ↔
    ∃ data, draft.toPlain = .ok data ∧ next = { session with draft } ∧ answer = .chart data := by
  simp only [replace, Except.bind_eq_ok_iff, loading_eq_ok_iff, Except.ok.injEq, Prod.mk.injEq]
  exact exists_congr fun data => and_congr_right fun _ => and_congr eq_comm eq_comm

/-- A step changes the chart, or it keeps a copy of it. -/
theorem step_cases (done : session.step move = .ok (next, answer)) :
    (∃ draft, next = { session with draft }) ∨
      ∃ name copy, move = .save name ∧ session.draft.copy = .ok copy ∧
        next = { session with slots := session.slots.insert name copy } := by
  cases move with
  | parse source =>
    obtain ⟨draft, -, done⟩ := Except.bind_eq_ok_iff.1 done
    obtain ⟨-, -, made, -⟩ := replace_eq_ok_iff.1 done
    exact .inl ⟨draft, made⟩
  | load data =>
    obtain ⟨chart, -, done⟩ := Except.bind_eq_ok_iff.1 done
    obtain ⟨-, -, made, -⟩ := replace_eq_ok_iff.1 done
    exact .inl ⟨_, made⟩
  | render style limit =>
    obtain ⟨text, -, done⟩ := Except.bind_eq_ok_iff.1 done
    cases done
    exact .inl ⟨session.draft, rfl⟩
  | reparse style limit =>
    obtain ⟨text, -, done⟩ := Except.bind_eq_ok_iff.1 done
    obtain ⟨draft, -, done⟩ := Except.bind_eq_ok_iff.1 done
    cases done
    exact .inl ⟨draft, rfl⟩
  | validate limit =>
    obtain ⟨checked, -, done⟩ := Except.bind_eq_ok_iff.1 done
    cases done
    exact .inl ⟨session.draft, rfl⟩
  | options data | entity data | row data | nest kind source target =>
    obtain ⟨loaded, -, done⟩ := Except.bind_eq_ok_iff.1 done
    cases done
    exact .inl ⟨_, rfl⟩
  | comments data =>
    cases done
    exact .inl ⟨_, rfl⟩
  | shown =>
    obtain ⟨data, -, done⟩ := Except.bind_eq_ok_iff.1 done
    cases done
    exact .inl ⟨session.draft, rfl⟩
  | save name =>
    obtain ⟨copy, copied, done⟩ := Except.bind_eq_ok_iff.1 done
    cases done
    exact .inr ⟨name, copy, rfl, loading_eq_ok_iff.1 copied, rfl⟩
  | restore name =>
    obtain ⟨draft, -, done⟩ := Except.bind_eq_ok_iff.1 done
    obtain ⟨copy, -, done⟩ := Except.bind_eq_ok_iff.1 done
    obtain ⟨-, -, made, -⟩ := replace_eq_ok_iff.1 done
    exact .inl ⟨copy, made⟩
  | compare name =>
    obtain ⟨draft, -, done⟩ := Except.bind_eq_ok_iff.1 done
    cases done
    exact .inl ⟨session.draft, rfl⟩

theorem slots_of_step (done : session.step move = .ok (next, answer)) (other : move ≠ .save name) :
    next.slots.get? name = session.slots.get? name := by
  rcases step_cases done with ⟨draft, rfl⟩ | ⟨saved, copy, rfl, -, rfl⟩
  · rfl
  · have differs : (saved == name) = false := by
      simpa using fun same => other (congrArg Step.save same)
    exact (Mapping.get?_insert ..).trans (if_neg (by rw [differs]; exact Bool.false_ne_true))

theorem step_restore {chart : LooseChart} (settled : chart.options.KeysSettled)
    (kept : session.slots.get? name = some (.ofChart chart)) :
    session.step (.restore name) =
      .ok ({ session with draft := .ofChart chart }, .chart chart.toPlain) := by
  have held : session.slot name = .ok (.ofChart chart) := by rw [slot, kept]
  have copied := loading_eq_ok_iff.2 (Draft.copy_ofChart settled)
  refine Except.bind_eq_ok_iff.2 ⟨_, held, Except.bind_eq_ok_iff.2 ⟨_, copied, ?_⟩⟩
  exact replace_eq_ok_iff.2 ⟨_, Draft.toPlain_ofChart chart, rfl, rfl⟩

theorem step_compare_self (kept : session.slots.get? name = some session.draft) :
    session.step (.compare name) = .ok (session, .equal true) := by
  have held : session.slot name = .ok session.draft := by rw [slot, kept]
  refine Except.bind_eq_ok_iff.2 ⟨_, held, ?_⟩
  rw [Draft.beq_refl]

/-! ## Runs -/

/-- The session behind a list of steps. -/
def after (session : Session) : List Step → Session
  | [] => session
  | first :: rest =>
    match session.step first with
    | .ok (next, _) => after next rest
    | .error _ => after session rest

theorem after_append (before rest : List Step) :
    session.after (before ++ rest) = (session.after before).after rest := by
  fun_induction after session before with
  | case1 => rfl
  | case2 session first more next answer done step =>
    rw [List.cons_append, after, done]
    exact step
  | case3 session first more e failed step =>
    rw [List.cons_append, after, failed]
    exact step

theorem run_append (before rest : List Step) :
    session.run (before ++ rest) = session.run before ++ (session.after before).run rest := by
  fun_induction after session before with
  | case1 => rfl
  | case2 session first more next answer done step =>
    rw [List.cons_append, run, run, done]
    exact congrArg (.ok answer :: ·) step
  | case3 session first more e failed step =>
    rw [List.cons_append, run, run, failed]
    exact congrArg (.error e :: ·) step

/-- A step that fails leaves everything as it was: without it, the answers in front of it and behind
it are the same, and so is the session at the end. -/
theorem run_of_error {before rest : List Step} {e : StepError}
    (failed : (session.after before).step move = .error e) :
    session.run (before ++ move :: rest) =
        session.run before ++ .error e :: (session.after before).run rest ∧
      session.run (before ++ rest) = session.run before ++ (session.after before).run rest ∧
      session.after (before ++ move :: rest) = session.after (before ++ rest) := by
  refine ⟨?_, run_append before rest, ?_⟩
  · rw [run_append, run, failed]
  · rw [after_append, after_append, after, failed]

theorem slots_after {moves : List Step} (others : .save name ∉ moves) :
    (session.after moves).slots.get? name = session.slots.get? name := by
  fun_induction after session moves with
  | case1 => rfl
  | case2 session first rest next answer done step =>
    obtain ⟨other, others⟩ := not_or.1 (mt List.mem_cons.2 others)
    exact (step others).trans (slots_of_step done (Ne.symm other))
  | case3 session first rest e failed step =>
    exact step (not_or.1 (mt List.mem_cons.2 others)).2

/-- What was saved is a chart that comes back, is shown as it was saved, and equals the
saved one. -/
theorem restore_after_save (saved : session.step (.save name) = .ok (next, answer))
    {moves : List Step} (others : .save name ∉ moves) :
    ∃ chart, session.draft.copy = .ok (.ofChart chart) ∧
      next.run (moves ++ [.restore name, .compare name]) =
        next.run moves ++ [.ok (.chart chart.toPlain), .ok (.equal true)] := by
  obtain ⟨copy, copied, made⟩ := Except.bind_eq_ok_iff.1 saved
  replace copied := loading_eq_ok_iff.1 copied
  obtain ⟨rfl, -⟩ := Prod.mk.inj (Except.ok.inj made)
  obtain ⟨chart, rfl, settled⟩ := Draft.exists_of_copy copied
  refine ⟨chart, copied, ?_⟩
  rw [run_append]
  refine congrArg (_ ++ ·) ?_
  generalize later :
    ({ session with slots := session.slots.insert name (.ofChart chart) } : Session).after moves =
      last
  have kept : last.slots.get? name = some (.ofChart chart) := by
    rw [← later, slots_after others]
    exact (Mapping.get?_insert ..).trans (if_pos BEq.rfl)
  rw [run, step_restore settled kept]
  dsimp only
  rw [run, step_compare_self kept]
  rfl

end Session

end SeqChart
