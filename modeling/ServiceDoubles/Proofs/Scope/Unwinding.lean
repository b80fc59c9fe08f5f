import ServiceDoubles.Proofs.Scope

/-!
# ServiceDoubles.Proofs.Scope.Unwinding

Finalizers that **unwind**, and what becomes of the finalizers behind them.

The loop over the finalizers ends with the first that unwinds (`upToUnwinding`). `finish` is still in
charge then: the scope goes away after it, and that runs the finalizers that are left. When a scope
is dropped nothing comes after the loop, and the finalizers that are left never run. So the two ways
to end a scope differ as soon as a finalizer unwinds that is not the first that was added.
-/

namespace ServiceDoubles.Scope

variable {σ : Type}

/-- The visits up to the first that unwinds, which is the last. -/
def upToUnwinding : List (Visit σ) → List (Visit σ)
  | [] => []
  | v :: rest =>
    match v.run.outcome with
    | .unwound _ => [v]
    | _ => v :: upToUnwinding rest

/-- At most one of the visits unwinds. -/
def OneUnwinds (vs : List (Visit σ)) : Prop := vs.Pairwise fun v u => v.Returned ∨ u.Returned

section

variable {v : Visit σ} {rest : List (Visit σ)}

theorem upToUnwinding_cons_of_returned (h : v.Returned) :
    upToUnwinding (v :: rest) = v :: upToUnwinding rest := by
  rw [upToUnwinding]
  split
  · next reason hunwound => exact absurd hunwound (h reason)
  · rfl

theorem upToUnwinding_cons_of_unwound {reason : String} (h : v.run.outcome = .unwound reason) :
    upToUnwinding (v :: rest) = [v] := by
  simp only [upToUnwinding, h]

theorem Visit.exists_reason_of_not_returned (h : ¬v.Returned) :
    ∃ reason, v.run.outcome = .unwound reason :=
  Classical.byContradiction fun hnone => h fun reason hv => hnone ⟨reason, hv⟩

end

/-- All finalizers are visited exactly if none unwinds but the one that is visited last. -/
theorem upToUnwinding_eq_self_iff (vs : List (Visit σ)) :
    upToUnwinding vs = vs ↔ ∀ v ∈ vs.dropLast, v.Returned := by
  induction vs with
  | nil => exact iff_of_true rfl fun _ h => absurd h List.not_mem_nil
  | cons v rest ih =>
      by_cases hv : v.Returned
      · rw [upToUnwinding_cons_of_returned hv, List.cons_inj_right, ih]
        cases rest with
        | nil => simp
        | cons u rest => rw [List.dropLast_cons_cons, List.forall_mem_cons, and_iff_right hv]
      · obtain ⟨reason, hunwound⟩ := Visit.exists_reason_of_not_returned hv
        rw [upToUnwinding_cons_of_unwound hunwound]
        cases rest with
        | nil => simp
        | cons u rest =>
            refine iff_of_false (by simp) fun hall => hv ?_
            exact hall v (by rw [List.dropLast_cons_cons]; exact List.mem_cons_self)

theorem exists_run_sweep (fs : List (Finalizer σ)) (s : σ) :
    ∃ swept, (sweep fs).run s =
      ⟨.ok swept, stateAfter s (upToUnwinding (visits fs s)),
        (upToUnwinding (visits fs s)).flatMap Visit.events⟩ := by
  induction fs generalizing s with
  | nil => exact ⟨_, rfl⟩
  | cons f rest ih =>
      by_cases hf : Visit.Returned ⟨f, f.action.run s⟩
      · obtain ⟨swept, hrest⟩ := ih (f.action.run s).state
        rw [visits_cons, upToUnwinding_cons_of_returned hf]
        exact ⟨_, run_sweep_cons_of_returned hf hrest⟩
      · obtain ⟨reason, hunwound⟩ := Visit.exists_reason_of_not_returned hf
        rw [visits_cons, upToUnwinding_cons_of_unwound hunwound, List.flatMap_singleton]
        exact ⟨_, run_sweep_cons_of_unwound rest hunwound⟩

/-- On a normal path nothing comes after the loop over the finalizers. -/
theorem run_release_of_run_sweep {fs : List (Finalizer σ)} {s t : σ} {swept : Swept σ}
    {es : List Event} (h : (sweep fs).run s = ⟨.ok swept, t, es⟩) :
    ((release fs).run s).state = t ∧ ((release fs).run s).events = es := by
  rw [release, Act.run_bind_of_ok h]
  cases swept.ending <;> exact ⟨rfl, List.append_nil es⟩

/-- A run of visits of which at most one unwinds: either all return, or there is one that does not. -/
theorem OneUnwinds.cases {vs : List (Visit σ)} (h : OneUnwinds vs) :
    (∀ v ∈ vs, v.Returned) ∨
      ∃ before v later reason, vs = before ++ v :: later ∧
        (∀ u ∈ before ++ later, u.Returned) ∧ v.run.outcome = .unwound reason := by
  induction vs with
  | nil => exact .inl fun _ h => absurd h List.not_mem_nil
  | cons v rest ih =>
      obtain ⟨hfirst, hrest⟩ := List.pairwise_cons.mp h
      by_cases hv : v.Returned
      · rcases ih hrest with hall | ⟨before, u, later, reason, rfl, hothers, hu⟩
        · exact .inl (List.forall_mem_cons.mpr ⟨hv, hall⟩)
        · exact .inr ⟨v :: before, u, later, reason, rfl,
            List.forall_mem_cons.mpr ⟨hv, hothers⟩, hu⟩
      · obtain ⟨reason, hunwound⟩ := Visit.exists_reason_of_not_returned hv
        exact .inr ⟨[], v, rest, reason, rfl, fun u hu => (hfirst u hu).resolve_left hv, hunwound⟩

/-- `finish` runs all finalizers, also those behind one that unwinds. -/
theorem state_finish_of_oneUnwinds {s : Scope σ} {w : σ} (h : OneUnwinds (visits s.runOrder w)) :
    (s.finish.run w).state = stateAfter w (visits s.runOrder w) := by
  rcases h.cases with hall | ⟨before, v, later, reason, hvisits, hothers, hv⟩
  · rw [run_finish_of_returned hall]
  · rw [run_finish_of_unwound hvisits hothers hv]

/-- When `finish` comes to a finalizer, those that were added after it have run, and those that were
added before it have not. -/
theorem state_finish_around {s : Scope σ} {older newer : List (Finalizer σ)} {f : Finalizer σ}
    (hs : s.finalizers = older ++ f :: newer) {w : σ} (h : OneUnwinds (visits s.runOrder w)) :
    let w' := (f.action.run (stateAfter w (visits newer.reverse w))).state
    (s.finish.run w).state = stateAfter w' (visits older.reverse w') := by
  have horder : s.runOrder = newer.reverse ++ f :: older.reverse := by
    rw [runOrder, hs, List.reverse_append, List.reverse_cons, List.append_assoc,
      List.singleton_append]
  rw [state_finish_of_oneUnwinds h, horder, visits_append, stateAfter_append, visits_cons,
    stateAfter_cons]

/-- A scope that is dropped runs its finalizers, the last that was added first, up to the first that
unwinds. So all of them run exactly if none unwinds but the first that was added; the others are
lost, where `finish` runs them. -/
theorem drop_runs_upToUnwinding (config : Config) (registry : Registry σ) (fs : List (Finalizer σ))
    (w : σ) :
    let s := (Act.runEach (fs.map add) (start config registry)).2
    let vs := visits fs.reverse w
    vs.map (·.finalizer) = fs.reverse ∧
    (s.drop.run w).state = stateAfter w (upToUnwinding vs) ∧
    (s.drop.run w).events = (upToUnwinding vs).flatMap Visit.events ∧
    (upToUnwinding vs = vs ↔ ∀ v ∈ vs.dropLast, v.Returned) ∧
    (OneUnwinds vs → (s.finish.run w).state = stateAfter w vs) := by
  intro s vs
  have horder : s.runOrder = fs.reverse := runOrder_of_added config registry fs
  obtain ⟨swept, hsweep⟩ := exists_run_sweep s.runOrder w
  obtain ⟨hstate, hevents⟩ := run_release_of_run_sweep hsweep
  rw [horder] at hstate hevents
  refine ⟨finalizer_visits fs.reverse w, ?_, ?_, upToUnwinding_eq_self_iff vs, fun hone => ?_⟩
  · rw [drop, horder]
    exact hstate
  · rw [drop, horder]
    exact hevents
  · have hfinish := state_finish_of_oneUnwinds (s := s) (w := w) (horder ▸ hone)
    rwa [horder] at hfinish

/-- Three finalizers note that they ran, and the second one unwinds. When the scope is dropped, the
first that was added never runs; `finish` runs it. -/
theorem drop_loses_first_of_three :
    let note (name : String) (o : Outcome Unit) : Finalizer (List String) :=
      ⟨name, fun journal => ⟨o, journal ++ [name], []⟩⟩
    let s : Scope (List String) :=
      (Act.runEach ([note "a" (.ok ()), note "b" (.unwound "boom"), note "c" (.ok ())].map add)
        (start Config.standard Registry.empty)).2
    (s.finish.run []).state = ["c", "b", "a"] ∧ (s.drop.run []).state = ["c", "b"] ∧
      (s.drop.run []).outcome = .unwound "boom" := by
  intro note s
  exact ⟨rfl, rfl, rfl⟩

end ServiceDoubles.Scope
