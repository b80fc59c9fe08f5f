import ServiceDoubles.Proofs.Effect
import ServiceDoubles.Scope

/-!
# ServiceDoubles.Proofs.Scope

The theory of **finalizers**: what they do when their scope ends.

`visits` lists what finalizers do one after the other, each in the state that the one before it
left. It knows nothing of failures, of unwinding or of the ways to end a scope. What the ways to
end a scope do is then said in terms of the visits in the order of running, and
`sweep_of_returned` and `sweep_of_unwound` are the only places where the loop over the finalizers is
opened.
-/

namespace ServiceDoubles.Scope

variable {σ : Type}

/-! ### Visits -/

/-- A finalizer, and what it did when it ran. -/
structure Visit (σ : Type) where
  finalizer : Finalizer σ
  run : Run σ Unit

namespace Visit

/-- The failure of the finalizer, if it failed. -/
def fault? (v : Visit σ) : Option Fault :=
  match v.run.outcome with
  | .fault cause => some cause
  | _ => none

/-- The finalizer came to its end, well or with a failure. -/
def Returned (v : Visit σ) : Prop := ∀ reason, v.run.outcome ≠ .unwound reason

/-- What is reported of a visit: that it begins, what the finalizer reports itself, and its
failure. -/
def events (v : Visit σ) : List Event :=
  runningEvent v.finalizer.name :: v.run.events ++
    v.fault?.toList.map (failedEvent v.finalizer.name)

end Visit

/-- The visits of finalizers from the front of a list, each in the state that the one before it
left. -/
def visits : List (Finalizer σ) → σ → List (Visit σ)
  | [], _ => []
  | f :: rest, s => ⟨f, f.action.run s⟩ :: visits rest (f.action.run s).state

/-- The state that the last of the visits left. -/
def stateAfter (s : σ) : List (Visit σ) → σ
  | [] => s
  | v :: rest => stateAfter v.run.state rest

/-- The first failure among the visits. -/
def firstFault (vs : List (Visit σ)) : Option Fault := vs.findSome? Visit.fault?

/-- How finalizers end that all returned: with their first failure. -/
def ending : Option Fault → Outcome Unit
  | none => .ok ()
  | some cause => .fault cause

theorem ending_eq_ok_iff (failure : Option Fault) : ending failure = .ok () ↔ failure = none := by
  cases failure <;> simp [ending]

theorem Visit.returned_of_ending {v : Visit σ} {failure : Option Fault}
    (h : v.run.outcome = ending failure) : v.Returned := by
  intro reason
  rw [h]
  cases failure <;> simp [ending]

theorem Visit.fault?_of_ending {v : Visit σ} {failure : Option Fault}
    (h : v.run.outcome = ending failure) : v.fault? = failure := by
  rw [Visit.fault?, h]
  cases failure <;> rfl

/-- What the scope reports itself it reports in its own name. -/
theorem Visit.filter_events (v : Visit σ) {target : String} (h : Scope.target ≠ target) :
    v.events.filter (·.target == target) = v.run.events.filter (·.target == target) := by
  have hrunning : (runningEvent v.finalizer.name).target = Scope.target := rfl
  have hfailed (cause : Fault) : (failedEvent v.finalizer.name cause).target = Scope.target := rfl
  unfold Visit.events
  cases v.fault? <;> simp [hrunning, hfailed, h]

/-- How the scope's going away ends on a normal path: a failure unwinds the test. -/
def dropEnding : Option Fault → Outcome Unit
  | none => .ok ()
  | some cause => .unwound ("Fixture teardown failed: " ++ cause.message)

/-- What is reported of a failure while the test unwinds. -/
def lost (failure : Option Fault) : List Event := failure.toList.map lostEvent

@[simp] theorem visits_nil (s : σ) : visits ([] : List (Finalizer σ)) s = [] := rfl

@[simp] theorem visits_cons (f : Finalizer σ) (rest : List (Finalizer σ)) (s : σ) :
    visits (f :: rest) s = ⟨f, f.action.run s⟩ :: visits rest (f.action.run s).state := rfl

/-- Each finalizer is visited once, in order. -/
theorem finalizer_visits (fs : List (Finalizer σ)) (s : σ) :
    (visits fs s).map (·.finalizer) = fs := by
  induction fs generalizing s with
  | nil => rfl
  | cons f rest ih => rw [visits_cons, List.map_cons, ih]

@[simp] theorem stateAfter_nil (s : σ) : stateAfter s ([] : List (Visit σ)) = s := rfl

@[simp] theorem stateAfter_cons (s : σ) (v : Visit σ) (vs : List (Visit σ)) :
    stateAfter s (v :: vs) = stateAfter v.run.state vs := rfl

@[simp] theorem stateAfter_append (s : σ) (vs us : List (Visit σ)) :
    stateAfter s (vs ++ us) = stateAfter (stateAfter s vs) us := by
  induction vs generalizing s with
  | nil => rfl
  | cons v vs ih => exact ih v.run.state

/-- The finalizers at the back of a list are visited in the state that those at the front left. -/
theorem visits_append (fs gs : List (Finalizer σ)) (s : σ) :
    visits (fs ++ gs) s = visits fs s ++ visits gs (stateAfter s (visits fs s)) := by
  induction fs generalizing s with
  | nil => rfl
  | cons f rest ih => rw [List.cons_append, visits_cons, visits_cons, ih]; rfl

theorem firstFault_cons (v : Visit σ) (vs : List (Visit σ)) :
    firstFault (v :: vs) = v.fault?.or (firstFault vs) := by
  simp only [firstFault, List.findSome?_cons]
  cases v.fault? <;> rfl

/-! ### The loop over the finalizers -/

/-- The end of a run with what came out of a visit before it. -/
def Swept.behind (v : Visit σ) (swept : Swept σ) : Swept σ :=
  match v.fault? with
  | none => swept
  | some cause => swept.after cause

/-- The first failure is the one to report. -/
theorem behind_ending (v : Visit σ) (vs : List (Visit σ)) :
    (⟨ending (firstFault vs), []⟩ : Swept σ).behind v = ⟨ending (firstFault (v :: vs)), []⟩ := by
  rw [Swept.behind, firstFault_cons]
  cases v.fault? with
  | none => rfl
  | some cause => cases firstFault vs <;> rfl

/-- Failures do not matter to a run that unwinds. -/
theorem behind_unwound (v : Visit σ) (reason : String) (left : List (Finalizer σ)) :
    (⟨.unwound reason, left⟩ : Swept σ).behind v = ⟨.unwound reason, left⟩ := by
  rw [Swept.behind]
  cases v.fault? <;> rfl

theorem left_behind (v : Visit σ) (swept : Swept σ) : (swept.behind v).left = swept.left := by
  rw [Swept.behind]
  cases v.fault? with
  | none => rfl
  | some cause =>
      rcases swept with ⟨ending, left⟩
      cases ending <;> rfl

/-- Behind a finalizer that returns the rest runs, whether it failed or not. -/
theorem run_sweep_cons_of_returned {f : Finalizer σ} {rest : List (Finalizer σ)} {s u : σ}
    {later : List Event} {swept : Swept σ} (hf : Visit.Returned ⟨f, f.action.run s⟩)
    (hrest : (sweep rest).run (f.action.run s).state = ⟨.ok swept, u, later⟩) :
    (sweep (f :: rest)).run s =
      ⟨.ok (swept.behind ⟨f, f.action.run s⟩), u, Visit.events ⟨f, f.action.run s⟩ ++ later⟩ := by
  rcases hrun : f.action.run s with ⟨o, t, es⟩
  rw [hrun] at hf hrest
  rw [sweep, Act.run_bind_of_ok (Act.run_report ..), Act.run_bind_of_ok (Act.run_settle hrun)]
  cases o with
  | ok =>
      rw [hrest]
      simp [Visit.events, Visit.fault?, Swept.behind]
  | fault cause =>
      rw [Act.run_bind_of_ok (Act.run_report ..), Act.run_bind_of_ok hrest, Act.run_pure]
      simp [Visit.events, Visit.fault?, Swept.behind]
  | unwound reason => exact absurd rfl (hf reason)

/-- A finalizer that unwinds is the last of the run. -/
theorem run_sweep_cons_of_unwound {f : Finalizer σ} (rest : List (Finalizer σ)) {s : σ}
    {reason : String} (hf : (f.action.run s).outcome = .unwound reason) :
    (sweep (f :: rest)).run s =
      ⟨.ok ⟨.unwound reason, rest⟩, (f.action.run s).state,
        Visit.events ⟨f, f.action.run s⟩⟩ := by
  rcases hrun : f.action.run s with ⟨o, t, es⟩
  rw [hrun] at hf
  obtain rfl : o = .unwound reason := hf
  rw [sweep, Act.run_bind_of_ok (Act.run_report ..), Act.run_bind_of_ok (Act.run_settle hrun),
    Act.run_pure]
  simp [Visit.events, Visit.fault?]

/-- If all finalizers return, all of them run, and the first failure is the end. -/
theorem run_sweep_of_returned {fs : List (Finalizer σ)} {s : σ}
    (h : ∀ v ∈ visits fs s, v.Returned) :
    (sweep fs).run s =
      ⟨.ok ⟨ending (firstFault (visits fs s)), []⟩, stateAfter s (visits fs s),
        (visits fs s).flatMap Visit.events⟩ := by
  induction fs generalizing s with
  | nil => rfl
  | cons f rest ih =>
      have hrest := ih fun v hv => h v (List.mem_cons_of_mem _ hv)
      rw [run_sweep_cons_of_returned (h _ List.mem_cons_self) hrest, behind_ending, visits_cons,
        stateAfter_cons, List.flatMap_cons]

/-- The first finalizer that unwinds ends the run. What is left are the finalizers behind it, which
would be visited in the state that it left. -/
theorem run_sweep_of_unwound {fs : List (Finalizer σ)} {s : σ} {before later : List (Visit σ)}
    {v : Visit σ} {reason : String} (hvisits : visits fs s = before ++ v :: later)
    (hbefore : ∀ u ∈ before, u.Returned) (hv : v.run.outcome = .unwound reason) :
    ∃ left, visits left v.run.state = later ∧
      (sweep fs).run s =
        ⟨.ok ⟨.unwound reason, left⟩, v.run.state, (before ++ [v]).flatMap Visit.events⟩ := by
  induction before generalizing fs s with
  | nil =>
      cases fs with
      | nil => cases hvisits
      | cons f rest =>
          obtain ⟨rfl, hrest⟩ := List.cons.inj hvisits
          refine ⟨rest, hrest, ?_⟩
          rw [run_sweep_cons_of_unwound rest hv, List.nil_append, List.flatMap_singleton]
  | cons u before ih =>
      cases fs with
      | nil => cases hvisits
      | cons f rest =>
          obtain ⟨rfl, hrest⟩ := List.cons.inj hvisits
          obtain ⟨left, hleft, hsweep⟩ :=
            ih hrest fun u' hu' => hbefore u' (List.mem_cons_of_mem _ hu')
          refine ⟨left, hleft, ?_⟩
          rw [run_sweep_cons_of_returned (hbefore _ List.mem_cons_self) hsweep, behind_unwound,
            List.cons_append, List.flatMap_cons]

/-! ### The ways to end a scope -/

theorem run_release_nil (s : σ) : (release ([] : List (Finalizer σ))).run s = ⟨.ok (), s, []⟩ := rfl

/-- Whatever comes out of it, the scope's going away does what the loop does. -/
theorem state_release (fs : List (Finalizer σ)) (s : σ) :
    ((release fs).effect s).2 = ((sweep fs).effect s).2 :=
  Act.state_bind_of_keeps (sweep fs) (fun swept _ => by cases swept.ending <;> rfl) s

theorem state_releaseUnwinding (fs : List (Finalizer σ)) (s : σ) :
    ((releaseUnwinding fs).effect s).2 = ((sweep fs).effect s).2 :=
  Act.state_bind_of_keeps (sweep fs) (fun swept _ => by cases swept.ending <;> rfl) s

/-- After the loop, `finish` does the same to the finalizers that are left. -/
theorem state_finish {s : Scope σ} {w t : σ} {swept : Swept σ}
    (h : (sweep s.runOrder).effect w = (.ok swept, t)) :
    (s.finish.effect w).2 = ((sweep swept.left).effect t).2 := by
  rw [finish, Act.effect_bind, h, Act.goOn_ok]
  cases hending : swept.ending with
  | ok =>
      exact (Act.state_bind_of_keeps (release swept.left) (fun _ _ => rfl) t).trans
        (state_release ..)
  | fault cause =>
      exact (Act.state_bind_of_keeps (release swept.left) (fun _ _ => rfl) t).trans
        (state_release ..)
  | unwound reason =>
      exact (Act.state_bind_of_keeps (releaseUnwinding swept.left) (fun _ _ => rfl) t).trans
        (state_releaseUnwinding ..)

theorem run_release_of_returned {fs : List (Finalizer σ)} {s : σ}
    (h : ∀ v ∈ visits fs s, v.Returned) :
    (release fs).run s =
      ⟨dropEnding (firstFault (visits fs s)), stateAfter s (visits fs s),
        (visits fs s).flatMap Visit.events⟩ := by
  rw [release, Act.run_bind_of_ok (run_sweep_of_returned h)]
  cases firstFault (visits fs s) with
  | none => simp [ending, dropEnding]
  | some cause => simp [ending, dropEnding]

theorem run_releaseUnwinding_of_returned {fs : List (Finalizer σ)} {s : σ}
    (h : ∀ v ∈ visits fs s, v.Returned) :
    (releaseUnwinding fs).run s =
      ⟨.ok (), stateAfter s (visits fs s),
        (visits fs s).flatMap Visit.events ++ lost (firstFault (visits fs s))⟩ := by
  rw [releaseUnwinding, Act.run_bind_of_ok (run_sweep_of_returned h)]
  cases firstFault (visits fs s) with
  | none => simp [ending, lost]
  | some cause => simp [ending, lost]

theorem run_finish_of_returned {s : Scope σ} {w : σ} (h : ∀ v ∈ visits s.runOrder w, v.Returned) :
    s.finish.run w =
      ⟨ending (firstFault (visits s.runOrder w)), stateAfter w (visits s.runOrder w),
        (visits s.runOrder w).flatMap Visit.events⟩ := by
  rw [finish, Act.run_bind_of_ok (run_sweep_of_returned h)]
  cases firstFault (visits s.runOrder w) with
  | none => simp [ending, Act.run_bind_of_ok (run_release_nil _)]
  | some cause => simp [ending, Act.run_bind_of_ok (run_release_nil _)]

/-- A finalizer that unwinds is the end of `finish`, but those behind it run as well. -/
theorem run_finish_of_unwound {s : Scope σ} {w : σ} {before later : List (Visit σ)} {v : Visit σ}
    {reason : String} (hvisits : visits s.runOrder w = before ++ v :: later)
    (hreturned : ∀ u ∈ before ++ later, u.Returned) (hv : v.run.outcome = .unwound reason) :
    s.finish.run w =
      ⟨.unwound reason, stateAfter w (visits s.runOrder w),
        (visits s.runOrder w).flatMap Visit.events ++ lost (firstFault later)⟩ := by
  obtain ⟨left, rfl, hsweep⟩ := run_sweep_of_unwound hvisits
    (fun u hu => hreturned u (List.mem_append_left _ hu)) hv
  have hleft : ∀ u ∈ visits left v.run.state, u.Returned :=
    fun u hu => hreturned u (List.mem_append_right _ hu)
  have hrest := run_releaseUnwinding_of_returned hleft
  rw [finish, Act.run_bind_of_ok hsweep]
  simp [Act.run_bind_of_ok hrest, hvisits]

/-- Finalizers are kept in the order in which they were added. -/
theorem runEach_add (fs : List (Finalizer σ)) (s : Scope σ) :
    (Act.runEach (fs.map add) s).2 = { s with finalizers := s.finalizers ++ fs } := by
  induction fs generalizing s with
  | nil => simp
  | cons f rest ih =>
      have hadd : ((add f).effect s).2 = { s with finalizers := s.finalizers ++ [f] } := rfl
      rw [List.map_cons, Act.runEach_cons, hadd, ih]
      simp

theorem runOrder_of_added (config : Config) (registry : Registry σ) (fs : List (Finalizer σ)) :
    (Act.runEach (fs.map add) (start config registry)).2.runOrder = fs.reverse := by
  rw [runEach_add]
  rfl

/-- However a scope ends, each of its finalizers runs once, the last that was added first, and in
the state that the one before it left. The first failure is what `finish` gives, what unwinds the
test after the scope was dropped, and what is only reported if the test unwinds already. Nothing is
left for the scope's going away after `finish`. If one finalizer unwinds, `finish` ends that way,
and the others run none the less. -/
theorem finalizers_run_once (config : Config) (registry : Registry σ) (fs : List (Finalizer σ))
    (w : σ) :
    let s := (Act.runEach (fs.map add) (start config registry)).2
    let vs := visits fs.reverse w
    vs.map (·.finalizer) = fs.reverse ∧
    ((∀ v ∈ vs, v.Returned) →
      s.finish.run w = ⟨ending (firstFault vs), stateAfter w vs, vs.flatMap Visit.events⟩ ∧
      s.drop.run w = ⟨dropEnding (firstFault vs), stateAfter w vs, vs.flatMap Visit.events⟩ ∧
      s.dropUnwinding.run w =
        ⟨.ok (), stateAfter w vs, vs.flatMap Visit.events ++ lost (firstFault vs)⟩ ∧
      ∃ swept, ((sweep s.runOrder).run w).outcome = .ok swept ∧
        ∀ t, (release swept.left).run t = ⟨.ok (), t, []⟩) ∧
    ∀ before v later reason, vs = before ++ v :: later → (∀ u ∈ before ++ later, u.Returned) →
      v.run.outcome = .unwound reason →
      s.finish.run w =
        ⟨.unwound reason, stateAfter w vs, vs.flatMap Visit.events ++ lost (firstFault later)⟩ := by
  intro s vs
  have horder : s.runOrder = fs.reverse := runOrder_of_added config registry fs
  refine ⟨finalizer_visits fs.reverse w, fun hreturned => ⟨?_, ?_, ?_, ?_⟩, ?_⟩
  · have hfinish := run_finish_of_returned (s := s) (w := w) (horder ▸ hreturned)
    rwa [horder] at hfinish
  · rw [drop, horder]
    exact run_release_of_returned hreturned
  · rw [dropUnwinding, horder]
    exact run_releaseUnwinding_of_returned hreturned
  · rw [horder, run_sweep_of_returned hreturned]
    exact ⟨_, rfl, run_release_nil⟩
  · intro before v later reason hvisits hreturned hv
    have hordered : visits s.runOrder w = before ++ v :: later := by rw [horder]; exact hvisits
    have hfinish := run_finish_of_unwound hordered hreturned hv
    rwa [horder] at hfinish

/-- Two of three finalizers fail; then the one in the middle unwinds instead. -/
theorem finalizers_run_once_three :
    let note (name : String) (o : Outcome Unit) : Finalizer (List String) :=
      ⟨name, fun journal => ⟨o, journal ++ [name], []⟩⟩
    let scope (o : Outcome Unit) : Scope (List String) :=
      (Act.runEach ([note "a" (.fault (.config "a")), note "b" o,
        note "c" (.ok ())].map add) (start Config.standard Registry.empty)).2
    ((scope (.fault (.config "b"))).finish.run []).outcome = .fault (.config "b") ∧
      ((scope (.fault (.config "b"))).drop.run []).state = ["c", "b", "a"] ∧
      ((scope (.unwound "stop")).finish.run []).outcome = .unwound "stop" ∧
      ((scope (.unwound "stop")).finish.run []).state = ["c", "b", "a"] := by
  intro note scope
  obtain ⟨-, hreturned, -⟩ := finalizers_run_once Config.standard Registry.empty
    [note "a" (.fault (.config "a")), note "b" (.fault (.config "b")), note "c" (.ok ())] []
  obtain ⟨-, -, hunwound⟩ := finalizers_run_once Config.standard Registry.empty
    [note "a" (.fault (.config "a")), note "b" (.unwound "stop"), note "c" (.ok ())] []
  obtain ⟨hfinish, hdrop, -⟩ := hreturned (by simp [note, Act.run, Visit.Returned])
  have hstop := hunwound [_] _ [_] "stop" rfl (by simp [note, Act.run, Visit.Returned]) rfl
  exact ⟨congrArg Run.outcome hfinish, congrArg Run.state hdrop, congrArg Run.outcome hstop,
    congrArg Run.state hstop⟩

end ServiceDoubles.Scope
