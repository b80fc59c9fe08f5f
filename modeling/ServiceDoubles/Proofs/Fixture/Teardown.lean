import ServiceDoubles.Proofs.Client.Acceptance
import ServiceDoubles.Proofs.Fixture

/-!
# ServiceDoubles.Proofs.Fixture.Teardown

**Teardown** of a stubbing scope: what comes out when a test with fixtures is over.

`Leaves` is the invariant of a test: the finalizers in its scope are those that its fixtures left,
and the clients that were stubbed are known from the latest to the first. `Leaves.visits` says what
such finalizers do when they run. They change no queue but for its activity, so that each of them
finds the stubs that the test left.
-/

namespace ServiceDoubles

variable {β υ : Type}

namespace World

/-- The world with the queues in these cells inactive. -/
def deactivate (w : World β υ) (ks : List Nat) : World β υ :=
  { w with queues := ⟨fun k =>
      if k ∈ ks then (w.queues.read k).setActive false else w.queues.read k⟩ }

theorem read_deactivate (w : World β υ) (ks : List Nat) (k : Nat) :
    (w.deactivate ks).queues.read k =
      if k ∈ ks then (w.queues.read k).setActive false else w.queues.read k := rfl

@[simp] theorem deactivate_nil (w : World β υ) : w.deactivate [] = w := rfl

theorem deactivate_cons (w : World β υ) (k : Nat) (ks : List Nat) :
    w.deactivate (k :: ks) = (w.withQueue k ((w.queues.read k).setActive false)).deactivate ks := by
  have h : (w.deactivate (k :: ks)).queues.read =
      ((w.withQueue k ((w.queues.read k).setActive false)).deactivate ks).queues.read := by
    funext j
    rw [read_deactivate, read_deactivate]
    by_cases hj : j = k
    · subst hj
      simp [Queue.setActive]
    · simp [hj, read_withQueue_of_ne]
  exact congrArg (fun read => { w with queues := ⟨read⟩ }) h

end World

namespace Fixture

open Scope (visits stateAfter firstFault ending ending_eq_ok_iff dropEnding lost)

/-! ### Stubs that are left over -/

/-- The failure of a teardown: the stubs that the first of the clients has left, if any has. -/
def leftover (clients : List Client) (w : World β υ) : Option Fault :=
  (clients.find? fun c => !(c.stubs w).calls.isEmpty).map fun c =>
    .pendingResponses (c.stubs w).pending

theorem leftover_cons (c : Client) (clients : List Client) (w : World β υ) :
    leftover (c :: clients) w = (leftover [c] w).or (leftover clients w) := by
  rw [leftover, leftover, leftover, List.find?_cons, List.find?_cons]
  cases (c.stubs w).calls <;> rfl

/-- The failure about one client is that of the check of its queue. -/
theorem ofExcept_checkDone (c : Client) (w : World β υ) :
    Outcome.ofExcept (c.stubs w).checkDone = ending (leftover [c] w) := by
  rw [leftover, List.find?_cons, Queue.checkDone]
  cases (c.stubs w).calls <;> rfl

theorem leftover_eq_none_iff (clients : List Client) (w : World β υ) :
    leftover clients w = none ↔ ∀ c ∈ clients, (c.stubs w).calls = [] := by
  simp [leftover]

/-- The activity of queues does not matter. -/
theorem leftover_congr {w w' : World β υ} (h : ∀ c : Client, (c.stubs w').calls = (c.stubs w).calls)
    (clients : List Client) : leftover clients w' = leftover clients w := by
  simp only [leftover, Queue.pending, h]

theorem calls_withQueue_setActive (c d : Client) (active : Bool) (w : World β υ) :
    (d.stubs (w.withQueue c.queue ((c.stubs w).setActive active))).calls = (d.stubs w).calls := by
  by_cases h : d.queue = c.queue
  · rw [Client.stubs, Client.stubs, Client.stubs, h, World.read_withQueue_self, Queue.setActive]
  · rw [Client.stubs, World.read_withQueue_of_ne _ _ h, ← Client.stubs]

/-- A finalizer that a stubber left fails if stubs are left over, and makes its client inactive. -/
theorem visit_release (c : Client) (w : World β υ) :
    Scope.Visit.Returned ⟨release c, (release c).action.run w⟩ ∧
      Scope.Visit.fault? ⟨release c, (release c).action.run w⟩ = leftover [c] w ∧
      ((release c).action.run w).state =
        w.withQueue c.queue ((c.stubs w).setActive false) := by
  obtain ⟨houtcome, hstate⟩ := Act.run_of_effect (effect_release w c)
  rw [ofExcept_checkDone] at houtcome
  exact ⟨Scope.Visit.returned_of_ending houtcome, Scope.Visit.fault?_of_ending houtcome, hstate⟩

/-! ### What fixtures leave -/

/-- These finalizers were left by fixtures that stubbed these clients, the latest first. -/
inductive Leaves [Service β] : List (Finalizer (World β υ)) → List Client → Prop
  | nil : Leaves [] []
  /-- A stubber was made. -/
  | stubber {fs : List (Finalizer (World β υ))} {clients : List Client} (c : Client) :
      Leaves fs clients → Leaves (fs ++ [release c]) (c :: clients)
  /-- A bucket was made with a stubber that stubs. -/
  | bucket {fs : List (Finalizer (World β υ))} {clients : List Client} {s : Stubber}
      (h : Storage.Handle) :
      s.useStubs = true → Leaves fs clients → Leaves (fs ++ [bucketFinalizer s h]) clients

variable [Service β]

/-- What fixtures left comes to its end whatever happens: the failure is about the latest client
with stubs left over, and all clients are inactive then. -/
theorem Leaves.visits {fs : List (Finalizer (World β υ))} {clients : List Client}
    (h : Leaves fs clients) (w : World β υ) :
    (∀ v ∈ visits fs.reverse w, v.Returned) ∧
      firstFault (visits fs.reverse w) = leftover clients w ∧
      stateAfter w (visits fs.reverse w) = w.deactivate (clients.map (·.queue)) := by
  induction h generalizing w with
  | nil => exact ⟨fun _ h => absurd h List.not_mem_nil, rfl, rfl⟩
  | @stubber fs clients c _ ih =>
      obtain ⟨hreturned, hfault, hstate⟩ := visit_release c w
      obtain ⟨hrest, hrestFault, hrestState⟩ := ih ((release c).action.run w).state
      have hcongr := leftover_congr (fun d => calls_withQueue_setActive c d false w) clients
      rw [List.reverse_concat, Scope.visits_cons]
      refine ⟨List.forall_mem_cons.mpr ⟨hreturned, hrest⟩, ?_, ?_⟩
      · rw [Scope.firstFault_cons, hfault, hrestFault, hstate, hcongr, ← leftover_cons]
      · rw [Scope.stateAfter_cons, hrestState, hstate, List.map_cons, World.deactivate_cons]
        rfl
  | @bucket fs clients s h hstubs _ ih =>
      have hrun : (bucketFinalizer s h).action.run w = ⟨.ok (), w, []⟩ := by
        rw [action_bucketFinalizer_of_stubs hstubs, Act.run_pure]
      obtain ⟨hrest, hrestFault, hrestState⟩ := ih w
      rw [List.reverse_concat, Scope.visits_cons, hrun]
      refine ⟨List.forall_mem_cons.mpr ⟨(fun _ h => nomatch h), hrest⟩, ?_, hrestState⟩
      rw [Scope.firstFault_cons, hrestFault]
      rfl

/-! ### Tests -/

/-- A step of a test with one scope. -/
inductive Step where
  /-- Makes a stubber, of a given kind or of any. -/
  | makeStubber (kind : Option StubberKind) (client : Client)
  /-- Makes a bucket with a stubber that stubs. -/
  | makeBucket (reading : Int) (s : Stubber) (stubs : s.useStubs = true) (client : Client)
      (region : Option String)
  | stub (stub : Storage.Stub) (s : Stubber) (code : Option String)
  | call (client : Client) (call : Call)
  | activate (s : Stubber)
  | deactivate (s : Stubber)

namespace Step

/-- What the step does. -/
def act : Step → Act (Setting β υ) Unit
  | makeStubber kind client => do let _ ← make kind client
  | makeBucket reading s _ client region => do let _ ← Fixture.makeBucket reading s client region
  | stub st s code => Setting.onWorld (st.queue s code)
  | call client a => do let _ ← Setting.onWorld (client.call a.operation a.params)
  | activate s => Setting.onWorld s.activate
  | deactivate s => Setting.onWorld s.deactivate

/-- The client that the step builds a stubber for. Only a storage service has one. -/
def stubbed : Step → Option Client
  | makeStubber _ client => if client.service = Storage.serviceName then some client else none
  | _ => none

end Step

/-- A step leaves what its fixture leaves, and nothing if it is no fixture. -/
theorem Step.leaves (step : Step) (region : String) {fs : List (Finalizer (World β υ))}
    {clients : List Client} (h : Leaves fs clients) (w : World β υ) :
    ∃ fs' w', (step.act.effect ⟨stubbing region fs, w⟩).2 = ⟨stubbing region fs', w'⟩ ∧
      Leaves fs' (step.stubbed.toList ++ clients) := by
  cases step with
  | makeStubber kind client =>
      rw [act, Act.state_discard, state_make, stubbed]
      by_cases hservice : client.service = Storage.serviceName
      · rw [effect_makeStubber_stubbing w hservice, if_pos hservice]
        exact ⟨_, _, rfl, .stubber client h⟩
      · rw [effect_makeStubber_stubbing_of_ne w hservice, if_neg hservice]
        exact ⟨_, _, rfl, h⟩
  | makeBucket reading s stubs client place =>
      rw [act, Act.state_discard, effect_makeBucket]
      rcases (setUpBucket reading s client place).effect w with ⟨o, w'⟩
      cases o with
      | ok handle => exact ⟨_, _, rfl, .bucket handle stubs h⟩
      | fault cause => exact ⟨_, _, rfl, h⟩
      | unwound reason => exact ⟨_, _, rfl, h⟩
  | stub st s code => exact ⟨_, _, rfl, h⟩
  | call client a =>
      rw [act, Act.state_discard]
      exact ⟨_, _, rfl, h⟩
  | activate s => exact ⟨_, _, rfl, h⟩
  | deactivate s => exact ⟨_, _, rfl, h⟩

/-- The clients that the steps of a test build stubbers for, the latest first. -/
def stubbedClients (steps : List Step) : List Client := (steps.filterMap Step.stubbed).reverse

/-- A test leaves in its scope what its fixtures left. -/
theorem leaves_of_steps (steps : List Step) {region : String} {fs : List (Finalizer (World β υ))}
    {clients : List Client} (h : Leaves fs clients) (w : World β υ) :
    ∃ fs' w', (Act.runEach (steps.map Step.act) ⟨stubbing region fs, w⟩).2 =
        ⟨stubbing region fs', w'⟩ ∧
      Leaves fs' (stubbedClients steps ++ clients) := by
  induction steps generalizing fs clients w with
  | nil => exact ⟨fs, w, rfl, h⟩
  | cons step rest ih =>
      obtain ⟨fs', w', hstep, h'⟩ := step.leaves region h w
      obtain ⟨fs'', w'', hrest, h''⟩ := ih h' w'
      refine ⟨fs'', w'', ?_, ?_⟩
      · rw [List.map_cons, Act.runEach_cons, hstep, hrest]
      · have hclients : stubbedClients (step :: rest) ++ clients =
            stubbedClients rest ++ (step.stubbed.toList ++ clients) := by
          cases hs : step.stubbed <;> simp [stubbedClients, hs]
        rw [hclients]
        exact h''

/-- After any test with one stubbing scope the teardown is fine exactly if no client that was
stubbed has stubs left over. Otherwise it fails with the stubs left over of the client that was
stubbed last among those that have any. In any case the stubbed clients are inactive then, and
nothing else has changed: no stub was consumed and no service was called. A scope that is dropped
does the same, but its failure unwinds the test, or is only reported if the test unwinds already. -/
theorem teardown_of_run (region : String) (w : World β υ) (steps : List Step) :
    let scope : Scope (World β υ) := .start { useRealService := false, region } Registry.builtIn
    let st := (Act.runEach (steps.map Step.act) ⟨scope, w⟩).2
    let clients := stubbedClients steps
    let failure := (clients.find? fun c => !(c.stubs st.world).calls.isEmpty).map fun c =>
      Fault.pendingResponses (c.stubs st.world).pending
    let quiet := st.world.deactivate (clients.map (·.queue))
    (∃ events,
      st.scope.finish.run st.world = ⟨ending failure, quiet, events⟩ ∧
      st.scope.drop.run st.world = ⟨dropEnding failure, quiet, events⟩ ∧
      st.scope.dropUnwinding.run st.world = ⟨.ok (), quiet, events ++ lost failure⟩) ∧
    ((st.scope.finish.run st.world).outcome = .ok () ↔
      ∀ c ∈ clients, (c.stubs st.world).calls = []) ∧
    (∀ c ∈ clients, (c.stubs quiet).active = false) ∧
    (∀ k, (quiet.queues.read k).calls = (st.world.queues.read k).calls ∧
      (quiet.queues.read k).consumed = (st.world.queues.read k).consumed) ∧
    quiet.services = st.world.services := by
  intro scope st clients failure quiet
  obtain ⟨fs, w', hst, hleaves⟩ := leaves_of_steps steps (Leaves.nil (β := β) (υ := υ)) w
  have hst : st = ⟨stubbing region fs, w'⟩ := hst
  rw [List.append_nil] at hleaves
  obtain ⟨hreturned, hfault, hstate⟩ := hleaves.visits st.world
  have horder : st.scope.runOrder = fs.reverse := by rw [hst]; rfl
  have hreturned' : ∀ v ∈ visits st.scope.runOrder st.world, v.Returned := by
    rw [horder]
    exact hreturned
  have hfinish := Scope.run_finish_of_returned hreturned'
  have hdrop := Scope.run_release_of_returned hreturned'
  have hunwinding := Scope.run_releaseUnwinding_of_returned hreturned'
  rw [horder, hfault, hstate] at hfinish hdrop hunwinding
  refine ⟨⟨_, hfinish, ?_, ?_⟩, ?_, ?_, ?_, rfl⟩
  · rw [Scope.drop, horder]
    exact hdrop
  · rw [Scope.dropUnwinding, horder]
    exact hunwinding
  · rw [hfinish, ending_eq_ok_iff, leftover_eq_none_iff]
  · intro c hc
    rw [Client.stubs, World.read_deactivate, if_pos (List.mem_map_of_mem hc), Queue.setActive]
  · intro k
    rw [World.read_deactivate]
    split
    · exact ⟨rfl, rfl⟩
    · exact ⟨rfl, rfl⟩

end Fixture

end ServiceDoubles
