import ServiceDoubles.Proofs.Client.Acceptance
import ServiceDoubles.Proofs.Fixture
import ServiceDoubles.Proofs.Stamp
import ServiceDoubles.Proofs.Storage.Store

/-!
# ServiceDoubles.Proofs.Fixture.Buckets

**Buckets that fixtures made on a real service**, and what becomes of them when the test is over.

The scope of such a test holds one finalizer for each bucket that it made, in the order in which
they were made (`Holds`), and the names of the buckets differ since stamps grow. When the scope
ends, each finalizer deletes its own bucket. It finds the bucket as the test left it, because the
finalizers before it changed other buckets only (`visits_cleanups`).
-/

namespace ServiceDoubles

namespace Storage.Store

/-! ### Deleting buckets -/

/-- There is such a bucket, and it is empty. -/
def isVacant (s : Store) (name : String) : Bool := (s.buckets.get? name).any (·.objects.isEmpty)

/-- Why a bucket cannot be deleted. -/
def obstacle (s : Store) (name : String) : Option Fault :=
  match s.buckets.get? name with
  | none => some (noBucket name)
  | some b =>
    if b.objects.isEmpty then none
    else
      some (.service "BucketNotEmpty"
        ("The bucket you tried to delete is not empty: " ++ name))

theorem obstacle_eq_none_iff {s : Store} {name : String} :
    s.obstacle name = none ↔ s.isVacant name = true := by
  unfold obstacle isVacant
  cases s.buckets.get? name with
  | none => simp
  | some b => simp

/-- The store after the bucket was asked to be deleted. -/
def discard (s : Store) (name : String) : Store := s.after (s.answer ⟨name, .deleteBucket⟩)

theorem outcome_deleteBucket (s : Store) (name : String) :
    (outcomeOf (s.answer ⟨name, .deleteBucket⟩)).map (fun _ => ()) =
      Scope.ending (s.obstacle name) := by
  unfold obstacle
  cases hb : s.buckets.get? name with
  | none => simp only [answer, hb]; rfl
  | some b =>
      simp only [answer, hb]
      split <;> rfl

theorem get?_discard (s : Store) (name bucket : String) :
    (s.discard name).buckets.get? bucket =
      if bucket = name ∧ s.isVacant name = true then none else s.buckets.get? bucket := by
  unfold discard isVacant
  cases hb : s.buckets.get? name with
  | none => simp [answer, hb, after]
  | some b =>
      cases hempty : b.objects.isEmpty with
      | true => simp [answer, hb, hempty, after, SortedMap.get?_erase]
      | false => simp [answer, hb, hempty, after]

/-- A bucket that was asked to be deleted is gone, or holds objects. -/
theorem isVacant_discard (s : Store) (name : String) : (s.discard name).isVacant name = false := by
  rw [isVacant, get?_discard]
  cases hvacant : s.isVacant name with
  | true => simp
  | false => simpa [isVacant] using hvacant

theorem isVacant_discard_of_ne (s : Store) {name bucket : String} (h : bucket ≠ name) :
    (s.discard name).isVacant bucket = s.isVacant bucket := by
  rw [isVacant, get?_discard, if_neg fun hand => h hand.1, isVacant]

theorem obstacle_discard_of_ne (s : Store) {name bucket : String} (h : bucket ≠ name) :
    (s.discard name).obstacle bucket = s.obstacle bucket := by
  rw [obstacle, get?_discard, if_neg fun hand => h hand.1, obstacle]

/-- The store after these buckets were asked to be deleted. -/
def without (s : Store) (names : List String) : Store := names.foldl discard s

theorem get?_without (s : Store) {names : List String} (hnodup : names.Nodup) (bucket : String) :
    (s.without names).buckets.get? bucket =
      if bucket ∈ names ∧ s.isVacant bucket = true then none else s.buckets.get? bucket := by
  induction names generalizing s with
  | nil => simp [without]
  | cons name rest ih =>
      obtain ⟨hname, hrest⟩ := List.nodup_cons.mp hnodup
      rw [without, List.foldl_cons, ← without, ih _ hrest, get?_discard]
      by_cases hbucket : bucket = name
      · subst hbucket
        simp [hname]
      · rw [isVacant_discard_of_ne s hbucket]
        simp [hbucket]

end Storage.Store

namespace Fixture.Buckets

open Storage (Store Handle)
open Scope (visits stateAfter firstFault ending ending_eq_ok_iff Visit)

variable {υ : Type} {c : Client}

/-! ### Finalizers -/

/-- The finalizer that deletes a bucket. -/
def cleanup (c : Client) (name : String) : Finalizer (World Store υ) where
  name := "delete bucket " ++ name
  action := Handle.delete ⟨c, name⟩

theorem bucketFinalizer_of_passes {s : Stubber} (h : s.useStubs = false) (name : String) :
    bucketFinalizer s ⟨c, name⟩ = (cleanup c name : Finalizer (World Store υ)) :=
  congrArg (Finalizer.mk _) (action_bucketFinalizer_of_passes h _)

/-- Deleting a bucket is one call, which reaches the service. -/
theorem run_delete (hdelete : c.supports "DeleteBucket" = true) {w : World Store υ}
    (hqueue : (c.stubs w).active = false) (name : String) :
    (Handle.delete ⟨c, name⟩).run w =
      let s := w.services.read c.backend
      ⟨ending (s.obstacle name), w.withService c.backend (s.discard name),
        [c.callEvent "DeleteBucket" "Passing call through to backend",
          Store.callEvent "DeleteBucket" name]⟩ := by
  have hservice : (Service.call "DeleteBucket" (Storage.Request.params ⟨name, .deleteBucket⟩)).run
      (w.services.read c.backend) = _ :=
    Store.run_call_request ⟨name, .deleteBucket⟩ (w.services.read c.backend)
  have hcall := c.run_call_inactive "DeleteBucket" (Storage.Request.params ⟨name, .deleteBucket⟩) w
    hdelete hqueue
  rw [hservice] at hcall
  have hsend : (Handle.send ⟨c, name⟩ .deleteBucket).run w = _ := hcall
  rw [Handle.delete, Act.run_discard, hsend]
  exact congrArg (fun o => (⟨o, _, _⟩ : Run (World Store υ) Unit))
    (Store.outcome_deleteBucket _ name)

/-- The finalizers of buckets whose names differ come to their end whatever happens. The failure is
about the first bucket that cannot be deleted, and the others are deleted none the less. -/
theorem visits_cleanups (hdelete : c.supports "DeleteBucket" = true) {names : List String}
    (hnodup : names.Nodup) {w : World Store υ} (hqueue : (c.stubs w).active = false) :
    let vs := visits (names.map (cleanup c)) w
    let s := w.services.read c.backend
    (∀ v ∈ vs, v.Returned) ∧
      firstFault vs = names.findSome? s.obstacle ∧
      stateAfter w vs = w.withService c.backend (s.without names) ∧
      (vs.flatMap Visit.events).filter (·.target == Store.target) =
        names.map (Store.callEvent "DeleteBucket") := by
  induction names generalizing w with
  | nil =>
      refine ⟨fun _ h => absurd h List.not_mem_nil, rfl, ?_, rfl⟩
      exact (w.withService_read_self c.backend).symm
  | cons name rest ih =>
      obtain ⟨hname, hrest⟩ := List.nodup_cons.mp hnodup
      intro vs s
      have hrun : (cleanup c name).action.run w = _ := run_delete hdelete hqueue name
      -- What is left of the run begins in the store without the bucket.
      obtain ⟨hreturned, hfault, hstate, hevents⟩ :=
        ih (w := w.withService c.backend (s.discard name)) hrest hqueue
      have hothers : rest.findSome? (s.discard name).obstacle = rest.findSome? s.obstacle := by
        rw [← List.head?_filterMap, ← List.head?_filterMap]
        refine congrArg List.head? (List.filterMap_congr fun other hother => ?_)
        exact s.obstacle_discard_of_ne fun heq => hname (heq ▸ hother)
      rw [World.read_withService_self] at hfault hstate
      have hvisits : vs = ⟨cleanup c name, (cleanup c name).action.run w⟩ ::
          visits (rest.map (cleanup c)) ((cleanup c name).action.run w).state := rfl
      rw [hrun] at hvisits
      rw [hvisits]
      refine ⟨List.forall_mem_cons.mpr ⟨?_, hreturned⟩, ?_, ?_, ?_⟩
      · exact Visit.returned_of_ending (show _ = ending (s.obstacle name) from rfl)
      · rw [Scope.firstFault_cons,
          Visit.fault?_of_ending (show _ = ending (s.obstacle name) from rfl), hfault, hothers,
          List.findSome?_cons]
        cases s.obstacle name <;> rfl
      · rw [Scope.stateAfter_cons, hstate, World.withService_withService]
        rfl
      · rw [List.flatMap_cons, List.filter_append, hevents, List.map_cons,
          Visit.filter_events _ (by decide)]
        rfl

/-! ### Tests -/

/-- The action neither activates the queue of `c` nor takes a stamp back. -/
def Keeps {α : Type} (c : Client) (a : Act (World Store υ) α) : Prop :=
  ∀ w, (c.stubs w).active = false →
    (c.stubs (a.effect w).2).active = false ∧ w.lastStamp ≤ (a.effect w).2.lastStamp

/-- A stubber that the constructor builds for `client` passes through if it is to. Neither building
it nor asking it about that activates the queue of `c`, or takes a stamp back. -/
structure Passes (c client : Client) (build : StubberConstructor (World Store υ)) : Prop where
  keeps : Keeps c (modeOf build client false)
  passes : ∀ w, ((modeOf build client false).effect w).1 ≠ .ok true

theorem Passes.plain {client : Client} {stubber : Client → Bool → Stubber}
    (h : (stubber client false).useStubs = false) :
    Passes c client (.plain stubber : StubberConstructor (World Store υ)) := by
  have hmode : (modeOf (.plain stubber) client false : Act (World Store υ) Bool).Idle false :=
    fun w => congrArg (fun stubs => (Outcome.ok stubs, w)) h
  refine ⟨fun w hqueue => ?_, fun w => ?_⟩
  · rw [hmode w]
    exact ⟨hqueue, Int64.le_rfl⟩
  · rw [hmode w]
    nofun

/-- The stubbers that come with the library pass through if they are asked to. -/
theorem passes_builtIn (c client : Client) (build : StubberConstructor (World Store υ))
    (h : Registry.builtIn.constructor client.service = .ok build) :
    Passes c client build := by
  by_cases hservice : client.service = Storage.serviceName
  · rw [hservice, Registry.constructor_builtIn_storage] at h
    obtain rfl := Except.ok.inj h
    exact .plain rfl
  · rw [Registry.constructor_builtIn_of_ne hservice] at h
    nomatch h

/-- A step of a test on a real service. The queue of `c` is never activated, and the stubbers that
are built or used pass through, so that nothing but buckets adds finalizers. -/
inductive Step (υ : Type) (c : Client) (registry : Registry (World Store υ)) where
  | makeBucket (reading : Int) (s : Stubber) (passes : s.useStubs = false) (region : Option String)
  | makeStubber (kind : Option StubberKind) (client : Client)
      (passes : ∀ build, registry.constructor client.service = .ok build → Passes c client build)
  | uniqueName (reading : Int) (beginning : String)
  | call (client : Client) (call : Call)
  | stub (s : Stubber) (operation : String) (expected : Option Json) (response : Json)
      (code : Option String)
  | activate (s : Stubber) (other : s.client.queue ≠ c.queue)
  | deactivate (s : Stubber)
  | queue (client : Client) (step : Queue.Step)
      (keeps : client.queue = c.queue → step ≠ .setActive true)
  /-- Changes anything but the queues and the last stamp. -/
  | elsewhere (f : World Store υ → World Store υ) (queues : ∀ w, (f w).queues = w.queues)
      (stamp : ∀ w, (f w).lastStamp = w.lastStamp)

namespace Step

variable {registry : Registry (World Store υ)}

/-- What a step does that uses the world alone. -/
def onWorld : Step υ c registry → Act (World Store υ) Unit
  | uniqueName reading beginning => do let _ ← World.uniqueName reading beginning
  | call client a => do let _ ← client.call a.operation a.params
  | stub s operation expected response code => s.stub operation expected response code
  | activate s _ => s.activate
  | deactivate s => s.deactivate
  | queue client step _ => do let _ ← client.onQueue step.act
  | elsewhere f _ _ => Act.modify f
  | makeBucket .. | makeStubber .. => return ()

/-- What the step does. A bucket that it made it gives by name. -/
def act : Step υ c registry → Act (Setting Store υ) (Option String)
  | makeBucket reading s _ region => do
    return some (← Fixture.makeBucket reading s c region).name
  | makeStubber kind client _ => do
    let _ ← make kind client
    return none
  | step => do
    Setting.onWorld step.onWorld
    return none

/-- The step takes a stamp. -/
def takesStamp : Step υ c registry → Bool
  | makeBucket .. | uniqueName .. => true
  | _ => false

end Step

/-- The names of the buckets that were made, in order. -/
def made (outcomes : List (Outcome (Option String))) : List String :=
  outcomes.filterMap fun
    | .ok name => name
    | _ => none

/-- Whenever a step takes a stamp, the counter has not come to its end: there is a stamp above the
last. -/
def StampsLast {registry : Registry (World Store υ)} :
    List (Step υ c registry) → Setting Store υ → Prop
  | [], _ => True
  | step :: rest, st =>
    (step.takesStamp = true → st.world.lastStamp ≠ Int64.maxValue) ∧
      StampsLast rest (step.act.effect st).2

/-- The scope holds the finalizers of the buckets `names`, whose stamps ascend, and calls of the
client reach the service. -/
structure Holds (c : Client) (config : Config) (registry : Registry (World Store υ))
    (names : List String) (st : Setting Store υ) : Prop where
  scope_eq : st.scope = ⟨config, registry, names.map (cleanup c)⟩
  inactive : (c.stubs st.world).active = false
  stamped : ∃ stamps : List Int64, names = stamps.map (Stamp.name "bucket") ∧
    stamps.Pairwise (· < ·) ∧ ∀ stamp ∈ stamps, stamp ≤ st.world.lastStamp

namespace Holds

variable {config : Config} {registry : Registry (World Store υ)} {names : List String}
  {st : Setting Store υ}

theorem nodup (h : Holds c config registry names st) : names.Nodup := by
  obtain ⟨stamps, rfl, hascend, -⟩ := h.stamped
  refine List.pairwise_map.mpr (hascend.imp fun hlt heq => ?_)
  exact Int64.ne_of_lt hlt (Stamp.name_injective heq)

/-- In a later world the finalizers are still those. -/
theorem later (h : Holds c config registry names st) {w : World Store υ}
    (hqueue : (c.stubs w).active = false) (hstamp : st.world.lastStamp ≤ w.lastStamp) :
    Holds c config registry names { st with world := w } := by
  obtain ⟨stamps, hnames, hascend, hbelow⟩ := h.stamped
  exact ⟨h.scope_eq, hqueue, stamps, hnames, hascend,
    fun stamp hmem => Int64.le_trans (hbelow stamp hmem) hstamp⟩

/-- One more bucket has a name that none of the others has. -/
theorem push (h : Holds c config registry names st) {stamp : Int64}
    (hstamp : st.world.lastStamp < stamp) {w : World Store υ}
    (hqueue : (c.stubs w).active = false) (hlast : w.lastStamp = stamp) :
    Holds c config registry (names ++ [Stamp.name "bucket" stamp])
      ⟨st.scope.push (cleanup c (Stamp.name "bucket" stamp)), w⟩ := by
  obtain ⟨stamps, hnames, hascend, hbelow⟩ := h.stamped
  have habove : ∀ before ∈ stamps, before < stamp := fun before hmem =>
    Int64.lt_of_le_of_lt (hbelow before hmem) hstamp
  refine ⟨?_, hqueue, stamps ++ [stamp], ?_, ?_, ?_⟩
  · rw [h.scope_eq, Scope.push, List.map_append, List.map_singleton]
  · rw [hnames, List.map_append, List.map_singleton]
  · refine List.pairwise_append.mpr ⟨hascend, List.pairwise_singleton _ _, fun before hmem => ?_⟩
    exact List.forall_mem_singleton.mpr (habove before hmem)
  · intro before hmem
    change before ≤ w.lastStamp
    rw [hlast]
    rcases List.mem_append.mp hmem with hmem | hmem
    · exact Int64.le_of_lt (habove before hmem)
    · rw [List.mem_singleton.mp hmem]
      exact Int64.le_rfl

end Holds

theorem Step.onWorld_keeps {registry : Registry (World Store υ)} (step : Step υ c registry)
    {w : World Store υ}
    (hqueue : (c.stubs w).active = false)
    (hlast : step.takesStamp = true → w.lastStamp ≠ Int64.maxValue) :
    (c.stubs (step.onWorld.effect w).2).active = false ∧
      w.lastStamp ≤ (step.onWorld.effect w).2.lastStamp := by
  cases step with
  | makeBucket | makeStubber => exact ⟨hqueue, Int64.le_rfl⟩
  | uniqueName reading beginning =>
      have hlt := Stamp.lt_next (hlast rfl) (Stamp.ofReading reading)
      exact ⟨hqueue, Int64.le_of_lt hlt⟩
  | call client a =>
      rw [onWorld, Act.state_discard, Client.lastStamp_effect_call]
      exact ⟨(client.active_effect_call _ _ w c.queue).trans hqueue, Int64.le_rfl⟩
  | stub s operation expected response code =>
      rw [onWorld, Stubber.lastStamp_effect_stub]
      exact ⟨(s.active_effect_stub w _ _ _ _ c.queue).trans hqueue, Int64.le_rfl⟩
  | activate s other =>
      rw [onWorld, Stubber.effect_activate]
      refine ⟨?_, Int64.le_rfl⟩
      rw [Client.stubs, World.read_withQueue_of_ne _ _ other.symm]
      exact hqueue
  | deactivate s =>
      rw [onWorld, Stubber.effect_deactivate]
      refine ⟨?_, Int64.le_rfl⟩
      by_cases hsame : c.queue = s.client.queue
      · rw [Client.stubs, hsame, World.read_withQueue_self, Queue.setActive]
      · rw [Client.stubs, World.read_withQueue_of_ne _ _ hsame]
        exact hqueue
  | queue client step keeps =>
      rw [onWorld, Act.state_discard, Client.effect_onQueue]
      refine ⟨?_, Int64.le_rfl⟩
      by_cases hsame : c.queue = client.queue
      · rw [Client.stubs, hsame, World.read_withQueue_self, Queue.Step.active_effect_act]
        split
        next active =>
          cases active with
          | false => rfl
          | true => exact absurd rfl (keeps hsame.symm)
        next => exact (congrArg (fun k => (w.queues.read k).active) hsame).symm.trans hqueue
      · rw [Client.stubs, World.read_withQueue_of_ne _ _ hsame]
        exact hqueue
  | elsewhere f queues stamp =>
      have hstubs : c.stubs (f w) = c.stubs w := by rw [Client.stubs, queues, Client.stubs]
      have hlater : w.lastStamp ≤ (f w).lastStamp := by
        rw [stamp]
        exact Int64.le_rfl
      exact ⟨(congrArg Queue.active hstubs).trans hqueue, hlater⟩

/-- Making a bucket with a stubber that passes through takes a stamp and makes a call. -/
theorem exists_effect_setUpBucket {s : Stubber} (hpasses : s.useStubs = false) (reading : Int)
    (region : Option String) (w : World Store υ) :
    let stamp := Stamp.next w.lastStamp (Stamp.ofReading reading)
    ∃ (created : Outcome Unit) (w' : World Store υ),
      (setUpBucket reading s c region).effect w =
        (created.map fun _ => ⟨c, Stamp.name "bucket" stamp⟩, w') ∧
      w'.lastStamp = stamp ∧ (c.stubs w').active = (c.stubs w).active := by
  intro stamp
  have hname : (World.uniqueName reading "bucket").effect w =
      (.ok (Stamp.name "bucket" stamp), { w with lastStamp := stamp }) := rfl
  have hstub (stub : Storage.Stub) : (stub.queue s none : Act (World Store υ) Unit).Idle () :=
    Stubber.idle_stub hpasses _ _ _ _
  let handle : Handle := ⟨c, Stamp.name "bucket" stamp⟩
  let create : Act (World Store υ) Unit := handle.create (some (bucketRegion c region))
  let stamped : World Store υ := { w with lastStamp := stamp }
  have hsent : (create.effect stamped).2 =
      ((handle.send (.createBucket (some (bucketRegion c region)))).effect stamped).2 :=
    Act.state_discard _ stamped
  refine ⟨(create.effect stamped).1, (create.effect stamped).2, ?_, ?_, ?_⟩
  · rw [setUpBucket, Act.effect_bind, hname, Act.goOn_ok, Act.effect_bind, hstub, Act.goOn_ok]
    exact Act.effect_map (fun _ => handle) create stamped
  · rw [hsent]
    exact Client.lastStamp_effect_call ..
  · rw [hsent]
    exact Client.active_effect_call ..

theorem made_map_none {α : Type} (o : Outcome α) : made [o.map fun _ => none] = [] := by
  cases o <;> rfl

theorem made_cons (o : Outcome (Option String)) (outcomes : List (Outcome (Option String))) :
    made (o :: outcomes) = made [o] ++ made outcomes :=
  List.filterMap_append (l := [o])

section

variable {config : Config} {registry : Registry (World Store υ)} {names : List String}
  {st : Setting Store υ}

theorem Holds.step (h : Holds c config registry names st) (hreal : config.useRealService = true)
    (step : Step υ c registry)
    (hlast : step.takesStamp = true → st.world.lastStamp ≠ Int64.maxValue) :
    Holds c config registry (names ++ made [(step.act.effect st).1]) (step.act.effect st).2 := by
  have hworld (hact : (step.act : Act (Setting Store υ) (Option String)) = do
        Setting.onWorld step.onWorld
        return none) :
      Holds c config registry (names ++ made [(step.act.effect st).1]) (step.act.effect st).2 := by
    obtain ⟨hqueue, hstamp⟩ := step.onWorld_keeps h.inactive hlast
    rw [hact, Act.effect_map (fun _ => none), made_map_none, List.append_nil]
    exact h.later hqueue hstamp
  obtain ⟨scope, w⟩ := st
  obtain rfl : scope = _ := h.scope_eq
  cases step with
  | makeBucket reading s passes region =>
      obtain ⟨created, w', heff, hstamp, hqueue⟩ :=
        exists_effect_setUpBucket (c := c) passes reading region w
      have hlt := Stamp.lt_next (hlast rfl) (Stamp.ofReading reading)
      have hlater := h.later (hqueue.trans h.inactive) (hstamp ▸ Int64.le_of_lt hlt)
      rw [Step.act, Act.effect_map (fun handle : Handle => some handle.name), effect_makeBucket,
        heff]
      cases created with
      | ok =>
          have hpush := h.push hlt (hqueue.trans h.inactive) hstamp
          rw [← bucketFinalizer_of_passes passes] at hpush
          exact hpush
      | fault cause =>
          rw [show made _ = [] from rfl, List.append_nil]
          exact hlater
      | unwound reason =>
          rw [show made _ = [] from rfl, List.append_nil]
          exact hlater
  | makeStubber kind client passes =>
      rw [Step.act, Act.effect_map (fun _ => none), made_map_none, List.append_nil, state_make]
      cases hknown : registry.constructor client.service with
      | error cause =>
          rw [effect_makeStubber_of_unknown w hknown]
          exact h
      | ok build =>
          have hmode : config.useStubs = false := by rw [Config.useStubs, hreal, Bool.not_true]
          obtain ⟨hkeeps, hpasses⟩ := passes build hknown
          rw [← hmode] at hkeeps hpasses
          rw [state_makeStubber_of_passes hknown (hpasses w)]
          obtain ⟨hqueue, hstamp⟩ := hkeeps w h.inactive
          exact h.later hqueue hstamp
  | _ => exact hworld rfl

theorem Holds.run (h : Holds c config registry names st) (hreal : config.useRealService = true)
    (steps : List (Step υ c registry)) (hstamps : StampsLast steps st) :
    let run := Act.runEach (steps.map Step.act) st
    Holds c config registry (names ++ made run.1) run.2 := by
  induction steps generalizing names st with
  | nil =>
      intro run
      rw [show made run.1 = [] from rfl, List.append_nil]
      exact h
  | cons step rest ih =>
      obtain ⟨hlast, hrest⟩ := hstamps
      have hlater := ih (h.step hreal step hlast) hrest
      intro run
      rw [show run = _ from Act.runEach_cons .., made_cons, ← List.append_assoc]
      exact hlater

end

/-- After any test on a real service the end of the scope asks to delete each bucket that the test
made with it, once and the latest first. Those that are still there and empty are deleted, and
nothing else changes. It goes well exactly if that is so of all of them; otherwise the failure is
about the latest bucket that cannot be deleted, because it is gone or holds objects. -/
theorem buckets_cleaned_up (hdelete : c.supports "DeleteBucket" = true) {config : Config}
    (hreal : config.useRealService = true) (registry : Registry (World Store υ)) {w : World Store υ}
    (hqueue : (c.stubs w).active = false) (steps : List (Step υ c registry))
    (hstamps : StampsLast steps ⟨.start config registry, w⟩) :
    let run := Act.runEach (steps.map Step.act) ⟨.start config registry, w⟩
    let st := run.2
    let names := made run.1
    let s := st.world.services.read c.backend
    names.Nodup ∧
    ((st.scope.finish.run st.world).outcome = .ok () ↔
      ∀ name ∈ names, s.isVacant name = true) ∧
    ∃ s' events,
      st.scope.finish.run st.world =
        ⟨ending (names.reverse.findSome? s.obstacle), st.world.withService c.backend s', events⟩ ∧
      events.filter (·.target == Store.target) =
        names.reverse.map (Store.callEvent "DeleteBucket") ∧
      ∀ bucket, s'.buckets.get? bucket =
        if bucket ∈ names ∧ s.isVacant bucket = true then none else s.buckets.get? bucket := by
  intro run st names s
  have hstart : Holds c config registry [] (⟨.start config registry, w⟩ : Setting Store υ) :=
    ⟨rfl, hqueue, [], rfl, .nil, fun _ h => absurd h List.not_mem_nil⟩
  have hst : Holds c config registry names st := hstart.run hreal steps hstamps
  have hnodup : names.reverse.Nodup := (List.reverse_perm names).nodup_iff.mpr hst.nodup
  obtain ⟨hreturned, hfault, hstate, hevents⟩ := visits_cleanups hdelete hnodup hst.inactive
  have horder : st.scope.runOrder = names.reverse.map (cleanup c) := by
    rw [hst.scope_eq, Scope.runOrder, List.map_reverse]
  have hfinish := Scope.run_finish_of_returned (s := st.scope) (w := st.world) (horder ▸ hreturned)
  rw [horder, hfault, hstate] at hfinish
  refine ⟨hst.nodup, ?_, _, _, hfinish, hevents, fun bucket => ?_⟩
  · rw [hfinish, ending_eq_ok_iff, List.findSome?_eq_none_iff]
    simp only [List.mem_reverse, Store.obstacle_eq_none_iff, s]
  · rw [s.get?_without hnodup]
    simp only [List.mem_reverse]

/-- Of two buckets the first holds an object, so that only the second is deleted. A stubber that
passes through is made as well. -/
theorem buckets_cleaned_up_two :
    let c : Client := ⟨Storage.serviceName, "r", Storage.operations, 0, 0⟩
    let s := Storage.stubber c false
    let put : Storage.Request := ⟨"bucket5", .putObject "k" "v"⟩
    let steps : List (Step Unit c Registry.builtIn) :=
      [.makeStubber none c (passes_builtIn c c), .makeBucket 5 s rfl none, .makeBucket 5 s rfl none,
        .call c ⟨put.operation, put.params⟩]
    let run := Act.runEach (steps.map Step.act)
      ⟨.start { useRealService := true } Registry.builtIn, World.fresh ()⟩
    let finished := run.2.scope.finish.run run.2.world
    let after := finished.state.services.read 0
    made run.1 = ["bucket5", "bucket6"] ∧ finished.outcome ≠ .ok () ∧
      finished.events.filter (·.target == Store.target) =
        [Store.callEvent "DeleteBucket" "bucket6", Store.callEvent "DeleteBucket" "bucket5"] ∧
      after.buckets.get? "bucket6" = none ∧ (after.buckets.get? "bucket5").isSome := by
  intro c s put steps run finished after
  have hstamps : StampsLast steps
      ⟨.start { useRealService := true } Registry.builtIn, World.fresh ()⟩ :=
    ⟨fun _ => by decide, fun _ => by decide, fun _ => by decide, fun _ => by decide, trivial⟩
  have hnames : made run.1 = ["bucket5", "bucket6"] := by decide
  have hcalls : (made run.1).reverse.map (Store.callEvent "DeleteBucket") =
      [Store.callEvent "DeleteBucket" "bucket6", Store.callEvent "DeleteBucket" "bucket5"] := by
    rw [hnames]
    rfl
  obtain ⟨-, hok, s', events, hfinish, hevents, hstore⟩ :=
    buckets_cleaned_up (c := c) (by decide) rfl Registry.builtIn rfl steps hstamps
  have hfinished : finished = _ := hfinish
  have hafter : finished.state.services.read 0 = s' := by
    rw [hfinished]
    exact World.read_withService_self _ _ _
  refine ⟨hnames, fun h => ?_, ?_, ?_, ?_⟩
  · exact absurd (hok.mp h "bucket5" (by decide)) (by decide)
  · rw [hfinished]
    exact hevents.trans hcalls
  · rw [show after = s' from hafter, hstore]
    exact if_pos (by decide)
  · rw [show after = s' from hafter, hstore, if_neg (by decide)]
    decide

end Fixture.Buckets

end ServiceDoubles
