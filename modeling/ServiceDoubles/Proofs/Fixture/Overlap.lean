import ServiceDoubles.Proofs.Client.Acceptance
import ServiceDoubles.Proofs.Fixture

/-!
# ServiceDoubles.Proofs.Fixture.Overlap

Stubbing scopes whose **lifetimes overlap**, and the calls that are made meanwhile.

Design points:
- A run is taken apart into **moves**, the smallest things that tests, fixtures and finalizers do
  with the world. `Step.moves` says which moves a step of a run consists of, and by `Booked.run` they do
  to the world what the steps do, whatever the services are: a service may well keep a record of its
  calls. So a property of all sequences of moves is one of all runs.
- A finalizer of the test is a list of moves and an ending. One that chooses its moves by what it
  sees does, in a given run, what some list does; one that uses a scope of its own makes the moves
  of that scope.
- A queue has one flag for all who stub its clients. Each fixture sets it, and the finalizer of any
  of them clears it: `active_after` holds up to the first such finalizer and not longer.
-/

namespace ServiceDoubles.Fixture.Overlap

variable {β υ : Type}

/-! ### Moves -/

/-- What can be done with the world in one go. -/
inductive Move (β υ : Type) where
  | call (c : Client) (call : Call)
  | stub (s : Stubber) (operation : String) (expected : Option Json) (response : Json)
      (code : Option String)
  | activate (s : Stubber)
  /-- Uses the queue of a client, but not to stop answering from it. -/
  | queue (c : Client) (step : Queue.Step) (keeps : step ≠ .setActive false)
  /-- Runs the finalizer of a stubber that a stubbing scope made for the client. -/
  | release (c : Client)
  /-- Changes anything but the queues. -/
  | elsewhere (f : World β υ → World β υ) (keeps : ∀ w, (f w).queues = w.queues)

namespace Move

/-- The move runs the finalizer of a stubber for the queue in cell `k`. -/
def releases (k : Nat) : Move β υ → Bool
  | release c => c.queue == k
  | _ => false

variable [Service β]

/-- What the move does. -/
def act : Move β υ → Act (World β υ) Unit
  | call c a => do let _ ← c.call a.operation a.params
  | stub s operation expected response code => s.stub operation expected response code
  | activate s => s.activate
  | queue c step _ => do let _ ← c.onQueue step.act
  | release c => (Fixture.release c).action
  | elsewhere f _ => Act.modify f

end Move

section

variable [Service β]

/-- The world after moves, whatever comes out of each. -/
def after (moves : List (Move β υ)) (w : World β υ) : World β υ :=
  (Act.runEach (moves.map Move.act) w).2

@[simp] theorem after_nil (w : World β υ) : after [] w = w := rfl

@[simp] theorem after_cons (m : Move β υ) (rest : List (Move β υ)) (w : World β υ) :
    after (m :: rest) w = after rest (m.act.effect w).2 := rfl

theorem after_append (ms more : List (Move β υ)) (w : World β υ) :
    after (ms ++ more) w = after more (after ms w) := by
  rw [after, List.map_append, Act.state_runEach_append]
  rfl

/-- The moves up to the first that does not end well, which is the last. -/
def untilFailure : List (Move β υ) → World β υ → List (Move β υ)
  | [], _ => []
  | m :: rest, w =>
    match m.act.effect w with
    | (.ok _, w') => m :: untilFailure rest w'
    | _ => [m]

theorem untilFailure_cons_of_ok {m : Move β υ} {w w' : World β υ} (rest : List (Move β υ))
    (h : m.act.effect w = (.ok (), w')) :
    untilFailure (m :: rest) w = m :: untilFailure rest w' := by
  simp only [untilFailure, h]

theorem untilFailure_cons_of_not_ok {m : Move β υ} {w : World β υ} (rest : List (Move β υ))
    (h : (m.act.effect w).1 ≠ .ok ()) : untilFailure (m :: rest) w = [m] := by
  rw [untilFailure]
  split
  · next x w' hok => exact absurd (congrArg Prod.fst hok) h
  · rfl

theorem untilFailure_singleton (m : Move β υ) (w : World β υ) : untilFailure [m] w = [m] := by
  rw [untilFailure]
  split <;> rfl

/-! ### A queue stays active -/

omit [Service β] in
theorem stays_active {w : World β υ} {k : Nat} (h : (w.queues.read k).active = true) (i : Nat)
    {q : Queue} (hq : k = i → q.active = true) :
    ((w.withQueue i q).queues.read k).active = true := by
  by_cases hk : k = i
  · subst hk
    rw [World.read_withQueue_self]
    exact hq rfl
  · rw [World.read_withQueue_of_ne _ _ hk]
    exact h

/-- Only the finalizer of a stubber for a queue stops its answering. -/
theorem Move.active_act {w : World β υ} {k : Nat} (h : (w.queues.read k).active = true)
    {m : Move β υ} (hm : m.releases k = false) :
    ((m.act.effect w).2.queues.read k).active = true := by
  cases m with
  | call c a =>
      rw [act, Act.state_discard, Client.active_effect_call]
      exact h
  | stub s operation expected response code =>
      rw [act, Stubber.active_effect_stub]
      exact h
  | activate s =>
      rw [act, Stubber.effect_activate]
      exact stays_active h _ fun _ => rfl
  | queue c step keeps =>
      rw [act, Act.state_discard, Client.effect_onQueue]
      refine stays_active h _ fun hk => ?_
      rw [Queue.Step.active_effect_act, Client.stubs, ← hk]
      -- Of the operations on a queue only the excluded one would stop it.
      cases step with
      | add _ => exact h
      | next _ _ => exact h
      | setActive active => simpa using keeps
  | release c =>
      rw [act, effect_release]
      exact stays_active h _ fun hk => absurd hk.symm (beq_eq_false_iff_ne.mp hm)
  | elsewhere f keeps =>
      rw [act, Act.effect_modify, keeps]
      exact h

/-- A queue stays active as long as no finalizer of a stubber for it runs. -/
theorem active_after {w : World β υ} {k : Nat} (h : (w.queues.read k).active = true)
    {moves : List (Move β υ)} (hmoves : ∀ m ∈ moves, m.releases k = false) :
    ((after moves w).queues.read k).active = true := by
  induction moves generalizing w with
  | nil => exact h
  | cons m rest ih =>
      exact ih (Move.active_act h (hmoves m List.mem_cons_self)) fun m' hm' =>
        hmoves m' (List.mem_cons_of_mem _ hm')

end

/-! ### Cleanups -/

/-- What a scope does when it ends, for one of its finalizers. -/
inductive Cleanup (β υ : Type) where
  /-- The finalizer of a stubber that a stubbing scope made for the client. -/
  | stubber (c : Client)
  /-- The finalizer of a bucket. -/
  | bucket (s : Stubber) (h : Storage.Handle)
  /-- A finalizer of the test itself: it makes some moves and ends in some way. -/
  | own (name : String) (moves : List (Move β υ)) (ending : Outcome Unit)

section

variable [Service β]

/-- Makes moves, whatever comes out of each. -/
def play : List (Move β υ) → Act (World β υ) Unit
  | [] => return ()
  | m :: rest => do
    let _ ← Act.settle m.act
    play rest

theorem effect_play (moves : List (Move β υ)) (w : World β υ) :
    (play moves).effect w = (.ok (), after moves w) := by
  induction moves generalizing w with
  | nil => rfl
  | cons m rest ih =>
      rw [play, Act.effect_bind, Act.effect_settle, Act.goOn_ok, ih]
      rfl

namespace Cleanup

/-- The finalizer of the cleanup. -/
def finalizer : Cleanup β υ → Finalizer (World β υ)
  | stubber c => Fixture.release c
  | bucket s h => bucketFinalizer s h
  | own name moves ending => ⟨name, do play moves; Act.ofOutcome ending⟩

/-- The moves that the finalizer makes. -/
def moves : Cleanup β υ → List (Move β υ)
  | stubber c => [.release c]
  | bucket s h =>
    if s.useStubs then []
    else
      let request : Storage.Request := ⟨h.name, .deleteBucket⟩
      [.call h.client ⟨request.operation, request.params⟩]
  | own _ moves _ => moves

theorem state_finalizer (k : Cleanup β υ) (w : World β υ) :
    (k.finalizer.action.effect w).2 = after k.moves w := by
  cases k with
  | stubber c => rfl
  | bucket s h =>
      cases hstubs : s.useStubs with
      | true =>
          simp only [finalizer, action_bucketFinalizer_of_stubs hstubs, moves, hstubs, if_true,
            Act.effect_pure, after_nil]
      | false =>
          simp only [finalizer, action_bucketFinalizer_of_passes hstubs, moves, hstubs,
            Bool.false_eq_true, if_false]
          rfl
  | own name moves ending =>
      exact (Act.state_bind_of_keeps (play moves) (fun _ _ => rfl) w).trans
        (congrArg Prod.snd (effect_play moves w))

/-- The moves of a loop over cleanups, and the cleanups that it leaves behind one that unwinds. -/
def sweep : List (Cleanup β υ) → World β υ → List (Move β υ) × List (Cleanup β υ)
  | [], _ => ([], [])
  | k :: rest, w =>
    match (k.finalizer.action.effect w).1 with
    | .unwound _ => (k.moves, rest)
    | _ =>
      let later := sweep rest (after k.moves w)
      (k.moves ++ later.1, later.2)

/-- The moves of a scope that is finished: those of the loop, and those of the loop over what the
first one left. -/
def finish (ks : List (Cleanup β υ)) (w : World β υ) : List (Move β υ) :=
  let swept := sweep ks w
  swept.1 ++ (sweep swept.2 (after swept.1 w)).1

theorem sweep_cons_of_unwound {k : Cleanup β υ} (rest : List (Cleanup β υ)) {w : World β υ}
    {reason : String} (h : (k.finalizer.action.effect w).1 = .unwound reason) :
    sweep (k :: rest) w = (k.moves, rest) := by
  simp only [sweep, h]

theorem sweep_cons_of_returned {k : Cleanup β υ} (rest : List (Cleanup β υ)) {w : World β υ}
    (h : ∀ reason, (k.finalizer.action.effect w).1 ≠ .unwound reason) :
    sweep (k :: rest) w =
      (k.moves ++ (sweep rest (after k.moves w)).1, (sweep rest (after k.moves w)).2) := by
  rw [sweep]
  split
  · next reason hout => exact absurd hout (h reason)
  · rfl

/-- The loop over the finalizers makes the moves of the loop over the cleanups. -/
theorem run_sweep (ks : List (Cleanup β υ)) (w : World β υ) :
    ∃ swept es, (Scope.sweep (ks.map finalizer)).run w = ⟨.ok swept, after (sweep ks w).1 w, es⟩ ∧
      swept.left = (sweep ks w).2.map finalizer := by
  induction ks generalizing w with
  | nil => exact ⟨_, _, rfl, rfl⟩
  | cons k rest ih =>
      -- Only whether the finalizer unwinds matters: a failure does not keep the rest from running.
      by_cases hreturned : ∀ reason, (k.finalizer.action.effect w).1 ≠ .unwound reason
      · obtain ⟨swept, es, hrun, hleft⟩ := ih (after k.moves w)
        rw [← state_finalizer k w] at hrun
        rw [sweep_cons_of_returned rest hreturned, after_append, List.map_cons,
          Scope.run_sweep_cons_of_returned hreturned hrun, state_finalizer]
        exact ⟨_, _, rfl, (Scope.left_behind ..).trans hleft⟩
      · obtain ⟨reason, hout⟩ := not_forall_not.mp hreturned
        rw [sweep_cons_of_unwound rest hout, List.map_cons, Scope.run_sweep_cons_of_unwound _ hout]
        exact ⟨_, _, congrArg (Run.mk _ · _) (state_finalizer k w), rfl⟩

theorem state_sweep (ks : List (Cleanup β υ)) (w : World β υ) :
    ((Scope.sweep (ks.map finalizer)).effect w).2 = after (sweep ks w).1 w := by
  obtain ⟨swept, es, hrun, -⟩ := run_sweep ks w
  rw [Act.effect_of_run hrun]

theorem state_finish {s : Scope (World β υ)} {ks : List (Cleanup β υ)}
    (h : s.runOrder = ks.map finalizer) (w : World β υ) :
    (s.finish.effect w).2 = after (finish ks w) w := by
  obtain ⟨swept, es, hrun, hleft⟩ := run_sweep ks w
  rw [← h] at hrun
  rw [Scope.state_finish (Act.effect_of_run hrun), hleft, state_sweep, finish, after_append]

end Cleanup

/-! ### Runs -/

/-- What a run with many scopes has made so far: the world, the scopes, and beside each scope the
cleanups that were added to it, in order. A cell holds a new scope once its scope has ended. -/
structure Stage (β υ : Type) where
  world : World β υ
  scopes : Cells (Scope (World β υ))
  ledger : Cells (List (Cleanup β υ))

namespace Stage

omit [Service β] in
/-- The beginning of a run with stubbing scopes. -/
def start (regions : Nat → String) (w : World β υ) : Stage β υ where
  world := w
  scopes := ⟨fun i => .start { useRealService := false, region := regions i } Registry.builtIn⟩
  ledger := ⟨fun _ => []⟩

omit [Service β] in
/-- Asks the scope in cell `i` for a fixture. The fixture adds the cleanup, if it adds one. -/
def request {α : Type} (st : Stage β υ) (i : Nat) (a : Act (Setting β υ) α)
    (cleanup : Outcome α → Option (Cleanup β υ)) : Stage β υ :=
  let r := a.effect ⟨st.scopes.read i, st.world⟩
  { world := r.2.world
    scopes := st.scopes.write i r.2.scope
    ledger := st.ledger.write i (st.ledger.read i ++ (cleanup r.1).toList) }

omit [Service β] in
/-- Ends the scope in cell `i` in one of the ways to do so. -/
def endScope (st : Stage β υ) (i : Nat) (way : Scope (World β υ) → Act (World β υ) Unit) :
    Stage β υ where
  world := ((way (st.scopes.read i)).effect st.world).2
  scopes := st.scopes.write i { st.scopes.read i with finalizers := [] }
  ledger := st.ledger.write i []

end Stage

/-- A step of a run. -/
inductive Step (β υ : Type) where
  | move (m : Move β υ)
  /-- Makes a stubber, of a given kind or of any. -/
  | makeStubber (i : Nat) (kind : Option StubberKind) (client : Client)
  | makeBucket (i : Nat) (reading : Int) (s : Stubber) (client : Client) (region : Option String)
  | addFinalizer (i : Nat) (name : String) (moves : List (Move β υ)) (ending : Outcome Unit)
  | finish (i : Nat)
  | drop (i : Nat)
  | dropUnwinding (i : Nat)

namespace Step

/-- What is added with a stubber. Only a storage service has one. -/
def stubberCleanup (client : Client) : Option (Cleanup β υ) :=
  if client.service = Storage.serviceName then some (.stubber client) else none

/-- What is added with a bucket, if there is one. -/
def bucketCleanup (s : Stubber) : Outcome Storage.Handle → Option (Cleanup β υ)
  | .ok h => some (.bucket s h)
  | _ => none

/-- The stage after the step. -/
def next : Step β υ → Stage β υ → Stage β υ
  | move m, st => { st with world := (m.act.effect st.world).2 }
  | makeStubber i kind client, st => st.request i (make kind client) fun _ => stubberCleanup client
  | makeBucket i reading s client region, st =>
    st.request i (Fixture.makeBucket reading s client region) (bucketCleanup s)
  | addFinalizer i name moves ending, st =>
    let k : Cleanup β υ := .own name moves ending
    st.request i (Setting.onScope (Scope.add k.finalizer)) fun _ => some k
  | finish i, st => st.endScope i Scope.finish
  | drop i, st => st.endScope i Scope.drop
  | dropUnwinding i, st => st.endScope i Scope.dropUnwinding

/-- What a bucket fixture does, as long as all goes well. -/
def setUp (reading : Int) (s : Stubber) (client : Client) (region : Option String)
    (w : World β υ) : List (Move β υ) :=
  let name := Stamp.name "bucket" (Stamp.next w.lastStamp (Stamp.ofReading reading))
  let stub := Storage.Stub.createBucket name (some (bucketRegion client region))
  let operation := stub.request.operation
  let params := stub.request.params
  [.elsewhere (fun w => ((World.uniqueName reading "bucket").effect w).2) fun _ => rfl,
    .stub s operation (some params) stub.response none,
    .call client ⟨operation, params⟩]

/-- The moves that the step consists of. -/
def moves : Step β υ → Stage β υ → List (Move β υ)
  | move m, _ => [m]
  | makeStubber _ _ client, _ =>
    if client.service = Storage.serviceName then [.activate (Storage.stubber client true)] else []
  | makeBucket _ reading s client region, st =>
    untilFailure (setUp reading s client region st.world) st.world
  | addFinalizer .., _ => []
  | finish i, st => Cleanup.finish (st.ledger.read i).reverse st.world
  | drop i, st => (Cleanup.sweep (st.ledger.read i).reverse st.world).1
  | dropUnwinding i, st => (Cleanup.sweep (st.ledger.read i).reverse st.world).1

end Step

/-- The stage after the steps of a run. -/
def run : List (Step β υ) → Stage β υ → Stage β υ
  | [], st => st
  | step :: rest, st => run rest (step.next st)

/-- The moves that a run consists of. -/
def moves : List (Step β υ) → Stage β υ → List (Move β υ)
  | [], _ => []
  | step :: rest, st => step.moves st ++ moves rest (step.next st)

/-! ### A run is what its moves make of it -/

omit [Service β] in
theorem state_makeStubber (w : World β υ) (region : String) (fs : List (Finalizer (World β υ)))
    (kind : Option StubberKind) (client : Client) :
    ((make kind client).effect ⟨stubbing region fs, w⟩).2 =
      if client.service = Storage.serviceName then
        ⟨stubbing region (fs ++ [Fixture.release client]),
          w.withQueue client.queue ((client.stubs w).setActive true)⟩
      else ⟨stubbing region fs, w⟩ := by
  rw [state_make]
  by_cases h : client.service = Storage.serviceName
  · rw [effect_makeStubber_stubbing w h, if_pos h]
  · rw [effect_makeStubber_stubbing_of_ne w h, if_neg h]

theorem state_setUpBucket (reading : Int) (s : Stubber) (client : Client) (region : Option String)
    (w : World β υ) :
    ((setUpBucket reading s client region).effect w).2 =
      after (untilFailure (Step.setUp reading s client region w) w) w := by
  let stamp := Stamp.next w.lastStamp (Stamp.ofReading reading)
  let name := Stamp.name "bucket" stamp
  let place := bucketRegion client region
  let stub := Storage.Stub.createBucket name (some place)
  let named : World β υ := { w with lastStamp := stamp }
  let naming : Move β υ :=
    .elsewhere (fun w => ((World.uniqueName reading "bucket").effect w).2) fun _ => rfl
  let expecting : Move β υ :=
    .stub s stub.request.operation (some stub.request.params) stub.response none
  let creating : Move β υ := .call client ⟨stub.request.operation, stub.request.params⟩
  have hname : (World.uniqueName reading "bucket").effect w = (.ok name, named) := rfl
  have hnaming : naming.act.effect w = (.ok (), named) := rfl
  change _ = after (untilFailure [naming, expecting, creating] w) w
  rw [setUpBucket, Act.effect_bind, hname, Act.goOn_ok, Act.effect_bind,
    untilFailure_cons_of_ok _ hnaming, after_cons, hnaming]
  have hact : expecting.act.effect named = (stub.queue s none).effect named := rfl
  -- Naming always goes well. If the stub is refused, the bucket is not asked for.
  rcases hstub : (stub.queue s none).effect named with ⟨o, w'⟩
  cases o with
  | ok =>
      rw [Act.goOn_ok, untilFailure_cons_of_ok _ (hact.trans hstub), untilFailure_singleton,
        after_cons, hact, hstub]
      exact Act.state_bind_of_keeps (Storage.Handle.create ⟨client, name⟩ (some place))
        (fun _ _ => rfl) w'
  | fault cause =>
      have hfailed : (expecting.act.effect named).1 ≠ .ok () := by simp [hact, hstub]
      rw [untilFailure_cons_of_not_ok _ hfailed, after_cons, hact, hstub]
      rfl
  | unwound reason =>
      have hfailed : (expecting.act.effect named).1 ≠ .ok () := by simp [hact, hstub]
      rw [untilFailure_cons_of_not_ok _ hfailed, after_cons, hact, hstub]
      rfl

/-- The invariant of a run: the finalizers of each scope are those of its cleanups in the ledger. -/
structure Booked (regions : Nat → String) (st : Stage β υ) : Prop where
  scope_eq : ∀ i, st.scopes.read i =
    stubbing (regions i) ((st.ledger.read i).map Cleanup.finalizer)

namespace Booked

variable {regions : Nat → String} {st : Stage β υ}

theorem start (regions : Nat → String) (w : World β υ) : Booked regions (Stage.start regions w) :=
  ⟨fun _ => rfl⟩

theorem write (h : Booked regions st) (w : World β υ) (i : Nat) (ks : List (Cleanup β υ)) :
    Booked regions
      ⟨w, st.scopes.write i (stubbing (regions i) (ks.map Cleanup.finalizer)),
        st.ledger.write i ks⟩ := by
  refine ⟨fun j => ?_⟩
  by_cases hj : j = i
  · subst hj
    rw [Cells.read_write_self, Cells.read_write_self]
  · rw [Cells.read_write_of_ne _ _ hj, Cells.read_write_of_ne _ _ hj]
    exact h.scope_eq j

/-- A request that leaves a scope with what was asked for keeps the books. -/
theorem request {α : Type} (h : Booked regions st) {i : Nat} {a : Act (Setting β υ) α}
    {cleanup : Outcome α → Option (Cleanup β υ)} {w : World β υ}
    (ha : (a.effect ⟨st.scopes.read i, st.world⟩).2 =
      ⟨stubbing (regions i)
        ((st.ledger.read i).map Cleanup.finalizer ++
          (cleanup (a.effect ⟨st.scopes.read i, st.world⟩).1).toList.map Cleanup.finalizer), w⟩) :
    Booked regions (st.request i a cleanup) ∧ (st.request i a cleanup).world = w := by
  rw [← List.map_append] at ha
  rw [Stage.request, ha]
  exact ⟨h.write .., rfl⟩

theorem endScope (h : Booked regions st) (i : Nat)
    (way : Scope (World β υ) → Act (World β υ) Unit) : Booked regions (st.endScope i way) := by
  rw [Stage.endScope, h.scope_eq i]
  exact h.write _ i []

theorem runOrder (h : Booked regions st) (i : Nat) :
    (st.scopes.read i).runOrder = (st.ledger.read i).reverse.map Cleanup.finalizer := by
  rw [h.scope_eq i, List.map_reverse]
  rfl

/-- A step keeps the books, and does to the world what its moves do. -/
theorem next (h : Booked regions st) (step : Step β υ) :
    Booked regions (step.next st) ∧ (step.next st).world = after (step.moves st) st.world := by
  cases step with
  | move m => exact ⟨⟨h.scope_eq⟩, rfl⟩
  | makeStubber i kind client =>
      rw [Step.next]
      refine h.request ?_
      rw [h.scope_eq i, state_makeStubber, Step.stubberCleanup, Step.moves]
      by_cases hservice : client.service = Storage.serviceName
      · rw [if_pos hservice, if_pos hservice, if_pos hservice]
        rfl
      · rw [if_neg hservice, if_neg hservice, if_neg hservice, Option.toList_none, List.map_nil,
          List.append_nil]
        rfl
  | makeBucket i reading s client region =>
      -- The scope gets a finalizer, and the ledger a cleanup, only if the bucket was created.
      refine h.request ?_
      rw [h.scope_eq i, Step.moves, ← state_setUpBucket, effect_makeBucket]
      rcases (setUpBucket reading s client region).effect st.world with ⟨o, w⟩
      cases o with
      | ok handle => rfl
      | fault cause => simp [Step.bucketCleanup]
      | unwound reason => simp [Step.bucketCleanup]
  | addFinalizer i name moves ending =>
      rw [Step.next]
      refine h.request ?_
      rw [h.scope_eq i]
      rfl
  | finish i => exact ⟨h.endScope i _, Cleanup.state_finish (h.runOrder i) st.world⟩
  | drop i =>
      refine ⟨h.endScope i _, ?_⟩
      rw [Step.moves, ← Cleanup.state_sweep, ← h.runOrder i]
      exact Scope.state_release ..
  | dropUnwinding i =>
      refine ⟨h.endScope i _, ?_⟩
      rw [Step.moves, ← Cleanup.state_sweep, ← h.runOrder i]
      exact Scope.state_releaseUnwinding ..

theorem run (h : Booked regions st) (steps : List (Step β υ)) :
    Booked regions (Overlap.run steps st) ∧
      (Overlap.run steps st).world = after (moves steps st) st.world := by
  induction steps generalizing st with
  | nil => exact ⟨h, rfl⟩
  | cons step rest ih =>
      obtain ⟨hnext, hworld⟩ := h.next step
      obtain ⟨hrun, hmoves⟩ := ih hnext
      refine ⟨hrun, ?_⟩
      rw [moves, after_append, ← hworld]
      exact hmoves

end Booked

/-! ### What is left of the promise -/

omit [Service β] in
/-- A stubbing scope makes stubbers for storage clients alone. -/
theorem service_of_make {w : World β υ} {region : String} {fs : List (Finalizer (World β υ))}
    {kind : Option StubberKind} {client : Client} {s : AnyStubber (World β υ)}
    (h : ((make kind client).effect ⟨stubbing region fs, w⟩).1 = .ok s) :
    client.service = Storage.serviceName := by
  by_contra hne
  have hfault : (makeStubber client).effect ⟨stubbing region fs, w⟩ = _ :=
    effect_makeStubber_stubbing_of_ne w hne
  cases kind with
  | none =>
      simp [make, hfault] at h
  | some k =>
      simp [make, effect_makeStubberOf, hfault] at h

/-- From the moment at which a stubber for a client is made in some scope, no call of the client or
of a copy of it goes to the service, until the finalizer of any stubber for the client or for a copy
runs, in this scope or in another. In between there may be anything else: other fixtures in any
scopes, scopes that end, and finalizers of the test itself. -/
theorem stubbed_until_release (regions : Nat → String) (w : World β υ)
    (before during : List (Step β υ)) (i : Nat) (kind : Option StubberKind) (client : Client)
    (s : AnyStubber (World β υ))
    (hmade :
      let st := run before (Stage.start regions w)
      ((make kind client).effect ⟨st.scopes.read i, st.world⟩).1 = .ok s) :
    let st := (Step.makeStubber i kind client).next (run before (Stage.start regions w))
    let done := run during st
    (done.world = after (moves during st) st.world ∧
      ∀ j, done.scopes.read j =
        stubbing (regions j) ((done.ledger.read j).map Cleanup.finalizer)) ∧
    ∀ earlier c a later, moves during st = earlier ++ .call c a :: later →
      c.queue = client.queue → (∀ m ∈ earlier, m.releases client.queue = false) →
      let w' := after earlier st.world
      c.reaches a.operation w' = false ∧
      ((c.call a.operation a.params).effect w').2.services = w'.services := by
  intro st done
  obtain ⟨hbooked, -⟩ := (Booked.start regions w).run before
  have hservice : client.service = Storage.serviceName := by
    dsimp only at hmade
    rw [hbooked.scope_eq i] at hmade
    exact service_of_make hmade
  obtain ⟨hst, hworld⟩ := hbooked.next (.makeStubber i kind client)
  obtain ⟨hdone, hmoves⟩ := hst.run during
  refine ⟨⟨hmoves, hdone.scope_eq⟩, fun earlier c a later hsplit hqueue hearlier => ?_⟩
  have hactive : (st.world.queues.read client.queue).active = true := by
    rw [hworld, Step.moves, if_pos hservice, after_cons, after_nil, Move.act,
      Stubber.effect_activate]
    exact congrArg Queue.active (World.read_withQueue_self ..)
  have hstubbed : (c.stubs (after earlier st.world)).active = true := by
    rw [Client.stubs, hqueue]
    exact active_after hactive hearlier
  have hreaches : c.reaches a.operation (after earlier st.world) = false := by
    rw [Client.reaches, hstubbed, Bool.not_true, Bool.and_false]
  exact ⟨hreaches, Client.services_effect_call c _ _ _ hreaches⟩

/-- Two scopes stub a client. When the first of them ends, a finalizer of the test calls the client
before the stubber's finalizer runs. -/
theorem stubbed_until_release_two :
    let c : Client := ⟨"s3", "r", ["HeadBucket"], 0, 0⟩
    let other : Client := ⟨"s3", "r", [], 0, 1⟩
    let call : Call := ⟨"HeadBucket", .null⟩
    let before : List (Step Storage.Store Unit) := [.makeStubber 0 none c]
    let during : List (Step Storage.Store Unit) :=
      [.addFinalizer 0 "ask" [.call c call] (.fault (.config "no")), .makeStubber 1 none other,
        .finish 0]
    let st := (Step.makeStubber 1 none c).next
      (run before (Stage.start (fun _ => "r") (World.fresh ())))
    let stubbing : Move Storage.Store Unit := .activate (Storage.stubber other true)
    moves during st = [stubbing, .call c call, .release c] ∧
      c.reaches call.operation (after [stubbing] st.world) = false := by
  intro c other call before during st stubbing
  have hmoves : moves during st = [stubbing] ++ .call c call :: [.release c] := rfl
  obtain ⟨-, huntil⟩ := stubbed_until_release (fun _ => "r") (World.fresh ()) before during 1 none c
    (Storage.stubber c true).toAny rfl
  exact ⟨hmoves, (huntil _ c call _ hmoves rfl (by simp [stubbing, Move.releases])).1⟩

/-- The finalizer of the client's own stubber is no better bound for this: two scopes stub a client,
the first of them ends, and a call goes to the service although the second has not run its
finalizer. The same happens if somebody stops the queue by hand. -/
theorem reaches_after_foreign_release :
    let c : Client := ⟨"s3", "r", ["HeadBucket"], 0, 0⟩
    let call : Call := ⟨"HeadBucket", .null⟩
    let st : Stage Storage.Store Unit :=
      run [.makeStubber 0 none c] (Stage.start (fun _ => "r") (World.fresh ()))
    let made := (Step.makeStubber 1 none c).next st
    let ended := run [.finish 0] made
    ((make none c).effect ⟨st.scopes.read 1, st.world⟩).1 = .ok (Storage.stubber c true).toAny ∧
    (made.scopes.read 1).finalizers = [Fixture.release c] ∧
    (ended.scopes.read 1).finalizers = [Fixture.release c] ∧
    c.reaches call.operation ended.world = true ∧
    (c.call call.operation call.params).effect ended.world =
      (let r := (Service.call call.operation call.params).effect (ended.world.services.read 0)
      (r.1, ended.world.withService 0 r.2)) ∧
    c.reaches call.operation
      ((c.onQueue (Queue.Step.act (.setActive false))).effect made.world).2 = true := by
  intro c call st made ended
  exact ⟨rfl, rfl, rfl, rfl, Client.effect_call_inactive c _ _ _ rfl rfl, rfl⟩

end

end ServiceDoubles.Fixture.Overlap
