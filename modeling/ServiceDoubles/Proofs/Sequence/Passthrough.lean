import ServiceDoubles.Proofs.Client
import ServiceDoubles.Proofs.Sequence.Walk
import ServiceDoubles.Storage.Stub

/-!
# ServiceDoubles.Proofs.Sequence.Passthrough

**Passing through**: a stubber that does not stub leaves no trace. Whatever it is asked to queue, it
gives nothing and changes nothing, and so do the sequences and the runners that ask nothing else of
anybody. A test body can therefore be read without these steps (`passthrough_erased`).

Design points:
- An entry holds the stubbers that it asks (`Planned.held`), so whether it passes through is read
  off without running it. What it asks of them may depend on the code that it gets.
- What else a test does is any action at all (`Step.other`). It works on the world and on whatever
  the test has beside it, such as its scopes.
-/

namespace ServiceDoubles.Passthrough

variable {τ β υ α : Type}

/-! ### What is asked of stubbers -/

/-- A call that a stubber is asked to queue: any call of its client, or one of a storage service. -/
inductive Wish where
  | call (operation : String) (expected : Option Json) (response : Json)
  | storage (stub : Storage.Stub)

/-- A stubber is asked to queue a call. -/
structure Stubbing where
  stubber : Stubber
  wish : Wish
  code : Option String

namespace Stubbing

def act (x : Stubbing) : Act (World β υ) Unit :=
  match x.wish with
  | .call operation expected response => x.stubber.stub operation expected response x.code
  | .storage stub => stub.queue x.stubber x.code

def passes (x : Stubbing) : Bool := !x.stubber.useStubs

theorem idle_act {x : Stubbing} (h : x.passes = true) : (x.act : Act (World β υ) Unit).Idle () := by
  have huse : x.stubber.useStubs = false := by simpa [passes] using h
  unfold act
  cases x.wish with
  | call operation expected response => exact Stubber.idle_stub huse _ _ _ _
  | storage stub => exact Stubber.idle_stub huse _ _ _ _

end Stubbing

/-! ### Entries -/

/-- An entry, with the stubbers that it holds. It asks no others. -/
structure Planned where
  service : String
  name : String
  stubbers : List Stubber
  stubbings : Option String → List Stubbing
  held : ∀ code, ∀ x ∈ stubbings code, x.stubber ∈ stubbers

namespace Planned

/-- All stubbers of the entry pass through. -/
def passes (e : Planned) : Bool := e.stubbers.all fun s => !s.useStubs

def entry (e : Planned) : Entry (World β υ) where
  name := e.name
  invoke code := (e.stubbings code).forM Stubbing.act

def runnerEntry (e : Planned) : RunnerEntry (World β υ) := ⟨e.service, e.entry⟩

theorem idle_forM {stubbings : List Stubbing} (h : ∀ x ∈ stubbings, x.passes = true) :
    (stubbings.forM Stubbing.act : Act (World β υ) Unit).Idle () := by
  induction stubbings with
  | nil => exact Act.idle_pure ()
  | cons x rest ih =>
      obtain ⟨hx, hrest⟩ := List.forall_mem_cons.mp h
      exact (Stubbing.idle_act hx).bind (ih hrest)

theorem idle_invoke {e : Planned} (h : e.passes = true) (code : Option String) :
    ((e.entry : Entry (World β υ)).invoke code).Idle () :=
  idle_forM fun x hx => List.all_eq_true.mp h x.stubber (e.held code x hx)

end Planned

/-! ### Sequences and runners -/

section

variable {σ : Type} {entries : List (Entry σ)}

/-- A walk over entries that do nothing comes to the same count from every state. -/
theorem exists_walk_eq (g : Guide) (h : ∀ e ∈ entries, ∀ code, (e.invoke code).Idle ()) :
    ∃ n, ∀ s, walk g entries s = (.ok n, s) := by
  induction entries with
  | nil => exact ⟨0, fun _ => rfl⟩
  | cons e rest ih =>
      obtain ⟨he, hrest⟩ := List.forall_mem_cons.mp h
      obtain ⟨n, hn⟩ := ih hrest
      cases hends : g.ends e.name with
      | true => exact ⟨1, fun s => by rw [walk_cons_of_ok (he _ s), hends, countOn_of_ends]⟩
      | false =>
          refine ⟨n + 1, fun s => ?_⟩
          rw [walk_cons_of_ok (he _ s), hends, countOn_of_goes_on (hn s)]

theorem exists_idle_sequence (o : RunOptions)
    (h : ∀ e ∈ entries, ∀ code, (e.invoke code).Idle ()) :
    ∃ n, (Sequence.run o entries).Idle n := by
  obtain ⟨n, hn⟩ := exists_walk_eq o.guide h
  exact ⟨n, fun s => (Sequence.effect_run o entries s).trans (hn s)⟩

theorem exists_idle_runner (r : Runner σ)
    (h : ∀ e ∈ r.entries, ∀ code, (e.entry.invoke code).Idle ()) : ∃ n, r.run.Idle n := by
  obtain ⟨n, hn⟩ := exists_walk_eq r.guide (List.forall_mem_map.mpr h)
  exact ⟨n, fun s => (r.effect_run_eq_walk s).trans (hn s)⟩

end

/-- The ways to run a runner: by itself, or as a scoped runner. -/
inductive Way where
  | run
  | finish
  | drop
  | dropUnwinding
  /-- A body fills the runner, which then runs. -/
  | within

/-- What comes out of a step: nothing, a count of entries, or what an action of the test gives. -/
inductive Answer (α : Type) where
  | done
  | count (n : Nat)
  | own (value : α)

namespace Way

variable {σ : Type}

/-- Fills a runner. -/
def fill (entries : List (RunnerEntry σ)) : Act (Runner σ × σ) Unit :=
  Act.modify fun x => ({ x.1 with entries := x.1.entries ++ entries }, x.2)

def act (r : Runner σ) : Way → Act σ (Answer α)
  | run => return .count (← r.run)
  | finish => return .count (← r.finish)
  | drop => do
    r.drop
    return .done
  | dropUnwinding => do
    r.dropUnwinding
    return .done
  | within => return .count (← Runner.within r.code r.stopMethod (fill r.entries))

theorem idle_finish {r : Runner σ} {n : Nat} (h : r.run.Idle n) : r.finish.Idle n :=
  h.settle.bind ((Act.idle_pure ()).bind fun _ => rfl)

theorem effect_within (r : Runner σ) (s : σ) :
    (Runner.within r.code r.stopMethod (fill r.entries)).effect s = r.finish.effect s := by
  rw [Runner.within, Act.effect_bind]
  rfl

/-- Whichever way a runner runs, it does nothing if its run does nothing. -/
theorem exists_idle_act {r : Runner σ} {n : Nat} (h : r.run.Idle n) (way : Way) :
    ∃ answer : Answer α, (way.act r).Idle answer := by
  cases way with
  | run => exact ⟨.count n, h.map Answer.count⟩
  | finish => exact ⟨.count n, (idle_finish h).map Answer.count⟩
  | drop => exact ⟨.done, (h.attempt.bind (Act.idle_pure ())).bind (Act.idle_pure _)⟩
  | dropUnwinding => exact ⟨.done, (h.attempt.bind (Act.idle_pure ())).bind (Act.idle_pure _)⟩
  | within =>
      have hwithin : (Runner.within r.code r.stopMethod (fill r.entries)).Idle n := fun s =>
        (effect_within r s).trans (idle_finish h s)
      exact ⟨.count n, hwithin.map Answer.count⟩

end Way

/-! ### Runs -/

/-- A step of a run. -/
inductive Step (τ β υ α : Type) where
  | stub (x : Stubbing)
  | sequence (options : RunOptions) (plan : List Planned)
  | runner (way : Way) (code stop : Option String) (plan : List Planned)
  /-- Anything else. -/
  | other (act : Act (τ × World β υ) α)

namespace Step

def onWorld (a : Act (World β υ) α) : Act (τ × World β υ) α :=
  Act.onPart (·.2) (fun s w => (s.1, w)) a

theorem idle_onWorld {a : Act (World β υ) α} {x : α} (h : a.Idle x) :
    (onWorld a : Act (τ × World β υ) α).Idle x :=
  h.onPart fun _ => rfl

def act : Step τ β υ α → Act (τ × World β υ) (Answer α)
  | stub x => onWorld do
    x.act
    return .done
  | sequence o plan => onWorld do return .count (← Sequence.run o (plan.map Planned.entry))
  | runner way code stop plan =>
    onWorld (way.act { code, stopMethod := stop, entries := plan.map Planned.runnerEntry })
  | other a => do return .own (← a)

/-- All stubbers of the step pass through, and it does nothing but ask them. -/
def passes : Step τ β υ α → Bool
  | stub x => x.passes
  | sequence _ plan => plan.all Planned.passes
  | runner _ _ _ plan => plan.all Planned.passes
  | other _ => false

theorem exists_idle_act {x : Step τ β υ α} (h : x.passes = true) :
    ∃ answer, x.act.Idle answer := by
  cases x with
  | stub x => exact ⟨.done, idle_onWorld ((Stubbing.idle_act h).map fun _ => Answer.done)⟩
  | sequence o plan =>
      have hplan := List.all_eq_true.mp h
      have hentries : ∀ e ∈ plan.map (Planned.entry (β := β) (υ := υ)), ∀ code,
          (e.invoke code).Idle () :=
        List.forall_mem_map.mpr fun e he => Planned.idle_invoke (hplan e he)
      obtain ⟨n, hn⟩ := exists_idle_sequence o hentries
      exact ⟨.count n, idle_onWorld (hn.map Answer.count)⟩
  | runner way code stop plan =>
      have hplan := List.all_eq_true.mp h
      obtain ⟨n, hn⟩ := exists_idle_runner
        { code, stopMethod := stop, entries := plan.map Planned.runnerEntry }
        (List.forall_mem_map.mpr fun e he => Planned.idle_invoke (hplan e he))
      obtain ⟨answer, hact⟩ := Way.exists_idle_act (α := α) hn way
      exact ⟨answer, idle_onWorld hact⟩
  | other a => exact absurd h Bool.false_ne_true

end Step

/-- A stubber that passes through gives nothing and changes nothing, whatever it is asked to queue,
and so does a step that asks only such stubbers. If these steps are left out of a run, the others
come out the same and the world at the end is the same, be it that the run goes on whatever comes
out of a step or that it stops at the first step that gives no value. -/
theorem passthrough_erased (steps : List (Step τ β υ α)) (start : τ × World β υ) :
    (∀ x : Stubbing, x.stubber.useStubs = false →
      ∀ w : World β υ, x.act.effect w = (.ok (), w)) ∧
    (∀ x : Step τ β υ α, x.passes = true →
      ∃ answer, ∀ s, x.act.effect s = (.ok answer, s)) ∧
    let keep (x : Step τ β υ α) := !x.passes
    let each := Act.runEach (steps.map Step.act) start
    let whileOk := Act.runWhileOk (steps.map Step.act) start
    Act.runEach ((steps.filter keep).map Step.act) start = (Act.kept keep steps each.1, each.2) ∧
      Act.runWhileOk ((steps.filter keep).map Step.act) start =
        (Act.kept keep steps whileOk.1, whileOk.2) := by
  have hidle (x : Step τ β υ α) (h : (!x.passes) = false) : ∃ answer, x.act.Idle answer :=
    Step.exists_idle_act (by simpa using h)
  refine ⟨fun x h => Stubbing.idle_act (by simp [Stubbing.passes, h]), fun x h => ?_, ?_⟩
  · exact Step.exists_idle_act h
  · exact ⟨Act.runEach_filter hidle steps start, Act.runWhileOk_filter hidle steps start⟩

/-- On a client that answers from its queue: an operation that it does not have, and a runner that
stops with a code, pass through before a stub that does not. -/
theorem passthrough_erased_mixed :
    let c : Client := ⟨Storage.serviceName, "r", Storage.operations, 0, 0⟩
    let passing := Storage.stubber c false
    let unknown : Stubbing := ⟨passing, .call "Unknown" none .null, some "E"⟩
    let entry : Planned :=
      ⟨"s3", "a", [passing], fun code => [⟨passing, .storage (.headBucket "b"), code⟩], by simp⟩
    let runner : Step Unit Unit Unit Unit := .runner .drop (some "E") (some "a") [entry]
    let live : Step Unit Unit Unit Unit :=
      .stub ⟨Storage.stubber c true, .storage (.headBucket "b"), none⟩
    let w : World Unit Unit := (World.fresh ()).withQueue 0 { active := true }
    unknown.act.effect w = (.ok (), w) ∧
      (∃ answer, ∀ s, runner.act.effect s = (.ok answer, s)) ∧
      Act.runEach ([live].map Step.act) ((), w) =
        ([.ok .done],
          (Act.runEach ([.stub unknown, runner, live].map Step.act) ((), w)).2) := by
  intro c passing unknown entry runner live w
  obtain ⟨hstubbing, hstep, herased, -⟩ :=
    passthrough_erased [.stub unknown, runner, live] ((), w)
  exact ⟨hstubbing unknown rfl w, hstep runner rfl, herased⟩

end ServiceDoubles.Passthrough
