import ServiceDoubles.Proofs.Client.Acceptance
import ServiceDoubles.Proofs.Client.Orders
import ServiceDoubles.Proofs.Sequence

/-!
# ServiceDoubles.Proofs.Sequence.FailurePoint

**Failure points.** The steps of a scenario are queued as a sequence, with a failure at the first
step of a given name, and a body then makes the calls of the steps in order. It gets the responses
of the steps before that one, meets the failure there, and leaves nothing behind.

The steps may be for several clients. `orders` lists what the sequence queues, whatever queue each
call is for, and `effect_run_entries` shows that it does. The body calls for the orders one by one
from the front of that list, which is the invariant `World.Holds`.
-/

namespace ServiceDoubles.Scenario

variable {β υ : Type}

/-! ### Steps -/

/-- A step: a named call that is expected of a stubber's client, and the response that it gets. -/
structure Step where
  name : String
  stubber : Stubber
  operation : String
  expected : Option Json
  response : Json

namespace Step

/-- The entry of a sequence that queues the step. -/
def entry (p : Step) : Entry (World β υ) :=
  ⟨p.name, p.stubber.stub p.operation p.expected p.response⟩

/-- The stubbed call of the step. It fails with the code if there is one. -/
def stubbed (p : Step) (code : Option String) : StubbedCall :=
  ⟨p.operation, p.expected, Stubber.reply p.response code⟩

/-- The stubbed call, for the queue of the step's client. -/
def order (p : Step) (code : Option String) : Order := (p.stubber.client.queue, p.stubbed code)

/-- The step can be queued: its stubber is stubbing, and the client has the operation. -/
def Known (p : Step) : Prop :=
  p.stubber.useStubs = true ∧ p.stubber.client.supports p.operation = true

/-- The step's client is active, and nothing is expected of it yet. -/
def Clear (p : Step) (w : World β υ) : Prop :=
  (p.stubber.client.stubs w).active = true ∧ (p.stubber.client.stubs w).calls = []

theorem effect_entry {p : Step} (h : p.Known) (code : Option String) (w : World β υ) :
    ((p.entry.invoke code).effect w) =
      (.ok (), w.push p.stubber.client.queue (p.stubbed code)) :=
  Stubber.effect_stub w h.1 h.2 ..

end Step

/-! ### Where a scenario fails -/

/-- The place of the first step of the name, or the number of steps if there is none. -/
def failurePoint (name : String) (steps : List Step) : Nat := steps.findIdx (·.name = name)

/-- What is queued: the steps up to the first of the name, which fails with the code. -/
def orders (name code : String) : List Step → List Order
  | [] => []
  | p :: rest =>
    if p.name = name then [p.order (some code)] else p.order none :: orders name code rest

/-- What a body gets: the responses before the failure point, and the failure there. -/
def answers (name code : String) (steps : List Step) : List (Outcome Json) :=
  (steps.take (failurePoint name steps)).map (.ok ·.response) ++
    if failurePoint name steps < steps.length then [.fault (.service code "")] else []

section

variable {name code : String} {p : Step} (rest : List Step)

theorem failurePoint_cons_of_eq (h : p.name = name) : failurePoint name (p :: rest) = 0 := by
  simp [failurePoint, List.findIdx_cons, h]

theorem failurePoint_cons_of_ne (h : p.name ≠ name) :
    failurePoint name (p :: rest) = failurePoint name rest + 1 := by
  simp [failurePoint, List.findIdx_cons, h]

theorem orders_cons_of_eq (h : p.name = name) :
    orders name code (p :: rest) = [p.order (some code)] :=
  if_pos h

theorem orders_cons_of_ne (h : p.name ≠ name) :
    orders name code (p :: rest) = p.order none :: orders name code rest :=
  if_neg h

theorem answers_cons_of_eq (h : p.name = name) :
    answers name code (p :: rest) = [.fault (.service code "")] := by
  simp [answers, failurePoint_cons_of_eq rest h]

theorem answers_cons_of_ne (h : p.name ≠ name) :
    answers name code (p :: rest) = .ok p.response :: answers name code rest := by
  simp [answers, failurePoint_cons_of_ne rest h]

end

/-- The options of a sequence that fails with the code at the entries of the name. -/
def failing (name code : String) : RunOptions := { failing := some name, code }

/-- The sequence queues the orders, and counts the steps up to the failure point. -/
theorem effect_run_entries {name code : String} (hcode : code ≠ "") {steps : List Step}
    (hknown : ∀ p ∈ steps, p.Known) (w : World β υ) :
    (Sequence.run (failing name code) (steps.map Step.entry)).effect w =
      (.ok (min (failurePoint name steps + 1) steps.length),
        w.pushAll (orders name code steps)) := by
  induction steps generalizing w with
  | nil => rfl
  | cons p rest ih =>
      rw [List.map_cons, Sequence.effect_run_cons,
        Step.effect_entry (hknown p List.mem_cons_self), Act.goOn_ok]
      by_cases hname : p.name = name
      · have hgiven : (failing name code).codeFor (p.entry (β := β) (υ := υ)).name = some code :=
          RunOptions.codeFor_of_failing _ (congrArg some hname.symm)
        rw [hgiven, RunOptions.endsAfter_some _ rfl hcode, countOn_of_ends,
          failurePoint_cons_of_eq rest hname, orders_cons_of_eq rest hname, List.length_cons,
          Nat.min_eq_left (by omega)]
        rfl
      · have hgiven : (failing name code).codeFor (p.entry (β := β) (υ := υ)).name = none :=
          RunOptions.codeFor_of_not_failing _ fun h => hname (Option.some.inj h).symm
        have hlater := ih (fun p' h => hknown p' (List.mem_cons_of_mem _ h))
          (w.push p.stubber.client.queue (p.stubbed none))
        rw [hgiven, RunOptions.endsAfter_none _ rfl, countOn_of_goes_on hlater,
          failurePoint_cons_of_ne rest hname, orders_cons_of_ne rest hname, List.length_cons,
          Nat.add_min_add_right]
        rfl

/-! ### Bodies -/

/-- A call that a body makes, and the client that it makes it with. -/
structure Made where
  client : Client
  call : Call

/-- Makes the call. -/
def Made.act [Service β] (b : Made) : Act (World β υ) Json :=
  b.client.call b.call.operation b.call.params

/-- The body does what the step expects. -/
def Step.Follows (p : Step) (b : Made) : Prop :=
  b.client = p.stubber.client ∧ (p.stubbed none).Matches b.call

/-- A body that follows the steps calls for the orders one by one. It gets the answers, and the
queues are left with what they held before the orders. -/
theorem runWhileOk_of_holds [Service β] {name code : String} {base : World β υ}
    {steps : List Step} {body : List Made} (hknown : ∀ p ∈ steps, p.Known)
    (hclear : ∀ p ∈ steps, p.Clear base) (hbody : List.Forall₂ Step.Follows steps body)
    {w : World β υ} (h : w.Holds base (orders name code steps)) :
    (Act.runWhileOk (body.map Made.act) w).1 = answers name code steps ∧
      (Act.runWhileOk (body.map Made.act) w).2.Holds base [] := by
  induction hbody generalizing w with
  | nil => exact ⟨rfl, h⟩
  | @cons p b rest body hfollows _ ih =>
      obtain ⟨hclient, hmatch⟩ := hfollows
      obtain ⟨hactive, hempty⟩ := hclear p List.mem_cons_self
      have hsupp : p.stubber.client.supports b.call.operation = true :=
        hmatch.1 ▸ (hknown p List.mem_cons_self).2
      by_cases hname : p.name = name
      · -- The failure ends the body, and no order is behind it.
        rw [orders_cons_of_eq rest hname] at h
        obtain ⟨w', heff, hrest⟩ := Client.effect_call_of_holds hsupp hactive hempty h hmatch
        rw [← hclient] at heff
        have hfault : b.act.effect w = (.fault (.service code ""), w') := heff
        rw [List.map_cons, Act.runWhileOk_cons_fault hfault, answers_cons_of_eq rest hname]
        exact ⟨rfl, hrest⟩
      · rw [orders_cons_of_ne rest hname] at h
        obtain ⟨w', heff, hrest⟩ := Client.effect_call_of_holds hsupp hactive hempty h hmatch
        rw [← hclient] at heff
        have hok : b.act.effect w = (.ok p.response, w') := heff
        obtain ⟨hanswers, hleft⟩ := ih (fun p' hp' => hknown p' (List.mem_cons_of_mem _ hp'))
          (fun p' hp' => hclear p' (List.mem_cons_of_mem _ hp')) hrest
        rw [List.map_cons, Act.runWhileOk_cons_ok hok, answers_cons_of_ne rest hname, hanswers]
        exact ⟨rfl, hleft⟩

/-- Steps are queued as a sequence or by a runner, with a failure at the first step of a name. Up to
there each step counts, and a body that follows the steps gets their responses, and then the
failure. Nothing is left on any queue that was empty. -/
theorem body_fails_at_failurePoint [Service β] {name code : String} (hcode : code ≠ "")
    {steps : List Step} {w : World β υ} (hknown : ∀ p ∈ steps, p.Known)
    (hclear : ∀ p ∈ steps, p.Clear w) {body : List Made}
    (hbody : List.Forall₂ Step.Follows steps body) :
    let i := failurePoint name steps
    let options : RunOptions :=
      { failing := some name, code, stopOnError := true, stopAlways := false }
    let queued := (Sequence.run options (steps.map Step.entry)).effect w
    let made := Act.runWhileOk (body.map Made.act) queued.2
    queued.1 = .ok (min (i + 1) steps.length) ∧
    (∀ r : Runner (World β υ), r.code = some code → r.stopMethod = some name →
      r.entries.map (·.entry) = steps.map Step.entry → r.run.effect w = queued) ∧
    made.1 = (steps.take i).map (.ok ·.response) ++
      (if i < steps.length then [.fault (.service code "")] else []) ∧
    ∀ c : Client, (c.stubs w).calls = [] → (c.stubs made.2).checkDone = .ok () := by
  intro i options queued made
  have hqueued : queued = _ := effect_run_entries hcode hknown w
  have hholds : queued.2.Holds w (orders name code steps) := by
    rw [hqueued]
    exact World.holds_pushAll w _
  obtain ⟨hanswers, hleft⟩ := runWhileOk_of_holds hknown hclear hbody hholds
  refine ⟨by rw [hqueued], fun r hrcode hrstop hentries => ?_, hanswers, fun c hempty => ?_⟩
  · rw [Runner.effect_run, hrcode, hrstop, Runner.effect_runEntries_eq_run hcode, hentries]
  · rw [Queue.checkDone_eq_ok_iff, Client.stubs, hleft.calls_eq, World.ordersFor_nil,
      List.append_nil]
    exact hempty

/-- Two clients, and a name that two of the three steps have. -/
theorem body_fails_at_second :
    let files : Stubber := ⟨⟨"Files"⟩, ⟨"s3", "r", ["Get", "Put"], 0, 0⟩, true⟩
    let mails : Stubber := ⟨⟨"Mails"⟩, ⟨"ses", "r", ["Send"], 0, 1⟩, true⟩
    let steps : List Step :=
      [⟨"get", files, "Get", none, .bool true⟩, ⟨"out", mails, "Send", some Pattern.any, .null⟩,
       ⟨"out", files, "Put", some .null, .null⟩]
    let body : List Made :=
      [⟨files.client, "Get", .null⟩, ⟨mails.client, "Send", .bool true⟩,
       ⟨files.client, "Put", .null⟩]
    let w : World Storage.Store Unit :=
      ((World.fresh ()).withQueue 0 { active := true }).withQueue 1 { active := true }
    let options : RunOptions :=
      { failing := some "out", code := "E", stopOnError := true, stopAlways := false }
    let queued := (Sequence.run options (steps.map Step.entry)).effect w
    (∀ p ∈ steps, p.Known) ∧ (∀ p ∈ steps, p.Clear w) ∧
      List.Forall₂ Step.Follows steps body ∧ queued.1 = .ok 2 ∧
      (Act.runWhileOk (body.map Made.act) queued.2).1 =
        [.ok (.bool true), .fault (.service "E" "")] := by
  intro files mails steps body w options queued
  have hknown : ∀ p ∈ steps, p.Known := by
    simp [steps, Step.Known, files, mails, Client.supports]
  have hclear : ∀ p ∈ steps, p.Clear w := by
    simp [steps, Step.Clear, files, mails, Client.stubs, w, World.read_withQueue_of_ne]
  have hbody : List.Forall₂ Step.Follows steps body :=
    .cons ⟨rfl, rfl, rfl⟩ (.cons ⟨rfl, rfl, rfl⟩ (.cons ⟨rfl, rfl, rfl⟩ .nil))
  have hcode : "E" ≠ "" := by decide
  obtain ⟨hcount, -, hmade, -⟩ := body_fails_at_failurePoint hcode hknown hclear hbody
  exact ⟨hknown, hclear, hbody, hcount, hmade⟩

end ServiceDoubles.Scenario
