import ServiceDoubles.Proofs.Client.Acceptance

/-!
# ServiceDoubles.Proofs.Client.Routing

Where the calls of **many clients** go, and that clients which share a service do not disturb each
other.

`Step` is what can be done with clients, and the equations `Step.effect_act_unsupported` to
`Step.effect_act_queue` are all that a step can do: it changes one queue, or one service, or
nothing. From them come the two projections of a run. What a service sees of it are the calls that
reached it. What the clients of a queue see of it does not change when the steps of other clients
are erased that touch no service; `Alike` relates a run to the run that is left.
-/

namespace ServiceDoubles.Routing

variable {β υ : Type} [Service β]

/-! ### Runs over many clients -/

/-- What can be done with a client: to call it, and to use its queue. -/
inductive Step where
  | call (c : Client) (call : Call)
  | queue (c : Client) (step : Queue.Step)

namespace Step

def client : Step → Client
  | call c _ => c
  | queue c _ => c

/-- What the step does. -/
def act : Step → Act (World β υ) (Option Json)
  | call c a => return some (← c.call a.operation a.params)
  | queue c step => c.onQueue step.act

/-- The call of the step, if it is one, as a call of the service itself. -/
def toService : Step → Option (Act β Json)
  | call _ a => some (Service.call a.operation a.params)
  | queue .. => none

variable {c : Client} {a : Call} {w : World β υ}

theorem effect_act_unsupported (h : c.supports a.operation = false) :
    (call c a).act.effect w = (.fault (.unknownOperation c.service a.operation), w) := by
  rw [act, Act.effect_map, Client.effect_call_unsupported _ _ _ _ h]
  rfl

theorem effect_act_stubbed (h : c.supports a.operation = true)
    (hactive : (c.stubs w).active = true) :
    (call c a).act.effect w =
      (((Queue.next a.operation a.params).effect (c.stubs w)).1.map some,
        w.withQueue c.queue ((Queue.next a.operation a.params).effect (c.stubs w)).2) := by
  rw [act, Act.effect_map, Client.effect_call_active _ _ _ _ h hactive]

theorem effect_act_through (h : c.supports a.operation = true)
    (hactive : (c.stubs w).active = false) :
    (call c a).act.effect w =
      (((Service.call a.operation a.params).effect (w.services.read c.backend)).1.map some,
        w.withService c.backend
          ((Service.call a.operation a.params).effect (w.services.read c.backend)).2) := by
  rw [act, Act.effect_map, Client.effect_call_inactive _ _ _ _ h hactive]

theorem effect_act_queue (step : Queue.Step) :
    (queue c step).act.effect w =
      ((step.act.effect (c.stubs w)).1, w.withQueue c.queue (step.act.effect (c.stubs w)).2) :=
  Client.effect_onQueue ..

end Step

/-- A step in a run: its answer, and the worlds before and after it. -/
structure Moment (β υ : Type) where
  step : Step
  before : World β υ
  answer : Outcome (Option Json)
  after : World β υ

/-- The moment at which a step is taken in a world. -/
def moment (step : Step) (w : World β υ) : Moment β υ :=
  ⟨step, w, (step.act.effect w).1, (step.act.effect w).2⟩

/-- The moments of a run. -/
def history : List Step → World β υ → List (Moment β υ)
  | [], _ => []
  | step :: rest, w => moment step w :: history rest (step.act.effect w).2

/-- The world at the end of a run. -/
def final (steps : List Step) (w : World β υ) : World β υ :=
  (Act.runEach (steps.map Step.act) w).2

@[simp] theorem history_nil (w : World β υ) : history [] w = [] := rfl

@[simp] theorem history_cons (step : Step) (rest : List Step) (w : World β υ) :
    history (step :: rest) w = moment step w :: history rest (step.act.effect w).2 := rfl

@[simp] theorem final_nil (w : World β υ) : final [] w = w := rfl

@[simp] theorem final_cons (step : Step) (rest : List Step) (w : World β υ) :
    final (step :: rest) w = final rest (step.act.effect w).2 := rfl

theorem eq_moment_of_mem_history {steps : List Step} {w : World β υ} {m : Moment β υ}
    (h : m ∈ history steps w) : m = moment m.step m.before := by
  induction steps generalizing w with
  | nil => exact absurd h List.not_mem_nil
  | cons step rest ih =>
      rcases List.mem_cons.mp h with rfl | hrest
      · rfl
      · exact ih hrest

/-! ### What a service sees -/

omit [Service β] in
/-- The service in cell `b` is called at this moment. -/
def Moment.reaches (b : Nat) (m : Moment β υ) : Bool :=
  match m.step with
  | .call c a => c.backend == b && c.reaches a.operation m.before
  | .queue .. => false

/-- A call that reaches a service is answered by it, and takes it one step further. -/
theorem Step.service_of_reaches {b : Nat} {step : Step} {w : World β υ}
    (h : (moment step w).reaches b = true) :
    ∃ call, step.toService = some call ∧
      (step.act.effect w).1 = (call.effect (w.services.read b)).1.map some ∧
      (step.act.effect w).2.services.read b = (call.effect (w.services.read b)).2 := by
  cases step with
  | queue c s => exact absurd h Bool.false_ne_true
  | call c a =>
      simp only [Moment.reaches, moment, Client.reaches, Bool.and_eq_true, beq_iff_eq,
        Bool.not_eq_true'] at h
      obtain ⟨rfl, hsupp, hactive⟩ := h
      refine ⟨_, rfl, ?_, ?_⟩
      · rw [effect_act_through hsupp hactive]
      · rw [effect_act_through hsupp hactive, World.read_withService_self]

/-- Any other step leaves the service as it was. -/
theorem Step.service_of_not_reaches {b : Nat} {step : Step} {w : World β υ}
    (h : (moment step w).reaches b = false) :
    (step.act.effect w).2.services.read b = w.services.read b := by
  cases step with
  | queue c s => rw [effect_act_queue, World.services_withQueue]
  | call c a =>
      cases hreaches : c.reaches a.operation w with
      | false => rw [act, Act.effect_map, Client.services_effect_call c _ _ w hreaches]
      | true =>
          have hb : b ≠ c.backend := by
            rintro rfl
            simp [Moment.reaches, moment, hreaches] at h
          simp only [Client.reaches, Bool.and_eq_true, Bool.not_eq_true'] at hreaches
          rw [effect_act_through hreaches.1 hreaches.2, World.read_withService_of_ne _ _ hb]

/-- Made to it alone and in order, the calls that reach a service get the same answers and leave it
in the same state. -/
theorem alone_eq (b : Nat) (steps : List Step) (w : World β υ) :
    let through := (history steps w).filter (·.reaches b)
    let alone := Act.runEach (through.filterMap (·.step.toService)) (w.services.read b)
    alone.1.map (Outcome.map some) = through.map (·.answer) ∧
      alone.2 = (final steps w).services.read b := by
  induction steps generalizing w with
  | nil => exact ⟨rfl, rfl⟩
  | cons step rest ih =>
      obtain ⟨hanswers, hstate⟩ := ih (step.act.effect w).2
      cases h : (moment step w).reaches b with
      | true =>
          obtain ⟨call, hcall, hanswer, hservice⟩ := Step.service_of_reaches h
          have hcalls (later : List (Moment β υ)) :
              (moment step w :: later).filterMap (·.step.toService) =
                call :: later.filterMap (·.step.toService) := List.filterMap_cons_some hcall
          rw [hservice] at hanswers hstate
          dsimp only
          rw [history_cons, List.filter_cons_of_pos h, hcalls, Act.runEach_cons, List.map_cons,
            List.map_cons, hanswers]
          exact ⟨congrArg (· :: _) hanswer.symm, hstate⟩
      | false =>
          rw [Step.service_of_not_reaches h] at hanswers hstate
          rw [history_cons, List.filter_cons_of_neg (Bool.eq_false_iff.mp h)]
          exact ⟨hanswers, hstate⟩

/-! ### What the clients of a queue see -/

/-- The step is one of a client of the queue in cell `k`. -/
def Step.isOf (k : Nat) (step : Step) : Bool := step.client.queue == k

omit [Service β] in
/-- The step is of another client than those of the queue in cell `k`, and either uses that client's
queue or is a call that was answered from there. With `switches`, this includes to start and to stop
answering. -/
def Moment.isForeign (switches : Bool) (k : Nat) (m : Moment β υ) : Bool :=
  !m.step.isOf k &&
    match m.step with
    | .call c a => c.isStubbed a.operation m.before
    | .queue _ (.setActive _) => switches
    | .queue .. => true

/-- The run without what other clients do on their queues. -/
def erase (switches : Bool) (k : Nat) (steps : List Step) (w : World β υ) : List Step :=
  ((history steps w).filter fun m => !m.isForeign switches k).map (·.step)

/-- What the clients of the queue in cell `k` see of a run: the answers to their steps, and the
queue after each. -/
def view (k : Nat) (steps : List Step) (w : World β υ) : List (Outcome (Option Json) × Queue) :=
  ((history steps w).filter (·.step.isOf k)).map fun m => (m.answer, m.after.queues.read k)

section

variable {switches : Bool} {k : Nat} {w : World β υ} {step : Step} (rest : List Step)

theorem erase_cons_of_isForeign (h : (moment step w).isForeign switches k = true) :
    erase switches k (step :: rest) w = erase switches k rest (step.act.effect w).2 := by
  simp [erase, h]

theorem erase_cons_of_not_isForeign (h : (moment step w).isForeign switches k = false) :
    erase switches k (step :: rest) w = step :: erase switches k rest (step.act.effect w).2 := by
  rw [erase, history_cons, List.filter_cons_of_pos (by rw [h]; rfl), List.map_cons]
  rfl

theorem view_cons_of_isOf (h : step.isOf k = true) :
    view k (step :: rest) w =
      ((step.act.effect w).1, (step.act.effect w).2.queues.read k) ::
        view k rest (step.act.effect w).2 := by
  simp [view, moment, h]

theorem view_cons_of_not_isOf (h : step.isOf k = false) :
    view k (step :: rest) w = view k rest (step.act.effect w).2 := by
  simp [view, moment, h]

end

omit [Service β] in
/-- The world `v` is as good as `w` for the clients of the queue in cell `k` and for the services.
If switches are erased, the other queues are not active in `v`. -/
structure Alike (switches : Bool) (k : Nat) (w v : World β υ) : Prop where
  services_eq : v.services = w.services
  queue_eq : v.queues.read k = w.queues.read k
  active_eq : ∀ j, j ≠ k → (v.queues.read j).active = (!switches && (w.queues.read j).active)

section

omit [Service β]

variable {switches : Bool} {k : Nat} {w v : World β υ}

theorem alike_refl (h : switches = true → ∀ j, j ≠ k → (w.queues.read j).active = false) :
    Alike switches k w w := by
  refine ⟨rfl, rfl, fun j hj => ?_⟩
  cases switches with
  | false => rfl
  | true => exact h rfl j hj

namespace Alike

theorem withService (h : Alike switches k w v) (i : Nat) (b : β) :
    Alike switches k (w.withService i b) (v.withService i b) where
  services_eq := congrArg (·.write i b) h.services_eq
  queue_eq := h.queue_eq
  active_eq := h.active_eq

theorem withQueue_own (h : Alike switches k w v) (q : Queue) :
    Alike switches k (w.withQueue k q) (v.withQueue k q) where
  services_eq := h.services_eq
  queue_eq := by rw [World.read_withQueue_self, World.read_withQueue_self]
  active_eq j hj := by
    rw [World.read_withQueue_of_ne _ _ hj, World.read_withQueue_of_ne _ _ hj]
    exact h.active_eq j hj

/-- Other queues may change in both worlds, as long as their activity does so together. -/
theorem withQueue_other (h : Alike switches k w v) {i : Nat} (hi : i ≠ k) {q q' : Queue}
    (hactive : q'.active = (!switches && q.active)) :
    Alike switches k (w.withQueue i q) (v.withQueue i q') where
  services_eq := h.services_eq
  queue_eq := by
    rw [World.read_withQueue_of_ne _ _ hi.symm, World.read_withQueue_of_ne _ _ hi.symm]
    exact h.queue_eq
  active_eq j hj := by
    by_cases hji : j = i
    · subst hji
      rw [World.read_withQueue_self, World.read_withQueue_self]
      exact hactive
    · rw [World.read_withQueue_of_ne _ _ hji, World.read_withQueue_of_ne _ _ hji]
      exact h.active_eq j hj

/-- Another queue may change in the first world alone, as long as its activity stays or does not
matter. -/
theorem withQueue_left (h : Alike switches k w v) {i : Nat} (hi : i ≠ k) {q : Queue}
    (hactive : switches = false → q.active = (w.queues.read i).active) :
    Alike switches k (w.withQueue i q) v := by
  have hv : (v.queues.read i).active = (!switches && q.active) := by
    rw [h.active_eq i hi]
    cases switches with
    | false => rw [hactive rfl]
    | true => rfl
  have hboth := h.withQueue_other hi hv
  rwa [World.withQueue_read_self] at hboth

end Alike

end

/-- A foreign step can be left out. -/
theorem Alike.of_isForeign {switches : Bool} {k : Nat} {w v : World β υ} {step : Step}
    (h : Alike switches k w v) (hforeign : (moment step w).isForeign switches k = true) :
    Alike switches k (step.act.effect w).2 v := by
  simp only [Moment.isForeign, Step.isOf, moment, Bool.and_eq_true, Bool.not_eq_true',
    beq_eq_false_iff_ne] at hforeign
  obtain ⟨hother, hkind⟩ := hforeign
  cases step with
  | call c a =>
      obtain ⟨hsupp, hactive⟩ := Bool.and_eq_true_iff.mp hkind
      rw [Step.effect_act_stubbed hsupp hactive]
      exact h.withQueue_left hother fun _ => (Queue.answers_next ..).active_eq
  | queue c s =>
      rw [Step.effect_act_queue]
      refine h.withQueue_left hother fun hkept => ?_
      rw [Queue.Step.active_effect_act]
      cases s with
      | add _ => rfl
      | next _ _ => rfl
      | setActive active => exact absurd (hkept ▸ hkind) Bool.false_ne_true

/-- A step of the queue's own clients does the same in both worlds. -/
theorem Alike.of_isOf {switches : Bool} {k : Nat} {w v : World β υ} {step : Step}
    (h : Alike switches k w v) (hown : step.isOf k = true) :
    (step.act.effect v).1 = (step.act.effect w).1 ∧
      Alike switches k (step.act.effect w).2 (step.act.effect v).2 := by
  obtain rfl : step.client.queue = k := beq_iff_eq.mp hown
  cases step with
  | queue c s =>
      have hstubs : c.stubs v = c.stubs w := h.queue_eq
      rw [Step.effect_act_queue, Step.effect_act_queue, hstubs]
      exact ⟨rfl, h.withQueue_own _⟩
  | call c a =>
      have hstubs : c.stubs v = c.stubs w := h.queue_eq
      cases hsupp : c.supports a.operation with
      | false =>
          rw [Step.effect_act_unsupported hsupp, Step.effect_act_unsupported hsupp]
          exact ⟨rfl, h⟩
      | true =>
          cases hactive : (c.stubs w).active with
          | true =>
              rw [Step.effect_act_stubbed hsupp hactive,
                Step.effect_act_stubbed hsupp (hstubs ▸ hactive), hstubs]
              exact ⟨rfl, h.withQueue_own _⟩
          | false =>
              rw [Step.effect_act_through hsupp hactive,
                Step.effect_act_through hsupp (hstubs ▸ hactive), h.services_eq]
              exact ⟨rfl, h.withService _ _⟩

/-- What other clients do and is not erased keeps the worlds alike. -/
theorem Alike.of_not_isForeign {switches : Bool} {k : Nat} {w v : World β υ} {step : Step}
    (h : Alike switches k w v) (hother : step.isOf k = false)
    (hkept : (moment step w).isForeign switches k = false) :
    Alike switches k (step.act.effect w).2 (step.act.effect v).2 := by
  have hne : step.client.queue ≠ k := beq_eq_false_iff_ne.mp hother
  simp only [Moment.isForeign, moment, hother, Bool.not_false, Bool.true_and] at hkept
  cases step with
  | queue c s =>
      cases s with
      | add _ => exact absurd hkept.symm Bool.false_ne_true
      | next _ _ => exact absurd hkept.symm Bool.false_ne_true
      | setActive active =>
          obtain rfl : switches = false := hkept
          rw [Step.effect_act_queue, Step.effect_act_queue]
          refine h.withQueue_other hne ?_
          rw [Queue.Step.active_effect_act, Queue.Step.active_effect_act]
          rfl
  | call c a =>
      cases hsupp : c.supports a.operation with
      | false =>
          rw [Step.effect_act_unsupported hsupp, Step.effect_act_unsupported hsupp]
          exact h
      | true =>
          -- The call was not answered from the queue, so it is not in the other world either.
          have hinactive : (c.stubs w).active = false := by
            simpa [Client.isStubbed, hsupp] using hkept
          have hinactive' : (c.stubs v).active = false := by
            have hactive := h.active_eq c.queue hne
            rwa [← Client.stubs, ← Client.stubs, hinactive, Bool.and_false] at hactive
          rw [Step.effect_act_through hsupp hinactive, Step.effect_act_through hsupp hinactive',
            h.services_eq]
          exact h.withService _ _

/-- The clients of a queue see the same of a run and of what is left of it. -/
theorem Alike.view_erase {switches : Bool} {k : Nat} {w v : World β υ} (h : Alike switches k w v)
    (steps : List Step) :
    view k (erase switches k steps w) v = view k steps w ∧
      Alike switches k (final steps w) (final (erase switches k steps w) v) := by
  induction steps generalizing w v with
  | nil => exact ⟨rfl, h⟩
  | cons step rest ih =>
      cases hforeign : (moment step w).isForeign switches k with
      | true =>
          have hother : step.isOf k = false := by
            refine Bool.eq_false_iff.mpr fun hown => ?_
            simp [Moment.isForeign, moment, hown] at hforeign
          rw [erase_cons_of_isForeign rest hforeign, view_cons_of_not_isOf rest hother]
          exact ih (h.of_isForeign hforeign)
      | false =>
          rw [erase_cons_of_not_isForeign rest hforeign, final_cons, final_cons]
          cases hown : step.isOf k with
          | false =>
              rw [view_cons_of_not_isOf _ hown, view_cons_of_not_isOf _ hown]
              exact ih (h.of_not_isForeign hown hforeign)
          | true =>
              obtain ⟨hanswer, halike⟩ := h.of_isOf hown
              obtain ⟨hview, hfinal⟩ := ih halike
              rw [view_cons_of_isOf _ hown, view_cons_of_isOf _ hown, hanswer, halike.queue_eq,
                hview]
              exact ⟨rfl, hfinal⟩

/-- A call goes to one place. If the service does not have the operation, nothing changes; while the
client's queue is active, that queue answers and is all that changes; otherwise the service behind
the client answers, and is all that changes. So each service sees of a run just the calls that
reached it, and no client sees what the others do on their queues. -/
theorem clients_isolated (steps : List Step) (w : World β υ) :
    (∀ m ∈ history steps w, ∀ c a, m.step = .call c a →
      (c.supports a.operation = false →
        m.answer = .fault (.unknownOperation c.service a.operation) ∧ m.after = m.before) ∧
      (c.supports a.operation = true → (c.stubs m.before).active = true →
        let r := (Queue.next a.operation a.params).effect (c.stubs m.before)
        m.answer = r.1.map some ∧ m.after = m.before.withQueue c.queue r.2) ∧
      (c.supports a.operation = true → (c.stubs m.before).active = false →
        let r := (Service.call a.operation a.params).effect (m.before.services.read c.backend)
        m.answer = r.1.map some ∧ m.after = m.before.withService c.backend r.2)) ∧
    (∀ b,
      let through := (history steps w).filter (·.reaches b)
      let alone := Act.runEach (through.filterMap (·.step.toService)) (w.services.read b)
      alone.1.map (Outcome.map some) = through.map (·.answer) ∧
      alone.2 = (final steps w).services.read b) ∧
    ∀ (c : Client) (switches : Bool),
      (switches = true → ∀ j, j ≠ c.queue → (w.queues.read j).active = false) →
      let kept := erase switches c.queue steps w
      view c.queue kept w = view c.queue steps w ∧
      c.stubs (final kept w) = c.stubs (final steps w) := by
  refine ⟨?_, fun b => alone_eq b steps w, fun c switches hquiet => ?_⟩
  · intro m hm c a hstep
    have heffect : (m.answer, m.after) = (Step.call c a).act.effect m.before := by
      rw [eq_moment_of_mem_history hm, hstep]
      rfl
    refine ⟨fun hsupp => ?_, fun hsupp hactive => ?_, fun hsupp hactive => ?_⟩
    · rw [Step.effect_act_unsupported hsupp] at heffect
      exact Prod.mk.inj heffect
    · rw [Step.effect_act_stubbed hsupp hactive] at heffect
      exact Prod.mk.inj heffect
    · rw [Step.effect_act_through hsupp hactive] at heffect
      exact Prod.mk.inj heffect
  · obtain ⟨hview, hfinal⟩ := (alike_refl hquiet).view_erase steps
    exact ⟨hview, hfinal.queue_eq⟩

/-- Two clients share a service. One of them is stubbed, asks for what it has a stub for and then
for what the service does not have; the other does not see the former. -/
theorem clients_isolated_two :
    let stubbed : Client := ⟨"s3", "r", ["HeadBucket"], 0, 1⟩
    let plain : Client := ⟨"s3", "r", ["HeadBucket"], 0, 0⟩
    let w : World Storage.Store Unit := World.fresh ()
    let expected : StubbedCall := ⟨"HeadBucket", none, .response .null⟩
    let setUp : List Step := [.queue stubbed (.add expected), .queue stubbed (.setActive true)]
    let answered : Step := .call stubbed ⟨"HeadBucket", .null⟩
    let unknown : Step := .call stubbed ⟨"PutObject", .null⟩
    let through : Step := .call plain ⟨"HeadBucket", .null⟩
    let steps := setUp ++ [answered, unknown, through]
    erase true plain.queue steps w = [unknown, through] ∧
      view plain.queue [unknown, through] w = view plain.queue steps w ∧
      (answered.act.effect (final setUp w)).1 = .ok (some .null) ∧
      (unknown.act.effect (final (setUp ++ [answered]) w)).1 =
        .fault (.unknownOperation "s3" "PutObject") ∧
      (through.act.effect (final (setUp ++ [answered, unknown]) w)).1 =
        ((Service.call "HeadBucket" .null).effect
          ((final (setUp ++ [answered, unknown]) w).services.read 0)).1.map some := by
  intro stubbed plain w expected setUp answered unknown through steps
  obtain ⟨hcalls, -, hview⟩ := clients_isolated steps w
  have hanswered := (hcalls (moment answered (final setUp w)) (by simp [steps, setUp]) _ _ rfl).2.1
  have hunknown := (hcalls (moment unknown (final (setUp ++ [answered]) w))
    (by simp [steps, setUp]) _ _ rfl).1
  have hthrough := (hcalls (moment through (final (setUp ++ [answered, unknown]) w))
    (by simp [steps, setUp]) _ _ rfl).2.2
  refine ⟨rfl, (hview plain true fun _ _ _ => rfl).1, (hanswered rfl rfl).1, (hunknown rfl).1,
    (hthrough rfl rfl).1⟩

end ServiceDoubles.Routing
