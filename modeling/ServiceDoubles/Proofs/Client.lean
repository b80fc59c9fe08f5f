import ServiceDoubles.Stubber
import ServiceDoubles.Proofs.Queue

/-!
# ServiceDoubles.Proofs.Client

The effects of **clients and stubbers** on the world that they share.

A client touches two cells, its queue and its service, and each effect below says which of the two
it changes and what it puts there. `Client.effect_call_active` and its siblings are the only places
where `Client.call` is opened, and `Stubber.effect_stub` is the only one for `Stubber.stub`.
-/

namespace ServiceDoubles

variable {β υ α : Type}

/-! ### Cells of the world -/

namespace World

/-- The world with the queue `q` in cell `i`. -/
def withQueue (w : World β υ) (i : Nat) (q : Queue) : World β υ :=
  { w with queues := w.queues.write i q }

/-- The world with the service `b` in cell `i`. -/
def withService (w : World β υ) (i : Nat) (b : β) : World β υ :=
  { w with services := w.services.write i b }

@[simp] theorem services_withQueue (w : World β υ) (i : Nat) (q : Queue) :
    (w.withQueue i q).services = w.services := rfl

@[simp] theorem queues_withService (w : World β υ) (i : Nat) (b : β) :
    (w.withService i b).queues = w.queues := rfl

@[simp] theorem read_withQueue_self (w : World β υ) (i : Nat) (q : Queue) :
    (w.withQueue i q).queues.read i = q :=
  Cells.read_write_self ..

theorem read_withQueue_of_ne (w : World β υ) {i j : Nat} (q : Queue) (h : j ≠ i) :
    (w.withQueue i q).queues.read j = w.queues.read j :=
  Cells.read_write_of_ne _ _ h

@[simp] theorem read_withService_self (w : World β υ) (i : Nat) (b : β) :
    (w.withService i b).services.read i = b :=
  Cells.read_write_self ..

theorem read_withService_of_ne (w : World β υ) {i j : Nat} (b : β) (h : j ≠ i) :
    (w.withService i b).services.read j = w.services.read j :=
  Cells.read_write_of_ne _ _ h

@[simp] theorem withQueue_read_self (w : World β υ) (i : Nat) :
    w.withQueue i (w.queues.read i) = w := by
  simp only [withQueue, Cells.write_read_self]

@[simp] theorem withService_read_self (w : World β υ) (i : Nat) :
    w.withService i (w.services.read i) = w := by
  simp only [withService, Cells.write_read_self]

@[simp] theorem withService_withService (w : World β υ) (i : Nat) (b b' : β) :
    (w.withService i b).withService i b' = w.withService i b' := by
  simp only [withService, Cells.write_write]

@[simp] theorem withQueue_withQueue (w : World β υ) (i : Nat) (q q' : Queue) :
    (w.withQueue i q).withQueue i q' = w.withQueue i q' := by
  simp only [withQueue, Cells.write_write]

/-- A queue that is put in the place of one with the same activity changes no queue's activity. -/
theorem active_withQueue (w : World β υ) {i : Nat} {q : Queue}
    (h : q.active = (w.queues.read i).active) (k : Nat) :
    ((w.withQueue i q).queues.read k).active = (w.queues.read k).active := by
  by_cases hk : k = i
  · subst hk
    rw [read_withQueue_self, h]
  · rw [read_withQueue_of_ne _ _ hk]

theorem effect_onQueue (i : Nat) (a : Act Queue α) (w : World β υ) :
    (onQueue i a).effect w =
      ((a.effect (w.queues.read i)).1, w.withQueue i (a.effect (w.queues.read i)).2) :=
  Act.effect_onPart ..

theorem effect_onService (i : Nat) (a : Act β α) (w : World β υ) :
    (onService i a : Act (World β υ) α).effect w =
      ((a.effect (w.services.read i)).1, w.withService i (a.effect (w.services.read i)).2) :=
  Act.effect_onPart ..

/-- The world with one more call at the end of the queue in cell `i`. -/
def push (w : World β υ) (i : Nat) (c : StubbedCall) : World β υ :=
  w.withQueue i ((w.queues.read i).push c)

theorem active_push (w : World β υ) (i : Nat) (c : StubbedCall) (k : Nat) :
    ((w.push i c).queues.read k).active = (w.queues.read k).active :=
  w.active_withQueue (q := (w.queues.read i).push c) rfl k

end World

/-! ### Clients -/

namespace Client

/-- The client's queue. -/
def stubs (c : Client) (w : World β υ) : Queue := w.queues.read c.queue

@[simp] theorem stubs_withQueue_self (c : Client) (w : World β υ) (q : Queue) :
    c.stubs (w.withQueue c.queue q) = q :=
  w.read_withQueue_self ..

@[simp] theorem withQueue_stubs (c : Client) (w : World β υ) :
    w.withQueue c.queue (c.stubs w) = w :=
  w.withQueue_read_self ..

theorem effect_onQueue (c : Client) (a : Act Queue α) (w : World β υ) :
    (c.onQueue a).effect w =
      ((a.effect (c.stubs w)).1, w.withQueue c.queue (a.effect (c.stubs w)).2) :=
  World.effect_onQueue ..

theorem check_of_supports {c : Client} {operation : String} (h : c.supports operation = true) :
    c.check operation = .ok () := by
  simp only [check, h, if_true]

theorem check_of_not_supports {c : Client} {operation : String}
    (h : c.supports operation = false) :
    c.check operation = .error (.unknownOperation c.service operation) := by
  simp only [check, h, Bool.false_eq_true, if_false]

/-- Whether a call of this operation is answered from the queue. -/
def isStubbed (c : Client) (operation : String) (w : World β υ) : Bool :=
  c.supports operation && (c.stubs w).active

/-- Whether a call of this operation goes to the service. -/
def reaches (c : Client) (operation : String) (w : World β υ) : Bool :=
  c.supports operation && !(c.stubs w).active

variable [Service β] (c : Client) (operation : String) (params : Json) (w : World β υ)

/-- An operation that the service does not have reaches neither the queue nor the service. -/
theorem effect_call_unsupported (h : c.supports operation = false) :
    (c.call operation params).effect w = (.fault (.unknownOperation c.service operation), w) := by
  simp only [call, Act.effect_bind, Act.effect_ofExcept, check_of_not_supports h,
    Outcome.ofExcept, Act.goOn_fault]

theorem supports_of_effect_call {c : Client} {operation : String} {params response : Json}
    {w w' : World β υ} (h : (c.call operation params).effect w = (.ok response, w')) :
    c.supports operation = true := by
  cases hsupp : c.supports operation with
  | true => rfl
  | false => cases h.symm.trans (effect_call_unsupported c operation params w hsupp)

/-- While the queue is active, a call is answered from it. -/
theorem effect_call_active (h : c.supports operation = true) (ha : (c.stubs w).active = true) :
    (c.call operation params).effect w =
      (((Queue.next operation params).effect (c.stubs w)).1,
        w.withQueue c.queue ((Queue.next operation params).effect (c.stubs w)).2) := by
  simp only [call, Act.effect_bind, Act.effect_ofExcept, check_of_supports h, Outcome.ofExcept,
    Act.goOn_ok, effect_onQueue, Act.effect_get, withQueue_stubs, ha, if_true, Act.effect_report]

/-- A call that the head of the active queue expects gets the head's reply. No other queue and no
service changes. -/
theorem effect_call_of_expects {c : Client} {operation : String} {params : Json} {w : World β υ}
    {e : StubbedCall} {rest : List StubbedCall} (h : c.supports operation = true)
    (ha : (c.stubs w).active = true) (hcalls : (c.stubs w).calls = e :: rest)
    (hexp : e.Expects operation params) :
    (c.call operation params).effect w =
      (e.reply.outcome, w.withQueue c.queue (c.stubs w).pop) := by
  rw [effect_call_active c operation params w h ha, Queue.effect_next_of_expects hcalls hexp]

/-- While the queue is not active, a call is answered by the service. -/
theorem effect_call_inactive (h : c.supports operation = true)
    (ha : (c.stubs w).active = false) :
    (c.call operation params).effect w =
      (((Service.call operation params).effect (w.services.read c.backend)).1,
        w.withService c.backend
          ((Service.call operation params).effect (w.services.read c.backend)).2) := by
  simp only [call, Act.effect_bind, Act.effect_ofExcept, check_of_supports h, Outcome.ofExcept,
    Act.goOn_ok, effect_onQueue, Act.effect_get, withQueue_stubs, ha, Bool.false_eq_true, if_false,
    Act.effect_report, World.effect_onService]

/-- What answers a call of an operation that the service has: the queue while it is active, and
otherwise the service. -/
def answerer : Act (World β υ) Json :=
  if (c.stubs w).active then c.onQueue (Queue.next operation params)
  else World.onService c.backend (Service.call operation params)

/-- How the answer to a call is told. -/
def how : String :=
  if (c.stubs w).active then "Answering call from stub queue" else "Passing call through to backend"

/-- A call of an operation that the service has is told, and then answered. -/
theorem run_call_of_supports (h : c.supports operation = true) :
    (c.call operation params).run w =
      let r := (c.answerer operation params w).run w
      ⟨r.outcome, r.state, c.callEvent operation (c.how w) :: r.events⟩ := by
  have hcheck : (Act.ofExcept (c.check operation) : Act (World β υ) Unit).run w =
      ⟨.ok (), w, []⟩ := by
    rw [check_of_supports h]
    rfl
  have hqueue : (c.onQueue Act.get : Act (World β υ) Queue).run w = ⟨.ok (c.stubs w), w, []⟩ :=
    congrArg (fun t => (⟨.ok (c.stubs w), t, []⟩ : Run (World β υ) Queue)) (c.withQueue_stubs w)
  rw [call, Act.run_bind_of_ok hcheck, Act.run_bind_of_ok hqueue, answerer, how]
  split
  · rw [Act.run_bind_of_ok (Act.run_report ..)]
    rfl
  · rw [Act.run_bind_of_ok (Act.run_report ..)]
    rfl

/-- A call that is answered by the service is told, and then what the service tells of it. -/
theorem run_call_inactive (h : c.supports operation = true) (ha : (c.stubs w).active = false) :
    (c.call operation params).run w =
      let r := (Service.call operation params).run (w.services.read c.backend)
      ⟨r.outcome, w.withService c.backend r.state,
        c.callEvent operation "Passing call through to backend" :: r.events⟩ := by
  rw [run_call_of_supports c operation params w h, answerer, how, if_neg (by simp [ha]),
    if_neg (by simp [ha])]
  rfl

/-- No call passes unnoticed: it fails, or it is told. -/
theorem run_call_ne_silent (value : Json) (w' : World β υ) :
    (c.call operation params).run w ≠ ⟨.ok value, w', []⟩ := by
  intro h
  cases hsupp : c.supports operation with
  | false =>
      have hfault := effect_call_unsupported c operation params w hsupp
      rw [Act.effect_of_run h] at hfault
      cases hfault
  | true =>
      rw [run_call_of_supports c operation params w hsupp] at h
      exact absurd (congrArg Run.events h) (List.cons_ne_nil _ _)

/-- No call starts or stops a queue's answering. -/
theorem active_effect_call (k : Nat) :
    (((c.call operation params).effect w).2.queues.read k).active =
      (w.queues.read k).active := by
  cases hsupp : c.supports operation with
  | false => rw [effect_call_unsupported c operation params w hsupp]
  | true =>
      cases hactive : (c.stubs w).active with
      | false =>
          rw [effect_call_inactive c operation params w hsupp hactive, World.queues_withService]
      | true =>
          rw [effect_call_active c operation params w hsupp hactive]
          exact w.active_withQueue (Queue.answers_next operation params _).active_eq k

theorem lastStamp_effect_call :
    ((c.call operation params).effect w).2.lastStamp = w.lastStamp := by
  cases hsupp : c.supports operation with
  | false => rw [effect_call_unsupported c operation params w hsupp]
  | true =>
      cases hactive : (c.stubs w).active with
      | false =>
          rw [effect_call_inactive c operation params w hsupp hactive]
          rfl
      | true =>
          rw [effect_call_active c operation params w hsupp hactive]
          rfl

/-- A call that does not go to the service changes no service. -/
theorem services_effect_call (h : c.reaches operation w = false) :
    ((c.call operation params).effect w).2.services = w.services := by
  cases hsupp : c.supports operation with
  | false => rw [effect_call_unsupported c operation params w hsupp]
  | true =>
      have hactive : (c.stubs w).active = true := by simpa [reaches, hsupp] using h
      rw [effect_call_active c operation params w hsupp hactive, World.services_withQueue]

end Client

/-! ### Stubbers -/

namespace Stubber

variable (s : Stubber) (w : World β υ)

theorem effect_activate :
    s.activate.effect w =
      (.ok (), w.withQueue s.client.queue ((s.client.stubs w).setActive true)) := rfl

theorem effect_deactivate :
    s.deactivate.effect w =
      (.ok (), w.withQueue s.client.queue ((s.client.stubs w).setActive false)) := rfl

theorem effect_checkDone :
    s.checkDone.effect w = (Outcome.ofExcept (s.client.stubs w).checkDone, w) := by
  simp only [checkDone, Act.effect_bind, Client.effect_onQueue, Act.effect_get,
    Client.withQueue_stubs, Act.goOn_ok, Act.effect_ofExcept]

/-- When stubbing, a known operation is queued behind what is queued already. -/
theorem effect_stub {s : Stubber} (huse : s.useStubs = true) {operation : String}
    (hsupp : s.client.supports operation = true) (expected : Option Json) (response : Json)
    (code : Option String) :
    (s.stub operation expected response code).effect w =
      (.ok (), w.push s.client.queue ⟨operation, expected, reply response code⟩) := by
  simp only [stub, huse, if_true, Act.effect_bind, Act.effect_ofExcept,
    Client.check_of_supports hsupp, Outcome.ofExcept, Act.goOn_ok, Client.effect_onQueue]
  rfl

/-- When passing through, nothing is queued, whatever is asked. -/
theorem idle_stub {s : Stubber} (huse : s.useStubs = false) (operation : String)
    (expected : Option Json) (response : Json) (code : Option String) :
    (s.stub operation expected response code : Act (World β υ) Unit).Idle () := by
  intro w
  simp only [stub, huse, Bool.false_eq_true, if_false, Act.effect_pure]

/-- When stubbing, an operation that the client does not have is not queued. -/
theorem effect_stub_unsupported {s : Stubber} (huse : s.useStubs = true) {operation : String}
    (hsupp : s.client.supports operation = false) (expected : Option Json) (response : Json)
    (code : Option String) :
    (s.stub operation expected response code).effect w =
      (.fault (.unknownOperation s.client.service operation), w) := by
  simp only [stub, huse, if_true, Act.effect_bind, Act.effect_ofExcept,
    Client.check_of_not_supports hsupp, Outcome.ofExcept, Act.goOn_fault]

/-- A stub leaves the world as it is, or queues one call. -/
theorem state_stub_cases (operation : String) (expected : Option Json) (response : Json)
    (code : Option String) :
    ((s.stub operation expected response code).effect w).2 = w ∨
      ∃ e, ((s.stub operation expected response code).effect w).2 = w.push s.client.queue e := by
  cases huse : s.useStubs with
  | false => exact .inl (congrArg Prod.snd (idle_stub huse operation expected response code w))
  | true =>
      cases hsupp : s.client.supports operation with
      | false => exact .inl (congrArg Prod.snd (effect_stub_unsupported w huse hsupp ..))
      | true => exact .inr ⟨_, congrArg Prod.snd (effect_stub w huse hsupp ..)⟩

theorem lastStamp_effect_stub (operation : String) (expected : Option Json) (response : Json)
    (code : Option String) :
    ((s.stub operation expected response code).effect w).2.lastStamp = w.lastStamp := by
  rcases s.state_stub_cases w operation expected response code with h | ⟨e, h⟩ <;> rw [h]
  rfl

/-- No stub starts or stops a queue's answering. -/
theorem active_effect_stub (operation : String) (expected : Option Json) (response : Json)
    (code : Option String) (k : Nat) :
    (((s.stub operation expected response code).effect w).2.queues.read k).active =
      (w.queues.read k).active := by
  rcases s.state_stub_cases w operation expected response code with h | ⟨e, h⟩ <;> rw [h]
  exact w.active_push s.client.queue e k

/-- No stub changes a service. -/
theorem services_effect_stub (operation : String) (expected : Option Json) (response : Json)
    (code : Option String) :
    ((s.stub operation expected response code).effect w).2.services = w.services := by
  rcases s.state_stub_cases w operation expected response code with h | ⟨e, h⟩ <;> rw [h]
  rfl

end Stubber

end ServiceDoubles
