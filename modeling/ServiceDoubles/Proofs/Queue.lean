import ServiceDoubles.Queue
import ServiceDoubles.Proofs.Effect

/-!
# ServiceDoubles.Proofs.Queue

The theory of the **queue of stubbed calls**.

`Answers` says without reference to the code how a queue answers a call: either the head expects the
call and is consumed, or the call is refused and the queue stays as it was. `answers_next` is the
one place where `Queue.next` is opened; everything about calls follows by cases on `Answers`.

The main statement is `history_fifo`. It runs any operations on a new queue, and keeps beside the
queue the entries that were added and those that left at the front.
-/

namespace ServiceDoubles

/-- Whether the outcome is one that a stub can ask for: a response, or a failure of the service. -/
def Outcome.isReply : Outcome Json → Bool
  | .ok _ => true
  | .fault (.service ..) => true
  | _ => false

@[simp] theorem Reply.isReply_outcome (r : Reply) : r.outcome.isReply = true := by
  cases r <;> rfl

namespace StubbedCall

/-- The stubbed call expects this call. -/
def Expects (c : StubbedCall) (operation : String) (params : Json) : Prop :=
  c.operation = operation ∧ c.accepts params = true

theorem accepts_of_expected_some {c : StubbedCall} {e : Json} (h : c.expected = some e)
    (params : Json) : c.accepts params = Pattern.accepts e params := by
  simp only [accepts, h]

/-- Without expected parameters all are accepted. -/
theorem exists_of_accepts_false {c : StubbedCall} {params : Json}
    (h : c.accepts params = false) :
    ∃ e, c.expected = some e ∧ Pattern.accepts e params = false := by
  cases hsome : c.expected with
  | none => simp [accepts, hsome] at h
  | some e => exact ⟨e, rfl, c.accepts_of_expected_some hsome params ▸ h⟩

end StubbedCall

namespace Queue

/-! ### More calls behind the others, and what is left after calls -/

/-- The queue with more calls behind those that it holds. -/
def extend (q : Queue) (more : List StubbedCall) : Queue := { q with calls := q.calls ++ more }

@[simp] theorem extend_nil (q : Queue) : q.extend [] = q := by
  simp only [extend, List.append_nil]

theorem extend_push (q : Queue) (c : StubbedCall) (more : List StubbedCall) :
    (q.push c).extend more = q.extend (c :: more) := by
  simp only [extend, push, List.append_assoc, List.singleton_append]

/-- The queue without its first `n` entries, which count as consumed. -/
def drop (q : Queue) (n : Nat) : Queue where
  active := q.active
  calls := q.calls.drop n
  consumed := q.consumed + n

@[simp] theorem drop_zero (q : Queue) : q.drop 0 = q := rfl

theorem drop_pop (q : Queue) (n : Nat) : q.pop.drop n = q.drop (n + 1) := by
  simp only [drop, pop, List.drop_tail, Nat.add_assoc, Nat.add_comm 1]

theorem pop_eq_of_calls {q : Queue} {c : StubbedCall} {rest : List StubbedCall}
    (h : q.calls = c :: rest) : q.pop = { q with calls := rest, consumed := q.consumed + 1 } := by
  simp only [pop, h, List.tail_cons]

theorem checkDone_eq_ok_iff (q : Queue) : q.checkDone = .ok () ↔ q.calls = [] := by
  cases hcalls : q.calls <;> simp [checkDone, hcalls]

/-- Nothing is left of a queue once all its entries are consumed. -/
theorem checkDone_drop_length (q : Queue) : (q.drop q.calls.length).checkDone = .ok () := by
  rw [checkDone_eq_ok_iff]
  exact List.drop_length

/-! ### How a queue answers a call -/

/-- How a queue answers a call: `Answers operation params q o q'` gives the answer and the queue
after it. -/
inductive Answers (operation : String) (params : Json) : Queue → Outcome Json → Queue → Prop
  /-- The head expects the call: it is consumed, and its reply is the answer. -/
  | consumed {q : Queue} {c : StubbedCall} {rest : List StubbedCall} :
      q.calls = c :: rest → c.Expects operation params →
      Answers operation params q c.reply.outcome
        { q with calls := rest, consumed := q.consumed + 1 }
  /-- Nothing is expected any more. -/
  | nothingLeft {q : Queue} :
      q.calls = [] →
      Answers operation params q (.fault (.noResponse operation)) q
  /-- Another operation is expected next. -/
  | otherOperation {q : Queue} {c : StubbedCall} {rest : List StubbedCall} :
      q.calls = c :: rest → c.operation ≠ operation →
      Answers operation params q (.fault (.unexpectedCall c.operation operation)) q
  /-- The operation is expected next, but with other parameters. -/
  | otherParams {q : Queue} {c : StubbedCall} {rest : List StubbedCall} {e : Json} :
      q.calls = c :: rest → c.operation = operation → c.expected = some e →
      Pattern.accepts e params = false →
      Answers operation params q (.fault (.paramMismatch operation e params)) q

theorem effect_next_of_head_ok {q : Queue} {operation : String} {params : Json} {c : StubbedCall}
    (h : q.head operation params = .ok c) :
    (next operation params).effect q = (c.reply.outcome, q.pop) := by
  simp only [Act.effect, next, h]

theorem effect_next_of_head_error {q : Queue} {operation : String} {params : Json} {cause : Fault}
    (h : q.head operation params = .error cause) :
    (next operation params).effect q = (.fault cause, q) := by
  simp only [Act.effect, next, h]

/-- The head replies to a call that it expects. -/
theorem effect_next_of_expects {q : Queue} {c : StubbedCall} {rest : List StubbedCall}
    {operation : String} {params : Json} (hcalls : q.calls = c :: rest)
    (hexp : c.Expects operation params) :
    (next operation params).effect q = (c.reply.outcome, q.pop) := by
  obtain ⟨hop, hacc⟩ := hexp
  have hhead : q.head operation params = .ok c := by
    cases hsome : c.expected with
    | none => simp only [head, hcalls, hop, ne_eq, not_true_eq_false, if_false, hsome]
    | some e =>
        rw [c.accepts_of_expected_some hsome] at hacc
        simp only [head, hcalls, hop, ne_eq, not_true_eq_false, if_false, hsome, hacc, if_true]
  exact effect_next_of_head_ok hhead

/-- The queue answers as `Answers` says. -/
theorem answers_next (operation : String) (params : Json) (q : Queue) :
    Answers operation params q ((next operation params).effect q).1
      ((next operation params).effect q).2 := by
  cases hcalls : q.calls with
  | nil =>
      have hhead : q.head operation params = .error (.noResponse operation) := by
        simp only [head, hcalls]
      rw [effect_next_of_head_error hhead]
      exact .nothingLeft hcalls
  | cons c rest =>
      by_cases hop : c.operation = operation
      · cases hacc : c.accepts params with
        | true =>
            rw [effect_next_of_expects hcalls ⟨hop, hacc⟩, pop_eq_of_calls hcalls]
            exact .consumed hcalls ⟨hop, hacc⟩
        | false =>
            obtain ⟨e, hsome, hrej⟩ := c.exists_of_accepts_false hacc
            have hhead : q.head operation params =
                .error (.paramMismatch operation e params) := by
              simp only [head, hcalls, hop, ne_eq, not_true_eq_false, if_false, hsome, hrej,
                Bool.false_eq_true]
            rw [effect_next_of_head_error hhead]
            exact .otherParams hcalls hop hsome hrej
      · have hhead : q.head operation params =
            .error (.unexpectedCall c.operation operation) := by
          simp only [head, hcalls, ne_eq, hop, not_false_eq_true, if_true]
        rw [effect_next_of_head_error hhead]
        exact .otherOperation hcalls hop

namespace Answers

variable {operation : String} {params : Json} {q q' : Queue} {o : Outcome Json}

/-- A refusal is no reply of a stub, so the answer tells whether the head was consumed. -/
theorem isReply_iff (h : Answers operation params q o q') :
    o.isReply = true ↔ ∃ c rest, q.calls = c :: rest ∧ c.Expects operation params := by
  cases h with
  | @consumed c rest hcalls hexp =>
      exact iff_of_true c.reply.isReply_outcome ⟨c, rest, hcalls, hexp⟩
  | nothingLeft hcalls =>
      refine iff_of_false Bool.false_ne_true ?_
      rintro ⟨c, rest, hcons, -⟩
      simp [hcalls] at hcons
  | @otherOperation c _ hcalls hne =>
      refine iff_of_false Bool.false_ne_true ?_
      rintro ⟨d, rest, hcons, hexp⟩
      obtain ⟨rfl, -⟩ := List.cons.inj (hcalls.symm.trans hcons)
      exact hne hexp.1
  | @otherParams c _ e hcalls _ hsome hacc =>
      refine iff_of_false Bool.false_ne_true ?_
      rintro ⟨d, rest, hcons, hexp⟩
      obtain ⟨rfl, -⟩ := List.cons.inj (hcalls.symm.trans hcons)
      have htrue := hexp.2
      rw [c.accepts_of_expected_some hsome, hacc] at htrue
      exact Bool.false_ne_true htrue

/-- A reply is that of the head, which is consumed. -/
theorem of_isReply (h : Answers operation params q o q') (ho : o.isReply = true) :
    ∃ c, q.calls = c :: q'.calls ∧ c.Expects operation params ∧ o = c.reply.outcome ∧
      q'.consumed = q.consumed + 1 := by
  cases h with
  | @consumed c rest hcalls hexp => exact ⟨c, hcalls, hexp, rfl, rfl⟩
  | nothingLeft _ => exact absurd ho Bool.false_ne_true
  | otherOperation _ _ => exact absurd ho Bool.false_ne_true
  | otherParams _ _ _ _ => exact absurd ho Bool.false_ne_true

/-- A refusal leaves the queue as it was. -/
theorem of_not_isReply (h : Answers operation params q o q') (ho : o.isReply = false) :
    q' = q := by
  cases h with
  | @consumed c _ _ _ => simp at ho
  | nothingLeft _ => rfl
  | otherOperation _ _ => rfl
  | otherParams _ _ _ _ => rfl

/-- The queue changes exactly when a stub replies. -/
theorem eq_iff (h : Answers operation params q o q') : q' = q ↔ o.isReply = false := by
  refine ⟨fun heq => ?_, h.of_not_isReply⟩
  cases ho : o.isReply with
  | false => rfl
  | true =>
      obtain ⟨_, _, _, _, hcount⟩ := h.of_isReply ho
      rw [heq] at hcount
      omega

/-- An answer does not start or stop answering. -/
theorem active_eq (h : Answers operation params q o q') : q'.active = q.active := by
  cases h with
  | consumed _ _ => rfl
  | nothingLeft _ => rfl
  | otherOperation _ _ => rfl
  | otherParams _ _ _ _ => rfl

end Answers

/-! ### Histories -/

/-- An operation on a queue. -/
inductive Step where
  | add (call : StubbedCall)
  | next (operation : String) (params : Json)
  | setActive (active : Bool)

namespace Step

/-- What the operation does. Only a call has an answer. -/
def act : Step → Act Queue (Option Json)
  | add c => do
    Queue.add c
    return none
  | next operation params => return some (← Queue.next operation params)
  | setActive active => do
    Act.modify (Queue.setActive active)
    return none

/-- The entries that the operation adds. -/
def added : Step → List StubbedCall
  | add c => [c]
  | _ => []

/-- The entries that the operation consumes: for a call, those at the front of the queue `before`
it that are gone `after` it. -/
def consumed (before after : Queue) : Step → List StubbedCall
  | next .. => before.calls.take (before.calls.length - after.calls.length)
  | _ => []

/-- The queue after a call is the queue after its answer. -/
theorem effect_act_next (operation : String) (params : Json) (q : Queue) :
    ((next operation params).act.effect q).2 = ((Queue.next operation params).effect q).2 := by
  simp only [act, Act.effect_bind]
  rcases (Queue.next operation params).effect q with ⟨o, q'⟩
  cases o <;> rfl

/-- Whether the queue is active after the operation. -/
theorem active_effect_act (s : Step) (q : Queue) :
    (s.act.effect q).2.active =
      match s with
      | setActive active => active
      | _ => q.active := by
  cases s with
  | add c => rfl
  | next operation params =>
      rw [effect_act_next]
      exact (answers_next operation params q).active_eq
  | setActive active => rfl

end Step

/-- A queue with its past: the entries that were ever added and those that calls consumed, in
order. -/
structure History where
  queue : Queue := {}
  added : List StubbedCall := []
  consumed : List StubbedCall := []

namespace History

/-- The history with one more operation. -/
def step (h : History) (s : Step) : History where
  queue := (s.act.effect h.queue).2
  added := h.added ++ s.added
  consumed := h.consumed ++ s.consumed h.queue (s.act.effect h.queue).2

/-- The history of operations on a new queue. -/
def of (steps : List Step) : History := steps.foldl step {}

/-- Nothing is lost, doubled or out of order: what was added is what was consumed, and then what is
still queued. -/
structure Fifo (h : History) : Prop where
  added_eq : h.added = h.consumed ++ h.queue.calls
  count_eq : h.queue.consumed = h.consumed.length

theorem Fifo.step {h : History} (hf : h.Fifo) (s : Step) : (h.step s).Fifo := by
  cases s with
  | add c =>
      refine ⟨?_, ?_⟩
      · change h.added ++ [c] = (h.consumed ++ []) ++ (h.queue.calls ++ [c])
        rw [hf.added_eq, List.append_nil, List.append_assoc]
      · change h.queue.consumed = (h.consumed ++ []).length
        rw [hf.count_eq, List.append_nil]
  | setActive active =>
      refine ⟨?_, ?_⟩
      · change h.added ++ [] = (h.consumed ++ []) ++ h.queue.calls
        rw [hf.added_eq, List.append_nil, List.append_nil]
      · change h.queue.consumed = (h.consumed ++ []).length
        rw [hf.count_eq, List.append_nil]
  | next operation params =>
      have hans := answers_next operation params h.queue
      simp only [History.step, Step.effect_act_next, Step.added, Step.consumed, List.append_nil]
      generalize ((Queue.next operation params).effect h.queue).1 = o at hans
      generalize ((Queue.next operation params).effect h.queue).2 = q' at hans
      cases ho : o.isReply with
      | true =>
          -- The head moves from the queue to what was consumed.
          obtain ⟨c, hcalls, -, -, hcount⟩ := hans.of_isReply ho
          have htake : h.queue.calls.take (h.queue.calls.length - q'.calls.length) = [c] := by
            simp [hcalls]
          refine ⟨?_, ?_⟩
          · simp only [htake]
            rw [hf.added_eq, hcalls, List.append_assoc, List.singleton_append]
          · simp only [htake]
            rw [hcount, hf.count_eq, List.length_append, List.length_singleton]
      | false =>
          have hsame := hans.of_not_isReply ho
          subst hsame
          refine ⟨?_, ?_⟩
          · simpa using hf.added_eq
          · simpa using hf.count_eq

theorem fifo_of (steps : List Step) : (of steps).Fifo := by
  have hrun (h : History) (hf : h.Fifo) : (steps.foldl step h).Fifo := by
    induction steps generalizing h with
    | nil => exact hf
    | cons s rest ih => exact ih (h.step s) (hf.step s)
  exact hrun {} ⟨rfl, rfl⟩

/-- A queue hands out its entries first in, first out, whatever is done to it and in whatever order.
A call consumes exactly the head, and only if the head expects it; otherwise it is refused, and the
queue stays as it was. -/
theorem history_fifo (steps : List Step) :
    let h := of steps
    h.added = h.consumed ++ h.queue.calls ∧
    h.queue.consumed = h.consumed.length ∧
    h.queue.pending = (h.added.drop h.consumed.length).map (·.operation) ∧
    ∀ operation params,
      let r := (next operation params).effect h.queue
      Answers operation params h.queue r.1 r.2 ∧
      ((∃ c, h.queue.calls = c :: r.2.calls ∧ r.2.consumed = h.queue.consumed + 1) ↔
        ∃ c rest, h.queue.calls = c :: rest ∧ c.Expects operation params) ∧
      (r.2 = h.queue ↔ r.1.isReply = false) := by
  intro h
  have hf : h.Fifo := fifo_of steps
  refine ⟨hf.added_eq, hf.count_eq, ?_, fun operation params => ?_⟩
  · rw [hf.added_eq, List.drop_left]
    rfl
  · have hans := answers_next operation params h.queue
    refine ⟨hans, ?_, hans.eq_iff⟩
    rw [← hans.isReply_iff]
    constructor
    · rintro ⟨c, -, hcount⟩
      refine Bool.of_not_eq_false fun ho => ?_
      rw [hans.of_not_isReply ho] at hcount
      omega
    · intro ho
      obtain ⟨c, hcalls, -, -, hcount⟩ := hans.of_isReply ho
      exact ⟨c, hcalls, hcount⟩

end History

end Queue

end ServiceDoubles
