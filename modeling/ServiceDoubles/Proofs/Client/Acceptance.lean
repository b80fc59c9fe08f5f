import Mathlib.Data.List.Forall2
import ServiceDoubles.Proofs.Client
import ServiceDoubles.Storage.Store

/-!
# ServiceDoubles.Proofs.Client.Acceptance

Which **sequences of calls** a stubbed client accepts.

The greedy matching of calls against the head of the queue is described once, by `exists_usesUp`:
the accepted calls match the entries at the front of the queue one for one, and what is left of the
queue is the rest. Acceptance of a whole sequence and the irrelevance of rejected calls both follow
from it and from its converse `callEach_of_matches`.
-/

namespace ServiceDoubles

variable {β υ : Type}

/-- A call of a client. -/
structure Call where
  operation : String
  params : Json

/-- The stubbed call expects this call. -/
def StubbedCall.Matches (e : StubbedCall) (call : Call) : Prop :=
  e.Expects call.operation call.params

/-- Whether the outcome rejects a call: the service does not have the operation, or no stub that
expects the call is next. -/
def Outcome.isRejection : Outcome Json → Bool
  | .fault (.unknownOperation ..) => true
  | .fault (.noResponse _) => true
  | .fault (.unexpectedCall ..) => true
  | .fault (.paramMismatch ..) => true
  | _ => false

@[simp] theorem Reply.isRejection_outcome (r : Reply) : r.outcome.isRejection = false := by
  cases r <;> rfl

theorem Queue.Answers.isRejection_of_not_isReply {operation : String} {params : Json}
    {q q' : Queue} {o : Outcome Json} (h : Answers operation params q o q')
    (ho : o.isReply = false) : o.isRejection = true := by
  cases h with
  | consumed _ _ => simp at ho
  | nothingLeft _ => rfl
  | otherOperation _ _ => rfl
  | otherParams _ _ _ _ => rfl

namespace Client

/-- The calls that were not rejected. -/
def accepted (calls : List Call) (answers : List (Outcome Json)) : List Call :=
  ((calls.zip answers).filter fun x => !x.2.isRejection).map (·.1)

theorem accepted_cons_of_rejection {o : Outcome Json} (h : o.isRejection = true) (call : Call)
    (calls : List Call) (answers : List (Outcome Json)) :
    accepted (call :: calls) (o :: answers) = accepted calls answers := by
  simp [accepted, h]

theorem accepted_cons_of_not_rejection {o : Outcome Json} (h : o.isRejection = false) (call : Call)
    (calls : List Call) (answers : List (Outcome Json)) :
    accepted (call :: calls) (o :: answers) = call :: accepted calls answers := by
  simp [accepted, h]

variable [Service β]

/-- Makes calls in order, whatever their answers are: the answers, and the world at the end. -/
def callEach (c : Client) (calls : List Call) (w : World β υ) :
    List (Outcome Json) × World β υ :=
  Act.runEach (calls.map fun call => c.call call.operation call.params) w

@[simp] theorem callEach_nil (c : Client) (w : World β υ) : c.callEach [] w = ([], w) := rfl

theorem callEach_cons {c : Client} {call : Call} {w w' : World β υ} {o : Outcome Json}
    (h : (c.call call.operation call.params).effect w = (o, w')) (calls : List Call) :
    c.callEach (call :: calls) w =
      (o :: (c.callEach calls w').1, (c.callEach calls w').2) := by
  simp only [callEach, List.map_cons, Act.runEach_cons, h]

theorem length_callEach (c : Client) (calls : List Call) (w : World β υ) :
    (c.callEach calls w).1.length = calls.length := by
  induction calls generalizing w with
  | nil => rfl
  | cons call calls ih =>
      rw [callEach_cons rfl]
      exact congrArg (· + 1) (ih _)

/-- Calls that match the entries at the front of an active queue get their replies, and leave the
rest of the queue. -/
theorem callEach_of_matches {c : Client} {w : World β υ} {used more : List StubbedCall}
    {calls : List Call} (ha : (c.stubs w).active = true) (hcalls : (c.stubs w).calls = used ++ more)
    (hsupp : ∀ call ∈ calls, c.supports call.operation = true)
    (hmatch : List.Forall₂ StubbedCall.Matches used calls) :
    c.callEach calls w =
      (used.map (·.reply.outcome), w.withQueue c.queue ((c.stubs w).drop used.length)) := by
  induction hmatch generalizing w with
  | nil => simp
  | @cons e call used calls he _ ih =>
      have heff := effect_call_of_expects (w := w) (hsupp call List.mem_cons_self) ha hcalls he
      rw [callEach_cons heff, ih]
      · simp only [stubs_withQueue_self, World.withQueue_withQueue, Queue.drop_pop, List.map_cons,
          List.length_cons]
      · rw [stubs_withQueue_self]
        exact ha
      · rw [stubs_withQueue_self, Queue.pop_eq_of_calls hcalls]
        rfl
      · exact fun call' h => hsupp call' (List.mem_cons_of_mem _ h)

/-- A call of a client whose queue is active gets the reply of the head, or it is rejected and
changes nothing. -/
theorem call_cases {c : Client} {w : World β υ} (ha : (c.stubs w).active = true) (call : Call) :
    (∃ e rest, c.supports call.operation = true ∧ (c.stubs w).calls = e :: rest ∧ e.Matches call ∧
      (c.call call.operation call.params).effect w =
        (e.reply.outcome, w.withQueue c.queue (c.stubs w).pop)) ∨
    (∃ o, o.isReply = false ∧ o.isRejection = true ∧
      (c.call call.operation call.params).effect w = (o, w)) := by
  cases hsupp : c.supports call.operation with
  | false => exact .inr ⟨_, rfl, rfl, effect_call_unsupported c _ _ w hsupp⟩
  | true =>
      have hans := Queue.answers_next call.operation call.params (c.stubs w)
      cases ho : ((Queue.next call.operation call.params).effect (c.stubs w)).1.isReply with
      | true =>
          obtain ⟨e, rest, hcalls, hexp⟩ := hans.isReply_iff.mp ho
          exact .inl ⟨e, rest, rfl, hcalls, hexp, effect_call_of_expects hsupp ha hcalls hexp⟩
      | false =>
          refine .inr ⟨_, ho, hans.isRejection_of_not_isReply ho, ?_⟩
          rw [effect_call_active c _ _ w hsupp ha, hans.of_not_isReply ho, withQueue_stubs]

/-- What calls do to an active queue: the accepted ones match the entries `used` at its front one
for one, get their replies, and leave `more`. -/
structure UsesUp (c : Client) (w : World β υ) (calls : List Call)
    (used more : List StubbedCall) : Prop where
  split : (c.stubs w).calls = used ++ more
  pairs : List.Forall₂ StubbedCall.Matches used (accepted calls (c.callEach calls w).1)
  known : ∀ call ∈ accepted calls (c.callEach calls w).1, c.supports call.operation = true
  replies : (c.callEach calls w).1.filter (!·.isRejection) = used.map (·.reply.outcome)
  kinds : ∀ o ∈ (c.callEach calls w).1, o.isReply = !o.isRejection
  world : (c.callEach calls w).2 = w.withQueue c.queue ((c.stubs w).drop used.length)

theorem UsesUp.nil (c : Client) (w : World β υ) : UsesUp c w [] [] (c.stubs w).calls where
  split := rfl
  pairs := .nil
  known := fun _ h => absurd h List.not_mem_nil
  replies := rfl
  kinds := fun _ h => absurd h List.not_mem_nil
  world := by simp

/-- A call that the head replies to uses up the head. -/
theorem UsesUp.cons_reply {c : Client} {w : World β υ} {call : Call} {calls : List Call}
    {e : StubbedCall} {rest used more : List StubbedCall}
    (hsupp : c.supports call.operation = true) (hcalls : (c.stubs w).calls = e :: rest)
    (hexp : e.Matches call)
    (heff : (c.call call.operation call.params).effect w =
      (e.reply.outcome, w.withQueue c.queue (c.stubs w).pop))
    (h : UsesUp c (w.withQueue c.queue (c.stubs w).pop) calls used more) :
    UsesUp c w (call :: calls) (e :: used) more := by
  have haccepted := accepted_cons_of_not_rejection e.reply.isRejection_outcome call calls
    (c.callEach calls (w.withQueue c.queue (c.stubs w).pop)).1
  constructor
  · have hsplit := h.split
    rw [stubs_withQueue_self, Queue.pop_eq_of_calls hcalls] at hsplit
    rw [hcalls, List.cons_append]
    exact congrArg (e :: ·) hsplit
  · rw [callEach_cons heff, haccepted]
    exact .cons hexp h.pairs
  · rw [callEach_cons heff, haccepted]
    intro call' hmem
    rcases List.mem_cons.mp hmem with rfl | hmem
    · exact hsupp
    · exact h.known call' hmem
  · rw [callEach_cons heff, List.filter_cons_of_pos (by simp), h.replies, List.map_cons]
  · rw [callEach_cons heff]
    intro o hmem
    rcases List.mem_cons.mp hmem with rfl | hmem
    · simp
    · exact h.kinds o hmem
  · rw [callEach_cons heff, h.world, stubs_withQueue_self, World.withQueue_withQueue,
      Queue.drop_pop, List.length_cons]

/-- A rejected call uses up nothing. -/
theorem UsesUp.cons_rejected {c : Client} {w : World β υ} {call : Call} {calls : List Call}
    {o : Outcome Json} {used more : List StubbedCall} (ho : o.isReply = false)
    (hrej : o.isRejection = true) (heff : (c.call call.operation call.params).effect w = (o, w))
    (h : UsesUp c w calls used more) : UsesUp c w (call :: calls) used more := by
  have haccepted := accepted_cons_of_rejection hrej call calls (c.callEach calls w).1
  constructor
  · exact h.split
  · rw [callEach_cons heff, haccepted]
    exact h.pairs
  · rw [callEach_cons heff, haccepted]
    exact h.known
  · rw [callEach_cons heff, List.filter_cons_of_neg (by simp [hrej]), h.replies]
  · rw [callEach_cons heff]
    intro o' hmem
    rcases List.mem_cons.mp hmem with rfl | hmem
    · rw [ho, hrej, Bool.not_true]
    · exact h.kinds o' hmem
  · rw [callEach_cons heff, h.world]

theorem exists_usesUp {c : Client} {w : World β υ} (ha : (c.stubs w).active = true)
    (calls : List Call) : ∃ used more, UsesUp c w calls used more := by
  induction calls generalizing w with
  | nil => exact ⟨[], _, .nil c w⟩
  | cons call calls ih =>
      rcases call_cases ha call with ⟨e, rest, hsupp, hcalls, hexp, heff⟩ | ⟨o, ho, hrej, heff⟩
      · have ha' : (c.stubs (w.withQueue c.queue (c.stubs w).pop)).active = true := by
          rw [stubs_withQueue_self]
          exact ha
        obtain ⟨used, more, h⟩ := ih ha'
        exact ⟨e :: used, more, h.cons_reply hsupp hcalls hexp heff⟩
      · obtain ⟨used, more, h⟩ := ih ha
        exact ⟨used, more, h.cons_rejected ho hrej heff⟩

theorem UsesUp.stubs_calls {c : Client} {w : World β υ} {calls : List Call}
    {used more : List StubbedCall} (h : UsesUp c w calls used more) :
    (c.stubs (c.callEach calls w).2).calls = more := by
  rw [h.world, stubs_withQueue_self]
  simp only [Queue.drop, h.split, List.drop_left]

theorem accepted_eq_self {calls : List Call} {answers : List (Outcome Json)}
    (hlen : answers.length = calls.length) (h : ∀ o ∈ answers, o.isRejection = false) :
    accepted calls answers = calls := by
  induction calls generalizing answers with
  | nil => rfl
  | cons call calls ih =>
      cases answers with
      | nil => simp at hlen
      | cons o answers =>
          rw [accepted_cons_of_not_rejection (h o List.mem_cons_self),
            ih (by simpa using hlen) fun o' ho' => h o' (List.mem_cons_of_mem _ ho')]

/-- Calls of a stubbed client are all answered from stubs, with no stub left over, exactly when they
match the stubs position by position; the answers are then the replies. Among any calls, the ones
that are not rejected use up a beginning of the stubs, and the rejected ones can be left out without
a change to the other answers or to the world. -/
theorem replies_iff_matches (c : Client) (w : World β υ) (ha : (c.stubs w).active = true) :
    let q := c.stubs w
    (∀ calls : List Call, (∀ call ∈ calls, c.supports call.operation = true) →
      let r := c.callEach calls w
      (((∀ o ∈ r.1, o.isReply = true) ∧ (c.stubs r.2).checkDone = .ok ()) ↔
        List.Forall₂ StubbedCall.Matches q.calls calls) ∧
      (List.Forall₂ StubbedCall.Matches q.calls calls →
        r.1 = q.calls.map (·.reply.outcome))) ∧
    ∀ calls : List Call,
      let r := c.callEach calls w
      (∃ used, q.calls = used ++ (c.stubs r.2).calls ∧
        (c.stubs r.2).consumed = q.consumed + used.length ∧
        r.1.filter (!·.isRejection) = used.map (·.reply.outcome)) ∧
      c.callEach (accepted calls r.1) w = (r.1.filter (!·.isRejection), r.2) := by
  intro q
  have hall (calls : List Call) (hsupp : ∀ call ∈ calls, c.supports call.operation = true)
      (hmatch : List.Forall₂ StubbedCall.Matches q.calls calls) :=
    callEach_of_matches ha (List.append_nil q.calls).symm hsupp hmatch
  refine ⟨fun calls hsupp => ⟨⟨?_, fun hmatch => ?_⟩, fun hmatch => ?_⟩, fun calls => ?_⟩
  · rintro ⟨hreplies, hdone⟩
    obtain ⟨used, more, h⟩ := exists_usesUp ha calls
    have haccepted : accepted calls (c.callEach calls w).1 = calls := by
      refine accepted_eq_self (length_callEach c calls w) fun o ho => ?_
      simpa [hreplies o ho] using h.kinds o ho
    rw [Queue.checkDone_eq_ok_iff, h.stubs_calls] at hdone
    have hsplit := h.split
    rw [hdone, List.append_nil] at hsplit
    have hpairs := h.pairs
    rw [haccepted] at hpairs
    exact hsplit ▸ hpairs
  · rw [hall calls hsupp hmatch]
    refine ⟨?_, ?_⟩
    · intro o ho
      obtain ⟨e, -, rfl⟩ := List.mem_map.mp ho
      exact e.reply.isReply_outcome
    · rw [stubs_withQueue_self]
      exact Queue.checkDone_drop_length _
  · rw [hall calls hsupp hmatch]
  · obtain ⟨used, more, h⟩ := exists_usesUp ha calls
    refine ⟨⟨used, ?_, ?_, h.replies⟩, ?_⟩
    · rw [h.stubs_calls]
      exact h.split
    · rw [h.world, stubs_withQueue_self]
      rfl
    · rw [callEach_of_matches ha h.split h.known h.pairs, h.replies, h.world]

/-- Two stubs, the second of which asks for a failure, and two calls that match them. -/
theorem replies_iff_matches_two :
    let c : Client := ⟨"s3", "r", ["HeadBucket", "PutObject"], 0, 0⟩
    let stubs : List StubbedCall :=
      [⟨"HeadBucket", none, .response .null⟩, ⟨"PutObject", some Pattern.any, .failure "E" ""⟩]
    let w : World Storage.Store Unit := (World.fresh ()).withQueue 0 ⟨true, stubs, 0⟩
    let calls : List Call := [⟨"HeadBucket", .null⟩, ⟨"PutObject", .bool true⟩]
    (c.stubs w).active = true ∧ (∀ o ∈ (c.callEach calls w).1, o.isReply = true) ∧
      (c.stubs (c.callEach calls w).2).checkDone = .ok () := by
  intro c stubs w calls
  have ha : (c.stubs w).active = true := rfl
  have hsupp : ∀ call ∈ calls, c.supports call.operation = true := by decide
  have hmatch : List.Forall₂ StubbedCall.Matches (c.stubs w).calls calls :=
    .cons ⟨rfl, rfl⟩ (.cons ⟨rfl, by decide⟩ .nil)
  exact ⟨ha, ((replies_iff_matches c w ha).1 calls hsupp).1.mpr hmatch⟩

end Client

end ServiceDoubles
