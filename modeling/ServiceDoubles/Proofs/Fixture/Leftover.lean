import ServiceDoubles.Proofs.Fixture
import ServiceDoubles.Proofs.Pattern
import ServiceDoubles.Storage.Store

/-!
# ServiceDoubles.Proofs.Fixture.Leftover

**What a bucket fixture leaves behind** on a client that answers from its queue.

The fixture queues the call that it is about to make behind all that is expected already, and then
makes it. So the call is answered by whatever is at the head, and by the fixture's own entry only if
nothing was expected. `ends_of_makeBucket` says so once, and the rest follows by cases on `Ends`.

Nothing is taken back afterwards: if the call is refused, or if an entry from before answers it, the
own entry stays in the queue. So the fixture is all or nothing exactly where its own entry cannot be
told from those before it (`allOrNothing_iff`).
-/

namespace ServiceDoubles

/-- A list with `x` behind it is the list with `y` in front of it exactly if there is nothing but
`x`. -/
theorem append_singleton_eq_cons_iff {α : Type} {l : List α} {x y : α} :
    l ++ [x] = y :: l ↔ ∀ z ∈ y :: l, z = x := by
  induction l generalizing y with
  | nil => simp [eq_comm]
  | cons z rest ih =>
      rw [List.cons_append, List.cons.injEq, ih]
      constructor
      · rintro ⟨rfl, hall⟩
        exact List.forall_mem_cons.mpr ⟨hall _ List.mem_cons_self, hall⟩
      · intro hall
        obtain ⟨hy, hrest⟩ := List.forall_mem_cons.mp hall
        exact ⟨(hrest z List.mem_cons_self).trans hy.symm, hrest⟩

namespace Fixture.Leftover

open Storage (Handle Request)

variable {β υ : Type}

/-- The world after a name was made when the clock read `reading`. -/
def named (reading : Int) (w : World β υ) : World β υ :=
  { w with lastStamp := Stamp.next w.lastStamp (Stamp.ofReading reading) }

/-- The bucket that a fixture makes. -/
def bucket (reading : Int) (c : Client) (w : World β υ) : Handle :=
  ⟨c, Stamp.name "bucket" (named reading w).lastStamp⟩

/-- The parameters of the call that creates the bucket. -/
def params (h : Handle) (region : Option String) : Json :=
  Request.params ⟨h.name, .createBucket (some (bucketRegion h.client region))⟩

/-- The entry that a fixture queues for that call. -/
def ownEntry (h : Handle) (region : Option String) : StubbedCall :=
  ⟨"CreateBucket", some (params h region), .response (Storage.Response.created h.name)⟩

theorem ownEntry_expects (h : Handle) (region : Option String) :
    (ownEntry h region).Expects "CreateBucket" (params h region) :=
  ⟨rfl, Pattern.accepts_self _⟩

/-- How a fixture for the bucket `h` ends: `Ends h region q o q'` gives what comes of it, and the
queue before and after it. -/
inductive Ends (h : Handle) (region : Option String) (q : Queue) : Outcome Handle → Queue → Prop
  /-- The client cannot create buckets: nothing is queued, and no call is made. -/
  | unsupported :
      h.client.supports "CreateBucket" = false →
      Ends h region q (.fault (.unknownOperation h.client.service "CreateBucket")) q
  /-- The own entry goes to the end of the queue, and the queue answers the call. -/
  | answered {q' : Queue} {answer : Outcome Json} :
      h.client.supports "CreateBucket" = true →
      Queue.Answers "CreateBucket" (params h region) (q.push (ownEntry h region)) answer q' →
      Ends h region q (answer.map fun _ => h) q'

section

variable [Service β]

/-- A fixture that went well added its finalizer, and the same calls are expected as before. One
that failed left the queue, the scope and the services as they were. -/
def AllOrNothing (s : Stubber) (before : Setting β υ) : Outcome Handle × Setting β υ → Prop
  | (.ok h, after) =>
    (s.client.stubs after.world).calls = (s.client.stubs before.world).calls ∧
      after.scope = before.scope.push (bucketFinalizer s h)
  | (_, after) =>
    s.client.stubs after.world = s.client.stubs before.world ∧ after.scope = before.scope ∧
      after.world.services = before.world.services

/-- The scope once a fixture ended like this: only a bucket adds a finalizer. -/
def scopeAfter (s : Stubber) (scope : Scope (World β υ)) : Outcome Handle → Scope (World β υ)
  | .ok h => scope.push (bucketFinalizer s h)
  | _ => scope

variable {reading : Int} {s : Stubber} {region : Option String} {scope : Scope (World β υ)}
  {w : World β υ}

/-- On a client that cannot create buckets only a name is used up. -/
theorem effect_setUpBucket_unsupported (hstubs : s.useStubs = true)
    (hsupp : s.client.supports "CreateBucket" = false) :
    (setUpBucket reading s s.client region).effect w =
      (.fault (.unknownOperation s.client.service "CreateBucket"), named reading w) := by
  have hname : (World.uniqueName reading "bucket").effect w =
      (.ok (bucket reading s.client w).name, named reading w) := rfl
  have hstub (stub : Storage.Stub) (hop : stub.request.operation = "CreateBucket") :
      (stub.queue s none).effect (named reading w) =
        (.fault (.unknownOperation s.client.service "CreateBucket"), named reading w) := by
    rw [Storage.Stub.queue, hop]
    exact Stubber.effect_stub_unsupported _ hstubs hsupp ..
  rw [setUpBucket, Act.effect_bind, hname, Act.goOn_ok, Act.effect_bind, hstub _ rfl, Act.goOn_fault]

/-- The call of a fixture is answered by the queue with the fixture's own entry at its end. -/
theorem effect_setUpBucket_of_stubs (hstubs : s.useStubs = true)
    (hactive : (s.client.stubs w).active = true)
    (hsupp : s.client.supports "CreateBucket" = true) :
    let h := bucket reading s.client w
    let answer := (Queue.next "CreateBucket" (params h region)).effect
      ((s.client.stubs w).push (ownEntry h region))
    (setUpBucket reading s s.client region).effect w =
      (answer.1.map fun _ => h, (named reading w).withQueue s.client.queue answer.2) := by
  intro h answer
  let stubbed : World β υ := (named reading w).push s.client.queue (ownEntry h region)
  have hname : (World.uniqueName reading "bucket").effect w = (.ok h.name, named reading w) := rfl
  have hstub : ((Storage.Stub.createBucket h.name (some (bucketRegion s.client region))).queue s
      none).effect (named reading w) = (.ok (), stubbed) :=
    Stubber.effect_stub _ hstubs hsupp ..
  have hqueue : s.client.stubs stubbed = (s.client.stubs w).push (ownEntry h region) :=
    s.client.stubs_withQueue_self ..
  have hcall : (s.client.call "CreateBucket" (params h region)).effect stubbed =
      (answer.1, (named reading w).withQueue s.client.queue answer.2) := by
    rw [Client.effect_call_active _ _ _ _ hsupp (hqueue ▸ hactive), hqueue]
    show (_, ((named reading w).withQueue _ _).withQueue _ _) = _
    rw [World.withQueue_withQueue]
  have hcreate : (Handle.create h (some (bucketRegion s.client region))).effect stubbed =
      (answer.1.map fun _ => (), (named reading w).withQueue s.client.queue answer.2) := by
    have hmap := Act.effect_map (fun _ : Json => ())
      (s.client.call "CreateBucket" (params h region)) stubbed
    rw [hcall] at hmap
    exact hmap
  rw [setUpBucket, Act.effect_bind, hname, Act.goOn_ok, Act.effect_bind, hstub, Act.goOn_ok]
  show (do
    Handle.create h (some (bucketRegion s.client region))
    return h : Act (World β υ) Handle).effect stubbed = _
  rw [Act.effect_bind, hcreate]
  cases answer.1 <;> rfl

/-- A fixture that stubs ends as `Ends` says. It leaves its finalizer if it gives a bucket, and in the
world it changes only the queue and the last stamp. -/
theorem ends_of_makeBucket (reading : Int) (region : Option String) (scope : Scope (World β υ))
    (hstubs : s.useStubs = true) (hactive : (s.client.stubs w).active = true) :
    let r := (makeBucket reading s s.client region).effect ⟨scope, w⟩
    let q' := s.client.stubs r.2.world
    Ends (bucket reading s.client w) region (s.client.stubs w) r.1 q' ∧
      r.2.scope = scopeAfter s scope r.1 ∧
      r.2.world = (named reading w).withQueue s.client.queue q' := by
  have hends : ∃ o q', Ends (bucket reading s.client w) region (s.client.stubs w) o q' ∧
      (makeBucket reading s s.client region).effect ⟨scope, w⟩ =
        (o, ⟨scopeAfter s scope o, (named reading w).withQueue s.client.queue q'⟩) := by
    rw [effect_makeBucket]
    cases hsupp : s.client.supports "CreateBucket" with
    | false =>
        refine ⟨_, _, .unsupported hsupp, ?_⟩
        have hsame : (named reading w).withQueue s.client.queue (s.client.stubs w) =
            named reading w := s.client.withQueue_stubs (named reading w)
        rw [effect_setUpBucket_unsupported hstubs hsupp, hsame]
        rfl
    | true =>
        refine ⟨_, _, .answered hsupp (Queue.answers_next ..), ?_⟩
        rw [effect_setUpBucket_of_stubs hstubs hactive hsupp]
        generalize (Queue.next "CreateBucket" _).effect _ = answer
        obtain ⟨o, q'⟩ := answer
        cases o <;> rfl
  obtain ⟨o, q', hends, hr⟩ := hends
  intro r q₁
  have hr : r = (o, _) := hr
  have hq₁ : q₁ = q' := by
    rw [← s.client.stubs_withQueue_self (named reading w) q']
    exact congrArg (fun r => s.client.stubs r.2.world) hr
  rw [hq₁, hr]
  exact ⟨hends, rfl, rfl⟩

end

/-! ### What the ends have in common -/

section

variable {h : Handle} {region : Option String} {q q' : Queue} {o : Outcome Handle}

namespace Ends

/-- A fixture does not start or stop a queue's answering. -/
theorem active_eq (hends : Ends h region q o q') : q'.active = q.active := by
  cases hends with
  | unsupported _ => rfl
  | answered _ hans => exact hans.active_eq

/-- A fixture gives its bucket or a fault. -/
theorem ok_or_fault (hends : Ends h region q o q') : o = .ok h ∨ ∃ cause, o = .fault cause := by
  cases hends with
  | unsupported _ => exact .inr ⟨_, rfl⟩
  | answered _ hans =>
      cases hans with
      | @consumed e _ _ _ =>
          cases e.reply with
          | response value => exact .inl rfl
          | failure code message => exact .inr ⟨_, rfl⟩
      | nothingLeft _ => exact .inr ⟨_, rfl⟩
      | otherOperation _ _ => exact .inr ⟨_, rfl⟩
      | otherParams _ _ _ _ => exact .inr ⟨_, rfl⟩

theorem eq_of_unsupported (hends : Ends h region q o q')
    (hsupp : h.client.supports "CreateBucket" = false) :
    o = .fault (.unknownOperation h.client.service "CreateBucket") ∧ q' = q := by
  cases hends with
  | unsupported _ => exact ⟨rfl, rfl⟩
  | answered hnot _ => exact absurd (hnot.symm.trans hsupp) Bool.noConfusion

/-- Where all entries look like the fixture's own, one of them answers, and as many are left as
before. -/
theorem eq_of_same (hends : Ends h region q o q')
    (hsupp : h.client.supports "CreateBucket" = true)
    (hsame : ∀ e ∈ q.calls, e = ownEntry h region) :
    o = .ok h ∧ q' = { q with consumed := q.consumed + 1 } := by
  cases hends with
  | unsupported hnot => exact absurd (hnot.symm.trans hsupp) Bool.noConfusion
  | @answered q' answer _ hans =>
      have hcalls : (q.push (ownEntry h region)).calls = ownEntry h region :: q.calls :=
        append_singleton_eq_cons_iff.mpr (List.forall_mem_cons.mpr ⟨rfl, hsame⟩)
      have hreply : answer.isReply = true :=
        hans.isReply_iff.mpr ⟨_, _, hcalls, ownEntry_expects h region⟩
      cases hans with
      | @consumed e rest hcons hexp =>
          obtain ⟨rfl, rfl⟩ := List.cons.inj (hcalls.symm.trans hcons)
          exact ⟨rfl, rfl⟩
      | nothingLeft _ => cases hreply
      | otherOperation _ _ => cases hreply
      | otherParams _ _ _ _ => cases hreply

/-- A fixture whose own entry was queued never leaves the queue quite as it was: an entry is there
that was not, or one was consumed. -/
theorem ne_of_supports (hends : Ends h region q o q')
    (hsupp : h.client.supports "CreateBucket" = true) : q' ≠ q := by
  intro hkept
  cases hends with
  | unsupported hnot => exact absurd (hnot.symm.trans hsupp) Bool.noConfusion
  | @answered q' answer _ hans =>
      cases hreply : answer.isReply with
      | true =>
          obtain ⟨_, _, _, _, hcount⟩ := hans.of_isReply hreply
          rw [hkept] at hcount
          exact absurd hcount (Nat.ne_of_lt (Nat.lt_succ_self q.consumed))
      | false =>
          have hlength := congrArg (·.calls.length) (hkept.symm.trans (hans.of_not_isReply hreply))
          simp [Queue.push] at hlength

/-- A fixture that gives its bucket and leaves the same entries found none but such as its own. -/
theorem same_of_ok (hends : Ends h region q (.ok h) q') (hkept : q'.calls = q.calls) :
    ∀ e ∈ q.calls, e = ownEntry h region := by
  generalize ho : Outcome.ok h = o at hends
  cases hends with
  | unsupported _ => cases ho
  | @answered q' answer _ hans =>
      cases answer with
      | ok response =>
          obtain ⟨e, hcalls, -, -, -⟩ := hans.of_isReply rfl
          rw [hkept] at hcalls
          exact (List.forall_mem_cons.mp (append_singleton_eq_cons_iff.mp hcalls)).2
      | fault cause => cases ho
      | unwound reason => cases ho

end Ends

end

/-- A fixture is all or nothing only if its own entry was not queued, or if the entry that is gone
cannot be told from the one that came. -/
theorem allOrNothing_iff [Service β] {s : Stubber} (before : Setting β υ) {w' : World β υ}
    {h : Handle} {region : Option String} {o : Outcome Handle} (hclient : h.client = s.client)
    (hservices : w'.services = before.world.services)
    (hends : Ends h region (s.client.stubs before.world) o (s.client.stubs w')) :
    AllOrNothing s before (o, ⟨scopeAfter s before.scope o, w'⟩) ↔
      s.client.supports "CreateBucket" = false ∨
        ∀ e ∈ (s.client.stubs before.world).calls, e = ownEntry h region := by
  cases hsupp : s.client.supports "CreateBucket" with
  | false =>
      obtain ⟨rfl, hqueue⟩ := hends.eq_of_unsupported (hclient ▸ hsupp)
      exact iff_of_true ⟨hqueue, rfl, hservices⟩ (.inl rfl)
  | true =>
      rw [← hclient] at hsupp
      rw [or_iff_right Bool.noConfusion]
      constructor
      · intro hall
        obtain rfl | ⟨cause, rfl⟩ := hends.ok_or_fault
        · exact hends.same_of_ok hall.1
        · exact absurd hall.1 (hends.ne_of_supports hsupp)
      · intro hsame
        obtain ⟨rfl, hqueue⟩ := hends.eq_of_same hsupp hsame
        have hcalls : (s.client.stubs w').calls = (s.client.stubs before.world).calls := by
          rw [hqueue]
        exact ⟨hcalls, rfl⟩

/-- A bucket fixture that stubs changes the queue of its client and uses up a name, and nothing else
in the world. It adds its finalizer exactly if it gives a bucket. Its own entry goes to the end of the
queue, its call is answered by whatever is at the head then, and nothing is taken back.

So it is all or nothing exactly if the client cannot create buckets, or every entry that was queued
before is the same as its own, as when the queue was empty. -/
theorem leftover_of_makeBucket [Service β] {reading : Int} {s : Stubber} {region : Option String}
    {scope : Scope (World β υ)} {w : World β υ} (hstubs : s.useStubs = true)
    (hactive : (s.client.stubs w).active = true) :
    let c := s.client
    let q := c.stubs w
    let h := bucket reading c w
    let r := (makeBucket reading s c region).effect ⟨scope, w⟩
    let q' := c.stubs r.2.world
    (r.2.world = (named reading w).withQueue c.queue q' ∧ q'.active = true) ∧
    ((r.1 = .ok h ∧ r.2.scope = scope.push (bucketFinalizer s h)) ∨
      ∃ cause, r.1 = .fault cause ∧ r.2.scope = scope) ∧
    Ends h region q r.1 q' ∧
    (c.supports "CreateBucket" = true → (∀ e ∈ q.calls, e = ownEntry h region) →
      r.1 = .ok h ∧ q' = { q with consumed := q.consumed + 1 }) ∧
    (AllOrNothing s ⟨scope, w⟩ r ↔
      c.supports "CreateBucket" = false ∨ ∀ e ∈ q.calls, e = ownEntry h region) := by
  intro c q h r q'
  obtain ⟨hends, hscope, hworld⟩ := ends_of_makeBucket reading region scope hstubs hactive
  refine ⟨⟨hworld, hends.active_eq.trans hactive⟩, ?outcome, hends, hends.eq_of_same, ?all⟩
  case outcome =>
    obtain hok | ⟨cause, hfault⟩ := hends.ok_or_fault
    · exact .inl ⟨hok, hscope.trans (congrArg (scopeAfter s scope) hok)⟩
    · exact .inr ⟨cause, hfault, hscope.trans (congrArg (scopeAfter s scope) hfault)⟩
  case all =>
    have hservices : r.2.world.services = w.services := by
      rw [hworld]
      rfl
    have hall := allOrNothing_iff ⟨scope, w⟩ rfl hservices hends
    rw [← hscope] at hall
    exact hall

/-- Where nothing was expected the fixture gives its bucket and is all or nothing. Behind the stub of
another call it is not. -/
theorem leftover_of_makeBucket_two :
    let c : Client := ⟨Storage.serviceName, "r", Storage.operations, 0, 0⟩
    let s := Storage.stubber c true
    let scope : Scope (World Storage.Store Unit) := Scope.start Config.standard Registry.builtIn
    let other : StubbedCall := ⟨"HeadBucket", none, .response .null⟩
    let w (calls : List StubbedCall) := (World.fresh ()).withQueue 0 ⟨true, calls, 0⟩
    let make (calls : List StubbedCall) := (makeBucket 5 s c none).effect ⟨scope, w calls⟩
    s.useStubs = true ∧ (∀ calls, (c.stubs (w calls)).active = true) ∧
    (make []).1 = .ok ⟨c, "bucket5"⟩ ∧ AllOrNothing s ⟨scope, w []⟩ (make []) ∧
    ¬AllOrNothing s ⟨scope, w [other]⟩ (make [other]) := by
  intro c s scope other w make
  have hactive (calls : List StubbedCall) : (c.stubs (w calls)).active = true := rfl
  have hcreates : c.supports "CreateBucket" = true := by decide
  obtain ⟨-, -, -, hempty, hall⟩ := leftover_of_makeBucket (s := s) (w := w []) rfl (hactive [])
  obtain ⟨-, -, -, -, hnot⟩ :=
    leftover_of_makeBucket (s := s) (w := w [other]) rfl (hactive [other])
  have hbucket : bucket 5 c (w []) = ⟨c, "bucket5"⟩ := by decide
  refine ⟨rfl, hactive, hbucket ▸ (hempty hcreates nofun).1, hall.mpr (.inr nofun), fun h => ?_⟩
  obtain hunsupported | hsame := hnot.mp h
  · exact Bool.noConfusion (hunsupported.symm.trans hcreates)
  · have hop := congrArg StubbedCall.operation (hsame other List.mem_cons_self)
    exact absurd hop (by decide)

/-- A fixture is refused behind the stub of another call, it is answered by a stub that a test queued
to create a bucket of its own, and it fails as that stub asks. In each case its own entry stays
behind. -/
theorem leftover_behind_other_stubs :
    let c : Client := ⟨Storage.serviceName, "r", Storage.operations, 0, 0⟩
    let s := Storage.stubber c true
    let scope : Scope (World Storage.Store Unit) := Scope.start Config.standard Registry.builtIn
    let w (calls : List StubbedCall) := (World.fresh ()).withQueue 0 ⟨true, calls, 0⟩
    let make (calls : List StubbedCall) := (makeBucket 5 s c none).effect ⟨scope, w calls⟩
    let expected (calls : List StubbedCall) := (c.stubs (make calls).2.world).pending
    let other : StubbedCall := ⟨"HeadBucket", none, .response .null⟩
    let any : StubbedCall := ⟨"CreateBucket", none, .response .null⟩
    let failing : StubbedCall := ⟨"CreateBucket", none, .failure "TestException" ""⟩
    ((make [other]).1 = .fault (.unexpectedCall "HeadBucket" "CreateBucket") ∧
      expected [other] = ["HeadBucket", "CreateBucket"] ∧
      ¬AllOrNothing s ⟨scope, w [other]⟩ (make [other])) ∧
    ((make [any, other]).1 = .ok ⟨c, "bucket5"⟩ ∧
      expected [any, other] = ["HeadBucket", "CreateBucket"] ∧
      ¬AllOrNothing s ⟨scope, w [any, other]⟩ (make [any, other])) ∧
    ((make [failing]).1 = .fault (.service "TestException" "") ∧
      expected [failing] = ["CreateBucket"] ∧
      ¬AllOrNothing s ⟨scope, w [failing]⟩ (make [failing])) := by
  intro c s scope w make expected other any failing
  refine ⟨⟨rfl, rfl, fun h => ?_⟩, ⟨?_, rfl, fun h => ?_⟩, ⟨rfl, rfl, fun h => ?_⟩⟩
  · have hcalls := congrArg Queue.pending h.1
    exact absurd hcalls (by decide)
  · have hbucket : bucket 5 c (w [any, other]) = ⟨c, "bucket5"⟩ := by decide
    rw [← hbucket]
    rfl
  · have hcalls := congrArg (List.map StubbedCall.operation) h.1
    exact absurd hcalls (by decide)
  · have hcount := congrArg Queue.consumed h.1
    exact absurd hcount (by decide)

end Fixture.Leftover

end ServiceDoubles
