import ServiceDoubles.Proofs.Client.Acceptance
import ServiceDoubles.Proofs.Client.Orders
import ServiceDoubles.Proofs.Pattern
import ServiceDoubles.Proofs.Storage.Store
import ServiceDoubles.Storage.Handle
import ServiceDoubles.Storage.Stub

/-!
# ServiceDoubles.Proofs.Storage.Replay

**Replay** of requests to a storage service. Requests that a store answered are queued as stubs,
each with what was seen of its answer, and made again: they come out as they did before.

Two things carry this. A store never answers more than a stub of the same request can say
(`Store.answer_cases`), and a request asks the same of a store as of a stub, since its parameters
are expected as they are sent (`Pattern.accepts_self`). The rest is the matching of calls with stubs
in order, which is `Client.callEach_of_matches`.
-/

namespace ServiceDoubles

/-- The same outcome, up to the message of a failure of the service. -/
inductive Outcome.SameButMessage {α : Type} : Outcome α → Outcome α → Prop
  /-- The same value. -/
  | ok (value : α) : SameButMessage (.ok value) (.ok value)
  /-- A failure with the same code. -/
  | failure (code message message' : String) :
      SameButMessage (.fault (.service code message)) (.fault (.service code message'))

namespace Storage

variable {β υ : Type}

/-! ### Requests as tests make them -/

/-- What a test gets from a handle. -/
inductive Value where
  /-- Nothing but that it worked. -/
  | done
  /-- Whether the bucket exists. -/
  | presence (found : Bool)
  /-- The tag or the content of an object. -/
  | text (text : String)
  /-- The keys of a listing. -/
  | listing (keys : List String)

/-- Makes the request with a handle. -/
def Request.make [Service β] (c : Client) (r : Request) : Act (World β υ) Value :=
  let h : Handle := ⟨c, r.bucket⟩
  match r.action with
  | .createBucket location => do
    h.create location
    return .done
  | .headBucket => return .presence (← h.isPresent)
  | .deleteBucket => do
    h.delete
    return .done
  | .putObject key body => return .text (← h.putObject key body)
  | .getObject key => return .text (← h.getObject key)
  | .listObjects beginning => return .listing (← h.listObjects beginning)
  | .deleteObject key => do
    h.deleteObject key
    return .done

/-- What a test gets from a response. -/
def Action.value : Action → Json → Value
  | .headBucket, _ => .presence true
  | .putObject .., response => .text (Response.tag response)
  | .getObject _, response => .text (Response.body response)
  | .listObjects _, response => .listing (Response.keys response)
  | _, _ => .done

/-- What a test gets from the outcome of a call. Only a bucket that is asked for may be absent. -/
def Action.read (a : Action) : Outcome Json → Outcome Value
  | .ok response => .ok (a.value response)
  | .fault cause =>
    if a = .headBucket ∧ Handle.meansAbsent cause = true then .ok (.presence false)
    else .fault cause
  | .unwound reason => .unwound reason

theorem Action.read_absent (text : String) :
    headBucket.read (.fault (.service "NotFound" text)) = .ok (.presence false) := rfl

theorem Action.read_fault {a : Action} (h : a ≠ .headBucket) (cause : Fault) :
    a.read (.fault cause) = .fault cause :=
  if_neg fun hboth => h hboth.1

/-- The call that carries the request. -/
def Request.toCall (r : Request) : Call := ⟨r.operation, r.params⟩

/-- A request is one call, whose outcome is read. -/
theorem Request.effect_make [Service β] (c : Client) (r : Request) (w : World β υ) :
    (r.make c).effect w =
      (r.action.read ((c.call r.operation r.params).effect w).1,
        ((c.call r.operation r.params).effect w).2) := by
  obtain ⟨bucket, action⟩ := r
  generalize hcall : (c.call (operation ⟨bucket, action⟩) (params ⟨bucket, action⟩)).effect w = e
  have hsend : ((Handle.mk c bucket).send action).effect w = e := hcall
  obtain ⟨o, w'⟩ := e
  cases action with
  | headBucket =>
      simp only [make, Handle.isPresent, Act.effect_bind, Act.effect_attempt, hsend]
      cases o with
      | ok response => rfl
      | unwound reason => rfl
      | fault cause =>
          simp only [Act.goOn_ok, Action.read, true_and]
          split <;> rfl
  | _ =>
      simp only [make, Handle.create, Handle.delete, Handle.putObject, Handle.getObject,
        Handle.listObjects, Handle.deleteObject, Act.effect_bind, hsend]
      cases o <;> rfl

/-- Requests are calls, one for one, whose outcomes are read. -/
theorem Request.runEach_make [Service β] (c : Client) (requests : List Request) (w : World β υ) :
    Act.runEach (requests.map (·.make c)) w =
      (List.zipWith (fun r o => r.action.read o) requests
        (c.callEach (requests.map toCall) w).1, (c.callEach (requests.map toCall) w).2) := by
  induction requests generalizing w with
  | nil => rfl
  | cons r rest ih =>
      have heff : (c.call r.toCall.operation r.toCall.params).effect w =
          (c.call r.operation r.params).effect w := rfl
      rw [List.map_cons, List.map_cons, Act.runEach_cons, effect_make, Client.callEach_cons heff,
        ih]
      rfl

/-! ### Recording -/

/-- A stub for a tape, and the code of the failure that it is to ask for, if any. -/
structure Taped where
  stub : Stub
  code : Option String

/-- The code to ask for so that what was seen is seen again. A bucket that was absent is a failure
as well. -/
def codeSeen : Outcome Value → Option String
  | .ok (.presence false) => some "NotFound"
  | .fault cause => cause.code?
  | _ => none

/-- The content or the keys that the stub carries are those that were seen. Behind a failure it may
carry any. -/
def Stub.Repeats : Stub → Outcome Value → Prop
  | getObject _ _ body, .ok seen => seen = .text body
  | listObjects _ keys _, .ok seen => seen = .listing keys
  | _, _ => True

/-- The taped stub is for the request and repeats what was seen of it. -/
structure Records (made : Request × Outcome Value) (t : Taped) : Prop where
  request_eq : t.stub.request = made.1
  repeats : t.stub.Repeats made.2
  code_eq : t.code = codeSeen made.2

/-- The stubbed call that the taped stub queues. -/
def Taped.call (t : Taped) : StubbedCall :=
  ⟨t.stub.request.operation, some t.stub.request.params, Stubber.reply t.stub.response t.code⟩

theorem Records.matches {made : Request × Outcome Value} {t : Taped} (h : Records made t) :
    t.call.Matches made.1.toCall := by
  rw [← h.request_eq]
  exact ⟨rfl, Pattern.accepts_self _⟩

/-- What a store answers to a request is what a stub of the request can answer: a response of such a
stub, or a failure of the service, which for a bucket that is asked for is that of an absent one. -/
theorem Store.answer_cases (s : Store) (r : Request) :
    (∃ stub : Stub, stub.request = r ∧ outcomeOf (s.answer r) = .ok stub.response) ∨
    ∃ code text, outcomeOf (s.answer r) = .fault (.service code text) ∧
      (r.action = .headBucket → code = "NotFound") := by
  obtain ⟨bucket, action⟩ := r
  cases hb : s.buckets.get? bucket with
  | none =>
      cases action with
      | createBucket location =>
          simp only [answer, hb]
          exact .inl ⟨.createBucket bucket location, rfl, rfl⟩
      | headBucket =>
          simp only [answer, hb]
          exact .inr ⟨_, _, rfl, fun _ => rfl⟩
      | _ =>
          simp only [answer, hb]
          exact .inr ⟨_, _, rfl, nofun⟩
  | some b =>
      cases action with
      | createBucket location =>
          simp only [answer, hb]
          exact .inr ⟨_, _, rfl, nofun⟩
      | headBucket =>
          simp only [answer, hb]
          exact .inl ⟨.headBucket bucket, rfl, rfl⟩
      | deleteBucket =>
          simp only [answer, hb]
          split
          · exact .inl ⟨.deleteBucket bucket, rfl, rfl⟩
          · exact .inr ⟨_, _, rfl, nofun⟩
      | putObject key body =>
          simp only [answer, hb]
          exact .inl ⟨.putObject bucket key body, rfl, rfl⟩
      | getObject key =>
          simp only [answer, hb]
          split
          next body _ => exact .inl ⟨.getObject bucket key body, rfl, rfl⟩
          next => exact .inr ⟨_, _, rfl, nofun⟩
      | listObjects beginning =>
          simp only [answer, hb]
          exact .inl ⟨.listObjects bucket (keysFrom b beginning) beginning, rfl, rfl⟩
      | deleteObject key =>
          simp only [answer, hb]
          exact .inl ⟨.deleteObject bucket key, rfl, rfl⟩

/-! ### Repeating -/

/-- What is read from the response of a stub tells what the stub carries. -/
theorem Stub.eq_of_repeats {stub stub' : Stub} (hreq : stub.request = stub'.request)
    (hrep : stub.Repeats (stub'.request.action.read (.ok stub'.response))) : stub = stub' := by
  cases stub' with
  | getObject bucket key body =>
    cases stub <;> simp_all [request, Repeats, Action.read, Action.value, response]
  | listObjects bucket keys beginning =>
    cases stub <;> simp_all [request, Repeats, Action.read, Action.value, response]
  | _ =>
    cases stub <;> simp_all [request]

/-- A stub that repeats what a store answered comes out as the store did, up to the message. -/
theorem Records.sameButMessage {s : Store} {r : Request} {t : Taped}
    (h : Records (r, r.action.read (Store.outcomeOf (s.answer r))) t) :
    Outcome.SameButMessage (r.action.read (Store.outcomeOf (s.answer r)))
      (r.action.read t.call.reply.outcome) := by
  obtain ⟨hreq, hrep, hcode⟩ := h
  rcases s.answer_cases r with ⟨stub, rfl, hans⟩ | ⟨code, text, hans, hhead⟩
  · rw [hans] at hrep hcode ⊢
    have hstub : t.stub = stub := Stub.eq_of_repeats hreq hrep
    have hnone : t.code = none := by
      rw [hcode]
      cases stub <;> rfl
    rw [Taped.call, hstub, hnone]
    exact .ok _
  · rw [hans] at hrep hcode ⊢
    by_cases hact : r.action = .headBucket
    · -- The test sees no failure here, but the stub has to ask for one.
      obtain rfl := hhead hact
      rw [hact, Action.read_absent] at hcode ⊢
      rw [Taped.call, show t.code = some "NotFound" from hcode]
      exact .ok _
    · rw [Action.read_fault hact] at hcode ⊢
      rw [Taped.call, show t.code = some code from hcode]
      change Outcome.SameButMessage _ (r.action.read (.fault (.service code "")))
      rw [Action.read_fault hact]
      exact .failure code text ""

/-! ### Runs -/

/-- The client has all operations of a storage service. -/
def Serves (c : Client) : Prop := ∀ a : Action, c.supports a.operation = true

theorem serves_of_operations {c : Client} (h : c.operations = operations) : Serves c := by
  intro a
  rw [Client.supports, h]
  exact List.contains_iff_mem.mpr a.operation_mem

/-- A request that passes through is answered by the store. -/
theorem effect_call_passthrough {c : Client} (hc : Serves c) {w : World Store υ}
    (hpass : (c.stubs w).active = false) (r : Request) :
    let answer := (w.services.read c.backend).answer r
    (c.call r.operation r.params).effect w =
      (Store.outcomeOf answer,
        w.withService c.backend ((w.services.read c.backend).after answer)) := by
  have heff := Client.effect_call_inactive c r.operation r.params w (hc r.action) hpass
  rw [show Service.call r.operation r.params = Store.call r.operation r.params from rfl,
    Store.effect_call, Store.answerTo_request] at heff
  exact heff

/-- The outcome is what some store has for the request. -/
def Stored (r : Request) (seen : Outcome Value) : Prop :=
  ∃ s : Store, seen = r.action.read (Store.outcomeOf (s.answer r))

/-- Requests that pass through to a store are answered by it, each in the state that it has come
to. -/
theorem stored_of_passthrough {c : Client} (hc : Serves c) {home : World Store υ}
    (hpass : (c.stubs home).active = false) (requests : List Request) :
    List.Forall₂ Stored requests (Act.runEach (requests.map (·.make c)) home).1 := by
  induction requests generalizing home with
  | nil => exact .nil
  | cons r rest ih =>
      rw [List.map_cons, Act.runEach_cons, Request.effect_make, effect_call_passthrough hc hpass r]
      exact .cons ⟨_, rfl⟩ (ih hpass)

theorem Stub.exists_request (r : Request) : ∃ stub : Stub, stub.request = r := by
  obtain ⟨bucket, action⟩ := r
  cases action with
  | createBucket location => exact ⟨.createBucket bucket location, rfl⟩
  | headBucket => exact ⟨.headBucket bucket, rfl⟩
  | deleteBucket => exact ⟨.deleteBucket bucket, rfl⟩
  | putObject key body => exact ⟨.putObject bucket key body, rfl⟩
  | getObject key => exact ⟨.getObject bucket key "", rfl⟩
  | listObjects beginning => exact ⟨.listObjects bucket [] beginning, rfl⟩
  | deleteObject key => exact ⟨.deleteObject bucket key, rfl⟩

/-- Whatever a store has for a request can be taped. -/
theorem Stored.exists_records {r : Request} {seen : Outcome Value} (h : Stored r seen) :
    ∃ t, Records (r, seen) t := by
  obtain ⟨s, rfl⟩ := h
  rcases s.answer_cases r with ⟨stub, rfl, hans⟩ | ⟨code, text, hans, -⟩
  · rw [hans]
    refine ⟨⟨stub, _⟩, rfl, ?_, rfl⟩
    cases stub with
    | getObject bucket key body => exact congrArg Value.text (Response.body_content body)
    | listObjects bucket keys beginning => exact congrArg Value.listing (Response.keys_listing keys)
    | _ => trivial
  · rw [hans]
    obtain ⟨stub, rfl⟩ := Stub.exists_request r
    refine ⟨⟨stub, _⟩, rfl, ?_, rfl⟩
    cases stub with
    | _ => exact trivial

/-- Any run can be taped. -/
theorem exists_tape {c : Client} (hc : Serves c) {home : World Store υ}
    (hpass : (c.stubs home).active = false) (requests : List Request) :
    ∃ tape : List Taped, List.Forall₂ Records
      (requests.zip (Act.runEach (requests.map (·.make c)) home).1) tape := by
  have hseen := stored_of_passthrough hc hpass requests
  generalize (Act.runEach (requests.map (·.make c)) home).1 = seen at hseen
  induction hseen with
  | nil => exact ⟨[], .nil⟩
  | cons hstored _ ih =>
      obtain ⟨t, ht⟩ := hstored.exists_records
      obtain ⟨tape, htape⟩ := ih
      exact ⟨t :: tape, .cons ht htape⟩

theorem runEach_queue {s : Stubber} (huse : s.useStubs = true) (hsupp : Serves s.client)
    (tape : List Taped) (w : World β υ) :
    Act.runEach (tape.map fun t => t.stub.queue s t.code) w =
      (tape.map fun _ => .ok (), w.pushAll (tape.map fun t => (s.client.queue, t.call))) := by
  induction tape generalizing w with
  | nil => rfl
  | cons t rest ih =>
      have heff : (t.stub.queue s t.code).effect w = (.ok (), w.push s.client.queue t.call) :=
        Stubber.effect_stub w huse (hsupp t.stub.request.action) ..
      rw [List.map_cons, Act.runEach_cons, heff, ih]
      rfl

/-- The queue of an active stubber's client, once a tape is queued. -/
theorem stubs_of_taped {s : Stubber} (huse : s.useStubs = true) (hsupp : Serves s.client)
    (tape : List Taped) (w : World β υ) :
    s.client.stubs
        (s.activate.effect (Act.runEach (tape.map fun t => t.stub.queue s t.code) w).2).2 =
      ((s.client.stubs w).extend (tape.map Taped.call)).setActive true := by
  have hself := World.ordersFor_map s.client.queue (tape.map Taped.call)
  rw [List.map_map] at hself
  rw [Stubber.effect_activate, Client.stubs_withQueue_self, runEach_queue huse hsupp, Client.stubs,
    World.read_pushAll]
  exact congrArg (fun more => ((s.client.stubs w).extend more).setActive true) hself

theorem matches_of_records {requests : List Request} {seen : List (Outcome Value)}
    {tape : List Taped} (hseen : List.Forall₂ Stored requests seen)
    (htape : List.Forall₂ Records (requests.zip seen) tape) :
    List.Forall₂ StubbedCall.Matches (tape.map Taped.call) (requests.map Request.toCall) := by
  induction hseen generalizing tape with
  | nil =>
      cases htape
      exact .nil
  | cons _ _ ih =>
      cases htape with
      | cons hrec hrest => exact .cons hrec.matches (ih hrest)

theorem sameButMessage_of_records {requests : List Request} {seen : List (Outcome Value)}
    {tape : List Taped} (hseen : List.Forall₂ Stored requests seen)
    (htape : List.Forall₂ Records (requests.zip seen) tape) :
    List.Forall₂ Outcome.SameButMessage seen
      (List.zipWith (fun r o => r.action.read o) requests
        ((tape.map Taped.call).map (·.reply.outcome))) := by
  induction hseen generalizing tape with
  | nil =>
      cases htape
      exact .nil
  | cons hstored _ ih =>
      obtain ⟨s, rfl⟩ := hstored
      cases htape with
      | cons hrec hrest => exact .cons hrec.sameButMessage (ih hrest)

variable {υ' : Type} [Service β]

/-- Requests that a store answered come out the same when they are taped, queued in order and made
again of an active stubber's client. No stub is left over, and the services, whatever they are, are
not involved. -/
theorem replay_same {c : Client} (hc : Serves c) {home : World Store υ}
    (hpass : (c.stubs home).active = false) (requests : List Request) {s : Stubber}
    (huse : s.useStubs = true) (hs : Serves s.client) {w : World β υ'}
    (hempty : (s.client.stubs w).calls = []) {tape : List Taped}
    (htape : List.Forall₂ Records
      (requests.zip (Act.runEach (requests.map (·.make c)) home).1) tape) :
    let seen := (Act.runEach (requests.map (·.make c)) home).1
    let queued := Act.runEach (tape.map fun t => t.stub.queue s t.code) w
    let live := s.activate.effect queued.2
    let replayed := Act.runEach (requests.map (·.make s.client)) live.2
    (∀ o ∈ queued.1, o = .ok ()) ∧ live.1 = .ok () ∧
      List.Forall₂ Outcome.SameButMessage seen replayed.1 ∧
      (s.checkDone.effect replayed.2).1 = .ok () ∧
      replayed.2.services = w.services := by
  intro seen queued live replayed
  have hseen : List.Forall₂ Stored requests seen := stored_of_passthrough hc hpass requests
  have hqueued : queued = _ := runEach_queue huse hs tape w
  have hlive : s.client.stubs live.2 =
      ((s.client.stubs w).extend (tape.map Taped.call)).setActive true :=
    stubs_of_taped huse hs tape w
  have hcalls : (s.client.stubs live.2).calls = tape.map Taped.call ++ [] := by
    rw [hlive, List.append_nil]
    change (s.client.stubs w).calls ++ _ = _
    rw [hempty, List.nil_append]
  have hans := Client.callEach_of_matches (congrArg Queue.active hlive) hcalls
    (fun call hmem => by obtain ⟨r, -, rfl⟩ := List.mem_map.mp hmem; exact hs r.action)
    (matches_of_records hseen htape)
  have hreplayed : replayed = _ := Request.runEach_make s.client requests live.2
  rw [hans] at hreplayed
  refine ⟨?_, rfl, ?_, ?_, ?_⟩
  · rw [hqueued]
    intro o ho
    obtain ⟨t, -, rfl⟩ := List.mem_map.mp ho
    rfl
  · rw [hreplayed]
    exact sameButMessage_of_records hseen htape
  · rw [List.append_nil] at hcalls
    rw [hreplayed, Stubber.effect_checkDone, Client.stubs_withQueue_self, ← hcalls,
      Queue.checkDone_drop_length]
    rfl
  · rw [hreplayed]
    change queued.2.services = _
    rw [hqueued, World.services_pushAll]

/-- A bucket is absent, is created and cannot be created again. -/
theorem replay_same_create :
    let c : Client := ⟨serviceName, "r", operations, 0, 0⟩
    let s : Stubber := stubber c true
    let w : World Store Unit := World.fresh ()
    let requests : List Request :=
      [⟨"b", .headBucket⟩, ⟨"b", .createBucket none⟩, ⟨"b", .createBucket none⟩]
    let seen := (Act.runEach (requests.map (·.make c)) w).1
    let tape : List Taped :=
      [⟨.headBucket "b", some "NotFound"⟩, ⟨.createBucket "b" none, none⟩,
       ⟨.createBucket "b" none, some "BucketAlreadyOwnedByYou"⟩]
    let queued := Act.runEach (tape.map fun t => t.stub.queue s t.code) w
    List.Forall₂ Records (requests.zip seen) tape ∧
      List.Forall₂ Outcome.SameButMessage seen
        (Act.runEach (requests.map (·.make s.client)) (s.activate.effect queued.2).2).1 := by
  intro c s w requests seen tape queued
  have hc : Serves c := serves_of_operations rfl
  have hpass : (c.stubs w).active = false := rfl
  have huse : s.useStubs = true := rfl
  have hempty : (s.client.stubs w).calls = [] := rfl
  have htape : List.Forall₂ Records (requests.zip seen) tape :=
    .cons ⟨rfl, trivial, rfl⟩ (.cons ⟨rfl, trivial, rfl⟩ (.cons ⟨rfl, trivial, rfl⟩ .nil))
  have hsame := replay_same hc hpass requests huse hc hempty htape
  exact ⟨htape, hsame.2.2.1⟩

end Storage

end ServiceDoubles
