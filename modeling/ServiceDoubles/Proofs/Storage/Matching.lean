import ServiceDoubles.Proofs.Pattern.Instance
import ServiceDoubles.Proofs.Storage.Replay

/-!
# ServiceDoubles.Proofs.Storage.Matching

Which requests a **stub of a storage service** answers.

A stub expects the parameters of its own request. Objects are accepted key by key
(`Pattern.accepts_record_iff`), and a request writes each argument under a key of its own, so that
the parameters of one request are accepted in the place of another's exactly if the arguments agree
one for one (`Action.agrees_iff`). Requests of several operations have the same parameters; they are
told apart by the operation alone.
-/

namespace ServiceDoubles

/-! ### Objects key by key -/

namespace Entries

variable {α β : Type}

theorem isSome_eq_of_rel {R : α → β → Prop} {a : Option α} {b : Option β} (h : Option.Rel R a b) :
    a.isSome = b.isSome := by
  cases h <;> rfl

theorem mem_keys_iff_lookup {as : List (String × α)} (h : Ascending as) {key : String} :
    key ∈ as.map (·.1) ↔ (as.lookup key).isSome = true :=
  SortedMap.mem_keys_iff (m := ⟨as, h⟩)

theorem lookup_eq_none_of_not_mem {as : List (String × α)} {key : String}
    (h : key ∉ as.map (·.1)) : as.lookup key = none := by
  rw [List.lookup_eq_none_iff]
  intro a ha
  simpa using fun heq => h (List.mem_map.mpr ⟨a, ha, heq.symm⟩)

/-- Ascending entries pair up if each key is in both or in neither, with related values. -/
theorem forall₂_iff_lookup (R : α → β → Prop) {as : List (String × α)} {bs : List (String × β)}
    (ha : Ascending as) (hb : Ascending bs) :
    List.Forall₂ (fun a b => a.1 = b.1 ∧ R a.2 b.2) as bs ↔
      ∀ key, Option.Rel R (as.lookup key) (bs.lookup key) := by
  constructor
  · intro h key
    have hback : List.Forall₂ (fun b a => b.1 = a.1 ∧ R a.2 b.2) bs as :=
      h.flip.imp fun _ _ hab => ⟨hab.1.symm, hab.2⟩
    cases hleft : as.lookup key with
    | some a =>
        obtain ⟨b, hright, hab⟩ := exists_lookup_of_forall₂ R h hleft
        rw [hright]
        exact .some hab
    | none =>
        cases hright : bs.lookup key with
        | none => exact .none
        | some b =>
            obtain ⟨a, hleft', -⟩ := exists_lookup_of_forall₂ (fun b a => R a b) hback hright
            cases hleft.symm.trans hleft'
  · intro h
    have hkeys : as.map (·.1) = bs.map (·.1) := by
      refine keys_eq_of_mem_iff ha hb fun key => ?_
      rw [mem_keys_iff_lookup ha, mem_keys_iff_lookup hb, isSome_eq_of_rel (h key)]
    refine forall₂_of_lookup R ha hb hkeys fun key a b hleft hright => ?_
    have hrel := h key
    rw [hleft, hright] at hrel
    exact Option.rel_some_some.mp hrel

/-- Where no key occurs twice, the entries may be looked through from either end. -/
theorem lookup_reverse {as : List (String × α)} (h : (as.map (·.1)).Nodup) (key : String) :
    as.reverse.lookup key = as.lookup key := by
  induction as with
  | nil => rfl
  | cons a rest ih =>
      obtain ⟨k, v⟩ := a
      obtain ⟨hk, hrest⟩ := List.nodup_cons.mp h
      rw [List.reverse_cons, List.lookup_append, ih hrest, List.lookup_cons, List.lookup_cons]
      by_cases heq : key = k
      · subst heq
        rw [lookup_eq_none_of_not_mem hk]
        simp
      · simp [beq_eq_false_iff_ne.mpr heq]

end Entries

theorem Json.exists_fields_of_record (fields : List (String × Json)) :
    ∃ sorted, record fields = .object sorted ∧ Entries.Ascending sorted := by
  suffices ∀ sorted, Entries.Ascending sorted →
      Entries.Ascending (fields.foldl (fun sorted f => Entries.insert f.1 f.2 sorted) sorted) from
    ⟨_, rfl, this [] List.Pairwise.nil⟩
  induction fields with
  | nil => exact fun _ h => h
  | cons f rest ih => exact fun _ h => ih _ (Entries.ascending_insert h)

namespace Pattern

/-- A text that is expected stands for one that is sent: for itself, or for any as the wildcard. -/
def StandsFor (expected actual : String) : Prop := expected = actual ∨ expected = wildcard

theorem accepts_text_iff {e a : String} :
    accepts (.string e) (.string a) = true ↔ StandsFor e a := by
  rw [accepts_string_iff, Json.string.injEq, StandsFor, or_comm, eq_comm]

/-- Each key is expected or not as it is given, and its value is accepted. -/
def AcceptsEach (es as : List (String × Json)) : Prop :=
  ∀ key, Option.Rel (accepts · · = true) (es.lookup key) (as.lookup key)

theorem acceptsEach_nil : AcceptsEach [] [] := fun _ => .none

theorem acceptsEach_cons_iff {key : String} {e a : Json} {es as : List (String × Json)}
    (he : es.lookup key = none) (ha : as.lookup key = none) :
    AcceptsEach ((key, e) :: es) ((key, a) :: as) ↔
      accepts e a = true ∧ AcceptsEach es as := by
  constructor
  · intro h
    have hkey : Option.Rel (accepts · · = true) (some e) (some a) := by
      simpa only [List.lookup_cons, beq_self_eq_true] using h key
    refine ⟨by simpa only [Option.rel_some_some] using hkey, fun other => ?_⟩
    by_cases heq : other = key
    · rw [heq, he, ha]
      exact .none
    · have hother := h other
      simpa only [List.lookup_cons, beq_eq_false_iff_ne.mpr heq] using hother
  · rintro ⟨hkey, hrest⟩ other
    simp only [List.lookup_cons]
    split
    · exact .some hkey
    · exact hrest other

/-- What is left out is expected to be left out. -/
theorem not_acceptsEach_nil_cons {key : String} {a : Json} {as : List (String × Json)} :
    ¬ AcceptsEach [] ((key, a) :: as) := by
  intro h
  have hkey := h key
  simp at hkey

theorem not_acceptsEach_cons_nil {key : String} {e : Json} {es : List (String × Json)} :
    ¬ AcceptsEach ((key, e) :: es) [] := by
  intro h
  have hkey := h key
  simp at hkey

/-- An object is accepted key by key, in whatever order its fields are written. -/
theorem accepts_record_iff {es as : List (String × Json)} (he : (es.map (·.1)).Nodup)
    (ha : (as.map (·.1)).Nodup) :
    accepts (Json.record es) (Json.record as) = true ↔ AcceptsEach es as := by
  have hfield {fields : List (String × Json)} {sorted : List (String × Json)}
      (heq : Json.record fields = .object sorted) (h : (fields.map (·.1)).Nodup) (key : String) :
      sorted.lookup key = fields.lookup key := by
    rw [← Entries.lookup_reverse h, ← Json.field?_record, heq]
    rfl
  obtain ⟨es', hes, hasc⟩ := Json.exists_fields_of_record es
  obtain ⟨as', has, hasc'⟩ := Json.exists_fields_of_record as
  have hpairs := Entries.forall₂_iff_lookup (accepts · · = true) hasc hasc'
  simp only [hfield hes he, hfield has ha] at hpairs
  rw [hes, has, accepts_object_iff]
  constructor
  · rintro ⟨_, heq, h⟩
    cases heq
    exact hpairs.mp h
  · intro h
    exact ⟨as', rfl, hpairs.mpr h⟩

end Pattern

/-! ### Refusals -/

namespace Queue.Answers

/-- A call that the head does not expect leaves the queue alone. It is refused for its operation, or
else for its parameters. -/
theorem refusal {operation : String} {params : Json}
    {q q' : Queue} {o : Outcome Json} (h : Answers operation params q o q')
    {c : StubbedCall} {rest : List StubbedCall} (hcalls : q.calls = c :: rest)
    (hnot : ¬ c.Expects operation params) :
    q' = q ∧
      (c.operation ≠ operation → o = .fault (.unexpectedCall c.operation operation)) ∧
      (c.operation = operation →
        ∃ e, c.expected = some e ∧ o = .fault (.paramMismatch operation e params)) := by
  cases h with
  | @consumed c' _ hcons hexp =>
      obtain ⟨rfl, -⟩ := List.cons.inj (hcalls.symm.trans hcons)
      exact absurd hexp hnot
  | nothingLeft hnil => cases hcalls.symm.trans hnil
  | @otherOperation c' _ hcons hne =>
      obtain ⟨rfl, -⟩ := List.cons.inj (hcalls.symm.trans hcons)
      exact ⟨rfl, fun _ => rfl, fun heq => absurd heq hne⟩
  | @otherParams c' _ e hcons hop hsome _ =>
      obtain ⟨rfl, -⟩ := List.cons.inj (hcalls.symm.trans hcons)
      exact ⟨rfl, fun hne => absurd hop hne, fun _ => ⟨e, hsome, rfl⟩⟩

end Queue.Answers

namespace Storage

open Pattern (StandsFor AcceptsEach)

/-! ### Requests argument by argument -/

/-- The arguments of the expected action agree with those of the actual one. An argument that may
be left out is left out of both, or agrees where it is given. -/
inductive Action.Agrees : Action → Action → Prop
  | createBucket {location location' : Option String} :
    Option.Rel StandsFor location location' →
    Agrees (.createBucket location) (.createBucket location')
  | headBucket : Agrees .headBucket .headBucket
  | deleteBucket : Agrees .deleteBucket .deleteBucket
  | putObject {key key' body body' : String} :
    StandsFor key key' → StandsFor body body' →
    Agrees (.putObject key body) (.putObject key' body')
  | getObject {key key' : String} : StandsFor key key' → Agrees (.getObject key) (.getObject key')
  | listObjects {beginning beginning' : Option String} :
    Option.Rel StandsFor beginning beginning' →
    Agrees (.listObjects beginning) (.listObjects beginning')
  | deleteObject {key key' : String} :
    StandsFor key key' → Agrees (.deleteObject key) (.deleteObject key')

/-- The expected request agrees with the actual one: it is of the same operation, and bucket and
arguments agree. -/
def Request.Agrees (e r : Request) : Prop := StandsFor e.bucket r.bucket ∧ e.action.Agrees r.action

theorem Action.Agrees.operation_eq {a b : Action} (h : a.Agrees b) : a.operation = b.operation := by
  cases h <;> rfl

/-- No key is written twice, and the bucket is under a key of its own. -/
theorem Request.nodup_keys (bucket : String) (a : Action) :
    ((("Bucket", Json.string bucket) :: details a).map (·.1)).Nodup := by
  cases a with
  | createBucket location => cases location <;> simp [details, optional]
  | listObjects beginning => cases beginning <;> simp [details, optional]
  | _ => simp [details]

/-- An argument that may be left out is expected to be left out, or accepted where it is given. -/
theorem Request.acceptsEach_optional_iff {write : String → Json}
    (hwrite : ∀ e a, Pattern.accepts (write e) (write a) = true ↔ StandsFor e a) (key : String)
    (e a : Option String) :
    AcceptsEach (optional key (e.map write)) (optional key (a.map write)) ↔
      Option.Rel StandsFor e a := by
  cases e with
  | none =>
      cases a with
      | none => exact iff_of_true Pattern.acceptsEach_nil .none
      | some a => exact iff_of_false Pattern.not_acceptsEach_nil_cons nofun
  | some e =>
      cases a with
      | none => exact iff_of_false Pattern.not_acceptsEach_cons_nil nofun
      | some a =>
          change AcceptsEach [(key, write e)] [(key, write a)] ↔ _
          rw [Pattern.acceptsEach_cons_iff rfl rfl, hwrite, Option.rel_some_some]
          exact and_iff_left Pattern.acceptsEach_nil

theorem Request.acceptsEach_text_iff (key e a : String) :
    AcceptsEach [(key, .string e)] [(key, .string a)] ↔ StandsFor e a := by
  rw [Pattern.acceptsEach_cons_iff rfl rfl, Pattern.accepts_text_iff]
  exact and_iff_left Pattern.acceptsEach_nil

/-- Actions of one operation agree if their parameters are accepted key by key. -/
theorem Action.agrees_iff {e a : Action} (h : e.operation = a.operation) :
    e.Agrees a ↔ AcceptsEach (Request.details e) (Request.details a) := by
  cases e with
  | createBucket location =>
      cases a with
      | createBucket location' =>
          refine Iff.trans ⟨?_, .createBucket⟩
            (Request.acceptsEach_optional_iff ?_ _ location location').symm
          · intro hagrees
            cases hagrees with | createBucket hlocation => exact hlocation
          · intro e a
            rw [Pattern.accepts_record_iff (by simp) (by simp), Request.acceptsEach_text_iff]
      | _ => simp [operation] at h
  | headBucket =>
      cases a with
      | headBucket => exact iff_of_true .headBucket Pattern.acceptsEach_nil
      | _ => simp [operation] at h
  | deleteBucket =>
      cases a with
      | deleteBucket => exact iff_of_true .deleteBucket Pattern.acceptsEach_nil
      | _ => simp [operation] at h
  | putObject key body =>
      cases a with
      | putObject key' body' =>
          simp only [Request.details]
          rw [Pattern.acceptsEach_cons_iff rfl rfl, Request.acceptsEach_text_iff,
            Pattern.accepts_text_iff]
          constructor
          · intro hagrees
            cases hagrees with | putObject hkey hbody => exact ⟨hkey, hbody⟩
          · rintro ⟨hkey, hbody⟩
            exact .putObject hkey hbody
      | _ => simp [operation] at h
  | getObject key =>
      cases a with
      | getObject key' =>
          simp only [Request.details, Request.acceptsEach_text_iff]
          refine ⟨fun hagrees => ?_, .getObject⟩
          cases hagrees with | getObject hkey => exact hkey
      | _ => simp [operation] at h
  | listObjects beginning =>
      cases a with
      | listObjects beginning' =>
          refine Iff.trans ⟨?_, .listObjects⟩
            (Request.acceptsEach_optional_iff ?_ _ beginning beginning').symm
          · intro hagrees
            cases hagrees with | listObjects hbeginning => exact hbeginning
          · exact fun _ _ => Pattern.accepts_text_iff
      | _ => simp [operation] at h
  | deleteObject key =>
      cases a with
      | deleteObject key' =>
          simp only [Request.details, Request.acceptsEach_text_iff]
          refine ⟨fun hagrees => ?_, .deleteObject⟩
          cases hagrees with | deleteObject hkey => exact hkey
      | _ => simp [operation] at h

/-- A call that carries a request is expected by the stub of another exactly if the two agree. -/
theorem Request.agrees_iff {e r : Request} :
    e.Agrees r ↔ e.operation = r.operation ∧ Pattern.accepts e.params r.params = true := by
  have hfree (bucket : String) (a : Action) : (details a).lookup "Bucket" = none :=
    Entries.lookup_eq_none_of_not_mem (List.nodup_cons.mp (nodup_keys bucket a)).1
  rw [params, params, Pattern.accepts_record_iff (nodup_keys ..) (nodup_keys ..),
    Pattern.acceptsEach_cons_iff (hfree e.bucket _) (hfree r.bucket _), Pattern.accepts_text_iff]
  constructor
  · rintro ⟨hbucket, haction⟩
    exact ⟨haction.operation_eq, hbucket, (Action.agrees_iff haction.operation_eq).mp haction⟩
  · rintro ⟨hop, hbucket, hdetails⟩
    exact ⟨hbucket, (Action.agrees_iff hop).mpr hdetails⟩

/-! ### A stub and a request -/

/-- A failure that is not about a bucket that is absent reaches the test. -/
theorem Action.read_fault_of_not_absent {cause : Fault} (h : Handle.meansAbsent cause = false)
    (a : Action) : a.read (.fault cause) = .fault cause := by
  rw [Action.read, h]
  exact if_neg fun hboth => Bool.false_ne_true hboth.2

variable {β υ : Type} [Service β]

section

variable {c : Client} {w : World β υ} {t : Taped} {rest : List StubbedCall} {r : Request}

theorem Taped.expects_iff : t.call.Expects r.operation r.params ↔ t.stub.request.Agrees r :=
  Request.agrees_iff.symm

/-- A request that agrees with the stub at the head is answered by it. -/
theorem effect_make_of_agrees (hsupp : c.supports r.operation = true)
    (hactive : (c.stubs w).active = true) (hcalls : (c.stubs w).calls = t.call :: rest)
    (h : t.stub.request.Agrees r) :
    (r.make c).effect w =
      (r.action.read t.call.reply.outcome, w.withQueue c.queue (c.stubs w).pop) := by
  rw [Request.effect_make,
    Client.effect_call_of_expects hsupp hactive hcalls (Taped.expects_iff.mpr h)]

/-- Any other request is refused, and changes nothing. -/
theorem effect_make_of_not_agrees (hsupp : c.supports r.operation = true)
    (hactive : (c.stubs w).active = true) (hcalls : (c.stubs w).calls = t.call :: rest)
    (h : ¬ t.stub.request.Agrees r) :
    ((r.make c).effect w).2 = w ∧
      (t.stub.request.operation ≠ r.operation → ((r.make c).effect w).1 =
        .fault (.unexpectedCall t.stub.request.operation r.operation)) ∧
      (t.stub.request.operation = r.operation → ((r.make c).effect w).1 =
        .fault (.paramMismatch r.operation t.stub.request.params r.params)) := by
  rw [Request.effect_make,
    Client.effect_call_active c r.operation r.params w hsupp hactive]
  obtain ⟨hsame, hother, hparams⟩ :=
    (Queue.answers_next r.operation r.params (c.stubs w)).refusal hcalls
      (mt Taped.expects_iff.mp h)
  refine ⟨?_, fun hne => ?_, fun heq => ?_⟩
  · rw [hsame, Client.withQueue_stubs]
  · rw [hother hne]
    exact Action.read_fault_of_not_absent rfl r.action
  · obtain ⟨e, hsome, hfault⟩ := hparams heq
    cases hsome
    rw [hfault]
    exact Action.read_fault_of_not_absent rfl r.action

end

omit [Service β] in
/-- A stub that is queued where nothing is queued is alone on the queue. -/
theorem Stub.effect_queue_alone {s : Stubber} (huse : s.useStubs = true) {w : World β υ}
    (hempty : (s.client.stubs w).calls = []) (stub : Stub)
    (hstub : s.client.supports stub.request.operation = true) (code : Option String) :
    let queued := (stub.queue s code).effect w
    queued.1 = .ok () ∧ (s.client.stubs queued.2).active = (s.client.stubs w).active ∧
      (s.client.stubs queued.2).calls = [Taped.call ⟨stub, code⟩] := by
  intro queued
  have hqueued : queued = (.ok (), w.push s.client.queue (Taped.call ⟨stub, code⟩)) :=
    Stubber.effect_stub w huse hstub ..
  have hstubs : s.client.stubs queued.2 = (s.client.stubs w).push (Taped.call ⟨stub, code⟩) := by
    rw [hqueued]
    exact s.client.stubs_withQueue_self w _
  rw [hstubs]
  refine ⟨congrArg Prod.fst hqueued, rfl, ?_⟩
  change (s.client.stubs w).calls ++ [Taped.call ⟨stub, code⟩] = _
  rw [hempty, List.nil_append]

/-- A stub that is alone on the queue of an active client answers a request exactly if the request
agrees with its own in every argument. Any other request is refused, for its operation if that is
another one and otherwise for its parameters, and the stub stays. -/
theorem stub_answers_iff_agrees {s : Stubber} (huse : s.useStubs = true) {w : World β υ}
    (hactive : (s.client.stubs w).active = true) (hempty : (s.client.stubs w).calls = [])
    (stub : Stub) (hstub : s.client.supports stub.request.operation = true) (code : Option String)
    (r : Request) (hcall : s.client.supports r.operation = true) :
    let queued := (stub.queue s code).effect w
    let made := (r.make s.client).effect queued.2
    let before := s.client.stubs queued.2
    let after := s.client.stubs made.2
    queued.1 = .ok () ∧ before.calls = [Taped.call ⟨stub, code⟩] ∧
    ((after.calls = [] ∧ after.consumed = before.consumed + 1) ↔ stub.request.Agrees r) ∧
    (stub.request.Agrees r →
      made.1 = r.action.read (Stubber.reply stub.response code).outcome) ∧
    (¬ stub.request.Agrees r → made.2 = queued.2 ∧
      (stub.request.operation ≠ r.operation →
        made.1 = .fault (.unexpectedCall stub.request.operation r.operation)) ∧
      (stub.request.operation = r.operation →
        made.1 = .fault (.paramMismatch r.operation stub.request.params r.params))) := by
  intro queued made before after
  obtain ⟨hok, hkeeps, hcalls⟩ := Stub.effect_queue_alone huse hempty stub hstub code
  have hlive : before.active = true := hkeeps.trans hactive
  refine ⟨hok, hcalls, ?_⟩
  by_cases hagrees : stub.request.Agrees r
  · have hmade : made = _ := effect_make_of_agrees hcall hlive hcalls hagrees
    have hafter : after = before.pop := by
      change s.client.stubs made.2 = _
      rw [hmade, Client.stubs_withQueue_self]
    refine ⟨iff_of_true ?_ hagrees, fun _ => congrArg Prod.fst hmade, fun h => absurd hagrees h⟩
    rw [hafter]
    exact ⟨congrArg List.tail hcalls, rfl⟩
  · have hrefused := effect_make_of_not_agrees hcall hlive hcalls hagrees
    refine ⟨iff_of_false ?_ hagrees, fun h => absurd h hagrees, fun _ => hrefused⟩
    have hafter : after = before := congrArg s.client.stubs hrefused.1
    rw [hafter, hcalls]
    exact fun h => List.cons_ne_nil _ _ h.1

/-- A listing that is expected with any beginning answers one with the empty beginning, but not one
without a beginning. -/
theorem stub_answers_iff_agrees_beginning :
    let s : Stubber := stubber ⟨serviceName, "r", operations, 0, 0⟩ true
    let w : World Store Unit := (World.fresh ()).withQueue 0 { active := true }
    let stub : Stub := .listObjects "b" ["k", "k"] (some Pattern.wildcard)
    let queued := (stub.queue s none).effect w
    let list : Option String → Outcome Value × World Store Unit := fun beginning =>
      (Request.make s.client ⟨"b", .listObjects beginning⟩).effect queued.2
    s.useStubs = true ∧ (s.client.stubs w).active = true ∧ (s.client.stubs w).calls = [] ∧
    s.client.supports "ListObjects" = true ∧
    (list (some "")).1 = .ok (.listing ["k", "k"]) ∧
    (list none).2 = queued.2 ∧
    (list none).1 = .fault (.paramMismatch "ListObjects" stub.request.params
      (Request.params ⟨"b", .listObjects none⟩)) := by
  intro s w stub queued list
  have huse : s.useStubs = true := rfl
  have hactive : (s.client.stubs w).active = true := rfl
  have hempty : (s.client.stubs w).calls = [] := rfl
  have hsupp : s.client.supports "ListObjects" = true := rfl
  have hblank : stub.request.Agrees ⟨"b", .listObjects (some "")⟩ :=
    ⟨.inl rfl, .listObjects (.some (.inr rfl))⟩
  have habsent : ¬ stub.request.Agrees ⟨"b", .listObjects none⟩ := by
    rintro ⟨-, haction⟩
    cases haction with
    | listObjects h => cases h
  refine ⟨huse, hactive, hempty, hsupp, ?_, ?_⟩
  · have hmade := stub_answers_iff_agrees huse hactive hempty stub hsupp none
      ⟨"b", .listObjects (some "")⟩ hsupp
    exact (hmade.2.2.2.1 hblank).trans
      (congrArg (fun keys => Outcome.ok (Value.listing keys)) (Response.keys_listing _))
  · have hmade := stub_answers_iff_agrees huse hactive hempty stub hsupp none
      ⟨"b", .listObjects none⟩ hsupp
    obtain ⟨hsame, -, hparams⟩ := hmade.2.2.2.2 habsent
    exact ⟨hsame, hparams rfl⟩

end Storage

end ServiceDoubles
