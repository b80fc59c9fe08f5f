import ServiceDoubles.Proofs.Storage.History
import ServiceDoubles.Proofs.Storage.Matching
import ServiceDoubles.Proofs.Text.ByteOrder

/-!
# ServiceDoubles.Proofs.Storage.Listing

What **listings** show of a bucket: the keys of its objects, all or those with a given beginning, in
the order of their bytes and each once. A client reads from the response the keys that were put
into it, whoever put them there.
-/

namespace ServiceDoubles

theorem Text.isPrefixOf_toList_iff {beginning s : String} :
    beginning.toList.isPrefixOf s.toList = true ↔ ∃ rest, s = beginning ++ rest := by
  rw [List.isPrefixOf_iff_prefix]
  constructor
  · rintro ⟨rest, h⟩
    refine ⟨String.ofList rest, String.toList_inj.mp ?_⟩
    rw [String.toList_append, String.toList_ofList, h]
  · rintro ⟨rest, rfl⟩
    rw [String.toList_append]
    exact List.prefix_append ..

namespace Storage

/-! ### The keys of a bucket -/

namespace Store

theorem keysFrom_none (b : Bucket) : keysFrom b none = b.objects.keys :=
  List.filter_eq_self.mpr fun _ _ => rfl

/-- The keys with a beginning are those among all keys, in the same order. -/
theorem keysFrom_some (b : Bucket) (beginning : String) :
    keysFrom b (some beginning) =
      (keysFrom b none).filter fun key => beginning.toList.isPrefixOf key.toList := by
  rw [keysFrom_none]
  rfl

theorem mem_keysFrom_iff {b : Bucket} {beginning : Option String} {key : String} :
    key ∈ keysFrom b beginning ↔
      (∀ p, beginning = some p → ∃ rest, key = p ++ rest) ∧ (b.objects.get? key).isSome = true := by
  cases beginning with
  | none =>
      rw [keysFrom_none, SortedMap.mem_keys_iff]
      exact (and_iff_right nofun).symm
  | some p =>
      rw [keysFrom_some, keysFrom_none, List.mem_filter, SortedMap.mem_keys_iff,
        Text.isPrefixOf_toList_iff, and_comm]
      simp

theorem ascending_keysFrom (b : Bucket) (beginning : Option String) :
    (keysFrom b beginning).Pairwise (· < ·) :=
  b.objects.keys_ascending.filter _

theorem answer_listObjects {s : Store} {bucket : String} {b : Bucket}
    (h : s.buckets.get? bucket = some b) (beginning : Option String) :
    s.answer ⟨bucket, .listObjects beginning⟩ =
      .ok (Response.listing (keysFrom b beginning), s) := by
  simp only [answer, h]

theorem effect_call_listObjects {s : Store} {bucket : String} {b : Bucket}
    (h : s.buckets.get? bucket = some b) (beginning : Option String) :
    (call "ListObjects" (Request.params ⟨bucket, .listObjects beginning⟩)).effect s =
      (.ok (Response.listing (keysFrom b beginning)), s) := by
  have heff := effect_call (Request.operation ⟨bucket, .listObjects beginning⟩)
    (Request.params ⟨bucket, .listObjects beginning⟩) s
  rw [answerTo_request, answer_listObjects h] at heff
  exact heff

end Store

/-! ### Requests that pass through -/

section

variable {β υ : Type}

theorem Handle.effect_listObjects [Service β] {h : Handle} {beginning : Option String}
    {w w' : World β υ} {o : Outcome Json}
    (hsend : (h.send (.listObjects beginning)).effect w = (o, w')) :
    (h.listObjects beginning).effect w = (o.map Response.keys, w') := by
  simp only [listObjects, Act.effect_bind, hsend]
  cases o <;> rfl

theorem Handle.effect_getObject [Service β] {h : Handle} {key : String} {w w' : World β υ}
    {o : Outcome Json} (hsend : (h.send (.getObject key)).effect w = (o, w')) :
    (h.getObject key).effect w = (o.map Response.body, w') := by
  simp only [getObject, Act.effect_bind, hsend]
  cases o <;> rfl

/-- An object can be fetched exactly if it is in the bucket. -/
theorem Handle.exists_getObject_iff {h : Handle} (hc : Serves h.client) {w : World Store υ}
    (hpass : (h.client.stubs w).active = false) {b : Bucket}
    (hfound : (w.services.read h.client.backend).buckets.get? h.name = some b) (key : String) :
    (∃ content, (h.getObject key).effect w = (.ok content, w)) ↔
      (b.objects.get? key).isSome = true := by
  have hgot := effect_getObject (effect_call_passthrough hc hpass ⟨h.name, .getObject key⟩)
  simp only [Store.answer, hfound] at hgot
  rw [hgot]
  cases b.objects.get? key with
  | none =>
      refine iff_of_false ?_ Bool.false_ne_true
      rintro ⟨content, heq⟩
      cases congrArg Prod.fst heq
  | some body =>
      refine iff_of_true ⟨body, ?_⟩ rfl
      change (Outcome.ok (Response.body (Response.content body)),
        w.withService h.client.backend (w.services.read h.client.backend)) = _
      rw [Response.body_content, World.withService_read_self]

/-- A listing that passes through gives the keys of the bucket. -/
theorem Handle.effect_listObjects_passthrough {h : Handle} (hc : Serves h.client)
    {w : World Store υ} (hpass : (h.client.stubs w).active = false) {b : Bucket}
    (hfound : (w.services.read h.client.backend).buckets.get? h.name = some b)
    (beginning : Option String) :
    (h.listObjects beginning).effect w = (.ok (Store.keysFrom b beginning), w) := by
  have hlisted :=
    effect_listObjects (effect_call_passthrough hc hpass ⟨h.name, .listObjects beginning⟩)
  rw [Store.answer_listObjects hfound] at hlisted
  rw [hlisted]
  change (Outcome.ok (Response.keys (Response.listing (Store.keysFrom b beginning))),
    w.withService h.client.backend (w.services.read h.client.backend)) = _
  rw [Response.keys_listing, World.withService_read_self]

/-! ### Requests that are stubbed -/

/-- A listing gives the keys of the stub that answers it, as they are. -/
theorem Handle.effect_listObjects_stubbed [Service β] {h : Handle}
    (hsupp : h.client.supports "ListObjects" = true) {w : World β υ}
    (hactive : (h.client.stubs w).active = true) {expected : String} {keys : List String}
    {beginning' : Option String} {rest : List StubbedCall}
    (hcalls : (h.client.stubs w).calls =
      Taped.call ⟨.listObjects expected keys beginning', none⟩ :: rest) {beginning : Option String}
    (hagrees : Request.Agrees ⟨expected, .listObjects beginning'⟩
      ⟨h.name, .listObjects beginning⟩) :
    ((h.listObjects beginning).effect w).1 = .ok keys := by
  have hsend : (h.send (.listObjects beginning)).effect w =
      (.ok (Response.listing keys), w.withQueue h.client.queue (h.client.stubs w).pop) :=
    Client.effect_call_of_expects hsupp hactive hcalls (Request.agrees_iff.mp hagrees)
  rw [effect_listObjects hsend]
  exact congrArg Outcome.ok (Response.keys_listing keys)

end

variable {β υ υ' : Type} [Service β]

/-- A listing that passes through gives, in ascending order of their bytes and each once, the keys
that begin in the way that is asked for and whose objects can be fetched. It is the listing of the
whole bucket without the other keys, and it is what the response has, with the number of the keys. A
listing that is stubbed gives the keys of the stub as they are. -/
theorem listing_law {c : Client} (hc : Serves c) :
    (∀ (w : World Store υ) (bucket : String) (beginning : Option String),
      (c.stubs w).active = false → bucket ∈ (w.services.read c.backend).names →
      let h : Handle := ⟨c, bucket⟩
      ∃ keys, (h.listObjects beginning).effect w = (.ok keys, w) ∧
        keys.Pairwise (fun a b => Text.bytes a < Text.bytes b) ∧ keys.Nodup ∧
        (∀ key, key ∈ keys ↔ (∀ p, beginning = some p → ∃ rest, key = p ++ rest) ∧
          ∃ content, (h.getObject key).effect w = (.ok content, w)) ∧
        (∀ p, beginning = some p → ∃ all, (h.listObjects none).effect w = (.ok all, w) ∧
          keys = all.filter fun key => p.toList.isPrefixOf key.toList) ∧
        ((Store.call "ListObjects" (Request.params ⟨bucket, .listObjects beginning⟩)).effect
          (w.services.read c.backend)).1 =
          .ok (.object [("Contents", .array (keys.map fun key => .object [("Key", .string key)])),
            ("KeyCount", .ofNat keys.length)])) ∧
    ∀ (s : Stubber) (w : World β υ'), s.useStubs = true → s.client = c →
      (c.stubs w).active = true → (c.stubs w).calls = [] →
      ∀ expected keys beginning' bucket beginning,
        Request.Agrees ⟨expected, .listObjects beginning'⟩ ⟨bucket, .listObjects beginning⟩ →
        let queued := ((Stub.listObjects expected keys beginning').queue s none).effect w
        (((Handle.mk c bucket).listObjects beginning).effect queued.2).1 = .ok keys := by
  constructor
  · intro w bucket beginning hpass hthere h
    obtain ⟨b, hfound⟩ := Option.isSome_iff_exists.mp (SortedMap.mem_keys_iff.mp hthere)
    have hasc := Store.ascending_keysFrom b beginning
    refine ⟨Store.keysFrom b beginning, ?_, ?_, ?_, fun key => ?_, ?_, ?_⟩
    · exact Handle.effect_listObjects_passthrough hc hpass hfound beginning
    · exact hasc.imp Text.bytes_lt_bytes_iff.mpr
    · have hne {a b : String} (hlt : a < b) : a ≠ b := by
        rintro rfl
        exact String.lt_irrefl a hlt
      exact hasc.imp hne
    · rw [Store.mem_keysFrom_iff, Handle.exists_getObject_iff hc hpass hfound]
    · rintro p rfl
      exact ⟨_, Handle.effect_listObjects_passthrough hc hpass hfound none,
        Store.keysFrom_some b p⟩
    · rw [Store.effect_call_listObjects hfound, Response.listing_eq]
      rfl
  · rintro s w huse rfl hactive hempty expected keys beginning' bucket beginning hagrees queued
    obtain ⟨-, hkeeps, hcalls⟩ :=
      Stub.effect_queue_alone huse hempty (.listObjects expected keys beginning')
        (hc (.listObjects beginning')) none
    exact Handle.effect_listObjects_stubbed (hc (.listObjects beginning)) (hkeeps.trans hactive)
      hcalls hagrees

/-- The keys that begin in some way are given in order, the key that is just the beginning first. The
keys of a stub are given as they are. -/
theorem listing_law_twice :
    let c : Client := ⟨serviceName, "r", operations, 0, 0⟩
    let h : Handle := ⟨c, "b"⟩
    let call : String → String → Call := fun operation key =>
      ⟨operation, .record [("Bucket", .string "b"), ("Key", .string key)]⟩
    let s := (Store.empty.tell [call "CreateBucket" "", call "PutObject" "éa",
      call "PutObject" "z", call "PutObject" "é"]).2
    let w : World Store Unit := (World.fresh ()).withService 0 s
    let active : World Store Unit := (World.fresh ()).withQueue 0 { active := true }
    let queued :=
      ((Stub.listObjects "b" ["k", "j", "k"] none).queue (stubber c true) none).effect active
    (h.listObjects (some "é")).effect w = (.ok ["é", "éa"], w) ∧
      ((h.listObjects none).effect queued.2).1 = .ok ["k", "j", "k"] := by
  intro c h call s w active queued
  have hc : Serves c := serves_of_operations rfl
  obtain ⟨hpassed, hstubbed⟩ := @listing_law Store Unit Unit _ c hc
  constructor
  · obtain ⟨keys, hlisted, -⟩ := hpassed w "b" (some "é") rfl (by decide)
    have hkeys : ((h.listObjects (some "é")).effect w).1 = .ok ["é", "éa"] := by
      dsimp only [w, s, h, c, call]
      rfl
    rw [hlisted] at hkeys ⊢
    exact congrArg (·, w) hkeys
  · exact hstubbed (stubber c true) active rfl rfl rfl rfl "b" ["k", "j", "k"] none "b" none
      ⟨.inl rfl, .listObjects .none⟩

end Storage

end ServiceDoubles
