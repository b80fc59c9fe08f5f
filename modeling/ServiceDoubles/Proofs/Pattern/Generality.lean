import ServiceDoubles.Proofs.Client.Acceptance
import ServiceDoubles.Proofs.Pattern

/-!
# ServiceDoubles.Proofs.Pattern.Generality

Expectations **ordered by how general they are**: `e` is at least as general as `f` if it accepts
`f`, where `f` stands as a value. The reserved text occurs on both sides of that relation. In the
more general expectation it accepts anything, and in the other one it is a text like any other.

`accepts_trans` makes an order of it, and `accepts_plug` carries the order from a part of a value to
the whole. What becomes of a queue whose stubs are made more general is then one step lemma
(`Client.exists_effect_call_of_weakens`) and an induction on the calls.
-/

namespace ServiceDoubles

namespace Pattern

open List (Forall₂)

/-! ### The order -/

/-- Values that are the same accept each other. -/
theorem accepts_of_same {e f : Json} (h : e.same f = true) : accepts e f = true := by
  induction e using Json.induction generalizing f with
  | null => exact h
  | bool b => exact h
  | number n => exact h
  | string s =>
      rw [accepts, h, Bool.or_true]
  | array items ih =>
      obtain ⟨fs, rfl, hfs⟩ := Json.same_array_iff.mp h
      exact accepts_array_iff.mpr ⟨fs, rfl, forall₂_imp_of_mem hfs fun v hv _ _ => ih v hv⟩
  | object fields ih =>
      obtain ⟨fs, rfl, hfs⟩ := Json.same_object_iff.mp h
      refine accepts_object_iff.mpr ⟨fs, rfl, forall₂_imp_of_mem hfs ?_⟩
      rintro f hf g - ⟨hkey, hsame⟩
      exact ⟨hkey, ih f hf hsame⟩

/-- What accepts an expectation accepts all that the expectation accepts. -/
theorem accepts_trans {e f a : Json} (hef : accepts e f = true) (hfa : accepts f a = true) :
    accepts e a = true := by
  induction e using Json.induction generalizing f a with
  | null =>
      obtain rfl := accepts_null_iff.mp hef
      exact hfa
  | bool b =>
      obtain rfl := accepts_bool_iff.mp hef
      exact hfa
  | number n =>
      obtain ⟨m, rfl, hnm⟩ := accepts_number_iff.mp hef
      obtain ⟨k, rfl, hmk⟩ := accepts_number_iff.mp hfa
      exact accepts_number_iff.mpr ⟨k, rfl, Number.same_trans hnm hmk⟩
  | string s =>
      -- Only the reserved text accepts the reserved text, so the value in the middle is no wildcard
      -- unless the one in front is.
      rcases accepts_string_iff.mp hef with rfl | rfl
      · exact accepts_any a
      · exact hfa
  | array items ih =>
      obtain ⟨fs, rfl, hfs⟩ := accepts_array_iff.mp hef
      obtain ⟨as, rfl, has⟩ := accepts_array_iff.mp hfa
      refine accepts_array_iff.mpr ⟨as, rfl, ?_⟩
      refine forall₂_trans_of_mem hfs has ?_
      intro x hx y z hxy hyz
      exact ih x hx hxy hyz
  | object fields ih =>
      obtain ⟨fs, rfl, hfs⟩ := accepts_object_iff.mp hef
      obtain ⟨as, rfl, has⟩ := accepts_object_iff.mp hfa
      refine accepts_object_iff.mpr ⟨as, rfl, ?_⟩
      refine forall₂_trans_of_mem hfs has ?_
      rintro x hx y z ⟨hxy, hacc⟩ ⟨hyz, hacc'⟩
      exact ⟨hxy.trans hyz, ih x hx hacc hacc'⟩

/-- Expectations that accept each other are the same. -/
theorem same_of_accepts {e f : Json} (hef : accepts e f = true) (hfe : accepts f e = true) :
    e.same f = true := by
  induction e using Json.induction generalizing f with
  | null => exact hef
  | bool b => exact hef
  | number n => exact hef
  | string s =>
      rcases accepts_string_iff.mp hef with rfl | rfl
      · cases f with
        | string t =>
            rcases accepts_string_iff.mp hfe with rfl | ht
            · exact Json.same_self _
            · exact ht ▸ Json.same_self _
        | _ => cases hfe
      · exact Json.same_self _
  | array items ih =>
      obtain ⟨fs, rfl, hfs⟩ := accepts_array_iff.mp hef
      obtain ⟨es, hes, hback⟩ := accepts_array_iff.mp hfe
      cases hes
      refine Json.same_array_iff.mpr ⟨fs, rfl, ?_⟩
      refine Forall₂.mp ?_ ((List.forall₂_and_left _ _).mpr ⟨ih, hfs⟩) hback.flip
      rintro v w ⟨ihv, hvw⟩ hwv
      exact ihv hvw hwv
  | object fields ih =>
      obtain ⟨fs, rfl, hfs⟩ := accepts_object_iff.mp hef
      obtain ⟨es, hes, hback⟩ := accepts_object_iff.mp hfe
      cases hes
      refine Json.same_object_iff.mpr ⟨fs, rfl, ?_⟩
      refine Forall₂.mp ?_ ((List.forall₂_and_left _ _).mpr ⟨ih, hfs⟩) hback.flip
      rintro v w ⟨ihv, hkey, hvw⟩ ⟨-, hwv⟩
      exact ⟨hkey, ihv hvw hwv⟩

/-! ### Parts of an expectation -/

/-- A value with a hole in the place of one of its parts. -/
inductive Context where
  /-- The hole alone. -/
  | hole
  /-- The hole is in an item of an array. -/
  | item (before : List Json) (inner : Context) (after : List Json)
  /-- The hole is in the value of a field. -/
  | field (before : List (String × Json)) (key : String) (inner : Context)
      (after : List (String × Json))

/-- The value with `v` in the hole. -/
def Context.plug (v : Json) : Context → Json
  | .hole => v
  | .item before inner after => .array (before ++ inner.plug v :: after)
  | .field before key inner after => .object (before ++ (key, inner.plug v) :: after)

/-- A value with a more general part is more general. -/
theorem accepts_plug (C : Context) {g v : Json} (h : accepts g v = true) :
    accepts (C.plug g) (C.plug v) = true := by
  have hitems (items : List Json) : Forall₂ (fun e a => accepts e a = true) items items :=
    List.forall₂_same.mpr fun e _ => accepts_self e
  have hfields (fields : List (String × Json)) :
      Forall₂ (fun e a => e.1 = a.1 ∧ accepts e.2 a.2 = true) fields fields :=
    List.forall₂_same.mpr fun e _ => ⟨rfl, accepts_self e.2⟩
  induction C with
  | hole => exact h
  | item before inner after ih =>
      exact accepts_array_iff.mpr ⟨_, rfl, List.rel_append (hitems before) (.cons ih (hitems after))⟩
  | field before key inner after ih =>
      exact accepts_object_iff.mpr
        ⟨_, rfl, List.rel_append (hfields before) (.cons ⟨rfl, ih⟩ (hfields after))⟩

end Pattern

/-! ### Stubs that expect less -/

/-- The stub `weak` is the stub `strict` with expected parameters that are at least as general. -/
structure StubbedCall.Weakens (weak strict : StubbedCall) : Prop where
  operation_eq : weak.operation = strict.operation
  reply_eq : weak.reply = strict.reply
  /-- Without expected parameters all are accepted. -/
  expected : ∀ g, weak.expected = some g →
    ∃ e, strict.expected = some e ∧ Pattern.accepts g e = true

/-- A weaker stub expects all the calls that the stub expects. -/
theorem StubbedCall.Weakens.matches {weak strict : StubbedCall} (h : weak.Weakens strict)
    {call : Call} (hmatch : strict.Matches call) : weak.Matches call := by
  refine ⟨h.operation_eq.trans hmatch.1, ?_⟩
  cases hsome : weak.expected with
  | none => simp only [accepts, hsome]
  | some g =>
      obtain ⟨e, he, hge⟩ := h.expected g hsome
      have hstrict := hmatch.2
      rw [accepts_of_expected_some he] at hstrict
      rw [accepts_of_expected_some hsome]
      exact Pattern.accepts_trans hge hstrict

/-- Weaker stubs are for the same operations. -/
theorem StubbedCall.operations_of_weakens {weak strict : List StubbedCall}
    (h : List.Forall₂ Weakens weak strict) :
    weak.map (·.operation) = strict.map (·.operation) := by
  induction h with
  | nil => rfl
  | cons hc _ ih => rw [List.map_cons, List.map_cons, hc.operation_eq, ih]

/-- What is left over is told by the names alone. -/
theorem Queue.checkDone_congr {q q' : Queue} (h : q.pending = q'.pending) :
    q.checkDone = q'.checkDone := by
  have hempty : q.calls.isEmpty = q'.calls.isEmpty := by
    simpa [pending] using congrArg List.isEmpty h
  rw [checkDone, checkDone, hempty, h]

/-! ### Runs on weaker stubs -/

namespace Client

variable {β υ : Type} {c : Client} {w : World β υ} {weaker : List StubbedCall}

/-- The world with other stubs for the client. -/
def withStubs (c : Client) (stubs : List StubbedCall) (w : World β υ) : World β υ :=
  w.withQueue c.queue { c.stubs w with calls := stubs }

theorem stubs_withStubs (c : Client) (stubs : List StubbedCall) (w : World β υ) :
    c.stubs (c.withStubs stubs w) = { c.stubs w with calls := stubs } :=
  c.stubs_withQueue_self ..

variable [Service β]

/-- A call that is not rejected is answered alike on weaker stubs, and leaves weaker stubs. -/
theorem exists_effect_call_of_weakens
    (hweak : List.Forall₂ StubbedCall.Weakens weaker (c.stubs w).calls) {call : Call}
    {o : Outcome Json} {w₁ : World β υ}
    (heff : (c.call call.operation call.params).effect w = (o, w₁)) (ho : o.isRejection = false) :
    ∃ left, List.Forall₂ StubbedCall.Weakens left (c.stubs w₁).calls ∧
      (c.call call.operation call.params).effect (c.withStubs weaker w) =
        (o, c.withStubs left w₁) := by
  have hactive : (c.stubs (c.withStubs weaker w)).active = (c.stubs w).active := by
    rw [stubs_withStubs]
  cases hsupp : c.supports call.operation with
  | false =>
      rw [effect_call_unsupported c _ _ w hsupp] at heff
      cases heff
      cases ho
  | true =>
      cases ha : (c.stubs w).active with
      | false =>
          -- The service answers, and does not know of the stubs.
          rw [effect_call_inactive c _ _ w hsupp ha] at heff
          cases heff
          refine ⟨weaker, hweak, ?_⟩
          rw [effect_call_inactive c _ _ _ hsupp (hactive.trans ha)]
          rfl
      | true =>
          rcases call_cases ha call with ⟨e, rest, -, hcalls, hexp, hreply⟩ | ⟨r, -, hrej, hsame⟩
          · rw [hcalls] at hweak
            cases hweak with
            | @cons weak _ left _ he hrest =>
              rw [hreply] at heff
              cases heff
              have hhead : (c.stubs (c.withStubs (weak :: left) w)).calls = weak :: left := by
                rw [stubs_withStubs]
              refine ⟨left, ?_, ?_⟩
              · rw [stubs_withQueue_self, Queue.pop_eq_of_calls hcalls]
                exact hrest
              · rw [effect_call_of_expects hsupp (hactive.trans ha) hhead (he.matches hexp),
                  he.reply_eq, stubs_withStubs]
                simp only [withStubs, stubs_withQueue_self, World.withQueue_withQueue, Queue.pop,
                  List.tail_cons]
          · rw [hsame] at heff
            cases heff
            rw [hrej] at ho
            cases ho

/-- Calls of which none is rejected are answered alike on weaker stubs. -/
theorem exists_callEach_of_weakens
    (hweak : List.Forall₂ StubbedCall.Weakens weaker (c.stubs w).calls) {calls : List Call}
    (hok : ∀ o ∈ (c.callEach calls w).1, o.isRejection = false) :
    ∃ left, List.Forall₂ StubbedCall.Weakens left (c.stubs (c.callEach calls w).2).calls ∧
      c.callEach calls (c.withStubs weaker w) =
        ((c.callEach calls w).1, c.withStubs left (c.callEach calls w).2) := by
  induction calls generalizing w weaker with
  | nil => exact ⟨weaker, hweak, rfl⟩
  | cons call calls ih =>
      rcases heff : (c.call call.operation call.params).effect w with ⟨o, w₁⟩
      rw [callEach_cons heff] at hok ⊢
      have ho := hok o List.mem_cons_self
      obtain ⟨mid, hmid, heff'⟩ := exists_effect_call_of_weakens hweak heff ho
      obtain ⟨left, hleft, hrest⟩ := ih hmid fun r hr => hok r (List.mem_cons_of_mem _ hr)
      refine ⟨left, hleft, ?_⟩
      rw [callEach_cons heff', hrest]

end Client

namespace Pattern

open Client (withStubs)

/-- To be at least as general is an order on expectations, up to sameness, with the wildcard on top,
and it goes from a part of an expectation to the whole: an expectation with a more general part
accepts all that it accepted before.

So stubs with more general expectations, or with none, take every sequence of calls that the stubs
took, with the same answers and the same operations left over. -/
theorem generality_order :
    (∀ e, accepts e e = true) ∧
    (∀ e f a, accepts e f = true → accepts f a = true → accepts e a = true) ∧
    (∀ e f, (accepts e f = true ∧ accepts f e = true) ↔ e.same f = true) ∧
    (∀ a, accepts any a = true) ∧
    (∀ (C : Context) (g v a : Json), accepts g v = true → accepts (C.plug v) a = true →
      accepts (C.plug g) a = true ∧ accepts (C.plug any) a = true) ∧
    ∀ (β υ : Type) [Service β] (c : Client) (w : World β υ) (weaker : List StubbedCall)
      (calls : List Call),
      List.Forall₂ StubbedCall.Weakens weaker (c.stubs w).calls →
      (∀ o ∈ (c.callEach calls w).1, o.isRejection = false) →
      let r := c.callEach calls w
      let r' := c.callEach calls (c.withStubs weaker w)
      r'.1 = r.1 ∧
      List.Forall₂ StubbedCall.Weakens (c.stubs r'.2).calls (c.stubs r.2).calls ∧
      (c.stubs r'.2).checkDone = (c.stubs r.2).checkDone ∧
      r'.2.services = r.2.services := by
  refine ⟨accepts_self, fun e f a => accepts_trans, fun e f => ⟨?_, ?_⟩, accepts_any, ?_, ?_⟩
  · rintro ⟨hef, hfe⟩
    exact same_of_accepts hef hfe
  · intro h
    exact ⟨accepts_of_same h, accepts_of_same (Json.same_symm h)⟩
  · intro C g v a hgv hva
    have hany : accepts any v = true := accepts_any v
    exact ⟨accepts_trans (accepts_plug C hgv) hva, accepts_trans (accepts_plug C hany) hva⟩
  · intro β υ _ c w weaker calls hweak hok r r'
    obtain ⟨left, hleft, hrun⟩ := Client.exists_callEach_of_weakens hweak hok
    have hrun' : r' = (r.1, c.withStubs left r.2) := hrun
    rw [hrun', Client.stubs_withStubs]
    exact ⟨rfl, hleft, Queue.checkDone_congr (StubbedCall.operations_of_weakens hleft), rfl⟩

/-- Two stubs, of which the first is left without expected parameters and the second takes any bucket
afterwards. -/
theorem generality_order_two :
    let c : Client := ⟨"s3", "r", ["HeadBucket", "PutObject"], 0, 0⟩
    let C : Context := .field [] "Bucket" .hole [("Key", .string "key")]
    let params := C.plug (.string "bucket")
    let reply : Reply := .response .null
    let stubs : List StubbedCall :=
      [⟨"HeadBucket", some (.string "bucket"), reply⟩, ⟨"PutObject", some params, .failure "E" ""⟩]
    let weaker : List StubbedCall :=
      [⟨"HeadBucket", none, reply⟩, ⟨"PutObject", some (C.plug any), .failure "E" ""⟩]
    let w : World Storage.Store Unit := (World.fresh ()).withQueue 0 ⟨true, stubs, 0⟩
    let calls : List Call := [⟨"HeadBucket", .string "bucket"⟩, ⟨"PutObject", params⟩]
    accepts any (.string "bucket") = true ∧ accepts params params = true ∧
      accepts (C.plug any) params = true ∧
      List.Forall₂ StubbedCall.Weakens weaker (c.stubs w).calls ∧
      (∀ o ∈ (c.callEach calls w).1, o.isRejection = false) ∧
      (c.callEach calls (c.withStubs weaker w)).1 = (c.callEach calls w).1 := by
  intro c C params reply stubs weaker w calls
  obtain ⟨hrefl, -, -, hany, hplug, hrun⟩ := generality_order
  have hbucket : accepts any (.string "bucket") = true := hany _
  have hparams : accepts (C.plug any) params = true := (hplug C any _ params hbucket (hrefl _)).1
  have hweak : List.Forall₂ StubbedCall.Weakens weaker (c.stubs w).calls := by
    refine .cons ⟨rfl, rfl, ?_⟩ (.cons ⟨rfl, rfl, ?_⟩ .nil)
    · intro g hg
      cases hg
    · intro g hg
      cases hg
      exact ⟨params, rfl, hparams⟩
  have hok : ∀ o ∈ (c.callEach calls w).1, o.isRejection = false := by decide
  exact ⟨hbucket, hrefl _, hparams, hweak, hok, (hrun _ _ c w weaker calls hweak hok).1⟩

end Pattern

end ServiceDoubles
