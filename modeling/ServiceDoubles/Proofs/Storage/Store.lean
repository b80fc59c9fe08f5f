import ServiceDoubles.Proofs.Effect
import ServiceDoubles.Storage.Store

/-!
# ServiceDoubles.Proofs.Storage.Store

The effect of a **call on a store**. Whatever its operation and parameters are, a call does what
`Store.answerTo` says, and a call that is written as a request is answered as that request.
-/

namespace ServiceDoubles

/-- Of the fields with one key the last one counts. -/
theorem Json.field?_record (key : String) (fields : List (String × Json)) :
    (record fields).field? key = fields.reverse.lookup key := by
  have hfold (sorted : List (String × Json)) :
      (fields.foldl (fun sorted f => Entries.insert f.1 f.2 sorted) sorted).lookup key =
        (fields.reverse ++ sorted).lookup key := by
    induction fields generalizing sorted with
    | nil => rfl
    | cons f rest ih =>
        rw [List.foldl_cons, ih, List.reverse_cons, List.append_assoc, List.lookup_append,
          List.lookup_append, Entries.lookup_insert, List.singleton_append, List.lookup_cons]
        grind
  rw [record, field?, hfold, List.append_nil]

namespace Storage

/-! ### Requests are read as they are written -/

theorem Request.field_params (r : Request) (key : String) :
    r.params.field key =
      (((details r.action).reverse ++ [("Bucket", Json.string r.bucket)]).lookup key).getD
        .null := by
  rw [params, Json.field, Json.field?_record, List.reverse_cons]

theorem Request.required_bucket (r : Request) : required "Bucket" r.params = .ok r.bucket := by
  rw [required, field_params]
  cases r.action with
  | createBucket location => cases location <;> rfl
  | listObjects beginning => cases beginning <;> rfl
  | _ => rfl

theorem Action.decode_params (r : Request) : decode r.operation r.params = .ok r.action := by
  obtain ⟨bucket, action⟩ := r
  cases action with
  | createBucket location =>
      simp only [Request.operation, operation, decode, Request.field_params]
      cases location <;> rfl
  | headBucket => rfl
  | deleteBucket => rfl
  | putObject key body =>
      simp only [Request.operation, operation, decode, Request.required, Request.field_params]
      rfl
  | getObject key =>
      simp only [Request.operation, operation, decode, Request.required, Request.field_params]
      rfl
  | listObjects beginning =>
      simp only [Request.operation, operation, decode, Request.field_params]
      cases beginning <;> rfl
  | deleteObject key =>
      simp only [Request.operation, operation, decode, Request.required, Request.field_params]
      rfl

/-! ### Calls -/

namespace Store

/-- What a store answers to a call, with the store after it, or why it fails. -/
def answerTo (s : Store) (operation : String) (params : Json) : Except Fault (Json × Store) := do
  let bucket ← Request.required "Bucket" params
  let action ← Action.decode operation params
  s.answer ⟨bucket, action⟩

theorem answerTo_request (s : Store) (r : Request) :
    s.answerTo r.operation r.params = s.answer r := by
  rw [answerTo, Request.required_bucket, Action.decode_params]
  rfl

/-- The answer of a call: the response, or the fault. -/
def outcomeOf (answer : Except Fault (Json × Store)) : Outcome Json :=
  .ofExcept (answer.map (·.1))

/-- The store after a call. A call that fails leaves it as it was. -/
def after (s : Store) : Except Fault (Json × Store) → Store
  | .ok (_, s') => s'
  | .error _ => s

theorem effect_perform (r : Request) (s : Store) :
    (perform r).effect s = (outcomeOf (s.answer r), s.after (s.answer r)) := by
  simp only [Act.effect, perform]
  cases s.answer r with
  | ok reply => rfl
  | error cause => rfl

theorem effect_call (operation : String) (params : Json) (s : Store) :
    (call operation params).effect s =
      (outcomeOf (s.answerTo operation params), s.after (s.answerTo operation params)) := by
  simp only [call, Act.effect_bind, Act.effect_ofExcept, answerTo]
  cases Request.required "Bucket" params with
  | error cause => rfl
  | ok bucket =>
      simp only [Outcome.ofExcept, Act.goOn_ok]
      cases Action.decode operation params with
      | error cause => rfl
      | ok action => exact effect_perform ⟨bucket, action⟩ s

/-- A call is answered as the request that its parameters are read as. -/
theorem answerTo_of_reads (s : Store) {operation bucket : String} {params : Json} {action : Action}
    (hbucket : Request.required "Bucket" params = .ok bucket)
    (haction : Action.decode operation params = .ok action) :
    s.answerTo operation params = s.answer ⟨bucket, action⟩ := by
  rw [answerTo, hbucket, haction]
  rfl

theorem run_call_request (r : Request) (s : Store) :
    (call r.operation r.params).run s =
      ⟨outcomeOf (s.answer r), s.after (s.answer r), [callEvent r.operation r.bucket]⟩ := by
  rw [call, Request.required_bucket, Action.decode_params,
    Act.run_bind_of_ok (Act.run_ofExcept (.ok r.bucket) s),
    Act.run_bind_of_ok (Act.run_report ..),
    Act.run_bind_of_ok (Act.run_ofExcept (.ok r.action) s)]
  change (⟨((perform r).run s).outcome, ((perform r).run s).state,
    [callEvent r.operation r.bucket] ++ ([] ++ ((perform r).run s).events)⟩ : Run Store Json) = _
  simp only [Act.run, perform]
  cases s.answer r <;> rfl

end Store

end Storage

end ServiceDoubles
