import ServiceDoubles.Proofs.Storage.Store

/-!
# ServiceDoubles.Proofs.Storage.Changes

What calls **change** in a store. `Store.Changes` is all that a request can do to it
(`Store.changes_of_answer`). A store is seen through its buckets and its objects, and each action
says what it makes of the two.
-/

namespace ServiceDoubles.Storage

/-! ### What an action is read from -/

theorem Request.required_eq_ok_iff {key text : String} {params : Json} :
    required key params = .ok text ↔ (params.field key).text? = some text := by
  unfold required
  split
  next h => rw [h, Except.ok.injEq, Option.some.injEq]
  next h => simp [h]

/-- The fields that an action is read from. A bucket is read on its own. -/
def Action.ReadFrom (params : Json) : Action → Prop
  | createBucket location =>
    location = ((params.field "CreateBucketConfiguration").field "LocationConstraint").text?
  | putObject key body =>
    (params.field "Key").text? = some key ∧ body = (params.field "Body").text?.getD ""
  | getObject key | deleteObject key => (params.field "Key").text? = some key
  | listObjects beginning => beginning = (params.field "Prefix").text?
  | headBucket | deleteBucket => True

/-- An action that is read is that of the operation, with what its fields hold. -/
theorem Action.readFrom_of_decode {operation : String} {params : Json} {a : Action}
    (h : decode operation params = .ok a) : operation = a.operation ∧ a.ReadFrom params := by
  unfold decode at h
  split at h
  case h_1 | h_2 | h_3 | h_6 =>
    cases h
    exact ⟨rfl, by trivial⟩
  case h_4 | h_5 | h_7 =>
    cases hkey : Request.required "Key" params with
    | error cause => rw [hkey] at h; cases h
    | ok key =>
        rw [hkey] at h
        cases h
        have htext := Request.required_eq_ok_iff.mp hkey
        first
        | exact ⟨rfl, htext, rfl⟩
        | exact ⟨rfl, htext⟩
  case h_8 => cases h

/-! ### What an action changes -/

/-- What an action that is answered makes of its bucket, seen as its location. -/
def Action.leavesBucket : Action → Option (Option String) → Option (Option String)
  | createBucket location, _ => some location
  | deleteBucket, _ => none
  | _, before => before

/-- What an action that is answered makes of the object `key` of its bucket. -/
def Action.leavesObject (key : String) : Action → Option String → Option String
  | putObject other body, before => if key = other then some body else before
  | deleteObject other, before => if key = other then none else before
  | _, before => before

namespace Store

/-- A call that is answered is some request that is answered. -/
theorem exists_answer {s s' : Store} {operation : String} {params response : Json}
    (h : s.answerTo operation params = .ok (response, s')) :
    ∃ bucket action, Request.required "Bucket" params = .ok bucket ∧
      Action.decode operation params = .ok action ∧
      s.answer ⟨bucket, action⟩ = .ok (response, s') := by
  unfold answerTo at h
  cases hbucket : Request.required "Bucket" params with
  | error cause => rw [hbucket] at h; cases h
  | ok bucket =>
      cases haction : Action.decode operation params with
      | error cause => rw [hbucket, haction] at h; cases h
      | ok action =>
          rw [hbucket, haction] at h
          exact ⟨bucket, action, rfl, rfl, h⟩

/-! ### What a request changes -/

/-- How a request to the bucket `name` that is answered changes a store. A bucket is created only
where there is none, and deleted only when it is empty, so that neither changes an object. -/
inductive Changes (s : Store) (name : String) : Action → Store → Prop
  | create {location : Option String} (absent : s.buckets.get? name = none) :
    Changes s name (.createBucket location)
      ⟨s.buckets.insert name ⟨location, SortedMap.empty⟩⟩
  | delete {b : Bucket} (found : s.buckets.get? name = some b)
      (bare : b.objects.isEmpty = true) :
    Changes s name .deleteBucket ⟨s.buckets.erase name⟩
  | put {b : Bucket} {key body : String} (found : s.buckets.get? name = some b) :
    Changes s name (.putObject key body)
      ⟨s.buckets.insert name { b with objects := b.objects.insert key body }⟩
  | remove {b : Bucket} {key : String} (found : s.buckets.get? name = some b) :
    Changes s name (.deleteObject key)
      ⟨s.buckets.insert name { b with objects := b.objects.erase key }⟩
  | head : Changes s name .headBucket s
  | fetch {key : String} : Changes s name (.getObject key) s
  | list {beginning : Option String} : Changes s name (.listObjects beginning) s

theorem changes_of_answer {s s' : Store} {r : Request} {response : Json}
    (h : s.answer r = .ok (response, s')) : Changes s r.bucket r.action s' := by
  obtain ⟨name, action⟩ := r
  cases hb : s.buckets.get? name with
  | none =>
      cases action with
      | createBucket location =>
          simp only [answer, hb, Except.ok.injEq, Prod.mk.injEq] at h
          obtain ⟨-, rfl⟩ := h
          exact .create hb
      | _ =>
          simp only [answer, hb, reduceCtorEq] at h
  | some b =>
      cases action with
      | createBucket location =>
          simp only [answer, hb, reduceCtorEq] at h
      | headBucket =>
          simp only [answer, hb, Except.ok.injEq, Prod.mk.injEq] at h
          obtain ⟨-, rfl⟩ := h
          exact .head
      | deleteBucket =>
          simp only [answer, hb] at h
          split at h
          next hbare =>
            simp only [Except.ok.injEq, Prod.mk.injEq] at h
            obtain ⟨-, rfl⟩ := h
            exact .delete hb hbare
          next => cases h
      | putObject key body =>
          simp only [answer, hb, Except.ok.injEq, Prod.mk.injEq] at h
          obtain ⟨-, rfl⟩ := h
          exact .put hb
      | getObject key =>
          simp only [answer, hb] at h
          split at h
          next =>
            simp only [Except.ok.injEq, Prod.mk.injEq] at h
            obtain ⟨-, rfl⟩ := h
            exact .fetch
          next => cases h
      | listObjects beginning =>
          simp only [answer, hb, Except.ok.injEq, Prod.mk.injEq] at h
          obtain ⟨-, rfl⟩ := h
          exact .list
      | deleteObject key =>
          simp only [answer, hb, Except.ok.injEq, Prod.mk.injEq] at h
          obtain ⟨-, rfl⟩ := h
          exact .remove hb

/-! ### Buckets and objects -/

/-- The location of a bucket, if there is the bucket. -/
def bucket? (s : Store) (bucket : String) : Option (Option String) :=
  (s.buckets.get? bucket).map (·.location)

/-- The content of an object, if there is the object. -/
def object? (s : Store) (bucket key : String) : Option String :=
  (s.buckets.get? bucket).bind (·.objects.get? key)

theorem mem_names_iff {s : Store} {bucket : String} :
    bucket ∈ s.names ↔ (s.bucket? bucket).isSome := by
  rw [names, SortedMap.mem_keys_iff, bucket?, Option.isSome_map]

theorem location?_eq_join (s : Store) (bucket : String) :
    s.location? bucket = (s.bucket? bucket).join := by
  unfold location? bucket?
  cases s.buckets.get? bucket <;> rfl

/-- A bucket is changed by the requests to it alone: it is there once it is created, until it is
deleted. -/
theorem Changes.bucket? {s s' : Store} {name : String} {action : Action}
    (h : Changes s name action s') (bucket : String) :
    s'.bucket? bucket =
      if bucket = name then action.leavesBucket (s.bucket? name) else s.bucket? bucket := by
  by_cases hname : bucket = name
  · subst hname
    rw [if_pos rfl]
    cases h with
    | create absent => simp only [Store.bucket?, SortedMap.get?_insert, if_pos]; rfl
    | delete found bare => simp only [Store.bucket?, SortedMap.get?_erase, if_pos]; rfl
    | put found => simp only [Store.bucket?, SortedMap.get?_insert, if_pos, found]; rfl
    | remove found => simp only [Store.bucket?, SortedMap.get?_insert, if_pos, found]; rfl
    | head | fetch | list => rfl
  · rw [if_neg hname]
    cases h with
    | delete _ _ => simp only [Store.bucket?, SortedMap.get?_erase, if_neg hname]
    | create _ | put _ | remove _ => simp only [Store.bucket?, SortedMap.get?_insert, if_neg hname]
    | head | fetch | list => rfl

/-- An object is changed by the requests for its bucket and key alone: it is there once it is
stored, until it is deleted. -/
theorem Changes.object? {s s' : Store} {name : String} {action : Action}
    (h : Changes s name action s') (bucket key : String) :
    s'.object? bucket key =
      if bucket = name then action.leavesObject key (s.object? name key)
      else s.object? bucket key := by
  by_cases hname : bucket = name
  · subst hname
    rw [if_pos rfl]
    cases h with
    | create absent => simp only [Store.object?, SortedMap.get?_insert, if_pos, absent]; rfl
    | delete found bare =>
        have hnone := SortedMap.isEmpty_iff.mp bare key
        simp only [Store.object?, SortedMap.get?_erase, if_pos, found]
        exact hnone.symm
    | put found =>
        simp only [Store.object?, SortedMap.get?_insert, if_pos, found, Option.bind_some]
        rfl
    | remove found =>
        simp only [Store.object?, SortedMap.get?_insert, if_pos, found, Option.bind_some,
          SortedMap.get?_erase]
        rfl
    | head | fetch | list => rfl
  · rw [if_neg hname]
    cases h with
    | delete _ _ => simp only [Store.object?, SortedMap.get?_erase, if_neg hname]
    | create _ | put _ | remove _ => simp only [Store.object?, SortedMap.get?_insert, if_neg hname]
    | head | fetch | list => rfl

end Store

end ServiceDoubles.Storage
