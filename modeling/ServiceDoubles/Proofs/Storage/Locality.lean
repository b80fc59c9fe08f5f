import ServiceDoubles.Proofs.Storage.History

/-!
# ServiceDoubles.Proofs.Storage.Locality

Calls on a store are **atomic and local**. A call that fails leaves the store as it was, and one
that is answered changes what it names and nothing else.

`Store.Edits` says what each operation may change, bucket by bucket and key by key, without the maps
that hold them. Over a run it follows that an object changes only by calls that name it: whatever it
has become in the end, one of them made it so (`Store.exists_settles_of_ne`).
-/

namespace ServiceDoubles.Storage

/-- The buckets differ at most in the object `key`. -/
def Bucket.SameBut (key : String) (b b' : Bucket) : Prop :=
  b'.location = b.location ∧ ∀ other, other ≠ key → b'.objects.get? other = b.objects.get? other

namespace Store

/-- The stores differ at most in the bucket `name`. -/
def SameBut (name : String) (s s' : Store) : Prop :=
  ∀ other, other ≠ name → s'.buckets.get? other = s.buckets.get? other

theorem sameBut_insert (s : Store) (name : String) (b : Bucket) :
    SameBut name s ⟨s.buckets.insert name b⟩ := by
  intro other hne
  exact s.buckets.get?_insert_of_ne hne b

theorem sameBut_erase (s : Store) (name : String) : SameBut name s ⟨s.buckets.erase name⟩ := by
  intro other hne
  exact s.buckets.get?_erase_of_ne hne

/-- What a call of an operation that is answered does to a store `s`. -/
inductive Edits (s : Store) (params : Json) : (operation : String) → (s' : Store) → Prop
  /-- A bucket that was not there is there, empty and with its location. -/
  | create {name : String} {s' : Store} :
    (params.field "Bucket").text? = some name → s.buckets.get? name = none →
    s'.buckets.get? name = some
      ⟨((params.field "CreateBucketConfiguration").field "LocationConstraint").text?, .empty⟩ →
    SameBut name s s' → Edits s params "CreateBucket" s'
  /-- A bucket that held no object is gone. -/
  | delete {name : String} {b : Bucket} {s' : Store} :
    (params.field "Bucket").text? = some name → s.buckets.get? name = some b →
    (∀ key, b.objects.get? key = none) → s'.buckets.get? name = none →
    SameBut name s s' → Edits s params "DeleteBucket" s'
  /-- An object has the content that was sent, in a bucket that is the same otherwise. -/
  | put {name key : String} {b b' : Bucket} {s' : Store} :
    (params.field "Bucket").text? = some name → (params.field "Key").text? = some key →
    s.buckets.get? name = some b → s'.buckets.get? name = some b' →
    b'.objects.get? key = some ((params.field "Body").text?.getD "") → b.SameBut key b' →
    SameBut name s s' → Edits s params "PutObject" s'
  /-- An object is gone, in a bucket that is the same otherwise. -/
  | remove {name key : String} {b b' : Bucket} {s' : Store} :
    (params.field "Bucket").text? = some name → (params.field "Key").text? = some key →
    s.buckets.get? name = some b → s'.buckets.get? name = some b' →
    b'.objects.get? key = none → b.SameBut key b' →
    SameBut name s s' → Edits s params "DeleteObject" s'
  /-- Nothing is changed by calls that only ask. -/
  | read {operation : String} :
    operation ∈ ["HeadBucket", "GetObject", "ListObjects"] → Edits s params operation s

theorem Changes.edits {s s' : Store} {name : String} {action : Action} {params : Json}
    (h : Changes s name action s') (hname : (params.field "Bucket").text? = some name)
    (hread : action.ReadFrom params) : Edits s params action.operation s' := by
  cases h with
  | create absent =>
      obtain rfl := hread
      exact .create hname absent (s.buckets.get?_insert_self name _) (s.sameBut_insert name _)
  | delete found bare =>
      exact .delete hname found (SortedMap.isEmpty_iff.mp bare) (s.buckets.get?_erase_self name)
        (s.sameBut_erase name)
  | @put b key _ found =>
      obtain ⟨hkey, rfl⟩ := hread
      refine .put hname hkey found (s.buckets.get?_insert_self name _)
        (b.objects.get?_insert_self key _) ⟨rfl, ?_⟩ (s.sameBut_insert name _)
      intro other hne
      exact b.objects.get?_insert_of_ne hne _
  | @remove b key found =>
      refine .remove hname hread found (s.buckets.get?_insert_self name _)
        (b.objects.get?_erase_self key) ⟨rfl, ?_⟩ (s.sameBut_insert name _)
      intro other hne
      exact b.objects.get?_erase_of_ne hne
  | head | fetch | list => exact .read (by simp [Action.operation])

theorem edits_of_answerTo {s s' : Store} {operation : String} {params response : Json}
    (h : s.answerTo operation params = .ok (response, s')) : Edits s params operation s' := by
  obtain ⟨name, action, hname, hdecode, hans⟩ := exists_answer h
  obtain ⟨rfl, hread⟩ := Action.readFrom_of_decode hdecode
  exact (changes_of_answer hans).edits (Request.required_eq_ok_iff.mp hname) hread

/-- Calls that only ask change nothing. -/
theorem Edits.eq_of_asks {s s' : Store} {operation : String} {params : Json}
    (h : Edits s params operation s')
    (hask : operation ∈ ["HeadBucket", "GetObject", "ListObjects"]) : s' = s := by
  cases h with
  | read _ => rfl
  | create | delete | put | remove => simp at hask

/-! ### Single calls of a run -/

/-- A call with what the store answers to it. -/
def made (s : Store) (c : Call) : Made := ⟨c, outcomeOf (s.answerTo c.operation c.params)⟩

/-- The store after a call. -/
def next (s : Store) (c : Call) : Store := s.after (s.answerTo c.operation c.params)

theorem tell_eq_made_cons (s : Store) (c : Call) (calls : List Call) :
    s.tell (c :: calls) = (s.made c :: ((s.next c).tell calls).1, ((s.next c).tell calls).2) :=
  tell_cons c calls s

/-- A call fails and leaves the store as it was, or it is answered and changes what its action
changes. -/
theorem made_cases (s : Store) (c : Call) :
    ((s.made c).worked = false ∧ s.next c = s) ∨
      ∃ name action, (s.made c).worked = true ∧ (s.made c).text? "Bucket" = some name ∧
        c.operation = action.operation ∧ action.ReadFrom c.params ∧
        Changes s name action (s.next c) := by
  unfold made next
  cases hans : s.answerTo c.operation c.params with
  | error cause => exact .inl ⟨rfl, rfl⟩
  | ok answered =>
      obtain ⟨response, s'⟩ := answered
      obtain ⟨name, action, hname, hdecode, hanswer⟩ := exists_answer hans
      obtain ⟨hop, hread⟩ := Action.readFrom_of_decode hdecode
      exact .inr ⟨name, action, rfl, Request.required_eq_ok_iff.mp hname, hop, hread,
        changes_of_answer hanswer⟩

/-- A bucket is what the call made it, if the call was answered and creates or deletes it. -/
theorem bucket?_next (s : Store) (c : Call) (bucket : String) :
    (s.next c).bucket? bucket =
      if (s.made c).settlesBucket bucket then (s.made c).created? else s.bucket? bucket := by
  obtain ⟨hfailed, hsame⟩ | ⟨name, action, hworked, hname, hop, hread, hchange⟩ := s.made_cases c
  · rw [hsame, Made.settlesBucket, hfailed]
    rfl
  · rw [History.bucket_of_worked hworked hname hop hread s.bucket?]
    exact hchange.bucket? bucket

/-- An object is what the call made it, if the call was answered and names it. -/
theorem object?_next (s : Store) (c : Call) (bucket key : String) :
    (s.next c).object? bucket key =
      if (s.made c).settlesObject bucket key then (s.made c).stored?
      else s.object? bucket key := by
  obtain ⟨hfailed, hsame⟩ | ⟨name, action, hworked, hname, hop, hread, hchange⟩ := s.made_cases c
  · rw [hsame, Made.settlesObject, hfailed]
    rfl
  · rw [History.object_of_worked hworked hname hop hread (fun b => s.object? b key)]
    exact hchange.object? bucket key

/-! ### Objects over a run -/

/-- What an object has become over a run, one of the calls that name it made it, unless it was so
from the start. -/
theorem exists_settles_of_ne (calls : List Call) (s : Store) {bucket key : String}
    (hne : (s.tell calls).2.object? bucket key ≠ s.object? bucket key) :
    ∃ m ∈ (s.tell calls).1, m.settlesObject bucket key = true ∧
      m.stored? = (s.tell calls).2.object? bucket key := by
  induction calls generalizing s with
  | nil => exact absurd rfl hne
  | cons c rest ih =>
      rw [tell_eq_made_cons] at hne ⊢
      by_cases hrest : ((s.next c).tell rest).2.object? bucket key = (s.next c).object? bucket key
      · -- The first call made the object what it is in the end.
        simp only [hrest, object?_next] at hne ⊢
        split at hne
        next hsettles =>
          rw [if_pos hsettles]
          exact ⟨_, List.mem_cons_self, hsettles, rfl⟩
        next => exact absurd rfl hne
      · obtain ⟨m, hmem, hm⟩ := ih (s.next c) hrest
        exact ⟨m, List.mem_cons_of_mem _ hmem, hm⟩

end Store

/-- The call was answered, and is of this operation on this object. -/
def Made.Did (operation bucket key : String) (m : Made) : Prop :=
  m.worked = true ∧ m.call.operation = operation ∧ m.text? "Bucket" = some bucket ∧
    m.text? "Key" = some key

theorem Made.settlesObject_iff {bucket key : String} {m : Made} :
    m.settlesObject bucket key = true ↔
      m.Did "PutObject" bucket key ∨ m.Did "DeleteObject" bucket key := by
  simp only [settlesObject, Did, Bool.and_eq_true, beq_iff_eq, List.contains_iff_mem,
    List.mem_cons, List.not_mem_nil, or_false]
  grind

/-- An object that is lost was deleted by one of the calls. -/
theorem Store.exists_delete_of_lost (calls : List Call) (s : Store) {bucket key : String}
    (hbefore : s.object? bucket key ≠ none) (hafter : (s.tell calls).2.object? bucket key = none) :
    ∃ m ∈ (s.tell calls).1, m.Did "DeleteObject" bucket key := by
  have hne : (s.tell calls).2.object? bucket key ≠ s.object? bucket key := by
    rw [hafter]
    exact hbefore.symm
  obtain ⟨m, hmem, hsettles, hstored⟩ := exists_settles_of_ne calls s hne
  rw [hafter] at hstored
  rcases Made.settlesObject_iff.mp hsettles with hput | hdelete
  · rw [Made.stored?, if_pos hput.2.1] at hstored
    cases hstored
  · exact ⟨m, hmem, hdelete⟩

/-- Content that was not there before was stored by one of the calls. -/
theorem Store.exists_put_of_new (calls : List Call) (s : Store) {bucket key content : String}
    (hbefore : s.object? bucket key ≠ some content)
    (hafter : (s.tell calls).2.object? bucket key = some content) :
    ∃ m ∈ (s.tell calls).1, m.Did "PutObject" bucket key ∧ m.stored? = some content := by
  have hne : (s.tell calls).2.object? bucket key ≠ s.object? bucket key := by
    rw [hafter]
    exact hbefore.symm
  obtain ⟨m, hmem, hsettles, hstored⟩ := exists_settles_of_ne calls s hne
  rw [hafter] at hstored
  rcases Made.settlesObject_iff.mp hsettles with hput | hdelete
  · exact ⟨m, hmem, hput, hstored⟩
  · rw [Made.stored?, hdelete.2.1, if_neg (by decide)] at hstored
    cases hstored

/-- A call of any operation with any parameters is answered or fails. If it fails or only asks, the
store is as before; otherwise it does what its operation does to what it names. So over any calls an
object is lost only by deleting it, and overwritten only by storing it. -/
theorem calls_are_local (s : Store) :
    (∀ operation params,
      let r := (Store.call operation params).effect s
      (∀ reason, r.1 ≠ .unwound reason) ∧
      (∀ cause, r.1 = .fault cause → r.2 = s) ∧
      (operation ∈ ["HeadBucket", "GetObject", "ListObjects"] → r.2 = s) ∧
      ∀ response, r.1 = .ok response → s.Edits params operation r.2) ∧
    ∀ calls bucket key content, s.object? bucket key = some content →
      let h := (s.tell calls).1
      let s' := (s.tell calls).2
      (s'.object? bucket key = none → ∃ m ∈ h, m.Did "DeleteObject" bucket key) ∧
      ∀ other, other ≠ content → s'.object? bucket key = some other →
        ∃ m ∈ h, m.Did "PutObject" bucket key ∧ m.stored? = some other := by
  constructor
  · intro operation params r
    have hr : r = _ := Store.effect_call operation params s
    cases hans : s.answerTo operation params with
    | error cause =>
        rw [hans] at hr
        rw [hr]
        exact ⟨nofun, fun _ _ => rfl, fun _ => rfl, nofun⟩
    | ok answered =>
        obtain ⟨response, s'⟩ := answered
        have hedits := Store.edits_of_answerTo hans
        rw [hans] at hr
        rw [hr]
        exact ⟨nofun, nofun, hedits.eq_of_asks, fun _ _ => hedits⟩
  · intro calls bucket key content hbefore h s'
    refine ⟨fun hafter => ?_, fun other hne hafter => ?_⟩
    · exact Store.exists_delete_of_lost calls s (by simp [hbefore]) hafter
    · exact Store.exists_put_of_new calls s (by simpa [hbefore] using hne.symm) hafter

/-- A call without parameters changes nothing, and an object has other content once it is stored
anew. -/
theorem calls_are_local_overwritten :
    let named : List (String × Json) → Json := fun more =>
      .record (("Bucket", .string "b") :: ("Key", .string "k") :: more)
    let s := (Store.empty.tell
      [⟨"CreateBucket", named []⟩, ⟨"PutObject", named [("Body", .string "v")]⟩]).2
    let calls : List Call := [⟨"PutObject", .null⟩, ⟨"PutObject", named []⟩]
    s.object? "b" "k" = some "v" ∧ ((Store.call "PutObject" .null).effect s).2 = s ∧
      ∃ m ∈ (s.tell calls).1, m.Did "PutObject" "b" "k" ∧ m.stored? = some "" := by
  intro named s calls
  have hstored : s.object? "b" "k" = some "v" := by decide
  have hlocal := calls_are_local s
  refine ⟨hstored, ?_, ?_⟩
  · exact (hlocal.1 "PutObject" .null).2.1 _ rfl
  · exact (hlocal.2 calls "b" "k" "v" hstored).2 "" (by decide) (by decide)

end ServiceDoubles.Storage
