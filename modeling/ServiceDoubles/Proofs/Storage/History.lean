import ServiceDoubles.Proofs.Client.Acceptance
import ServiceDoubles.Proofs.Storage.Changes

/-!
# ServiceDoubles.Proofs.Storage.History

A storage service is told by its **history**: what it holds, and what it answers, follows from the
calls that were made of it and from which of them worked.

Of each bucket the last call that created or deleted it decides, and of each object the last call
that stored or deleted it. An object is never lost with its bucket, since only empty buckets are
deleted and no bucket is created over another, so that the calls on the bucket need not be
consulted for its objects (`Store.Changes.object?`). The history and the store change alike with
each call (`Tells.after`), so a whole run keeps them in step.
-/

namespace ServiceDoubles.Storage

/-! ### Histories -/

/-- A call that was made, and how it ended. -/
structure Made where
  call : Call
  outcome : Outcome Json

namespace Made

/-- Whether the call was answered. -/
def worked (m : Made) : Bool :=
  match m.outcome with
  | .ok _ => true
  | _ => false

/-- A parameter of the call, if it is a text. -/
def text? (m : Made) (key : String) : Option String := (m.call.params.field key).text?

/-- Whether the call created or deleted the bucket. -/
def settlesBucket (bucket : String) (m : Made) : Bool :=
  m.worked && ["CreateBucket", "DeleteBucket"].contains m.call.operation &&
    m.text? "Bucket" == some bucket

/-- Whether the call stored or deleted the object. -/
def settlesObject (bucket key : String) (m : Made) : Bool :=
  m.worked && ["PutObject", "DeleteObject"].contains m.call.operation &&
    m.text? "Bucket" == some bucket && m.text? "Key" == some key

/-- The location that a call asks for, if it creates a bucket. -/
def created? (m : Made) : Option (Option String) :=
  if m.call.operation = "CreateBucket" then
    some ((m.call.params.field "CreateBucketConfiguration").field "LocationConstraint").text?
  else none

/-- The content that a call brings, if it stores an object. -/
def stored? (m : Made) : Option String :=
  if m.call.operation = "PutObject" then some ((m.text? "Body").getD "") else none

end Made

/-- The calls that were made, in order. -/
abbrev History := List Made

namespace History

/-- What is read from the last of the calls that settle a matter. -/
def last {α : Type} (settles : Made → Bool) (read : Made → Option α) (h : History) : Option α :=
  (h.filter settles).getLast?.bind read

/-- The location of a bucket, if the last call that created or deleted it created it. -/
def bucket? (h : History) (bucket : String) : Option (Option String) :=
  last (·.settlesBucket bucket) Made.created? h

/-- The content of an object, if the last call that stored or deleted it stored it. -/
def object? (h : History) (bucket key : String) : Option String :=
  last (·.settlesObject bucket key) Made.stored? h

theorem last_snoc {α : Type} (settles : Made → Bool) (read : Made → Option α) (h : History)
    (m : Made) :
    last settles read (h ++ [m]) = if settles m then read m else last settles read h := by
  unfold last
  rw [List.filter_append, List.getLast?_append]
  cases hm : settles m with
  | true => rw [List.filter_cons_of_pos hm]; rfl
  | false => rw [List.filter_cons_of_neg (by simp [hm])]; rfl

theorem bucket?_snoc (h : History) (m : Made) (bucket : String) :
    bucket? (h ++ [m]) bucket =
      if m.settlesBucket bucket then m.created? else bucket? h bucket :=
  last_snoc ..

theorem object?_snoc (h : History) (m : Made) (bucket key : String) :
    object? (h ++ [m]) bucket key =
      if m.settlesObject bucket key then m.stored? else object? h bucket key :=
  last_snoc ..

/-- A call that failed settles nothing. -/
theorem snoc_of_not_worked {m : Made} (hm : m.worked = false) (h : History) (bucket key : String) :
    bucket? (h ++ [m]) bucket = bucket? h bucket ∧
      object? (h ++ [m]) bucket key = object? h bucket key := by
  rw [bucket?_snoc, object?_snoc, Made.settlesBucket, Made.settlesObject, hm]
  exact ⟨rfl, rfl⟩

variable {name : String} {action : Action} {m : Made}

/-- A call that was answered makes of a bucket what its action makes of it. -/
theorem bucket_of_worked (hm : m.worked = true) (hname : m.text? "Bucket" = some name)
    (hop : m.call.operation = action.operation) (hread : action.ReadFrom m.call.params)
    (before : String → Option (Option String)) (bucket : String) :
    (if m.settlesBucket bucket then m.created? else before bucket) =
      if bucket = name then action.leavesBucket (before name) else before bucket := by
  rw [Made.settlesBucket, Made.created?, hm, hname, hop]
  by_cases hb : bucket = name
  · subst hb
    cases action with
    | createBucket location =>
      simp [Action.operation, Action.leavesBucket, show location = _ from hread]
    | _ => simp [Action.operation, Action.leavesBucket]
  · simp [hb, Ne.symm hb]

/-- A call that was answered changes what the history has of a bucket as its action changes the
bucket. -/
theorem bucket?_snoc_of_worked (hm : m.worked = true) (hname : m.text? "Bucket" = some name)
    (hop : m.call.operation = action.operation) (hread : action.ReadFrom m.call.params)
    (h : History) (bucket : String) :
    bucket? (h ++ [m]) bucket =
      if bucket = name then action.leavesBucket (bucket? h name) else bucket? h bucket := by
  rw [bucket?_snoc]
  exact bucket_of_worked hm hname hop hread (bucket? h) bucket

/-- A call that was answered makes of an object what its action makes of it. -/
theorem object_of_worked (hm : m.worked = true) (hname : m.text? "Bucket" = some name)
    (hop : m.call.operation = action.operation) (hread : action.ReadFrom m.call.params)
    (before : String → Option String) (bucket key : String) :
    (if m.settlesObject bucket key then m.stored? else before bucket) =
      if bucket = name then action.leavesObject key (before name) else before bucket := by
  rw [Made.settlesObject, Made.stored?, hm, hname, hop]
  by_cases hb : bucket = name
  · subst hb
    cases action with
    | putObject other body =>
      obtain ⟨hother, hbody⟩ := hread
      simp [Action.operation, Action.leavesObject, Made.text?, hother, hbody, Eq.comm (a := key)]
    | deleteObject other =>
      have hother : (m.call.params.field "Key").text? = some other := hread
      simp [Action.operation, Action.leavesObject, Made.text?, hother, Eq.comm (a := key)]
    | _ => simp [Action.operation, Action.leavesObject]
  · simp [hb, Ne.symm hb]

/-- A call that was answered changes what the history has of an object as its action changes the
object. -/
theorem object?_snoc_of_worked (hm : m.worked = true) (hname : m.text? "Bucket" = some name)
    (hop : m.call.operation = action.operation) (hread : action.ReadFrom m.call.params)
    (h : History) (bucket key : String) :
    object? (h ++ [m]) bucket key =
      if bucket = name then action.leavesObject key (object? h name key)
      else object? h bucket key := by
  rw [object?_snoc]
  exact object_of_worked hm hname hop hread (fun b => object? h b key) bucket key

end History

/-! ### Histories and stores -/

/-- The history tells what the store holds. -/
structure Tells (h : History) (s : Store) : Prop where
  buckets : ∀ bucket, s.bucket? bucket = h.bucket? bucket
  objects : ∀ bucket key, s.object? bucket key = h.object? bucket key

theorem tells_empty : Tells [] Store.empty := ⟨fun _ => rfl, fun _ _ => rfl⟩

/-- A history that tells what a store holds still does after one more call. -/
theorem Tells.after {h : History} {s : Store} (ht : Tells h s) (call : Call) :
    Tells (h ++ [⟨call, Store.outcomeOf (s.answerTo call.operation call.params)⟩])
      (s.after (s.answerTo call.operation call.params)) := by
  cases hans : s.answerTo call.operation call.params with
  | error cause =>
      have hfailed := History.snoc_of_not_worked (m := ⟨call, .fault cause⟩) rfl h
      exact ⟨fun b => (ht.buckets b).trans (hfailed b "").1.symm,
        fun b k => (ht.objects b k).trans (hfailed b k).2.symm⟩
  | ok answered =>
      obtain ⟨response, s'⟩ := answered
      obtain ⟨name, action, hname, hdecode, hans⟩ := Store.exists_answer hans
      have hname : (Made.mk call (.ok response)).text? "Bucket" = some name :=
        Request.required_eq_ok_iff.mp hname
      obtain ⟨hop, hread⟩ := Action.readFrom_of_decode hdecode
      have hchange := Store.changes_of_answer hans
      change Tells (h ++ [⟨call, .ok response⟩]) s'
      refine ⟨fun b => ?_, fun b k => ?_⟩
      · rw [History.bucket?_snoc_of_worked rfl hname hop hread, ← ht.buckets, ← ht.buckets]
        exact hchange.bucket? b
      · rw [History.object?_snoc_of_worked rfl hname hop hread, ← ht.objects, ← ht.objects]
        exact hchange.object? b k

namespace Store

/-- Makes calls of a store, whatever their answers are: the history, and the store at the end. -/
def tell (calls : List Call) (s : Store) : History × Store :=
  let made := Act.runEach (calls.map fun c => call c.operation c.params) s
  (List.zipWith Made.mk calls made.1, made.2)

theorem tell_cons (c : Call) (calls : List Call) (s : Store) :
    let answer := s.answerTo c.operation c.params
    tell (c :: calls) s =
      (⟨c, outcomeOf answer⟩ :: (tell calls (s.after answer)).1,
        (tell calls (s.after answer)).2) := by
  simp only [tell, List.map_cons, Act.runEach_cons, effect_call, List.zipWith_cons_cons]

end Store

/-- A history that tells what a store holds still does after any calls. -/
theorem Tells.tell {h : History} {s : Store} (ht : Tells h s) (calls : List Call) :
    Tells (h ++ (s.tell calls).1) (s.tell calls).2 := by
  induction calls generalizing h s with
  | nil =>
      change Tells (h ++ []) s
      rw [List.append_nil]
      exact ht
  | cons call rest ih =>
      have hrest := ih (ht.after call)
      rw [← List.append_cons] at hrest
      rw [Store.tell_cons]
      exact hrest

/-! ### What is answered -/

namespace Store

theorem outcome_headBucket (s : Store) (bucket : String) :
    outcomeOf (s.answer ⟨bucket, .headBucket⟩) =
      if (s.bucket? bucket).isSome then .ok Response.done
      else .fault (.service "NotFound" "Not Found") := by
  rw [bucket?]
  cases hb : s.buckets.get? bucket <;> simp only [answer, hb] <;> rfl

theorem outcome_getObject (s : Store) (bucket key : String) :
    outcomeOf (s.answer ⟨bucket, .getObject key⟩) =
      match s.bucket? bucket, s.object? bucket key with
      | none, _ => .fault (noBucket bucket)
      | some _, some body => .ok (Response.content body)
      | some _, none => .fault (.service "NoSuchKey" "The specified key does not exist.") := by
  rw [bucket?, object?]
  cases hb : s.buckets.get? bucket with
  | none => simp only [answer, hb]; rfl
  | some b =>
      simp only [answer, hb, Option.bind_some, Option.map_some]
      cases b.objects.get? key <;> rfl

end Store

/-- After any calls of an empty store, well-formed or not, the history tells which buckets there
are and where, and what the store answers for each object. -/
theorem history_law (calls : List Call) (bucket key : String) :
    let h := (Store.empty.tell calls).1
    let s := (Store.empty.tell calls).2
    s.names.Pairwise (· < ·) ∧
    (bucket ∈ s.names ↔ (h.bucket? bucket).isSome) ∧
    s.location? bucket = (h.bucket? bucket).join ∧
    ∀ params : Json, (params.field "Bucket").text? = some bucket →
      ((∃ response, ((Store.call "HeadBucket" params).effect s).1 = .ok response) ↔
        (h.bucket? bucket).isSome) ∧
      ((params.field "Key").text? = some key →
        let got := ((Store.call "GetObject" params).effect s).1
        (∀ v, got = .ok (.object [("Body", .string v),
            ("ContentLength", .ofNat v.utf8ByteSize)]) ↔
          (h.bucket? bucket).isSome ∧ h.object? bucket key = some v) ∧
        ((∃ text, got = .fault (.service "NoSuchKey" text)) ↔
          (h.bucket? bucket).isSome ∧ h.object? bucket key = none) ∧
        ((∃ text, got = .fault (.service "NoSuchBucket" text)) ↔ h.bucket? bucket = none)) := by
  intro h s
  have ht : Tells h s := tells_empty.tell calls
  refine ⟨s.buckets.keys_ascending, ?_, ?_, fun params hbucket => ⟨?_, ?_⟩⟩
  · rw [Store.mem_names_iff, ht.buckets]
  · rw [Store.location?_eq_join, ht.buckets]
  · have hans : s.answerTo "HeadBucket" params = s.answer ⟨bucket, .headBucket⟩ :=
      s.answerTo_of_reads (Request.required_eq_ok_iff.mpr hbucket) rfl
    rw [Store.effect_call, hans, Store.outcome_headBucket, ht.buckets]
    cases h.bucket? bucket <;> simp
  · intro hkey got
    have hans : s.answerTo "GetObject" params = s.answer ⟨bucket, .getObject key⟩ :=
      s.answerTo_of_reads (Request.required_eq_ok_iff.mpr hbucket)
        (by rw [Action.decode, Request.required_eq_ok_iff.mpr hkey]; rfl)
    have hgot : got = _ := congrArg Prod.fst (Store.effect_call "GetObject" params s)
    rw [hans, Store.outcome_getObject, ht.buckets, ht.objects] at hgot
    rw [hgot]
    cases h.bucket? bucket with
    | none => simp [Store.noBucket]
    | some location =>
        cases h.object? bucket key with
        | none => simp
        | some body => simp [Response.content_eq]

/-- A bucket that is deleted and created again has the location of its second creation, and an
object of it the content that was stored then. -/
theorem history_law_recreated :
    let named : String → List (String × Json) → Json := fun bucket more =>
      .record (("Bucket", .string bucket) :: more)
    let content : List (String × Json) := [("Key", .string "k"), ("Body", .string "é")]
    let calls : List Call :=
      [⟨"CreateBucket", named "b" [("CreateBucketConfiguration",
          .record [("LocationConstraint", .string "eu")])]⟩,
       ⟨"PutObject", named "b" [("Key", .string "k"), ("Body", .string "v")]⟩,
       ⟨"DeleteBucket", named "b" []⟩, ⟨"PutObject", .null⟩,
       ⟨"DeleteObject", named "b" [("Key", .string "k")]⟩,
       ⟨"DeleteBucket", named "b" []⟩, ⟨"CreateBucket", named "b" []⟩,
       ⟨"PutObject", named "b" content⟩]
    let s := (Store.empty.tell calls).2
    s.location? "b" = none ∧
      ((Store.call "GetObject" (named "b" content)).effect s).1 =
        .ok (.object [("Body", .string "é"), ("ContentLength", .ofNat 2)]) := by
  intro named content calls s
  have hlaw := history_law calls "b" "k"
  have hfound := (hlaw.2.2.2 (named "b" content) (by decide)).2 (by decide)
  exact ⟨hlaw.2.2.1.trans (by decide), (hfound.1 "é").mpr ⟨by decide, by decide⟩⟩

end ServiceDoubles.Storage
