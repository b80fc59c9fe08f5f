import ServiceDoubles.Proofs.Storage.Locality

/-!
# ServiceDoubles.Proofs.Storage.Commutation

Calls on a store that have nothing to do with each other **commute**.

What a call is answered depends on the bucket that it names, and of the objects in the bucket on
those that its action reads (`Store.made_congr`); what it changes is what it names. Calls to
different buckets are therefore answered alike in either order, and so are calls for different
objects of one bucket. Over a run the calls to one bucket go as if there were no others
(`Store.tell_filter`), so that only the order of the calls to each bucket counts.
-/

namespace ServiceDoubles

/-! ### Independent calls -/

namespace Call

/-- The bucket that a call names. -/
def bucket? (c : Call) : Option String := (c.params.field "Bucket").text?

/-- The key that a call names. -/
def key? (c : Call) : Option String := (c.params.field "Key").text?

/-- Whether a call goes to a bucket, or names no bucket for `none`. -/
def isTo (bucket : Option String) (c : Call) : Bool := c.bucket? == bucket

/-- Whether a call is for a single object. -/
def isForObject (c : Call) : Bool :=
  ["PutObject", "GetObject", "DeleteObject"].contains c.operation

/-- The calls have nothing to do with each other: they name different buckets, or each is for an
object and they name different keys. -/
def Independent (a b : Call) : Prop :=
  a.bucket? ≠ b.bucket? ∨ a.isForObject = true ∧ b.isForObject = true ∧ a.key? ≠ b.key?

theorem Independent.symm {a b : Call} (h : a.Independent b) : b.Independent a :=
  h.imp Ne.symm fun ⟨ha, hb, hne⟩ => ⟨hb, ha, hne.symm⟩

end Call

namespace Storage

/-! ### What an answer depends on -/

/-- The objects of its bucket that the answer of an action depends on. An object is stored or
deleted whether it is there or not. -/
def Action.Reads (key : String) : Action → Prop
  | getObject other => key = other
  | deleteBucket | listObjects _ => True
  | createBucket _ | headBucket | putObject .. | deleteObject _ => False

namespace Store

/-- Two stores with the same buckets and objects are equal. -/
theorem ext_views {s t : Store} (hbucket : ∀ name, s.bucket? name = t.bucket? name)
    (hobject : ∀ name key, s.object? name key = t.object? name key) : s = t := by
  suffices s.buckets = t.buckets by
    cases s
    cases t
    exact congrArg Store.mk this
  refine SortedMap.ext_get? fun name => ?_
  have hb := hbucket name
  have ho := hobject name
  unfold bucket? at hb
  unfold object? at ho
  cases hs : s.buckets.get? name with
  | none =>
      rw [hs] at hb
      exact (Option.map_eq_none_iff.mp hb.symm).symm
  | some b =>
      rw [hs] at hb ho
      obtain ⟨b', ht, hlocation⟩ := Option.map_eq_some_iff.mp hb.symm
      rw [ht] at ho ⊢
      have hobjects : b.objects = b'.objects := SortedMap.ext_get? ho
      cases b
      cases b'
      cases hlocation
      cases hobjects
      rfl

/-- The outcome of a request depends on its bucket, and on the objects that its action reads. -/
theorem outcome_answer_congr {s t : Store} {r : Request}
    (hbucket : s.bucket? r.bucket = t.bucket? r.bucket)
    (hobject : ∀ key, r.action.Reads key → s.object? r.bucket key = t.object? r.bucket key) :
    outcomeOf (s.answer r) = outcomeOf (t.answer r) := by
  obtain ⟨name, action⟩ := r
  unfold bucket? at hbucket
  unfold object? at hobject
  cases hs : s.buckets.get? name with
  | none =>
      rw [hs] at hbucket
      have ht : t.buckets.get? name = none := Option.map_eq_none_iff.mp hbucket.symm
      cases action with
      | createBucket location =>
          simp only [answer, hs, ht]
          rfl
      | _ => simp only [answer, hs, ht]
  | some b =>
      rw [hs] at hbucket hobject
      obtain ⟨b', ht, -⟩ := Option.map_eq_some_iff.mp hbucket.symm
      rw [ht] at hobject
      cases action with
      | createBucket location => simp only [answer, hs, ht]
      | headBucket | putObject | deleteObject =>
          simp only [answer, hs, ht]
          rfl
      | getObject key =>
          have hread : b.objects.get? key = b'.objects.get? key := hobject key rfl
          simp only [answer, hs, ht, hread]
          cases b'.objects.get? key <;> rfl
      | deleteBucket =>
          have hsame : b.objects = b'.objects :=
            SortedMap.ext_get? fun key => hobject key trivial
          simp only [answer, hs, ht, hsame]
          split <;> rfl
      | listObjects beginning =>
          have hsame : b.objects = b'.objects :=
            SortedMap.ext_get? fun key => hobject key trivial
          simp only [answer, hs, ht, keysFrom, hsame]
          rfl

/-- A call is some request, whatever the store is, or fails alike for every store. -/
theorem answerTo_cases (c : Call) :
    (∃ cause, ∀ s : Store, s.answerTo c.operation c.params = .error cause) ∨
      ∃ r : Request, c.bucket? = some r.bucket ∧ c.operation = r.action.operation ∧
        r.action.ReadFrom c.params ∧ ∀ s : Store, s.answerTo c.operation c.params = s.answer r := by
  cases hbucket : Request.required "Bucket" c.params with
  | error cause =>
      refine .inl ⟨cause, fun s => ?_⟩
      rw [answerTo, hbucket]
      rfl
  | ok name =>
      cases haction : Action.decode c.operation c.params with
      | error cause =>
          refine .inl ⟨cause, fun s => ?_⟩
          rw [answerTo, hbucket, haction]
          rfl
      | ok action =>
          obtain ⟨hop, hread⟩ := Action.readFrom_of_decode haction
          exact .inr ⟨⟨name, action⟩, Request.required_eq_ok_iff.mp hbucket, hop, hread,
            fun s => s.answerTo_of_reads hbucket haction⟩

/-- The stores hold the same, as far as a call can tell: the same in the bucket that it names, of
which a call for an object sees no other object. -/
def LookAlike (c : Call) (s t : Store) : Prop :=
  ∀ name, c.bucket? = some name → s.bucket? name = t.bucket? name ∧
    ∀ key, (c.isForObject = true → c.key? = some key) → s.object? name key = t.object? name key

theorem made_congr {s t : Store} {c : Call} (h : LookAlike c s t) : s.made c = t.made c := by
  suffices outcomeOf (s.answerTo c.operation c.params) = outcomeOf (t.answerTo c.operation c.params)
    from congrArg (Made.mk c) this
  obtain ⟨cause, hfails⟩ | ⟨r, hname, hop, hread, hans⟩ := answerTo_cases c
  · rw [hfails s, hfails t]
  · obtain ⟨hbucket, hobject⟩ := h r.bucket hname
    rw [hans s, hans t]
    refine outcome_answer_congr hbucket fun key hkey => hobject key fun hfor => ?_
    obtain ⟨name, action⟩ := r
    cases action with
    | getObject other =>
        obtain rfl : key = other := hkey
        exact hread
    | deleteBucket | listObjects =>
        -- These read all objects, and are for none of them.
        rw [Call.isForObject, hop] at hfor
        simp [Action.operation] at hfor
    | createBucket | headBucket | putObject | deleteObject => exact hkey.elim

end Store

/-! ### Two calls -/

/-- What settles a bucket names it, and is not for an object. -/
theorem Made.of_settlesBucket {bucket : String} {m : Made} (h : m.settlesBucket bucket = true) :
    m.call.bucket? = some bucket ∧ m.call.isForObject = false := by
  simp only [settlesBucket, Bool.and_eq_true, beq_iff_eq, List.contains_iff_mem, List.mem_cons,
    List.not_mem_nil, or_false] at h
  obtain ⟨⟨-, hop⟩, hname⟩ := h
  refine ⟨hname, ?_⟩
  rw [Call.isForObject]
  rcases hop with hop | hop <;> rw [hop] <;> rfl

/-- What settles an object names it. -/
theorem Made.of_settlesObject {bucket key : String} {m : Made}
    (h : m.settlesObject bucket key = true) :
    m.call.bucket? = some bucket ∧ m.call.key? = some key := by
  simp only [settlesObject, Bool.and_eq_true, beq_iff_eq] at h
  exact ⟨h.1.2, h.2⟩

/-- A call settles no bucket that a call names that is independent of it. -/
theorem Made.not_settlesBucket_of_independent {m : Made} {c : Call} {name : String}
    (h : m.call.Independent c) (hname : c.bucket? = some name) : ¬ m.settlesBucket name = true := by
  intro hsettles
  obtain ⟨hbucket, hfor⟩ := of_settlesBucket hsettles
  rcases h with hne | ⟨hobject, -, -⟩
  · exact hne (hbucket.trans hname.symm)
  · exact Bool.false_ne_true (hfor.symm.trans hobject)

/-- A call settles no object that a call sees that is independent of it. -/
theorem Made.not_settlesObject_of_independent {m : Made} {c : Call} {name key : String}
    (h : m.call.Independent c) (hname : c.bucket? = some name)
    (hkey : c.isForObject = true → c.key? = some key) : ¬ m.settlesObject name key = true := by
  intro hsettles
  obtain ⟨hbucket, hother⟩ := of_settlesObject hsettles
  rcases h with hne | ⟨-, hobject, hne⟩
  · exact hne (hbucket.trans hname.symm)
  · exact hne (hother.trans (hkey hobject).symm)

namespace Store

/-- A call is answered alike before and after a call that it is independent of. -/
theorem made_next_of_independent {a b : Call} (h : a.Independent b) (s : Store) :
    (s.next a).made b = s.made b := by
  refine made_congr fun name hname => ⟨?_, fun key hkey => ?_⟩
  · rw [bucket?_next, if_neg (Made.not_settlesBucket_of_independent h hname)]
  · rw [object?_next, if_neg (Made.not_settlesObject_of_independent h hname hkey)]

/-- Independent calls leave the same store in either order, since no bucket and no object is settled
by both. -/
theorem next_comm_of_independent {a b : Call} (h : a.Independent b) (s : Store) :
    (s.next a).next b = (s.next b).next a := by
  have hb := made_next_of_independent h s
  have ha := made_next_of_independent h.symm s
  refine ext_views (fun name => ?_) (fun name key => ?_)
  · rw [bucket?_next, bucket?_next, bucket?_next, bucket?_next, ha, hb]
    by_cases hsettles : (s.made a).settlesBucket name = true
    · have hother : ¬ (s.made b).settlesBucket name = true :=
        Made.not_settlesBucket_of_independent h.symm (Made.of_settlesBucket hsettles).1
      rw [if_neg hother, if_pos hsettles, if_pos hsettles]
    · rw [if_neg hsettles, if_neg hsettles]
  · rw [object?_next, object?_next, object?_next, object?_next, ha, hb]
    by_cases hsettles : (s.made a).settlesObject name key = true
    · obtain ⟨hname, hkey⟩ := Made.of_settlesObject hsettles
      have hother : ¬ (s.made b).settlesObject name key = true :=
        Made.not_settlesObject_of_independent h.symm hname fun _ => hkey
      rw [if_neg hother, if_pos hsettles, if_pos hsettles]
    · rw [if_neg hsettles, if_neg hsettles]

/-! ### Runs, bucket by bucket -/

/-- The stores hold the same in a bucket. -/
def AgreeOn (bucket : Option String) (s t : Store) : Prop :=
  ∀ name, bucket = some name →
    s.bucket? name = t.bucket? name ∧ ∀ key, s.object? name key = t.object? name key

theorem AgreeOn.refl (bucket : Option String) (s : Store) : AgreeOn bucket s s :=
  fun _ _ => ⟨rfl, fun _ => rfl⟩

theorem AgreeOn.made_eq {s t : Store} {c : Call} (h : AgreeOn c.bucket? s t) :
    s.made c = t.made c :=
  made_congr fun name hname => ⟨(h name hname).1, fun key _ => (h name hname).2 key⟩

/-- A call to a bucket that is the same in two stores leaves it so. -/
theorem AgreeOn.next {s t : Store} {c : Call} (h : AgreeOn c.bucket? s t) :
    AgreeOn c.bucket? (s.next c) (t.next c) := by
  intro name hname
  obtain ⟨hbucket, hobject⟩ := h name hname
  refine ⟨?_, fun key => ?_⟩
  · rw [bucket?_next, bucket?_next, h.made_eq, hbucket]
  · rw [object?_next, object?_next, h.made_eq, hobject]

/-- A call to another bucket leaves the bucket as it was. -/
theorem AgreeOn.next_of_ne {bucket : Option String} {s t : Store} {c : Call}
    (h : AgreeOn bucket s t) (hne : c.bucket? ≠ bucket) : AgreeOn bucket (s.next c) t := by
  intro name hname
  obtain ⟨hbucket, hobject⟩ := h name hname
  refine ⟨?_, fun key => ?_⟩
  · rw [bucket?_next, if_neg fun hsettles =>
      hne ((Made.of_settlesBucket hsettles).1.trans hname.symm), hbucket]
  · rw [object?_next, if_neg fun hsettles =>
      hne ((Made.of_settlesObject hsettles).1.trans hname.symm), hobject]

/-- The calls to one bucket go as if there were no others. -/
theorem tell_filter (bucket : Option String) (calls : List Call) {s t : Store}
    (h : AgreeOn bucket s t) :
    (s.tell calls).1.filter (·.call.isTo bucket) = (t.tell (calls.filter (·.isTo bucket))).1 ∧
      AgreeOn bucket (s.tell calls).2 (t.tell (calls.filter (·.isTo bucket))).2 := by
  induction calls generalizing s t with
  | nil => exact ⟨rfl, h⟩
  | cons c rest ih =>
      rw [tell_eq_made_cons]
      by_cases hc : c.bucket? = bucket
      · subst hc
        have hto : c.isTo c.bucket? = true := beq_self_eq_true _
        obtain ⟨hrest, hagree⟩ := ih h.next
        rw [List.filter_cons_of_pos hto, tell_eq_made_cons,
          List.filter_cons_of_pos (a := s.made c) hto, hrest, h.made_eq]
        exact ⟨rfl, hagree⟩
      · have hto : ¬ c.isTo bucket = true := mt beq_iff_eq.mp hc
        rw [List.filter_cons_of_neg hto, List.filter_cons_of_neg (a := s.made c) hto]
        exact ih (h.next_of_ne hc)

end Store

/-- Two independent calls are answered alike in either order and leave the same store. So runs of
which each bucket gets the same calls in the same order have the same answers, bucket by bucket, and
leave the same store. -/
theorem independent_calls_commute (s : Store) :
    (∀ a b : Call, a.Independent b →
      s.tell [b, a] = ((s.tell [a, b]).1.reverse, (s.tell [a, b]).2)) ∧
    ∀ xs ys : List Call,
      (∀ bucket, xs.filter (·.isTo bucket) = ys.filter (·.isTo bucket)) →
        (s.tell xs).2 = (s.tell ys).2 ∧
        ∀ bucket, (s.tell xs).1.filter (·.call.isTo bucket) =
          (s.tell ys).1.filter (·.call.isTo bucket) := by
  constructor
  · intro a b h
    simp only [Store.tell_eq_made_cons, Store.made_next_of_independent h,
      Store.made_next_of_independent h.symm, Store.next_comm_of_independent h]
    rfl
  · intro xs ys h
    have hx (bucket : Option String) := Store.tell_filter bucket xs (Store.AgreeOn.refl bucket s)
    have hy (bucket : Option String) := Store.tell_filter bucket ys (Store.AgreeOn.refl bucket s)
    simp only [h] at hx
    refine ⟨Store.ext_views (fun name => ?_) (fun name key => ?_), fun bucket => ?_⟩
    · exact ((hx name).2 name rfl).1.trans ((hy name).2 name rfl).1.symm
    · exact (((hx name).2 name rfl).2 key).trans (((hy name).2 name rfl).2 key).symm
    · exact (hx bucket).1.trans (hy bucket).1.symm

/-- Objects of one bucket may be stored and deleted in either order, and buckets may be set up one by
one or in turns. -/
theorem independent_calls_commute_in_turns :
    let call : String → String → String → Call := fun operation bucket key =>
      ⟨operation, .record [("Bucket", .string bucket), ("Key", .string key)]⟩
    let s := (Store.empty.tell [call "CreateBucket" "a" ""]).2
    let turns : List Call :=
      [call "CreateBucket" "b" "", call "DeleteBucket" "a" "", call "PutObject" "b" "k",
        call "PutObject" "a" "k"]
    let blocks : List Call :=
      [call "DeleteBucket" "a" "", call "PutObject" "a" "k", call "CreateBucket" "b" "",
        call "PutObject" "b" "k"]
    s.tell [call "DeleteObject" "a" "j", call "PutObject" "a" "k"] =
      ((s.tell [call "PutObject" "a" "k", call "DeleteObject" "a" "j"]).1.reverse,
        (s.tell [call "PutObject" "a" "k", call "DeleteObject" "a" "j"]).2) ∧
    (s.tell turns).2 = (s.tell blocks).2 ∧
    (s.tell turns).1.filter (·.call.isTo (some "b")) =
      (s.tell blocks).1.filter (·.call.isTo (some "b")) := by
  intro call s turns blocks
  have hkeys : (call "PutObject" "a" "k").Independent (call "DeleteObject" "a" "j") :=
    .inr ⟨by decide, by decide, by decide⟩
  have hsame (bucket : Option String) :
      turns.filter (·.isTo bucket) = blocks.filter (·.isTo bucket) := by
    by_cases ha : bucket = some "a"
    · subst ha
      rfl
    by_cases hb : bucket = some "b"
    · subst hb
      rfl
    have hnone (calls : List Call)
        (h : ∀ c ∈ calls, c.bucket? = some "a" ∨ c.bucket? = some "b") :
        calls.filter (·.isTo bucket) = [] := by
      refine List.filter_eq_nil_iff.mpr fun c hc hto => ?_
      rcases h c hc with hname | hname
      · exact ha ((beq_iff_eq.mp hto).symm.trans hname)
      · exact hb ((beq_iff_eq.mp hto).symm.trans hname)
    rw [hnone turns (by decide), hnone blocks (by decide)]
  have hcommute := independent_calls_commute s
  refine ⟨hcommute.1 _ _ hkeys, ?_⟩
  have hruns := hcommute.2 turns blocks hsame
  exact ⟨hruns.1, hruns.2 (some "b")⟩

end Storage

end ServiceDoubles
