/-!
# ServiceDoubles.SortedMap

Finite maps from texts, kept in ascending order of the keys.

Design points:
- `Entries` holds the operations on plain lists of entries, which JSON objects use as well; a
  `SortedMap` is such a list with the proof that its keys ascend.
- The view of a map is `get?`. Every operation is described by what it does to the view, and two
  maps with the same view are equal (`SortedMap.ext_get?`).
-/

namespace ServiceDoubles

/-! ### Lists of entries -/

namespace Entries

variable {α : Type}

/-- The keys ascend, so that no key occurs twice. -/
def Ascending (entries : List (String × α)) : Prop := entries.Pairwise fun a b => a.1 < b.1

/-- Sets `key` in ascending entries, replacing what was there. -/
def insert (key : String) (value : α) : List (String × α) → List (String × α)
  | [] => [(key, value)]
  | (k, v) :: rest =>
    if key < k then (key, value) :: (k, v) :: rest
    else if key = k then (key, value) :: rest
    else (k, v) :: insert key value rest

/-- Removes `key`. -/
def erase (key : String) (entries : List (String × α)) : List (String × α) :=
  entries.filter fun e => e.1 ≠ key

theorem mem_insert_key {key : String} {value : α} {entries : List (String × α)} {e : String × α}
    (h : e ∈ insert key value entries) : e.1 = key ∨ e ∈ entries := by
  induction entries with
  | nil => simp_all [insert]
  | cons head rest ih =>
    obtain ⟨k, v⟩ := head
    unfold insert at h
    split at h
    · rcases List.mem_cons.mp h with rfl | h
      · exact .inl rfl
      · exact .inr h
    · split at h
      · rcases List.mem_cons.mp h with rfl | h
        · exact .inl rfl
        · exact .inr (List.mem_cons_of_mem _ h)
      · rcases List.mem_cons.mp h with rfl | h
        · exact .inr List.mem_cons_self
        · exact (ih h).imp_right (List.mem_cons_of_mem _)

theorem lt_of_not_lt_of_ne {a b : String} (hlt : ¬ a < b) (hne : a ≠ b) : b < a :=
  Std.lt_of_le_of_ne (String.not_lt.mp hlt) hne.symm

theorem ascending_insert {key : String} {value : α} {entries : List (String × α)}
    (h : Ascending entries) : Ascending (insert key value entries) := by
  induction entries with
  | nil => simp [insert, Ascending]
  | cons head rest ih =>
    obtain ⟨k, v⟩ := head
    obtain ⟨hk, hrest⟩ := List.pairwise_cons.mp h
    unfold insert
    split
    next hlt =>
      refine List.pairwise_cons.mpr ⟨fun e he => ?_, h⟩
      rcases List.mem_cons.mp he with rfl | he
      · exact hlt
      · exact String.lt_trans hlt (hk e he)
    next hlt =>
      split
      next heq => exact List.pairwise_cons.mpr ⟨fun e he => heq ▸ hk e he, hrest⟩
      next hne =>
        refine List.pairwise_cons.mpr ⟨fun e he => ?_, ih hrest⟩
        rcases mem_insert_key he with heq | he
        · exact heq ▸ lt_of_not_lt_of_ne hlt hne
        · exact hk e he

theorem ascending_erase {key : String} {entries : List (String × α)} (h : Ascending entries) :
    Ascending (erase key entries) := h.filter _

/-- A key above all others comes last. -/
theorem insert_of_forall_lt {key : String} (value : α) {entries : List (String × α)}
    (h : ∀ e ∈ entries, e.1 < key) : insert key value entries = entries ++ [(key, value)] := by
  induction entries with
  | nil => rfl
  | cons head rest ih =>
    have hlt := h head List.mem_cons_self
    unfold insert
    have hne : key ≠ head.1 := fun heq => String.lt_irrefl key (by rw [← heq] at hlt; exact hlt)
    rw [if_neg (String.lt_asymm hlt), if_neg hne,
      ih (fun e he => h e (List.mem_cons_of_mem _ he)), List.cons_append]

/-- Inserting ascending entries one by one behind others appends them. -/
theorem foldl_insert_of_ascending {as bs : List (String × α)} (h : Ascending (as ++ bs)) :
    bs.foldl (fun sorted e => insert e.1 e.2 sorted) as = as ++ bs := by
  induction bs generalizing as with
  | nil => simp
  | cons b bs ih =>
    have hlt : ∀ e ∈ as, e.1 < b.1 := fun e he =>
      (List.pairwise_append.mp h).2.2 e he b List.mem_cons_self
    rw [List.foldl_cons, insert_of_forall_lt b.2 hlt, ih (by simpa using h)]
    simp

theorem lookup_insert (key : String) (value : α) (entries : List (String × α)) (other : String) :
    (insert key value entries).lookup other =
      if other = key then some value else entries.lookup other := by
  induction entries with
  | nil => simp only [insert, List.lookup_cons, List.lookup_nil]; grind
  | cons head rest ih =>
    obtain ⟨k, v⟩ := head
    unfold insert
    split
    · simp only [List.lookup_cons]; grind
    · split <;> simp only [List.lookup_cons] <;> grind

theorem lookup_erase (key : String) (entries : List (String × α)) (other : String) :
    (erase key entries).lookup other = if other = key then none else entries.lookup other := by
  induction entries with
  | nil => simp [erase]
  | cons head rest ih =>
    obtain ⟨k, v⟩ := head
    unfold erase at ih ⊢
    by_cases hk : k = key
    · rw [List.filter_cons_of_neg (by simp [hk]), ih, List.lookup_cons]; grind
    · rw [List.filter_cons_of_pos (by simp [hk]), List.lookup_cons, List.lookup_cons]; grind

theorem lookup_eq_some_iff {entries : List (String × α)} (h : Ascending entries) {key : String}
    {value : α} : entries.lookup key = some value ↔ (key, value) ∈ entries := by
  induction entries with
  | nil => simp
  | cons head rest ih =>
    obtain ⟨k, v⟩ := head
    obtain ⟨hk, hrest⟩ := List.pairwise_cons.mp h
    rw [List.lookup_cons, List.mem_cons, ← ih hrest]
    by_cases heq : key = k
    · subst heq
      have hnone : rest.lookup key ≠ some value := fun he =>
        String.lt_irrefl key (hk (key, value) ((ih hrest).mp he))
      simp [hnone, eq_comm]
    · simp [heq, beq_eq_false_iff_ne.mpr heq]

/-- Ascending entries are determined by what they give for each key. -/
theorem eq_of_lookup {as bs : List (String × α)} (ha : Ascending as) (hb : Ascending bs)
    (h : ∀ key, as.lookup key = bs.lookup key) : as = bs := by
  have hmem (e : String × α) : e ∈ as ↔ e ∈ bs := by
    rw [← lookup_eq_some_iff ha, ← lookup_eq_some_iff hb, h]
  induction as generalizing bs with
  | nil =>
    cases bs with
    | nil => rfl
    | cons b bs => exact absurd ((hmem b).mpr List.mem_cons_self) List.not_mem_nil
  | cons a as ih =>
    cases bs with
    | nil => exact absurd ((hmem a).mp List.mem_cons_self) List.not_mem_nil
    | cons b bs =>
      obtain ⟨haa, has⟩ := List.pairwise_cons.mp ha
      obtain ⟨hbb, hbs⟩ := List.pairwise_cons.mp hb
      have hab : a = b := by
        rcases List.mem_cons.mp ((hmem a).mp List.mem_cons_self) with heq | hin
        · exact heq
        · rcases List.mem_cons.mp ((hmem b).mpr List.mem_cons_self) with heq | hin'
          · exact heq.symm
          · exact absurd (haa b hin') (String.lt_asymm (hbb a hin))
      subst hab
      have hrest (e : String × α) : e ∈ as ↔ e ∈ bs := by
        constructor
        · intro he
          rcases List.mem_cons.mp ((hmem e).mp (List.mem_cons_of_mem _ he)) with rfl | h'
          · exact absurd (haa _ he) (String.lt_irrefl _)
          · exact h'
        · intro he
          rcases List.mem_cons.mp ((hmem e).mpr (List.mem_cons_of_mem _ he)) with rfl | h'
          · exact absurd (hbb _ he) (String.lt_irrefl _)
          · exact h'
      rw [ih has hbs (fun key => ?_) hrest]
      refine Option.ext fun value => ?_
      rw [lookup_eq_some_iff has, lookup_eq_some_iff hbs, hrest]

end Entries

/-! ### Maps -/

/-- A finite map from texts, its entries in ascending order of the keys. -/
structure SortedMap (α : Type) where
  entries : List (String × α)
  ascending : Entries.Ascending entries

namespace SortedMap

variable {α : Type}

/-- The map without entries. -/
def empty : SortedMap α := ⟨[], List.Pairwise.nil⟩

instance : Inhabited (SortedMap α) := ⟨empty⟩

/-- The value of `key`, if there is one. -/
def get? (m : SortedMap α) (key : String) : Option α := m.entries.lookup key

/-- Whether `key` has a value. -/
def contains (m : SortedMap α) (key : String) : Bool := (m.get? key).isSome

/-- The map with `value` for `key`. -/
def insert (m : SortedMap α) (key : String) (value : α) : SortedMap α :=
  ⟨Entries.insert key value m.entries, Entries.ascending_insert m.ascending⟩

/-- The map without `key`. -/
def erase (m : SortedMap α) (key : String) : SortedMap α :=
  ⟨Entries.erase key m.entries, Entries.ascending_erase m.ascending⟩

/-- The keys, ascending. -/
def keys (m : SortedMap α) : List String := m.entries.map (·.1)

/-- Whether there is no entry. -/
def isEmpty (m : SortedMap α) : Bool := m.entries.isEmpty

@[simp] theorem get?_empty (key : String) : (empty : SortedMap α).get? key = none := rfl

theorem get?_insert (m : SortedMap α) (key : String) (value : α) (other : String) :
    (m.insert key value).get? other = if other = key then some value else m.get? other :=
  Entries.lookup_insert ..

theorem get?_erase (m : SortedMap α) (key other : String) :
    (m.erase key).get? other = if other = key then none else m.get? other :=
  Entries.lookup_erase ..

@[simp] theorem get?_insert_self (m : SortedMap α) (key : String) (value : α) :
    (m.insert key value).get? key = some value := by
  rw [get?_insert, if_pos rfl]

theorem get?_insert_of_ne (m : SortedMap α) {key other : String} (h : other ≠ key) (value : α) :
    (m.insert key value).get? other = m.get? other := by
  rw [get?_insert, if_neg h]

@[simp] theorem get?_erase_self (m : SortedMap α) (key : String) :
    (m.erase key).get? key = none := by
  rw [get?_erase, if_pos rfl]

theorem get?_erase_of_ne (m : SortedMap α) {key other : String} (h : other ≠ key) :
    (m.erase key).get? other = m.get? other := by
  rw [get?_erase, if_neg h]

/-- Two maps with the same values are equal. -/
theorem ext_get? {m n : SortedMap α} (h : ∀ key, m.get? key = n.get? key) : m = n := by
  cases m with | mk as ha => cases n with | mk bs hb =>
  simp only [mk.injEq]
  exact Entries.eq_of_lookup ha hb h

theorem mem_keys_iff {m : SortedMap α} {key : String} : key ∈ m.keys ↔ (m.get? key).isSome := by
  simp only [keys, get?, List.mem_map, Option.isSome_iff_exists,
    Entries.lookup_eq_some_iff m.ascending]
  exact ⟨fun ⟨e, he, hk⟩ => ⟨e.2, hk ▸ he⟩, fun ⟨v, hv⟩ => ⟨_, hv, rfl⟩⟩

theorem keys_ascending (m : SortedMap α) : m.keys.Pairwise (· < ·) :=
  List.pairwise_map.mpr m.ascending

theorem isEmpty_iff {m : SortedMap α} : m.isEmpty ↔ ∀ key, m.get? key = none := by
  constructor
  · intro h key
    rw [get?, List.isEmpty_iff.mp h, List.lookup_nil]
  · intro h
    have : m = empty := ext_get? h
    rw [this]; rfl

end SortedMap

end ServiceDoubles
