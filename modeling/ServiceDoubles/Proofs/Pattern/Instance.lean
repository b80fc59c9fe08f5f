import Mathlib.Data.List.Sort
import ServiceDoubles.Proofs.Pattern

/-!
# ServiceDoubles.Proofs.Pattern.Instance

What an expectation **accepts**, said without the comparison that decides it.

An instance of an expectation has some value in the place of each wildcard, and all else as it is
(`Pattern.fill`). The values are chosen by position, so that two wildcards are free of each other.
An expectation accepts its instances, up to sameness, and nothing else; the values that make an
accepted value an instance are its own parts (`Json.valueAt`).

Position by position the same relation reads: whatever stands in the expectation is a wildcard, or
its counterpart in the value is alike (`Json.Alike`).
-/

namespace ServiceDoubles

open List (Forall₂)

/-! ### Entries -/

namespace Entries

variable {α β : Type} {as : List (String × α)} {bs : List (String × β)}

/-- Ascending entries with the same keys list them alike. -/
theorem keys_eq_of_mem_iff (ha : Ascending as) (hb : Ascending bs)
    (h : ∀ key, key ∈ as.map (·.1) ↔ key ∈ bs.map (·.1)) : as.map (·.1) = bs.map (·.1) :=
  List.Pairwise.eq_of_mem_iff (List.pairwise_map.mpr ha) (List.pairwise_map.mpr hb) h

/-- Where there are as many keys on either side, it is enough to look for those of one side. -/
theorem keys_eq_of_subset (ha : Ascending as) (hb : Ascending bs) (hlen : as.length = bs.length)
    (h : as.map (·.1) ⊆ bs.map (·.1)) : as.map (·.1) = bs.map (·.1) := by
  have hnodup : (as.map (·.1)).Nodup := (List.pairwise_map.mpr ha).nodup
  have hperm : (as.map (·.1)).Perm (bs.map (·.1)) :=
    (List.subperm_of_subset hnodup h).perm_of_length_le (by simp [hlen])
  exact keys_eq_of_mem_iff ha hb fun key => hperm.mem_iff

/-- In entries that pair up key for key, a key has its value on both sides. -/
theorem exists_lookup_of_forall₂ (R : α → β → Prop)
    (h : Forall₂ (fun a b => a.1 = b.1 ∧ R a.2 b.2) as bs) {key : String} {a : α}
    (ha : as.lookup key = some a) : ∃ b, bs.lookup key = some b ∧ R a b := by
  induction h with
  | nil => cases ha
  | @cons x y xs ys hxy _ ih =>
      obtain ⟨k, x⟩ := x
      obtain ⟨_, y⟩ := y
      obtain ⟨rfl, hR⟩ := hxy
      by_cases hk : key = k
      · subst hk
        simp only [List.lookup_cons, beq_self_eq_true, Option.some.injEq] at ha
        exact ⟨y, by simp, ha ▸ hR⟩
      · have hbeq : (key == k) = false := by simpa using hk
        simp only [List.lookup_cons, hbeq] at ha ⊢
        exact ih ha

theorem keys_eq_of_forall₂ (R : α → β → Prop)
    (h : Forall₂ (fun a b => a.1 = b.1 ∧ R a.2 b.2) as bs) :
    as.map (·.1) = bs.map (·.1) := by
  induction h with
  | nil => rfl
  | cons hab _ ih => rw [List.map_cons, List.map_cons, hab.1, ih]

/-- Entries with the same keys pair up key for key if the values of each key are related. -/
theorem forall₂_of_lookup (R : α → β → Prop) (ha : Ascending as) (hb : Ascending bs)
    (hkeys : as.map (·.1) = bs.map (·.1))
    (h : ∀ key a b, as.lookup key = some a → bs.lookup key = some b → R a b) :
    Forall₂ (fun a b => a.1 = b.1 ∧ R a.2 b.2) as bs := by
  have hpairs : Forall₂ (fun a b => a.1 = b.1) as bs := by
    refine List.forall₂_map_left_iff.mp (List.forall₂_map_right_iff.mp ?_)
    exact List.forall₂_eq_eq_eq ▸ hkeys
  refine forall₂_imp_of_mem hpairs ?_
  rintro ⟨k, a⟩ hleft ⟨_, b⟩ hright rfl
  exact ⟨rfl, h k a b ((lookup_eq_some_iff ha).mpr hleft) ((lookup_eq_some_iff hb).mpr hright)⟩

end Entries

namespace Json

/-! ### Positions -/

/-- A step from a value to one of its parts. -/
inductive Part where
  /-- The value of a key. -/
  | key (key : String)
  /-- An item, counted from zero. -/
  | item (index : Nat)

/-- The steps from a value to a part of a part, outermost first. -/
abbrev Position := List Part

/-- The part, if the value has it. -/
def part? (j : Json) : Part → Option Json
  | .key k => j.field? k
  | .item i => j.items?.bind (·[i]?)

/-- What stands at the position. -/
def at? (j : Json) : Position → Option Json
  | [] => some j
  | p :: rest => (j.part? p).bind (·.at? rest)

/-- A value whose objects list their fields by ascending key, each key once. -/
inductive Proper : Json → Prop
  | null : Proper .null
  | bool (b : Bool) : Proper (.bool b)
  | number (n : Number) : Proper (.number n)
  | string (s : String) : Proper (.string s)
  | array {items : List Json} : (∀ v ∈ items, Proper v) → Proper (.array items)
  | object {fields : List (String × Json)} :
      Entries.Ascending fields → (∀ f ∈ fields, Proper f.2) → Proper (.object fields)

/-- What stands at the position of a value that may be missing, or null. -/
def valueAt (j : Option Json) (p : Position) : Json := (j.bind (·.at? p)).getD .null

theorem Proper.part? {j v : Json} (hj : j.Proper) {p : Part} (h : j.part? p = some v) :
    v.Proper := by
  cases p with
  | key k =>
      cases hj with
      | object hasc hfields =>
          exact hfields (k, v) ((Entries.lookup_eq_some_iff hasc).mp h)
      | _ => cases h
  | item i =>
      cases hj with
      | array hitems => exact hitems v (List.mem_of_getElem? h)
      | _ => cases h

theorem Proper.at? {j v : Json} (hj : j.Proper) {p : Position} (h : j.at? p = some v) :
    v.Proper := by
  induction p generalizing j with
  | nil =>
      cases h
      exact hj
  | cons p rest ih =>
      obtain ⟨u, hu, hrest⟩ := Option.bind_eq_some_iff.mp h
      exact ih (hj.part? hu) hrest

theorem Proper.valueAt {j : Json} (hj : j.Proper) (p : Position) :
    (Json.valueAt (some j) p).Proper := by
  unfold Json.valueAt
  cases h : (some j).bind (·.at? p) with
  | none => exact .null
  | some v => exact hj.at? h

/-- The two values are alike, their parts apart: they are objects with the same keys, arrays of the
same length, or the same. -/
def Alike : Json → Json → Prop
  | .object es, a => ∃ as, a = .object as ∧ ∀ k, k ∈ es.map (·.1) ↔ k ∈ as.map (·.1)
  | .array es, a => ∃ as, a = .array as ∧ es.length = as.length
  | e, a => e.same a = true

end Json

namespace Pattern

open Json (Position)

mutual
/-- The expectation with a value in the place of each wildcard, chosen by its position. -/
def fill (choice : Position → Json) : Json → Json
  | .string s => if s = wildcard then choice [] else .string s
  | .array items => .array (fillItems (fun i p => choice (.item i :: p)) items)
  | .object fields => .object (fillFields (fun k p => choice (.key k :: p)) fields)
  | e => e
/-- The same for items, each with a choice of its own. -/
def fillItems (choice : Nat → Position → Json) : List Json → List Json
  | [] => []
  | e :: rest => fill (choice 0) e :: fillItems (fun i => choice (i + 1)) rest
/-- The same for the values of fields. -/
def fillFields (choice : String → Position → Json) :
    List (String × Json) → List (String × Json)
  | [] => []
  | (k, e) :: rest => (k, fill (choice k) e) :: fillFields choice rest
end

/-! ### Instances -/

theorem forall₂_fillItems (choice : Nat → Position → Json) (items : List Json) :
    Forall₂ (fun e b => ∃ c, b = fill c e) items (fillItems choice items) := by
  induction items generalizing choice with
  | nil => exact .nil
  | cons e rest ih => exact .cons ⟨_, rfl⟩ (ih _)

theorem forall₂_fillFields (choice : String → Position → Json) (fields : List (String × Json)) :
    Forall₂ (fun e b => e.1 = b.1 ∧ ∃ c, b.2 = fill c e.2) fields (fillFields choice fields) := by
  induction fields with
  | nil => exact .nil
  | cons e rest ih => exact .cons ⟨rfl, _, rfl⟩ ih

/-- What is the same as an instance is accepted. -/
theorem accepts_of_same_fill {e a : Json} {choice : Position → Json}
    (h : (fill choice e).same a = true) : accepts e a = true := by
  induction e using Json.induction generalizing choice a with
  | null => exact h
  | bool b => exact h
  | number n => exact h
  | string s =>
      by_cases hs : s = wildcard
      · exact hs ▸ accepts_any a
      · rw [fill, if_neg hs] at h
        rw [accepts, h, Bool.or_true]
  | array items ih =>
      obtain ⟨as, rfl, has⟩ := Json.same_array_iff.mp h
      refine accepts_array_iff.mpr ⟨as, rfl, ?_⟩
      refine forall₂_trans_of_mem (forall₂_fillItems _ items) has ?_
      rintro v hv _ w ⟨c, rfl⟩ hw
      exact ih v hv hw
  | object fields ih =>
      obtain ⟨as, rfl, has⟩ := Json.same_object_iff.mp h
      refine accepts_object_iff.mpr ⟨as, rfl, ?_⟩
      refine forall₂_trans_of_mem (forall₂_fillFields _ fields) has ?_
      rintro f hf ⟨_, _⟩ g ⟨hkey, c, rfl⟩ ⟨hkey', hsame⟩
      exact ⟨hkey.trans hkey', ih f hf hsame⟩

/-- An item of an accepted array stands where its expectation stands. -/
theorem forall₂_fillItems_valueAt {items as : List Json}
    (h : Forall₂ (fun e a => (fill (Json.valueAt (some a)) e).same a = true) items as) :
    Forall₂ (fun b a => b.same a = true) (fillItems (fun i => Json.valueAt as[i]?) items) as := by
  induction h with
  | nil => exact .nil
  | cons hfirst _ ih => exact .cons hfirst ih

/-- The value of a field of an accepted object is found under its key. -/
theorem forall₂_fillFields_valueAt {look : String → Option Json} {fields as : List (String × Json)}
    (hlook : ∀ f ∈ as, look f.1 = some f.2)
    (h : Forall₂ (fun e a => e.1 = a.1 ∧ (fill (Json.valueAt (some a.2)) e.2).same a.2 = true)
      fields as) :
    Forall₂ (fun b a => b.1 = a.1 ∧ b.2.same a.2 = true)
      (fillFields (fun k => Json.valueAt (look k)) fields) as := by
  induction h with
  | nil => exact .nil
  | @cons e a fields as hfirst _ ih =>
      have hvalue : look e.1 = some a.2 := hfirst.1 ▸ hlook a List.mem_cons_self
      refine .cons ⟨hfirst.1, ?_⟩ (ih fun f hf => hlook f (List.mem_cons_of_mem _ hf))
      show (fill (Json.valueAt (look e.1)) e.2).same a.2 = true
      rw [hvalue]
      exact hfirst.2

/-- An accepted value is the instance with its own parts in the place of the wildcards. -/
theorem same_fill_valueAt {e a : Json} (ha : a.Proper) (h : accepts e a = true) :
    (fill (Json.valueAt (some a)) e).same a = true := by
  induction e using Json.induction generalizing a with
  | null => exact h
  | bool b => exact h
  | number n => exact h
  | string s =>
      by_cases hs : s = wildcard
      · rw [fill, if_pos hs]
        exact Json.same_self a
      · rw [fill, if_neg hs]
        obtain rfl := (accepts_string_iff.mp h).resolve_left hs
        exact Json.same_self _
  | array items ih =>
      obtain ⟨as, rfl, has⟩ := accepts_array_iff.mp h
      cases ha with
      | array hproper =>
        refine Json.same_array_iff.mpr ⟨as, rfl, forall₂_fillItems_valueAt ?_⟩
        exact forall₂_imp_of_mem has fun e he v hv hacc => ih e he (hproper v hv) hacc
  | object fields ih =>
      obtain ⟨as, rfl, has⟩ := accepts_object_iff.mp h
      cases ha with
      | object hasc hproper =>
        refine Json.same_object_iff.mpr ⟨as, rfl, forall₂_fillFields_valueAt ?_ ?_⟩
        · intro f hf
          exact (Entries.lookup_eq_some_iff hasc).mpr hf
        · refine forall₂_imp_of_mem has ?_
          rintro e he f hf ⟨hkey, hacc⟩
          exact ⟨hkey, ih e he (hproper f hf) hacc⟩

/-! ### Position by position -/

theorem exists_accepts_part {e a e' : Json} {q : Json.Part} (h : accepts e a = true)
    (he' : e.part? q = some e') : ∃ a', a.part? q = some a' ∧ accepts e' a' = true := by
  cases q with
  | key k =>
      cases e with
      | object es =>
          obtain ⟨as, rfl, has⟩ := accepts_object_iff.mp h
          exact Entries.exists_lookup_of_forall₂ (accepts · · = true) has he'
      | _ => cases he'
  | item i =>
      cases e with
      | array es =>
          obtain ⟨as, rfl, has⟩ := accepts_array_iff.mp h
          obtain ⟨hlen, hget⟩ := List.forall₂_iff_get.mp has
          obtain ⟨hi, rfl⟩ := List.getElem?_eq_some_iff.mp he'
          exact ⟨as[i], List.getElem?_eq_getElem (hlen ▸ hi), hget i hi (hlen ▸ hi)⟩
      | _ => cases he'

/-- What an expectation accepts has an accepted counterpart at every position. -/
theorem exists_accepts_at {e a v : Json} {p : Position} (h : accepts e a = true)
    (hv : e.at? p = some v) : ∃ v', a.at? p = some v' ∧ accepts v v' = true := by
  induction p generalizing e a with
  | nil =>
      cases hv
      exact ⟨a, rfl, h⟩
  | cons q rest ih =>
      obtain ⟨e', he', hrest⟩ := Option.bind_eq_some_iff.mp hv
      obtain ⟨a', ha', hacc⟩ := exists_accepts_part h he'
      obtain ⟨v', hv', haccv⟩ := ih hacc hrest
      exact ⟨v', Option.bind_eq_some_iff.mpr ⟨a', ha', hv'⟩, haccv⟩

/-- What an expectation accepts is like it, unless it is a wildcard. -/
theorem alike_of_accepts {v v' : Json} (h : accepts v v' = true) : v = any ∨ v.Alike v' := by
  cases v with
  | string s =>
      rcases accepts_string_iff.mp h with rfl | rfl
      · exact .inl rfl
      · exact .inr (Json.same_self _)
  | array items =>
      obtain ⟨as, rfl, has⟩ := accepts_array_iff.mp h
      exact .inr ⟨as, rfl, has.length_eq⟩
  | object fields =>
      obtain ⟨as, rfl, has⟩ := accepts_object_iff.mp h
      refine .inr ⟨as, rfl, fun k => ?_⟩
      rw [Entries.keys_eq_of_forall₂ (accepts · · = true) has]
  | _ => exact .inr h

/-- Whatever stands in the expectation is a wildcard, or what stands there in the value is like
it. -/
def Mirrors (e a : Json) : Prop :=
  ∀ p v, e.at? p = some v → ∃ v', a.at? p = some v' ∧ (v = any ∨ v.Alike v')

/-- Parts that stand at the same position mirror each other. -/
theorem Mirrors.part? {e a e' a' : Json} {q : Json.Part} (h : Mirrors e a)
    (he : e.part? q = some e') (ha : a.part? q = some a') : Mirrors e' a' := by
  intro p v hv
  have hcons : e.at? (q :: p) = some v := Option.bind_eq_some_iff.mpr ⟨e', he, hv⟩
  obtain ⟨v', hv', halike⟩ := h (q :: p) v hcons
  obtain ⟨b, hb, hrest⟩ := Option.bind_eq_some_iff.mp hv'
  obtain rfl : a' = b := Option.some.inj (ha.symm.trans hb)
  exact ⟨v', hrest, halike⟩

theorem Mirrors.top {e a : Json} (h : Mirrors e a) : e = any ∨ e.Alike a := by
  obtain ⟨_, hroot, htop⟩ := h [] e rfl
  cases hroot
  exact htop

/-- Nothing but the parts is left to compare, and they mirror each other in turn. -/
theorem accepts_of_mirrors {e a : Json} (he : e.Proper) (ha : a.Proper) (h : Mirrors e a) :
    accepts e a = true := by
  induction he generalizing a with
  | null => exact h.top.resolve_left Json.noConfusion
  | bool b => exact h.top.resolve_left Json.noConfusion
  | number n => exact h.top.resolve_left Json.noConfusion
  | string s =>
      rcases h.top with hany | (hsame : Json.same (.string s) a = true)
      · exact hany ▸ accepts_any a
      · exact accepts_string_iff.mpr (.inr (Json.same_string_iff.mp hsame))
  | @array items hitems ih =>
      obtain ⟨as, rfl, hlen⟩ := h.top.resolve_left Json.noConfusion
      refine accepts_array_iff.mpr ⟨as, rfl, List.forall₂_iff_get.mpr ⟨hlen, ?_⟩⟩
      intro i hi hi'
      cases ha with
      | array hproper =>
        refine ih items[i] (List.getElem_mem hi) (hproper as[i] (List.getElem_mem hi')) ?_
        exact h.part? (q := .item i) (List.getElem?_eq_getElem hi) (List.getElem?_eq_getElem hi')
  | @object fields hasc hfields ih =>
      obtain ⟨as, rfl, hkeys⟩ := h.top.resolve_left Json.noConfusion
      cases ha with
      | object hasc' hproper =>
        have hlist := Entries.keys_eq_of_mem_iff hasc hasc' hkeys
        refine accepts_object_iff.mpr ⟨as, rfl, ?_⟩
        refine Entries.forall₂_of_lookup (accepts · · = true) hasc hasc' hlist ?_
        intro k v v' hv hv'
        have hmem := (Entries.lookup_eq_some_iff hasc).mp hv
        have hmem' := (Entries.lookup_eq_some_iff hasc').mp hv'
        exact ih (k, v) hmem (hproper (k, v') hmem') (h.part? (q := .key k) hv hv')

/-! ### Objects by their keys -/

/-- Objects may be compared by the number of their fields and by the keys of the expectation. -/
theorem accepts_object_eq {es as : List (String × Json)} (he : Entries.Ascending es)
    (ha : Entries.Ascending as) :
    accepts (.object es) (.object as) =
      (es.length == as.length && es.all fun f => (as.lookup f.1).any (accepts f.2)) := by
  rw [Bool.eq_iff_iff, Bool.and_eq_true, beq_iff_eq, List.all_eq_true]
  constructor
  · intro h
    obtain ⟨_, heq, hall⟩ := accepts_object_iff.mp h
    cases heq
    refine ⟨hall.length_eq, ?_⟩
    intro f hf
    have hvalue : es.lookup f.1 = some f.2 := (Entries.lookup_eq_some_iff he).mpr hf
    obtain ⟨v, hv, hacc⟩ := Entries.exists_lookup_of_forall₂ (accepts · · = true) hall hvalue
    exact (congrArg (·.any (accepts f.2)) hv).trans hacc
  · rintro ⟨hlen, hall⟩
    have hfound (f : String × Json) (hf : f ∈ es) :
        ∃ v, as.lookup f.1 = some v ∧ accepts f.2 v = true := by
      simpa [Option.any_eq_true] using hall f hf
    have hsub : es.map (·.1) ⊆ as.map (·.1) := by
      intro k hk
      obtain ⟨f, hf, rfl⟩ := List.mem_map.mp hk
      obtain ⟨v, hv, -⟩ := hfound f hf
      exact List.mem_map.mpr ⟨(f.1, v), (Entries.lookup_eq_some_iff ha).mp hv, rfl⟩
    have hkeys := Entries.keys_eq_of_subset he ha hlen hsub
    refine accepts_object_iff.mpr ⟨as, rfl, ?_⟩
    refine Entries.forall₂_of_lookup (accepts · · = true) he ha hkeys ?_
    intro k v v' hv hv'
    obtain ⟨w, hw, hacc⟩ := hfound (k, v) ((Entries.lookup_eq_some_iff he).mp hv)
    rw [hv'] at hw
    cases hw
    exact hacc

/-- An expectation accepts exactly its instances, up to sameness. Position by position: every part of
it is a wildcard, or it has a counterpart that is an object with the same keys, an array of the same
length, or the same. An object needs to be compared only by the number of its fields and by the keys
of the expectation. -/
theorem accepts_iff_instance {e a : Json} (he : e.Proper) (ha : a.Proper) :
    (accepts e a = true ↔
      ∃ choice : Position → Json, (∀ p, (choice p).Proper) ∧ (fill choice e).same a = true) ∧
    (accepts e a = true ↔ Mirrors e a) ∧
    ∀ es as, e = .object es → a = .object as →
      accepts e a = (es.length == as.length && es.all fun f => (as.lookup f.1).any (accepts f.2)) := by
  refine ⟨⟨fun h => ?_, ?_⟩, ⟨fun h => ?_, accepts_of_mirrors he ha⟩, ?_⟩
  · exact ⟨Json.valueAt (some a), ha.valueAt, same_fill_valueAt ha h⟩
  · rintro ⟨choice, -, hsame⟩
    exact accepts_of_same_fill hsame
  · intro p v hv
    obtain ⟨v', hv', hacc⟩ := exists_accepts_at h hv
    exact ⟨v', hv', alike_of_accepts hacc⟩
  · rintro es as rfl rfl
    cases he with
    | object hasc => cases ha with
      | object hasc' => exact accepts_object_eq hasc hasc'

/-- Two wildcards stand for different values, and the reserved text is a key in both objects. -/
theorem accepts_iff_instance_nested :
    let e : Json := .object [(wildcard, .array [Json.ofInt 1, any]), ("key", any)]
    let a : Json := .object
      [(wildcard, .array [Json.ofInt 1, .number (.double ⟨false, 0⟩)]),
        ("key", .object [("inner", .null)])]
    e.Proper ∧ a.Proper ∧ Mirrors e a ∧
      ∃ choice : Position → Json, (∀ p, (choice p).Proper) ∧ (fill choice e).same a = true := by
  intro e a
  have hkeys (v w : Json) : Entries.Ascending [(wildcard, v), ("key", w)] := by
    simp only [Entries.Ascending, List.pairwise_pair]
    decide
  have hpair {α : Type} {P : α → Prop} {x y : α} (hx : P x) (hy : P y) : ∀ v ∈ [x, y], P v :=
    List.forall_mem_cons.mpr ⟨hx, List.forall_mem_singleton.mpr hy⟩
  have he : e.Proper := by
    refine .object (hkeys _ _) (hpair (.array ?_) (.string wildcard))
    exact hpair (.number _) (.string wildcard)
  have ha : a.Proper := by
    refine .object (hkeys _ _) (hpair (.array ?_) (.object ?_ ?_))
    · exact hpair (.number _) (.number _)
    · exact List.pairwise_singleton _ _
    · exact List.forall_mem_singleton.mpr .null
  have hacc : accepts e a = true := by decide
  obtain ⟨hinstance, hmirrors, -⟩ := accepts_iff_instance he ha
  exact ⟨he, ha, hmirrors.mp hacc, hinstance.mp hacc⟩

end Pattern

end ServiceDoubles
