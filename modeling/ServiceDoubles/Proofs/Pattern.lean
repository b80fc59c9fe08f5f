import Mathlib.Data.List.Forall2
import ServiceDoubles.Pattern

/-!
# ServiceDoubles.Proofs.Pattern

**Sameness** of JSON values, and what follows for expectations: every value is accepted where it is
expected itself, also one that holds the reserved text.

There is one inversion lemma for each sort of value that can be expected, such as
`Pattern.accepts_object_iff`. They are the only places where the comparisons are opened; facts about
expectations follow from them by induction on the value (`Json.induction`).
-/

namespace ServiceDoubles

/-! ### Lists that are related item by item -/

section

variable {α β γ : Type} {R : α → β → Prop} {S : β → γ → Prop} {xs : List α} {ys : List β}

theorem forall₂_imp_of_mem {R' : α → β → Prop} (hxy : List.Forall₂ R xs ys)
    (h : ∀ x ∈ xs, ∀ y ∈ ys, R x y → R' x y) : List.Forall₂ R' xs ys := by
  obtain ⟨hlen, hzip⟩ := List.forall₂_iff_zip.mp hxy
  refine List.forall₂_iff_zip.mpr ⟨hlen, ?_⟩
  intro x y hmem
  obtain ⟨hx, hy⟩ := List.of_mem_zip hmem
  exact h x hx y hy (hzip hmem)

theorem forall₂_trans_of_mem {T : α → γ → Prop} {zs : List γ} (hxy : List.Forall₂ R xs ys)
    (hyz : List.Forall₂ S ys zs) (h : ∀ x ∈ xs, ∀ y z, R x y → S y z → T x z) :
    List.Forall₂ T xs zs := by
  induction hxy generalizing zs with
  | nil =>
      cases hyz
      exact .nil
  | cons hx _ ih =>
      cases hyz with
      | cons hy hrest =>
        refine .cons (h _ List.mem_cons_self _ _ hx hy) (ih hrest ?_)
        intro x hmem
        exact h x (List.mem_cons_of_mem _ hmem)

end

/-! ### Numbers -/

theorem Double.same_self (a : Double) : a.same a = true := by
  simp only [Double.same, beq_self_eq_true, Bool.and_self, Bool.or_true]

theorem Number.same_self (a : Number) : a.same a = true := by
  cases a with
  | integer i => exact beq_self_eq_true i
  | double d => exact d.same_self

theorem Double.same_iff {a b : Double} :
    a.same b = true ↔ (a.rank = 0 ∧ b.rank = 0) ∨ a = b := by
  obtain ⟨_, _⟩ := a
  obtain ⟨_, _⟩ := b
  simp [Double.same]

theorem Number.same_trans {a b c : Number} (hab : a.same b = true) (hbc : b.same c = true) :
    a.same c = true := by
  cases a <;> cases b <;> cases c <;>
    simp only [Number.same, Bool.false_eq_true, beq_iff_eq] at hab hbc ⊢
  case integer => exact hab.trans hbc
  case double a b c =>
    rw [Double.same_iff] at hab hbc ⊢
    rcases hab with hab | rfl
    · rcases hbc with hbc | rfl
      · exact .inl ⟨hab.1, hbc.2⟩
      · exact .inl hab
    · exact hbc

theorem Number.same_symm {a b : Number} (h : a.same b = true) : b.same a = true := by
  cases a <;> cases b <;> simp only [Number.same, Bool.false_eq_true, beq_iff_eq] at h ⊢
  case integer => exact h.symm
  case double a b =>
    rw [Double.same_iff] at h ⊢
    exact h.imp And.symm Eq.symm

namespace Json

/-! ### Values by their parts -/

section

variable {P : Json → Prop}

mutual

/-- Induction on a value: what holds of an array or of an object may be shown from what holds of all
its parts. -/
@[elab_as_elim]
theorem induction (null : P .null) (bool : ∀ b, P (.bool b)) (number : ∀ n, P (.number n))
    (string : ∀ s, P (.string s)) (array : ∀ items, (∀ v ∈ items, P v) → P (.array items))
    (object : ∀ fields, (∀ f ∈ fields, P f.2) → P (.object fields)) : ∀ j, P j
  | .null => null
  | .bool b => bool b
  | .number n => number n
  | .string s => string s
  | .array items => array items (induction_items null bool number string array object items)
  | .object fields => object fields (induction_fields null bool number string array object fields)

theorem induction_items (null : P .null) (bool : ∀ b, P (.bool b)) (number : ∀ n, P (.number n))
    (string : ∀ s, P (.string s)) (array : ∀ items, (∀ v ∈ items, P v) → P (.array items))
    (object : ∀ fields, (∀ f ∈ fields, P f.2) → P (.object fields)) :
    ∀ items : List Json, ∀ v ∈ items, P v
  | [] => List.forall_mem_nil P
  | v :: rest => List.forall_mem_cons.mpr
      ⟨induction null bool number string array object v,
        induction_items null bool number string array object rest⟩

theorem induction_fields (null : P .null) (bool : ∀ b, P (.bool b)) (number : ∀ n, P (.number n))
    (string : ∀ s, P (.string s)) (array : ∀ items, (∀ v ∈ items, P v) → P (.array items))
    (object : ∀ fields, (∀ f ∈ fields, P f.2) → P (.object fields)) :
    ∀ fields : List (String × Json), ∀ f ∈ fields, P f.2
  | [] => List.forall_mem_nil _
  | (_, v) :: rest => List.forall_mem_cons.mpr
      ⟨induction null bool number string array object v,
        induction_fields null bool number string array object rest⟩

end

end

/-! ### Sameness -/

mutual

theorem same_self (a : Json) : a.same a = true := by
  cases a with
  | null => rfl
  | bool b => exact beq_self_eq_true b
  | number n => exact n.same_self
  | string s => exact beq_self_eq_true s
  | array items => exact sameItems_self items
  | object fields => exact sameFields_self fields

theorem sameItems_self (items : List Json) : sameItems items items = true := by
  cases items with
  | nil => rfl
  | cons a rest => rw [sameItems, same_self a, sameItems_self rest, Bool.and_self]

theorem sameFields_self (fields : List (String × Json)) : sameFields fields fields = true := by
  cases fields with
  | nil => rfl
  | cons f rest =>
      rw [sameFields, beq_self_eq_true, same_self f.2, sameFields_self rest, Bool.and_self,
        Bool.and_self]

end

theorem sameItems_iff {as bs : List Json} :
    sameItems as bs = true ↔ List.Forall₂ (fun a b => a.same b = true) as bs := by
  induction as generalizing bs with
  | nil => cases bs <;> simp [sameItems]
  | cons a as ih => cases bs <;> simp [sameItems, ih]

theorem sameFields_iff {as bs : List (String × Json)} :
    sameFields as bs = true ↔
      List.Forall₂ (fun a b => a.1 = b.1 ∧ a.2.same b.2 = true) as bs := by
  induction as generalizing bs with
  | nil => cases bs <;> simp [sameFields]
  | cons a as ih => cases bs <;> simp [sameFields, ih]

theorem same_string_iff {s : String} {a : Json} : same (.string s) a = true ↔ a = .string s := by
  cases a with
  | string t => simpa [same] using eq_comm
  | _ => simp [same]

theorem same_array_iff {items : List Json} {a : Json} :
    same (.array items) a = true ↔
      ∃ as, a = .array as ∧ List.Forall₂ (fun v w => v.same w = true) items as := by
  cases a <;> simp [same, sameItems_iff]

theorem same_object_iff {fields : List (String × Json)} {a : Json} :
    same (.object fields) a = true ↔
      ∃ as, a = .object as ∧
        List.Forall₂ (fun f g => f.1 = g.1 ∧ f.2.same g.2 = true) fields as := by
  cases a <;> simp [same, sameFields_iff]

theorem same_symm {a b : Json} (h : a.same b = true) : b.same a = true := by
  induction a using induction generalizing b with
  | null => cases b <;> simp_all [same]
  | bool x => cases b <;> simp_all [same]
  | string s => cases b <;> simp_all [same]
  | number n =>
      cases b with
      | number m => exact Number.same_symm h
      | _ => cases h
  | array items ih =>
      obtain ⟨as, rfl, has⟩ := same_array_iff.mp h
      have hback := forall₂_imp_of_mem has fun v hv _ _ => ih v hv
      exact same_array_iff.mpr ⟨items, rfl, hback.flip⟩
  | object fields ih =>
      obtain ⟨as, rfl, has⟩ := same_object_iff.mp h
      have hback := forall₂_imp_of_mem has fun f hf _ _ hfg => And.imp Eq.symm (ih f hf) hfg
      exact same_object_iff.mpr ⟨fields, rfl, hback.flip⟩

end Json

namespace Pattern

mutual

/-- Whatever is expected is accepted itself. -/
theorem accepts_self (e : Json) : accepts e e = true := by
  cases e with
  | null => rfl
  | bool b => exact Json.same_self (.bool b)
  | number n => exact Json.same_self (.number n)
  | string s => rw [accepts, Json.same_self, Bool.or_true]
  | array items => exact acceptsItems_self items
  | object fields => exact acceptsFields_self fields

theorem acceptsItems_self (items : List Json) : acceptsItems items items = true := by
  cases items with
  | nil => rfl
  | cons e rest => rw [acceptsItems, accepts_self e, acceptsItems_self rest, Bool.and_self]

theorem acceptsFields_self (fields : List (String × Json)) :
    acceptsFields fields fields = true := by
  cases fields with
  | nil => rfl
  | cons f rest =>
      rw [acceptsFields, beq_self_eq_true, accepts_self f.2, acceptsFields_self rest,
        Bool.and_self, Bool.and_self]

end

/-! ### What a value accepts -/

variable {a : Json}

@[simp] theorem accepts_any (a : Json) : accepts any a = true := by
  simp [any, accepts]

theorem accepts_null_iff : accepts .null a = true ↔ a = .null := by
  cases a <;> simp [accepts, Json.same]

theorem accepts_bool_iff {b : Bool} : accepts (.bool b) a = true ↔ a = .bool b := by
  cases a with
  | bool c => simpa [accepts, Json.same] using eq_comm
  | _ => simp [accepts, Json.same]

theorem accepts_number_iff {n : Number} :
    accepts (.number n) a = true ↔ ∃ m, a = .number m ∧ n.same m = true := by
  cases a <;> simp [accepts, Json.same]

theorem accepts_string_iff {s : String} :
    accepts (.string s) a = true ↔ s = wildcard ∨ a = .string s := by
  rw [accepts, Bool.or_eq_true, beq_iff_eq, Json.same_string_iff]

theorem acceptsItems_iff {es as : List Json} :
    acceptsItems es as = true ↔ List.Forall₂ (fun e a => accepts e a = true) es as := by
  induction es generalizing as with
  | nil => cases as <;> simp [acceptsItems]
  | cons e es ih => cases as <;> simp [acceptsItems, ih]

theorem acceptsFields_iff {es as : List (String × Json)} :
    acceptsFields es as = true ↔
      List.Forall₂ (fun e a => e.1 = a.1 ∧ accepts e.2 a.2 = true) es as := by
  induction es generalizing as with
  | nil => cases as <;> simp [acceptsFields]
  | cons e es ih => cases as <;> simp [acceptsFields, ih]

theorem accepts_array_iff {items : List Json} :
    accepts (.array items) a = true ↔
      ∃ as, a = .array as ∧ List.Forall₂ (fun e v => accepts e v = true) items as := by
  cases a <;> simp [accepts, Json.same, acceptsItems_iff]

theorem accepts_object_iff {fields : List (String × Json)} :
    accepts (.object fields) a = true ↔
      ∃ as, a = .object as ∧
        List.Forall₂ (fun e f => e.1 = f.1 ∧ accepts e.2 f.2 = true) fields as := by
  cases a <;> simp [accepts, Json.same, acceptsFields_iff]

end Pattern

end ServiceDoubles
