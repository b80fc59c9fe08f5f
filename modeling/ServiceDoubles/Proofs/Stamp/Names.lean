import Mathlib.Algebra.Group.Int.Defs
import Mathlib.Algebra.Group.Nat.Defs
import ServiceDoubles.Proofs.Effect
import ServiceDoubles.Proofs.Stamp

/-!
# ServiceDoubles.Proofs.Stamp.Names

**Unique names**, whatever the clock shows while they are given.

Design points:
- The clock is an adversary: every call for a name comes with a reading of its own, and nothing
  relates the readings of different calls. That names differ rests on the counter alone
  (`exists_numbered`).
- Names that begin in different ways may still be equal, since a beginning may end in digits. They
  do differ if their numbers have equally many digits. A stamp has at most nineteen, and once one
  has nineteen, so have all later ones (`number_eq_of_name_eq`).
-/

namespace ServiceDoubles.Stamp

variable {β υ : Type}

/-! ### Decimal digits -/

/-- The text is the number in decimal digits, without a zero in front. -/
structure Spells (text : String) (n : Nat) : Prop where
  digits : ∀ c ∈ text.toList, c.isDigit = true
  head : text.toList.head? ≠ some '0'
  value : Nat.ofDigitChars 10 text.toList 0 = n

theorem digitChar_ne_zero : ∀ n < 10, 0 < n → n.digitChar ≠ '0' := by decide

theorem head?_toDigits_of_le {n : Nat} (h : 10 ≤ n) :
    (Nat.toDigits 10 n).head? = (Nat.toDigits 10 (n / 10)).head? := by
  obtain ⟨c, cs, hcons⟩ := List.exists_cons_of_ne_nil (Nat.toDigits_ne_nil (n := n / 10) (b := 10))
  rw [Nat.toDigits_of_base_le (by decide) h, hcons]
  rfl

theorem head?_toDigits_ne_zero {n : Nat} (h : 0 < n) : (Nat.toDigits 10 n).head? ≠ some '0' := by
  induction n using Nat.strongRecOn with
  | ind n ih =>
      by_cases hsmall : n < 10
      · rw [Nat.toDigits_of_lt_base hsmall]
        intro heq
        exact digitChar_ne_zero n hsmall h (Option.some.inj heq)
      · rw [head?_toDigits_of_le (Nat.le_of_not_lt hsmall)]
        exact ih (n / 10) (by omega) (by omega)

theorem spells_repr {n : Nat} (h : 0 < n) : Spells n.repr n where
  digits c hc := by
    rw [Nat.toList_repr] at hc
    exact Nat.isDigit_of_mem_toDigits (by decide) (by decide) hc
  head := by
    rw [Nat.toList_repr]
    exact head?_toDigits_ne_zero h
  value := by
    rw [Nat.toList_repr]
    exact Nat.ofDigitChars_ten_toDigits

theorem length_toDigits {n k : Nat} (hk : 0 < k) (hlow : 10 ^ k ≤ n) (hhigh : n < 10 ^ (k + 1)) :
    (Nat.toDigits 10 n).length = k + 1 := by
  have hle := (Nat.length_toDigits_le_iff (by decide) (Nat.succ_pos k)).mpr hhigh
  have hgt : ¬(Nat.toDigits 10 n).length ≤ k := fun h =>
    absurd ((Nat.length_toDigits_le_iff (by decide) hk).mp h) (Nat.not_lt.mpr hlow)
  omega

theorem intText_of_nonneg {i : Int} (h : 0 ≤ i) : intText i = i.toNat.repr := by
  have habs : i.natAbs = i.toNat := by omega
  rw [intText, if_neg (Int.not_lt.mpr h), habs, Nat.repr_eq_ofList_toDigits]

/-! ### Calls for names -/

/-- A call for a name: what the clock shows, and how the name is to begin. -/
structure Naming where
  reading : Int
  beginning : String

/-- What the call does. -/
def Naming.act (n : Naming) : Act (World β υ) String := World.uniqueName n.reading n.beginning

/-- Whenever a name is given, the counter has not come to its end: there is a stamp above the
last. -/
def CounterLasts : List Naming → World β υ → Prop
  | [], _ => True
  | n :: rest, w => w.lastStamp ≠ Int64.maxValue ∧ CounterLasts rest (n.act.effect w).2

/-- A call for a name, and the number that the name got. -/
structure Numbered where
  naming : Naming
  number : Nat

/-- The name: the number in decimal digits behind the beginning. -/
def Numbered.name (g : Numbered) : String := g.naming.beginning ++ g.number.repr

/-- The number of a name that was given after the stamp `last`. -/
structure Numbered.After (last : Int64) (g : Numbered) : Prop where
  above : last.toInt < g.number
  fits : (g.number : Int) ≤ Int64.maxValue.toInt
  reading_le : Int64.minValue.toInt ≤ g.naming.reading →
    g.naming.reading ≤ Int64.maxValue.toInt → g.naming.reading ≤ g.number

theorem Numbered.After.later {last stamp : Int64} {g : Numbered} (h : g.After stamp)
    (hlt : last < stamp) : g.After last :=
  ⟨Int.lt_trans (Int64.lt_iff_toInt_lt.mp hlt) h.above, h.fits, h.reading_le⟩

/-- The name that a single call gives. -/
theorem exists_effect_act (n : Naming) {w : World β υ} (hlast : 0 ≤ w.lastStamp)
    (hend : w.lastStamp ≠ Int64.maxValue) :
    ∃ (g : Numbered) (stamp : Int64), g.naming = n ∧ g.After w.lastStamp ∧
      stamp.toInt = g.number ∧ n.act.effect w = (.ok g.name, { w with lastStamp := stamp }) := by
  let stamp := next w.lastStamp (ofReading n.reading)
  have habove : w.lastStamp.toInt < stamp.toInt := Int64.lt_iff_toInt_lt.mp (lt_next hend _)
  have hreading : (ofReading n.reading).toInt ≤ stamp.toInt :=
    Int64.le_iff_toInt_le.mp (reading_le_next hend _)
  have hnonneg : 0 ≤ stamp.toInt :=
    Int.le_trans (Int64.le_iff_toInt_le.mp hlast) (Int.le_of_lt habove)
  have hnumber : (stamp.toInt.toNat : Int) = stamp.toInt := Int.toNat_of_nonneg hnonneg
  refine ⟨⟨n, stamp.toInt.toNat⟩, stamp, rfl, ⟨?_, ?_, ?_⟩, hnumber.symm, ?_⟩
  · rw [hnumber]
    exact habove
  · rw [hnumber]
    exact Int64.le_iff_toInt_le.mp (Int64.le_maxValue stamp)
  · intro hlow hhigh
    rw [hnumber, ← toInt_ofReading hlow hhigh]
    exact hreading
  · rw [Numbered.name, ← intText_of_nonneg hnonneg]
    rfl

/-- Each name is its beginning with a number, and the numbers ascend. -/
theorem exists_numbered (calls : List Naming) {w : World β υ} (hlast : 0 ≤ w.lastStamp)
    (hcounter : CounterLasts calls w) :
    ∃ given : List Numbered, given.map (·.naming) = calls ∧
      (Act.runEach (calls.map Naming.act) w).1 = given.map (fun g => .ok g.name) ∧
      (∀ g ∈ given, g.After w.lastStamp) ∧ given.Pairwise fun g g' => g.number < g'.number := by
  induction calls generalizing w with
  | nil => exact ⟨[], rfl, rfl, fun _ h => absurd h List.not_mem_nil, .nil⟩
  | cons n rest ih =>
      obtain ⟨hend, hrest⟩ := hcounter
      obtain ⟨g, stamp, rfl, hafter, hstamp, heff⟩ := exists_effect_act n hlast hend
      rw [heff] at hrest
      have hlt : w.lastStamp < stamp := by
        rw [Int64.lt_iff_toInt_lt, hstamp]
        exact hafter.above
      obtain ⟨given, hcalls, hrun, hgiven, hascend⟩ :=
        ih (Int64.le_trans hlast (Int64.le_of_lt hlt)) hrest
      refine ⟨g :: given, ?_, ?_, ?_, ?_⟩
      · rw [List.map_cons, hcalls]
      · rw [List.map_cons, Act.runEach_cons, heff, hrun, List.map_cons]
      · exact List.forall_mem_cons.mpr ⟨hafter, fun g' hg' => (hgiven g' hg').later hlt⟩
      · refine List.pairwise_cons.mpr ⟨fun g' hg' => ?_, hascend⟩
        have habove := (hgiven g' hg').above
        rw [hstamp] at habove
        exact Int.ofNat_lt.mp habove

/-! ### Names that differ -/

/-- Two equal names have equal numbers, if it is known where the numbers begin. -/
theorem number_eq_of_name_eq {g g' : Numbered} (h : g.name = g'.name)
    (hcut : g.naming.beginning = g'.naming.beginning ∨
      g.number.repr.toList.length = g'.number.repr.toList.length) :
    g.number = g'.number := by
  have hlists : g.naming.beginning.toList ++ g.number.repr.toList =
      g'.naming.beginning.toList ++ g'.number.repr.toList := by
    rw [← String.toList_append, ← String.toList_append]
    exact congrArg String.toList h
  have hdigits : g.number.repr.toList = g'.number.repr.toList := by
    rcases hcut with hbeginning | hlength
    · rw [hbeginning] at hlists
      exact List.append_cancel_left hlists
    · exact (List.append_inj' hlists hlength).2
  rw [Nat.toList_repr, Nat.toList_repr] at hdigits
  exact toDigits_injective hdigits

/-- From ten to the eighteenth on, all stamps have nineteen digits. -/
theorem length_repr_of_large {last : Int64} {g : Numbered} (h : g.After last)
    (hlarge : 10 ^ 18 ≤ g.number) : g.number.repr.toList.length = 19 := by
  have hfits := h.fits
  rw [Int64.toInt_maxValue] at hfits
  rw [Nat.toList_repr]
  exact length_toDigits (by decide) hlarge (by omega)

/-- Names do not repeat as long as the counter has not come to its end, whatever the clock shows.
Each name is its beginning with a positive number, which is not below what the clock showed and
above the numbers of all names before. So names that begin alike differ. Once the first number has
nineteen digits, all names differ, even if a beginning ends in digits. -/
theorem names_never_repeat (calls : List Naming) {w : World β υ} (hlast : 0 ≤ w.lastStamp)
    (hcounter : CounterLasts calls w) :
    ∃ given : List Numbered, given.map (·.naming) = calls ∧
      (Act.runEach (calls.map Naming.act) w).1 = given.map (fun g => .ok g.name) ∧
      (∀ g ∈ given, 1 ≤ g.number ∧ w.lastStamp.toInt < g.number ∧
        Spells g.number.repr g.number ∧
        (Int64.minValue.toInt ≤ g.naming.reading → g.naming.reading ≤ Int64.maxValue.toInt →
          g.naming.reading ≤ g.number)) ∧
      (given.Pairwise fun g g' => g.number < g'.number ∧
        (g.naming.beginning = g'.naming.beginning → g.name ≠ g'.name)) ∧
      ((∀ g ∈ given.head?, 10 ^ 18 ≤ g.number) → (given.map (·.name)).Nodup) := by
  obtain ⟨given, hcalls, hrun, hgiven, hascend⟩ := exists_numbered calls hlast hcounter
  refine ⟨given, hcalls, hrun, fun g hg => ?_, ?_, fun hfirst => ?_⟩
  · have hpos : 1 ≤ g.number := by
      have habove := (hgiven g hg).above
      have hnonneg : 0 ≤ w.lastStamp.toInt := Int64.le_iff_toInt_le.mp hlast
      omega
    exact ⟨hpos, (hgiven g hg).above, spells_repr hpos, (hgiven g hg).reading_le⟩
  · refine hascend.imp fun hlt => ⟨hlt, fun hbeginning heq => ?_⟩
    exact Nat.ne_of_lt hlt (number_eq_of_name_eq heq (.inl hbeginning))
  · have hlarge : ∀ g ∈ given, 10 ^ 18 ≤ g.number := by
      cases given with
      | nil => exact fun _ h => absurd h List.not_mem_nil
      | cons first rest =>
          have hstart := hfirst first rfl
          refine List.forall_mem_cons.mpr ⟨hstart, fun g hg => ?_⟩
          exact Nat.le_trans hstart (Nat.le_of_lt (List.rel_of_pairwise_cons hascend hg))
    refine List.pairwise_map.mpr (hascend.imp_of_mem fun hg hg' hlt heq => ?_)
    have hlength := (length_repr_of_large (hgiven _ hg) (hlarge _ hg)).trans
      (length_repr_of_large (hgiven _ hg') (hlarge _ hg')).symm
    exact Nat.ne_of_lt hlt (number_eq_of_name_eq heq (.inr hlength))

/-- The clock first shows a time of this century, then jumps back, then shows one before 1970, and
at last one that 64 bits cannot hold. Some of the beginnings end in digits. -/
theorem names_never_repeat_four :
    let calls : List Naming := [⟨10 ^ 18 + 5, "t"⟩, ⟨3, "t1"⟩, ⟨-7, "t"⟩, ⟨10 ^ 30, ""⟩]
    let w : World Unit Unit := World.fresh ()
    let run := Act.runEach (calls.map Naming.act) w
    run.1 = [.ok "t1000000000000000005", .ok "t11000000000000000006", .ok "t1000000000000000007",
      .ok "1000000000000000008"] ∧
    ∃ given : List Numbered, run.1 = given.map (fun g => .ok g.name) ∧
      (given.map (·.name)).Nodup := by
  intro calls w run
  have hcounter : CounterLasts calls w :=
    ⟨by decide, by decide, by decide, by decide, trivial⟩
  obtain ⟨given, hcalls, hrun, hgiven, -, hdiffer⟩ :=
    names_never_repeat calls (by decide) hcounter
  have hnames : run.1 = [.ok "t1000000000000000005", .ok "t11000000000000000006",
      .ok "t1000000000000000007", .ok "1000000000000000008"] := by
    simp only [run, calls, w]
    rfl
  refine ⟨hnames, given, hrun, hdiffer fun g hg => ?_⟩
  have hfirst : g.naming = ⟨10 ^ 18 + 5, "t"⟩ := by
    have hhead : (given.map (·.naming)).head? = some ⟨10 ^ 18 + 5, "t"⟩ := by rw [hcalls]; rfl
    rw [List.head?_map, hg] at hhead
    exact Option.some.inj hhead
  have hreading := (hgiven g (List.mem_of_mem_head? hg)).2.2.2
  rw [hfirst] at hreading
  have hle : (10 ^ 18 + 5 : Int) ≤ g.number := hreading (by decide) (by decide)
  omega

end ServiceDoubles.Stamp
