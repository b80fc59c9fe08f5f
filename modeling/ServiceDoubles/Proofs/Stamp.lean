import ServiceDoubles.Stamp

/-!
# ServiceDoubles.Proofs.Stamp

Stamps and the names that are made of them. Stamps grow as long as the counter has not come to its
end, and a name tells its stamp.
-/

namespace ServiceDoubles

/-! ### Texts of integers -/

theorem toDigits_injective {m n : Nat} (h : Nat.toDigits 10 m = Nat.toDigits 10 n) : m = n := by
  have hread := congrArg (fun ds => Nat.ofDigitChars 10 ds 0) h
  simpa only [Nat.ofDigitChars_ten_toDigits] using hread

theorem toDigits_ne_minus_cons (n : Nat) (ds : List Char) : Nat.toDigits 10 n ≠ '-' :: ds := by
  intro h
  have hdigit : '-'.isDigit = true :=
    Nat.isDigit_of_mem_toDigits (by decide) (by decide) (h ▸ List.mem_cons_self)
  exact absurd hdigit (by decide)

theorem intText_injective {i j : Int} (h : intText i = intText j) : i = j := by
  have hchars := String.ofList_injective h
  by_cases hi : i < 0 <;> by_cases hj : j < 0
  · rw [if_pos hi, if_pos hj] at hchars
    have habs := toDigits_injective (List.cons.inj hchars).2
    omega
  · rw [if_pos hi, if_neg hj] at hchars
    exact absurd hchars.symm (toDigits_ne_minus_cons _ _)
  · rw [if_neg hi, if_pos hj] at hchars
    exact absurd hchars (toDigits_ne_minus_cons _ _)
  · rw [if_neg hi, if_neg hj] at hchars
    have habs := toDigits_injective hchars
    omega

namespace Stamp

/-- Names that begin alike differ if their stamps do. -/
theorem name_injective {beginning : String} {a b : Int64}
    (h : name beginning a = name beginning b) : a = b := by
  have htexts : intText a.toInt = intText b.toInt := (String.append_right_inj beginning).mp h
  exact Int64.toInt_inj.mp (intText_injective htexts)

/-- A stamp is above the one before, unless the counter has come to its end. -/
theorem lt_next {last : Int64} (h : last ≠ Int64.maxValue) (now : Int64) : last < next last now := by
  unfold next
  split
  · assumption
  · have hne : last.toInt ≠ Int64.maxValue.toInt := fun heq => h (Int64.toInt_inj.mp heq)
    have hle := Int64.toInt_le last
    have hge := Int64.le_toInt last
    rw [Int64.toInt_maxValue] at hne hle
    rw [Int64.lt_iff_toInt_lt, Int64.toInt_add, Int64.toInt_one,
      Int.bmod_eq_of_le (by omega) (by omega)]
    omega

/-- A stamp is not below what the clock shows, unless the counter has come to its end. -/
theorem reading_le_next {last : Int64} (h : last ≠ Int64.maxValue) (now : Int64) :
    now ≤ next last now := by
  by_cases hlt : last < now
  · rw [next, if_pos hlt]
    exact Int64.le_rfl
  · exact Int64.le_trans (Int64.not_lt.mp hlt) (Int64.le_of_lt (lt_next h now))

/-- A reading that 64 bits can hold is taken as it is. -/
theorem toInt_ofReading {reading : Int} (hlow : Int64.minValue.toInt ≤ reading)
    (hhigh : reading ≤ Int64.maxValue.toInt) : (ofReading reading).toInt = reading := by
  rw [ofReading, if_pos ⟨hlow, hhigh⟩]
  rw [Int64.toInt_minValue] at hlow
  rw [Int64.toInt_maxValue] at hhigh
  exact Int64.toInt_ofInt_of_le hlow (by omega)

end Stamp

end ServiceDoubles
