import ServiceDoubles.Proofs.Json.Reading

/-!
# ServiceDoubles.Proofs.Json.Skipping

Values that are not kept are **skipped up to their end** (`exists_value_shape`), whatever they are:
a string need not stand for a text, a number may be of any size, and nesting may be of any depth.

A number has no closing character of its own. So a value is skipped to its end only in front of
characters that a number cannot go on with (`EndsNumber`), as they stand behind every value in an
array or in an object.
-/

namespace ServiceDoubles.Json.Reader

variable {care : Care}

/-! ### Strings -/

/-- A string that is skipped need not stand for a text. -/
theorem exists_stringBody_shape (ps : List Piece) (s : List Char) :
    ∃ cs, stringBody .shape (bodyChars ps ++ s) = .ok (cs, s) := by
  induction ps with
  | nil => exact ⟨[], stringBody_quote s⟩
  | cons p ps ih =>
      obtain ⟨cs, hcs⟩ := ih
      rw [bodyChars_cons, List.append_assoc]
      cases p with
      | plain c hc => exact ⟨c :: cs, by rw [stringBody_plain, hcs]; rfl⟩
      | letter e he => exact ⟨e.2 :: cs, by rw [stringBody_letter, hcs]; rfl⟩
      | unit a b c d => exact ⟨_ :: cs, by rw [stringBody_unit, if_pos rfl, hcs]; rfl⟩

/-! ### Numbers -/

/-- The characters do not go on with digits. -/
def EndsDigits (s : List Char) : Prop := ∀ c ∈ s.head?, c.isDigit = false

/-- The characters do not go on with a number. -/
def EndsNumber (s : List Char) : Prop :=
  ∀ c ∈ s.head?, c.isDigit = false ∧ c ≠ '.' ∧ c ≠ 'e' ∧ c ≠ 'E'

theorem EndsNumber.endsDigits {s : List Char} (h : EndsNumber s) : EndsDigits s :=
  fun c hc => (h c hc).1

theorem endsNumber_append (b : Blanks) {s : List Char} (h : EndsNumber s) :
    EndsNumber (b.chars ++ s) := by
  intro c hc
  cases hb : b.chars with
  | nil => exact h c (by simpa [hb] using hc)
  | cons d ds =>
      obtain rfl : d = c := by simpa [hb] using hc
      have hblank := b.blank d (by simp [hb])
      simp only [List.mem_cons, List.not_mem_nil, or_false] at hblank
      rcases hblank with rfl | rfl | rfl | rfl <;> decide

/-- A comma or a closing bracket ends a number. -/
theorem endsNumber_cons {c : Char} {s : List Char} (h : c = ']' ∨ c = ',' ∨ c = '\x7d') :
    EndsNumber (c :: s) := by
  intro d hd
  cases hd
  rcases h with rfl | rfl | rfl <;> decide

theorem leadingDigits_append (d : Digits) {s : List Char} (h : EndsDigits s) :
    leadingDigits (d.chars ++ s) = d.chars.map digitValue := by
  have hs : s.takeWhile Char.isDigit = [] := by
    cases s with
    | nil => rfl
    | cons c s => exact List.takeWhile_cons_of_neg (by simp [h c rfl])
  rw [leadingDigits, List.takeWhile_append_of_pos d.digit, hs, List.append_nil]

theorem afterDigits_append (d : Digits) {s : List Char} (h : EndsDigits s) :
    afterDigits (d.chars ++ s) = s := by
  rw [afterDigits, List.dropWhile_append_of_pos d.digit]
  cases s with
  | nil => rfl
  | cons c s => exact List.dropWhile_cons_of_neg (by simp [h c rfl])

theorem leadingDigits_ne_nil (d : Digits) {s : List Char} (h : EndsDigits s) :
    leadingDigits (d.chars ++ s) ≠ [] := by
  simp [leadingDigits_append d h, d.nonempty]

theorem head?_append (d : Digits) (s : List Char) :
    ∃ c, (d.chars ++ s).head? = some c ∧ c.isDigit = true := by
  obtain ⟨c, cs, hcs⟩ := List.exists_cons_of_ne_nil d.nonempty
  exact ⟨c, by simp [hcs], d.digit c (by simp [hcs])⟩

/-- The digits of a power of ten stand behind its sign. -/
theorem unsigned_append (p : Power) (s : List Char) :
    (if (p.sign ++ (p.digits.chars ++ s)).head? = some '-' ∨
        (p.sign ++ (p.digits.chars ++ s)).head? = some '+' then
      (p.sign ++ (p.digits.chars ++ s)).tail
    else p.sign ++ (p.digits.chars ++ s)) = p.digits.chars ++ s := by
  have hsign := p.isSign
  simp only [List.mem_cons, List.not_mem_nil, or_false] at hsign
  rcases hsign with hsign | hsign | hsign
  · obtain ⟨c, hc, hdigit⟩ := head?_append p.digits s
    rw [hsign, List.nil_append, if_neg]
    rw [hc]
    rintro (h | h) <;> cases h <;> cases hdigit
  · simp [hsign]
  · simp [hsign]

theorem exists_power (p : Option Power) {s : List Char} (h : EndsNumber s) :
    ∃ e, power care (p.elim [] Power.chars ++ s) = .ok (e, s) := by
  cases p with
  | none =>
      cases s with
      | nil => exact ⟨none, rfl⟩
      | cons c s =>
          obtain ⟨-, -, he, hE⟩ := h c rfl
          exact ⟨none, if_neg (not_or.mpr ⟨he, hE⟩)⟩
  | some p =>
      have hne := leadingDigits_ne_nil p.digits h.endsDigits
      simp only [Option.elim_some, Power.chars, List.cons_append, List.append_assoc, power,
        if_pos p.isMark, unsigned_append, if_neg hne, afterDigits_append p.digits h.endsDigits]
      exact ⟨_, rfl⟩

/-- Behind the digits in front of a power of ten stands no more digit, and no point. -/
theorem head?_powerChars (n : Numeral) {s : List Char} (h : EndsNumber s) :
    ∀ c ∈ (n.powerChars ++ s).head?, c.isDigit = false ∧ c ≠ '.' := by
  intro c hc
  unfold Numeral.powerChars at hc
  cases hp : n.power with
  | none =>
      obtain ⟨hdigit, hpoint, -⟩ := h c (by simpa [hp] using hc)
      exact ⟨hdigit, hpoint⟩
  | some p =>
      obtain rfl : p.mark = c := by simpa [hp, Power.chars] using hc
      rcases p.isMark with hmark | hmark <;> rw [hmark] <;> decide

theorem eq_zero_of_digitValue {c : Char} (hdigit : c.isDigit = true) (hzero : digitValue c = 0) :
    c = '0' := by
  simp only [Char.isDigit, Bool.and_eq_true, decide_eq_true_eq, ge_iff_le,
    UInt32.le_iff_toNat_le] at hdigit
  have hge : 48 ≤ c.toNat := hdigit.1
  have hle : c.toNat - 48 = 0 := hzero
  rw [← c.ofNat_toNat, (by omega : c.toNat = 48)]

/-- A zero in front of other digits would be refused. -/
theorem whole_accepted (n : Numeral) :
    ¬((n.whole.chars.map digitValue).head? = some 0 ∧
      (n.whole.chars.map digitValue).length ≠ 1) := by
  rintro ⟨hhead, hlength⟩
  obtain ⟨c, cs, hcs⟩ := List.exists_cons_of_ne_nil n.whole.nonempty
  have hzero : digitValue c = 0 := by simpa [hcs] using hhead
  have hc := eq_zero_of_digitValue (n.whole.digit c (by simp [hcs])) hzero
  have hlead := n.leading (by simp [hcs, hc])
  simp [hlead] at hlength

theorem exists_literal (n : Numeral) {s : List Char} (h : EndsNumber s) :
    ∃ l, literal care (n.unsignedChars ++ s) = .ok (l, s) := by
  obtain ⟨e, he⟩ : ∃ e, power care (n.powerChars ++ s) = .ok (e, s) := exists_power n.power h
  have hhead := head?_powerChars n h
  have hpower : EndsDigits (n.powerChars ++ s) := fun c hc => (hhead c hc).1
  rw [Numeral.unsignedChars, List.append_assoc, List.append_assoc]
  cases hf : n.fraction with
  | none =>
      have hfraction : n.fractionChars = [] := by rw [Numeral.fractionChars, hf]; rfl
      have hwhole := leadingDigits_append n.whole hpower
      have hne := leadingDigits_ne_nil n.whole hpower
      rw [hwhole] at hne
      rw [hfraction, List.nil_append]
      simp only [literal, hwhole, if_neg hne, if_neg (whole_accepted n),
        afterDigits_append n.whole hpower]
      split
      next rest hrest => exact absurd rfl (hhead '.' (by simp [hrest])).2
      next => exact ⟨_, by rw [he]; rfl⟩
  | some d =>
      have hfraction : n.fractionChars = '.' :: d.chars := by rw [Numeral.fractionChars, hf]; rfl
      have hpoint : EndsDigits ('.' :: (d.chars ++ (n.powerChars ++ s))) := by
        intro c hc
        cases hc
        rfl
      -- The point ends the digits in front of it.
      have hwhole := leadingDigits_append n.whole hpoint
      have hne := leadingDigits_ne_nil n.whole hpoint
      rw [hwhole] at hne
      rw [hfraction, List.cons_append]
      simp only [literal, hwhole, if_neg hne, if_neg (whole_accepted n),
        afterDigits_append n.whole hpoint, if_neg (leadingDigits_ne_nil d hpower),
        afterDigits_append d hpower]
      exact ⟨_, by rw [he]; rfl⟩

/-- A number that is skipped may be of any size. -/
theorem exists_number_shape (n : Numeral) (negative : Bool) {s : List Char} (h : EndsNumber s) :
    ∃ v, number .shape negative (n.unsignedChars ++ s) = .ok (v, s) := by
  obtain ⟨l, hl⟩ : ∃ l, literal .shape (n.unsignedChars ++ s) = .ok (l, s) := exists_literal n h
  simp only [number, hl]
  cases l.number? negative with
  | none => exact ⟨_, rfl⟩
  | some v => exact ⟨v, rfl⟩

/-! ### Values -/

@[simp] theorem valueWith_append (b : Blanks) (fuel : Nat) (s : List Char) :
    valueWith care fuel (b.chars ++ s) = valueWith care fuel s := by
  cases fuel <;> simp [valueWith]

@[simp] theorem itemsWith_append (b : Blanks) (fuel : Nat) (s : List Char) :
    itemsWith care fuel (b.chars ++ s) = itemsWith care fuel s := by
  cases fuel <;> simp [itemsWith]

@[simp] theorem fieldsWith_append (b : Blanks) (fuel : Nat) (s : List Char) :
    fieldsWith care fuel (b.chars ++ s) = fieldsWith care fuel s := by
  cases fuel <;> simp [fieldsWith]

theorem valueWith_digit {c : Char} (hdigit : c.isDigit = true) (fuel : Nat) (s : List Char) :
    valueWith care (fuel + 1) (c :: s) =
      (number care false (c :: s)).map fun p => (.number p.1, p.2) := by
  rw [valueWith, skipBlanks_cons (isBlank_of_numeral (.inr hdigit))]
  split
  case h_9 heq =>
    obtain ⟨rfl, rfl⟩ := List.cons.inj heq
    exact if_pos hdigit
  -- The other characters that begin a value are no digits.
  all_goals
    next heq => cases heq <;> cases hdigit

/-- Fuel for twice the characters of the value suffices to skip it. -/
def Skips (t : Tree) : Prop :=
  ∀ (fuel : Nat) (s : List Char), 2 * t.chars.length ≤ fuel → EndsNumber s →
    ∃ j, valueWith .shape (fuel + 1) (t.chars ++ s) = .ok (j, s)

theorem Skips.padded {x : Padded Tree} (h : Skips x.inner) (fuel : Nat)
    (hfuel : 2 * x.chars.length ≤ fuel) {s : List Char} (hs : EndsNumber s) :
    ∃ j, valueWith .shape (fuel + 1) (x.chars ++ s) = .ok (j, x.after.chars ++ s) := by
  have hinner : 2 * x.inner.chars.length ≤ fuel := by
    simp only [Padded.chars, around, List.length_append] at hfuel
    omega
  rw [x.chars_append, valueWith_append]
  exact h fuel _ hinner (endsNumber_append _ hs)

theorem skips_number (n : Numeral) : Skips (.number n) := by
  intro fuel s hfuel hs
  obtain ⟨v, hv⟩ := exists_number_shape n n.negative hs
  refine ⟨.number v, ?_⟩
  rw [Tree.chars, Numeral.chars]
  cases hn : n.negative with
  | true =>
      rw [hn] at hv
      simp [valueWith, skipBlanks_cons, isBlank, hv, Except.map]
  | false =>
      obtain ⟨c, cs, hcs⟩ := List.exists_cons_of_ne_nil n.whole.nonempty
      have hdigit := n.whole.digit c (by simp [hcs])
      simp only [hn, Numeral.unsignedChars, hcs, List.cons_append, List.append_assoc] at hv
      simp only [Bool.false_eq_true, if_false, Numeral.unsignedChars, hcs, List.cons_append,
        List.append_assoc, valueWith_digit hdigit, hv]
      rfl

theorem skips_string (ps : List Piece) : Skips (.string ps) := by
  intro fuel s hfuel hs
  obtain ⟨cs, hcs⟩ := exists_stringBody_shape ps s
  refine ⟨.string (String.ofList cs), ?_⟩
  simp [valueWith, Tree.chars, skipBlanks_cons, isBlank, hcs, Except.map]

/-! ### Arrays -/

/-- A value starts with a character of its own, which ends no array. -/
theorem exists_chars (t : Tree) : ∃ c cs, t.chars = c :: cs ∧ isBlank c = false ∧ c ≠ ']' := by
  cases t with
  | null => exact ⟨_, _, rfl, rfl, by decide⟩
  | bool b => cases b <;> exact ⟨_, _, rfl, rfl, by decide⟩
  | number n =>
      obtain ⟨c, cs, hcs, hc⟩ := exists_numeralChars n
      exact ⟨c, cs, hcs, isBlank_of_numeral hc, ne_of_numeral hc rfl (by decide)⟩
  | string ps => exact ⟨_, _, rfl, rfl, by decide⟩
  | array gap items => exact ⟨_, _, rfl, rfl, by decide⟩
  | object gap fields => exact ⟨_, _, rfl, rfl, by decide⟩

theorem exists_skipBlanks_items (x : Padded Tree) (more : List (Padded Tree)) (s : List Char) :
    ∃ c cs, skipBlanks (Tree.itemChars (x :: more) ++ s) = c :: cs ∧ c ≠ ']' := by
  obtain ⟨behind, hbehind⟩ : ∃ behind, Tree.itemChars (x :: more) ++ s = x.chars ++ behind := by
    cases more with
    | nil => exact ⟨s, rfl⟩
    | cons y more => exact ⟨',' :: (Tree.itemChars (y :: more) ++ s), by simp⟩
  obtain ⟨c, cs, hcs, hblank, hc⟩ := exists_chars x.inner
  refine ⟨c, cs ++ (x.after.chars ++ behind), ?_, hc⟩
  rw [hbehind, x.chars_append, skipBlanks_append, hcs, List.cons_append, skipBlanks_cons hblank]

theorem exists_items {items : List (Padded Tree)} (hne : items ≠ [])
    (hskips : ∀ x ∈ items, Skips x.inner) (fuel : Nat)
    (hfuel : 2 * (Tree.itemChars items).length < fuel) (s : List Char) :
    ∃ js, itemsWith .shape (fuel + 1) (Tree.itemChars items ++ ']' :: s) = .ok (js, s) := by
  -- Every item takes one from the fuel, and brings at least one character.
  induction items generalizing fuel with
  | nil => exact absurd rfl hne
  | cons x more ih =>
      obtain ⟨fuel, rfl⟩ : ∃ f, fuel = f + 1 := ⟨fuel - 1, by omega⟩
      have hx := hskips x List.mem_cons_self
      cases more with
      | nil =>
          rw [Tree.itemChars_singleton] at hfuel ⊢
          obtain ⟨j, hj⟩ := hx.padded fuel (by omega)
            (endsNumber_cons (s := s) (.inl rfl))
          refine ⟨[j], ?_⟩
          simp [itemsWith, hj, skipBlanks_cons, isBlank]
      | cons y more =>
          rw [Tree.itemChars_cons_cons] at hfuel ⊢
          rw [List.append_assoc, List.cons_append]
          simp only [List.length_append, List.length_cons] at hfuel
          obtain ⟨j, hj⟩ := hx.padded fuel (by omega)
            (endsNumber_cons (s := Tree.itemChars (y :: more) ++ ']' :: s) (.inr (.inl rfl)))
          obtain ⟨js, hjs⟩ := ih (List.cons_ne_nil _ _)
            (fun z hz => hskips z (List.mem_cons_of_mem _ hz)) fuel (by omega)
          refine ⟨j :: js, ?_⟩
          rw [itemsWith]
          simp [hj, hjs, skipBlanks_cons, isBlank, Except.map]

theorem skips_array (gap : Blanks) {items : List (Padded Tree)}
    (hskips : ∀ x ∈ items, Skips x.inner) : Skips (.array gap items) := by
  intro fuel s hfuel hs
  cases items with
  | nil =>
      refine ⟨.array [], ?_⟩
      simp [valueWith, Tree.chars, Tree.itemChars, skipBlanks_cons, isBlank]
  | cons x more =>
      simp only [Tree.chars, List.length_cons, List.length_append] at hfuel
      obtain ⟨fuel, rfl⟩ : ∃ f, fuel = f + 1 := ⟨fuel - 1, by omega⟩
      obtain ⟨js, hjs⟩ := exists_items (List.cons_ne_nil _ _) hskips fuel (by omega) s
      obtain ⟨c, cs, hhead, hc⟩ := exists_skipBlanks_items x more (']' :: s)
      refine ⟨.array js, ?_⟩
      simp [valueWith, Tree.chars, skipBlanks_cons, isBlank, hhead, hc, hjs, Except.map]

/-! ### Objects -/

theorem exists_skipBlanks_fields (f : Padded (List Piece) × Padded Tree)
    (more : List (Padded (List Piece) × Padded Tree)) (s : List Char) :
    ∃ cs, skipBlanks (Tree.fieldChars (f :: more) ++ s) = '"' :: cs := by
  obtain ⟨behind, hbehind⟩ : ∃ behind,
      Tree.fieldChars (f :: more) ++ s = memberChars f.1 f.2.chars ++ behind := by
    cases more with
    | nil => exact ⟨s, rfl⟩
    | cons g more => exact ⟨',' :: (Tree.fieldChars (g :: more) ++ s), by simp⟩
  exact ⟨_, by rw [hbehind, memberChars_append, skipBlanks_append, skipBlanks_cons rfl]⟩

theorem exists_fields {fields : List (Padded (List Piece) × Padded Tree)} (hne : fields ≠ [])
    (hskips : ∀ f ∈ fields, Skips f.2.inner) (fuel : Nat)
    (hfuel : 2 * (Tree.fieldChars fields).length < fuel) (s : List Char) :
    ∃ fs, fieldsWith .shape (fuel + 1) (Tree.fieldChars fields ++ '\x7d' :: s) = .ok (fs, s) := by
  induction fields generalizing fuel with
  | nil => exact absurd rfl hne
  | cons f more ih =>
      obtain ⟨fuel, rfl⟩ : ∃ n, fuel = n + 1 := ⟨fuel - 1, by omega⟩
      have hf := hskips f List.mem_cons_self
      cases more with
      | nil =>
          rw [Tree.fieldChars_singleton] at hfuel ⊢
          simp only [memberChars, List.length_append, List.length_cons] at hfuel
          obtain ⟨j, hj⟩ := hf.padded fuel (by omega)
            (endsNumber_cons (s := s) (.inr (.inr rfl)))
          obtain ⟨key, hkey⟩ := exists_stringBody_shape f.1.inner
            (f.1.after.chars ++ ':' :: (f.2.chars ++ '\x7d' :: s))
          refine ⟨[(String.ofList key, j)], ?_⟩
          rw [memberChars_append]
          simp [fieldsWith, hkey, colon_append, hj, skipBlanks_cons, isBlank]
      | cons g more =>
          rw [Tree.fieldChars_cons_cons] at hfuel ⊢
          rw [List.append_assoc, List.cons_append]
          simp only [memberChars, List.length_append, List.length_cons] at hfuel
          obtain ⟨j, hj⟩ := hf.padded fuel (by omega)
            (endsNumber_cons (s := Tree.fieldChars (g :: more) ++ '\x7d' :: s) (.inr (.inl rfl)))
          obtain ⟨key, hkey⟩ := exists_stringBody_shape f.1.inner
            (f.1.after.chars ++ ':' ::
              (f.2.chars ++ ',' :: (Tree.fieldChars (g :: more) ++ '\x7d' :: s)))
          obtain ⟨fs, hfs⟩ := ih (List.cons_ne_nil _ _)
            (fun h hh => hskips h (List.mem_cons_of_mem _ hh)) fuel (by omega)
          refine ⟨(String.ofList key, j) :: fs, ?_⟩
          rw [memberChars_append, fieldsWith]
          simp [hkey, colon_append, hj, hfs, skipBlanks_cons, isBlank, Except.map]

theorem skips_object (gap : Blanks) {fields : List (Padded (List Piece) × Padded Tree)}
    (hskips : ∀ f ∈ fields, Skips f.2.inner) : Skips (.object gap fields) := by
  intro fuel s hfuel hs
  cases fields with
  | nil =>
      refine ⟨.object [], ?_⟩
      simp [valueWith, Tree.chars, Tree.fieldChars, skipBlanks_cons, isBlank]
  | cons f more =>
      simp only [Tree.chars, List.length_cons, List.length_append] at hfuel
      obtain ⟨fuel, rfl⟩ : ∃ f, fuel = f + 1 := ⟨fuel - 1, by omega⟩
      obtain ⟨fs, hfs⟩ := exists_fields (List.cons_ne_nil _ _) hskips fuel (by omega) s
      obtain ⟨cs, hcs⟩ := exists_skipBlanks_fields f more ('\x7d' :: s)
      refine ⟨record fs, ?_⟩
      simp [valueWith, Tree.chars, skipBlanks_cons, isBlank, hcs, hfs, Except.map]

/-! ### All values -/

theorem skips (t : Tree) : Skips t := by
  induction t using Tree.induction with
  | null => exact fun _ _ _ _ => ⟨.null, rfl⟩
  | bool b => cases b <;> exact fun _ _ _ _ => ⟨_, rfl⟩
  | number n => exact skips_number n
  | string ps => exact skips_string ps
  | array gap items ih => exact skips_array gap ih
  | object gap fields ih => exact skips_object gap ih

/-- Whatever the grammar allows is skipped up to its end. -/
theorem exists_value_shape (x : Padded Tree) {s : List Char} (h : EndsNumber s) :
    ∃ j, value .shape (x.chars ++ s) = .ok (j, x.after.chars ++ s) := by
  refine (skips x.inner).padded _ ?_ h
  rw [List.length_append]
  omega

end ServiceDoubles.Json.Reader
