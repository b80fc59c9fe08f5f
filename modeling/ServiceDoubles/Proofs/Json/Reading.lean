import ServiceDoubles.Proofs.Json.Written

/-!
# ServiceDoubles.Proofs.Json.Reading

What the reader makes of **written texts** (`Json.Written`): blanks are passed over, a string is
read as the text it stands for, and a string or truth value that is asked for is read of no other
value.
-/

namespace ServiceDoubles.Json.Reader

variable {care : Care}

/-! ### Blanks -/

@[simp] theorem skipBlanks_append (b : Blanks) (s : List Char) :
    skipBlanks (b.chars ++ s) = skipBlanks s := by
  refine List.dropWhile_append_of_pos fun c hc => ?_
  have hblank := b.blank c hc
  simp only [List.mem_cons, List.not_mem_nil, or_false] at hblank
  rcases hblank with rfl | rfl | rfl | rfl <;> rfl

theorem skipBlanks_blanks (b : Blanks) : skipBlanks b.chars = [] := by
  have h := skipBlanks_append b []
  rwa [List.append_nil] at h

theorem skipBlanks_cons {c : Char} (h : isBlank c = false) (s : List Char) :
    skipBlanks (c :: s) = c :: s := by
  rw [skipBlanks, List.dropWhile_cons_of_neg (by simp [h])]

/-! ### Strings -/

theorem hexDigit?_char (d : HexDigit) : Text.hexDigit? d.char = some d.value := by
  have hall : ∀ (v : Fin 16) (u : Bool), Text.hexDigit? (HexDigit.char ⟨v, u⟩) = some v.val := by
    decide
  exact hall d.value d.upper

theorem hexUnit?_chars (a b c d : HexDigit) :
    hexUnit? a.char b.char c.char d.char = some (unitOf a b c d) := by
  simp [hexUnit?, hexDigit?_char, unitOf]

theorem unitOf_lt (a b c d : HexDigit) : unitOf a b c d < 0x10000 := by
  have := a.value.isLt
  have := b.value.isLt
  have := c.value.isLt
  have := d.value.isLt
  unfold unitOf
  omega

theorem isHighSurrogate_iff {n : Nat} :
    isHighSurrogate n = true ↔ ∃ high, n = 0xD800 + high ∧ high < 0x400 := by
  simp only [isHighSurrogate, Bool.and_eq_true, decide_eq_true_eq]
  exact ⟨fun h => ⟨n - 0xD800, by omega⟩, fun ⟨high, h⟩ => by omega⟩

theorem isLowSurrogate_iff {n : Nat} :
    isLowSurrogate n = true ↔ ∃ low, n = 0xDC00 + low ∧ low < 0x400 := by
  simp only [isLowSurrogate, Bool.and_eq_true, decide_eq_true_eq]
  exact ⟨fun h => ⟨n - 0xDC00, by omega⟩, fun ⟨low, h⟩ => by omega⟩

theorem isLowSurrogate_of_high {n : Nat} (h : isHighSurrogate n = true) :
    isLowSurrogate n = false := by
  obtain ⟨high, rfl, hhigh⟩ := isHighSurrogate_iff.mp h
  simp only [isLowSurrogate, Bool.and_eq_false_iff, decide_eq_false_iff_not]
  omega

/-- Characters are no halves of pairs. -/
theorem not_surrogate (x : Char) :
    isHighSurrogate x.toNat = false ∧ isLowSurrogate x.toNat = false := by
  have hvalid : x.toNat < 0xD800 ∨ 0xDFFF < x.toNat := by
    rcases x.valid with h | h
    · exact .inl h
    · exact .inr h.1
  simp only [isHighSurrogate, isLowSurrogate, Bool.and_eq_false_iff, decide_eq_false_iff_not]
  omega

theorem stringBody_quote (s : List Char) : stringBody care ('"' :: s) = .ok ([], s) := rfl

theorem stringBody_plain {c : Char} (h : c ≠ '"' ∧ c ≠ '\\' ∧ 0x20 ≤ c.toNat) (s : List Char) :
    stringBody care ((Piece.plain c h).chars ++ s) = consChar c (stringBody care s) := by
  obtain ⟨hquote, hslash, hcontrol⟩ := h
  simp [Piece.chars, stringBody, hslash, Nat.not_lt.mpr hcontrol]

theorem stringBody_letter {e : Char × Char} (h : e ∈ escapes) (s : List Char) :
    stringBody care ((Piece.letter e h).chars ++ s) = consChar e.2 (stringBody care s) := by
  have hcases := h
  simp only [escapes, List.mem_cons, List.not_mem_nil, or_false] at hcases
  rcases hcases with rfl | rfl | rfl | rfl | rfl | rfl | rfl | rfl <;>
    simp [Piece.chars, stringBody, unescaped?]

/-- Reads on behind the first half `n` of a pair. -/
def secondHalf (care : Care) (n : Nat) : List Char → Reading (List Char)
  | '\\' :: 'u' :: e :: f :: g :: h :: more =>
    match hexUnit? e f g h with
    | none => .error .malformed
    | some m =>
      if isLowSurrogate m then consChar (joined n m) (stringBody care more) else .error .malformed
  | '\\' :: 'u' :: more => .error (shortEscape more)
  | ['\\'] => .error .cutShort
  | [] => .error .cutShort
  | _ => .error .malformed

section

variable (a b c d e f g h : HexDigit) (s : List Char)

theorem stringBody_unit :
    stringBody care ((Piece.unit a b c d).chars ++ s) =
      if care = .shape then consChar (Char.ofNat (unitOf a b c d)) (stringBody care s)
      else if isLowSurrogate (unitOf a b c d) then .error .malformed
      else if isHighSurrogate (unitOf a b c d) then secondHalf care (unitOf a b c d) s
      else consChar (Char.ofNat (unitOf a b c d)) (stringBody care s) := by
  simp only [Piece.chars, List.cons_append, List.nil_append, stringBody, hexUnit?_chars]
  rfl

theorem secondHalf_unit (n : Nat) :
    secondHalf care n ((Piece.unit e f g h).chars ++ s) =
      if isLowSurrogate (unitOf e f g h) then
        consChar (joined n (unitOf e f g h)) (stringBody care s)
      else .error .malformed := by
  simp only [Piece.chars, List.cons_append, List.nil_append, secondHalf, hexUnit?_chars]

variable {a b c d e f g h}

theorem stringBody_single (hhigh : isHighSurrogate (unitOf a b c d) = false)
    (hlow : isLowSurrogate (unitOf a b c d) = false) :
    stringBody .full ((Piece.unit a b c d).chars ++ s) =
      consChar (Char.ofNat (unitOf a b c d)) (stringBody .full s) := by
  simp only [stringBody_unit, hhigh, hlow, reduceCtorEq, Bool.false_eq_true, if_false]

theorem stringBody_low (hlow : isLowSurrogate (unitOf a b c d) = true) :
    stringBody .full ((Piece.unit a b c d).chars ++ s) = .error .malformed := by
  simp only [stringBody_unit, hlow, reduceCtorEq, if_true, if_false]

theorem stringBody_high (hhigh : isHighSurrogate (unitOf a b c d) = true) :
    stringBody .full ((Piece.unit a b c d).chars ++ s) = secondHalf .full (unitOf a b c d) s := by
  simp only [stringBody_unit, hhigh, isLowSurrogate_of_high hhigh, reduceCtorEq,
    Bool.false_eq_true, if_true, if_false]

theorem stringBody_pair (hhigh : isHighSurrogate (unitOf a b c d) = true)
    (hlow : isLowSurrogate (unitOf e f g h) = true) :
    stringBody .full ((Piece.unit a b c d).chars ++ ((Piece.unit e f g h).chars ++ s)) =
      consChar (joined (unitOf a b c d) (unitOf e f g h)) (stringBody .full s) := by
  rw [stringBody_high _ hhigh, secondHalf_unit, if_pos hlow]

/-- The first half of a pair is refused unless the second half comes next. -/
theorem stringBody_half (hhigh : isHighSurrogate (unitOf a b c d) = true) {ps : List Piece}
    (hps : ∀ e f g h more, ps = .unit e f g h :: more → isLowSurrogate (unitOf e f g h) = false) :
    stringBody .full ((Piece.unit a b c d).chars ++ (bodyChars ps ++ s)) = .error .malformed := by
  rw [stringBody_high _ hhigh]
  cases ps with
  | nil => simp [secondHalf]
  | cons p more =>
      rw [bodyChars_cons, List.append_assoc]
      cases p with
      | plain x hx => simp [Piece.chars, secondHalf, hx]
      | letter x hx =>
          simp only [escapes, List.mem_cons, List.not_mem_nil, or_false] at hx
          rcases hx with rfl | rfl | rfl | rfl | rfl | rfl | rfl | rfl <;>
            simp [Piece.chars, secondHalf]
      | unit e f g h =>
          rw [secondHalf_unit, if_neg (by simp [hps e f g h more rfl])]

end

theorem consChar_eq_ok_iff {c : Char} {r : Reading (List Char)} {cs s : List Char} :
    consChar c r = .ok (cs, s) ↔ ∃ ds, r = .ok (ds, s) ∧ cs = c :: ds := by
  rcases r with flaw | ⟨ds, t⟩
  · simp [consChar, Except.map]
  · simp only [consChar, Except.map, Except.ok.injEq, Prod.mk.injEq]
    grind

/-- A string is read as what it stands for. -/
theorem stringBody_of_spells {ps : List Piece} {cs : List Char} (h : Spells ps cs)
    (s : List Char) : stringBody .full (bodyChars ps ++ s) = .ok (cs, s) := by
  induction h with
  | nil => exact stringBody_quote s
  | plain _ ih => rw [bodyChars_cons, List.append_assoc, stringBody_plain, ih]; rfl
  | letter _ ih => rw [bodyChars_cons, List.append_assoc, stringBody_letter, ih]; rfl
  | @unit a b c d x ps cs hx _ ih =>
      obtain ⟨hhigh, hlow⟩ := not_surrogate x
      rw [hx] at hhigh hlow
      rw [bodyChars_cons, List.append_assoc, stringBody_single _ hhigh hlow, ih, ← hx,
        Char.ofNat_toNat]
      rfl
  | @pair a b c d e f g h high low x ps cs hunit hhigh hunit' hlow hx _ ih =>
      have hvalue : (unitOf a b c d - 0xD800) * 0x400 + (unitOf e f g h - 0xDC00) + 0x10000 =
          x.toNat := by omega
      rw [bodyChars_cons, bodyChars_cons, List.append_assoc, List.append_assoc,
        stringBody_pair _ (isHighSurrogate_iff.mpr ⟨high, hunit, hhigh⟩)
          (isLowSurrogate_iff.mpr ⟨low, hunit', hlow⟩), ih, joined, hvalue, Char.ofNat_toNat]
      rfl

theorem toNat_ofNat {n : Nat} (h : n.isValidChar) : (Char.ofNat n).toNat = n := by
  rw [Char.ofNat, dif_pos h]
  rfl

theorem isValidChar_unitOf {a b c d : HexDigit} (hhigh : isHighSurrogate (unitOf a b c d) = false)
    (hlow : isLowSurrogate (unitOf a b c d) = false) : (unitOf a b c d).isValidChar := by
  have hlt := unitOf_lt a b c d
  simp only [isHighSurrogate, isLowSurrogate, Bool.and_eq_false_iff, decide_eq_false_iff_not]
    at hhigh hlow
  unfold Nat.isValidChar
  omega

theorem spells_pair {a b c d e f g h : HexDigit} {ps : List Piece} {cs : List Char}
    (hhigh : isHighSurrogate (unitOf a b c d) = true)
    (hlow : isLowSurrogate (unitOf e f g h) = true) (hspells : Spells ps cs) :
    Spells (.unit a b c d :: .unit e f g h :: ps)
      (joined (unitOf a b c d) (unitOf e f g h) :: cs) := by
  obtain ⟨high, hunit, hhigh⟩ := isHighSurrogate_iff.mp hhigh
  obtain ⟨low, hunit', hlow⟩ := isLowSurrogate_iff.mp hlow
  have hvalue : (unitOf a b c d - 0xD800) * 0x400 + (unitOf e f g h - 0xDC00) + 0x10000 =
      0x10000 + high * 0x400 + low := by omega
  refine .pair hunit hhigh hunit' hlow ?_ hspells
  rw [joined, hvalue]
  exact toNat_ofNat (.inr ⟨by omega, by omega⟩)

/-- Nothing is read of a string that stands for no text. -/
theorem spells_of_stringBody {ps : List Piece} {s t cs : List Char}
    (h : stringBody .full (bodyChars ps ++ s) = .ok (cs, t)) : Spells ps cs ∧ t = s := by
  -- A pair takes two pieces at once, so the induction is on their number.
  induction hn : ps.length using Nat.strongRecOn generalizing ps cs with
  | ind n ih =>
    cases ps with
    | nil =>
        rw [bodyChars_nil, List.singleton_append, stringBody_quote] at h
        cases h
        exact ⟨.nil, rfl⟩
    | cons p ps =>
        rw [bodyChars_cons, List.append_assoc] at h
        cases p with
        | plain c hc =>
            rw [stringBody_plain] at h
            obtain ⟨ds, hds, rfl⟩ := consChar_eq_ok_iff.mp h
            obtain ⟨hspells, rfl⟩ := ih ps.length (by simp [← hn]) hds rfl
            exact ⟨.plain hspells, rfl⟩
        | letter e he =>
            rw [stringBody_letter] at h
            obtain ⟨ds, hds, rfl⟩ := consChar_eq_ok_iff.mp h
            obtain ⟨hspells, rfl⟩ := ih ps.length (by simp [← hn]) hds rfl
            exact ⟨.letter hspells, rfl⟩
        | unit a b c d =>
            cases hhigh : isHighSurrogate (unitOf a b c d) with
            | true =>
                by_cases hnext : ∃ e f g h more,
                    ps = .unit e f g h :: more ∧ isLowSurrogate (unitOf e f g h) = true
                · obtain ⟨e, f, g, h', more, rfl, hlow⟩ := hnext
                  rw [bodyChars_cons, List.append_assoc, stringBody_pair _ hhigh hlow] at h
                  obtain ⟨ds, hds, rfl⟩ := consChar_eq_ok_iff.mp h
                  have hlt : more.length < n := by
                    rw [← hn, List.length_cons, List.length_cons]
                    omega
                  obtain ⟨hspells, rfl⟩ := ih more.length hlt hds rfl
                  exact ⟨spells_pair hhigh hlow hspells, rfl⟩
                · have hhalf : ∀ e f g h more, ps = .unit e f g h :: more →
                      isLowSurrogate (unitOf e f g h) = false := by
                    intro e f g h' more hps
                    exact Bool.eq_false_iff.mpr fun hlow => hnext ⟨e, f, g, h', more, hps, hlow⟩
                  rw [stringBody_half _ hhigh hhalf] at h
                  cases h
            | false =>
                cases hlow : isLowSurrogate (unitOf a b c d) with
                | true => rw [stringBody_low _ hlow] at h; cases h
                | false =>
                    rw [stringBody_single _ hhigh hlow] at h
                    obtain ⟨ds, hds, rfl⟩ := consChar_eq_ok_iff.mp h
                    obtain ⟨hspells, rfl⟩ := ih ps.length (by simp [← hn]) hds rfl
                    exact ⟨.unit (toNat_ofNat (isValidChar_unitOf hhigh hlow)) hspells, rfl⟩

theorem stringBody_eq_ok_iff {ps : List Piece} {s t cs : List Char} :
    stringBody .full (bodyChars ps ++ s) = .ok (cs, t) ↔ Spells ps cs ∧ t = s :=
  ⟨spells_of_stringBody, fun ⟨h, ht⟩ => ht ▸ stringBody_of_spells h s⟩

/-! ### Values that are asked for -/

/-- A number starts with a sign or a digit. -/
theorem exists_numeralChars (n : Numeral) :
    ∃ c cs, n.chars = c :: cs ∧ (c = '-' ∨ c.isDigit = true) := by
  rw [Numeral.chars]
  split
  · exact ⟨_, _, rfl, .inl rfl⟩
  · obtain ⟨c, cs, hcs⟩ := List.exists_cons_of_ne_nil n.whole.nonempty
    exact ⟨c, _, by rw [Numeral.unsignedChars, hcs]; rfl, .inr (n.whole.digit c (by simp [hcs]))⟩

theorem ne_of_numeral {c d : Char} (hc : c = '-' ∨ c.isDigit = true) (hd : d.isDigit = false)
    (hminus : d ≠ '-') : c ≠ d := by
  rintro rfl
  rcases hc with rfl | hc
  · exact hminus rfl
  · rw [hc] at hd
    cases hd

theorem isBlank_of_numeral {c : Char} (hc : c = '-' ∨ c.isDigit = true) : isBlank c = false := by
  simp only [isBlank, Bool.or_eq_false_iff, beq_eq_false_iff_ne]
  exact ⟨⟨⟨ne_of_numeral hc rfl (by decide), ne_of_numeral hc rfl (by decide)⟩,
    ne_of_numeral hc rfl (by decide)⟩, ne_of_numeral hc rfl (by decide)⟩

section

variable {x : Padded Tree} {s t : List Char}

theorem refuse_ne_ok {α : Type} (expected : String) (s : List Char) (a : α) :
    (refuse expected s : Except Flaw α) ≠ .ok a := by
  unfold refuse wrongSort
  split
  · nofun
  · nofun
  · split <;> nofun

theorem map_eq_ok_iff {α β : Type} {r : Reading α} {f : α × List Char → β × List Char}
    {y : β × List Char} : r.map f = .ok y ↔ ∃ a u, r = .ok (a, u) ∧ f (a, u) = y := by
  rcases r with flaw | ⟨a, u⟩
  · simp [Except.map]
  · simp only [Except.map, Except.ok.injEq, Prod.mk.injEq]
    exact ⟨fun h => ⟨a, u, ⟨rfl, rfl⟩, h⟩, fun ⟨_, _, ⟨rfl, rfl⟩, h⟩ => h⟩

theorem ended_eq_ok_iff {α : Type} {r : Reading α} {a : α} :
    ended r = .ok a ↔ ∃ s, r = .ok (a, s) ∧ skipBlanks s = [] := by
  rcases r with flaw | ⟨b, s⟩
  · simp [ended]
  · simp only [ended, Except.ok.injEq, Prod.mk.injEq]
    constructor
    · intro h
      split at h
      next hs =>
        cases h
        exact ⟨s, ⟨rfl, rfl⟩, hs⟩
      next => cases h
    · rintro ⟨_, ⟨rfl, rfl⟩, hs⟩
      exact if_pos hs

theorem boolean_eq_ok_iff {b : Bool} :
    boolean (x.chars ++ s) = .ok (b, t) ↔ x.inner = .bool b ∧ t = x.after.chars ++ s := by
  rw [x.chars_append, boolean, skipBlanks_append]
  cases x.inner with
  | bool v => cases v <;> simp [Tree.chars, skipBlanks_cons, isBlank, word, Except.map] <;> grind
  | null => simp [Tree.chars, skipBlanks_cons, isBlank, refuse_ne_ok]
  | number n =>
      obtain ⟨c, cs, hcs, hc⟩ := exists_numeralChars n
      have ht : c ≠ 't' := ne_of_numeral hc rfl (by decide)
      have hf : c ≠ 'f' := ne_of_numeral hc rfl (by decide)
      simp [Tree.chars, hcs, skipBlanks_cons (isBlank_of_numeral hc), ht, hf, refuse_ne_ok]
  | string ps => simp [Tree.chars, skipBlanks_cons, isBlank, refuse_ne_ok]
  | array gap items => simp [Tree.chars, skipBlanks_cons, isBlank, refuse_ne_ok]
  | object gap fields => simp [Tree.chars, skipBlanks_cons, isBlank, refuse_ne_ok]

theorem string_eq_ok_iff {r : String} :
    string (x.chars ++ s) = .ok (r, t) ↔ x.inner.IsText r ∧ t = x.after.chars ++ s := by
  rw [x.chars_append, string, skipBlanks_append]
  unfold Tree.IsText
  cases x.inner with
  | bool v => cases v <;> simp [Tree.chars, skipBlanks_cons, isBlank, refuse_ne_ok]
  | null => simp [Tree.chars, skipBlanks_cons, isBlank, refuse_ne_ok]
  | number n =>
      obtain ⟨c, cs, hcs, hc⟩ := exists_numeralChars n
      have hquote : c ≠ '"' := ne_of_numeral hc rfl (by decide)
      simp [Tree.chars, hcs, skipBlanks_cons (isBlank_of_numeral hc), hquote, refuse_ne_ok]
  | string ps =>
      simp only [Tree.chars, List.cons_append, skipBlanks_cons (c := '"') rfl, map_eq_ok_iff,
        stringBody_eq_ok_iff, Tree.string.injEq, exists_eq_left']
      constructor
      · rintro ⟨cs, _, ⟨hspells, rfl⟩, hread⟩
        cases hread
        rw [String.toList_ofList]
        exact ⟨hspells, rfl⟩
      · rintro ⟨hspells, rfl⟩
        exact ⟨_, _, ⟨hspells, rfl⟩, by rw [String.ofList_toList]⟩
  | array gap items => simp [Tree.chars, skipBlanks_cons, isBlank, refuse_ne_ok]
  | object gap fields => simp [Tree.chars, skipBlanks_cons, isBlank, refuse_ne_ok]

end

theorem colon_append (b : Blanks) (s : List Char) : colon (b.chars ++ ':' :: s) = .ok s := by
  rw [colon, skipBlanks_append, skipBlanks_cons rfl]
  rfl

end ServiceDoubles.Json.Reader
