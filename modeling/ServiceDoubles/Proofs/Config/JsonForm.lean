import ServiceDoubles.Config.Reader
import ServiceDoubles.Proofs.Json.Skipping

/-!
# ServiceDoubles.Proofs.Config.JsonForm

**A configuration survives its JSON form**: the text that is written of a configuration is read as
that configuration, and an object is read as the configuration that its fields give
(`ofText_eq_ok_iff_gives`), whatever else it holds.

The reader goes from field to field and keeps what it has read in parts (`Parts.Fills`). What all
fields of an object give is said without the parts (`Gives`), by the values under each of the two
names. So it shows at once that neither the order of the fields nor the fields with other names make
a difference.
-/

namespace ServiceDoubles.Config

open Json (Blanks Field Flaw Padded Piece Spells Tree around bodyChars exists_pieces memberChars
  memberChars_append membersText objectText stringChars)
open Json.Reader (EndsNumber boolean_eq_ok_iff colon_append ended ended_eq_ok_iff endsNumber_cons
  exists_skipBlanks_fields exists_value_shape isBlank map_eq_ok_iff skipBlanks skipBlanks_append
  skipBlanks_blanks skipBlanks_cons stringBody stringBody_eq_ok_iff stringBody_of_spells
  string_eq_ok_iff)

/-! ### What an object gives -/

/-- The values that the fields of this name give, in order. -/
def valuesOf (name : String) (fields : List Field) : List Tree :=
  (fields.filter (·.name = name)).map (·.value.inner)

/-- The values settle a part of the configuration: without one it has its default, and one alone
stands for it. More than one settle nothing. -/
def Settles {α : Type} (stands : Tree → α → Prop) (default : α) : List Tree → α → Prop
  | [], a => a = default
  | [t], a => stands t a
  | _, _ => False

/-- The fields give the configuration. -/
structure Gives (fields : List Field) (c : Config) : Prop where
  realService : Settles (fun t b => t = .bool b) false (valuesOf "use_real_aws" fields)
    c.useRealService
  region : Settles Tree.IsText "us-west-2" (valuesOf "default_region" fields) c.region

/-! ### One field after the other -/

/-- The values fill a part that held `before`, so that it holds `after`. A part is filled once. -/
def Fills {α : Type} (stands : Tree → α → Prop) : List Tree → Option α → Option α → Prop
  | [], before, after => after = before
  | t :: rest, before, after => before = none ∧ ∃ a, stands t a ∧ Fills stands rest (some a) after

theorem fills_append {α : Type} {stands : Tree → α → Prop} {as bs : List Tree}
    {before after : Option α} :
    Fills stands (as ++ bs) before after ↔
      ∃ between, Fills stands as before between ∧ Fills stands bs between after := by
  induction as generalizing before with
  | nil => simp [Fills]
  | cons t rest ih =>
      simp only [List.cons_append, Fills, ih]
      constructor
      · rintro ⟨hbefore, a, ha, between, hrest, hbs⟩
        exact ⟨between, ⟨hbefore, a, ha, hrest⟩, hbs⟩
      · rintro ⟨between, ⟨hbefore, a, ha, hrest⟩, hbs⟩
        exact ⟨hbefore, a, ha, between, hrest, hbs⟩

/-- The fields turn the parts `p` into `q`. -/
def Parts.Fills (fields : List Field) (p q : Parts) : Prop :=
  Config.Fills (fun t b => t = .bool b) (valuesOf realServiceField fields) p.useRealService
      q.useRealService ∧
    Config.Fills Tree.IsText (valuesOf regionField fields) p.region q.region

theorem Parts.ext {p q : Parts} (hreal : p.useRealService = q.useRealService)
    (hregion : p.region = q.region) : p = q := by
  cases p
  cases q
  exact congr (congrArg Parts.mk hreal) hregion

theorem Parts.fills_append {fs gs : List Field} {p q : Parts} :
    p.Fills (fs ++ gs) q ↔ ∃ m, p.Fills fs m ∧ Parts.Fills gs m q := by
  have happend (name : String) :
      valuesOf name (fs ++ gs) = valuesOf name fs ++ valuesOf name gs := by
    simp [valuesOf]
  constructor
  · rintro ⟨hreal, hregion⟩
    rw [happend, Config.fills_append] at hreal hregion
    obtain ⟨b, hb, hreal⟩ := hreal
    obtain ⟨r, hr, hregion⟩ := hregion
    exact ⟨⟨b, r⟩, ⟨hb, hr⟩, ⟨hreal, hregion⟩⟩
  · rintro ⟨m, ⟨hb, hr⟩, ⟨hreal, hregion⟩⟩
    refine ⟨?_, ?_⟩ <;> rw [happend, Config.fills_append]
    · exact ⟨_, hb, hreal⟩
    · exact ⟨_, hr, hregion⟩

theorem valuesOf_singleton_self (f : Field) : valuesOf f.name [f] = [f.value.inner] := by
  simp [valuesOf]

theorem valuesOf_singleton_of_ne {f : Field} {name : String} (h : f.name ≠ name) :
    valuesOf name [f] = [] := by
  simp [valuesOf, h]

/-- A field is read as what it gives. A value of a wrong sort is refused, and so is a field that
comes again. -/
theorem field_eq_ok_iff {f : Field} {p q : Parts} {s t : List Char} (hs : EndsNumber s) :
    Reader.field p f.name (f.key.after.chars ++ ':' :: (f.value.chars ++ s)) = .ok (q, t) ↔
      p.Fills [f] q ∧ t = f.value.after.chars ++ s := by
  rw [Reader.field, Parts.Fills, colon_append]
  -- A field that is neither of the two gives no value to either part, and is skipped.
  split
  next hname =>
    have hreal := hname ▸ valuesOf_singleton_self f
    have hregion : valuesOf regionField [f] = [] :=
      valuesOf_singleton_of_ne (hname ▸ by decide)
    rw [hreal, hregion]
    split
    next hsome => simp [Fills, Option.isSome_iff_ne_none.mp hsome]
    next hnone =>
      simp only [map_eq_ok_iff, boolean_eq_ok_iff, Fills, Option.not_isSome_iff_eq_none.mp hnone]
      constructor
      · rintro ⟨b, _, ⟨hb, rfl⟩, hq⟩
        cases hq
        exact ⟨⟨⟨trivial, b, hb, rfl⟩, rfl⟩, rfl⟩
      · rintro ⟨⟨⟨-, b, hb, hq⟩, hr⟩, rfl⟩
        exact ⟨b, _, ⟨hb, rfl⟩, by rw [← hq, ← hr]⟩
  next hne =>
    rw [valuesOf_singleton_of_ne hne]
    split
    next hname =>
      have hregion := hname ▸ valuesOf_singleton_self f
      rw [hregion]
      split
      next hsome => simp [Fills, Option.isSome_iff_ne_none.mp hsome]
      next hnone =>
        simp only [map_eq_ok_iff, string_eq_ok_iff, Fills, Option.not_isSome_iff_eq_none.mp hnone]
        constructor
        · rintro ⟨r, _, ⟨hr, rfl⟩, hq⟩
          cases hq
          exact ⟨⟨rfl, trivial, r, hr, rfl⟩, rfl⟩
        · rintro ⟨⟨hq, -, r, hr, hr'⟩, rfl⟩
          exact ⟨r, _, ⟨hr, rfl⟩, by rw [← hq, ← hr']⟩
    next hne' =>
      obtain ⟨j, hj⟩ := exists_value_shape f.value hs
      rw [valuesOf_singleton_of_ne hne']
      simp only [hj, Except.map, Except.ok.injEq, Prod.mk.injEq, Fills]
      constructor
      · rintro ⟨rfl, rfl⟩
        exact ⟨⟨rfl, rfl⟩, rfl⟩
      · rintro ⟨⟨hq, hr⟩, rfl⟩
        exact ⟨Parts.ext hq.symm hr.symm, rfl⟩

/-- Reading a field fails where the field gives nothing, and gives what it gives otherwise. -/
theorem field_cases (f : Field) (p : Parts) {s : List Char} (hs : EndsNumber s) :
    let read := Reader.field p f.name (f.key.after.chars ++ ':' :: (f.value.chars ++ s))
    (∃ flaw, read = .error flaw ∧ ∀ m, ¬p.Fills [f] m) ∨
      ∃ m, read = .ok (m, f.value.after.chars ++ s) ∧ ∀ m', p.Fills [f] m' ↔ m' = m := by
  intro read
  cases hread : read with
  | error flaw =>
      refine .inl ⟨flaw, rfl, fun m hm => ?_⟩
      rw [show read = _ from (field_eq_ok_iff hs).mpr ⟨hm, rfl⟩] at hread
      cases hread
  | ok r =>
      obtain ⟨hm, hr⟩ := (field_eq_ok_iff hs).mp hread
      refine .inr ⟨r.1, by rw [← hr], fun m' => ⟨fun hm' => ?_, fun h => h ▸ hm⟩⟩
      rw [show read = _ from (field_eq_ok_iff hs).mpr ⟨hm', rfl⟩] at hread
      cases hread
      rfl

/-- The last field of an object. -/
theorem fieldsWith_last {f : Field} {fuel : Nat} {p q : Parts} {s t : List Char} :
    Reader.fieldsWith (fuel + 1) p (memberChars f.key f.value.chars ++ '\x7d' :: s) =
        .ok (q, t) ↔ p.Fills [f] q ∧ t = s := by
  rw [memberChars_append, Reader.fieldsWith]
  obtain ⟨flaw, hread, hfills⟩ | ⟨m, hread, hfills⟩ :=
    field_cases f p (endsNumber_cons (s := s) (.inr (.inr rfl)))
  · simp [skipBlanks_cons, isBlank, stringBody_of_spells f.spells, hread, hfills]
  · simp [skipBlanks_cons, isBlank, stringBody_of_spells f.spells, hread, hfills, eq_comm]

/-- A field that others follow. -/
theorem fieldsWith_cons {f : Field} {fuel : Nat} {p q : Parts} {s t : List Char} :
    Reader.fieldsWith (fuel + 1) p (memberChars f.key f.value.chars ++ ',' :: s) = .ok (q, t) ↔
      ∃ m, p.Fills [f] m ∧ Reader.fieldsWith fuel m s = .ok (q, t) := by
  rw [memberChars_append, Reader.fieldsWith]
  obtain ⟨flaw, hread, hfills⟩ | ⟨m, hread, hfills⟩ :=
    field_cases f p (endsNumber_cons (s := s) (.inr (.inl rfl)))
  · simp [skipBlanks_cons, isBlank, stringBody_of_spells f.spells, hread, hfills]
  · simp [skipBlanks_cons, isBlank, stringBody_of_spells f.spells, hread, hfills]

/-- The fields of an object, read one after the other. -/
theorem fieldsWith_eq_ok_iff {fields : List Field} (hne : fields ≠ []) {fuel : Nat}
    (hfuel : fields.length ≤ fuel) {p q : Parts} {s t : List Char} :
    Reader.fieldsWith fuel p (Tree.fieldChars (fields.map Field.written) ++ '\x7d' :: s) =
        .ok (q, t) ↔ p.Fills fields q ∧ t = s := by
  induction fields generalizing fuel p with
  | nil => exact absurd rfl hne
  | cons f more ih =>
      obtain ⟨fuel, rfl⟩ : ∃ n, fuel = n + 1 := ⟨fuel - 1, by simp at hfuel; omega⟩
      cases more with
      | nil => exact fieldsWith_last
      | cons g more =>
          have hmore : (g :: more).length ≤ fuel := Nat.le_of_succ_le_succ hfuel
          have hcons : p.Fills (f :: g :: more) q ↔
              ∃ m, p.Fills [f] m ∧ Parts.Fills (g :: more) m q := by
            rw [← List.singleton_append, Parts.fills_append]
          simp only [List.map_cons, Tree.fieldChars_cons_cons, List.append_assoc, List.cons_append]
          rw [hcons]
          refine fieldsWith_cons.trans ?_
          constructor
          · rintro ⟨m, hm, hread⟩
            obtain ⟨hq, rfl⟩ := (ih (by simp) hmore).mp hread
            exact ⟨⟨m, hm, hq⟩, rfl⟩
          · rintro ⟨⟨m, hm, hq⟩, rfl⟩
            exact ⟨m, hm, (ih (by simp) hmore).mpr ⟨hq, rfl⟩⟩

@[simp] theorem fieldsWith_append (b : Blanks) (fuel : Nat) (p : Parts) (s : List Char) :
    Reader.fieldsWith fuel p (b.chars ++ s) = Reader.fieldsWith fuel p s := by
  cases fuel <;> simp [Reader.fieldsWith]

theorem length_le_fieldChars (fields : List Field) :
    fields.length ≤ (Tree.fieldChars (fields.map Field.written)).length := by
  induction fields with
  | nil => exact Nat.zero_le _
  | cons f more ih =>
      cases more with
      | nil =>
          simp only [List.map_cons, List.map_nil, Tree.fieldChars_singleton, memberChars, around,
            List.length_append, List.length_cons, List.length_nil]
          omega
      | cons g more =>
          simp only [List.map_cons, Tree.fieldChars_cons_cons, List.length_append,
            List.length_cons] at ih ⊢
          omega

theorem object_eq_ok_iff {gap : Blanks} {fields : List Field} {q : Parts} {s t : List Char} :
    Reader.object (gap.chars ++ (Tree.fieldChars (fields.map Field.written) ++ '\x7d' :: s)) =
      .ok (q, t) ↔ Parts.Fills fields {} q ∧ t = s := by
  rw [Reader.object, skipBlanks_append]
  cases fields with
  | nil =>
      have hempty : Parts.Fills [] {} q ↔ q = {} := by
        simp only [Parts.Fills, valuesOf, List.filter_nil, List.map_nil, Fills]
        exact ⟨fun h => Parts.ext h.1 h.2, fun h => h ▸ ⟨rfl, rfl⟩⟩
      rw [hempty]
      simp [Tree.fieldChars, skipBlanks_cons, isBlank, eq_comm]
  | cons f more =>
      obtain ⟨cs, hcs⟩ := exists_skipBlanks_fields f.written (more.map Field.written) ('\x7d' :: s)
      have hfuel := length_le_fieldChars (f :: more)
      rw [List.map_cons, hcs, ← List.map_cons, fieldsWith_append]
      refine fieldsWith_eq_ok_iff (by simp) ?_
      simp only [List.length_append, List.length_cons] at hfuel ⊢
      omega

/-- A text is read as what its parts make. -/
theorem ofText_eq_ok_iff_parts {text : String} {c : Config} :
    ofText text = .ok c ↔
      ∃ q t, Reader.parts text.toList = .ok (q, t) ∧ skipBlanks t = [] ∧ c = q.config := by
  have hended : ofText text = .ok c ↔
      ∃ q, ended (Reader.parts text.toList) = .ok q ∧ c = q.config := by
    rw [ofText]
    cases ended (Reader.parts text.toList) with
    | error flaw => simp
    | ok q => simp [eq_comm]
  rw [hended]
  simp only [ended_eq_ok_iff]
  exact ⟨fun ⟨q, ⟨t, hread, ht⟩, hc⟩ => ⟨q, t, hread, ht, hc⟩,
    fun ⟨q, t, hread, ht, hc⟩ => ⟨q, ⟨t, hread, ht⟩, hc⟩⟩

/-- An object, without the blanks in front of it. -/
theorem parts_membersText (before gap after : Blanks)
    (members : List (Padded (List Piece) × Padded Tree)) :
    Reader.parts (membersText before gap members after).toList =
      Reader.object (gap.chars ++ (Tree.fieldChars members ++ '\x7d' :: after.chars)) := by
  have hchars : (membersText before gap members after).toList =
      before.chars ++ '\x7b' ::
        (gap.chars ++ (Tree.fieldChars members ++ '\x7d' :: after.chars)) := by
    simp [membersText, Padded.chars, around, Tree.chars, String.toList_ofList]
  rw [hchars, Reader.parts, skipBlanks_append, skipBlanks_cons rfl]
  rfl

theorem ofText_eq_ok_iff {before gap after : Blanks} {fields : List Field} {c : Config} :
    ofText (objectText before gap fields after) = .ok c ↔
      ∃ q, Parts.Fills fields {} q ∧ c = q.config := by
  rw [objectText, ofText_eq_ok_iff_parts, parts_membersText]
  simp only [object_eq_ok_iff]
  constructor
  · exact fun ⟨q, _, ⟨hq, _⟩, _, hc⟩ => ⟨q, hq, hc⟩
  · exact fun ⟨q, hq, hc⟩ => ⟨q, _, ⟨hq, rfl⟩, skipBlanks_blanks after, hc⟩

theorem settles_iff {α : Type} {stands : Tree → α → Prop} {default a : α} {values : List Tree} :
    Settles stands default values a ↔
      ∃ after, Fills stands values none after ∧ a = after.getD default := by
  cases values with
  | nil => simp [Settles, Fills]
  | cons t more =>
    cases more with
    | nil =>
      simp only [Settles, Fills]
      constructor
      · exact fun h => ⟨some a, ⟨trivial, a, h, rfl⟩, rfl⟩
      · rintro ⟨_, ⟨-, a, h, rfl⟩, rfl⟩
        exact h
    | cons u more => simp [Settles, Fills]

/-- An object is read as the configuration that its fields give. -/
theorem ofText_eq_ok_iff_gives {before gap after : Blanks} {fields : List Field} {c : Config} :
    ofText (objectText before gap fields after) = .ok c ↔ Gives fields c := by
  rw [ofText_eq_ok_iff]
  constructor
  · rintro ⟨q, ⟨hreal, hregion⟩, rfl⟩
    exact ⟨settles_iff.mpr ⟨_, hreal, rfl⟩, settles_iff.mpr ⟨_, hregion, rfl⟩⟩
  · rintro ⟨hreal, hregion⟩
    obtain ⟨b, hb, hreal⟩ := settles_iff.mp hreal
    obtain ⟨r, hr, hregion⟩ := settles_iff.mp hregion
    refine ⟨⟨b, r⟩, ⟨hb, hr⟩, ?_⟩
    cases c
    exact congr (congrArg Config.mk hreal) hregion

/-! ### Names that are no texts -/

theorem exists_spells_of_fieldsWith {key : Padded (List Piece)} {fuel : Nat} {p : Parts}
    {value s : List Char} {r : Parts × List Char}
    (h : Reader.fieldsWith (fuel + 1) p (memberChars key value ++ s) = .ok r) :
    ∃ cs, Spells key.inner cs := by
  rw [memberChars_append, Reader.fieldsWith, skipBlanks_append, skipBlanks_cons rfl] at h
  cases hkey : stringBody .full
    (bodyChars key.inner ++ (key.after.chars ++ ':' :: (value ++ s))) with
  | error flaw => simp [hkey] at h
  | ok name => exact ⟨name.1, (stringBody_eq_ok_iff.mp hkey).1⟩

theorem exists_fields_of_fieldsWith {members : List (Padded (List Piece) × Padded Tree)}
    {fuel : Nat} {p : Parts} {s : List Char} {r : Parts × List Char}
    (h : Reader.fieldsWith fuel p (Tree.fieldChars members ++ '\x7d' :: s) = .ok r) :
    ∃ fields : List Field, fields.map Field.written = members := by
  induction members generalizing fuel p with
  | nil => exact ⟨[], rfl⟩
  | cons m more ih =>
      -- Without fuel nothing is read.
      obtain _ | fuel := fuel
      · cases h
      cases more with
      | nil =>
          obtain ⟨cs, hcs⟩ := exists_spells_of_fieldsWith h
          exact ⟨[⟨m.1, String.ofList cs, by rwa [String.toList_ofList], m.2⟩], rfl⟩
      | cons m' more =>
          rw [Tree.fieldChars_cons_cons, List.append_assoc, List.cons_append] at h
          obtain ⟨cs, hcs⟩ := exists_spells_of_fieldsWith h
          let f : Field := ⟨m.1, String.ofList cs, by rwa [String.toList_ofList], m.2⟩
          obtain ⟨q, -, hmore⟩ := (fieldsWith_cons (f := f)).mp h
          obtain ⟨fields, hfields⟩ := ih hmore
          exact ⟨f :: fields, by rw [List.map_cons, hfields]; rfl⟩

/-- An object that is read has names that are texts. -/
theorem exists_fields_of_ofText {before gap after : Blanks}
    {members : List (Padded (List Piece) × Padded Tree)} {c : Config}
    (h : ofText (membersText before gap members after) = .ok c) :
    ∃ fields : List Field, fields.map Field.written = members := by
  rw [ofText_eq_ok_iff_parts, parts_membersText] at h
  obtain ⟨q, t, hread, -⟩ := h
  rw [Reader.object, skipBlanks_append] at hread
  cases members with
  | nil => exact ⟨[], rfl⟩
  | cons m more =>
      obtain ⟨cs, hcs⟩ := exists_skipBlanks_fields m more ('\x7d' :: after.chars)
      rw [hcs, fieldsWith_append] at hread
      exact exists_fields_of_fieldsWith hread

/-! ### The text of a configuration -/

/-- A field as it is printed. -/
theorem exists_field (name : String) (value : Tree) :
    ∃ f : Field, f.name = name ∧ f.value = .bare value ∧
      memberChars f.key f.value.chars = stringChars name ++ ':' :: value.chars := by
  obtain ⟨ps, hps, hspells⟩ := exists_pieces name.toList
  refine ⟨⟨.bare ps, name, hspells, .bare value⟩, rfl, rfl, ?_⟩
  simp [memberChars, Padded.bare, Padded.chars, around, Blanks.none, stringChars, hps]

theorem objectText_bare (fields : List Field) :
    objectText .none .none fields .none =
      String.ofList ('\x7b' :: (Tree.fieldChars (fields.map Field.written) ++ ['\x7d'])) := by
  simp [objectText, membersText, Padded.chars, around, Blanks.none, Tree.chars]

/-- The text of a configuration is an object with both fields. -/
theorem exists_text (c : Config) :
    ∃ fields, c.text = objectText .none .none fields .none ∧ Gives fields c := by
  obtain ⟨ps, hps, hspells⟩ := exists_pieces c.region.toList
  obtain ⟨f, hf, hvalue, hfchars⟩ := exists_field realServiceField (.bool c.useRealService)
  obtain ⟨g, hg, hgvalue, hgchars⟩ := exists_field regionField (.string ps)
  have hbool : (Tree.bool c.useRealService).chars = (Json.bool c.useRealService).chars := by
    cases c.useRealService <;> rfl
  have hstring : (Tree.string ps).chars = (Json.string c.region).chars := by
    simp only [Tree.chars, hps, Json.chars, stringChars]
  have hreal : valuesOf "use_real_aws" [f, g] = [.bool c.useRealService] := by
    simp [valuesOf, hf, hg, hvalue, Padded.bare, realServiceField, regionField]
  have hregion : valuesOf "default_region" [f, g] = [.string ps] := by
    simp [valuesOf, hf, hg, hgvalue, Padded.bare, realServiceField, regionField]
  refine ⟨[f, g], ?_, ?_, ?_⟩
  · rw [objectText_bare, text, Json.text, Json.chars, Json.fieldChars, Json.fieldChars]
    · simp only [List.map_cons, List.map_nil, Field.written, Tree.fieldChars_cons_cons,
        Tree.fieldChars_singleton, hfchars, hgchars, hbool, hstring, List.append_assoc,
        List.cons_append]
    · simp
  · rw [hreal]
    exact rfl
  · rw [hregion]
    exact ⟨ps, rfl, hspells⟩

/-! ### What makes no difference -/

/-- The fields that count, each with its value. The others are skipped. -/
def counted (fields : List Field) : List (String × Tree) :=
  (fields.filter fun f => f.name = "use_real_aws" ∨ f.name = "default_region").map fun f =>
    (f.name, f.value.inner)

theorem valuesOf_eq {name : String} (h : name = "use_real_aws" ∨ name = "default_region")
    (fields : List Field) :
    valuesOf name fields = ((counted fields).filter (·.1 = name)).map (·.2) := by
  simp only [valuesOf, counted, List.filter_map, List.map_map, List.filter_filter]
  refine congrArg (List.map _) (List.filter_congr fun f _ => ?_)
  by_cases hf : f.name = name
  · simpa [hf] using h
  · simp [hf]

theorem Settles.perm {α : Type} {stands : Tree → α → Prop} {default a : α} {as bs : List Tree}
    (h : as.Perm bs) : Settles stands default as a ↔ Settles stands default bs a := by
  match as, bs, h.length_eq with
  | [], [], _ => exact Iff.rfl
  | [t], [u], _ => rw [List.singleton_perm_singleton.mp h]
  | _ :: _ :: _, _ :: _ :: _, _ => exact Iff.rfl

/-- Only the fields that count make a difference, and not their order. -/
theorem Gives.perm {fields fields' : List Field} (h : (counted fields).Perm (counted fields'))
    (c : Config) : Gives fields c ↔ Gives fields' c := by
  have hvalues {name : String} (hname : name = "use_real_aws" ∨ name = "default_region") :
      (valuesOf name fields).Perm (valuesOf name fields') := by
    rw [valuesOf_eq hname, valuesOf_eq hname]
    exact (h.filter _).map _
  have hreal : Settles (fun t b => t = .bool b) false (valuesOf "use_real_aws" fields)
      c.useRealService ↔
        Settles (fun t b => t = .bool b) false (valuesOf "use_real_aws" fields')
          c.useRealService :=
    Settles.perm (hvalues (.inl rfl))
  have hregion : Settles Tree.IsText "us-west-2" (valuesOf "default_region" fields) c.region ↔
      Settles Tree.IsText "us-west-2" (valuesOf "default_region" fields') c.region :=
    Settles.perm (hvalues (.inr rfl))
  exact ⟨fun g => ⟨hreal.mp g.realService, hregion.mp g.region⟩,
    fun g => ⟨hreal.mpr g.realService, hregion.mpr g.region⟩⟩

/-! ### What is refused -/

/-- The values settle no part: there are several, or one of a wrong sort. -/
def Unfit {α : Type} (stands : Tree → α → Prop) (values : List Tree) : Prop :=
  1 < values.length ∨ ∃ t ∈ values, ∀ a, ¬stands t a

theorem unfit_iff {α : Type} {stands : Tree → α → Prop} (default : α) {values : List Tree} :
    Unfit stands values ↔ ∀ a, ¬Settles stands default values a := by
  match values with
  | [] => simp [Unfit, Settles]
  | [t] => simp [Unfit, Settles]
  | _ :: _ :: _ => simp [Unfit, Settles]

theorem ofText_error_iff {text : String} :
    (∃ flaw, ofText text = .error (.json flaw)) ↔ ∀ c, ofText text ≠ .ok c := by
  unfold ofText
  split <;> simp

/-- An object is refused when it repeats one of the two fields, or gives one a value of a wrong
sort. -/
theorem ofText_refused_iff {before gap after : Blanks} {fields : List Field} :
    (∃ flaw, ofText (objectText before gap fields after) = .error (.json flaw)) ↔
      Unfit (fun t b => t = .bool b) (valuesOf "use_real_aws" fields) ∨
        Unfit Tree.IsText (valuesOf "default_region" fields) := by
  rw [ofText_error_iff, unfit_iff false, unfit_iff "us-west-2"]
  simp only [ne_eq, ofText_eq_ok_iff_gives]
  constructor
  · intro h
    -- If the one part can be settled, it is the other that cannot.
    by_cases hreal : ∃ b, Settles (fun t b => t = .bool b) false (valuesOf "use_real_aws" fields) b
    · obtain ⟨b, hb⟩ := hreal
      exact .inr fun r hr => h ⟨b, r⟩ ⟨hb, hr⟩
    · exact .inl (not_exists.mp hreal)
  · rintro (h | h) c ⟨hreal, hregion⟩
    · exact h _ hreal
    · exact h _ hregion

/-! ### The JSON form -/

/-- The text of a configuration is read as that configuration. An object is read as the
configuration that its fields give, in whatever order and among whatever other fields, and a field
that is left out has its default. An object is refused exactly when it repeats one of the two
fields, gives one a value of a wrong sort, or has a name that is no text. -/
theorem survives_json_form :
    (∀ c : Config, ofText c.text = .ok c) ∧
      (∀ (before gap after : Blanks) (fields : List Field) (c : Config),
        ofText (objectText before gap fields after) = .ok c ↔ Gives fields c) ∧
      (∀ (before gap after before' gap' after' : Blanks) (fields fields' : List Field),
        (counted fields).Perm (counted fields') →
          ∀ c, ofText (objectText before gap fields after) = .ok c ↔
            ofText (objectText before' gap' fields' after') = .ok c) ∧
      ∀ (before gap after : Blanks) (members : List (Padded (List Piece) × Padded Tree)),
        (∃ flaw, ofText (membersText before gap members after) = .error (.json flaw)) ↔
          ∀ fields : List Field, fields.map Field.written = members →
            Unfit (fun t b => t = .bool b) (valuesOf "use_real_aws" fields) ∨
              Unfit Tree.IsText (valuesOf "default_region" fields) := by
  refine ⟨fun c => ?_, fun _ _ _ _ _ => ofText_eq_ok_iff_gives, ?_, ?_⟩
  · obtain ⟨fields, htext, hgives⟩ := exists_text c
    rw [htext]
    exact ofText_eq_ok_iff_gives.mpr hgives
  · intro before gap after before' gap' after' fields fields' hperm c
    rw [ofText_eq_ok_iff_gives, ofText_eq_ok_iff_gives]
    exact Gives.perm hperm c
  · intro before gap after members
    constructor
    · rintro hrefused fields rfl
      exact ofText_refused_iff.mp hrefused
    · intro h
      refine ofText_error_iff.mpr fun c hc => ?_
      obtain ⟨fields, rfl⟩ := exists_fields_of_ofText hc
      exact ofText_error_iff.mp (ofText_refused_iff.mpr (h fields rfl)) c hc

/-- The two fields may stand in the other order, with a field between them that is skipped. -/
theorem survives_json_form_reordered :
    ∃ fields fields' : List Field,
      (counted fields).Perm (counted fields') ∧
        objectText .none .none fields .none =
          "\x7b\"use_real_aws\":true,\"default_region\":\"eu-west-1\"\x7d" ∧
        objectText .none .none fields' .none =
          "\x7b\"default_region\":\"eu-west-1\",\"note\":null,\"use_real_aws\":true\x7d" ∧
        ofText (objectText .none .none fields' .none) = .ok ⟨true, "eu-west-1"⟩ := by
  obtain ⟨ps, hps, hspells⟩ := exists_pieces "eu-west-1".toList
  obtain ⟨f, hf, hvalue, hfchars⟩ := exists_field "use_real_aws" (.bool true)
  obtain ⟨g, hg, hgvalue, hgchars⟩ := exists_field "default_region" (.string ps)
  obtain ⟨u, hu, huvalue, huchars⟩ := exists_field "note" .null
  have hperm : (counted [f, g]).Perm (counted [g, u, f]) := by
    simp [counted, hf, hg, hu, List.Perm.swap]
  have hwritten : objectText .none .none [f, g] .none = Config.text ⟨true, "eu-west-1"⟩ := by
    simp only [objectText_bare, List.map_cons, List.map_nil, Field.written,
      Tree.fieldChars_cons_cons, Tree.fieldChars_singleton, hfchars, hgchars, Tree.chars, hps]
    rfl
  refine ⟨[f, g], [g, u, f], hperm, hwritten.trans rfl, ?_, ?_⟩
  · simp only [objectText_bare, List.map_cons, List.map_nil, Field.written,
      Tree.fieldChars_cons_cons, Tree.fieldChars_singleton, hfchars, hgchars, huchars, Tree.chars,
      hps]
    rfl
  · rw [← survives_json_form.2.2.1 .none .none .none .none .none .none [f, g] [g, u, f] hperm,
      hwritten]
    exact survives_json_form.1 _

end ServiceDoubles.Config
