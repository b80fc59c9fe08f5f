import ServiceDoubles.Proofs.Config.Cache

/-!
# ServiceDoubles.Proofs.Config.Reading

**The command line, option by option.**

The reader of the command line goes from argument to argument, and looks at an option that takes a
value only when the value is known. Looking at it at once makes no difference
(`Given.arguments_iff_settle`), so reading the words of a whole option adds the option
(`Given.arguments_words_iff`), and arguments that are accepted are a list of whole options, perhaps
with two dashes behind it (`exists_spells`).
-/

namespace ServiceDoubles.Config

open Text (Raw)

/-! ### Whole options -/

/-- The argument that asks for the real service. -/
def flag : Raw := Raw.ofString "--use-real-aws-may-incur-charges"

/-- An option of a command line, with the value that belongs to it. -/
inductive WholeOption where
  | realService
  /-- The value is the next argument. -/
  | region (value : Raw)
  /-- The value stands behind an equals sign. -/
  | regionIs (value : Raw)

namespace WholeOption

/-- The arguments that spell the option. -/
def words : WholeOption → List Raw
  | realService => [flag]
  | region value => [Raw.ofString "--region", value]
  | regionIs value => [Raw.ofString "--region=" ++ value]

/-- The region that the option gives. -/
def value? : WholeOption → Option Raw
  | realService => none
  | region value => some value
  | regionIs value => some value

def name : WholeOption → OptionName
  | realService => .realService
  | region _ => .region
  | regionIs _ => .region

/-- A value that is an argument of its own does not look like an option. -/
def Plain : WholeOption → Prop
  | region value => Argument.ofRaw value = .plain value
  | _ => True

end WholeOption

/-- The arguments that spell the options. -/
def spelled (options : List WholeOption) : List Raw := options.flatMap WholeOption.words

/-- Two dashes. -/
def dashes : Raw := Raw.ofString "--"

/-- The arguments spell the options. Two dashes may stand behind them. -/
def Spells (options : List WholeOption) (args : List Raw) : Prop :=
  args = spelled options ∨ args = spelled options ++ [dashes]

/-! ### The forms of arguments -/

theorem ofString_inj {s s' : String} : Raw.ofString s = Raw.ofString s' ↔ s = s' := by
  rw [← Raw.toString?_eq_some_iff, Raw.toString?_eq_some_iff.mpr rfl, Option.some.injEq]

theorem ofRaw?_eq_some_iff {name : Raw} {o : OptionName} :
    OptionName.ofRaw? name = some o ↔ name = Raw.ofString o.text := by
  constructor
  · intro h
    unfold OptionName.ofRaw? at h
    have hname := List.find?_some (p := fun o : OptionName => Raw.ofString o.text == name) h
    exact (eq_of_beq hname).symm
  · rintro rfl
    cases o <;> rfl

theorem ofRaw_flag :
    Argument.ofRaw flag = .long (Raw.ofString "use-real-aws-may-incur-charges") none :=
  rfl

theorem ofRaw_region :
    Argument.ofRaw (Raw.ofString "--region") = .long (Raw.ofString "region") none :=
  rfl

theorem ofRaw_regionIs (value : Raw) :
    Argument.ofRaw (Raw.ofString "--region=" ++ value) =
      .long (Raw.ofString "region") (some value) :=
  rfl

theorem eq_dashes_of_escape {a : Raw} (h : Argument.ofRaw a = .escape) : a = dashes := by
  unfold Argument.ofRaw at h
  split at h
  · rfl
  all_goals cases h

theorem eq_of_plain {a text : Raw} (h : Argument.ofRaw a = .plain text) : text = a := by
  unfold Argument.ofRaw at h
  split at h
  case h_4 => exact (Argument.plain.inj h).symm
  all_goals cases h

theorem eq_of_long {a name : Raw} {value : Option Raw} (h : Argument.ofRaw a = .long name value) :
    a = dashes ++ name ++ (value.map (some '=' :: ·)).getD [] := by
  unfold Argument.ofRaw at h
  split at h
  case h_2 rest _ =>
    obtain ⟨rfl, rfl⟩ := Argument.long.inj h
    have hbehind : ((rest.dropWhile (· ≠ some '=')).tail?.map (some '=' :: ·)).getD [] =
        rest.dropWhile (· ≠ some '=') := by
      cases hdrop : rest.dropWhile (· ≠ some '=') with
      | nil => rfl
      | cons piece behind =>
          have hpiece : piece = some '=' := by
            have hhead := List.head?_dropWhile_not (· ≠ some '=') rest
            rw [hdrop] at hhead
            simpa using hhead
          rw [hpiece]
          rfl
    rw [hbehind, List.append_assoc, List.takeWhile_append_dropWhile]
    rfl
  all_goals cases h

/-! ### An option that waits -/

namespace Given

variable {g g₁ g' : Given} {a : Raw} {args rest : List Raw} {form : Argument}

theorem settle_of_none (hg : g.waiting = none) : g.settle = .ok g := by
  rw [settle, hg]

theorem withRegion_eq_ok_iff {value : Raw} :
    g.withRegion value = .ok g₁ ↔
      g.region = none ∧
        ∃ s, value = Raw.ofString s ∧ g₁ = { g with region := some s, waiting := none } := by
  simp only [← textOf_eq_ok_iff]
  unfold withRegion
  cases g.region with
  | some region => simp
  | none => cases textOf value <;> simp [eq_comm]

theorem withRegion_waiting {value : Raw} (h : g.withRegion value = .ok g₁) : g₁.waiting = none := by
  obtain ⟨_, s, _, rfl⟩ := withRegion_eq_ok_iff.mp h
  rfl

theorem settle_waiting (h : g.settle = .ok g₁) : g₁.waiting = none := by
  unfold settle at h
  split at h
  next hg =>
    cases h
    exact hg
  next => cases h
  next => exact withRegion_waiting h

theorem arguments_escape (h : Argument.ofRaw a = .escape) :
    g.arguments (a :: rest) = .ok g' ↔ rest = [] ∧ g.settle = .ok g' := by
  cases rest <;> simp [arguments, h]

theorem arguments_cons (h : Argument.ofRaw a ≠ .escape) :
    g.arguments (a :: rest) = .ok g' ↔
      ∃ g₁, g.argument (Argument.ofRaw a) = .ok g₁ ∧ g₁.arguments rest = .ok g' := by
  cases hform : Argument.ofRaw a with
  | escape => exact absurd hform h
  | long name value => cases hg : g.argument (.long name value) <;> simp [arguments, hform, hg]
  | short first letters =>
      cases hg : g.argument (.short first letters) <;> simp [arguments, hform, hg]
  | plain text => cases hg : g.argument (.plain text) <;> simp [arguments, hform, hg]

/-- An option with two dashes has the one that waits looked at first. -/
theorem long_iff_settle {option : OptionName} {value : Option Raw} :
    g.long option value = .ok g' ↔ ∃ g₁, g.settle = .ok g₁ ∧ g₁.long option value = .ok g' := by
  cases hg : g.settle with
  | error flaw => cases option <;> cases value <;> simp [long, hg, bind, Except.bind, Except.map]
  | ok g₁ =>
      have hg₁ := settle_of_none (settle_waiting hg)
      cases option <;> cases value <;> simp [long, hg, hg₁, bind, Except.bind, Except.map]

theorem argument_short_ne_ok {first : Option Char} {letters : Raw} :
    g.argument (.short first letters) ≠ .ok g' := by
  unfold argument
  split
  case h_3 => cases hg : g.settle <;> simp [long, hg, bind, Except.bind]
  all_goals simp_all

theorem argument_plain_ne_ok {text : Raw} (hg : g.waiting ≠ some none) :
    g.argument (.plain text) ≠ .ok g' := by
  unfold argument
  split <;> simp_all

/-- An argument that is no value of the option that waits has that option looked at first. -/
theorem argument_iff_settle (hescape : form ≠ .escape)
    (hplain : ∀ text, form = .plain text → g.waiting ≠ some none) :
    g.argument form = .ok g' ↔ ∃ g₁, g.settle = .ok g₁ ∧ g₁.argument form = .ok g' := by
  cases form with
  | escape => exact absurd rfl hescape
  | long name value =>
      simp only [argument]
      cases OptionName.ofRaw? name with
      | none => simp
      | some option => exact long_iff_settle
  | short first letters => simp [argument_short_ne_ok]
  | plain text =>
      constructor
      · intro h
        exact absurd h (argument_plain_ne_ok (hplain text rfl))
      · rintro ⟨g₁, hg₁, h⟩
        refine absurd h (argument_plain_ne_ok ?_)
        rw [settle_waiting hg₁]
        exact nofun

/-- Where an option waits for its value, only the value can follow. -/
theorem arguments_iff_of_waiting (hg : g.waiting = some none) :
    g.arguments args = .ok g' ↔
      ∃ value rest, args = value :: rest ∧ Argument.ofRaw value = .plain value ∧
        { g with waiting := some (some value) }.arguments rest = .ok g' := by
  have hsettle : g.settle = .error (.missingValue .region) := by rw [settle, hg]
  constructor
  · intro h
    cases args with
    | nil =>
        rw [arguments, hsettle] at h
        cases h
    | cons a rest =>
        by_cases hescape : Argument.ofRaw a = .escape
        · rw [arguments_escape hescape, hsettle] at h
          cases h.2
        · obtain ⟨g₁, hg₁, hrest⟩ := (arguments_cons hescape).mp h
          by_cases hplain : Argument.ofRaw a = .plain a
          · rw [hplain, argument, hg] at hg₁
            cases hg₁
            exact ⟨a, rest, rfl, hplain, hrest⟩
          · -- The option that waits would be looked at without a value.
            rw [argument_iff_settle hescape
              fun text htext => absurd (eq_of_plain htext ▸ htext) hplain, hsettle] at hg₁
            obtain ⟨_, hnone, _⟩ := hg₁
            cases hnone
  · rintro ⟨value, rest, rfl, hplain, hrest⟩
    refine (arguments_cons (by rw [hplain]; exact nofun)).mpr ⟨_, ?_, hrest⟩
    rw [hplain, argument, hg]

/-- Looking at an option that has its value makes no difference. -/
theorem arguments_iff_settle (hg : g.waiting ≠ some none) :
    g.arguments args = .ok g' ↔ ∃ g₁, g.settle = .ok g₁ ∧ g₁.arguments args = .ok g' := by
  have hsettled {g₁} (hg₁ : g.settle = .ok g₁) : g₁.settle = .ok g₁ :=
    settle_of_none (settle_waiting hg₁)
  cases args with
  | nil =>
      simp only [arguments]
      constructor
      · intro h
        exact ⟨g', h, hsettled h⟩
      · rintro ⟨g₁, hg₁, h⟩
        rw [hsettled hg₁] at h
        rw [hg₁, h]
  | cons a rest =>
      by_cases hescape : Argument.ofRaw a = .escape
      · simp only [arguments_escape hescape]
        constructor
        · rintro ⟨hrest, h⟩
          exact ⟨g', h, hrest, hsettled h⟩
        · rintro ⟨g₁, hg₁, hrest, h⟩
          rw [hsettled hg₁] at h
          exact ⟨hrest, hg₁.trans h⟩
      · simp only [arguments_cons hescape, argument_iff_settle hescape fun _ _ => hg]
        constructor
        · rintro ⟨g₂, ⟨g₁, hg₁, hg₂⟩, h⟩
          exact ⟨g₁, hg₁, g₂, hg₂, h⟩
        · rintro ⟨g₁, hg₁, g₂, hg₂, h⟩
          exact ⟨g₂, ⟨g₁, hg₁, hg₂⟩, h⟩

/-! ### Whole options, one by one -/

/-- What a whole option adds. -/
def add (g : Given) : WholeOption → Except OptionFlaw Given
  | .realService =>
    if g.realService then .error (.repeated .realService) else .ok { g with realService := true }
  | .region value => g.withRegion value
  | .regionIs value => g.withRegion value

variable {o : WholeOption}

theorem add_realService_eq_ok_iff :
    g.add .realService = .ok g₁ ↔ g.realService = false ∧ g₁ = { g with realService := true } := by
  unfold add
  cases g.realService <;> simp [eq_comm]

theorem add_waiting (hg : g.waiting = none) (h : g.add o = .ok g₁) : g₁.waiting = none := by
  cases o with
  | realService =>
      obtain ⟨_, rfl⟩ := add_realService_eq_ok_iff.mp h
      exact hg
  | region value => exact withRegion_waiting h
  | regionIs value => exact withRegion_waiting h

/-- Reading the words of an option adds the option. -/
theorem arguments_words_iff (hg : g.waiting = none) :
    g.arguments (o.words ++ rest) = .ok g' ↔
      o.Plain ∧ ∃ g₁, g.add o = .ok g₁ ∧ g₁.arguments rest = .ok g' := by
  have hsettle := settle_of_none hg
  cases o with
  | realService =>
      have hadd : g.argument (Argument.ofRaw flag) = g.add .realService := by
        show g.long .realService none = _
        rw [long, hsettle]
        rfl
      show g.arguments (flag :: rest) = .ok g' ↔ _
      rw [arguments_cons (by rw [ofRaw_flag]; exact nofun), hadd]
      simp [WholeOption.Plain]
  | regionIs value =>
      have hadd : g.argument (Argument.ofRaw (Raw.ofString "--region=" ++ value)) =
          g.add (.regionIs value) := by
        show g.long .region (some value) = _
        rw [long, hsettle]
        rfl
      show g.arguments ((Raw.ofString "--region=" ++ value) :: rest) = .ok g' ↔ _
      rw [arguments_cons (by rw [ofRaw_regionIs]; exact nofun), hadd]
      simp [WholeOption.Plain]
  | region value =>
      have hwait : g.argument (Argument.ofRaw (Raw.ofString "--region")) =
          .ok { g with waiting := some none } := by
        show g.long .region none = _
        rw [long, hsettle]
        rfl
      have hlater : ({ g with waiting := some (some value) } : Given).settle =
          g.add (.region value) := rfl
      show g.arguments (Raw.ofString "--region" :: value :: rest) = .ok g' ↔ _
      rw [arguments_cons (by rw [ofRaw_region]; exact nofun), hwait, ← hlater]
      simp only [Except.ok.injEq, exists_eq_left', arguments_iff_of_waiting, List.cons.injEq]
      constructor
      · rintro ⟨_, _, ⟨rfl, rfl⟩, hplain, h⟩
        exact ⟨hplain, (arguments_iff_settle (by simp)).mp h⟩
      · rintro ⟨hplain, h⟩
        exact ⟨value, rest, ⟨rfl, rfl⟩, hplain, (arguments_iff_settle (by simp)).mpr h⟩

theorem long_region_waiting (h : g.long .region none = .ok g₁) : g₁.waiting = some none := by
  unfold long at h
  cases hg : g.settle with
  | error flaw =>
      rw [hg] at h
      cases h
  | ok g₀ =>
      rw [hg] at h
      cases h
      rfl

theorem long_help_ne_ok {value : Option Raw} : g.long .help value ≠ .ok g' := by
  cases value with
  | none => cases hg : g.settle <;> simp [long, hg, bind, Except.bind]
  | some value => exact nofun

/-- The arguments that begin an option. -/
theorem argument_cases (hg : g.waiting = none) (hescape : Argument.ofRaw a ≠ .escape)
    (h : g.argument (Argument.ofRaw a) = .ok g₁) :
    a = flag ∨ (∃ value, a = Raw.ofString "--region=" ++ value) ∨
      (a = Raw.ofString "--region" ∧ g₁.waiting = some none) := by
  cases hform : Argument.ofRaw a with
  | escape => exact absurd hform hescape
  | short first letters => exact absurd (hform ▸ h) argument_short_ne_ok
  | plain text => exact absurd (hform ▸ h) (argument_plain_ne_ok (by simp [hg]))
  | long name value =>
      have ha := eq_of_long hform
      rw [hform, argument] at h
      cases hname : OptionName.ofRaw? name with
      | none =>
          rw [hname] at h
          cases h
      | some option =>
          rw [hname] at h
          rw [ofRaw?_eq_some_iff.mp hname] at ha
          cases option with
          | help => exact absurd h long_help_ne_ok
          | realService =>
              cases value with
              | none => exact .inl ha
              | some value => cases h
          | region =>
              cases value with
              | none => exact .inr (.inr ⟨ha, long_region_waiting h⟩)
              | some value => exact .inr (.inl ⟨value, ha⟩)

/-- What is read where no option waits is nothing, two dashes or begins with a whole option. -/
theorem eq_words_append (hg : g.waiting = none) (h : g.arguments args = .ok g') :
    args = [] ∨ args = [dashes] ∨
      ∃ (o : WholeOption) (rest : List Raw), args = o.words ++ rest := by
  cases args with
  | nil => exact .inl rfl
  | cons a rest =>
      right
      by_cases hescape : Argument.ofRaw a = .escape
      · obtain ⟨rfl, _⟩ := (arguments_escape hescape).mp h
        exact .inl (by rw [eq_dashes_of_escape hescape])
      · right
        obtain ⟨g₁, hg₁, hrest⟩ := (arguments_cons hescape).mp h
        obtain rfl | ⟨value, rfl⟩ | ⟨rfl, hwaiting⟩ := argument_cases hg hescape hg₁
        · exact ⟨.realService, rest, rfl⟩
        · exact ⟨.regionIs value, rest, rfl⟩
        · obtain ⟨value, rest, rfl, _⟩ := (arguments_iff_of_waiting hwaiting).mp hrest
          exact ⟨.region value, rest, rfl⟩

end Given

/-! ### The arguments as options -/

variable {options : List WholeOption} {o : WholeOption} {args rest : List Raw} {g g' : Given}

theorem spells_cons_iff :
    Spells (o :: options) args ↔ ∃ rest, args = o.words ++ rest ∧ Spells options rest := by
  simp [Spells, spelled, and_or_left, exists_or]

/-- Arguments that are accepted spell options. -/
theorem exists_spells (hg : g.waiting = none) (h : g.arguments args = .ok g') :
    ∃ options, Spells options args := by
  -- An option takes one or two arguments, so the induction is on how many there are.
  induction hn : args.length using Nat.strongRecOn generalizing g args with
  | ind n ih =>
      obtain rfl | rfl | ⟨o, rest, rfl⟩ := Given.eq_words_append hg h
      · exact ⟨[], .inl rfl⟩
      · exact ⟨[], .inr rfl⟩
      · obtain ⟨_, g₁, hg₁, hrest⟩ := (Given.arguments_words_iff hg).mp h
        have hshorter : rest.length < n := by
          cases o <;> simp [WholeOption.words] at hn <;> omega
        obtain ⟨options, hspells⟩ := ih _ hshorter (Given.add_waiting hg hg₁) hrest rfl
        exact ⟨o :: options, spells_cons_iff.mpr ⟨rest, rfl, hspells⟩⟩

end ServiceDoubles.Config
