import ServiceDoubles.Proofs.Config.Collected

/-!
# ServiceDoubles.Proofs.Config.CommandLine

**The command line goes before the environment.**

What a command line gives is a matter of the options that its arguments spell
(`ofArguments_eq_ok_iff`), and what those give can be read off the arguments: a word that begins an
option stands there only for that option. The environment counts for what they leave open.
-/

namespace ServiceDoubles.Config

open Text (Raw)

/-- The arguments give the region option this value. -/
def GivesRegion (args : List Raw) (value : Raw) : Prop :=
  [Raw.ofString "--region", value] <:+: args ∨ Raw.ofString "--region=" ++ value ∈ args

variable {options : List WholeOption} {o : WholeOption} {args : List Raw} {g : Given}

/-! ### The words of the options -/

theorem flag_ne_regionIs (value : Raw) : flag ≠ Raw.ofString "--region=" ++ value := by
  intro h
  have hforms := congrArg Argument.ofRaw h
  rw [ofRaw_flag, ofRaw_regionIs] at hforms
  exact absurd (Argument.long.inj hforms).2 nofun

theorem region_ne_regionIs (value : Raw) :
    Raw.ofString "--region" ≠ Raw.ofString "--region=" ++ value := by
  intro h
  have hforms := congrArg Argument.ofRaw h
  rw [ofRaw_region, ofRaw_regionIs] at hforms
  exact absurd (Argument.long.inj hforms).2 nofun

/-- A value of its own is none of the words that begin an option. -/
theorem ne_of_plain {a value name : Raw} {behind : Option Raw}
    (hplain : Argument.ofRaw value = .plain value) (ha : Argument.ofRaw a = .long name behind) :
    a ≠ value := by
  rintro rfl
  rw [hplain] at ha
  cases ha

/-- A word that begins one option and is no word of the others stands for that option. -/
theorem mem_iff_of_words {a : Raw} (hs : Sound options) (hspells : Spells options args)
    (hplain : o.Plain) (ha : a ≠ dashes)
    (hwords : ∀ o' : WholeOption, o'.Plain → (a ∈ o'.words ↔ o' = o)) :
    a ∈ args ↔ o ∈ options := by
  have hmem : a ∈ args ↔ ∃ o' ∈ options, a ∈ o'.words := by
    obtain rfl | rfl := hspells <;> simp [spelled, ha]
  rw [hmem]
  constructor
  · rintro ⟨o', ho', h⟩
    rwa [← (hwords o' (hs.plain o' ho')).mp h]
  · intro ho
    exact ⟨o, ho, (hwords o hplain).mpr rfl⟩

/-- The flag stands among the arguments only as an option. -/
theorem flag_mem_iff (hs : Sound options) (hspells : Spells options args) :
    flag ∈ args ↔ .realService ∈ options := by
  refine mem_iff_of_words hs hspells trivial (by decide) fun o' hplain => ?_
  cases o' with
  | realService => simp [WholeOption.words]
  | regionIs value => simp [WholeOption.words, flag_ne_regionIs]
  | region value =>
      have hregion : flag ≠ Raw.ofString "--region" := by decide
      simp [WholeOption.words, hregion, ne_of_plain hplain ofRaw_flag]

theorem regionIs_mem_iff {value : Raw} (hs : Sound options) (hspells : Spells options args) :
    Raw.ofString "--region=" ++ value ∈ args ↔ .regionIs value ∈ options := by
  have hdashes : Raw.ofString "--region=" ++ value ≠ dashes := nofun
  refine mem_iff_of_words hs hspells trivial hdashes fun o' hplain => ?_
  cases o' with
  | realService => simp [WholeOption.words, (flag_ne_regionIs value).symm]
  | regionIs value' => simp [WholeOption.words, eq_comm]
  | region value' =>
      simp [WholeOption.words, (region_ne_regionIs value).symm,
        ne_of_plain hplain (ofRaw_regionIs value)]

/-- The region option and a value stand side by side only as one option. -/
theorem region_infix_iff {value : Raw} (hs : Sound options) (hspells : Spells options args) :
    [Raw.ofString "--region", value] <:+: args ↔ .region value ∈ options := by
  have hskip {a : Raw} {rest : List Raw} (ha : Raw.ofString "--region" ≠ a) :
      [Raw.ofString "--region", value] <:+: a :: rest ↔
        [Raw.ofString "--region", value] <:+: rest := by
    rw [List.infix_cons_iff, List.cons_prefix_cons]
    simp [ha]
  induction options generalizing args with
  | nil =>
      have hshort : args.length ≤ 1 := by
        obtain rfl | rfl := hspells <;> simp [spelled]
      constructor
      · intro h
        exact absurd (Nat.le_trans h.length_le hshort) (by simp)
      · intro h
        cases h
  | cons o options ih =>
      obtain ⟨rest, rfl, hrest⟩ := spells_cons_iff.mp hspells
      have hplain := hs.plain o (by simp)
      have hinfix : [Raw.ofString "--region", value] <:+: rest ↔ .region value ∈ options :=
        ih (hs.sublist (List.sublist_cons_self o options)) hrest
      cases o with
      | realService =>
          show _ <:+: flag :: rest ↔ _
          rw [hskip (by decide), hinfix]
          simp
      | regionIs value' =>
          show _ <:+: (Raw.ofString "--region=" ++ value') :: rest ↔ _
          rw [hskip (region_ne_regionIs value'), hinfix]
          simp
      | region value' =>
          show _ <:+: Raw.ofString "--region" :: value' :: rest ↔ _
          rw [List.infix_cons_iff, hskip (ne_of_plain hplain ofRaw_region), hinfix]
          simp [List.cons_prefix_cons]

theorem givesRegion_iff {value : Raw} (hs : Sound options) (hspells : Spells options args) :
    GivesRegion args value ↔ ∃ o ∈ options, o.value? = some value := by
  rw [GivesRegion, region_infix_iff hs hspells, regionIs_mem_iff hs hspells]
  constructor
  · rintro (ho | ho)
    · exact ⟨_, ho, rfl⟩
    · exact ⟨_, ho, rfl⟩
  · rintro ⟨o, ho, hvalue⟩
    cases o with
    | realService => cases hvalue
    | region _ => cases hvalue; exact .inl ho
    | regionIs _ => cases hvalue; exact .inr ho

/-! ### The configuration -/

/-- The options and the environment give this configuration: the environment counts only for what
the options leave open. -/
structure Configures (options : List WholeOption) (env : Environment) (config : Config) : Prop where
  real : .realService ∈ options → config.useRealService = true
  switch : .realService ∉ options → if config.useRealService then env.SaysOn else env.SaysOff
  given : ∀ o ∈ options, ∀ value, o.value? = some value → value = Raw.ofString config.region
  region : (∀ o ∈ options, o.value? = none) →
    env.region = some (Raw.ofString config.region) ∨
      (env.region = none ∧ config.region = standard.region)

variable {env : Environment} {config : Config} {program : Raw}

theorem Configures.perm {options' : List WholeOption} (h : Configures options env config)
    (hperm : options.Perm options') : Configures options' env config where
  real hreal := h.real (hperm.mem_iff.mpr hreal)
  switch hreal := h.switch fun ho => hreal (hperm.mem_iff.mp ho)
  given o ho := h.given o (hperm.mem_iff.mpr ho)
  region hall := h.region fun o ho => hall o (hperm.mem_iff.mp ho)

theorem Given.config_eq_ok_iff :
    g.config env = .ok config ↔
      (if g.realService then config.useRealService = true
        else switchOf env.switch = .ok config.useRealService) ∧
      (match g.region with
        | some region => config.region = region
        | none => regionOf env.region = .ok config.region) := by
  obtain ⟨useRealService, region⟩ := config
  unfold Given.config
  cases g.realService <;> cases g.region <;> cases switchOf env.switch <;>
    cases regionOf env.region <;>
      simp [bind, Except.bind, pure, Except.pure, eq_comm]

theorem Collects.config_eq_ok_iff (hs : Sound options) (hc : Collects options g) :
    g.config env = .ok config ↔ Configures options env config := by
  have hswitch : (if g.realService then config.useRealService = true
        else switchOf env.switch = .ok config.useRealService) ↔
      (.realService ∈ options → config.useRealService = true) ∧
        (.realService ∉ options → if config.useRealService then env.SaysOn else env.SaysOff) := by
    rw [← hc.realService, switchOf_eq_ok_iff]
    cases g.realService <;> simp
  have hregion : (match g.region with
        | some region => config.region = region
        | none => regionOf env.region = .ok config.region) ↔
      (∀ o ∈ options, ∀ value, o.value? = some value → value = Raw.ofString config.region) ∧
        ((∀ o ∈ options, o.value? = none) →
          env.region = some (Raw.ofString config.region) ∨
            (env.region = none ∧ config.region = standard.region)) := by
    cases hg : g.region with
    | none =>
        have hall := (hc.region_eq_none_iff hs).mp hg
        simp +contextual [hall, regionOf_eq_ok_iff]
    | some region =>
        obtain ⟨o, ho, hvalue⟩ := (hc.region region).mp hg
        constructor
        · rintro rfl
          refine ⟨fun o' ho' value hvalue' => hc.value_eq hs hg ho' hvalue', fun hall => ?_⟩
          rw [hall o ho] at hvalue
          cases hvalue
        · rintro ⟨hgiven, _⟩
          exact (ofString_inj.mp (hgiven o ho _ hvalue)).symm
  rw [Given.config_eq_ok_iff, hswitch, hregion]
  exact ⟨fun h => ⟨h.1.1, h.1.2, h.2.1, h.2.2⟩, fun h => ⟨⟨h.real, h.switch⟩, h.given, h.region⟩⟩

/-- Nothing is collected before the first argument. -/
theorem collects_nil : Collects [] {} := ⟨by simp, by simp, rfl⟩

/-- What is found in arguments that spell some options is what those options give. -/
theorem collects_of_arguments (hspells : Spells options args)
    (h : Given.arguments {} args = .ok g) : Sound options ∧ Collects options g :=
  collects_nil.arguments ⟨by simp, by simp, .nil⟩ hspells h

theorem ofArguments_eq_ok_iff_exists :
    ofArguments env (program :: args) = .ok config ↔
      ∃ g, Given.arguments {} args = .ok g ∧ g.config env = .ok config := by
  rw [ofArguments, List.tail_cons]
  cases Given.arguments {} args with
  | error flaw => simp [bind, Except.bind]
  | ok g => cases hg : g.config env <;> simp [bind, Except.bind, hg]

/-- What arguments that spell some options give. -/
theorem ofArguments_eq_ok_iff (hspells : Spells options args) :
    ofArguments env (program :: args) = .ok config ↔
      Sound options ∧ Configures options env config := by
  rw [ofArguments_eq_ok_iff_exists]
  constructor
  · rintro ⟨g, hg, hconfig⟩
    obtain ⟨hs, hc⟩ := collects_of_arguments hspells hg
    exact ⟨hs, (hc.config_eq_ok_iff hs).mp hconfig⟩
  · rintro ⟨hs, hconfig⟩
    have hall : Sound ([] ++ options) := hs
    obtain ⟨g, hg⟩ := exists_arguments hall collects_nil hspells
    have hc := (collects_of_arguments hspells hg).2
    exact ⟨g, hg, (hc.config_eq_ok_iff hs).mpr hconfig⟩

/-- Arguments that give a configuration spell options that give it. -/
theorem exists_configures (h : ofArguments env (program :: args) = .ok config) :
    ∃ options, Spells options args ∧ Sound options ∧ Configures options env config := by
  obtain ⟨g, hg, _⟩ := ofArguments_eq_ok_iff_exists.mp h
  obtain ⟨options, hspells⟩ := exists_spells rfl hg
  exact ⟨options, hspells, (ofArguments_eq_ok_iff hspells).mp h⟩

/-- A refusal is a fault of the configuration. -/
theorem exists_reason_of_error {cause : Fault} (h : ofArguments env args = .error cause) :
    ∃ reason, cause = .config reason := by
  unfold ofArguments at h
  split at h
  · cases h
  next flaw _ =>
    cases h
    cases flaw <;> exact ⟨_, rfl⟩

/-! ### Precedence -/

/-- The value is a word that switches on, in letters of any case. -/
def SwitchesOn (value : Raw) : Prop :=
  ∃ word : String, value = Raw.ofString word ∧
    word.toLower ∈ ["y", "yes", "t", "true", "on", "1"]

/-- The value is a word that switches off, in letters of any case. -/
def SwitchesOff (value : Raw) : Prop :=
  ∃ word : String, value = Raw.ofString word ∧
    word.toLower ∈ ["n", "no", "f", "false", "off", "0"]

theorem saysOn_iff : env.SaysOn ↔ ∃ value, env.switch = some value ∧ SwitchesOn value := by
  constructor
  · rintro ⟨word, hswitch, hword⟩
    exact ⟨_, hswitch, word, rfl, hword⟩
  · rintro ⟨_, hswitch, word, rfl, hword⟩
    exact ⟨word, hswitch, hword⟩

theorem saysOff_iff : env.SaysOff ↔ ∀ value, env.switch = some value → SwitchesOff value := by
  constructor
  · rintro (hnone | ⟨word, hswitch, hword⟩) value hvalue
    · rw [hnone] at hvalue
      cases hvalue
    · obtain rfl := Option.some.inj (hswitch.symm.trans hvalue)
      exact ⟨word, rfl, hword⟩
  · intro hall
    cases hswitch : env.switch with
    | none => exact .inl hswitch
    | some value =>
        obtain ⟨word, rfl, hword⟩ := hall value hswitch
        exact .inr ⟨word, hswitch, hword⟩

theorem Environment.SaysOn.not_saysOff (hon : env.SaysOn) : ¬env.SaysOff := by
  intro hoff
  have htrue : switchOf env.switch = .ok true := switchOf_eq_ok_iff.mpr hon
  have hfalse : switchOf env.switch = .ok false := switchOf_eq_ok_iff.mpr hoff
  rw [htrue] at hfalse
  cases hfalse

theorem useRealService_iff (h : ofArguments env (program :: args) = .ok config) :
    config.useRealService = true ↔
      flag ∈ args ∨ (flag ∉ args ∧ ∃ value, env.switch = some value ∧ SwitchesOn value) := by
  obtain ⟨options, hspells, hs, hconfig⟩ := exists_configures h
  rw [← saysOn_iff, flag_mem_iff hs hspells]
  by_cases hreal : .realService ∈ options
  · simp [hreal, hconfig.real hreal]
  · have hswitch := hconfig.switch hreal
    cases huse : config.useRealService with
    | true =>
        rw [huse, if_pos rfl] at hswitch
        simp [hreal, hswitch]
    | false =>
        rw [huse, if_neg Bool.false_ne_true] at hswitch
        simp [hreal, mt Environment.SaysOn.not_saysOff (not_not_intro hswitch)]

theorem region_eq (h : ofArguments env (program :: args) = .ok config) :
    (∀ value, GivesRegion args value → value = Raw.ofString config.region) ∧
      ((∀ value, ¬GivesRegion args value) →
        env.region = some (Raw.ofString config.region) ∨
          (env.region = none ∧ config.region = "us-west-2")) := by
  obtain ⟨options, hspells, hs, hconfig⟩ := exists_configures h
  simp only [givesRegion_iff hs hspells]
  constructor
  · rintro value ⟨o, ho, hvalue⟩
    exact hconfig.given o ho value hvalue
  · intro hnone
    refine hconfig.region fun o ho => ?_
    cases hvalue : o.value? with
    | none => rfl
    | some value => exact absurd ⟨o, ho, hvalue⟩ (hnone value)

/-- A switch that says neither is never passed over. -/
theorem refused_of_word {value : Raw} (hflag : flag ∉ args) (hvalue : env.switch = some value)
    (hon : ¬SwitchesOn value) (hoff : ¬SwitchesOff value) :
    ∃ reason, ofArguments env (program :: args) = .error (.config reason) := by
  cases h : ofArguments env (program :: args) with
  | error cause =>
      obtain ⟨reason, rfl⟩ := exists_reason_of_error h
      exact ⟨reason, rfl⟩
  | ok config =>
      obtain ⟨options, hspells, hs, hconfig⟩ := exists_configures h
      have hswitch := hconfig.switch (mt (flag_mem_iff hs hspells).mpr hflag)
      split at hswitch
      · obtain ⟨value', hvalue', hon'⟩ := saysOn_iff.mp hswitch
        rw [Option.some.inj (hvalue.symm.trans hvalue')] at hon
        exact absurd hon' hon
      · exact absurd (saysOff_iff.mp hswitch value hvalue) hoff

/-- Two environments in which what was found gives the same give the same. -/
theorem ofArguments_congr {env' : Environment}
    (h : ∀ g, Given.arguments {} args = .ok g → g.config env' = g.config env) :
    ofArguments env' (program :: args) = ofArguments env (program :: args) := by
  rw [ofArguments, ofArguments, List.tail_cons]
  cases hg : Given.arguments {} args with
  | error flaw => rfl
  | ok g =>
      have hsame := h g hg
      simp only [bind, Except.bind, hsame]

theorem ofArguments_switch (hflag : flag ∈ args) (switch : Option Raw) :
    ofArguments { env with switch } (program :: args) = ofArguments env (program :: args) := by
  refine ofArguments_congr fun g hg => ?_
  obtain ⟨options, hspells⟩ := exists_spells rfl hg
  obtain ⟨hs, hc⟩ := collects_of_arguments hspells hg
  have hreal := hc.realService.mpr ((flag_mem_iff hs hspells).mp hflag)
  simp only [Given.config, hreal, if_true]

theorem ofArguments_region {value : Raw} (hvalue : GivesRegion args value) (region : Option Raw) :
    ofArguments { env with region } (program :: args) = ofArguments env (program :: args) := by
  refine ofArguments_congr fun g hg => ?_
  obtain ⟨options, hspells⟩ := exists_spells rfl hg
  obtain ⟨hs, hc⟩ := collects_of_arguments hspells hg
  obtain ⟨o, ho, hvalue⟩ := (givesRegion_iff hs hspells).mp hvalue
  obtain ⟨s, rfl⟩ := hs.text o ho value hvalue
  have hregion := (hc.region s).mpr ⟨o, ho, hvalue⟩
  simp only [Given.config, hregion]

/-- The order of the options does not matter. -/
theorem ofArguments_perm {options' : List WholeOption} {args' : List Raw}
    (h : ofArguments env (program :: args) = .ok config) (hspells : Spells options args)
    (hperm : options.Perm options') (hspells' : Spells options' args') :
    ofArguments env (program :: args') = .ok config := by
  obtain ⟨hs, hconfig⟩ := (ofArguments_eq_ok_iff hspells).mp h
  exact (ofArguments_eq_ok_iff hspells').mpr ⟨hs.perm hperm, hconfig.perm hperm⟩

theorem exists_switch
    (h : ∀ value, env.switch = some value → SwitchesOn value ∨ SwitchesOff value) :
    ∃ b, switchOf env.switch = .ok b := by
  by_cases hon : env.SaysOn
  · exact ⟨true, switchOf_eq_ok_iff.mpr hon⟩
  · refine ⟨false, switchOf_eq_ok_iff.mpr (saysOff_iff.mpr fun value hvalue => ?_)⟩
    exact (h value hvalue).resolve_left fun hword => hon (saysOn_iff.mpr ⟨value, hvalue, hword⟩)

theorem exists_region (h : ∀ value, env.region = some value → ∃ s, value = Raw.ofString s) :
    ∃ region, regionOf env.region = .ok region := by
  simp only [regionOf_eq_ok_iff]
  cases hvariable : env.region with
  | none => exact ⟨_, .inr ⟨rfl, rfl⟩⟩
  | some value =>
      obtain ⟨s, rfl⟩ := h value hvariable
      exact ⟨s, .inl rfl⟩

/-- Options that can stand together are accepted where the environment can answer for what they
leave open. -/
theorem exists_ofArguments (hs : Sound options) (hspells : Spells options args)
    (hswitch : flag ∈ args ∨
      ∀ value, env.switch = some value → SwitchesOn value ∨ SwitchesOff value)
    (hregion : (∃ value, GivesRegion args value) ∨
      ∀ value, env.region = some value → ∃ s, value = Raw.ofString s) :
    ∃ config, ofArguments env (program :: args) = .ok config := by
  have hall : Sound ([] ++ options) := hs
  obtain ⟨g, hg⟩ := exists_arguments hall collects_nil hspells
  obtain ⟨_, hc⟩ := collects_of_arguments hspells hg
  have huse : ∃ b, if g.realService then b = true else switchOf env.switch = .ok b := by
    split
    next => exact ⟨true, rfl⟩
    next hreal =>
      rw [hc.realService, ← flag_mem_iff hs hspells] at hreal
      exact exists_switch (hswitch.resolve_left hreal)
  have hplace : ∃ r, match g.region with
      | some region => r = region
      | none => regionOf env.region = .ok r := by
    split
    next region _ => exact ⟨region, rfl⟩
    next hnone =>
      refine exists_region (hregion.resolve_left fun ⟨value, hvalue⟩ => ?_)
      obtain ⟨o, ho, hvalue⟩ := (givesRegion_iff hs hspells).mp hvalue
      rw [(hc.region_eq_none_iff hs).mp hnone o ho] at hvalue
      cases hvalue
  obtain ⟨useRealService, huse⟩ := huse
  obtain ⟨region, hplace⟩ := hplace
  exact ⟨{ useRealService, region },
    ofArguments_eq_ok_iff_exists.mpr ⟨g, hg, Given.config_eq_ok_iff.mpr ⟨huse, hplace⟩⟩⟩

/-- **The command line goes before the environment**, and nothing that either says is passed over.

A configuration uses the real service exactly where the flag is given or, without the flag, the
switch is a word that switches on; its region is the one given, else the variable's, else the
default. Without the flag, a switch that is no such word is refused whatever else is given. A
variable whose option is given has no part in the result, and neither has the order of the
options. -/
theorem command_line_before_environment (program : Raw) (args : List Raw) (env : Environment) :
    (∀ config, ofArguments env (program :: args) = .ok config →
      (config.useRealService = true ↔
        flag ∈ args ∨ (flag ∉ args ∧ ∃ value, env.switch = some value ∧ SwitchesOn value)) ∧
      (∀ value, GivesRegion args value → value = Raw.ofString config.region) ∧
      ((∀ value, ¬GivesRegion args value) →
        env.region = some (Raw.ofString config.region) ∨
          (env.region = none ∧ config.region = "us-west-2"))) ∧
    (∀ value, flag ∉ args → env.switch = some value → ¬SwitchesOn value → ¬SwitchesOff value →
      ∃ reason, ofArguments env (program :: args) = .error (.config reason)) ∧
    (flag ∈ args → ∀ switch,
      ofArguments { env with switch } (program :: args) = ofArguments env (program :: args)) ∧
    (∀ value, GivesRegion args value → ∀ region,
      ofArguments { env with region } (program :: args) = ofArguments env (program :: args)) ∧
    (∀ config, ofArguments env (program :: args) = .ok config →
      (∃ options, Spells options args) ∧
      ∀ options options' args', Spells options args → options.Perm options' →
        Spells options' args' → ofArguments env (program :: args') = .ok config) ∧
    (∀ options, Spells options args → Sound options →
      (flag ∈ args ∨ ∀ value, env.switch = some value → SwitchesOn value ∨ SwitchesOff value) →
      ((∃ value, GivesRegion args value) ∨
        ∀ value, env.region = some value → ∃ s, value = Raw.ofString s) →
      ∃ config, ofArguments env (program :: args) = .ok config) := by
  refine ⟨fun config h => ⟨useRealService_iff h, region_eq h⟩,
    fun value hflag hvalue hon hoff => refused_of_word hflag hvalue hon hoff,
    fun hflag switch => ofArguments_switch hflag switch,
    fun value hvalue region => ofArguments_region hvalue region,
    fun config h => ⟨?_, fun options options' args' hspells hperm hspells' =>
      ofArguments_perm h hspells hperm hspells'⟩,
    fun options hspells hs hswitch hregion => exists_ofArguments hs hspells hswitch hregion⟩
  obtain ⟨options, hspells, _⟩ := exists_configures h
  exact ⟨options, hspells⟩

/-- Variables that could not be read do no harm where both options are given, in either order, and
do where the flag is not. -/
theorem command_line_before_environment_unreadable :
    ofArguments { switch := some (Raw.ofString "maybe"), region := some [none] }
        [Raw.ofString "app", flag, Raw.ofString "--region=eu-west-1"] =
      .ok { useRealService := true, region := "eu-west-1" } ∧
    ofArguments { switch := some (Raw.ofString "maybe"), region := some [none] }
        [Raw.ofString "app", Raw.ofString "--region=eu-west-1", flag] =
      .ok { useRealService := true, region := "eu-west-1" } ∧
    ∃ reason, ofArguments { switch := some (Raw.ofString "maybe"), region := some [none] }
        [Raw.ofString "app", Raw.ofString "--region=eu-west-1"] = .error (.config reason) := by
  have hboth : ofArguments { switch := some (Raw.ofString "maybe"), region := some [none] }
      [Raw.ofString "app", flag, Raw.ofString "--region=eu-west-1"] =
        .ok { useRealService := true, region := "eu-west-1" } := by rfl
  refine ⟨hboth, ?_, ?_⟩
  · obtain ⟨_, _, _, _, hperm, _⟩ := command_line_before_environment (Raw.ofString "app")
      [flag, Raw.ofString "--region=eu-west-1"]
      { switch := some (Raw.ofString "maybe"), region := some [none] }
    exact (hperm _ hboth).2 [.realService, .regionIs (Raw.ofString "eu-west-1")]
      [.regionIs (Raw.ofString "eu-west-1"), .realService] _ (.inl rfl) (.swap _ _ _) (.inl rfl)
  · obtain ⟨_, hrefused, _⟩ := command_line_before_environment (Raw.ofString "app")
      [Raw.ofString "--region=eu-west-1"]
      { switch := some (Raw.ofString "maybe"), region := some [none] }
    refine hrefused _ (by decide) rfl ?_ ?_
    · rintro ⟨word, hword, hmem⟩
      obtain rfl := ofString_inj.mp hword
      revert hmem
      decide +kernel
    · rintro ⟨word, hword, hmem⟩
      obtain rfl := ofString_inj.mp hword
      revert hmem
      decide +kernel

end ServiceDoubles.Config
