import ServiceDoubles.Proofs.Effect
import ServiceDoubles.Scope

/-!
# ServiceDoubles.Proofs.Config.Cache

The **configuration of a process** whose environment may change from step to step.

What an environment says is stated without the reader of options (`Environment.Gives`), and
`ofEnvironment_eq_ok_iff` and `refused_iff` are the only places where that reader is opened. A step
of a process then does one of two things. While nothing is cached it gives what its own environment
gives, and caches it only if that is a configuration; after that it gives what is cached, whatever
its environment says.
-/

namespace ServiceDoubles

namespace Text.Raw

theorem mapM_id_eq_some_iff {r : Raw} {cs : List Char} :
    r.mapM id = some cs ↔ r = cs.map some := by
  induction r generalizing cs with
  | nil => cases cs <;> simp
  | cons piece rest ih =>
      cases piece with
      | none => cases cs <;> simp
      | some c =>
          have hcons : (some c :: rest).mapM id = (rest.mapM id).map (c :: ·) := by
            cases h : rest.mapM id <;> simp [h]
          rw [hcons, Option.map_eq_some_iff]
          constructor
          · rintro ⟨ds, hds, rfl⟩
            rw [ih.mp hds, List.map_cons]
          · intro h
            cases cs with
            | nil => cases h
            | cons d ds =>
                obtain ⟨hc, hrest⟩ := List.cons.inj h
                exact ⟨ds, ih.mpr hrest, congrArg (· :: ds) (Option.some.inj hc)⟩

theorem toString?_eq_some_iff {r : Raw} {s : String} :
    r.toString? = some s ↔ r = ofString s := by
  rw [toString?, Option.map_eq_some_iff, ofString]
  constructor
  · rintro ⟨cs, hcs, rfl⟩
    rw [String.toList_ofList]
    exact mapM_id_eq_some_iff.mp hcs
  · rintro rfl
    exact ⟨s.toList, mapM_id_eq_some_iff.mpr rfl, String.ofList_toList⟩

end Text.Raw

namespace Config

open Text (Raw)

/-! ### What an environment gives -/

theorem textOf_eq_ok_iff {r : Raw} {s : String} : textOf r = .ok s ↔ r = Raw.ofString s := by
  rw [← Raw.toString?_eq_some_iff, textOf]
  cases r.toString? <;> simp

theorem truth?_eq_true_iff {word : String} :
    truth? word = some true ↔ word.toLower ∈ trueWords := by
  unfold truth?
  split
  · simp [*]
  · split <;> simp [*]

/-- No word switches both on and off. -/
theorem truth?_eq_false_iff {word : String} :
    truth? word = some false ↔ word.toLower ∈ falseWords := by
  have hdisjoint : ∀ w ∈ trueWords, w ∉ falseWords := by decide
  unfold truth?
  split
  next hmem => simp [hdisjoint _ hmem]
  next => split <;> simp [*]

namespace Environment

/-- The switch is set to a word that switches on. -/
def SaysOn (env : Environment) : Prop :=
  ∃ word : String, env.switch = some (Raw.ofString word) ∧ word.toLower ∈ trueWords

/-- The switch is not set, or it is set to a word that switches off. -/
def SaysOff (env : Environment) : Prop :=
  env.switch = none ∨
    ∃ word : String, env.switch = some (Raw.ofString word) ∧ word.toLower ∈ falseWords

/-- The environment gives this configuration: the switch says whether the real service is used, and
the region is the variable's, or the default where the variable is not set. -/
structure Gives (env : Environment) (config : Config) : Prop where
  switch : if config.useRealService then env.SaysOn else env.SaysOff
  region : env.region = some (Raw.ofString config.region) ∨
    (env.region = none ∧ config.region = standard.region)

/-- The environment gives no configuration. -/
def Refused (env : Environment) : Prop := ∀ config, ¬env.Gives config

end Environment

theorem switchOf_eq_ok_iff {env : Environment} {b : Bool} :
    switchOf env.switch = .ok b ↔ if b then env.SaysOn else env.SaysOff := by
  have hset (value : Raw) : switchOf (some value) = .ok b ↔
      ∃ word, value = Raw.ofString word ∧ truth? word = some b := by
    simp only [← textOf_eq_ok_iff, switchOf]
    cases textOf value with
    | error flaw => simp
    | ok word => cases h : truth? word <;> simp [h]
  unfold Environment.SaysOn Environment.SaysOff
  cases env.switch with
  | none => cases b <;> simp [switchOf, standard]
  | some value =>
      rw [hset]
      cases b with
      | true => simp [truth?_eq_true_iff]
      | false => simp [truth?_eq_false_iff]

theorem regionOf_eq_ok_iff {r : Option Raw} {region : String} :
    regionOf r = .ok region ↔
      r = some (Raw.ofString region) ∨ (r = none ∧ region = standard.region) := by
  cases r with
  | none => simp [regionOf, eq_comm]
  | some value => simp [regionOf, textOf_eq_ok_iff]

theorem ofEnvironment_eq_ok_iff {env : Environment} {config : Config} :
    ofEnvironment env = .ok config ↔ env.Gives config := by
  have hread : ofEnvironment env = .ok config ↔
      switchOf env.switch = .ok config.useRealService ∧ regionOf env.region = .ok config.region := by
    obtain ⟨useRealService, region⟩ := config
    have hgiven : (Given.arguments {} [].tail >>= (·.config env)) = ({} : Given).config env := rfl
    rw [ofEnvironment, ofArguments, hgiven]
    simp only [Given.config, Bool.false_eq_true, if_false]
    cases switchOf env.switch with
    | error flaw => simp [bind, Except.bind]
    | ok b => cases regionOf env.region <;> simp [bind, Except.bind, pure, Except.pure]
  rw [hread, switchOf_eq_ok_iff, regionOf_eq_ok_iff]
  exact ⟨fun h => ⟨h.1, h.2⟩, fun h => ⟨h.switch, h.region⟩⟩

/-- An environment that gives no configuration is reported as one. -/
theorem refused_iff {env : Environment} :
    env.Refused ↔ ∃ reason, ofEnvironment env = .error (.config reason) := by
  have hfault (flaw : OptionFlaw) : ∃ reason, flaw.fault = .config reason := by
    cases flaw <;> exact ⟨_, rfl⟩
  constructor
  · intro hrefused
    cases h : ofEnvironment env with
    | ok config => exact absurd (ofEnvironment_eq_ok_iff.mp h) (hrefused config)
    | error cause =>
        rw [ofEnvironment, ofArguments] at h
        split at h
        next => cases h
        next flaw _ =>
          cases h
          obtain ⟨reason, hreason⟩ := hfault flaw
          exact ⟨reason, congrArg _ hreason⟩
  · rintro ⟨reason, hreason⟩ config hgives
    rw [ofEnvironment_eq_ok_iff.mpr hgives] at hreason
    cases hreason

/-- A switch whose word neither switches on nor off is refused, whatever the region. -/
theorem refused_of_switch {env : Environment} (hon : ¬env.SaysOn) (hoff : ¬env.SaysOff) :
    env.Refused := by
  intro config hgives
  have hswitch := hgives.switch
  split at hswitch
  · exact hon hswitch
  · exact hoff hswitch

/-! ### Steps of a process -/

/-- What is asked for. -/
inductive Asking where
  /-- The configuration of the process. -/
  | configuration
  /-- A scope with the configuration of the process. -/
  | scope

/-- What is given. -/
inductive Answer (β υ : Type) where
  | configuration (config : Config)
  | scope (scope : Scope (World β υ))

/-- A step of a process: the environment is set, and then something is asked for. -/
structure Step where
  env : Environment
  asks : Asking

variable {β υ : Type}

/-- The configuration that is given, by itself or with a scope. -/
def Answer.config : Answer β υ → Config
  | .configuration config => config
  | .scope s => s.config

/-- What is given where the process has this configuration. -/
def Asking.answer (config : Config) : Asking → Answer β υ
  | .configuration => .configuration config
  | .scope => .scope (Scope.start config Registry.builtIn)

@[simp] theorem config_answer (config : Config) (asks : Asking) :
    (asks.answer config : Answer β υ).config = config := by
  cases asks <;> rfl

namespace Step

/-- Asks the process. -/
def act (s : Step) : Act Cache (Answer β υ) :=
  match s.asks with
  | .configuration => do return .configuration (← load s.env)
  | .scope => do return .scope (← Scope.ofProcess s.env)

/-- What the environment of the step gives by itself. -/
def reading (s : Step) : Outcome (Answer β υ) :=
  (Outcome.ofExcept (ofEnvironment s.env)).map fun config => s.asks.answer config

theorem effect_act_of_empty (s : Step) :
    (s.act : Act Cache (Answer β υ)).effect none = (s.reading, (ofEnvironment s.env).toOption) := by
  obtain ⟨env, asks⟩ := s
  have hload : (load env).effect none =
      (Outcome.ofExcept (ofEnvironment env), (ofEnvironment env).toOption) := by
    simp only [Act.effect, load]
    cases ofEnvironment env <;> rfl
  cases asks with
  | configuration =>
      show (do return Answer.configuration (← load env) : Act Cache (Answer β υ)).effect none = _
      rw [Act.effect_map, hload]
      rfl
  | scope =>
      show (do return Answer.scope (← Scope.ofProcess env) : Act Cache (Answer β υ)).effect none = _
      rw [Act.effect_map, Scope.ofProcess, Act.effect_map, hload, reading]
      cases ofEnvironment env <;> rfl

theorem effect_act_of_cached (s : Step) (config : Config) :
    (s.act : Act Cache (Answer β υ)).effect (some config) =
      (.ok (s.asks.answer config), some config) := by
  obtain ⟨env, asks⟩ := s
  cases asks <;> rfl

end Step

/-! ### Runs of a process -/

/-- The outcomes of steps in a process with this cache, and the cache after them. -/
def ask (steps : List Step) (cache : Cache) : List (Outcome (Answer β υ)) × Cache :=
  Act.runEach (steps.map Step.act) cache

/-- Once there is a configuration no step changes it, and every step gives it. -/
theorem ask_of_cached (steps : List Step) (config : Config) :
    (ask steps (some config) : List (Outcome (Answer β υ)) × Cache) =
      (steps.map fun s => .ok (s.asks.answer config), some config) := by
  induction steps with
  | nil => rfl
  | cons s rest ih =>
      unfold ask at ih ⊢
      rw [List.map_cons, Act.runEach_cons, Step.effect_act_of_cached, ih]
      rfl

/-- Steps whose environments give no configuration leave no trace. -/
theorem ask_of_refused {before : List Step} (hbefore : ∀ s ∈ before, s.env.Refused)
    (rest : List Step) :
    (ask (before ++ rest) none : List (Outcome (Answer β υ)) × Cache) =
      (ask rest none).map (before.map Step.reading ++ ·) id := by
  induction before with
  | nil => rfl
  | cons s before ih =>
      obtain ⟨reason, hs⟩ := refused_iff.mp (hbefore s List.mem_cons_self)
      have hrest := ih fun t ht => hbefore t (List.mem_cons_of_mem _ ht)
      unfold ask at hrest ⊢
      rw [List.cons_append, List.map_cons, Act.runEach_cons, Step.effect_act_of_empty, hs,
        Except.toOption, hrest]
      rfl

theorem ask_of_all_refused {steps : List Step} (hsteps : ∀ s ∈ steps, s.env.Refused) :
    (ask steps none : List (Outcome (Answer β υ)) × Cache) = (steps.map Step.reading, none) := by
  have hrun := ask_of_refused (β := β) (υ := υ) hsteps []
  rw [List.append_nil] at hrun
  rw [hrun]
  show (_ ++ [], _) = _
  rw [List.append_nil]
  rfl

/-- The first environment that gives a configuration gives it to all later steps. -/
theorem ask_of_first {before : List Step} {s : Step} {config : Config}
    (hbefore : ∀ t ∈ before, t.env.Refused) (hs : s.env.Gives config) (after : List Step) :
    (ask (before ++ s :: after) none : List (Outcome (Answer β υ)) × Cache) =
      (before.map Step.reading ++ (s :: after).map fun t => .ok (t.asks.answer config),
        some config) := by
  have hok : ofEnvironment s.env = .ok config := ofEnvironment_eq_ok_iff.mpr hs
  have hfirst : (ask (s :: after) none : List (Outcome (Answer β υ)) × Cache) =
      ((s :: after).map fun t => .ok (t.asks.answer config), some config) := by
    have hafter := ask_of_cached (β := β) (υ := υ) after config
    unfold ask at hafter ⊢
    rw [List.map_cons, Act.runEach_cons, Step.effect_act_of_empty, Step.reading, hok,
      Except.toOption, hafter]
    rfl
  rw [ask_of_refused hbefore, hfirst]
  rfl

/-- All environments are refused, or there is a first that is not. -/
theorem all_refused_or_exists_first (steps : List Step) :
    (∀ t ∈ steps, t.env.Refused) ∨ ∃ before s after config, steps = before ++ s :: after ∧
      (∀ t ∈ before, t.env.Refused) ∧ s.env.Gives config := by
  induction steps with
  | nil => exact .inl fun _ h => absurd h List.not_mem_nil
  | cons s rest ih =>
      by_cases hs : s.env.Refused
      · obtain hrest | ⟨before, t, after, config, rfl, hbefore, ht⟩ := ih
        · exact .inl (List.forall_mem_cons.mpr ⟨hs, hrest⟩)
        · exact .inr ⟨s :: before, t, after, config, rfl,
            List.forall_mem_cons.mpr ⟨hs, hbefore⟩, ht⟩
      · obtain ⟨config, hconfig⟩ := Classical.not_forall_not.mp hs
        exact .inr ⟨[], s, rest, config, rfl, fun _ h => absurd h List.not_mem_nil, hconfig⟩

/-- A step whose environment is refused gives nothing. -/
theorem Step.reading_of_refused {s : Step} (hs : s.env.Refused) :
    ∃ reason, ofEnvironment s.env = .error (.config reason) ∧
      (s.reading : Outcome (Answer β υ)) = .fault (.config reason) := by
  obtain ⟨reason, hreason⟩ := refused_iff.mp hs
  refine ⟨reason, hreason, ?_⟩
  rw [Step.reading, hreason]
  rfl

theorem ok_not_mem_readings {before : List Step} (hbefore : ∀ t ∈ before, t.env.Refused)
    (a : Answer β υ) : .ok a ∉ before.map Step.reading := by
  intro hmem
  obtain ⟨t, ht, hreading⟩ := List.mem_map.mp hmem
  obtain ⟨reason, -, hfault⟩ := Step.reading_of_refused (β := β) (υ := υ) (hbefore t ht)
  rw [hfault] at hreading
  cases hreading

/-- Whatever a run gives has one configuration, and a step of the run gave it. -/
theorem exists_gives_of_ask (steps : List Step) :
    ∃ config, ∀ a : Answer β υ, .ok a ∈ (ask steps none).1 →
      a.config = config ∧ ∃ s ∈ steps, s.env.Gives config := by
  obtain hnone | ⟨before, s, after, config, rfl, hbefore, hs⟩ := all_refused_or_exists_first steps
  · refine ⟨standard, fun a ha => absurd ha ?_⟩
    rw [ask_of_all_refused hnone]
    exact ok_not_mem_readings hnone a
  · refine ⟨config, fun a ha => ⟨?_, s, List.mem_append_right _ List.mem_cons_self, hs⟩⟩
    rw [ask_of_first hbefore hs] at ha
    obtain hreading | hlater := List.mem_append.mp ha
    · exact absurd hreading (ok_not_mem_readings hbefore a)
    · obtain ⟨t, -, ht⟩ := List.mem_map.mp hlater
      cases ht
      exact config_answer config t.asks

/-- The environments of a process settle its configuration once. As long as they are refused, every
step is told what is wrong with its own environment and nothing is kept. The first that gives a
configuration gives it to its own step and to every later one, whatever their environments say, and
a process never gets two configurations. A switch that does not say off never stands for stubbing. -/
theorem first_configuration_stays (steps : List Step) :
    (∀ env config, ofEnvironment env = .ok config ↔ Environment.Gives env config) ∧
    (∀ s : Step, s.env.Refused → ∃ reason, ofEnvironment s.env = .error (.config reason) ∧
      (s.reading : Outcome (Answer β υ)) = .fault (.config reason)) ∧
    (((∀ t ∈ steps, t.env.Refused) ∧
        (ask steps none : List (Outcome (Answer β υ)) × Cache) = (steps.map Step.reading, none)) ∨
      ∃ before s after config, steps = before ++ s :: after ∧
        (∀ t ∈ before, t.env.Refused) ∧ s.env.Gives config ∧
        (ask steps none : List (Outcome (Answer β υ)) × Cache) =
          (before.map Step.reading ++ (s :: after).map fun t => .ok (t.asks.answer config),
            some config)) ∧
    (∀ a b : Answer β υ, .ok a ∈ (ask steps none).1 → .ok b ∈ (ask steps none).1 →
      a.config = b.config) ∧
    (∀ a : Answer β υ, .ok a ∈ (ask steps none).1 →
      ∃ s ∈ steps, if a.config.useStubs then s.env.SaysOff else s.env.SaysOn) ∧
    (∀ env : Environment, ¬env.SaysOn → ¬env.SaysOff → env.Refused) := by
  obtain ⟨config, hgiven⟩ := exists_gives_of_ask (β := β) (υ := υ) steps
  refine ⟨fun _ _ => ofEnvironment_eq_ok_iff, fun _ => Step.reading_of_refused, ?run, ?one, ?off,
    fun _ => refused_of_switch⟩
  case run =>
    obtain hnone | ⟨before, s, after, first, rfl, hbefore, hs⟩ := all_refused_or_exists_first steps
    · exact .inl ⟨hnone, ask_of_all_refused hnone⟩
    · exact .inr ⟨before, s, after, first, rfl, hbefore, hs, ask_of_first hbefore hs after⟩
  case one =>
    intro a b ha hb
    rw [(hgiven a ha).1, (hgiven b hb).1]
  case off =>
    intro a ha
    obtain ⟨rfl, s, hs, hgives⟩ := hgiven a ha
    refine ⟨s, hs, ?_⟩
    have hswitch := hgives.switch
    unfold useStubs
    cases h : a.config.useRealService with
    | true => simpa [h] using hswitch
    | false => simpa [h] using hswitch

/-- Nothing is kept of a switch that says nothing. Once the switch says on, turning it off changes
nothing. -/
example :
    let maybe : Environment := ⟨some (Raw.ofString "maybe"), none⟩
    let on : Environment := ⟨some (Raw.ofString "1"), none⟩
    let off : Environment := ⟨some (Raw.ofString "0"), none⟩
    let invalid : List Step := [⟨maybe, .configuration⟩, ⟨maybe, .scope⟩]
    (ask (β := Unit) (υ := Unit) invalid none).2 = none ∧
      (ask (β := Unit) (υ := Unit) (invalid ++ [⟨on, .configuration⟩, ⟨off, .scope⟩]) none).2 =
        some ⟨true, "us-west-2"⟩ := by
  decide +kernel

end Config

end ServiceDoubles
