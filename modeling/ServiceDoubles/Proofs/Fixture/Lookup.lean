import ServiceDoubles.Proofs.Fixture

/-!
# ServiceDoubles.Proofs.Fixture.Lookup

**Which constructor a fixture calls**, and what becomes of the stubber that it builds.

A registry is followed over all its registrations, in order (`Registry.registerAll`). One
registration decides about one name (`constructor_register`), so the last one for a name counts
(`constructor_registerAll_of_last`).

Constructors and stubbers are actions of any kind: they may change the world, or unwind. So what a
fixture does is told by the states between its calls, one case for each way in which they can go on
(`Made`); a call made twice, or not at all, would lead to other states.
-/

namespace ServiceDoubles

namespace Registry

variable {σ : Type}

/-! ### Registrations -/

/-- The registry after these registrations, one after the other. -/
def registerAll (r : Registry σ) (history : List (String × StubberConstructor σ)) : Registry σ :=
  history.foldl (fun r e => r.register e.1 e.2) r

theorem constructor_empty (name : String) :
    (empty : Registry σ).constructor name = .error (.noStubber name) := rfl

theorem constructor_register (r : Registry σ) (service : String) (build : StubberConstructor σ)
    (name : String) :
    (r.register service build).constructor name =
      if name = service then .ok build else r.constructor name := by
  simp only [constructor, register, SortedMap.get?_insert]
  by_cases h : name = service
  · simp only [h, if_true]
  · simp only [h, if_false]

theorem registerAll_append (r : Registry σ) (before after : List (String × StubberConstructor σ)) :
    r.registerAll (before ++ after) = (r.registerAll before).registerAll after :=
  List.foldl_append

/-- Registrations for other names make no difference. -/
theorem constructor_registerAll_of_ne {r : Registry σ} {name : String}
    {history : List (String × StubberConstructor σ)} (h : ∀ e ∈ history, e.1 ≠ name) :
    (r.registerAll history).constructor name = r.constructor name := by
  induction history generalizing r with
  | nil => rfl
  | cons e rest ih =>
      have hrest : ∀ e' ∈ rest, e'.1 ≠ name := fun e' he' => h e' (List.mem_cons_of_mem _ he')
      have hne : name ≠ e.1 := (h e List.mem_cons_self).symm
      calc ((r.register e.1 e.2).registerAll rest).constructor name
          = (r.register e.1 e.2).constructor name := ih hrest
        _ = r.constructor name := by rw [constructor_register, if_neg hne]

/-- The last registration for a name counts. -/
theorem constructor_registerAll_of_last (r : Registry σ) {name : String}
    {build : StubberConstructor σ} {before after : List (String × StubberConstructor σ)}
    (h : ∀ e ∈ after, e.1 ≠ name) :
    (r.registerAll (before ++ (name, build) :: after)).constructor name = .ok build := by
  calc (r.registerAll (before ++ (name, build) :: after)).constructor name
      = (((r.registerAll before).register name build).registerAll after).constructor name := by
        rw [registerAll_append]
        rfl
    _ = ((r.registerAll before).register name build).constructor name :=
        constructor_registerAll_of_ne h
    _ = .ok build := by rw [constructor_register, if_pos rfl]

/-- A name that was registered has a last registration. -/
theorem exists_last {name : String} {history : List (String × StubberConstructor σ)}
    (h : ∃ build, (name, build) ∈ history) :
    ∃ before build after,
      history = before ++ (name, build) :: after ∧ ∀ e ∈ after, e.1 ≠ name := by
  induction history with
  | nil => simp at h
  | cons e rest ih =>
      -- The head is the last one only if the rest has none.
      by_cases hrest : ∃ build, (name, build) ∈ rest
      · obtain ⟨before, build, after, rfl, hafter⟩ := ih hrest
        exact ⟨e :: before, build, after, rfl, hafter⟩
      · obtain ⟨build, hbuild⟩ := h
        obtain rfl : (name, build) = e :=
          (List.mem_cons.mp hbuild).resolve_right fun hin => hrest ⟨build, hin⟩
        exact ⟨[], build, rest, rfl, fun e' he' heq => hrest ⟨e'.2, heq ▸ he'⟩⟩

theorem mem_services_iff {r : Registry σ} {name : String} :
    name ∈ r.services ↔ ∃ build, r.constructor name = .ok build := by
  rw [services, SortedMap.mem_keys_iff, constructor, Option.isSome_iff_exists]
  cases r.constructors.get? name with
  | none => simp
  | some build => simp

theorem constructor_of_unregistered {name : String}
    {history : List (String × StubberConstructor σ)} (h : ∀ build, (name, build) ∉ history) :
    (empty.registerAll history).constructor name = .error (.noStubber name) := by
  have hne : ∀ e ∈ history, e.1 ≠ name := by
    rintro e he rfl
    exact h e.2 he
  rw [constructor_registerAll_of_ne hne, constructor_empty]

/-- The services are the names that were registered. -/
theorem mem_services_registerAll_iff {name : String}
    {history : List (String × StubberConstructor σ)} :
    name ∈ (empty.registerAll history).services ↔ ∃ build, (name, build) ∈ history := by
  rw [mem_services_iff]
  by_cases h : ∃ build, (name, build) ∈ history
  · refine iff_of_true ?_ h
    obtain ⟨before, build, after, rfl, hafter⟩ := exists_last h
    exact ⟨build, constructor_registerAll_of_last empty hafter⟩
  · refine iff_of_false ?_ h
    rw [constructor_of_unregistered (not_exists.mp h)]
    exact fun ⟨_, hbuild⟩ => nomatch hbuild

end Registry

namespace Fixture

variable {β υ : Type}

/-! ### From the constructor to the fixture's end -/

/-- How a fixture that asks for a kind ends with a stubber. -/
def endOfKind (kind : StubberKind) (client : Client) (s : AnyStubber (World β υ)) :
    Outcome (AnyStubber (World β υ)) :=
  if s.kind = kind then .ok s else .fault (.stubberMismatch client.service kind.name)

section

variable (build : StubberConstructor (World β υ)) (kind : StubberKind) (client : Client)
  (scope : Scope (World β υ)) (w : World β υ)

/-- What comes of asking for a stubber of a kind where the constructor for the client is known. The
constructor is called first, and then its stubber is asked whether it stubs. Only one that says so
has a finalizer and is activated. -/
inductive Made : Outcome (AnyStubber (World β υ)) × Setting β υ → Prop
  /-- The constructor unwinds. -/
  | unbuilt {reason : String} {w₁ : World β υ} :
      (build.call client (!scope.config.useRealService)).effect w = (.unwound reason, w₁) →
      Made (.unwound reason, ⟨scope, w₁⟩)
  /-- The stubber unwinds where it is asked whether it stubs. -/
  | unasked {s : AnyStubber (World β υ)} {reason : String} {w₁ w₂ : World β υ} :
      (build.call client (!scope.config.useRealService)).effect w = (.ok s, w₁) →
      s.useStubs.effect w₁ = (.unwound reason, w₂) →
      Made (.unwound reason, ⟨scope, w₂⟩)
  /-- The stubber passes through. -/
  | passing {s : AnyStubber (World β υ)} {w₁ w₂ : World β υ} :
      (build.call client (!scope.config.useRealService)).effect w = (.ok s, w₁) →
      s.useStubs.effect w₁ = (.ok false, w₂) →
      Made (endOfKind kind client s, ⟨scope, w₂⟩)
  /-- The stubber stubs, but unwinds where it is activated. -/
  | unactivated {s : AnyStubber (World β υ)} {reason : String} {w₁ w₂ w₃ : World β υ} :
      (build.call client (!scope.config.useRealService)).effect w = (.ok s, w₁) →
      s.useStubs.effect w₁ = (.ok true, w₂) →
      s.activate.effect w₂ = (.unwound reason, w₃) →
      Made (.unwound reason, ⟨scope.push (stubberFinalizer client.service s), w₃⟩)
  /-- The stubber stubs. -/
  | stubbing {s : AnyStubber (World β υ)} {w₁ w₂ w₃ : World β υ} :
      (build.call client (!scope.config.useRealService)).effect w = (.ok s, w₁) →
      s.useStubs.effect w₁ = (.ok true, w₂) →
      s.activate.effect w₂ = (.ok (), w₃) →
      Made (endOfKind kind client s, ⟨scope.push (stubberFinalizer client.service s), w₃⟩)

end

section

variable {build : StubberConstructor (World β υ)} {kind : StubberKind} {client : Client}
  {scope : Scope (World β υ)} {w : World β υ}

/-- The cases exclude each other, and each of them says how the fixture ends and what it leaves. -/
theorem Made.unique {made other : Outcome (AnyStubber (World β υ)) × Setting β υ}
    (h : Made build kind client scope w made)
    (h' : Made build kind client scope w other) : made = other := by
  -- All premises tell effects, so that two cases differ at the latest in the first premise in which
  -- they are not the same.
  cases h <;> cases h' <;> grind

theorem endOfKind_ne_noStubber (s : AnyStubber (World β υ)) (service : String) :
    endOfKind kind client s ≠ .fault (.noStubber service) := by
  unfold endOfKind
  split
  · nofun
  · nofun

theorem Made.outcome_ne_noStubber {made : Outcome (AnyStubber (World β υ)) × Setting β υ}
    (h : Made build kind client scope w made) (service : String) :
    made.1 ≠ .fault (.noStubber service) := by
  cases h with
  | passing | stubbing => exact endOfKind_ne_noStubber _ service
  | unbuilt | unasked | unactivated => nofun

theorem made_of_known (h : scope.registry.constructor client.service = .ok build) :
    Made build kind client scope w ((makeStubberOf kind client).effect ⟨scope, w⟩) := by
  rw [effect_makeStubberOf]
  obtain ⟨s, w₁, hbuild⟩ | ⟨reason, w₁, hbuild⟩ :=
    (build.call_unfailing client scope.config.useStubs).effect_cases w
  · rw [effect_makeStubber_of_built h hbuild]
    obtain ⟨stubs, w₂, hask⟩ | ⟨reason, w₂, hask⟩ := s.useStubs_unfailing.effect_cases w₁
    · cases stubs with
      | false =>
          rw [effect_engage_of_passes hask]
          exact .passing hbuild hask
      | true =>
          rw [effect_engage_of_stubs hask]
          obtain ⟨⟨⟩, w₃, hactivate⟩ | ⟨reason, w₃, hactivate⟩ :=
            s.activate_unfailing.effect_cases w₂
          · rw [hactivate]
            exact .stubbing hbuild hask hactivate
          · rw [hactivate]
            exact .unactivated hbuild hask hactivate
    · rw [effect_engage_of_unwound hask]
      exact .unasked hbuild hask
  · rw [effect_makeStubber_of_unbuilt h hbuild]
    exact .unbuilt hbuild

end

/-! ### The lookup -/

/-- The registry that a history of registrations makes of the empty registry or of the one that
comes with the library. -/
def registered (onBuiltIn : Bool) (history : List (String × StubberConstructor (World β υ))) :
    Registry (World β υ) :=
  (if onBuiltIn then Registry.builtIn else Registry.empty).registerAll history

/-- All registrations, with the one that the library comes with. -/
def registrations (onBuiltIn : Bool) (history : List (String × StubberConstructor (World β υ))) :
    List (String × StubberConstructor (World β υ)) :=
  if onBuiltIn then (Storage.serviceName, .plain Storage.stubber) :: history else history

theorem registered_eq (onBuiltIn : Bool)
    (history : List (String × StubberConstructor (World β υ))) :
    registered onBuiltIn history =
      Registry.empty.registerAll (registrations onBuiltIn history) := by
  cases onBuiltIn <;> rfl

section

variable {onBuiltIn : Bool} {history : List (String × StubberConstructor (World β υ))}
  {name : String}

theorem constructor_registered_of_none
    (h : ∀ build, (name, build) ∉ registrations onBuiltIn history) :
    (registered onBuiltIn history).constructor name = .error (.noStubber name) := by
  rw [registered_eq]
  exact Registry.constructor_of_unregistered h

theorem constructor_registered_of_last
    {before after : List (String × StubberConstructor (World β υ))}
    {build : StubberConstructor (World β υ)}
    (hall : registrations onBuiltIn history = before ++ (name, build) :: after)
    (hafter : ∀ e ∈ after, e.1 ≠ name) :
    (registered onBuiltIn history).constructor name = .ok build := by
  rw [registered_eq, hall]
  exact Registry.constructor_registerAll_of_last _ hafter

theorem mem_services_registered_iff :
    name ∈ (registered onBuiltIn history).services ↔
      ∃ build, (name, build) ∈ registrations onBuiltIn history := by
  rw [registered_eq]
  exact Registry.mem_services_registerAll_iff

end

/-- A fixture calls the constructor that was registered last for the client's service, once, with
the client and the mode of the configuration. It fails for want of a stubber exactly if there was no
registration for the service, and then nothing has changed. Otherwise what is left hangs on the
stubber that was built: if it says that it stubs, it has one finalizer and is activated once, and
else neither. The kind that is asked for, if any, makes no difference to this. -/
theorem last_registered_is_built (onBuiltIn : Bool)
    (history : List (String × StubberConstructor (World β υ))) (config : Config)
    (fs : List (Finalizer (World β υ))) (w : World β υ) (kind : StubberKind) (client : Client) :
    let all := registrations onBuiltIn history
    let registry := registered onBuiltIn history
    let scope : Scope (World β υ) := ⟨config, registry, fs⟩
    let made := (makeStubberOf kind client).effect ⟨scope, w⟩
    (registry.services.Pairwise (· < ·) ∧
      ∀ name, name ∈ registry.services ↔ ∃ build, (name, build) ∈ all) ∧
    (made.1 = .fault (.noStubber client.service) ↔
      ∀ build, (client.service, build) ∉ all) ∧
    ((∀ build, (client.service, build) ∉ all) →
      made = (.fault (.noStubber client.service), ⟨scope, w⟩)) ∧
    (∀ other, ((make other client).effect ⟨scope, w⟩).2 = made.2) ∧
    ∀ before build after, all = before ++ (client.service, build) :: after →
      (∀ e ∈ after, e.1 ≠ client.service) → Made build kind client scope w made := by
  intro all registry scope made
  have hunknown (h : ∀ build, (client.service, build) ∉ all) :
      made = (.fault (.noStubber client.service), ⟨scope, w⟩) := by
    have hnone : scope.registry.constructor client.service = .error (.noStubber client.service) :=
      constructor_registered_of_none h
    change (makeStubberOf kind client).effect ⟨scope, w⟩ = _
    rw [effect_makeStubberOf, effect_makeStubber_of_unknown w hnone, Act.goOn_fault]
  have hstate : made.2 = ((makeStubber client).effect ⟨scope, w⟩).2 :=
    state_make (some kind) client _
  refine ⟨⟨registry.constructors.keys_ascending, fun _ => mem_services_registered_iff⟩,
    ⟨fun h build hin => ?_, fun h => congrArg Prod.fst (hunknown h)⟩, hunknown,
    fun other => (state_make other client _).trans hstate.symm,
    fun before build after hall hafter =>
      made_of_known (constructor_registered_of_last hall hafter)⟩
  obtain ⟨before, last, after, hall, hafter⟩ := Registry.exists_last ⟨build, hin⟩
  have hmade : Made last kind client scope w made :=
    made_of_known (constructor_registered_of_last hall hafter)
  exact hmade.outcome_ne_noStubber _ h

/-! ### Stubbers that only write down -/

/-- Writes down an entry in the test's own part of the world. -/
def note (entry : String) : Act (World β (List String)) Unit :=
  World.onOwn (Act.modify (· ++ [entry]))

theorem unfailing_note (entry : String) :
    (note entry : Act (World β (List String)) Unit).Unfailing :=
  (Act.unfailing_modify _).onPart

/-- A stubber that only writes down what it is asked to do. -/
def noting (label : String) (client : Client) (stubs : Bool) :
    AnyStubber (World β (List String)) where
  concrete := .foreign ⟨label⟩
  service := return client.service
  useStubs := do
    note (label ++ " asked")
    return stubs
  activate := note (label ++ " activated")
  deactivate := note (label ++ " deactivated")
  checkDone := note (label ++ " checked")
  service_unfailing := Act.unfailing_pure _
  useStubs_unfailing := (unfailing_note _).bind fun _ => Act.unfailing_pure _
  activate_unfailing := unfailing_note _
  deactivate_unfailing := unfailing_note _

/-- A constructor of such stubbers that writes down what it is asked for. -/
def notingConstructor (label : String) (mode : Bool → Bool) :
    StubberConstructor (World β (List String)) where
  call client useStubs := do
    note (label ++ if useStubs then " to stub" else " to pass through")
    return noting label client (mode useStubs)
  call_unfailing _ _ := (unfailing_note _).bind fun _ => Act.unfailing_pure _

/-- Of two constructors for a service the later one is called, once. It is asked for a stubber that
passes through and builds one that stubs, and that is activated in its own way and has a finalizer,
although it is not of the kind that is asked for. For a service without a constructor nothing
changes. -/
theorem last_registered_is_built_twice :
    let obeying : StubberConstructor (World Unit (List String)) := notingConstructor "first" id
    let stubbing : StubberConstructor (World Unit (List String)) :=
      notingConstructor "second" fun _ => true
    let history := [("sqs", obeying), ("sns", obeying), ("sqs", stubbing)]
    let client : Client := ⟨"sqs", "us-west-2", [], 0, 0⟩
    let st : Setting Unit (List String) :=
      ⟨⟨⟨true, "us-west-2"⟩, registered true history, []⟩, World.fresh []⟩
    let made := (makeStubberOf ⟨"Topic"⟩ client).effect st
    let other : Client := { client with service := "glacier" }
    let unknown := (makeStubberOf ⟨"Topic"⟩ other).effect st
    made.1 = .fault (.stubberMismatch "sqs" "Topic") ∧
      made.2.world.own = ["second to pass through", "second asked", "second activated"] ∧
      (made.2.world.queues.read 0).active = false ∧
      made.2.scope.finalizers.map (·.name) = ["sqs stubber"] ∧
      unknown = (.fault (.noStubber "glacier"), st) := by
  intro obeying stubbing history client st made other unknown
  obtain ⟨-, -, -, -, hknown⟩ :=
    last_registered_is_built true history ⟨true, "us-west-2"⟩ [] (World.fresh []) ⟨"Topic"⟩ client
  have hmade : made = _ :=
    (hknown [(Storage.serviceName, .plain Storage.stubber), ("sqs", obeying), ("sns", obeying)]
      stubbing [] rfl nofun).unique (.stubbing rfl rfl rfl)
  have hnone : ∀ build, (other.service, build) ∉ registrations true history := by
    simp [registrations, history, other, Storage.serviceName]
  obtain ⟨-, -, hunknown, -⟩ :=
    last_registered_is_built true history ⟨true, "us-west-2"⟩ [] (World.fresh []) ⟨"Topic"⟩ other
  rw [hmade]
  exact ⟨rfl, rfl, rfl, rfl, hunknown hnone⟩

end Fixture

end ServiceDoubles
