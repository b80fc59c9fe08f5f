import ServiceDoubles.Fixture
import ServiceDoubles.Proofs.Client
import ServiceDoubles.Proofs.Scope

/-!
# ServiceDoubles.Proofs.Fixture

The effects of **fixtures** on their scope and on the world.

A fixture does its work on the world, and if that goes well it leaves one finalizer in its scope.
The equations below say which one. A fixture for stubbers is opened by one equation for each way in
which `engage` and `makeStubber` can go on, and one for buckets by `effect_makeBucket`; nothing else
opens them.
-/

namespace ServiceDoubles

variable {β υ α : Type}

namespace Registry

theorem constructor_builtIn_storage :
    (builtIn : Registry (World β υ)).constructor Storage.serviceName =
      .ok (.plain Storage.stubber) := by
  simp only [constructor, builtIn, register, SortedMap.get?_insert, if_true]

theorem constructor_builtIn_of_ne {service : String} (h : service ≠ Storage.serviceName) :
    (builtIn : Registry (World β υ)).constructor service = .error (.noStubber service) := by
  simp only [constructor, builtIn, register, empty, SortedMap.get?_insert, h, if_false,
    SortedMap.get?_empty]

end Registry

namespace Scope

variable {σ : Type}

/-- The scope with one more finalizer. -/
def push (s : Scope σ) (f : Finalizer σ) : Scope σ := { s with finalizers := s.finalizers ++ [f] }

theorem effect_add (f : Finalizer σ) (s : Scope σ) : (add f).effect s = (.ok (), s.push f) := rfl

end Scope

namespace Setting

variable (scope : Scope (World β υ)) (w : World β υ)

theorem effect_onScope (a : Act (Scope (World β υ)) α) :
    (onScope a).effect ⟨scope, w⟩ = ((a.effect scope).1, ⟨(a.effect scope).2, w⟩) :=
  Act.effect_onPart ..

theorem effect_onWorld (a : Act (World β υ) α) :
    (onWorld a).effect ⟨scope, w⟩ = ((a.effect w).1, ⟨scope, (a.effect w).2⟩) :=
  Act.effect_onPart ..

end Setting

namespace Fixture

open Setting (effect_onScope effect_onWorld)

variable (scope : Scope (World β υ)) (w : World β υ)

/-! ### Stubbers -/

/-- The client passes its calls through again whether or not the check fails. -/
theorem effect_stubberFinalizer (service : String) (s : Stubber) :
    (stubberFinalizer service s.toAny).action.effect w =
      (Outcome.ofExcept (s.client.stubs w).checkDone,
        w.withQueue s.client.queue ((s.client.stubs w).setActive false)) := by
  simp only [stubberFinalizer, Stubber.toAny, Act.effect_bind, Act.effect_attempt,
    Stubber.effect_checkDone]
  cases (s.client.stubs w).checkDone with
  | ok => rfl
  | error cause => rfl

section

variable {scope} {w} {service : String} {s : AnyStubber (World β υ)} {w' : World β υ}

/-- The finalizer of a stubber that stubs is added before its activation, whatever becomes of
that. -/
theorem effect_engage_of_stubs (h : s.useStubs.effect w = (.ok true, w')) :
    (engage service s).effect ⟨scope, w⟩ =
      ((s.activate.effect w').1,
        ⟨scope.push (stubberFinalizer service s), (s.activate.effect w').2⟩) := by
  simp only [engage, Act.effect_bind, effect_onWorld, h, Act.goOn_ok, if_true, effect_onScope,
    Scope.effect_add]

/-- A stubber that passes through leaves nothing to take down. -/
theorem effect_engage_of_passes (h : s.useStubs.effect w = (.ok false, w')) :
    (engage service s).effect ⟨scope, w⟩ = (.ok (), ⟨scope, w'⟩) := by
  simp only [engage, Act.effect_bind, effect_onWorld, h, Act.goOn_ok, Bool.false_eq_true, if_false,
    Act.effect_report]

theorem effect_engage_of_unwound {reason : String}
    (h : s.useStubs.effect w = (.unwound reason, w')) :
    (engage service s).effect ⟨scope, w⟩ = (.unwound reason, ⟨scope, w'⟩) := by
  simp only [engage, Act.effect_bind, effect_onWorld, h, Act.goOn_unwound]

end

variable {scope} {client : Client}

theorem effect_makeStubber_of_unknown {cause : Fault}
    (h : scope.registry.constructor client.service = .error cause) :
    (makeStubber client).effect ⟨scope, w⟩ = (.fault cause, ⟨scope, w⟩) := by
  simp only [makeStubber, Act.effect_bind, effect_onScope, Act.effect_get, Act.goOn_ok,
    Act.effect_ofExcept, h, Outcome.ofExcept, Act.goOn_fault]

section

variable {w} {build : StubberConstructor (World β υ)} {w' : World β υ}

/-- If the constructor unwinds, the fixture is over. -/
theorem effect_makeStubber_of_unbuilt {reason : String}
    (h : scope.registry.constructor client.service = .ok build)
    (hbuild : (build.call client scope.config.useStubs).effect w = (.unwound reason, w')) :
    (makeStubber client).effect ⟨scope, w⟩ = (.unwound reason, ⟨scope, w'⟩) := by
  simp only [makeStubber, Act.effect_bind, effect_onScope, effect_onWorld, Act.effect_get,
    Act.goOn_ok, Act.effect_ofExcept, h, Outcome.ofExcept, hbuild, Act.goOn_unwound]

/-- What is left of the fixture hangs on the stubber that the constructor gave. -/
theorem effect_makeStubber_of_built {s : AnyStubber (World β υ)}
    (h : scope.registry.constructor client.service = .ok build)
    (hbuild : (build.call client scope.config.useStubs).effect w = (.ok s, w')) :
    (makeStubber client).effect ⟨scope, w⟩ =
      Act.goOn (fun _ st => (.ok s, st)) ((engage client.service s).effect ⟨scope, w'⟩) := by
  simp only [makeStubber, Act.effect_bind, effect_onScope, effect_onWorld, Act.effect_get,
    Act.goOn_ok, Act.effect_ofExcept, h, Outcome.ofExcept, hbuild]
  rfl

/-- Builds a stubber and asks it whether it stubs. -/
def modeOf (build : StubberConstructor (World β υ)) (client : Client) (useStubs : Bool) :
    Act (World β υ) Bool := do
  (← build.call client useStubs).useStubs

/-- A stubber that passes through leaves its scope alone. In the world nothing happens but what it
and its constructor do when they are asked. -/
theorem state_makeStubber_of_passes (h : scope.registry.constructor client.service = .ok build)
    (hpasses : ((modeOf build client scope.config.useStubs).effect w).1 ≠ .ok true) :
    ((makeStubber client).effect ⟨scope, w⟩).2 =
      ⟨scope, ((modeOf build client scope.config.useStubs).effect w).2⟩ := by
  rw [modeOf, Act.effect_bind] at hpasses ⊢
  obtain ⟨s, built, hbuild⟩ | ⟨reason, built, hbuild⟩ :=
    (build.call_unfailing client scope.config.useStubs).effect_cases w
  · rw [hbuild, Act.goOn_ok] at hpasses ⊢
    rw [effect_makeStubber_of_built h hbuild]
    obtain ⟨stubs, asked, hask⟩ | ⟨reason, asked, hask⟩ := s.useStubs_unfailing.effect_cases built
    · obtain rfl : stubs = false := by
        cases stubs with
        | false => rfl
        | true => exact absurd (congrArg Prod.fst hask) hpasses
      rw [effect_engage_of_passes hask, hask]
      rfl
    · rw [effect_engage_of_unwound hask, hask]
      rfl
  · rw [effect_makeStubber_of_unbuilt h hbuild, hbuild]
    rfl

end

/-- Asking for a kind decides about the outcome alone. -/
theorem effect_makeStubberOf (kind : StubberKind) (client : Client) (st : Setting β υ) :
    (makeStubberOf kind client).effect st =
      Act.goOn
        (fun s st' =>
          (if s.kind = kind then .ok s
            else .fault (.stubberMismatch client.service kind.name), st'))
        ((makeStubber client).effect st) := by
  rw [makeStubberOf, Act.effect_bind]
  congr 1
  funext s st'
  split <;> rfl

/-- Makes a stubber, of a given kind or of any. -/
def make (kind : Option StubberKind) (client : Client) :
    Act (Setting β υ) (AnyStubber (World β υ)) :=
  match kind with
  | none => makeStubber client
  | some k => makeStubberOf k client

theorem state_make (kind : Option StubberKind) (client : Client) (st : Setting β υ) :
    ((make kind client).effect st).2 = ((makeStubber client).effect st).2 := by
  cases kind with
  | none => rfl
  | some k =>
      rw [make, effect_makeStubberOf]
      rcases (makeStubber client).effect st with ⟨o, st'⟩
      cases o <;> rfl

/-! ### Stubbing scopes -/

/-- A scope that stubs, with the stubbers that come with the library. -/
def stubbing (region : String) (fs : List (Finalizer (World β υ))) : Scope (World β υ) :=
  ⟨{ useRealService := false, region }, Registry.builtIn, fs⟩

/-- The finalizer of the stubber that a stubbing scope makes for a client. -/
def release (client : Client) : Finalizer (World β υ) :=
  stubberFinalizer client.service (Storage.stubber client true).toAny

theorem effect_release (client : Client) :
    (release client).action.effect w =
      (Outcome.ofExcept (client.stubs w).checkDone,
        w.withQueue client.queue ((client.stubs w).setActive false)) :=
  effect_stubberFinalizer ..

variable {region : String} {fs : List (Finalizer (World β υ))} {client : Client}

theorem effect_makeStubber_stubbing (h : client.service = Storage.serviceName) :
    (makeStubber client).effect ⟨stubbing region fs, w⟩ =
      (.ok (Storage.stubber client true).toAny, ⟨stubbing region (fs ++ [release client]),
        w.withQueue client.queue ((client.stubs w).setActive true)⟩) := by
  have hknown : (stubbing region fs).registry.constructor client.service =
      .ok (.plain Storage.stubber) :=
    h ▸ Registry.constructor_builtIn_storage
  rw [effect_makeStubber_of_built hknown rfl, effect_engage_of_stubs rfl]
  rfl

theorem effect_makeStubber_stubbing_of_ne (h : client.service ≠ Storage.serviceName) :
    (makeStubber client).effect ⟨stubbing region fs, w⟩ =
      (.fault (.noStubber client.service), ⟨stubbing region fs, w⟩) :=
  effect_makeStubber_of_unknown w (Registry.constructor_builtIn_of_ne h)

/-! ### Buckets -/

section

variable [Service β]

/-- What a bucket fixture does in the world. -/
def setUpBucket (reading : Int) (s : Stubber) (client : Client) (region : Option String) :
    Act (World β υ) Storage.Handle := do
  let name ← World.uniqueName reading "bucket"
  let region := bucketRegion client region
  (Storage.Stub.createBucket name (some region)).queue s none
  Storage.Handle.create ⟨client, name⟩ (some region)
  return ⟨client, name⟩

/-- A bucket fixture leaves its finalizer only if all went well. -/
theorem effect_makeBucket (reading : Int) (s : Stubber) (client : Client)
    (region : Option String) (scope : Scope (World β υ)) :
    (makeBucket reading s client region).effect ⟨scope, w⟩ =
      match (setUpBucket reading s client region).effect w with
      | (.ok h, w') => (.ok h, ⟨scope.push (bucketFinalizer s h), w'⟩)
      | (.fault cause, w') => (.fault cause, ⟨scope, w'⟩)
      | (.unwound reason, w') => (.unwound reason, ⟨scope, w'⟩) := by
  simp only [makeBucket, setUpBucket, Act.effect_bind, effect_onWorld]
  rcases (World.uniqueName reading "bucket").effect w with ⟨o, w₁⟩
  cases o with
  | ok name =>
      simp only [Act.goOn_ok, Act.effect_bind, effect_onWorld]
      generalize bucketRegion client region = place
      rcases ((Storage.Stub.createBucket name (some place)).queue s none).effect w₁ with ⟨o, w₂⟩
      cases o with
      | ok =>
          simp only [Act.goOn_ok, Act.effect_bind, effect_onWorld]
          rcases (Storage.Handle.create ⟨client, name⟩ (some place)).effect w₂ with ⟨o, w₃⟩
          cases o with
          | ok => rfl
          | fault cause => rfl
          | unwound reason => rfl
      | fault cause => rfl
      | unwound reason => rfl
  | fault cause => rfl
  | unwound reason => rfl

/-- Where a bucket was set up its name is new, and the last step was the call that creates it. No
step before that call changes a service, or starts or stops a queue's answering. -/
theorem exists_call_of_setUpBucket {reading : Int} {s : Stubber} {client : Client}
    {region : Option String} {w w' : World β υ} {h : Storage.Handle}
    (heff : (setUpBucket reading s client region).effect w = (.ok h, w')) :
    h.client = client ∧
    ∃ (w₁ : World β υ) (response : Json),
      w₁.services = w.services ∧
      (∀ k, (w₁.queues.read k).active = (w.queues.read k).active) ∧
      (h.send (.createBucket (some (bucketRegion client region)))).effect w₁ =
        (.ok response, w') := by
  rw [setUpBucket] at heff
  obtain ⟨name, named, hname, heff⟩ := Act.exists_effect_of_bind heff
  obtain rfl : _ = named := congrArg Prod.snd hname
  obtain ⟨_, stubbed, hstub, heff⟩ := Act.exists_effect_of_bind heff
  obtain rfl : _ = stubbed := congrArg Prod.snd hstub
  obtain ⟨_, created, hcreate, heff⟩ := Act.exists_effect_of_bind heff
  obtain ⟨rfl, rfl⟩ : Storage.Handle.mk client name = h ∧ created = w' := by
    rw [Act.effect_pure] at heff
    cases heff
    exact ⟨rfl, rfl⟩
  obtain ⟨response, sent, hsend, heff⟩ := Act.exists_effect_of_bind hcreate
  obtain rfl : sent = created := congrArg Prod.snd heff
  refine ⟨rfl, _, response, ?_, fun k => ?_, hsend⟩
  · exact Stubber.services_effect_stub ..
  · exact Stubber.active_effect_stub ..

/-- Where a bucket fixture went well, the bucket was set up, and its finalizer is the last of the
scope. -/
theorem setUpBucket_of_makeBucket {reading : Int} {s : Stubber} {client : Client}
    {region : Option String} {scope : Scope (World β υ)} {w : World β υ} {h : Storage.Handle}
    {st : Setting β υ}
    (hok : (makeBucket reading s client region).effect ⟨scope, w⟩ = (.ok h, st)) :
    st.scope = scope.push (bucketFinalizer s h) ∧
      (setUpBucket reading s client region).effect w = (.ok h, st.world) := by
  rw [effect_makeBucket] at hok
  rcases heff : (setUpBucket reading s client region).effect w with ⟨o, w'⟩
  rw [heff] at hok
  cases o with
  | ok handle =>
      cases hok
      exact ⟨rfl, rfl⟩
  | fault cause => cases hok
  | unwound reason => cases hok

/-- The finalizer of a bucket whose stubber stubs does nothing. -/
theorem action_bucketFinalizer_of_stubs {s : Stubber} (hstubs : s.useStubs = true)
    (h : Storage.Handle) : (bucketFinalizer s h : Finalizer (World β υ)).action = return () :=
  if_pos hstubs

/-- The finalizer of a bucket whose stubber passes through deletes the bucket. -/
theorem action_bucketFinalizer_of_passes {s : Stubber} (hpasses : s.useStubs = false)
    (h : Storage.Handle) : (bucketFinalizer s h : Finalizer (World β υ)).action = h.delete :=
  if_neg (by simp [hpasses])

end

end Fixture

end ServiceDoubles
