import ServiceDoubles.Storage.Stub

/-!
# ServiceDoubles.Registry

Which stubber is built for which service. A registry maps the name of a service to a constructor,
and the last one that was registered for a name counts.
-/

namespace ServiceDoubles

/-- A way to build the stubber of a client. It is told whether to stub or to pass through, but what
it builds may do as it likes. -/
structure StubberConstructor (σ : Type) where
  call : (client : Client) → (useStubs : Bool) → Act σ (AnyStubber σ)
  call_unfailing : ∀ client useStubs, (call client useStubs).Unfailing

/-- The constructor that only gives the stubber. -/
def StubberConstructor.plain {β υ : Type} (stubber : Client → Bool → Stubber) :
    StubberConstructor (World β υ) where
  call client useStubs := return (stubber client useStubs).toAny
  call_unfailing _ _ := Act.unfailing_pure _

/-- The constructors by the name of the service. -/
structure Registry (σ : Type) where
  constructors : SortedMap (StubberConstructor σ)

namespace Registry

variable {σ : Type}

/-- The registry without constructors. -/
def empty : Registry σ := ⟨SortedMap.empty⟩

instance : Inhabited (Registry σ) := ⟨empty⟩

/-- Registers a constructor in the place of any other for the service. -/
def register (r : Registry σ) (service : String) (build : StubberConstructor σ) : Registry σ :=
  ⟨r.constructors.insert service build⟩

/-- The registry with the stubbers that come with the library. -/
def builtIn {β υ : Type} : Registry (World β υ) :=
  empty.register Storage.serviceName (.plain Storage.stubber)

/-- The constructor for a service. -/
def constructor (r : Registry σ) (service : String) : Except Fault (StubberConstructor σ) :=
  match r.constructors.get? service with
  | some build => .ok build
  | none => .error (.noStubber service)

/-- The names of the services, ascending. -/
def services (r : Registry σ) : List String := r.constructors.keys

/-- The outline of a registry. -/
def outline (r : Registry σ) : String :=
  Text.Outline.record "StubberRegistry" [("services", Text.Outline.texts r.services)]

end Registry

end ServiceDoubles
