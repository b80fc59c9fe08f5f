import ServiceDoubles.Client

/-!
# ServiceDoubles.Stubber

Stubbers: what a test uses to say which calls it expects. A stubber works on one client in one of
two modes. When stubbing it queues the expected calls on the client; when passing through it queues
nothing, so that one test body serves both the doubles and the real service.

Design points:
- A `Stubber` is what the library offers for a start. Its own stubbers wrap one, and those of tests
  may; such stubbers differ in their kind alone.
- A test may as well bring a stubber that has nothing to do with it. So scopes and registries know
  stubbers only by what they do when they are asked (`AnyStubber`).
-/

namespace ServiceDoubles

/-- A kind of stubber. Kinds are told apart by name, and a test may bring kinds of its own. -/
structure StubberKind where
  name : String
deriving Repr, DecidableEq

/-- A stubber of a client, as the library makes them. -/
structure Stubber where
  kind : StubberKind
  client : Client
  /-- Whether expected calls are queued. -/
  useStubs : Bool
deriving Repr, DecidableEq

namespace Stubber

variable {β υ : Type}

/-- The place that events of a stubber name. -/
def target : String := "stubkit::stubber"

/-- The service that the stubber is for. -/
def service (s : Stubber) : String := s.client.service

/-- The field that names the service. -/
def serviceField (s : Stubber) : String × FieldValue := ("service", .shown s.service)

/-- From now on the client answers from its queue. -/
def activate (s : Stubber) : Act (World β υ) Unit := do
  Act.report ⟨.info, target, "Activating stubber", [s.serviceField]⟩
  s.client.onQueue (Act.modify (Queue.setActive true))

/-- From now on the client passes its calls through. -/
def deactivate (s : Stubber) : Act (World β υ) Unit := do
  Act.report ⟨.debug, target, "Deactivating stubber", [s.serviceField]⟩
  s.client.onQueue (Act.modify (Queue.setActive false))

/-- Fails if an expected call was not made. -/
def checkDone (s : Stubber) : Act (World β υ) Unit := do
  let queue ← s.client.onQueue Act.get
  Act.ofExcept queue.checkDone

/-- The reply of a stub: the response, or a failure of the service if there is a code. -/
def reply (response : Json) : Option String → Reply
  | none => .response response
  | some code => .failure code ""

/-- Queues an expected call when stubbing, and does nothing when passing through. -/
def stub (s : Stubber) (operation : String) (expected : Option Json) (response : Json)
    (code : Option String) : Act (World β υ) Unit :=
  if s.useStubs then do
    Act.ofExcept (s.client.check operation)
    s.client.onQueue (Queue.add ⟨operation, expected, reply response code⟩)
  else return ()

/-- The outline of what such stubbers have in common. -/
def outline (s : Stubber) : String :=
  Text.Outline.record "BaseStubber"
    [("client", s.client.outline), ("use_stubs", Text.Outline.bool s.useStubs)]

end Stubber

/-! ### Stubbers of any make -/

/-- What those who know the kind of a stubber turn it back into. -/
inductive ConcreteStubber where
  /-- A stubber as the library makes them. -/
  | common (s : Stubber)
  /-- A stubber of another make. -/
  | foreign (kind : StubberKind)
deriving Repr, DecidableEq

/-- The kind. -/
def ConcreteStubber.kind : ConcreteStubber → StubberKind
  | common s => s.kind
  | foreign kind => kind

/-- A stubber of any make, by what it does when it is asked. That is its own affair, except that
only the check may fail. -/
structure AnyStubber (σ : Type) where
  /-- What is behind it. -/
  concrete : ConcreteStubber
  /-- Names the service that the stubber is for. -/
  service : Act σ String
  /-- Tells whether expected calls are queued. -/
  useStubs : Act σ Bool
  /-- Asks that calls be answered from what is expected. -/
  activate : Act σ Unit
  /-- Asks that calls pass through. -/
  deactivate : Act σ Unit
  /-- Fails if an expected call was not made. -/
  checkDone : Act σ Unit
  service_unfailing : service.Unfailing
  useStubs_unfailing : useStubs.Unfailing
  activate_unfailing : activate.Unfailing
  deactivate_unfailing : deactivate.Unfailing

/-- The kind. -/
def AnyStubber.kind {σ : Type} (s : AnyStubber σ) : StubberKind := s.concrete.kind

/-- The stubber as others know it. -/
def Stubber.toAny {β υ : Type} (s : Stubber) : AnyStubber (World β υ) where
  concrete := .common s
  service := return s.service
  useStubs := return s.useStubs
  activate := s.activate
  deactivate := s.deactivate
  checkDone := s.checkDone
  service_unfailing := Act.unfailing_pure _
  useStubs_unfailing := Act.unfailing_pure _
  activate_unfailing := (Act.unfailing_report _).bind fun _ => (Act.unfailing_modify _).onPart
  deactivate_unfailing := (Act.unfailing_report _).bind fun _ => (Act.unfailing_modify _).onPart

end ServiceDoubles
