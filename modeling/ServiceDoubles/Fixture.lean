import ServiceDoubles.Scope
import ServiceDoubles.Stamp
import ServiceDoubles.Storage.Handle

/-!
# ServiceDoubles.Fixture

What tests ask of their scope: a stubber for a client, and a bucket to work with. A fixture sets up
what it gives and adds the finalizer that takes it down again.
-/

namespace ServiceDoubles

/-- A scope with the world that it works on. -/
structure Setting (β υ : Type) where
  scope : Scope (World β υ)
  world : World β υ

namespace Setting

variable {β υ α : Type}

/-- Runs an action on the scope. -/
def onScope (a : Act (Scope (World β υ)) α) : Act (Setting β υ) α :=
  Act.onPart (·.scope) (fun s scope => { s with scope }) a

/-- Runs an action on the world. -/
def onWorld (a : Act (World β υ) α) : Act (Setting β υ) α :=
  Act.onPart (·.world) (fun s world => { s with world }) a

end Setting

namespace Fixture

open Setting (onScope onWorld)

variable {β υ : Type}

/-- The place that events of fixtures name. -/
def target : String := "stubkit::fixtures"

/-! ### Stubbers -/

/-- Checks that every expected call was made, and passes calls through again in any case. -/
def stubberFinalizer (service : String) (s : AnyStubber (World β υ)) : Finalizer (World β υ) where
  name := service ++ " stubber"
  action := do
    -- Calls pass through again even if the check fails; its failure comes after that.
    let result ← Act.attempt s.checkDone
    s.deactivate
    Act.ofExcept result

/-- The event of a client that passes its calls through. -/
def passingEvent (service : String) : Event :=
  ⟨.info, target, "Passing calls through to the real service", [("service", .shown service)]⟩

/-- Activates a stubber that stubs, and adds its finalizer. -/
def engage (service : String) (s : AnyStubber (World β υ)) : Act (Setting β υ) Unit := do
  if ← onWorld s.useStubs then
    -- The finalizer is there before the queue answers, so that no path leaves the client active.
    onScope (Scope.add (stubberFinalizer service s))
    onWorld s.activate
  else
    Act.report (passingEvent service)

/-- Builds the stubber that the scope's registry has for the client. If it stubs, it is activated,
and its finalizer is added. -/
def makeStubber (client : Client) : Act (Setting β υ) (AnyStubber (World β υ)) := do
  let scope ← onScope Act.get
  let build ← Act.ofExcept (scope.registry.constructor client.service)
  let stubber ← onWorld (build.call client scope.config.useStubs)
  engage client.service stubber
  return stubber

/-- Builds the stubber for the client and fails if it is not of the kind that is asked for. What was
set up stays. -/
def makeStubberOf (kind : StubberKind) (client : Client) :
    Act (Setting β υ) (AnyStubber (World β υ)) := do
  let stubber ← makeStubber client
  if stubber.kind = kind then return stubber
  else Act.fail (.stubberMismatch client.service kind.name)

/-! ### Buckets -/

/-- The region of a bucket: the one that is asked for, or else that of the client. -/
def bucketRegion (client : Client) : Option String → String
  | none => client.region
  | some region => if region = "" then client.region else region

/-- The event of a bucket that was created. -/
def createdEvent (bucket region : String) : Event :=
  ⟨.debug, target, "Created test bucket", [("bucket", .shown bucket), ("region", .shown region)]⟩

/-- Deletes the bucket of a handle, unless the stubber stubs. -/
def bucketFinalizer [Service β] (s : Stubber) (h : Storage.Handle) : Finalizer (World β υ) where
  name := "delete bucket " ++ h.name
  action := if s.useStubs then return () else h.delete

/-- Creates a bucket with a name of its own, made when the clock reads `reading`. If the stubber
stubs, it expects the call first. -/
def makeBucket [Service β] (reading : Int) (s : Stubber) (client : Client)
    (region : Option String) : Act (Setting β υ) Storage.Handle := do
  let name ← onWorld (World.uniqueName reading "bucket")
  let region := bucketRegion client region
  let handle : Storage.Handle := ⟨client, name⟩
  onWorld ((Storage.Stub.createBucket name (some region)).queue s none)
  onWorld (handle.create (some region))
  Act.report (createdEvent name region)
  -- Only a bucket that was created has a finalizer.
  onScope (Scope.add (bucketFinalizer s handle))
  return handle

end Fixture

end ServiceDoubles
