import ServiceDoubles.Script.Bench

/-!
# ServiceDoubles.Script.Tour

A short tour through the library that makes events of each level: a marked test is skipped, a
storage client answers a call from its queue, and a cleanup fails while the test unwinds.
-/

namespace ServiceDoubles.Script

/-- Skips a test that runs only when stubbed. -/
def tourSetup : Act SessionWorld Unit := do
  let _ ← Marker.setup { useRealService := true } [.stubbedOnly]

/-- Stubs a call and makes it. -/
def tourCall : Act SessionWorld Unit := do
  let backend ← World.allocate
  World.onService backend (Act.modify fun _ => .storage Storage.Store.empty)
  let client ← Storage.client "r" backend
  let stubber := Storage.stubber client true
  (Storage.Stub.headBucket "b").queue stubber none
  stubber.activate
  let _ ← client.call "HeadBucket" (Json.record [("Bucket", .string "b")])

/-- Lets a scope go away whose only finalizer fails, while the test unwinds. -/
def tourTeardown : Act SessionWorld Unit := do
  let finalizer : Finalizer SessionWorld := ⟨"f", Act.fail (.config "x")⟩
  let added := Scope.add finalizer (Scope.start Config.standard Registry.builtIn)
  added.events.forM Act.report
  added.state.dropUnwinding

/-- The events of the tour. -/
def tourEvents : List Event :=
  (do tourSetup; tourCall; tourTeardown : Act SessionWorld Unit) (World.fresh []) |>.events

end ServiceDoubles.Script
