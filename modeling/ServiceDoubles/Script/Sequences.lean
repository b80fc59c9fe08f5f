import ServiceDoubles.Script.Scopes

/-!
# ServiceDoubles.Script.Sequences

The steps of a script on sequences of stubs and on runners.
-/

namespace ServiceDoubles.Script

/-! ### Entries -/

/-- An entry of a sequence, as a script writes it. -/
inductive Call where
  /-- A stub, under the name of its method or another name. -/
  | stub (stubber : Id) (order : StubOrder) (name : Option String)
  /-- A call that is noted in the journal. -/
  | journaled (name : String) (behaviour : Behaviour)

/-- The entry, if the objects that it names are there. -/
def Bench.entry? (b : Bench) : Call → Option (Entry SessionWorld)
  | .stub stubber order name => do
    let s ← b.typed? Storage.stubberKind stubber
    let st ← b.stub? order
    return ⟨name.getD st.method, st.queue s⟩
  | .journaled name behaviour =>
    some ⟨name, fun code => recorded (.call name code) behaviour⟩

/-- Runs a single entry and reports it. -/
def invokeEntry (e : Entry SessionWorld) (code : Option String) : Act Bench Json := do
  Bench.onWorld (e.invoke code)
  return Json.record [("name", .string e.name), ("debug", .string e.outline)]

/-! ### Sequences -/

/-- Steps on sequences. -/
inductive SequenceStep where
  | invoke (call : Call) (code : Option String)
  | create (id : Id)
  | add (sequence : Id) (calls : List Call)
  | run (sequence : Id) (options : RunOptions)
  | runAll (sequence : Id)
  | info (sequence : Id)
  | outlineOptions (options : RunOptions)
  | sameOptions (a b : RunOptions)

/-- The report of a number. -/
def counted (a : Act SessionWorld Nat) : Act Bench Json := do
  return Json.ofNat (← Bench.onWorld a)

/-- Puts a sequence into the table. -/
def storeSequence (id : Id) (entries : List (Entry SessionWorld)) : Act Bench Unit :=
  Act.modify fun b => { b with sequences := b.sequences.insert id entries }

/-- What a step on sequences does. -/
def SequenceStep.act (b : Bench) : SequenceStep → Option (Act Bench Json)
  | invoke call code => do
    let e ← b.entry? call
    return invokeEntry e code
  | create id =>
    some do
      storeSequence id []
      return .null
  | add sequence calls => do
    let entries ← b.sequences.get? sequence
    let more ← calls.mapM b.entry?
    return do
      storeSequence sequence (entries ++ more)
      return Json.ofNat (entries ++ more).length
  | run sequence options => do
    let entries ← b.sequences.get? sequence
    return counted (Sequence.run options entries)
  | runAll sequence => do
    let entries ← b.sequences.get? sequence
    return counted (Sequence.runAll entries)
  | info sequence => do
    let entries ← b.sequences.get? sequence
    return Bench.reporting <| Json.record
      [("names", Json.ofTexts (entries.map (·.name))), ("len", Json.ofNat entries.length),
       ("empty", .bool entries.isEmpty), ("debug", .string (Sequence.outline entries))]
  | outlineOptions options => some (return .string options.outline)
  | sameOptions a b => some (return .bool (a == b))

/-! ### Runners -/

/-- Steps on runners. -/
inductive RunnerStep where
  | create (id : Id) (code stop : Option String) (isScoped : Bool)
  | addCalls (runner : Id) (calls : List Call)
  /-- Adds a storage stub under a label. -/
  | addStub (runner : Id) (label : String) (stubber : Id) (order : StubOrder)
  /-- Adds a stub of a custom stubber under a label. -/
  | addRaw (runner : Id) (label : String) (stubber : Id) (operation : String)
      (expected : Option Json) (response : Json)
  | run (runner : Id)
  | info (runner : Id)
  | finish (runner : Id)
  | drop (runner : Id)
  | dropUnwinding (runner : Id)
  /-- Lets a body add the calls, and perhaps unwind after that. -/
  | within (code stop : Option String) (calls : List Call) (unwinds : Option String)

/-- Puts a runner into the table and reports its size. -/
def storeRunner (id : Id) (o : RunnerObject) (r : Runner SessionWorld) : Act Bench Json := do
  Act.modify fun b => { b with runners := b.runners.insert id { o with runner := r } }
  return Json.ofNat r.entries.length

/-- Takes a runner off the bench. -/
def takeRunner (id : Id) : Act Bench Unit :=
  Act.modify fun b => { b with runners := b.runners.erase id }

/-- Lets a runner go away on a normal path. Only a scoped one does anything then. -/
def RunnerObject.drop (o : RunnerObject) : Act SessionWorld Unit :=
  if o.isScoped then o.runner.drop else return ()

/-- The report of a runner. -/
def runnerReport (o : RunnerObject) : Json :=
  Json.record
    [("names", Json.ofTexts o.runner.names), ("len", Json.ofNat o.runner.entries.length),
     ("empty", .bool o.runner.entries.isEmpty), ("error_code", Json.ofText? o.runner.code),
     ("stop", Json.ofText? o.runner.stopMethod),
     ("debug", .string (if o.isScoped then o.runner.scopedOutline else o.runner.outline))]

/-- The body that adds entries to a runner and then unwinds if it is to. -/
def fillingBody (entries : List (Entry SessionWorld)) (unwinds : Option String) :
    Act (Runner SessionWorld × SessionWorld) Unit := do
  Act.modify fun p => (entries.foldl Runner.add p.1, p.2)
  match unwinds with
  | none => return ()
  | some reason => Act.unwind reason

/-- What a step on runners does. -/
def RunnerStep.act (b : Bench) : RunnerStep → Option (Act Bench Json)
  | create id code stop isScoped =>
    some do
      let _ ← storeRunner id ⟨⟨code, stop, []⟩, isScoped⟩ ⟨code, stop, []⟩
      -- A runner that had the name goes away, once the new one is in its place.
      if let some old := b.runners.get? id then Bench.onWorld old.drop
      return .null
  | addCalls runner calls => do
    let o ← b.runners.get? runner
    let entries ← calls.mapM b.entry?
    return storeRunner runner o (entries.foldl Runner.add o.runner)
  | addStub runner label stubber order => do
    let o ← b.runners.get? runner
    let s ← b.typed? Storage.stubberKind stubber
    let st ← b.stub? order
    return storeRunner runner o (o.runner.addFor s.service ⟨label, st.queue s⟩)
  | addRaw runner label stubber operation expected response => do
    let o ← b.runners.get? runner
    let s ← b.typed? customKind stubber
    return storeRunner runner o
      (o.runner.addFor s.service ⟨label, s.stub operation expected response⟩)
  | run runner => do
    let o ← b.runners.get? runner
    return counted o.runner.run
  | info runner => do
    let o ← b.runners.get? runner
    return Bench.reporting (runnerReport o)
  | finish runner => do
    let o ← b.runners.get? runner
    if o.isScoped then
      return do
        takeRunner runner
        counted o.runner.finish
    else none
  | drop runner => do
    let o ← b.runners.get? runner
    return do
      takeRunner runner
      silently o.drop
  | dropUnwinding runner => do
    let o ← b.runners.get? runner
    return do
      takeRunner runner
      silently do
        if o.isScoped then o.runner.dropUnwinding
        Act.unwind bodyFailure
  | within code stop calls unwinds => do
    let entries ← calls.mapM b.entry?
    return counted (Runner.within code stop (fillingBody entries unwinds))

end ServiceDoubles.Script
