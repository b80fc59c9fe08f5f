import ServiceDoubles.Fault
import ServiceDoubles.Trace.Event

/-!
# ServiceDoubles.Act

Actions: what stubs, services and cleanups do. An action changes a state, reports events, and ends
in one of three ways: with a value, with a fault, or by unwinding the test body.

The events stand beside the state, not in it, so that two runs can be compared by what they did to
the state alone.
-/

namespace ServiceDoubles

/-- How an action ends. -/
inductive Outcome (α : Type) where
  /-- With a value. -/
  | ok (value : α)
  /-- With a fault. -/
  | fault (cause : Fault)
  /-- By unwinding: the rest of the test body is skipped, and only cleanups run. -/
  | unwound (reason : String)

/-- What an action did: its end, the state it left and the events it reported, in order. -/
structure Run (σ α : Type) where
  outcome : Outcome α
  state : σ
  events : List Event

/-- An action on a state of type `σ` that gives an `α`. -/
def Act (σ α : Type) : Type := σ → Run σ α

/-- Maps the value. -/
def Outcome.map {α β : Type} (f : α → β) : Outcome α → Outcome β
  | .ok a => .ok (f a)
  | .fault cause => .fault cause
  | .unwound reason => .unwound reason

/-- The outcome of a step that can only fail. -/
def Outcome.ofExcept {α : Type} : Except Fault α → Outcome α
  | .ok a => .ok a
  | .error cause => .fault cause

namespace Act

variable {σ τ α β : Type}

/-- Gives a value and does nothing. -/
def pure (a : α) : Act σ α := fun s => ⟨.ok a, s, []⟩

/-- Runs `f` on the value of `a`, in the state that `a` left. A fault or an unwinding of `a` is the
end, and keeps what `a` did to the state. -/
def bind (a : Act σ α) (f : α → Act σ β) : Act σ β := fun s =>
  match a s with
  | ⟨.ok x, t, es⟩ => let r := f x t; ⟨r.outcome, r.state, es ++ r.events⟩
  | ⟨.fault cause, t, es⟩ => ⟨.fault cause, t, es⟩
  | ⟨.unwound reason, t, es⟩ => ⟨.unwound reason, t, es⟩

instance : Monad (Act σ) where
  pure := Act.pure
  bind := Act.bind

/-- Ends with a fault. -/
def fail (cause : Fault) : Act σ α := fun s => ⟨.fault cause, s, []⟩

/-- Ends by unwinding. -/
def unwind (reason : String) : Act σ α := fun s => ⟨.unwound reason, s, []⟩

/-- The state. -/
def get : Act σ σ := fun s => ⟨.ok s, s, []⟩

/-- Changes the state. -/
def modify (f : σ → σ) : Act σ Unit := fun s => ⟨.ok (), f s, []⟩

/-- Reports an event. -/
def report (e : Event) : Act σ Unit := fun s => ⟨.ok (), s, [e]⟩

/-- Gives the value, or ends with the fault. -/
def ofExcept (e : Except Fault α) : Act σ α := fun s => ⟨Outcome.ofExcept e, s, []⟩

/-- Ends with this outcome. -/
def ofOutcome (o : Outcome α) : Act σ α := fun s => ⟨o, s, []⟩

/-- Runs `a` and gives its outcome, whatever it is. -/
def settle (a : Act σ α) : Act σ (Outcome α) := fun s =>
  let r := a s
  ⟨.ok r.outcome, r.state, r.events⟩

/-- Runs `a` and ends well, with its value or its fault; an unwinding goes on. -/
def attempt (a : Act σ α) : Act σ (Except Fault α) := fun s =>
  match a s with
  | ⟨.ok x, t, es⟩ => ⟨.ok (.ok x), t, es⟩
  | ⟨.fault cause, t, es⟩ => ⟨.ok (.error cause), t, es⟩
  | ⟨.unwound reason, t, es⟩ => ⟨.unwound reason, t, es⟩

/-- Runs an action on a part of the state. -/
def onPart (part : σ → τ) (replace : σ → τ → σ) (a : Act τ α) : Act σ α := fun s =>
  let r := a (part s)
  ⟨r.outcome, replace s r.state, r.events⟩

/-! ### Actions that never fail -/

/-- The action gives a value or unwinds, in whatever state it runs. -/
def Unfailing (a : Act σ α) : Prop := ∀ s cause, (a s).outcome ≠ .fault cause

theorem unfailing_pure (a : α) : (Pure.pure a : Act σ α).Unfailing := fun _ _ => nofun

theorem unfailing_modify (f : σ → σ) : (modify f).Unfailing := fun _ _ => nofun

theorem unfailing_report (e : Event) : (report e : Act σ Unit).Unfailing := fun _ _ => nofun

theorem Unfailing.bind {a : Act σ α} {f : α → Act σ β} (ha : a.Unfailing)
    (hf : ∀ x, (f x).Unfailing) : (a >>= f).Unfailing := by
  intro s cause
  change (Act.bind a f s).outcome ≠ .fault cause
  unfold Act.bind
  rcases hrun : a s with ⟨o, t, es⟩
  cases o with
  | ok x => exact hf x t cause
  | fault first => exact absurd (congrArg Run.outcome hrun) (ha s first)
  | unwound reason => nofun

theorem Unfailing.onPart {part : σ → τ} {replace : σ → τ → σ} {a : Act τ α} (ha : a.Unfailing) :
    (onPart part replace a).Unfailing :=
  fun s => ha (part s)

end Act

end ServiceDoubles
