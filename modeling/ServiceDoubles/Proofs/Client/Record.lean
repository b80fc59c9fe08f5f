import ServiceDoubles.Proofs.Client.Acceptance

/-!
# ServiceDoubles.Proofs.Client.Record

Which calls a **service receives**, and which calls an action sends.

Any service can be put behind a record of its calls (`Recorded`). The record does not matter to the
answers, and it grows by exactly the calls that reach the service (`Client.received_call`), so what
was answered from a queue is not in it. What an action sends is told apart from this: a call is sent
whether a queue or the service answers it (`Client.Sends`).
-/

namespace ServiceDoubles

variable {β υ : Type}

/-- A service with the calls that it received, in order. -/
structure Recorded (β : Type) where
  service : β
  calls : List Call

instance [Inhabited β] : Inhabited (Recorded β) := ⟨default, []⟩

/-- The record is written first, so that a call is in it whatever comes out of it. -/
instance [Service β] : Service (Recorded β) where
  call operation params := do
    Act.modify fun r => { r with calls := r.calls ++ [⟨operation, params⟩] }
    Act.onPart (·.service) (fun r service => { r with service }) (Service.call operation params)

/-- The calls that the service in cell `k` received. -/
def World.received (w : World (Recorded β) υ) (k : Nat) : List Call := (w.services.read k).calls

namespace Recorded

variable [Service β] (operation : String) (params : Json) (r : Recorded β)

theorem effect_call :
    (Service.call operation params : Act (Recorded β) Json).effect r =
      (((Service.call operation params).effect r.service).1,
        ⟨((Service.call operation params).effect r.service).2,
          r.calls ++ [⟨operation, params⟩]⟩) := rfl

end Recorded

namespace Client

variable [Service β] (c : Client)

/-- The service receives a call exactly if the call reaches it. -/
theorem received_call (operation : String) (params : Json) (w : World (Recorded β) υ) :
    ((c.call operation params).effect w).2.received c.backend =
      if c.reaches operation w = true then w.received c.backend ++ [⟨operation, params⟩]
      else w.received c.backend := by
  split
  · next hreaches =>
      obtain ⟨hsupp, hnot⟩ := Bool.and_eq_true_iff.mp hreaches
      have hactive : (c.stubs w).active = false := (Bool.not_eq_true' _).mp hnot
      rw [effect_call_inactive c operation params w hsupp hactive, Recorded.effect_call,
        World.received, World.read_withService_self]
      rfl
  · next hreaches =>
      rw [World.received, services_effect_call c operation params w (by simpa using hreaches)]
      rfl

/-- From one world to the other, the client's service received this call and no other. -/
def Reached (call : Call) (before after : World (Recorded β) υ) : Prop :=
  after.received c.backend = before.received c.backend ++ [call]

/-- The action makes this call and does nothing else. -/
def Sends (call : Call) (a : Act (World β υ) Unit) : Prop :=
  ∀ w, a.run w =
    (do let _ ← c.call call.operation call.params : Act (World β υ) Unit).run w

/-- Doing nothing is not to make a call, whatever queue and service would answer. -/
theorem not_sends_pure (call : Call) (w : World β υ) :
    ¬c.Sends call (return () : Act (World β υ) Unit) := by
  intro hsends
  have hrun := hsends w
  rw [Act.run_pure, Act.run_discard] at hrun
  rcases hcall : (c.call call.operation call.params).run w with ⟨o, w', es⟩
  rw [hcall] at hrun
  cases o with
  | ok value =>
      obtain rfl : [] = es := congrArg Run.events hrun
      exact c.run_call_ne_silent call.operation call.params w value w' hcall
  | fault cause => cases congrArg Run.outcome hrun
  | unwound reason => cases congrArg Run.outcome hrun

end Client

end ServiceDoubles
