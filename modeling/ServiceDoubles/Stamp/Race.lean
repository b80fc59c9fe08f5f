import ServiceDoubles.Stamp

/-!
# ServiceDoubles.Stamp.Race

Several callers that ask for stamps at once. They share the last stamp and nothing else. A caller
reads the clock, loads the shared value, and then tries to exchange it for its own stamp until
nobody came between.

Design points:
- A **move** is one atomic step of one caller, so that a race is a list of moves and their order is
  the order in time.
- The stamp that a caller tries is the one that a single caller would take (`Stamp.next`).
- An exchange may fail for no reason. A caller whose exchange failed has loaded the shared value
  anew.
-/

namespace ServiceDoubles.Stamp

/-- Where a caller stands. -/
inductive Caller where
  /-- It has not begun. -/
  | idle
  /-- It has read the clock. -/
  | started (now : Int64)
  /-- It has loaded the shared value. -/
  | holding (now last : Int64)
  /-- It has its stamp. -/
  | done (now stamp : Int64)
deriving Repr, DecidableEq

/-- One step of a caller. -/
inductive Move where
  /-- Reads the clock. -/
  | start (now : Int64)
  /-- Loads the shared value. -/
  | load
  /-- Tries to exchange the shared value; `fails` tells that it fails for no reason. -/
  | exchange (fails : Bool)
deriving Repr, DecidableEq

/-- The shared value and the caller after a move, if the caller can make it. -/
def Caller.move (shared : Int64) : Caller → Move → Option (Int64 × Caller)
  | idle, .start now => some (shared, started now)
  | started now, .load => some (shared, holding now shared)
  | holding now last, .exchange fails =>
    if shared = last ∧ !fails then some (next last now, done now (next last now))
    else some (shared, holding now shared)
  | _, _ => none

/-- The stamp of a caller that has one. -/
def Caller.stamp? : Caller → Option Int64
  | done _ stamp => some stamp
  | _ => none

/-- Callers with the value that they share. Callers are told apart by number. -/
structure Race where
  shared : Int64
  caller : Nat → Caller

namespace Race

/-- The race before any move. -/
def fresh : Race := ⟨0, fun _ => .idle⟩

/-- The race after a move of caller `i`, if it can make that move. -/
def step (r : Race) (i : Nat) (m : Move) : Option Race :=
  ((r.caller i).move r.shared m).map fun p =>
    ⟨p.1, fun j => if j = i then p.2 else r.caller j⟩

/-- The race after moves in this order, if they can be made. -/
def run (r : Race) : List (Nat × Move) → Option Race
  | [] => some r
  | (i, m) :: rest => (r.step i m).bind fun r => r.run rest

end Race

end ServiceDoubles.Stamp
