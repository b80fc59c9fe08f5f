import ServiceDoubles.World

/-!
# ServiceDoubles.Stamp

Unique names. A name is a beginning that the caller chooses, followed by a *stamp*: a number that
grows from name to name. The clock gives the stamp while it moves on; where it repeats or jumps
back, the stamp is the successor of the one before.
-/

namespace ServiceDoubles

namespace Stamp

/-- A reading of the clock in nanoseconds. A reading that 64 bits cannot hold counts as zero. -/
def ofReading (nanoseconds : Int) : Int64 :=
  if Int64.minValue.toInt ≤ nanoseconds ∧ nanoseconds ≤ Int64.maxValue.toInt then
    Int64.ofInt nanoseconds
  else 0

/-- The stamp after `last` when the clock shows `now`. -/
def next (last now : Int64) : Int64 := if last < now then now else last + 1

/-- The name that begins with `beginning` and has this stamp. -/
def name (beginning : String) (stamp : Int64) : String := beginning ++ intText stamp.toInt

end Stamp

/-- A name that was not given before, made when the clock reads `reading`. -/
def World.uniqueName {β υ : Type} (reading : Int) (beginning : String) : Act (World β υ) String :=
  fun w =>
    let stamp := Stamp.next w.lastStamp (Stamp.ofReading reading)
    ⟨.ok (Stamp.name beginning stamp), { w with lastStamp := stamp }, []⟩

end ServiceDoubles
