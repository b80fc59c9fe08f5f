import ServiceDoubles.Queue

/-!
# ServiceDoubles.World

The state that clients, stubbers and fixtures share.

Design points:
- Shared state lies in **cells**, and whoever shares it holds the cell's number. A cell that was
  never written holds the default, so that reading a cell always gives a value.
- The services behind the clients are arbitrary state machines: a type of states with a `Service`
  instance.
- `own` is whatever the test itself keeps. The doubles never touch it; actions of the test may.
-/

namespace ServiceDoubles

/-- Numbered cells. -/
structure Cells (α : Type) where
  read : Nat → α

namespace Cells

variable {α : Type}

/-- Cells that all hold the default. -/
def fresh [Inhabited α] : Cells α := ⟨fun _ => default⟩

/-- The cells after writing `value` to cell `i`. -/
def write (cells : Cells α) (i : Nat) (value : α) : Cells α :=
  ⟨fun j => if j = i then value else cells.read j⟩

@[simp] theorem read_write_self (cells : Cells α) (i : Nat) (value : α) :
    (cells.write i value).read i = value := if_pos rfl

theorem read_write_of_ne (cells : Cells α) {i j : Nat} (value : α) (h : j ≠ i) :
    (cells.write i value).read j = cells.read j := if_neg h

@[simp] theorem write_read_self (cells : Cells α) (i : Nat) :
    cells.write i (cells.read i) = cells := by
  have h : (cells.write i (cells.read i)).read = cells.read := by
    funext j
    by_cases hj : j = i
    · subst hj; exact read_write_self ..
    · exact read_write_of_ne _ _ hj
  cases cells
  exact congrArg Cells.mk h

theorem write_write (cells : Cells α) (i : Nat) (a b : α) :
    (cells.write i a).write i b = cells.write i b := by
  have h : ((cells.write i a).write i b).read = (cells.write i b).read := by
    funext j
    by_cases hj : j = i
    · subst hj
      rw [read_write_self, read_write_self]
    · rw [read_write_of_ne _ _ hj, read_write_of_ne _ _ hj, read_write_of_ne _ _ hj]
  exact congrArg Cells.mk h

end Cells

/-- What a client talks to when its calls are not stubbed: a machine that answers each call by its
operation and parameters, and may change its state. -/
class Service (β : Type) where
  call : (operation : String) → (params : Json) → Act β Json

/-- The shared state: the queues of the clients, the services behind them, the last number that was
used for a unique name, how many cells were handed out, and the test's own state. -/
structure World (β υ : Type) where
  queues : Cells Queue
  services : Cells β
  lastStamp : Int64
  handedOut : Nat
  own : υ

namespace World

variable {β υ α : Type}

/-- The world at the start of a process. -/
def fresh [Inhabited β] (own : υ) : World β υ := ⟨Cells.fresh, Cells.fresh, 0, 0, own⟩

/-- Runs an action on one queue. -/
def onQueue (i : Nat) (a : Act Queue α) : Act (World β υ) α :=
  Act.onPart (fun w => w.queues.read i) (fun w q => { w with queues := w.queues.write i q }) a

/-- Runs an action on one service. -/
def onService (i : Nat) (a : Act β α) : Act (World β υ) α :=
  Act.onPart (fun w => w.services.read i) (fun w b => { w with services := w.services.write i b }) a

/-- Runs an action on the test's own state. -/
def onOwn (a : Act υ α) : Act (World β υ) α :=
  Act.onPart (fun w => w.own) (fun w u => { w with own := u }) a

/-- Hands out a cell number that was not used before. -/
def allocate : Act (World β υ) Nat := fun w =>
  ⟨.ok w.handedOut, { w with handedOut := w.handedOut + 1 }, []⟩

end World

end ServiceDoubles
