import ServiceDoubles.Proofs.Client

/-!
# ServiceDoubles.Proofs.Client.Orders

**Orders**: calls that are queued one after the other, each in a cell of its own choice. They are
one list, and each queue gets the part of it that is for its cell.

`World.Holds` is what stays true while the orders are called for from the front: the queues hold
what is left of the list.
-/

namespace ServiceDoubles

variable {β υ : Type}

/-- A stubbed call, and the cell of the queue that it is for. -/
abbrev Order : Type := Nat × StubbedCall

namespace World

/-- The calls that are for cell `k`. -/
def ordersFor (k : Nat) (orders : List Order) : List StubbedCall :=
  (orders.filter (·.1 = k)).map (·.2)

@[simp] theorem ordersFor_nil (k : Nat) : ordersFor k [] = [] := rfl

@[simp] theorem ordersFor_cons_self (k : Nat) (c : StubbedCall) (orders : List Order) :
    ordersFor k ((k, c) :: orders) = c :: ordersFor k orders := by
  rw [ordersFor, List.filter_cons_of_pos (by simp), List.map_cons, ordersFor]

theorem ordersFor_cons_of_ne {i k : Nat} (h : k ≠ i) (c : StubbedCall) (orders : List Order) :
    ordersFor k ((i, c) :: orders) = ordersFor k orders := by
  rw [ordersFor, List.filter_cons_of_neg (by simp [Ne.symm h]), ordersFor]

theorem ordersFor_map (k : Nat) (calls : List StubbedCall) :
    ordersFor k (calls.map fun c => (k, c)) = calls := by
  induction calls with
  | nil => rfl
  | cons c rest ih => rw [List.map_cons, ordersFor_cons_self, ih]

/-- The world with the orders queued, each in its own cell. -/
def pushAll (w : World β υ) (orders : List Order) : World β υ :=
  orders.foldl (fun w o => w.push o.1 o.2) w

@[simp] theorem pushAll_nil (w : World β υ) : w.pushAll [] = w := rfl

@[simp] theorem pushAll_cons (w : World β υ) (o : Order) (orders : List Order) :
    w.pushAll (o :: orders) = (w.push o.1 o.2).pushAll orders := rfl

@[simp] theorem services_pushAll (w : World β υ) (orders : List Order) :
    (w.pushAll orders).services = w.services := by
  induction orders generalizing w with
  | nil => rfl
  | cons o rest ih => exact ih (w.push o.1 o.2)

/-- A queue gets the calls that are for it, in order, behind those that it held. -/
theorem read_pushAll (w : World β υ) (orders : List Order) (k : Nat) :
    (w.pushAll orders).queues.read k = (w.queues.read k).extend (ordersFor k orders) := by
  induction orders generalizing w with
  | nil => exact (Queue.extend_nil _).symm
  | cons o rest ih =>
      obtain ⟨i, c⟩ := o
      rw [pushAll_cons, ih]
      by_cases hk : k = i
      · subst hk
        rw [push, read_withQueue_self, Queue.extend_push, ordersFor_cons_self]
      · rw [push, read_withQueue_of_ne _ _ hk, ordersFor_cons_of_ne hk]

/-- The queues of `w` hold what those of `base` do, and the orders behind that. -/
structure Holds (w base : World β υ) (orders : List Order) : Prop where
  calls_eq : ∀ k, (w.queues.read k).calls = (base.queues.read k).calls ++ ordersFor k orders
  active_eq : ∀ k, (w.queues.read k).active = (base.queues.read k).active

theorem holds_pushAll (base : World β υ) (orders : List Order) :
    (base.pushAll orders).Holds base orders where
  calls_eq k := by rw [read_pushAll, Queue.extend]
  active_eq k := by rw [read_pushAll, Queue.extend]

namespace Holds

variable {w base : World β υ} {i : Nat} {e : StubbedCall} {orders : List Order}

/-- The first order is at the head of its queue, if that was empty. -/
theorem calls_of_cons (h : w.Holds base ((i, e) :: orders))
    (hempty : (base.queues.read i).calls = []) :
    (w.queues.read i).calls = e :: ordersFor i orders := by
  rw [h.calls_eq i, hempty, List.nil_append, ordersFor_cons_self]

/-- Consuming the first order leaves the others. -/
theorem pop (h : w.Holds base ((i, e) :: orders)) (hempty : (base.queues.read i).calls = []) :
    (w.withQueue i (w.queues.read i).pop).Holds base orders := by
  constructor
  · intro k
    by_cases hk : k = i
    · subst hk
      rw [read_withQueue_self, Queue.pop_eq_of_calls (h.calls_of_cons hempty), hempty,
        List.nil_append]
    · rw [read_withQueue_of_ne _ _ hk, h.calls_eq k, ordersFor_cons_of_ne hk]
  · intro k
    by_cases hk : k = i
    · subst hk
      rw [read_withQueue_self]
      exact h.active_eq k
    · rw [read_withQueue_of_ne _ _ hk, h.active_eq k]

end Holds

end World

/-- A client whose queue was empty and active gets the reply of the first order. -/
theorem Client.effect_call_of_holds [Service β] {c : Client} {operation : String} {params : Json}
    {w base : World β υ} {e : StubbedCall} {orders : List Order}
    (hsupp : c.supports operation = true) (ha : (c.stubs base).active = true)
    (hempty : (c.stubs base).calls = []) (h : w.Holds base ((c.queue, e) :: orders))
    (hexp : e.Expects operation params) :
    ∃ w', (c.call operation params).effect w = (e.reply.outcome, w') ∧ w'.Holds base orders :=
  ⟨_, effect_call_of_expects hsupp ((h.active_eq c.queue).trans ha) (h.calls_of_cons hempty) hexp,
    h.pop hempty⟩

end ServiceDoubles
