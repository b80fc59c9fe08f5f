import ServiceDoubles.Act

/-!
# ServiceDoubles.Proofs.Effect

The **effect** of an action: how it ends and the state that it leaves, without the events that it
reports. Each way to build an action has one equation here, so that an action is executed
symbolically by rewriting with `effect_bind` and the equations of its steps.

Tests make many calls, one after the other. There are two ways to do so:

* `runEach` goes on whatever comes out of a call;
* `runWhileOk` stops behind the first call that gives no value.
-/

namespace ServiceDoubles.Act

variable {σ τ α β : Type}

/-- How an action ends, and the state that it leaves. -/
def effect (a : Act σ α) (s : σ) : Outcome α × σ := ((a s).outcome, (a s).state)

/-- Goes on with `f` after an effect. A fault or an unwinding is the end. -/
def goOn (f : α → σ → Outcome β × σ) : Outcome α × σ → Outcome β × σ
  | (.ok x, t) => f x t
  | (.fault cause, t) => (.fault cause, t)
  | (.unwound reason, t) => (.unwound reason, t)

@[simp] theorem goOn_ok (f : α → σ → Outcome β × σ) (x : α) (t : σ) :
    goOn f (.ok x, t) = f x t := rfl

@[simp] theorem goOn_fault (f : α → σ → Outcome β × σ) (cause : Fault) (t : σ) :
    goOn f (.fault cause, t) = (.fault cause, t) := rfl

@[simp] theorem goOn_unwound (f : α → σ → Outcome β × σ) (reason : String) (t : σ) :
    goOn f (.unwound reason, t) = (.unwound reason, t) := rfl

/-! ### The effects of the ways to build actions -/

@[simp] theorem effect_pure (x : α) (s : σ) : (Pure.pure x : Act σ α).effect s = (.ok x, s) := rfl

theorem effect_bind (a : Act σ α) (f : α → Act σ β) (s : σ) :
    (a >>= f).effect s = goOn (fun x => (f x).effect) (a.effect s) := by
  change (Act.bind a f).effect s = _
  unfold effect Act.bind
  rcases a s with ⟨o, t, es⟩
  cases o <;> rfl

/-- Two actions give a value only if each of them does. -/
theorem exists_effect_of_bind {a : Act σ α} {f : α → Act σ β} {s t : σ} {y : β}
    (h : (a >>= f).effect s = (.ok y, t)) :
    ∃ x u, a.effect s = (.ok x, u) ∧ (f x).effect u = (.ok y, t) := by
  rw [effect_bind] at h
  rcases heff : a.effect s with ⟨o, u⟩
  rw [heff] at h
  cases o with
  | ok x => exact ⟨x, u, rfl, h⟩
  | fault cause => cases h
  | unwound reason => cases h

/-- What leaves every state as it is does nothing to the state of what goes before. -/
theorem state_bind_of_keeps (a : Act σ α) {f : α → Act σ β} (h : ∀ x t, ((f x).effect t).2 = t)
    (s : σ) : ((a >>= f).effect s).2 = (a.effect s).2 := by
  rw [effect_bind]
  rcases a.effect s with ⟨o, t⟩
  cases o with
  | ok x => exact h x t
  | fault cause => rfl
  | unwound reason => rfl

/-- Leaving out the value changes nothing else. -/
theorem state_discard (a : Act σ α) (s : σ) :
    ((do let _ ← a : Act σ Unit).effect s).2 = (a.effect s).2 :=
  state_bind_of_keeps a (fun _ _ => rfl) s

theorem effect_map (f : α → β) (a : Act σ α) (s : σ) :
    (do return f (← a) : Act σ β).effect s = ((a.effect s).1.map f, (a.effect s).2) := by
  rw [effect_bind]
  rcases a.effect s with ⟨o, t⟩
  cases o <;> rfl

@[simp] theorem effect_fail (cause : Fault) (s : σ) :
    (fail cause : Act σ α).effect s = (.fault cause, s) := rfl

@[simp] theorem effect_get (s : σ) : (get : Act σ σ).effect s = (.ok s, s) := rfl

@[simp] theorem effect_modify (f : σ → σ) (s : σ) : (modify f).effect s = (.ok (), f s) := rfl

@[simp] theorem effect_report (e : Event) (s : σ) : (report e).effect s = (.ok (), s) := rfl

@[simp] theorem effect_ofExcept (e : Except Fault α) (s : σ) :
    (ofExcept e).effect s = (Outcome.ofExcept e, s) := rfl

@[simp] theorem effect_settle (a : Act σ α) (s : σ) :
    (settle a).effect s = (.ok (a.effect s).1, (a.effect s).2) := rfl

theorem effect_attempt (a : Act σ α) (s : σ) :
    (attempt a).effect s =
      match a.effect s with
      | (.ok x, t) => (.ok (.ok x), t)
      | (.fault cause, t) => (.ok (.error cause), t)
      | (.unwound reason, t) => (.unwound reason, t) := by
  unfold effect attempt
  rcases a s with ⟨o, t, es⟩
  cases o <;> rfl

theorem effect_onPart (part : σ → τ) (replace : σ → τ → σ) (a : Act τ α) (s : σ) :
    (onPart part replace a).effect s =
      ((a.effect (part s)).1, replace s (a.effect (part s)).2) := rfl

/-! ### Actions that only give a value -/

/-- The action gives `x` in every state, and leaves the state as it is. -/
def Idle (a : Act σ α) (x : α) : Prop := ∀ s, a.effect s = (.ok x, s)

theorem idle_pure (x : α) : (Pure.pure x : Act σ α).Idle x := fun _ => rfl

theorem Idle.bind {a : Act σ α} {x : α} {f : α → Act σ β} {y : β} (ha : a.Idle x)
    (hf : (f x).Idle y) : (a >>= f).Idle y := by
  intro s
  rw [effect_bind, ha s, goOn_ok, hf s]

theorem Idle.map {a : Act σ α} {x : α} (ha : a.Idle x) (f : α → β) :
    (do return f (← a) : Act σ β).Idle (f x) :=
  ha.bind (idle_pure (f x))

/-- An action on a part that it leaves alone leaves the whole alone. -/
theorem Idle.onPart {part : σ → τ} {replace : σ → τ → σ} {a : Act τ α} {x : α} (ha : a.Idle x)
    (hpart : ∀ s, replace s (part s) = s) : (onPart part replace a).Idle x := by
  intro s
  rw [effect_onPart, ha, hpart]

theorem Idle.attempt {a : Act σ α} {x : α} (ha : a.Idle x) : (attempt a).Idle (.ok x) := by
  intro s
  rw [effect_attempt, ha s]

theorem Idle.settle {a : Act σ α} {x : α} (ha : a.Idle x) : (settle a).Idle (.ok x) := by
  intro s
  rw [effect_settle, ha s]

/-! ### Actions that never fail -/

theorem Unfailing.effect_cases {a : Act σ α} (ha : a.Unfailing) (s : σ) :
    (∃ x t, a.effect s = (.ok x, t)) ∨ ∃ reason t, a.effect s = (.unwound reason, t) := by
  rcases heff : a.effect s with ⟨o, t⟩
  cases o with
  | ok x => exact .inl ⟨x, t, rfl⟩
  | fault cause => exact absurd (congrArg Prod.fst heff) (ha s cause)
  | unwound reason => exact .inr ⟨reason, t, rfl⟩

/-! ### Whole runs

Where the events matter too, an action is executed by the equation for the way in which it ends. -/

/-- What an action does, the events included. -/
def run (a : Act σ α) (s : σ) : Run σ α := a s

theorem effect_of_run {a : Act σ α} {s t : σ} {o : Outcome α} {es : List Event}
    (h : a.run s = ⟨o, t, es⟩) : a.effect s = (o, t) := by
  change ((a.run s).outcome, (a.run s).state) = _
  rw [h]

theorem run_of_effect {a : Act σ α} {s t : σ} {o : Outcome α} (h : a.effect s = (o, t)) :
    (a.run s).outcome = o ∧ (a.run s).state = t :=
  ⟨congrArg Prod.fst h, congrArg Prod.snd h⟩

@[simp] theorem run_pure (x : α) (s : σ) : (Pure.pure x : Act σ α).run s = ⟨.ok x, s, []⟩ := rfl

@[simp] theorem run_report (e : Event) (s : σ) : (report e).run s = ⟨.ok (), s, [e]⟩ := rfl

@[simp] theorem run_unwind (reason : String) (s : σ) :
    (unwind reason : Act σ α).run s = ⟨.unwound reason, s, []⟩ := rfl

@[simp] theorem run_ofExcept (e : Except Fault α) (s : σ) :
    (ofExcept e).run s = ⟨Outcome.ofExcept e, s, []⟩ := rfl

@[simp] theorem run_ofOutcome (o : Outcome α) (s : σ) : (ofOutcome o).run s = ⟨o, s, []⟩ := rfl

theorem run_settle {a : Act σ α} {s t : σ} {o : Outcome α} {es : List Event}
    (h : a.run s = ⟨o, t, es⟩) : (settle a).run s = ⟨.ok o, t, es⟩ := by
  change (⟨.ok (a.run s).outcome, (a.run s).state, (a.run s).events⟩ : Run σ (Outcome α)) = _
  rw [h]

theorem run_bind_of_ok {a : Act σ α} {s t : σ} {x : α} {es : List Event}
    (h : a.run s = ⟨.ok x, t, es⟩) (f : α → Act σ β) :
    (a >>= f).run s = ⟨((f x).run t).outcome, ((f x).run t).state, es ++ ((f x).run t).events⟩ := by
  change Act.bind a f s = _
  unfold run at h
  simp only [Act.bind, h, run]

theorem run_bind_of_fault {a : Act σ α} {s t : σ} {cause : Fault} {es : List Event}
    (h : a.run s = ⟨.fault cause, t, es⟩) (f : α → Act σ β) :
    (a >>= f).run s = ⟨.fault cause, t, es⟩ := by
  change Act.bind a f s = _
  unfold run at h
  simp only [Act.bind, h]

theorem run_bind_of_unwound {a : Act σ α} {s t : σ} {reason : String} {es : List Event}
    (h : a.run s = ⟨.unwound reason, t, es⟩) (f : α → Act σ β) :
    (a >>= f).run s = ⟨.unwound reason, t, es⟩ := by
  change Act.bind a f s = _
  unfold run at h
  simp only [Act.bind, h]

theorem run_attempt_of_ok {a : Act σ α} {s t : σ} {x : α} {es : List Event}
    (h : a.run s = ⟨.ok x, t, es⟩) : (attempt a).run s = ⟨.ok (.ok x), t, es⟩ := by
  unfold run at h
  simp only [run, attempt, h]

theorem run_attempt_of_fault {a : Act σ α} {s t : σ} {cause : Fault} {es : List Event}
    (h : a.run s = ⟨.fault cause, t, es⟩) : (attempt a).run s = ⟨.ok (.error cause), t, es⟩ := by
  unfold run at h
  simp only [run, attempt, h]

theorem run_attempt_of_unwound {a : Act σ α} {s t : σ} {reason : String} {es : List Event}
    (h : a.run s = ⟨.unwound reason, t, es⟩) :
    (attempt a).run s = ⟨.unwound reason, t, es⟩ := by
  unfold run at h
  simp only [run, attempt, h]

theorem events_bind (a : Act σ α) (f : α → Act σ β) (s : σ) :
    ((a >>= f).run s).events =
      (a.run s).events ++
        match (a.run s).outcome with
        | .ok x => ((f x).run (a.run s).state).events
        | _ => [] := by
  change (Act.bind a f s).events = _
  unfold Act.bind run
  rcases a s with ⟨o, t, es⟩
  cases o with
  | ok x => rfl
  | fault cause => exact (List.append_nil es).symm
  | unwound reason => exact (List.append_nil es).symm

theorem run_discard (a : Act σ α) (s : σ) :
    (do let _ ← a : Act σ Unit).run s =
      ⟨(a.run s).outcome.map fun _ => (), (a.run s).state, (a.run s).events⟩ := by
  change Act.bind a (fun _ => Act.pure ()) s = _
  unfold Act.bind run
  rcases a s with ⟨o, t, es⟩
  cases o with
  | ok x => exact congrArg (Run.mk _ t) (List.append_nil es)
  | fault cause => rfl
  | unwound reason => rfl

theorem run_onPart {part : σ → τ} {replace : σ → τ → σ} {a : Act τ α} {s : σ} {t : τ}
    {o : Outcome α} {es : List Event} (h : a.run (part s) = ⟨o, t, es⟩) :
    (onPart part replace a).run s = ⟨o, replace s t, es⟩ := by
  unfold run at h
  simp only [run, onPart, h]

/-! ### Many actions, one after the other -/

/-- Runs all actions in order, whatever comes out of each: the outcomes, and the state at the
end. -/
def runEach : List (Act σ α) → σ → List (Outcome α) × σ
  | [], s => ([], s)
  | a :: rest, s =>
    let later := runEach rest (a.effect s).2
    ((a.effect s).1 :: later.1, later.2)

@[simp] theorem runEach_nil (s : σ) : runEach ([] : List (Act σ α)) s = ([], s) := rfl

theorem runEach_cons (a : Act σ α) (rest : List (Act σ α)) (s : σ) :
    runEach (a :: rest) s =
      ((a.effect s).1 :: (runEach rest (a.effect s).2).1, (runEach rest (a.effect s).2).2) := rfl

theorem state_runEach_append (as bs : List (Act σ α)) (s : σ) :
    (runEach (as ++ bs) s).2 = (runEach bs (runEach as s).2).2 := by
  induction as generalizing s with
  | nil => rfl
  | cons a rest ih => exact ih (a.effect s).2

/-- Runs actions in order up to the first that gives no value: the outcomes so far, the last one
included, and the state at the end. -/
def runWhileOk : List (Act σ α) → σ → List (Outcome α) × σ
  | [], s => ([], s)
  | a :: rest, s =>
    match a.effect s with
    | (.ok x, t) =>
      let later := runWhileOk rest t
      (.ok x :: later.1, later.2)
    | (o, t) => ([o], t)

@[simp] theorem runWhileOk_nil (s : σ) : runWhileOk ([] : List (Act σ α)) s = ([], s) := rfl

theorem runWhileOk_cons_ok {a : Act σ α} {s t : σ} {x : α} (h : a.effect s = (.ok x, t))
    (rest : List (Act σ α)) :
    runWhileOk (a :: rest) s = (.ok x :: (runWhileOk rest t).1, (runWhileOk rest t).2) := by
  simp only [runWhileOk, h]

theorem runWhileOk_cons_fault {a : Act σ α} {s t : σ} {cause : Fault}
    (h : a.effect s = (.fault cause, t)) (rest : List (Act σ α)) :
    runWhileOk (a :: rest) s = ([.fault cause], t) := by
  simp only [runWhileOk, h]

theorem runWhileOk_cons_of_not_ok {a : Act σ α} {s : σ} (h : ∀ x, (a.effect s).1 ≠ .ok x)
    (rest : List (Act σ α)) : runWhileOk (a :: rest) s = ([(a.effect s).1], (a.effect s).2) := by
  rcases heff : a.effect s with ⟨o, t⟩
  cases o with
  | ok x => exact absurd (congrArg Prod.fst heff) (h x)
  | fault cause => simp only [runWhileOk, heff]
  | unwound reason => simp only [runWhileOk, heff]

/-! ### Leaving out what only gives a value -/

section

variable {ι : Type} {keep : ι → Bool} {act : ι → Act σ α}

/-- What came out of the steps that are kept. -/
def kept (keep : ι → Bool) (steps : List ι) (outcomes : List (Outcome α)) : List (Outcome α) :=
  ((steps.zip outcomes).filter fun x => keep x.1).map (·.2)

@[simp] theorem kept_cons (i : ι) (steps : List ι) (o : Outcome α) (outcomes : List (Outcome α)) :
    kept keep (i :: steps) (o :: outcomes) =
      if keep i then o :: kept keep steps outcomes else kept keep steps outcomes := by
  unfold kept
  rw [List.zip_cons_cons, List.filter_cons]
  split <;> rfl

/-- Steps that only give a value can be left out of a run: the others come out the same, and so
does the state at the end. -/
theorem runEach_filter (hidle : ∀ i, keep i = false → ∃ x, (act i).Idle x) (steps : List ι)
    (s : σ) :
    runEach ((steps.filter keep).map act) s =
      (kept keep steps (runEach (steps.map act) s).1, (runEach (steps.map act) s).2) := by
  induction steps generalizing s with
  | nil => rfl
  | cons i rest ih =>
      rw [List.map_cons, runEach_cons, kept_cons]
      cases hi : keep i with
      | true =>
          rw [List.filter_cons_of_pos hi, List.map_cons, runEach_cons, ih]
          rfl
      | false =>
          obtain ⟨x, hx⟩ := hidle i hi
          rw [List.filter_cons_of_neg (by simp [hi]), hx s, ih]
          rfl

/-- The same holds of a run that stops at the first step that gives no value. -/
theorem runWhileOk_filter (hidle : ∀ i, keep i = false → ∃ x, (act i).Idle x) (steps : List ι)
    (s : σ) :
    runWhileOk ((steps.filter keep).map act) s =
      (kept keep steps (runWhileOk (steps.map act) s).1, (runWhileOk (steps.map act) s).2) := by
  induction steps generalizing s with
  | nil => rfl
  | cons i rest ih =>
      rw [List.map_cons]
      cases hi : keep i with
      | false =>
          obtain ⟨x, hx⟩ := hidle i hi
          rw [List.filter_cons_of_neg (by simp [hi]), runWhileOk_cons_ok (hx s), ih, kept_cons, hi]
          rfl
      | true =>
          rw [List.filter_cons_of_pos hi, List.map_cons]
          rcases heff : (act i).effect s with ⟨o, t⟩
          by_cases hok : ∃ x, o = .ok x
          · obtain ⟨x, rfl⟩ := hok
            rw [runWhileOk_cons_ok heff, runWhileOk_cons_ok heff, ih, kept_cons, if_pos hi]
          · have hnot : ∀ x, ((act i).effect s).1 ≠ .ok x := by
              intro x hx
              exact hok ⟨x, by rw [heff] at hx; exact hx⟩
            rw [runWhileOk_cons_of_not_ok hnot, runWhileOk_cons_of_not_ok hnot, kept_cons,
              if_pos hi]
            cases rest <;> rfl

end

end ServiceDoubles.Act
