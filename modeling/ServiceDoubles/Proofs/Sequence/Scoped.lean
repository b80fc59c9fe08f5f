import ServiceDoubles.Proofs.Sequence.Walk

/-!
# ServiceDoubles.Proofs.Sequence.Scoped

**Scoped runners run once.** Whatever way a scoped runner goes away, it does what a single run of it
does; the ways differ only in what becomes of a failure (`run_finish`, `run_drop`,
`run_dropUnwinding`). Until then its entries are only collected.

A body that fills a runner is a list of steps (`Filling`): it adds entries, and does anything else
that does not run the runner. As in `Sequence.Walk` the entries note their invocations, here from the
moment they are added. So a body that invoked one of them would leave a trace in the journal.
-/

namespace ServiceDoubles.Runner

variable {σ : Type}

/-! ### The ways to go away -/

/-- How the runner's going away ends on a normal path: a failure unwinds the test. -/
def dropEnding : Outcome Nat → Outcome Unit
  | .ok _ => .ok ()
  | .fault cause => .unwound ("Stub runner failed: " ++ cause.message)
  | .unwound reason => .unwound reason

/-- What is reported of a run that failed while the test unwinds. -/
def lost : Outcome Nat → List Event
  | .fault cause => [lostEvent cause]
  | _ => []

/-- The run came to its end, well or with a failure: no entry unwound it. -/
def Returned (o : Outcome Nat) : Prop := ∀ reason, o ≠ .unwound reason

theorem dropEnding_unwound_iff (o : Outcome Nat) :
    (∃ reason, dropEnding o = .unwound reason) ↔ ∀ n, o ≠ .ok n := by
  cases o <;> simp [dropEnding]

section

variable (r : Runner σ) (s : σ)

/-- A runner that is done does nothing when it goes away. -/
theorem run_release_done :
    (r.release true).run s = ⟨.ok (), s, []⟩ ∧ (r.releaseUnwinding true).run s = ⟨.ok (), s, []⟩ :=
  ⟨rfl, rfl⟩

/-- `finish` is a run: the runner is done when it goes away, however the run ended. -/
theorem run_finish : r.finish.run s = r.run.run s := by
  rcases hrun : r.run.run s with ⟨o, t, es⟩
  rw [finish, Act.run_bind_of_ok (Act.run_settle hrun)]
  cases o <;> exact congrArg (Run.mk _ t) (List.append_nil es)

theorem run_drop :
    r.drop.run s =
      ⟨dropEnding (r.run.run s).outcome, (r.run.run s).state, (r.run.run s).events⟩ := by
  rcases hrun : r.run.run s with ⟨o, t, es⟩
  rw [drop, release, if_neg Bool.false_ne_true]
  cases o with
  | ok n =>
      rw [Act.run_bind_of_ok (Act.run_attempt_of_ok hrun)]
      exact congrArg (Run.mk _ t) (List.append_nil es)
  | fault cause =>
      rw [Act.run_bind_of_ok (Act.run_attempt_of_fault hrun)]
      exact congrArg (Run.mk _ t) (List.append_nil es)
  | unwound reason => exact Act.run_bind_of_unwound (Act.run_attempt_of_unwound hrun) _

theorem run_dropUnwinding (h : Returned (r.run.run s).outcome) :
    r.dropUnwinding.run s =
      ⟨.ok (), (r.run.run s).state, (r.run.run s).events ++ lost (r.run.run s).outcome⟩ := by
  rcases hrun : r.run.run s with ⟨o, t, es⟩
  rw [hrun] at h
  rw [dropUnwinding, releaseUnwinding, if_neg Bool.false_ne_true]
  cases o with
  | ok n => exact Act.run_bind_of_ok (Act.run_attempt_of_ok hrun) _
  | fault cause => exact Act.run_bind_of_ok (Act.run_attempt_of_fault hrun) _
  | unwound reason => exact absurd rfl (h reason)

end

/-! ### Bodies -/

/-- A step of a body that fills a runner. -/
inductive Filling (σ : Type) where
  | add (service : String) (entry : Entry σ)
  /-- Anything else, but for runs of the runner. -/
  | other (act : Act σ Unit)

namespace Filling

def act : Filling σ → Act (Runner σ × σ) Unit
  | add service e => Act.modify fun x => (x.1.addFor service e, x.2)
  | other a => Act.onPart (·.2) (fun x t => (x.1, t)) a

/-- The entry that the step adds. -/
def entry? : Filling σ → Option (RunnerEntry σ)
  | add service e => some ⟨service, e⟩
  | other _ => none

end Filling

/-- The steps one after the other, up to the first that does not go well. -/
def fill : List (Filling σ) → Act (Runner σ × σ) Unit
  | [] => return ()
  | x :: rest => do
    x.act
    fill rest

/-- The steps, adding entries that note their invocations. The first entry has the place
`first`. -/
def notingSteps : Nat → List (Filling σ) → List (Filling (σ × Journal))
  | _, [] => []
  | first, .add service e :: rest =>
    .add service (e.noting first) :: notingSteps (first + 1) rest
  | first, .other a :: rest =>
    .other (Act.onPart (·.1) (fun x t => (t, x.2)) a) :: notingSteps first rest

theorem noting_addFor (r : Runner σ) (service : String) (e : Entry σ) :
    (r.addFor service e).noting = r.noting.addFor service (e.noting r.entries.length) := by
  simp [noting, addFor, List.zipIdx_append]

theorem fill_cons_of_ok {x : Filling σ} {rest : List (Filling σ)} {p q : Runner σ × σ}
    {es : List Event} (h : x.act.run p = ⟨.ok (), q, es⟩) :
    (fill (x :: rest)).run p =
      ⟨((fill rest).run q).outcome, ((fill rest).run q).state,
        es ++ ((fill rest).run q).events⟩ :=
  Act.run_bind_of_ok h _

/-- Filling a runner invokes none of its entries, and noting changes nothing else. -/
theorem run_fill_noting (steps : List (Filling σ)) (r : Runner σ) (s : σ) (journal : Journal) :
    (fill (notingSteps r.entries.length steps)).run (r.noting, (s, journal)) =
      let filled := (fill steps).run (r, s)
      ⟨filled.outcome, (filled.state.1.noting, (filled.state.2, journal)), filled.events⟩ := by
  induction steps generalizing r s with
  | nil => rfl
  | cons x rest ih =>
      cases x with
      | add service e =>
          have hadd : (Filling.add service (e.noting r.entries.length)).act.run
              (r.noting, (s, journal)) =
                ⟨.ok (), ((r.addFor service e).noting, (s, journal)), []⟩ := by
            rw [noting_addFor]
            rfl
          have hlater := ih (r.addFor service e) s
          have hlength : (r.addFor service e).entries.length = r.entries.length + 1 := by
            simp [addFor]
          rw [hlength] at hlater
          rw [notingSteps, fill_cons_of_ok hadd, hlater]
          rfl
      | other a =>
          rcases hrun : a.run s with ⟨o, t, es⟩
          have hplain : (Filling.other a).act.run (r, s) = ⟨o, (r, t), es⟩ := Act.run_onPart hrun
          have hnoted : (Filling.other (Act.onPart (·.1) (fun x t => (t, x.2)) a)).act.run
              (r.noting, (s, journal)) = ⟨o, (r.noting, (t, journal)), es⟩ :=
            Act.run_onPart (Act.run_onPart hrun)
          rw [notingSteps]
          cases o with
          | ok => rw [fill_cons_of_ok hnoted, fill_cons_of_ok hplain, ih]
          | fault cause =>
              rw [fill, fill, Act.run_bind_of_fault hnoted, Act.run_bind_of_fault hplain]
          | unwound reason =>
              rw [fill, fill, Act.run_bind_of_unwound hnoted, Act.run_bind_of_unwound hplain]

/-- A filled runner holds the entries of the steps that were made, in order: of all steps if the
body went well. -/
theorem entries_fill (steps : List (Filling σ)) (r : Runner σ) (s : σ) :
    let filled := (fill steps).run (r, s)
    ∃ made, made <+: steps ∧ (filled.outcome = .ok () → made = steps) ∧
      filled.state.1 = { r with entries := r.entries ++ made.filterMap Filling.entry? } := by
  induction steps generalizing r s with
  | nil => exact ⟨[], List.prefix_rfl, fun _ => rfl, by simp [fill]⟩
  | cons x rest ih =>
      cases x with
      | add service e =>
          have hadd : (Filling.add service e).act.run (r, s) =
              ⟨.ok (), (r.addFor service e, s), []⟩ := rfl
          obtain ⟨made, hmade, hall, hr⟩ := ih (r.addFor service e) s
          rw [fill_cons_of_ok hadd]
          refine ⟨.add service e :: made, (List.prefix_cons_inj _).mpr hmade,
            fun hok => congrArg _ (hall hok), hr.trans ?_⟩
          simp [addFor, Filling.entry?]
      | other a =>
          rcases hrun : a.run s with ⟨o, t, es⟩
          have hact : (Filling.other a).act.run (r, s) = ⟨o, (r, t), es⟩ := Act.run_onPart hrun
          cases o with
          | ok =>
              obtain ⟨made, hmade, hall, hr⟩ := ih r t
              rw [fill_cons_of_ok hact]
              exact ⟨.other a :: made, (List.prefix_cons_inj _).mpr hmade,
                fun hok => congrArg _ (hall hok), hr⟩
          | fault cause =>
              rw [fill, Act.run_bind_of_fault hact]
              exact ⟨[], List.nil_prefix, nofun, by simp⟩
          | unwound reason =>
              rw [fill, Act.run_bind_of_unwound hact]
              exact ⟨[], List.nil_prefix, nofun, by simp⟩

/-! ### Bodies that fill a runner -/

section

variable {code stop : Option String} {body : Act (Runner σ × σ) Unit} {s t : σ} {r : Runner σ}
  {es : List Event}

theorem run_within_of_ok (h : body.run ({ code, stopMethod := stop }, s) = ⟨.ok (), (r, t), es⟩) :
    (within code stop body).run s =
      ⟨(r.run.run t).outcome, (r.run.run t).state, es ++ (r.run.run t).events⟩ := by
  have hbeside : (beside ({ code, stopMethod := stop } : Runner σ) body).run s =
      ⟨.ok (.ok (), r), t, es⟩ := by
    unfold Act.run at h
    simp only [Act.run, beside, h]
  rw [within, Act.run_bind_of_ok hbeside]
  change (⟨(r.finish.run t).outcome, (r.finish.run t).state, es ++ (r.finish.run t).events⟩ :
    Run σ Nat) = _
  rw [run_finish]

theorem run_within_of_unwound {reason : String}
    (h : body.run ({ code, stopMethod := stop }, s) = ⟨.unwound reason, (r, t), es⟩)
    (hreturned : Returned (r.run.run t).outcome) :
    (within code stop body).run s =
      ⟨.unwound reason, (r.run.run t).state,
        es ++ (r.run.run t).events ++ lost (r.run.run t).outcome⟩ := by
  have hbeside : (beside ({ code, stopMethod := stop } : Runner σ) body).run s =
      ⟨.ok (.unwound reason, r), t, es⟩ := by
    unfold Act.run at h
    simp only [Act.run, beside, h]
  rw [within, Act.run_bind_of_ok hbeside]
  change (⟨((do r.dropUnwinding; Act.unwind reason : Act σ Nat).run t).outcome,
    ((do r.dropUnwinding; Act.unwind reason : Act σ Nat).run t).state,
    es ++ ((do r.dropUnwinding; Act.unwind reason : Act σ Nat).run t).events⟩ : Run σ Nat) = _
  rw [Act.run_bind_of_ok (run_dropUnwinding r t hreturned), Act.run_unwind, List.append_nil,
    List.append_assoc]

end

/-- A body fills a scoped runner; no entry is invoked by that. When the runner goes away, what takes
place is exactly a single run over the entries that were added so far, whichever way it goes: through
`finish`, on a normal path, while the test unwinds, or behind a body that returns or unwinds. Nothing
more takes place when the runner goes away after `finish`, however the run ended. `finish` and a body
that returns give what comes out of the run. On a normal path the test unwinds exactly if the run did
not go well, and while the test unwinds a failure is only reported. -/
theorem scoped_runner_runs_once (code stop : Option String) (steps : List (Filling σ)) (s : σ) :
    let filled := (fill steps).run ({ code, stopMethod := stop }, s)
    let r := filled.state.1
    let t := filled.state.2
    let body : Act (Runner (σ × Journal) × (σ × Journal)) Unit := fill (notingSteps 0 steps)
    let ran := r.noting.run.run (t, [])
    body.run ({ code, stopMethod := stop }, (s, [])) =
      ⟨filled.outcome, (r.noting, (t, [])), filled.events⟩ ∧
    (∃ made, made <+: steps ∧ (filled.outcome = .ok () → made = steps) ∧
      r = { code, stopMethod := stop, entries := made.filterMap Filling.entry? }) ∧
    r.run.effect t = (ran.outcome, ran.state.1) ∧
    r.noting.finish.run (t, []) = ran ∧
    (∀ u, (r.noting.release true).run u = ⟨.ok (), u, []⟩ ∧
      (r.noting.releaseUnwinding true).run u = ⟨.ok (), u, []⟩) ∧
    r.noting.drop.run (t, []) = ⟨dropEnding ran.outcome, ran.state, ran.events⟩ ∧
    ((∃ reason, dropEnding ran.outcome = .unwound reason) ↔ ∀ n, ran.outcome ≠ .ok n) ∧
    (Returned ran.outcome →
      r.noting.dropUnwinding.run (t, []) =
        ⟨.ok (), ran.state, ran.events ++ lost ran.outcome⟩) ∧
    (filled.outcome = .ok () →
      (within code stop body).run (s, []) =
        ⟨ran.outcome, ran.state, filled.events ++ ran.events⟩) ∧
    (∀ reason, filled.outcome = .unwound reason → Returned ran.outcome →
      (within code stop body).run (s, []) =
        ⟨.unwound reason, ran.state, filled.events ++ ran.events ++ lost ran.outcome⟩) := by
  intro filled r t body ran
  have hbody : body.run ({ code, stopMethod := stop }, (s, [])) =
      ⟨filled.outcome, (r.noting, (t, [])), filled.events⟩ :=
    run_fill_noting steps { code, stopMethod := stop } s []
  refine ⟨hbody, ?made, ?same, run_finish _ _, run_release_done _, run_drop _ _,
    dropEnding_unwound_iff _, run_dropUnwinding _ _, ?returns, ?unwinds⟩
  case made =>
    obtain ⟨made, hmade, hall, hr⟩ := entries_fill steps { code, stopMethod := stop } s
    exact ⟨made, hmade, hall, hr.trans (by simp)⟩
  case same =>
    have hnoting := r.effect_run_noting t
    exact Prod.ext (congrArg Prod.fst hnoting).symm (congrArg (·.2.1) hnoting).symm
  case returns =>
    intro hok
    rw [hok] at hbody
    exact run_within_of_ok hbody
  case unwinds =>
    intro reason hunwound hreturned
    rw [hunwound] at hbody
    exact run_within_of_unwound hbody hreturned

/-- A body adds an entry that fails and unwinds before it adds another one. The first runs none the
less, and its failure is only reported. -/
theorem scoped_runner_runs_once_unwinding :
    let failing : Entry Nat := ⟨"a", fun _ n => ⟨.fault (.config "lost"), n + 1, []⟩⟩
    let steps : List (Filling Nat) :=
      [.add "s3" failing, .other (Act.unwind "stop"), .add "s3" failing]
    let ran := (within none none (fill (notingSteps 0 steps))).run (0, [])
    ran.outcome = .unwound "stop" ∧ ran.state = (1, [(0, none)]) ∧
      ran.events = [addingEvent "s3" "a" none, lostEvent (.config "lost")] := by
  intro failing steps ran
  obtain ⟨-, -, -, -, -, -, -, -, -, hunwinds⟩ := scoped_runner_runs_once none none steps 0
  have hran := hunwinds "stop" rfl nofun
  exact ⟨congrArg Run.outcome hran, congrArg Run.state hran, congrArg Run.events hran⟩

end ServiceDoubles.Runner
