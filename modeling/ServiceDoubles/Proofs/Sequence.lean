import ServiceDoubles.Proofs.Effect
import ServiceDoubles.Runner

/-!
# ServiceDoubles.Proofs.Sequence

The effects of **sequences and runners**. Each of them has one equation for its first entry, and a
runner with a code that counts does what the sequence does that fails at the same entries.
-/

namespace ServiceDoubles

variable {σ : Type}

/-- How a run goes on behind an entry: it ends there, or counts on from what runs `later`. -/
def countOn (ends : Bool) (later : σ → Outcome Nat × σ) (s : σ) : Outcome Nat × σ :=
  if ends then (.ok 1, s) else Act.goOn (fun n t => (.ok (n + 1), t)) (later s)

theorem countOn_of_ends (later : σ → Outcome Nat × σ) (s : σ) :
    countOn true later s = (.ok 1, s) := rfl

theorem countOn_of_goes_on {later : σ → Outcome Nat × σ} {s t : σ} {n : Nat}
    (h : later s = (.ok n, t)) : countOn false later s = (.ok (n + 1), t) := by
  simp only [countOn, Bool.false_eq_true, if_false, h, Act.goOn_ok]

/-! ### Sequences -/

namespace RunOptions

variable (o : RunOptions)

theorem codeFor_of_failing {name : String} (h : o.failing = some name) :
    o.codeFor name = some o.code :=
  if_pos h

theorem codeFor_of_not_failing {name : String} (h : o.failing ≠ some name) :
    o.codeFor name = none :=
  if_neg h

/-- A code ends a sequence that stops on errors, unless it is empty. -/
theorem endsAfter_some {code : String} (hstop : o.stopOnError = true) (hcode : code ≠ "") :
    o.endsAfter (some code) = true := by
  simp [endsAfter, hstop, hcode]

theorem endsAfter_none (halways : o.stopAlways = false) : o.endsAfter none = false := by
  simp [endsAfter, halways]

end RunOptions

namespace Sequence

theorem effect_run_cons (o : RunOptions) (e : Entry σ) (rest : List (Entry σ)) (s : σ) :
    (run o (e :: rest)).effect s =
      Act.goOn (fun _ => countOn (o.endsAfter (o.codeFor e.name)) (run o rest).effect)
        ((e.invoke (o.codeFor e.name)).effect s) := by
  simp only [run, Act.effect_bind, Act.effect_report, Act.goOn_ok]
  congr 1
  funext _ t
  unfold countOn
  split
  · rfl
  · rw [Act.effect_bind]
    rfl

end Sequence

/-! ### Runners -/

namespace Runner

theorem effect_runEntries_cons (code stop : Option String) (e : RunnerEntry σ)
    (rest : List (RunnerEntry σ)) (s : σ) :
    (runEntries code stop (e :: rest)).effect s =
      Act.goOn (fun _ => countOn (stop = some e.entry.name) (runEntries code stop rest).effect)
        ((e.entry.invoke (if stop = some e.entry.name then code else none)).effect s) := by
  simp only [runEntries, Act.effect_bind, Act.effect_report, Act.goOn_ok]
  congr 1
  funext _ t
  unfold countOn
  simp only [decide_eq_true_eq]
  split
  · rfl
  · rw [Act.effect_bind]
    rfl

/-- The warning changes nothing. -/
theorem effect_run (r : Runner σ) (s : σ) :
    r.run.effect s = (runEntries r.code r.stopMethod r.entries).effect s := by
  have hwarn : r.warnUnmatched.effect s = (.ok (), s) := by
    unfold warnUnmatched
    cases r.stopMethod with
    | none => rfl
    | some stop =>
        dsimp only
        split <;> rfl
  simp only [run, Act.effect_bind, hwarn, Act.goOn_ok]

/-- A runner with a code that counts ends where the sequence ends that gives the code to the same
entries. -/
theorem effect_runEntries_eq_run {code : String} (hcode : code ≠ "") (stop : Option String)
    (entries : List (RunnerEntry σ)) (s : σ) :
    (runEntries (some code) stop entries).effect s =
      (Sequence.run { failing := stop, code } (entries.map (·.entry))).effect s := by
  induction entries generalizing s with
  | nil => rfl
  | cons e rest ih =>
      have hends : RunOptions.endsAfter { failing := stop, code }
          (if stop = some e.entry.name then some code else none) =
            decide (stop = some e.entry.name) := by
        by_cases hstop : stop = some e.entry.name
        · rw [if_pos hstop, RunOptions.endsAfter_some _ rfl hcode, decide_eq_true hstop]
        · rw [if_neg hstop, RunOptions.endsAfter_none _ rfl, decide_eq_false hstop]
      rw [effect_runEntries_cons, List.map_cons, Sequence.effect_run_cons, RunOptions.codeFor,
        hends, funext ih]

end Runner

end ServiceDoubles
