import ServiceDoubles.Proofs.Sequence.Walk

/-!
# ServiceDoubles.Proofs.Sequence.Agreement

**Runners and sequences side by side.** A runner stops at the first entry of a name; a sequence
stops behind the first entry that got a code that counts. They part only over the empty code, which
a sequence does not count.
-/

namespace ServiceDoubles

variable {σ : Type}

namespace Guide

variable {g h : Guide} {entries : List (Entry σ)} {s : σ}

/-- Of two guides that give the same codes, the one that ends earlier makes a beginning of the
other's invocations. -/
theorem invocations_isPrefix (hcode : g.code = h.code)
    (hends : ∀ name, h.ends name = true → g.ends name = true) (place : Nat) :
    invocations g place entries s <+: invocations h place entries s := by
  induction entries generalizing place s with
  | nil => exact List.prefix_rfl
  | cons e rest ih =>
      rw [invocations, invocations, hcode]
      refine List.prefix_cons_inj _ |>.mpr ?_
      rcases (e.invoke (h.code e.name)).effect s with ⟨o, t⟩
      cases o with
      | ok =>
          cases hg : g.ends e.name with
          | true => exact List.nil_prefix
          | false =>
              have hh : h.ends e.name = false :=
                Bool.eq_false_iff.mpr fun htrue => by simp [hends _ htrue] at hg
              simp only [hh, Bool.false_eq_true, if_false]
              exact ih (place + 1)
      | fault cause => exact List.prefix_rfl
      | unwound reason => exact List.prefix_rfl

/-- A guide that ends walks and one that does not make different invocations exactly if the first
comes to its end in good order, with entries left behind it. -/
theorem invocations_ne_iff (hcode : g.code = h.code) (hends : ∀ name, h.ends name = false)
    (place : Nat) :
    invocations g place entries s ≠ invocations h place entries s ↔
      ∃ before e after t u, entries = before ++ e :: after ∧ after ≠ [] ∧
        g.Through before s t ∧ g.ends e.name = true ∧
        (e.invoke (g.code e.name)).effect t = (.ok (), u) := by
  have halong {before : List (Entry σ)} {t : σ} (hthrough : g.Through before s t) :
      h.Through before s t ∧ invocations h place before s = invocations g place before s :=
    ⟨hthrough.congr (fun _ _ => by rw [hcode]) fun _ _ => hends _,
      hthrough.invocations_congr (fun _ _ => by rw [hcode]) (fun _ _ => hends _) place⟩
  constructor
  · intro hne
    rcases exists_through g entries s with
      ⟨t, hthrough⟩ | ⟨before, e, after, t, rfl, hthrough, hlast⟩
    · exact absurd (halong hthrough).2.symm hne
    · obtain ⟨hthrough', hsame⟩ := halong hthrough
      rw [hthrough.invocations_append, hthrough'.invocations_append, hsame, ne_eq,
        List.append_cancel_left_eq] at hne
      by_cases hok : ((e.invoke (g.code e.name)).effect t).1 = .ok ()
      · have he : g.ends e.name = true := hlast.resolve_left (not_not_intro hok)
        refine ⟨before, e, after, t, _, rfl, ?_, hthrough, he, Prod.ext hok rfl⟩
        rintro rfl
        refine hne ?_
        rw [invocations_cons_of_ends he, invocations_cons_of_goes_on (Prod.ext (hcode ▸ hok) rfl)
          (hends _), hcode]
        rfl
      · rw [invocations_cons_of_not_ok hok, invocations_cons_of_not_ok (hcode ▸ hok), hcode] at hne
        exact absurd rfl hne
  · rintro ⟨before, e, after, t, u, rfl, hafter, hthrough, he, hok⟩
    obtain ⟨hthrough', hsame⟩ := halong hthrough
    rw [hthrough.invocations_append, hthrough'.invocations_append, hsame, ne_eq,
      List.append_cancel_left_eq, invocations_cons_of_ends he,
      invocations_cons_of_goes_on (hcode ▸ hok) (hends _), hcode, List.cons.injEq, not_and]
    exact fun _ hnil => hafter ((invocations_eq_nil_iff after).mp hnil.symm)

end Guide

/-- The empty code does not end a sequence. -/
theorem RunOptions.guide_ends_of_empty (stop : Option String) (name : String) :
    ({ failing := stop, code := "" } : RunOptions).guide.ends name = false := by
  by_cases h : stop = some name
  · simp [guide, codeFor, endsAfter, h]
  · simp [guide, codeFor, endsAfter, h]

/-- A runner goes through entries that do not have its stop method and of which each goes well
without a code. -/
theorem Runner.through_iff (r : Runner σ) (before : List (Entry σ)) (s t : σ) :
    r.guide.Through before s t ↔
      (∀ e ∈ before, r.stopMethod ≠ some e.name) ∧
        (Sequence.runAll before).effect s = (.ok before.length, t) := by
  have hcode {e : Entry σ} (h : r.stopMethod ≠ some e.name) : r.guide.code e.name = none :=
    if_neg h
  have hends (e : Entry σ) : r.guide.ends e.name = false ↔ r.stopMethod ≠ some e.name :=
    decide_eq_false_iff_not
  rw [Sequence.runAll, Sequence.effect_run, ← Guide.through_iff_walk fun _ => rfl]
  constructor
  · intro h
    have hstop : ∀ e ∈ before, r.stopMethod ≠ some e.name := fun e he =>
      (hends e).mp (h.not_ends e he)
    exact ⟨hstop, h.congr (fun e he => (hcode (hstop e he)).symm) fun _ _ => rfl⟩
  · rintro ⟨hstop, h⟩
    exact h.congr (fun e he => hcode (hstop e he)) fun e he => (hends e).mpr (hstop e he)

/-- A runner with a code and the sequence that gives this code to the entries of the runner's stop
method do the same, if the code is not empty: they invoke the same entries in the same order and
with the same codes, come to the same result and leave the same state. With the empty code the
runner's invocations are a beginning of the sequence's. They are not all of them exactly if the
first entry of the stop method is reached and goes well, and there are entries behind it. -/
theorem runner_agrees_with_sequence (code : String) (stop : Option String)
    (entries : List (RunnerEntry σ)) (s : σ) :
    let r : Runner σ := { code := some code, stopMethod := stop, entries }
    let o : RunOptions := { failing := stop, code, stopOnError := true, stopAlways := false }
    let es := entries.map (·.entry)
    let ran := r.noting.run.effect (s, [])
    let sequenced := (Sequence.run o (noting 0 es)).effect (s, [])
    r.run.effect s = (ran.1, ran.2.1) ∧
    (Sequence.run o es).effect s = (sequenced.1, sequenced.2.1) ∧
    (code ≠ "" → ran = sequenced) ∧
    (code = "" →
      ran.2.2 <+: sequenced.2.2 ∧
      (ran.2.2 ≠ sequenced.2.2 ↔
        ∃ before e after t u, es = before ++ e :: after ∧ after ≠ [] ∧
          (∀ e' ∈ before, stop ≠ some e'.name) ∧ stop = some e.name ∧
          (Sequence.runAll before).effect s = (.ok before.length, t) ∧
          (e.invoke (some code)).effect t = (.ok (), u))) := by
  intro r o es ran sequenced
  have hran : ran = ((r.run.effect s).1, (r.run.effect s).2, invocations r.guide 0 es s) :=
    r.effect_run_noting s
  have hsequenced : sequenced = (((Sequence.run o es).effect s).1, ((Sequence.run o es).effect s).2,
      invocations o.guide 0 es s) :=
    Sequence.effect_run_noting o es s
  refine ⟨by rw [hran], by rw [hsequenced], fun hcode => ?_, fun hcode => ?_⟩
  · have hentries : r.noting.entries.map (·.entry) = noting 0 es := r.entries_noting
    have hsame := Runner.effect_runEntries_eq_run hcode stop r.noting.entries (s, [])
    rw [hentries] at hsame
    exact (r.noting.effect_run (s, [])).trans hsame
  · have hgiven : r.guide.code = o.guide.code := rfl
    have hnever : ∀ name, o.guide.ends name = false := by
      subst hcode
      exact RunOptions.guide_ends_of_empty stop
    have hstop {e : Entry σ} (h : stop = some e.name) : r.guide.code e.name = some code := if_pos h
    rw [hran, hsequenced]
    refine ⟨Guide.invocations_isPrefix hgiven (fun name h => ?_) 0, ?_⟩
    · exact absurd ((hnever name).symm.trans h) Bool.false_ne_true
    · rw [Guide.invocations_ne_iff hgiven hnever]
      constructor
      · rintro ⟨before, e, after, t, u, hsplit, hafter, hthrough, he, hok⟩
        obtain ⟨hbefore, hall⟩ := (r.through_iff before s t).mp hthrough
        have he : stop = some e.name := of_decide_eq_true he
        exact ⟨before, e, after, t, u, hsplit, hafter, hbefore, he, hall, hstop he ▸ hok⟩
      · rintro ⟨before, e, after, t, u, hsplit, hafter, hbefore, he, hall, hok⟩
        have hthrough := (r.through_iff before s t).mpr ⟨hbefore, hall⟩
        exact ⟨before, e, after, t, u, hsplit, hafter, hthrough, decide_eq_true he,
          (hstop he).symm ▸ hok⟩

/-- Two of three entries have the stop method: the runner stops at the first of them, and so does
the sequence unless the code is empty. -/
theorem runner_agrees_with_sequence_three :
    let entry (name : String) : RunnerEntry Nat := ⟨"", ⟨name, fun _ n => ⟨.ok (), n + 1, []⟩⟩⟩
    let entries := [entry "a", entry "b", entry "b"]
    let runner (code : String) : Runner Nat :=
      { code := some code, stopMethod := some "b", entries }
    let ran (code : String) := (runner code).noting.run.effect (0, [])
    let sequenced (code : String) :=
      (Sequence.run { failing := some "b", code } (noting 0 (entries.map (·.entry)))).effect (0, [])
    ran "E" = sequenced "E" ∧ (ran "E").2 = (2, [(0, none), (1, some "E")]) ∧
      (ran "").2.2 <+: (sequenced "").2.2 ∧ (ran "").2.2 ≠ (sequenced "").2.2 := by
  intro entry entries runner ran sequenced
  obtain ⟨-, -, hsame, -⟩ := runner_agrees_with_sequence "E" (some "b") entries 0
  obtain ⟨-, -, -, hempty⟩ := runner_agrees_with_sequence "" (some "b") entries 0
  obtain ⟨hbegins, hdiffer⟩ := hempty rfl
  have hparts : (ran "").2.2 ≠ (sequenced "").2.2 :=
    hdiffer.mpr ⟨[(entry "a").entry], (entry "b").entry, [(entry "b").entry], 1, 2, rfl,
      List.cons_ne_nil _ _, by simp [entry], rfl, rfl, rfl⟩
  exact ⟨hsame (by decide), rfl, hbegins, hparts⟩

end ServiceDoubles
