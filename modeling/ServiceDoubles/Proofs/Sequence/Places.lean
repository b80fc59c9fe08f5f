import ServiceDoubles.Proofs.Sequence.Walk

/-!
# ServiceDoubles.Proofs.Sequence.Places

**Where a sequence ends**, told by the places of its entries.

`stateAt` lets every entry have its turn, whatever comes out of the ones before it. It knows nothing
of walks, nor of where they end. A walk is then the first so many turns: up to the first that fails
or behind which the walk ends (`Guide.walk_of_last`), or all of them (`Guide.walk_of_all`). For a
sequence that place can be read off its options and the outcomes of the turns
(`run_ends_at_first_stop`).
-/

namespace ServiceDoubles

variable {σ : Type}

/-! ### Turns -/

section

variable (given : Nat → Option String) (entries : List (Entry σ)) (s : σ)

/-- The state in which the entry at each place has its turn, if each entry gets the code that is
given for its place: the one that the entries before it left. -/
def stateAt : Nat → σ
  | 0 => s
  | i + 1 =>
    match entries[i]? with
    | none => stateAt i
    | some e => ((e.invoke (given i)).effect (stateAt i)).2

/-- How the entry at a place ends in its turn, if there is one. -/
def outcomeAt (i : Nat) : Option (Outcome Unit) :=
  entries[i]?.map fun e => ((e.invoke (given i)).effect (stateAt given entries s i)).1

/-- The journal of the first `n` turns. -/
def journalOf (n : Nat) : Journal := (List.range n).map fun i => (i, given i)

end

section

variable {given : Nat → Option String} {entries : List (Entry σ)} {s : σ} {i : Nat}

theorem stateAt_succ {e : Entry σ} (h : entries[i]? = some e) :
    stateAt given entries s (i + 1) =
      ((e.invoke (given i)).effect (stateAt given entries s i)).2 := by
  simp only [stateAt, h]

theorem outcomeAt_eq {e : Entry σ} (h : entries[i]? = some e) :
    outcomeAt given entries s i =
      some ((e.invoke (given i)).effect (stateAt given entries s i)).1 := by
  rw [outcomeAt, h, Option.map_some]

theorem exists_entry_of_outcomeAt {o : Outcome Unit} (h : outcomeAt given entries s i = some o) :
    ∃ e, entries[i]? = some e ∧
      (e.invoke (given i)).effect (stateAt given entries s i) =
        (o, stateAt given entries s (i + 1)) := by
  obtain ⟨e, he, rfl⟩ := Option.map_eq_some_iff.mp h
  exact ⟨e, he, Prod.ext rfl (stateAt_succ he).symm⟩

/-- The first turns all go well, or there is a first among them that does not. -/
theorem all_ok_or_exists_first (given : Nat → Option String) (s : σ) {n : Nat}
    (hn : n ≤ entries.length) :
    (∀ i < n, outcomeAt given entries s i = some (.ok ())) ∨
    ∃ k < n, ∃ o, outcomeAt given entries s k = some o ∧ o ≠ .ok () ∧
      ∀ i < k, outcomeAt given entries s i = some (.ok ()) := by
  induction n with
  | zero => exact .inl fun i hi => absurd hi (Nat.not_lt_zero i)
  | succ n ih =>
      rcases ih (by omega) with hall | ⟨k, hk, hfirst⟩
      · obtain ⟨o, ho⟩ : ∃ o, outcomeAt given entries s n = some o :=
          ⟨_, outcomeAt_eq (List.getElem?_eq_getElem hn)⟩
        by_cases hok : o = .ok ()
        · refine .inl fun i hi => ?_
          obtain hlt | rfl := Nat.lt_succ_iff_lt_or_eq.mp hi
          · exact hall i hlt
          · rw [ho, hok]
        · exact .inr ⟨n, Nat.lt_succ_self n, o, ho, hok, hall⟩
      · exact .inr ⟨k, Nat.lt_succ_of_lt hk, hfirst⟩

theorem journalOf_succ (n : Nat) :
    journalOf given (n + 1) = journalOf given n ++ [(n, given n)] := by
  rw [journalOf, List.range_succ, List.map_append]
  rfl

end

/-! ### Walks by places -/

namespace Guide

/-- The entry at the place gets the code that is given for it and goes well in its turn, and the
walk does not end behind it. -/
def GoesOn (g : Guide) (given : Nat → Option String) (entries : List (Entry σ)) (s : σ)
    (i : Nat) : Prop :=
  ∃ e, entries[i]? = some e ∧ given i = g.code e.name ∧ g.ends e.name = false ∧
    outcomeAt given entries s i = some (.ok ())

variable {g : Guide} {given : Nat → Option String} {entries : List (Entry σ)} {s : σ}

theorem Through.append {before after : List (Entry σ)} {t u : σ} (h : g.Through before s t)
    (hafter : g.Through after t u) : g.Through (before ++ after) s u := by
  induction h with
  | nil s => exact hafter
  | cons he hends _ ih => exact .cons he hends (ih hafter)

/-- Places at which the walk goes on are a stretch of the walk. -/
theorem through_take {n : Nat} (h : ∀ i < n, g.GoesOn given entries s i) :
    g.Through (entries.take n) s (stateAt given entries s n) ∧
      invocations g 0 (entries.take n) s = journalOf given n ∧ n ≤ entries.length := by
  induction n with
  | zero => exact ⟨.nil s, rfl, Nat.zero_le _⟩
  | succ n ih =>
      obtain ⟨hthrough, hjournal, hlength⟩ := ih fun i hi => h i (by omega)
      obtain ⟨e, he, hcode, hends, hok⟩ := h n (by omega)
      obtain ⟨e', he', hcall⟩ := exists_entry_of_outcomeAt hok
      obtain rfl : e = e' := Option.some.inj (he.symm.trans he')
      rw [hcode] at hcall
      have htake : entries.take (n + 1) = entries.take n ++ [e] := by
        rw [List.take_add_one, he, Option.toList_some]
      rw [htake]
      refine ⟨hthrough.append (.cons hcall hends (.nil _)), ?_, ?_⟩
      · rw [hthrough.invocations_append, hjournal, List.length_take, Nat.min_eq_left hlength,
          invocations_cons_of_goes_on hcall hends, journalOf_succ, hcode, Nat.zero_add]
        rfl
      · exact (List.getElem?_eq_some_iff.mp he).1

/-- A walk that goes on at every place goes through all entries. -/
theorem walk_of_all (h : ∀ i < entries.length, g.GoesOn given entries s i) :
    walk g entries s = (.ok entries.length, stateAt given entries s entries.length) ∧
      invocations g 0 entries s = journalOf given entries.length := by
  obtain ⟨hthrough, hjournal, -⟩ := through_take h
  rw [List.take_length] at hthrough hjournal
  exact ⟨hthrough.walk_eq, hjournal⟩

/-- A walk that goes on up to a place where the entry fails or ends the walk is at its end there. -/
theorem walk_of_last {k : Nat} {e : Entry σ} {o : Outcome Unit}
    (h : ∀ i < k, g.GoesOn given entries s i) (he : entries[k]? = some e)
    (hcode : given k = g.code e.name) (ho : outcomeAt given entries s k = some o)
    (hlast : o ≠ .ok () ∨ g.ends e.name = true) :
    walk g entries s = (o.map fun _ => k + 1, stateAt given entries s (k + 1)) ∧
      invocations g 0 entries s = journalOf given (k + 1) := by
  obtain ⟨hthrough, hjournal, hlength⟩ := through_take h
  obtain ⟨e', he', hcall⟩ := exists_entry_of_outcomeAt ho
  obtain rfl : e = e' := Option.some.inj (he.symm.trans he')
  rw [hcode] at hcall
  have hsplit : entries = entries.take k ++ e :: entries.drop (k + 1) := by
    obtain ⟨hk, rfl⟩ := List.getElem?_eq_some_iff.mp he
    rw [← List.drop_eq_getElem_cons hk, List.take_append_drop]
  have hend : walk g (e :: entries.drop (k + 1)) (stateAt given entries s k) =
        (o.map fun _ => 1, stateAt given entries s (k + 1)) ∧
      invocations g k (e :: entries.drop (k + 1)) (stateAt given entries s k) =
        [(k, g.code e.name)] := by
    by_cases hok : o = .ok ()
    · subst hok
      have hends := hlast.resolve_left (not_not_intro rfl)
      rw [walk_cons_of_ok hcall, hends, countOn_of_ends, invocations_cons_of_ends hends]
      exact ⟨rfl, rfl⟩
    · have hnot : ((e.invoke (g.code e.name)).effect (stateAt given entries s k)).1 ≠ .ok () := by
        rw [hcall]
        exact hok
      rw [walk_cons_of_not_ok hnot, invocations_cons_of_not_ok hnot, hcall]
      cases o with
      | ok => exact absurd rfl hok
      | fault cause => exact ⟨rfl, rfl⟩
      | unwound reason => exact ⟨rfl, rfl⟩
  have hplace : 0 + (entries.take k).length = k := by
    rw [List.length_take, Nat.min_eq_left hlength, Nat.zero_add]
  constructor
  · calc
      walk g entries s = walk g (entries.take k ++ e :: entries.drop (k + 1)) s := by rw [← hsplit]
      _ = (o.map fun _ => k + 1, stateAt given entries s (k + 1)) := by
        rw [hthrough.walk_append, hend.1, ← hplace]
        cases o with
        | ok => simp [Outcome.map, Nat.add_comm]
        | fault cause => rfl
        | unwound reason => rfl
  · calc
      invocations g 0 entries s =
          invocations g 0 (entries.take k ++ e :: entries.drop (k + 1)) s := by rw [← hsplit]
      _ = journalOf given (k + 1) := by
        rw [hthrough.invocations_append, hplace, hend.2, hjournal, journalOf_succ, hcode]

end Guide

/-! ### Sequences -/

namespace Sequence

/-- The code for each place: the options' code if the entry there has the name that is to fail. -/
def given (o : RunOptions) (entries : List (Entry σ)) (i : Nat) : Option String :=
  entries[i]?.bind fun e => if o.failing = some e.name then some o.code else none

/-- The sequence stops at the place: the entry there fails in its turn, or the options stop it. They
do so after every entry, or after one that got a code; the empty code does not count. -/
def StopsAt (o : RunOptions) (entries : List (Entry σ)) (s : σ) (i : Nat) : Prop :=
  ∃ outcome, outcomeAt (given o entries) entries s i = some outcome ∧
    (outcome ≠ .ok () ∨ o.stopAlways = true ∨
      (o.stopOnError = true ∧ ∃ code, given o entries i = some code ∧ code ≠ ""))

section

variable {o : RunOptions} {entries : List (Entry σ)} {s : σ} {i : Nat} {e : Entry σ}

theorem given_eq (h : entries[i]? = some e) : given o entries i = o.guide.code e.name := by
  rw [given, h]
  rfl

theorem ends_iff (h : entries[i]? = some e) :
    o.guide.ends e.name = true ↔ o.stopAlways = true ∨
      (o.stopOnError = true ∧ ∃ code, given o entries i = some code ∧ code ≠ "") := by
  have hends : o.guide.ends e.name = o.endsAfter (given o entries i) := by
    rw [given_eq h]
    rfl
  rw [hends, RunOptions.endsAfter]
  cases given o entries i <;> simp

theorem goesOn_of_not_stopsAt (hi : i < entries.length) (h : ¬StopsAt o entries s i) :
    o.guide.GoesOn (given o entries) entries s i := by
  have he : entries[i]? = some entries[i] := List.getElem?_eq_getElem hi
  have hnot {outcome : Outcome Unit} (ho : outcomeAt (given o entries) entries s i = some outcome) :=
    fun hlast => h ⟨outcome, ho, hlast⟩
  obtain ⟨hok, hends⟩ := not_or.mp (hnot (outcomeAt_eq he))
  refine ⟨entries[i], he, given_eq he, ?_, ?_⟩
  · exact Bool.eq_false_iff.mpr fun htrue => hends ((ends_iff he).mp htrue)
  · rw [outcomeAt_eq he, Classical.not_not.mp hok]

end

/-- A sequence invokes its entries up to the first place at which it stops, or all of them if there
is none: each once and in order, with the code for its place and in the state that the one before it
left. If the last of them fails the sequence ends as it does, and otherwise with the number of
invocations. Nothing is undone, and nothing behind that place runs. -/
theorem run_ends_at_first_stop (o : RunOptions) (entries : List (Entry σ)) (s : σ) :
    let ran := (run o (noting 0 entries)).effect (s, [])
    (run o entries).effect s = (ran.1, ran.2.1) ∧
    ((∀ i, ¬StopsAt o entries s i) →
      ran = (.ok entries.length, stateAt (given o entries) entries s entries.length,
        journalOf (given o entries) entries.length)) ∧
    (∀ k outcome, outcomeAt (given o entries) entries s k = some outcome →
      StopsAt o entries s k → (∀ i < k, ¬StopsAt o entries s i) →
      ran = (outcome.map fun _ => k + 1, stateAt (given o entries) entries s (k + 1),
        journalOf (given o entries) (k + 1))) := by
  intro ran
  have hran : ran = (((run o entries).effect s).1, ((run o entries).effect s).2,
      invocations o.guide 0 entries s) :=
    effect_run_noting o entries s
  rw [effect_run] at hran
  refine ⟨?same, ?all, ?first⟩
  case same => rw [hran, effect_run]
  case all =>
    intro hnone
    obtain ⟨hwalk, hjournal⟩ :=
      Guide.walk_of_all fun i hi => goesOn_of_not_stopsAt (s := s) hi (hnone i)
    rw [hran, hwalk, hjournal]
  case first =>
    rintro k outcome ho ⟨outcome', ho', hstops⟩ hbefore
    obtain rfl : outcome = outcome' := Option.some.inj (ho.symm.trans ho')
    obtain ⟨e, he, -⟩ := exists_entry_of_outcomeAt ho
    have hk : k < entries.length := (List.getElem?_eq_some_iff.mp he).1
    obtain ⟨hwalk, hjournal⟩ := Guide.walk_of_last
      (fun i hi => goesOn_of_not_stopsAt (Nat.lt_trans hi hk) (hbefore i hi)) he (given_eq he) ho
      (hstops.imp_right (ends_iff he).mpr)
    rw [hran, hwalk, hjournal]

/-- The second of three entries gets the code and fails of itself. -/
theorem run_ends_at_first_stop_second :
    let entry (name : String) (outcome : Outcome Unit) : Entry Nat :=
      ⟨name, fun _ n => ⟨outcome, n + 1, []⟩⟩
    let o : RunOptions := { failing := some "b", code := "E" }
    let entries :=
      [entry "a" (.ok ()), entry "b" (.fault (.config "lost")), entry "b" (.ok ())]
    StopsAt o entries 0 1 ∧ (∀ i < 1, ¬StopsAt o entries 0 i) ∧
      (run o (noting 0 entries)).effect (0, []) =
        (.fault (.config "lost"), 2, [(0, none), (1, some "E")]) := by
  intro entry o entries
  have hstops : StopsAt o entries 0 1 := ⟨_, rfl, .inl nofun⟩
  have hfirst : ∀ i < 1, ¬StopsAt o entries 0 i := by
    rintro i hi ⟨outcome, ho, hlast⟩
    obtain rfl : i = 0 := by omega
    obtain rfl : .ok () = outcome := Option.some.inj ho
    simp [o, given, entries, entry] at hlast
  obtain ⟨-, -, hrun⟩ := run_ends_at_first_stop o entries 0
  exact ⟨hstops, hfirst, hrun 1 _ rfl hstops hfirst⟩

end Sequence

end ServiceDoubles
