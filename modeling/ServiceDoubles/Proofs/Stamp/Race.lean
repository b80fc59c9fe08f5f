import ServiceDoubles.Proofs.Stamp
import ServiceDoubles.Stamp.Race

/-!
# ServiceDoubles.Proofs.Stamp.Race

**Stamps that several callers ask for at once**, in every order of their moves.

Design points:
- `Caller.move_cases` is the only place where the moves are opened: a move gives its caller a stamp,
  the one behind the shared value, or it leaves the shared value and everybody's stamps alone.
- What a caller has loaded does not matter for this, however old it is. An exchange succeeds only if
  the shared value is what the caller tried it with, so its stamp is above the shared value of that
  very moment, and with it above all stamps before.
- `Sound` is what holds at every moment of a race, and `Since` is what holds between two moments.
-/

namespace ServiceDoubles.Stamp

/-! ### Moves -/

/-- What the caller has read from the clock. -/
def Caller.reading? : Caller → Option Int64
  | idle => none
  | started now => some now
  | holding now _ => some now
  | done now _ => some now

/-- What the move reads from the clock. -/
def Move.reading? : Move → Option Int64
  | start now => some now
  | _ => none

/-- Only a caller without a stamp can move. Its exchange may succeed, and then it has the stamp
behind the shared value, which is shared from now on. Otherwise nobody gets a stamp. -/
theorem Caller.move_cases {shared shared' : Int64} {c c' : Caller} {m : Move}
    (h : c.move shared m = some (shared', c')) :
    c.stamp? = none ∧ c'.reading?.toList = c.reading?.toList ++ m.reading?.toList ∧
      ((shared' = shared ∧ c'.stamp? = none) ∨
        ∃ now, c' = done now shared' ∧ shared' = next shared now) := by
  cases c with
  | idle =>
      cases m with
      | start now =>
          obtain ⟨rfl, rfl⟩ := Prod.mk.inj (Option.some.inj h)
          exact ⟨rfl, rfl, .inl ⟨rfl, rfl⟩⟩
      | load => cases h
      | exchange fails => cases h
  | started now =>
      cases m with
      | start again => cases h
      | load =>
          obtain ⟨rfl, rfl⟩ := Prod.mk.inj (Option.some.inj h)
          exact ⟨rfl, rfl, .inl ⟨rfl, rfl⟩⟩
      | exchange fails => cases h
  | holding now last =>
      cases m with
      | start again => cases h
      | load => cases h
      | exchange fails =>
          rw [move] at h
          by_cases hsucceeds : shared = last ∧ !fails
          · rw [if_pos hsucceeds] at h
            obtain ⟨rfl, rfl⟩ := Prod.mk.inj (Option.some.inj h)
            exact ⟨rfl, rfl, .inr ⟨now, rfl, by rw [hsucceeds.1]⟩⟩
          · rw [if_neg hsucceeds] at h
            obtain ⟨rfl, rfl⟩ := Prod.mk.inj (Option.some.inj h)
            exact ⟨rfl, rfl, .inl ⟨rfl, rfl⟩⟩
  | done now stamp => cases m <;> cases h

theorem Caller.exists_done_of_stamp? {c : Caller} {stamp : Int64} (h : c.stamp? = some stamp) :
    ∃ now, c = done now stamp := by
  cases c with
  | done now a => exact ⟨now, congrArg (done now) (Option.some.inj h)⟩
  | _ => cases h

namespace Race

variable {r r' : Race} {i : Nat} {m : Move}

/-- The stamp of a caller, if it has one. -/
def stamp? (r : Race) (i : Nat) : Option Int64 := (r.caller i).stamp?

/-- What caller `i` read from the clock in these moves. -/
def readings (i : Nat) (moves : List (Nat × Move)) : List Int64 :=
  (moves.filter (·.1 == i)).filterMap (·.2.reading?)

/-- The race with the caller `i` at `c`. -/
def put (r : Race) (i : Nat) (shared : Int64) (c : Caller) : Race :=
  ⟨shared, fun j => if j = i then c else r.caller j⟩

theorem caller_put_self (r : Race) (i : Nat) (shared : Int64) (c : Caller) :
    (r.put i shared c).caller i = c := if_pos rfl

theorem caller_put_of_ne (r : Race) {i j : Nat} (shared : Int64) (c : Caller) (h : j ≠ i) :
    (r.put i shared c).caller j = r.caller j := if_neg h

theorem exists_put_of_step (h : r.step i m = some r') :
    ∃ shared c, (r.caller i).move r.shared m = some (shared, c) ∧ r' = r.put i shared c := by
  obtain ⟨⟨shared, c⟩, hmove, rfl⟩ := Option.map_eq_some_iff.mp h
  exact ⟨shared, c, hmove, rfl⟩

/-- What a move makes of a race. -/
inductive Goes (r : Race) (i : Nat) : Race → Prop
  /-- The caller goes on without a stamp. -/
  | on (c : Caller) : r.stamp? i = none → c.stamp? = none → Goes r i (r.put i r.shared c)
  /-- The caller gets the stamp behind the shared value. -/
  | claims (now : Int64) : r.stamp? i = none →
      Goes r i (r.put i (next r.shared now) (.done now (next r.shared now)))

theorem goes_of_step (h : r.step i m = some r') : Goes r i r' := by
  obtain ⟨shared, c, hmove, rfl⟩ := exists_put_of_step h
  obtain ⟨hnone, -, ⟨rfl, hc⟩ | ⟨now, rfl, rfl⟩⟩ := Caller.move_cases hmove
  · exact .on c hnone hc
  · exact .claims now hnone

/-- A caller keeps what it read from the clock, and reads it once. -/
theorem reading?_step (h : r.step i m = some r') (j : Nat) :
    (r'.caller j).reading?.toList = (r.caller j).reading?.toList ++ readings j [(i, m)] := by
  obtain ⟨shared, c, hmove, rfl⟩ := exists_put_of_step h
  obtain ⟨-, hreading, -⟩ := Caller.move_cases hmove
  by_cases hj : j = i
  · subst hj
    rw [caller_put_self, hreading]
    cases hm : m.reading? <;> simp [readings, hm]
  · rw [caller_put_of_ne _ _ _ hj]
    simp [readings, Ne.symm hj]

/-- Without a new stamp, everybody has the stamp that it had. -/
theorem stamp?_put_of_none {c : Caller} (shared : Int64) (h : r.stamp? i = none)
    (hc : c.stamp? = none) : (r.put i shared c).stamp? = r.stamp? := by
  funext j
  by_cases hj : j = i
  · subst hj
    rw [h, stamp?, caller_put_self, hc]
  · rw [stamp?, caller_put_of_ne _ _ _ hj, stamp?]

theorem stamp?_put_done (r : Race) (i : Nat) (now stamp : Int64) :
    (r.put i stamp (.done now stamp)).stamp? i = some stamp := by
  rw [stamp?, caller_put_self]
  rfl

theorem stamp?_put_of_ne (r : Race) {i j : Nat} (shared : Int64) (c : Caller) (h : j ≠ i) :
    (r.put i shared c).stamp? j = r.stamp? j := by
  rw [stamp?, caller_put_of_ne _ _ _ h, stamp?]

/-- When a caller gets a stamp, the others have those that they had. -/
theorem stamp?_put_done_cases {now stamp a : Int64} {j : Nat}
    (h : (r.put i stamp (.done now stamp)).stamp? j = some a) :
    (j = i ∧ a = stamp) ∨ (j ≠ i ∧ r.stamp? j = some a) := by
  by_cases hji : j = i
  · subst hji
    rw [stamp?_put_done] at h
    exact .inl ⟨rfl, (Option.some.inj h).symm⟩
  · rw [stamp?_put_of_ne _ _ _ hji] at h
    exact .inr ⟨hji, h⟩

/-! ### Every moment of a race -/

/-- What holds at every moment: the shared value is the greatest stamp, or zero while there is none.
No two callers have the same stamp, and no stamp is below what its caller read from the clock. -/
structure Sound (r : Race) : Prop where
  bounded : ∀ i stamp, r.stamp? i = some stamp → stamp ≤ r.shared
  attained : (r.shared = 0 ∧ ∀ i, r.stamp? i = none) ∨ ∃ i, r.stamp? i = some r.shared
  distinct : ∀ i j stamp, r.stamp? i = some stamp → r.stamp? j = some stamp → i = j
  reading_le : ∀ i now stamp, r.caller i = .done now stamp → now ≤ stamp

theorem sound_fresh : Sound fresh where
  bounded _ _ h := absurd h (Option.some_ne_none _).symm
  attained := .inl ⟨rfl, fun _ => rfl⟩
  distinct _ _ _ h := absurd h (Option.some_ne_none _).symm
  reading_le _ _ _ h := Caller.noConfusion h

/-- A caller that goes on without a stamp changes nothing of this. -/
theorem Sound.on (hr : Sound r) (hnone : r.stamp? i = none) {c : Caller} (hc : c.stamp? = none) :
    Sound (r.put i r.shared c) := by
  have hstamps := stamp?_put_of_none r.shared hnone hc
  refine ⟨?_, ?_, ?_, fun j now stamp hj => ?_⟩
  · rw [hstamps]
    exact hr.bounded
  · rw [hstamps]
    exact hr.attained
  · rw [hstamps]
    exact hr.distinct
  · by_cases hji : j = i
    · subst hji
      rw [caller_put_self] at hj
      rw [hj] at hc
      cases hc
    · rw [caller_put_of_ne _ _ _ hji] at hj
      exact hr.reading_le j now stamp hj

/-- A new stamp is above all stamps of the others, because it is above the shared value. -/
theorem Sound.claims (hr : Sound r) (hend : r.shared ≠ Int64.maxValue) (i : Nat) (now : Int64) :
    Sound (r.put i (next r.shared now) (.done now (next r.shared now))) := by
  have hbelow : ∀ j stamp, r.stamp? j = some stamp → stamp < next r.shared now :=
    fun j stamp hj => Int64.lt_of_le_of_lt (hr.bounded j stamp hj) (lt_next hend now)
  refine ⟨fun j stamp hj => ?_, .inr ⟨i, stamp?_put_done r i now _⟩, fun j k stamp hj hk => ?_,
    fun j now' stamp hj => ?_⟩
  · rcases stamp?_put_done_cases hj with ⟨-, rfl⟩ | ⟨-, hold⟩
    · exact Int64.le_rfl
    · exact Int64.le_of_lt (hbelow j stamp hold)
  · rcases stamp?_put_done_cases hj with ⟨rfl, rfl⟩ | ⟨-, hold⟩
    · rcases stamp?_put_done_cases hk with ⟨rfl, -⟩ | ⟨-, hold'⟩
      · rfl
      · exact absurd rfl (Int64.ne_of_lt (hbelow k _ hold'))
    · rcases stamp?_put_done_cases hk with ⟨rfl, rfl⟩ | ⟨-, hold'⟩
      · exact absurd rfl (Int64.ne_of_lt (hbelow j _ hold))
      · exact hr.distinct j k stamp hold hold'
  · by_cases hji : j = i
    · subst hji
      rw [caller_put_self] at hj
      obtain ⟨rfl, rfl⟩ := Caller.done.inj hj
      exact reading_le_next hend now
    · rw [caller_put_of_ne _ _ _ hji] at hj
      exact hr.reading_le j now' stamp hj

theorem Sound.step (hr : Sound r) (hend : r.shared ≠ Int64.maxValue) (h : Goes r i r') :
    Sound r' := by
  cases h with
  | on c hnone hc => exact hr.on hnone hc
  | claims now hnone => exact hr.claims hend i now

/-! ### Two moments of a race -/

/-- What holds between a moment `r₀` and a later one: the shared value has not decreased, stamps are
kept, and stamps that came in between are above the shared value of `r₀`. -/
structure Since (r₀ r : Race) : Prop where
  shared_le : r₀.shared ≤ r.shared
  keeps : ∀ i stamp, r₀.stamp? i = some stamp → r.stamp? i = some stamp
  above : ∀ i stamp, r₀.stamp? i = none → r.stamp? i = some stamp → r₀.shared < stamp

theorem Since.refl (r : Race) : Since r r where
  shared_le := Int64.le_rfl
  keeps _ _ h := h
  above _ _ hnone hsome := absurd (hnone.symm.trans hsome) (Option.some_ne_none _).symm

theorem Since.trans {r₀ : Race} (h : Since r₀ r) (h' : Since r r') : Since r₀ r' where
  shared_le := Int64.le_trans h.shared_le h'.shared_le
  keeps i stamp hi := h'.keeps i stamp (h.keeps i stamp hi)
  above i stamp hnone hi := by
    cases hr : r.stamp? i with
    | none => exact Int64.lt_of_le_of_lt h.shared_le (h'.above i stamp hr hi)
    | some s =>
        obtain rfl : s = stamp := Option.some.inj ((h'.keeps i s hr).symm.trans hi)
        exact h.above i s hnone hr

theorem Since.of_goes (hend : r.shared ≠ Int64.maxValue) (h : Goes r i r') : Since r r' := by
  cases h with
  | on c hnone hc =>
      have hstamps := stamp?_put_of_none r.shared hnone hc
      refine ⟨Int64.le_rfl, ?_, ?_⟩
      · rw [hstamps]
        exact fun _ _ h => h
      · rw [hstamps]
        exact (Since.refl r).above
  | claims now hnone =>
      have hlt := lt_next hend now
      refine ⟨Int64.le_of_lt hlt, fun j stamp hj => ?_, fun j stamp hj hj' => ?_⟩
      · have hji : j ≠ i := by
          rintro rfl
          exact absurd (hnone.symm.trans hj) (Option.some_ne_none _).symm
        rw [stamp?_put_of_ne _ _ _ hji]
        exact hj
      · rcases stamp?_put_done_cases hj' with ⟨-, rfl⟩ | ⟨-, hold⟩
        · exact hlt
        · exact absurd (hj.symm.trans hold) (Option.some_ne_none _).symm

/-! ### Whole races -/

/-- Before each of the moves the counter has not come to its end: there is a stamp behind the shared
value. -/
def CounterLasts : List (Nat × Move) → Race → Prop
  | [], _ => True
  | (i, m) :: rest, r =>
    r.shared ≠ Int64.maxValue ∧ ∀ r' ∈ r.step i m, CounterLasts rest r'

theorem counterLasts_cons_iff {rest : List (Nat × Move)} (h : r.step i m = some r') :
    CounterLasts ((i, m) :: rest) r ↔ r.shared ≠ Int64.maxValue ∧ CounterLasts rest r' := by
  refine and_congr_right fun _ => ⟨fun hrest => hrest r' h, fun hrest r₁ hr₁ => ?_⟩
  obtain rfl : r' = r₁ := Option.some.inj (h.symm.trans hr₁)
  exact hrest

instance decidableCounterLasts :
    (moves : List (Nat × Move)) → (r : Race) → Decidable (CounterLasts moves r)
  | [], _ => isTrue trivial
  | (i, m) :: rest, r =>
    match h : r.step i m with
    | none =>
      decidable_of_iff (r.shared ≠ Int64.maxValue)
        ⟨fun hend => ⟨hend, fun _ hr' => nomatch h.symm.trans hr'⟩, And.left⟩
    | some r' =>
      have := decidableCounterLasts rest r'
      decidable_of_iff _ (counterLasts_cons_iff h).symm

theorem exists_step_of_run {rest : List (Nat × Move)} (h : r.run ((i, m) :: rest) = some r') :
    ∃ r₁, r.step i m = some r₁ ∧ r₁.run rest = some r' :=
  Option.bind_eq_some_iff.mp h

theorem sound_of_run {moves : List (Nat × Move)} (hr : Sound r) (hcounter : CounterLasts moves r)
    (h : r.run moves = some r') : Sound r' := by
  induction moves generalizing r with
  | nil =>
      obtain rfl : r = r' := Option.some.inj h
      exact hr
  | cons move rest ih =>
      obtain ⟨hend, hrest⟩ := hcounter
      obtain ⟨r₁, hstep, hrun⟩ := exists_step_of_run h
      exact ih (hr.step hend (goes_of_step hstep)) (hrest r₁ hstep) hrun

theorem since_of_run {moves : List (Nat × Move)} (hcounter : CounterLasts moves r)
    (h : r.run moves = some r') : Since r r' := by
  induction moves generalizing r with
  | nil =>
      obtain rfl : r = r' := Option.some.inj h
      exact Since.refl r
  | cons move rest ih =>
      obtain ⟨hend, hrest⟩ := hcounter
      obtain ⟨r₁, hstep, hrun⟩ := exists_step_of_run h
      exact (Since.of_goes hend (goes_of_step hstep)).trans (ih (hrest r₁ hstep) hrun)

theorem reading?_of_run {moves : List (Nat × Move)} (h : r.run moves = some r') (j : Nat) :
    (r'.caller j).reading?.toList = (r.caller j).reading?.toList ++ readings j moves := by
  induction moves generalizing r with
  | nil =>
      obtain rfl : r = r' := Option.some.inj h
      exact (List.append_nil _).symm
  | cons move rest ih =>
      obtain ⟨r₁, hstep, hrun⟩ := exists_step_of_run h
      have hsplit : readings j (move :: rest) = readings j [move] ++ readings j rest := by
        rw [readings, ← List.singleton_append, List.filter_append, List.filterMap_append]
        rfl
      rw [ih hrun, reading?_step hstep, hsplit, List.append_assoc]

/-- A race in which the counter lasts can be cut at any moment. -/
theorem CounterLasts.cut {before later : List (Nat × Move)} {r₀ : Race}
    (hcounter : CounterLasts (before ++ later) r) (h : r.run (before ++ later) = some r')
    (hbefore : r.run before = some r₀) :
    CounterLasts before r ∧ CounterLasts later r₀ ∧ r₀.run later = some r' := by
  induction before generalizing r with
  | nil =>
      obtain rfl : r = r₀ := Option.some.inj hbefore
      exact ⟨trivial, hcounter, h⟩
  | cons move rest ih =>
      obtain ⟨r₁, hstep, hrun⟩ := exists_step_of_run h
      obtain ⟨r₁', hstep', hrun₀⟩ := exists_step_of_run hbefore
      obtain rfl : r₁ = r₁' := Option.some.inj (hstep.symm.trans hstep')
      obtain ⟨hend, hrest⟩ := (counterLasts_cons_iff hstep).mp hcounter
      obtain ⟨hfront, hback⟩ := ih hrest hrun hrun₀
      exact ⟨(counterLasts_cons_iff hstep).mpr ⟨hend, hfront⟩, hback⟩

/-- In every race the shared value never decreases, and at every moment it is the greatest stamp that
was given so far, or zero. The stamps of different callers differ, and none is below the one reading
of the clock that its caller took. A caller that has no stamp yet when another has one, such as one
that has not begun, gets a greater stamp. -/
theorem stamps_of_race {moves : List (Nat × Move)} {r : Race} (hrun : fresh.run moves = some r)
    (hcounter : CounterLasts moves fresh) :
    (∀ before later r₀, moves = before ++ later → fresh.run before = some r₀ →
      r₀.shared ≤ r.shared ∧
      ∀ i j a b, r₀.stamp? i = some a → r₀.stamp? j = none → r.stamp? j = some b →
        r.stamp? i = some a ∧ a < b) ∧
    ((r.shared = 0 ∧ ∀ i, r.stamp? i = none) ∨
      (∃ i, r.stamp? i = some r.shared) ∧ ∀ i a, r.stamp? i = some a → a ≤ r.shared) ∧
    (∀ i j a, r.stamp? i = some a → r.stamp? j = some a → i = j) ∧
    ∀ i a, r.stamp? i = some a → ∃ now, readings i moves = [now] ∧ now ≤ a := by
  have hsound := sound_of_run sound_fresh hcounter hrun
  refine ⟨?_, ?_, hsound.distinct, fun i a hi => ?_⟩
  · rintro before later r₀ rfl hbefore
    obtain ⟨hfront, hback, hlater⟩ := hcounter.cut hrun hbefore
    have hsound₀ := sound_of_run sound_fresh hfront hbefore
    have hsince := since_of_run hback hlater
    refine ⟨hsince.shared_le, fun i j a b hi hj hb => ⟨hsince.keeps i a hi, ?_⟩⟩
    exact Int64.lt_of_le_of_lt (hsound₀.bounded i a hi) (hsince.above j b hj hb)
  · exact hsound.attained.imp_right fun hgreatest => ⟨hgreatest, hsound.bounded⟩
  · obtain ⟨now, hcaller⟩ := Caller.exists_done_of_stamp? hi
    have hreadings := reading?_of_run hrun i
    rw [hcaller] at hreadings
    exact ⟨now, hreadings.symm, hsound.reading_le i now a hcaller⟩

/-- Caller 1 comes between the load and the exchange of caller 0, which then fails once more for no
reason. Caller 2 begins when both have their stamps. -/
theorem stamps_of_race_three :
    let moves : List (Nat × Move) :=
      [(0, .start 5), (0, .load), (1, .start 7), (1, .load), (1, .exchange false),
        (0, .exchange false), (0, .exchange true), (0, .exchange false),
        (2, .start (-3)), (2, .load), (2, .exchange false)]
    ∃ r, fresh.run moves = some r ∧ CounterLasts moves fresh ∧
      r.shared = 9 ∧ r.stamp? 0 = some 8 ∧ r.stamp? 1 = some 7 ∧ r.stamp? 2 = some 9 ∧
      (∀ i, r.stamp? i = some 9 → i = 2) ∧ (8 : Int64) < 9 := by
  intro moves
  have hcounter : CounterLasts moves fresh := by decide
  have hrun : fresh.run moves = some ⟨9, _⟩ := rfl
  obtain ⟨hpast, -, hdistinct, -⟩ := stamps_of_race hrun hcounter
  have hafter := (hpast (moves.take 8) (moves.drop 8) ⟨8, _⟩ rfl rfl).2 0 2 8 9 rfl rfl rfl
  exact ⟨_, hrun, hcounter, rfl, rfl, rfl, rfl, fun i hi => hdistinct i 2 9 hi rfl, hafter.2⟩

end Race

end ServiceDoubles.Stamp
