import ServiceDoubles.Proofs.Sequence.Places

/-!
# ServiceDoubles.Proofs.Sequence.StopMethod

**The stop method of a runner.** A runner goes up to the first entry that has its stop method, gives
that one its code, and goes no further. It warns beforehand if there is no such entry. The warning
goes by the names alone, and so does the stop: whatever the entries do, a runner that warns never
comes to its stop method, and one that does not warn comes to it if its entries go well.
-/

namespace ServiceDoubles.Runner

variable {σ : Type}

/-! ### What is reported of a run -/

/-- What is reported of the turn at a place: that the entry is about to run, and what it reports
itself. -/
def told (given : Nat → Option String) (entries : List (RunnerEntry σ)) (s : σ) (i : Nat) :
    List Event :=
  match entries[i]? with
  | none => []
  | some e =>
    addingEvent e.service e.entry.name (given i) ::
      ((e.entry.invoke (given i)).run (stateAt given (entries.map (·.entry)) s i)).events

/-- The stop method, if the runner warns that no entry has it. -/
def warnedOf (r : Runner σ) : List String := r.stopMethod.toList.filter (· ∉ r.names)

/-- What the entries of a run report, and what is reported of them. -/
def report (r : Runner σ) (entries : List (RunnerEntry σ)) (s : σ) : List Event :=
  ((runEntries r.code r.stopMethod entries).run s).events

theorem events_run (r : Runner σ) (s : σ) :
    (r.run.run s).events =
      r.warnedOf.map (unmatchedEvent · r.names) ++ r.report r.entries s := by
  have hwarn : r.warnUnmatched.run s =
      ⟨.ok (), s, r.warnedOf.map (unmatchedEvent · r.names)⟩ := by
    unfold warnUnmatched warnedOf
    cases r.stopMethod with
    | none => rfl
    | some stop =>
        by_cases h : stop ∈ r.names
        · simp [h]
        · simp [h]
  rw [run, Act.run_bind_of_ok hwarn]
  rfl

theorem report_cons (r : Runner σ) (e : RunnerEntry σ) (rest : List (RunnerEntry σ)) (s : σ) :
    let call := (e.entry.invoke (r.guide.code e.entry.name)).run s
    r.report (e :: rest) s =
      addingEvent e.service e.entry.name (r.guide.code e.entry.name) ::
        (call.events ++
          match call.outcome with
          | .ok _ => if r.guide.ends e.entry.name then [] else r.report rest call.state
          | _ => []) := by
  intro call
  have hcount (a : Act σ Nat) (t : σ) :
      ((do return (← a) + 1 : Act σ Nat).run t).events = (a.run t).events := by
    rw [Act.events_bind]
    cases (a.run t).outcome <;> exact List.append_nil _
  have hends : r.guide.ends e.entry.name = decide (r.stopMethod = some e.entry.name) := rfl
  rw [report, runEntries, Act.events_bind, Act.run_report, Act.events_bind, hends]
  simp only [decide_eq_true_eq]
  split
  next h =>
    have hcode : r.guide.code e.entry.name = r.code := if_pos h
    simp only [call, hcode, Act.run_pure]
    cases ((e.entry.invoke r.code).run s).outcome <;> rfl
  next h =>
    have hcode : r.guide.code e.entry.name = none := if_neg h
    simp only [call, hcode, hcount]
    cases ((e.entry.invoke none).run s).outcome <;> rfl

section

variable {r : Runner σ} {given : Nat → Option String} {entries : List (RunnerEntry σ)} {s : σ}

theorem getElem?_entries {i : Nat} {e : Entry σ} (h : (entries.map (·.entry))[i]? = some e) :
    ∃ service, entries[i]? = some ⟨service, e⟩ := by
  rw [List.getElem?_map, Option.map_eq_some_iff] at h
  obtain ⟨⟨service, _⟩, h, rfl⟩ := h
  exact ⟨service, h⟩

/-- Behind places at which the run goes on it reports what the entries behind them report. -/
theorem report_take {n : Nat}
    (h : ∀ i < n, r.guide.GoesOn given (entries.map (·.entry)) s i) (rest : List (RunnerEntry σ)) :
    r.report (entries.take n ++ rest) s =
      (List.range n).flatMap (told given entries s) ++
        r.report rest (stateAt given (entries.map (·.entry)) s n) := by
  induction n generalizing rest with
  | zero => rfl
  | succ n ih =>
      obtain ⟨e, he, hcode, hends, hok⟩ := h n (by omega)
      obtain ⟨e', he', hcall⟩ := exists_entry_of_outcomeAt hok
      obtain rfl : e = e' := Option.some.inj (he.symm.trans he')
      obtain ⟨service, hservice⟩ := getElem?_entries he
      obtain ⟨houtcome, hstate⟩ := Act.run_of_effect hcall
      have htake : entries.take (n + 1) ++ rest = entries.take n ++ ⟨service, e⟩ :: rest := by
        rw [List.take_add_one, hservice, Option.toList_some, List.append_assoc]
        rfl
      rw [htake, ih fun i hi => h i (by omega), report_cons, List.range_succ, List.flatMap_append,
        List.flatMap_singleton, List.append_assoc]
      simp only [← hcode, houtcome, hstate, hends, told, hservice]
      rfl

/-- A run that goes on at every place reports every turn. -/
theorem report_of_all
    (h : ∀ i < entries.length, r.guide.GoesOn given (entries.map (·.entry)) s i) :
    r.report entries s = (List.range entries.length).flatMap (told given entries s) := by
  have htake := report_take h []
  rw [List.take_length, List.append_nil] at htake
  rw [htake]
  exact List.append_nil _

/-- A run that ends at a place reports the turns up to there. -/
theorem report_of_last {k : Nat} {e : Entry σ} {o : Outcome Unit}
    (h : ∀ i < k, r.guide.GoesOn given (entries.map (·.entry)) s i)
    (he : (entries.map (·.entry))[k]? = some e) (hcode : given k = r.guide.code e.name)
    (ho : outcomeAt given (entries.map (·.entry)) s k = some o)
    (hlast : o ≠ .ok () ∨ r.guide.ends e.name = true) :
    r.report entries s = (List.range (k + 1)).flatMap (told given entries s) := by
  obtain ⟨e', he', hcall⟩ := exists_entry_of_outcomeAt ho
  obtain rfl : e = e' := Option.some.inj (he.symm.trans he')
  obtain ⟨service, hservice⟩ := getElem?_entries he
  obtain ⟨houtcome, -⟩ := Act.run_of_effect hcall
  have htake := report_take h (⟨service, e⟩ :: entries.drop (k + 1))
  have hsplit : entries.take k ++ ⟨service, e⟩ :: entries.drop (k + 1) = entries := by
    obtain ⟨hk, hget⟩ := List.getElem?_eq_some_iff.mp hservice
    rw [← hget, ← List.drop_eq_getElem_cons hk, List.take_append_drop]
  rw [hsplit, report_cons] at htake
  rw [htake, List.range_succ, List.flatMap_append, List.flatMap_singleton]
  simp only [← hcode, houtcome, told, hservice]
  congr 2
  rcases hlast with hfault | hends
  · cases o with
    | ok => exact absurd rfl hfault
    | fault cause => exact List.append_nil _
    | unwound reason => exact List.append_nil _
  · rw [hends]
    cases o <;> exact List.append_nil _

end

/-! ### The place of the stop method -/

/-- The place of the first entry that has the stop method, or the number of entries if there is
none. -/
def stopPlace (r : Runner σ) : Nat := r.names.findIdx fun name => r.stopMethod = some name

/-- The code for each place: the runner's at the place of the stop method, and none elsewhere. -/
def given (r : Runner σ) (i : Nat) : Option String := if i = r.stopPlace then r.code else none

/-- How many entries the runner goes through if they go well. -/
def reach (r : Runner σ) : Nat :=
  if r.stopPlace < r.entries.length then r.stopPlace + 1 else r.entries.length

section

variable {r : Runner σ} {s : σ} {i : Nat} {e : Entry σ}

theorem names_getElem? (h : (r.entries.map (·.entry))[i]? = some e) :
    r.names[i]? = some e.name := by
  obtain ⟨service, h⟩ := getElem?_entries h
  rw [names, List.getElem?_map, h, Option.map_some]

/-- The entries before the place of the stop method do not have it, and the one there does. -/
theorem ends_iff_stopPlace (he : (r.entries.map (·.entry))[i]? = some e) (hi : i ≤ r.stopPlace) :
    r.guide.ends e.name = true ↔ i = r.stopPlace := by
  have hends : r.guide.ends e.name = decide (r.stopMethod = some e.name) := rfl
  obtain ⟨hlength, hname⟩ := List.getElem?_eq_some_iff.mp (names_getElem? he)
  rw [hends, ← hname]
  constructor
  · intro hstop
    refine Classical.byContradiction fun hne => ?_
    have hbefore := List.not_of_lt_findIdx (Nat.lt_of_le_of_ne hi hne)
    exact Bool.false_ne_true (hbefore.symm.trans hstop)
  · intro hplace
    exact ((List.findIdx_eq hlength).mp hplace.symm).1

theorem given_eq_code (he : (r.entries.map (·.entry))[i]? = some e) (hi : i ≤ r.stopPlace) :
    r.given i = r.guide.code e.name := by
  have hcode : r.guide.code e.name = if r.guide.ends e.name then r.code else none := by
    simp only [guide, decide_eq_true_eq]
  simp only [given, hcode, ends_iff_stopPlace he hi]

theorem reach_le_length (r : Runner σ) : r.reach ≤ r.entries.length := by
  unfold reach
  split <;> omega

theorem reach_le_stopPlace (r : Runner σ) : r.reach ≤ r.stopPlace + 1 := by
  have hlength : r.stopPlace ≤ r.names.length := List.findIdx_le_length
  rw [names, List.length_map] at hlength
  unfold reach
  split <;> omega

/-- The run goes on at places before the one of the stop method where the entries go well. -/
theorem goesOn_of_ok (hi : i < r.stopPlace)
    (hok : outcomeAt r.given (r.entries.map (·.entry)) s i = some (.ok ())) :
    r.guide.GoesOn r.given (r.entries.map (·.entry)) s i := by
  obtain ⟨e, he, -⟩ := exists_entry_of_outcomeAt hok
  refine ⟨e, he, given_eq_code he (Nat.le_of_lt hi), ?_, hok⟩
  exact Bool.eq_false_iff.mpr fun hends =>
    Nat.ne_of_lt hi ((ends_iff_stopPlace he (Nat.le_of_lt hi)).mp hends)

end

/-! ### What a run makes -/

/-- The run makes the first `n` turns and ends so. -/
structure Makes (r : Runner σ) (s : σ) (n : Nat) (o : Outcome Nat) : Prop where
  effect : r.noting.run.effect (s, []) =
    (o, stateAt r.given (r.entries.map (·.entry)) s n, journalOf r.given n)
  report : r.report r.entries s = (List.range n).flatMap (told r.given r.entries s)

section

variable {r : Runner σ} {s : σ}

/-- The run ends at a place where the entry fails, and at the place of the stop method. -/
theorem makes_of_last {k : Nat} {o : Outcome Unit} (hk : k ≤ r.stopPlace)
    (hbefore : ∀ i < k, outcomeAt r.given (r.entries.map (·.entry)) s i = some (.ok ()))
    (ho : outcomeAt r.given (r.entries.map (·.entry)) s k = some o)
    (hlast : o ≠ .ok () ∨ k = r.stopPlace) : r.Makes s (k + 1) (o.map fun _ => k + 1) := by
  obtain ⟨e, he, -⟩ := exists_entry_of_outcomeAt ho
  have hgoes : ∀ i < k, r.guide.GoesOn r.given (r.entries.map (·.entry)) s i := fun i hi =>
    goesOn_of_ok (Nat.lt_of_lt_of_le hi hk) (hbefore i hi)
  have hlast := hlast.imp_right (ends_iff_stopPlace he hk).mpr
  obtain ⟨hwalk, hjournal⟩ := Guide.walk_of_last hgoes he (given_eq_code he hk) ho hlast
  refine ⟨?_, report_of_last hgoes he (given_eq_code he hk) ho hlast⟩
  rw [effect_run_noting, effect_run_eq_walk, hwalk, hjournal]

theorem makes_of_ok
    (h : ∀ i < r.reach, outcomeAt r.given (r.entries.map (·.entry)) s i = some (.ok ())) :
    r.Makes s r.reach (.ok r.reach) := by
  by_cases hstop : r.stopPlace < r.entries.length
  · have hreach : r.reach = r.stopPlace + 1 := if_pos hstop
    rw [hreach] at h ⊢
    exact makes_of_last (Nat.le_refl _) (fun i hi => h i (Nat.lt_succ_of_lt hi))
      (h _ (Nat.lt_succ_self _)) (.inr rfl)
  · have hreach : r.reach = r.entries.length := if_neg hstop
    rw [hreach] at h ⊢
    have hgoes : ∀ i < r.entries.length, r.guide.GoesOn r.given (r.entries.map (·.entry)) s i :=
      fun i hi => goesOn_of_ok (Nat.lt_of_lt_of_le hi (Nat.not_lt.mp hstop)) (h i hi)
    have hall := Guide.walk_of_all (by rwa [List.length_map])
    rw [List.length_map] at hall
    refine ⟨?_, report_of_all hgoes⟩
    rw [effect_run_noting, effect_run_eq_walk, hall.1, hall.2]

/-- The run makes some turns, and no more than it can reach. -/
theorem exists_makes (r : Runner σ) (s : σ) : ∃ n o, n ≤ r.reach ∧ r.Makes s n o := by
  have hreach : r.reach ≤ (r.entries.map (·.entry)).length := by
    rw [List.length_map]
    exact r.reach_le_length
  rcases all_ok_or_exists_first r.given s hreach with hall | ⟨k, hk, o, ho, hfault, hbefore⟩
  · exact ⟨_, _, Nat.le_refl _, makes_of_ok hall⟩
  · have hplace : k ≤ r.stopPlace := by
      have := r.reach_le_stopPlace
      omega
    exact ⟨k + 1, _, hk, makes_of_last hplace hbefore ho (.inl hfault)⟩

end

/-! ### The warning -/

theorem mem_warnedOf_iff {r : Runner σ} {stop : String} :
    stop ∈ r.warnedOf ↔ r.stopMethod = some stop ∧ ∀ e ∈ r.entries, e.entry.name ≠ stop := by
  have hnames : stop ∉ r.names ↔ ∀ e ∈ r.entries, e.entry.name ≠ stop := by simp [names]
  rw [warnedOf, List.mem_filter, decide_eq_true_eq, hnames, Option.mem_toList]

/-- A run comes to the method: it invokes an entry that has it. -/
def ComesTo (r : Runner σ) (s : σ) (method : String) : Prop :=
  ∃ x ∈ (r.noting.run.effect (s, [])).2.2, r.names[x.1]? = some method

/-- The two runners differ only in what their entries do. -/
def Alike (r r' : Runner σ) : Prop :=
  r'.code = r.code ∧ r'.stopMethod = r.stopMethod ∧ r'.names = r.names

/-- A runner comes to its stop method if an entry has it and the entries go well. -/
theorem exists_comesTo {r : Runner σ} {stop : String} (hstop : r.stopMethod = some stop)
    (hmem : stop ∈ r.names) (s : σ) : ∃ r', r.Alike r' ∧ r'.ComesTo s stop := by
  let r' : Runner σ :=
    { r with entries := r.entries.map fun e => ⟨e.service, e.entry.name, fun _ => Act.pure ()⟩ }
  have hnames : r'.names = r.names := by
    rw [names, names, List.map_map]
    rfl
  have hplace : r'.stopPlace < r'.names.length :=
    List.findIdx_lt_length_of_exists ⟨stop, hnames ▸ hmem, decide_eq_true hstop⟩
  have hreach : r'.reach = r'.stopPlace + 1 := by
    rw [names, List.length_map] at hplace
    exact if_pos hplace
  have hok : ∀ i < r'.reach, outcomeAt r'.given (r'.entries.map (·.entry)) s i = some (.ok ()) := by
    intro i hi
    have hlength := r'.reach_le_length
    rw [List.length_map] at hlength
    have hi : i < r.entries.length := by omega
    simp only [outcomeAt, r', List.map_map, List.getElem?_map, List.getElem?_eq_getElem hi]
    rfl
  have hname : r'.stopMethod = some r'.names[r'.stopPlace] :=
    of_decide_eq_true ((List.findIdx_eq hplace).mp rfl).1
  refine ⟨r', ⟨rfl, rfl, hnames⟩, (r'.stopPlace, r'.given r'.stopPlace), ?_, ?_⟩
  · rw [(makes_of_ok hok).effect, hreach]
    exact List.mem_map_of_mem (List.mem_range.mpr (Nat.lt_succ_self _))
  · rw [List.getElem?_eq_getElem hplace, ← hname]
    exact hstop

/-- The runner warns of its stop method exactly if no run comes to it, whatever the entries of these
names do. -/
theorem warnedOf_iff_never {r : Runner σ} {stop : String} (s : σ) :
    stop ∈ r.warnedOf ↔ r.stopMethod = some stop ∧ ∀ r', r.Alike r' → ∀ t, ¬r'.ComesTo t stop := by
  rw [mem_warnedOf_iff]
  refine and_congr_right fun hstop => ⟨fun hnone r' hr' t hcomes => ?_, fun hnever e he hname => ?_⟩
  · obtain ⟨x, -, hx⟩ := hcomes
    rw [hr'.2.2, names] at hx
    obtain ⟨e, he, hname⟩ := List.mem_map.mp (List.mem_of_getElem? hx)
    exact hnone e he hname
  · obtain ⟨r', hr', hcomes⟩ := exists_comesTo hstop (List.mem_map.mpr ⟨e, he, hname⟩) s
    exact hnever r' hr' s hcomes

/-- A runner invokes its entries in order up to the first that has its stop method, or all of them
if none has it. Up to there they get no code, and the one with the stop method gets the runner's. If
an entry fails the run ends as that entry does, and otherwise with the number of invocations. The
runner warns beforehand exactly if it has a stop method that no entry has, so that no run can come
to it; besides, each invocation is reported before it takes place. -/
theorem run_stops_at_method (r : Runner σ) (s : σ) :
    let es := r.entries.map (·.entry)
    let ran := r.noting.run.effect (s, [])
    r.run.effect s = (ran.1, ran.2.1) ∧
    ((∀ i < r.reach, outcomeAt r.given es s i = some (.ok ())) →
      ran = (.ok r.reach, stateAt r.given es s r.reach, journalOf r.given r.reach)) ∧
    (∀ k < r.reach, ∀ o, outcomeAt r.given es s k = some o → o ≠ .ok () →
      (∀ i < k, outcomeAt r.given es s i = some (.ok ())) →
      ran = (o.map fun _ => k + 1, stateAt r.given es s (k + 1), journalOf r.given (k + 1))) ∧
    (∀ x ∈ ran.2.2, x.1 < r.reach ∧ (x.2 ≠ none → x.1 = r.stopPlace ∧ x.2 = r.code)) ∧
    (r.run.run s).events =
      r.warnedOf.map (unmatchedEvent · r.names) ++
        ran.2.2.flatMap (fun x => told r.given r.entries s x.1) ∧
    ∀ stop,
      (stop ∈ r.warnedOf ↔ r.stopMethod = some stop ∧ ∀ e ∈ r.entries, e.entry.name ≠ stop) ∧
      (stop ∈ r.warnedOf ↔
        r.stopMethod = some stop ∧ ∀ r', r.Alike r' → ∀ t, ¬r'.ComesTo t stop) := by
  intro es ran
  obtain ⟨n, o, hn, hmakes⟩ := r.exists_makes s
  refine ⟨?same, fun hok => (makes_of_ok hok).effect, ?fault, ?codes, ?events,
    fun stop => ⟨mem_warnedOf_iff, warnedOf_iff_never s⟩⟩
  case same =>
    have hran : ran = _ := r.effect_run_noting s
    rw [hran]
  case fault =>
    intro k hk o ho hfault hbefore
    have hplace : k ≤ r.stopPlace := by
      have := r.reach_le_stopPlace
      omega
    exact (makes_of_last hplace hbefore ho (.inl hfault)).effect
  case codes =>
    intro x hx
    rw [show ran = _ from hmakes.effect] at hx
    obtain ⟨i, hi, rfl⟩ := List.mem_map.mp hx
    refine ⟨Nat.lt_of_lt_of_le (List.mem_range.mp hi) hn, fun hcode => ?_⟩
    by_cases hplace : i = r.stopPlace
    · exact ⟨hplace, if_pos hplace⟩
    · exact absurd (if_neg hplace) hcode
  case events =>
    rw [show ran = _ from hmakes.effect, events_run, hmakes.report, journalOf, List.flatMap_map]

/-- Two of three entries have the stop method, and the runner stops at the first of them. Without a
code it stops there as well; with a stop method that no entry has it warns. -/
theorem run_stops_at_method_second :
    let entry (name : String) : RunnerEntry Nat := ⟨"s3", name, fun _ n => ⟨.ok (), n + 1, []⟩⟩
    let runner (code : Option String) (stop : String) : Runner Nat :=
      { code, stopMethod := some stop, entries := [entry "a", entry "b", entry "b"] }
    (∀ code, (runner code "b").noting.run.effect (0, []) = (.ok 2, 2, [(0, none), (1, code)])) ∧
      (runner none "c").noting.run.effect (0, []) =
        (.ok 3, 3, [(0, none), (1, none), (2, none)]) ∧
      "c" ∈ (runner none "c").warnedOf := by
  intro entry runner
  refine ⟨fun code => ?_, ?_, ?_⟩
  · obtain ⟨-, hok, -⟩ := run_stops_at_method (runner code "b") 0
    have hreach : ∀ i < 2, outcomeAt (runner code "b").given
        ((runner code "b").entries.map (·.entry)) 0 i = some (.ok ()) := by
      intro i hi
      obtain rfl | rfl : i = 0 ∨ i = 1 := by omega
      · rfl
      · rfl
    exact hok hreach
  · obtain ⟨-, hok, -⟩ := run_stops_at_method (runner none "c") 0
    have hreach : ∀ i < 3, outcomeAt (runner none "c").given
        ((runner none "c").entries.map (·.entry)) 0 i = some (.ok ()) := by
      intro i hi
      obtain rfl | rfl | rfl : i = 0 ∨ i = 1 ∨ i = 2 := by omega
      · rfl
      · rfl
      · rfl
    exact hok hreach
  · obtain ⟨-, -, -, -, -, hwarned⟩ := run_stops_at_method (runner none "c") 0
    exact (hwarned "c").1.mpr ⟨rfl, by simp [runner, entry]⟩

end ServiceDoubles.Runner
