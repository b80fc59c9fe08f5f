import ServiceDoubles.Proofs.Sequence

/-!
# ServiceDoubles.Proofs.Sequence.Walk

What sequences and runners have in common: both are a **walk** over entries, and differ only in the
`Guide` that says which code an entry gets and where the walk ends.

Design points:
- Which entries a walk invokes is observed by the entries themselves. `Entry.noting` makes an entry
  note its place and its code in a journal before it does what it does, and by `walk_noting` that
  changes nothing else. So a statement about journals is one about the code that runs.
- `Guide.Through` is a stretch of a walk that goes well and does not end. Every walk is such a
  stretch, or such a stretch up to one entry that is the last (`exists_through`); what a walk does
  is read off at that entry.
-/

namespace ServiceDoubles

variable {σ : Type}

/-- The code that an entry gets, and whether the walk ends behind it. The name of the entry
decides both. -/
structure Guide where
  code : String → Option String
  ends : String → Bool

/-- Goes through the entries in order, up to the first that fails or ends the walk, and counts
them. -/
def walk (g : Guide) : List (Entry σ) → σ → Outcome Nat × σ
  | [], s => (.ok 0, s)
  | e :: rest, s =>
    Act.goOn (fun _ => countOn (g.ends e.name) (walk g rest))
      ((e.invoke (g.code e.name)).effect s)

/-- The guide of a sequence. -/
def RunOptions.guide (o : RunOptions) : Guide where
  code := o.codeFor
  ends name := o.endsAfter (o.codeFor name)

/-- The guide of a runner. -/
def Runner.guide (r : Runner σ) : Guide where
  code name := if r.stopMethod = some name then r.code else none
  ends name := r.stopMethod = some name

theorem Sequence.effect_run (o : RunOptions) (entries : List (Entry σ)) (s : σ) :
    (run o entries).effect s = walk o.guide entries s := by
  induction entries generalizing s with
  | nil => rfl
  | cons e rest ih =>
      rw [effect_run_cons, funext ih]
      rfl

theorem Runner.effect_run_eq_walk (r : Runner σ) (s : σ) :
    r.run.effect s = walk r.guide (r.entries.map (·.entry)) s := by
  rw [effect_run]
  generalize r.entries = entries
  induction entries generalizing s with
  | nil => rfl
  | cons e rest ih =>
      rw [effect_runEntries_cons, funext ih]
      rfl

section

variable {g : Guide} {e : Entry σ} {rest : List (Entry σ)} {s t : σ}

theorem walk_cons_of_ok (h : (e.invoke (g.code e.name)).effect s = (.ok (), t)) :
    walk g (e :: rest) s = countOn (g.ends e.name) (walk g rest) t := by
  rw [walk, h, Act.goOn_ok]

theorem walk_cons_of_not_ok (h : ((e.invoke (g.code e.name)).effect s).1 ≠ .ok ()) :
    walk g (e :: rest) s =
      Act.goOn (fun _ u => (.ok 1, u)) ((e.invoke (g.code e.name)).effect s) := by
  rw [walk]
  rcases hrun : (e.invoke (g.code e.name)).effect s with ⟨o, u⟩
  cases o with
  | ok => simp [hrun] at h
  | fault cause => rfl
  | unwound reason => rfl

end

/-! ### Journals -/

/-- The invocations that took place: the place of the entry, and the code that it got. -/
abbrev Journal : Type := List (Nat × Option String)

/-- The entry, which first notes the invocation in a journal beside its state. -/
def Entry.noting (place : Nat) (e : Entry σ) : Entry (σ × Journal) where
  name := e.name
  invoke code := fun s =>
    let r := e.invoke code s.1
    ⟨r.outcome, (r.state, s.2 ++ [(place, code)]), r.events⟩

/-- The entries, which note their invocations. The first of them has the place `first`. -/
def noting (first : Nat) (entries : List (Entry σ)) : List (Entry (σ × Journal)) :=
  (entries.zipIdx first).map fun x => x.1.noting x.2

/-- The runner whose entries note their invocations. -/
def Runner.noting (r : Runner σ) : Runner (σ × Journal) where
  code := r.code
  stopMethod := r.stopMethod
  entries := r.entries.zipIdx.map fun x => ⟨x.1.service, x.1.entry.noting x.2⟩

theorem noting_cons (first : Nat) (e : Entry σ) (rest : List (Entry σ)) :
    noting first (e :: rest) = e.noting first :: noting (first + 1) rest := by
  rw [noting, List.zipIdx_cons, List.map_cons, noting]

theorem Runner.entries_noting (r : Runner σ) :
    r.noting.entries.map (·.entry) = ServiceDoubles.noting 0 (r.entries.map (·.entry)) := by
  simp only [noting, ServiceDoubles.noting, List.map_map, List.zipIdx_map]
  rfl

theorem Entry.effect_noting (place : Nat) (e : Entry σ) (code : Option String) (s : σ)
    (journal : Journal) :
    ((e.noting place).invoke code).effect (s, journal) =
      (((e.invoke code).effect s).1, ((e.invoke code).effect s).2, journal ++ [(place, code)]) :=
  rfl

/-- The invocations of a walk whose first entry has the place `place`. -/
def invocations (g : Guide) (place : Nat) : List (Entry σ) → σ → Journal
  | [], _ => []
  | e :: rest, s =>
    (place, g.code e.name) ::
      match (e.invoke (g.code e.name)).effect s with
      | (.ok _, t) => if g.ends e.name then [] else invocations g (place + 1) rest t
      | _ => []

section

variable {g : Guide} {place : Nat} {e : Entry σ} {rest : List (Entry σ)} {s t : σ}

theorem invocations_cons_of_ends (h : g.ends e.name = true) :
    invocations g place (e :: rest) s = [(place, g.code e.name)] := by
  rw [invocations]
  split
  · rw [if_pos h]
  · rfl

theorem invocations_cons_of_not_ok (h : ((e.invoke (g.code e.name)).effect s).1 ≠ .ok ()) :
    invocations g place (e :: rest) s = [(place, g.code e.name)] := by
  rw [invocations]
  split
  next hok => simp [hok] at h
  next => rfl

theorem invocations_cons_of_goes_on (h : (e.invoke (g.code e.name)).effect s = (.ok (), t))
    (hends : g.ends e.name = false) :
    invocations g place (e :: rest) s =
      (place, g.code e.name) :: invocations g (place + 1) rest t := by
  simp only [invocations, h, hends, Bool.false_eq_true, if_false]

/-- The first entry is invoked in any case. -/
theorem invocations_eq_nil_iff (entries : List (Entry σ)) :
    invocations g place entries s = [] ↔ entries = [] := by
  cases entries with
  | nil => exact iff_of_true rfl rfl
  | cons e rest => exact iff_of_false (List.cons_ne_nil _ _) (List.cons_ne_nil _ _)

end

/-- Noting the invocations changes nothing but the journal. -/
theorem walk_noting (g : Guide) (place : Nat) (entries : List (Entry σ)) (s : σ)
    (journal : Journal) :
    walk g (noting place entries) (s, journal) =
      ((walk g entries s).1, (walk g entries s).2,
        journal ++ invocations g place entries s) := by
  induction entries generalizing place s journal with
  | nil =>
      rw [invocations, List.append_nil]
      rfl
  | cons e rest ih =>
      rcases hrun : (e.invoke (g.code e.name)).effect s with ⟨o, t⟩
      have hnoted : ((e.noting place).invoke (g.code (e.noting place).name)).effect (s, journal) =
          (o, t, journal ++ [(place, g.code e.name)]) := by
        rw [Entry.effect_noting]
        exact congrArg (fun r => (r.1, r.2, _)) hrun
      rw [noting_cons]
      cases o with
      | ok =>
          rw [walk_cons_of_ok hnoted, walk_cons_of_ok hrun]
          change countOn (g.ends e.name) _ _ = _
          cases hends : g.ends e.name with
          | true => rw [countOn_of_ends, countOn_of_ends, invocations_cons_of_ends hends]
          | false =>
              rw [invocations_cons_of_goes_on hrun hends, countOn, countOn, if_neg, if_neg, ih,
                List.append_assoc, List.singleton_append]
              · rcases walk g rest t with ⟨o', u⟩
                cases o' <;> rfl
              · exact Bool.false_ne_true
              · exact Bool.false_ne_true
      | fault cause =>
          rw [walk_cons_of_not_ok (by simp [hnoted]), walk_cons_of_not_ok (by simp [hrun]),
            invocations_cons_of_not_ok (by simp [hrun]), hnoted, hrun]
          rfl
      | unwound reason =>
          rw [walk_cons_of_not_ok (by simp [hnoted]), walk_cons_of_not_ok (by simp [hrun]),
            invocations_cons_of_not_ok (by simp [hrun]), hnoted, hrun]
          rfl

theorem Sequence.effect_run_noting (o : RunOptions) (entries : List (Entry σ)) (s : σ) :
    (run o (noting 0 entries)).effect (s, []) =
      (((run o entries).effect s).1, ((run o entries).effect s).2,
        invocations o.guide 0 entries s) := by
  rw [effect_run, effect_run, walk_noting, List.nil_append]

theorem Runner.effect_run_noting (r : Runner σ) (s : σ) :
    r.noting.run.effect (s, []) =
      ((r.run.effect s).1, (r.run.effect s).2,
        invocations r.guide 0 (r.entries.map (·.entry)) s) := by
  have hguide : r.noting.guide = r.guide := rfl
  rw [effect_run_eq_walk, effect_run_eq_walk, entries_noting, hguide, walk_noting, List.nil_append]

/-! ### Stretches that go well -/

/-- The entries go well one after the other from `s` to `t`, and none of them ends the walk. -/
inductive Guide.Through (g : Guide) : List (Entry σ) → σ → σ → Prop
  | nil (s : σ) : Through g [] s s
  | cons {e : Entry σ} {rest : List (Entry σ)} {s t u : σ} :
      (e.invoke (g.code e.name)).effect s = (.ok (), t) → g.ends e.name = false →
      Through g rest t u → Through g (e :: rest) s u

namespace Guide.Through

variable {g : Guide} {before : List (Entry σ)} {s t : σ}

/-- Behind the stretch the walk goes on, and counts on. -/
theorem walk_append (h : g.Through before s t) (rest : List (Entry σ)) :
    walk g (before ++ rest) s =
      Act.goOn (fun n u => (.ok (n + before.length), u)) (walk g rest t) := by
  induction h with
  | nil s =>
      rw [List.nil_append]
      rcases walk g rest s with ⟨o, u⟩
      cases o <;> rfl
  | @cons e before s t u he hends _ ih =>
      rw [List.cons_append, walk_cons_of_ok he, hends]
      simp only [countOn, Bool.false_eq_true, if_false, ih]
      rcases walk g rest u with ⟨o, v⟩
      cases o with
      | ok n => simp [Nat.add_assoc]
      | fault cause => rfl
      | unwound reason => rfl

/-- A stretch that goes well is walked to its end. -/
theorem walk_eq (h : g.Through before s t) : walk g before s = (.ok before.length, t) := by
  have hall := h.walk_append []
  rw [List.append_nil] at hall
  rw [hall, walk, Act.goOn_ok, Nat.zero_add]

theorem invocations_append (h : g.Through before s t) (place : Nat) (rest : List (Entry σ)) :
    invocations g place (before ++ rest) s =
      invocations g place before s ++ invocations g (place + before.length) rest t := by
  induction h generalizing place with
  | nil s => rfl
  | @cons e before s t u he hends _ ih =>
      rw [List.cons_append, invocations_cons_of_goes_on he hends,
        invocations_cons_of_goes_on he hends, ih, List.cons_append, List.length_cons,
        Nat.add_comm before.length, Nat.add_assoc]

theorem not_ends (h : g.Through before s t) : ∀ e ∈ before, g.ends e.name = false := by
  induction h with
  | nil s => exact fun _ he => absurd he List.not_mem_nil
  | cons _ hends _ ih => exact List.forall_mem_cons.mpr ⟨hends, ih⟩

/-- Another guide goes the same way if it gives the same codes and does not end there either. -/
theorem congr {g' : Guide} (h : g.Through before s t)
    (hcode : ∀ e ∈ before, g'.code e.name = g.code e.name)
    (hends : ∀ e ∈ before, g'.ends e.name = false) : g'.Through before s t := by
  induction h with
  | nil s => exact .nil s
  | cons he _ _ ih =>
      obtain ⟨hcode, hcodes⟩ := List.forall_mem_cons.mp hcode
      obtain ⟨hend, hends⟩ := List.forall_mem_cons.mp hends
      exact .cons (hcode ▸ he) hend (ih hcodes hends)

/-- The same stretch makes the same invocations. -/
theorem invocations_congr {g' : Guide} (h : g.Through before s t)
    (hcode : ∀ e ∈ before, g'.code e.name = g.code e.name)
    (hends : ∀ e ∈ before, g'.ends e.name = false) (place : Nat) :
    invocations g' place before s = invocations g place before s := by
  induction h generalizing place with
  | nil s => rfl
  | cons he hend _ ih =>
      obtain ⟨hcode, hcodes⟩ := List.forall_mem_cons.mp hcode
      obtain ⟨hend', hends⟩ := List.forall_mem_cons.mp hends
      rw [invocations_cons_of_goes_on he hend, invocations_cons_of_goes_on (hcode ▸ he) hend',
        hcode, ih hcodes hends]

end Guide.Through

/-- A walk goes through all entries, or up to one that does not go well or that ends it. -/
theorem exists_through (g : Guide) (entries : List (Entry σ)) (s : σ) :
    (∃ t, g.Through entries s t) ∨
    ∃ before e after t, entries = before ++ e :: after ∧ g.Through before s t ∧
      (((e.invoke (g.code e.name)).effect t).1 ≠ .ok () ∨ g.ends e.name = true) := by
  induction entries generalizing s with
  | nil => exact .inl ⟨s, .nil s⟩
  | cons e rest ih =>
      by_cases hok : ((e.invoke (g.code e.name)).effect s).1 = .ok ()
      · cases hends : g.ends e.name with
        | true => exact .inr ⟨[], e, rest, s, rfl, .nil s, .inr hends⟩
        | false =>
            have he : (e.invoke (g.code e.name)).effect s =
                (.ok (), ((e.invoke (g.code e.name)).effect s).2) := Prod.ext hok rfl
            rcases ih ((e.invoke (g.code e.name)).effect s).2 with
              ⟨t, h⟩ | ⟨before, e', after, t, hsplit, h, hlast⟩
            · exact .inl ⟨t, .cons he hends h⟩
            · exact .inr ⟨e :: before, e', after, t, congrArg (e :: ·) hsplit,
                .cons he hends h, hlast⟩
      · exact .inr ⟨[], e, rest, s, rfl, .nil s, .inl hok⟩

theorem Guide.through_of_walk {g : Guide} (hends : ∀ name, g.ends name = false)
    {entries : List (Entry σ)} {s t : σ} (h : walk g entries s = (.ok entries.length, t)) :
    g.Through entries s t := by
  induction entries generalizing s with
  | nil =>
      obtain rfl : s = t := congrArg Prod.snd h
      exact .nil s
  | cons e rest ih =>
      rcases hrun : (e.invoke (g.code e.name)).effect s with ⟨o, u⟩
      rw [walk, hrun] at h
      cases o with
      | fault cause => simp at h
      | unwound reason => simp at h
      | ok =>
          rw [Act.goOn_ok, hends, countOn] at h
          rcases hlater : walk g rest u with ⟨o', v⟩
          cases o' with
          | fault cause => simp [hlater] at h
          | unwound reason => simp [hlater] at h
          | ok n =>
              simp only [Bool.false_eq_true, if_false, hlater, Act.goOn_ok, Prod.mk.injEq,
                Outcome.ok.injEq, List.length_cons, Nat.add_right_cancel_iff] at h
              obtain ⟨rfl, rfl⟩ := h
              exact .cons hrun (hends _) (ih hlater)

/-- A guide that never ends a walk goes through exactly the entries of which all are counted. -/
theorem Guide.through_iff_walk {g : Guide} (hends : ∀ name, g.ends name = false)
    (entries : List (Entry σ)) (s t : σ) :
    g.Through entries s t ↔ walk g entries s = (.ok entries.length, t) :=
  ⟨fun h => h.walk_eq, through_of_walk hends⟩

end ServiceDoubles
