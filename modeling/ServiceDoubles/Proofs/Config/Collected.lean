import ServiceDoubles.Proofs.Config.Reading

/-!
# ServiceDoubles.Proofs.Config.Collected

**What was found is what the options give.**

What the reader has found after some options is a matter of which they are, not of their order
(`Collects`), and it goes on exactly as long as they can stand on one command line (`Sound`). Both
are kept by one option more, and so by all that follow.
-/

namespace ServiceDoubles.Config

open Text (Raw)

/-- The options can stand on one command line. -/
structure Sound (options : List WholeOption) : Prop where
  plain : ∀ o ∈ options, o.Plain
  text : ∀ o ∈ options, ∀ value, o.value? = some value → ∃ s, value = Raw.ofString s
  once : options.Pairwise fun o o' => o.name ≠ o'.name

/-- What was found is what these options give. -/
structure Collects (options : List WholeOption) (g : Given) : Prop where
  realService : g.realService = true ↔ .realService ∈ options
  region : ∀ s, g.region = some s ↔ ∃ o ∈ options, o.value? = some (Raw.ofString s)
  settled : g.waiting = none

/-! ### What the options give -/

variable {before options : List WholeOption} {o : WholeOption} {args rest : List Raw}
  {g g₁ g' : Given}

theorem Sound.perm {options' : List WholeOption} (h : Sound options)
    (hperm : options.Perm options') : Sound options' where
  plain o ho := h.plain o (hperm.mem_iff.mpr ho)
  text o ho := h.text o (hperm.mem_iff.mpr ho)
  once := h.once.perm hperm Ne.symm

theorem Sound.sublist {options' : List WholeOption} (h : Sound options)
    (hsub : options'.Sublist options) : Sound options' where
  plain o ho := h.plain o (hsub.mem ho)
  text o ho := h.text o (hsub.mem ho)
  once := h.once.sublist hsub

theorem WholeOption.name_eq_region_iff : o.name = .region ↔ ∃ value, o.value? = some value := by
  cases o <;> simp [WholeOption.name, WholeOption.value?]

theorem WholeOption.name_of_value {value : Raw} (h : o.value? = some value) : o.name = .region :=
  name_eq_region_iff.mpr ⟨value, h⟩

theorem WholeOption.eq_realService_of_value (h : o.value? = none) : o = .realService := by
  cases o with
  | realService => rfl
  | region _ => cases h
  | regionIs _ => cases h

theorem WholeOption.name_eq_realService_iff : o.name = .realService ↔ o = .realService := by
  cases o <;> simp [WholeOption.name]

theorem Given.add_of_value {value : Raw} (ho : o.value? = some value) :
    g.add o = g.withRegion value := by
  cases o with
  | realService => cases ho
  | region _ => cases ho; rfl
  | regionIs _ => cases ho; rfl

theorem Collects.region_eq_none_iff (hs : Sound options) (h : Collects options g) :
    g.region = none ↔ ∀ o ∈ options, o.value? = none := by
  constructor
  · intro hnone o ho
    cases hvalue : o.value? with
    | none => rfl
    | some value =>
        obtain ⟨s, rfl⟩ := hs.text o ho value hvalue
        have hsome := (h.region s).mpr ⟨o, ho, hvalue⟩
        rw [hnone] at hsome
        cases hsome
  · intro hall
    cases hregion : g.region with
    | none => rfl
    | some s =>
        obtain ⟨o, ho, hvalue⟩ := (h.region s).mp hregion
        rw [hall o ho] at hvalue
        cases hvalue

/-- Where a region was found, no option gives another. -/
theorem Collects.value_eq {region : String} {value : Raw} (hs : Sound options)
    (h : Collects options g) (hregion : g.region = some region) (ho : o ∈ options)
    (hvalue : o.value? = some value) : value = Raw.ofString region := by
  obtain ⟨s, rfl⟩ := hs.text o ho value hvalue
  have hsome := (h.region s).mpr ⟨o, ho, hvalue⟩
  rw [Option.some.inj (hsome.symm.trans hregion)]

theorem sound_append_singleton_iff :
    Sound (before ++ [o]) ↔ Sound before ∧ o.Plain ∧
      (∀ value, o.value? = some value → ∃ s, value = Raw.ofString s) ∧
        ∀ o' ∈ before, o'.name ≠ o.name := by
  constructor
  · intro h
    exact ⟨h.sublist (List.sublist_append_left before [o]), h.plain o (by simp), h.text o (by simp),
      fun o' ho' => (List.pairwise_append.mp h.once).2.2 o' ho' o (by simp)⟩
  · rintro ⟨h, hplain, htext, honce⟩
    refine ⟨?_, ?_, List.pairwise_append.mpr ⟨h.once, List.pairwise_singleton _ _, by simpa⟩⟩
    · simpa [or_imp, forall_and] using ⟨h.plain, hplain⟩
    · simpa [or_imp, forall_and] using ⟨h.text, htext⟩

/-- An option that is added is one more of those collected. -/
theorem Collects.add (hs : Sound before) (hc : Collects before g) (hplain : o.Plain)
    (h : g.add o = .ok g₁) : Sound (before ++ [o]) ∧ Collects (before ++ [o]) g₁ := by
  rw [sound_append_singleton_iff]
  cases hvalue : o.value? with
  | none =>
      obtain rfl := WholeOption.eq_realService_of_value hvalue
      obtain ⟨hnot, rfl⟩ := Given.add_realService_eq_ok_iff.mp h
      refine ⟨⟨hs, hplain, nofun, ?_⟩, ?_, ?_, hc.settled⟩
      · intro o' ho' hname
        rw [WholeOption.name, WholeOption.name_eq_realService_iff] at hname
        rw [hname, ← hc.realService, hnot] at ho'
        cases ho'
      · simp
      · intro s
        simp [hc.region, WholeOption.value?]
  | some value =>
      obtain ⟨hnone, s, rfl, rfl⟩ := Given.withRegion_eq_ok_iff.mp (Given.add_of_value hvalue ▸ h)
      have hbefore := (hc.region_eq_none_iff hs).mp hnone
      refine ⟨⟨hs, hplain, ?_, ?_⟩, ?_, ?_, rfl⟩
      · intro value hsome
        exact ⟨s, (Option.some.inj hsome).symm⟩
      · intro o' ho' hname
        rw [WholeOption.name_of_value hvalue, WholeOption.name_eq_region_iff] at hname
        obtain ⟨value', hvalue'⟩ := hname
        rw [hbefore o' ho'] at hvalue'
        cases hvalue'
      · have ho : WholeOption.realService ≠ o := by
          rintro rfl
          cases hvalue
        simp [hc.realService, ho]
      · intro s'
        simp +contextual [or_and_right, exists_or, hbefore, hvalue, ofString_inj]

/-- An option that can stand behind the others is added. -/
theorem exists_add (hs : Sound (before ++ [o])) (hc : Collects before g) :
    ∃ g₁, g.add o = .ok g₁ := by
  obtain ⟨hbefore, _, htext, honce⟩ := sound_append_singleton_iff.mp hs
  cases hvalue : o.value? with
  | none =>
      obtain rfl := WholeOption.eq_realService_of_value hvalue
      have hnot : g.realService = false := by
        rw [Bool.eq_false_iff, ne_eq, hc.realService]
        exact fun hmem => honce _ hmem rfl
      exact ⟨_, Given.add_realService_eq_ok_iff.mpr ⟨hnot, rfl⟩⟩
  | some value =>
      obtain ⟨s, rfl⟩ := htext value hvalue
      have hnone : g.region = none := by
        rw [hc.region_eq_none_iff hbefore]
        intro o' ho'
        cases hvalue' : o'.value? with
        | none => rfl
        | some value' =>
            have hname := WholeOption.name_of_value hvalue
            exact absurd ((WholeOption.name_of_value hvalue').trans hname.symm) (honce o' ho')
      rw [Given.add_of_value hvalue]
      exact ⟨_, Given.withRegion_eq_ok_iff.mpr ⟨hnone, s, rfl, rfl⟩⟩

/-- Behind the options collected so far, arguments that are accepted have all of them collected. -/
theorem Collects.arguments (hs : Sound before) (hc : Collects before g)
    (hspells : Spells options args) (h : g.arguments args = .ok g') :
    Sound (before ++ options) ∧ Collects (before ++ options) g' := by
  induction options generalizing before g args with
  | nil =>
      have hargs : g.arguments args = .ok g := by
        rw [← Given.settle_of_none hc.settled]
        obtain rfl | rfl := hspells <;> rfl
      obtain rfl : g = g' := Except.ok.inj (hargs.symm.trans h)
      rw [List.append_nil]
      exact ⟨hs, hc⟩
  | cons o options ih =>
      obtain ⟨rest, rfl, hrest⟩ := spells_cons_iff.mp hspells
      obtain ⟨hplain, g₁, hg₁, h⟩ := (Given.arguments_words_iff hc.settled).mp h
      obtain ⟨hs₁, hc₁⟩ := hc.add hs hplain hg₁
      rw [List.append_cons]
      exact ih hs₁ hc₁ hrest h

/-- Options that can stand on one command line with those collected so far are accepted. -/
theorem exists_arguments (hs : Sound (before ++ options)) (hc : Collects before g)
    (hspells : Spells options args) : ∃ g', g.arguments args = .ok g' := by
  induction options generalizing before g args with
  | nil =>
      refine ⟨g, ?_⟩
      rw [← Given.settle_of_none hc.settled]
      obtain rfl | rfl := hspells <;> rfl
  | cons o options ih =>
      obtain ⟨rest, rfl, hrest⟩ := spells_cons_iff.mp hspells
      rw [List.append_cons] at hs
      have hs₁ := hs.sublist (List.sublist_append_left (before ++ [o]) options)
      obtain ⟨hbefore, hplain, _⟩ := sound_append_singleton_iff.mp hs₁
      obtain ⟨g₁, hg₁⟩ := exists_add hs₁ hc
      obtain ⟨g', hg'⟩ := ih hs (hc.add hbefore hplain hg₁).2 hrest
      exact ⟨g', (Given.arguments_words_iff hc.settled).mpr ⟨hplain, g₁, hg₁, hg'⟩⟩

end ServiceDoubles.Config
