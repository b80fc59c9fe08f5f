import ServiceDoubles.Proofs.Client.Record
import ServiceDoubles.Proofs.Fixture.Buckets
import ServiceDoubles.Proofs.Scope.Unwinding

/-!
# ServiceDoubles.Proofs.Fixture.Deletion

**When a bucket fixture deletes its bucket again.**

Two switches matter, and nothing ties them together. Whether the call that creates the bucket reaches
the service is up to the client: its queue must not be active (`received_makeBucket`). Whether the
finalizer asks to delete the bucket is up to the stubber: it must pass through
(`sends_bucketFinalizer_iff`). So the finalizer undoes exactly what the fixture did while the two
switches agree. When they do not, a bucket is left, or one is to be deleted that never was there.
-/

namespace ServiceDoubles

/-- The call that a handle sends. -/
def Storage.Handle.call (h : Storage.Handle) (a : Storage.Action) : Call :=
  ⟨a.operation, Storage.Request.params ⟨h.name, a⟩⟩

namespace Fixture.Deletion

open Scope (visits stateAfter OneUnwinds)
open Storage (Handle Store)

variable {β υ : Type}

/-- The call that creates the bucket of a handle. -/
def creation (h : Handle) (region : Option String) : Call :=
  h.call (.createBucket (some (bucketRegion h.client region)))

/-- The call that deletes the bucket of a handle. -/
def deletion (h : Handle) : Call := h.call .deleteBucket

section

variable [Service β] {reading : Int} {s : Stubber} {c : Client} {region : Option String}

/-- Of what a bucket fixture does the service receives one call, and that only while the queue of the
client is not active. -/
theorem received_makeBucket {scope : Scope (World (Recorded β) υ)} {w : World (Recorded β) υ}
    {h : Handle} {st : Setting (Recorded β) υ}
    (hok : (makeBucket reading s c region).effect ⟨scope, w⟩ = (.ok h, st)) :
    st.world.received c.backend =
      if (c.stubs w).active = true then w.received c.backend
      else w.received c.backend ++ [creation h region] := by
  obtain ⟨-, hsetUp⟩ := setUpBucket_of_makeBucket hok
  obtain ⟨rfl, w₁, response, hservices, hactive, hsend⟩ := exists_call_of_setUpBucket hsetUp
  change (h.client.call (creation h region).operation (creation h region).params).effect w₁ = _
    at hsend
  have hbefore : w₁.received h.client.backend = w.received h.client.backend := by
    rw [World.received, hservices, World.received]
  have hreaches : h.client.reaches (creation h region).operation w₁ =
      !(h.client.stubs w).active := by
    rw [Client.reaches, Client.supports_of_effect_call hsend, Bool.true_and]
    exact congrArg (!·) (hactive h.client.queue)
  have hcall := h.client.received_call (creation h region).operation (creation h region).params w₁
  rw [hsend, hbefore, hreaches] at hcall
  rw [hcall]
  cases (h.client.stubs w).active <;> rfl

/-- The finalizer of a bucket asks to delete it exactly if the stubber passes through, whatever the
client's queue and the service answer. -/
theorem sends_bucketFinalizer_iff (h : Handle) (w : World β υ) :
    h.client.Sends (deletion h) (bucketFinalizer s h : Finalizer (World β υ)).action ↔
      s.useStubs = false := by
  cases hmode : s.useStubs with
  | true =>
      rw [action_bucketFinalizer_of_stubs hmode]
      exact iff_of_false (h.client.not_sends_pure (deletion h) w) Bool.noConfusion
  | false =>
      rw [action_bucketFinalizer_of_passes hmode]
      exact iff_of_true (fun _ => rfl) rfl

end

/-- The finalizer of a bucket deletes it on the service if the stubber passes through and the queue
of the client is not active then. -/
theorem isVacant_after_bucketFinalizer {s : Stubber} (hpasses : s.useStubs = false) {h : Handle}
    (hdelete : h.client.supports "DeleteBucket" = true) {w : World Store υ}
    (hqueue : (h.client.stubs w).active = false) :
    let w' := ((bucketFinalizer s h).action.run w).state
    (w'.services.read h.client.backend).isVacant h.name = false := by
  intro w'
  have hrun : w' = ((h.delete : Act (World Store υ) Unit).run w).state :=
    congrArg (fun a => (Act.run a w).state) (action_bucketFinalizer_of_passes hpasses h)
  rw [hrun, Buckets.run_delete hdelete hqueue, World.read_withService_self]
  exact Store.isVacant_discard _ h.name

/-- A bucket fixture that went well leaves a finalizer. The service received the call that creates
the bucket exactly if the client was inactive, and the finalizer asks to delete the bucket exactly
if the stubber passes through, and else does nothing. So the two come together exactly if the mode
of the stubber agrees with the client when the fixture is called.

If the stubber passes through, the client is inactive when the finalizer has its turn, and at most
one finalizer unwinds, then the bucket is not there and empty after its finalizer. After `finish` it
is only if an older finalizer, which runs later, changed the bucket again. -/
theorem deletion_follows_mode :
    (∀ (β υ : Type) [Service β] (reading : Int) (s : Stubber) (c : Client) (region : Option String)
      (scope : Scope (World (Recorded β) υ)) (w : World (Recorded β) υ) (h : Handle)
      (st : Setting (Recorded β) υ),
      (makeBucket reading s c region).effect ⟨scope, w⟩ = (.ok h, st) →
      let f := bucketFinalizer s h
      let created := c.Reached (creation h region) w st.world
      let deletes := c.Sends (deletion h) f.action
      h.client = c ∧ st.scope = scope.push f ∧
      (created ↔ (c.stubs w).active = false) ∧
      (¬created → st.world.received c.backend = w.received c.backend) ∧
      (deletes ↔ s.useStubs = false) ∧
      (¬deletes → ∀ w', f.action.run w' = ⟨.ok (), w', []⟩) ∧
      ((deletes ↔ created) ↔ s.useStubs = (c.stubs w).active)) ∧
    ∀ (υ : Type) (reading : Int) (s : Stubber) (c : Client) (region : Option String)
      (scope : Scope (World Store υ)) (w : World Store υ) (h : Handle) (st : Setting Store υ),
      (makeBucket reading s c region).effect ⟨scope, w⟩ = (.ok h, st) →
      s.useStubs = false → c.supports "DeleteBucket" = true →
      ∀ (newer : List (Finalizer (World Store υ))) (w' : World Store υ),
        let ended := (Act.runEach (newer.map Scope.add) st.scope).2
        let w₁ := stateAfter w' (visits newer.reverse w')
        let w₂ := ((bucketFinalizer s h).action.run w₁).state
        let w₃ := (ended.finish.run w').state
        OneUnwinds (visits ended.runOrder w') → (c.stubs w₁).active = false →
        w₃ = stateAfter w₂ (visits scope.finalizers.reverse w₂) ∧
        (w₂.services.read c.backend).isVacant h.name = false ∧
        ((w₃.services.read c.backend).isVacant h.name = true →
          (w₃.services.read c.backend).buckets.get? h.name ≠
            (w₂.services.read c.backend).buckets.get? h.name) := by
  constructor
  · intro β υ _ reading s c region scope w h st hok f created deletes
    obtain ⟨hscope, hsetUp⟩ := setUpBucket_of_makeBucket hok
    obtain ⟨rfl, -⟩ := exists_call_of_setUpBucket hsetUp
    have hreceived := received_makeBucket hok
    have hcreated : created ↔ (h.client.stubs w).active = false := by
      change st.world.received h.client.backend = _ ↔ _
      rw [hreceived]
      cases (h.client.stubs w).active <;> simp
    have hdeletes : deletes ↔ s.useStubs = false := sends_bucketFinalizer_iff h w
    refine ⟨rfl, hscope, hcreated, fun hnot => ?_, hdeletes, fun hnot w' => ?_, ?_⟩
    · rw [hreceived, if_pos (by simpa [hcreated] using hnot)]
    · have hstubs : s.useStubs = true := by simpa [hdeletes] using hnot
      change (bucketFinalizer s h).action.run w' = _
      rw [action_bucketFinalizer_of_stubs hstubs, Act.run_pure]
    · rw [hcreated, hdeletes]
      cases s.useStubs <;> cases (h.client.stubs w).active <;> decide
  · intro υ reading s c region scope w h st hok hpasses hdelete newer w' ended w₁ w₂ w₃ hone hqueue
    obtain ⟨hscope, hsetUp⟩ := setUpBucket_of_makeBucket hok
    obtain ⟨rfl, -⟩ := exists_call_of_setUpBucket hsetUp
    have hfinalizers : ended.finalizers = scope.finalizers ++ bucketFinalizer s h :: newer := by
      change (Act.runEach (newer.map Scope.add) st.scope).2.finalizers = _
      rw [Scope.runEach_add, hscope, Scope.push, List.append_assoc, List.singleton_append]
    have hvacant := isVacant_after_bucketFinalizer hpasses hdelete hqueue
    refine ⟨Scope.state_finish_around hfinalizers hone, hvacant, fun hleft hsame => ?_⟩
    rw [Store.isVacant, hsame, ← Store.isVacant] at hleft
    exact absurd (hleft.symm.trans hvacant) Bool.noConfusion

/-- A bucket that was made while all agreed is there when the fixture is done, and gone after
`finish`. -/
theorem deletion_follows_mode_passing :
    let c : Client := ⟨Storage.serviceName, "r", Storage.operations, 0, 0⟩
    let make {β : Type} [Service β] (w : World β Unit) :=
      (makeBucket 5 (Storage.stubber c false) c none).effect
        ⟨Scope.start Config.standard Registry.builtIn, w⟩
    let recorded := make (World.fresh () : World (Recorded Store) Unit)
    let st := (make (World.fresh () : World Store Unit)).2
    let finished := st.scope.finish.run st.world
    c.Reached (creation ⟨c, "bucket5"⟩ none) (World.fresh ()) recorded.2.world ∧
      (st.world.services.read 0).isVacant "bucket5" = true ∧
      (finished.state.services.read 0).isVacant "bucket5" = false := by
  intro c make recorded st finished
  have hrecorded : recorded = (.ok ⟨c, "bucket5"⟩, recorded.2) := by
    refine Prod.ext ?_ rfl
    simp only [recorded, make, c]
    rfl
  have hmade : make (World.fresh ()) = (.ok ⟨c, "bucket5"⟩, st) := by
    refine Prod.ext ?_ rfl
    simp only [make, c]
    rfl
  -- The bucket's finalizer is the only one.
  have hone : OneUnwinds (visits st.scope.runOrder st.world) := by
    rw [(setUpBucket_of_makeBucket hmade).1]
    exact List.pairwise_singleton _ _
  obtain ⟨hfirst, hsecond⟩ := deletion_follows_mode
  obtain ⟨-, -, hcreated, -⟩ := hfirst Store Unit 5 _ c none _ _ _ _ hrecorded
  obtain ⟨hstate, hvacant, -⟩ := hsecond Unit 5 _ c none _ _ _ st hmade rfl (by decide) [] st.world
    hone (by decide)
  refine ⟨hcreated.mpr rfl, by decide, ?_⟩
  exact (congrArg (fun w => (w.services.read 0).isVacant "bucket5") hstate).trans hvacant

/-- A bucket is made by a stubber that stubs on a client that passes through, and by one that passes
through on a client that answers from its queue. The first is left on the service, and the second is
to be deleted though it never was there. A bucket is left as well if the client answers from its
queue when the finalizer has its turn, if the client cannot delete buckets, and if it holds an
object that only an older finalizer deletes. -/
theorem deletion_misses_creation :
    let c : Client := ⟨Storage.serviceName, "r", Storage.operations, 0, 0⟩
    let h : Handle := ⟨c, "bucket5"⟩
    let w : World (Recorded Store) Unit := World.fresh ()
    let answering (operation : String) (w : World (Recorded Store) Unit) :=
      w.withQueue 0 ⟨true, [⟨operation, none, .response .null⟩], 0⟩
    let make (s : Stubber) (older : List (Finalizer (World (Recorded Store) Unit)))
        (w : World (Recorded Store) Unit) :=
      (makeBucket 5 s s.client none).effect ⟨⟨Config.standard, Registry.builtIn, older⟩, w⟩
    let left (st : Setting (Recorded Store) Unit) (w : World (Recorded Store) Unit) : Bool :=
      ((st.scope.finish.run w).state.services.read 0).service.isVacant h.name
    let stubbing := Storage.stubber c true
    let passing := Storage.stubber c false
    (let made := make stubbing [] w
     made.1 = .ok h ∧ c.Reached (creation h none) w made.2.world ∧
       ¬c.Sends (deletion h) (bucketFinalizer stubbing h : Finalizer (World Store Unit)).action ∧
       left made.2 made.2.world = true) ∧
    (let before := answering "CreateBucket" w
     let made := make passing [] before
     made.1 = .ok h ∧ ¬c.Reached (creation h none) before made.2.world ∧
       c.Sends (deletion h) (bucketFinalizer passing h : Finalizer (World Store Unit)).action) ∧
    (let made := make passing [] w
     left made.2 (answering "DeleteBucket" made.2.world) = true) ∧
    (let made := make (Storage.stubber { c with operations := ["CreateBucket"] } false) [] w
     left made.2 made.2.world = true) ∧
    (let made := make passing [⟨"delete object", h.deleteObject "key"⟩] w
     left made.2 ((h.putObject "key" "").effect made.2.world).2 = true) := by
  refine ⟨⟨rfl, ?_, ?_, ?_⟩, ⟨rfl, ?_, ?_⟩, ?_, ?_, ?_⟩
  · exact Eq.refl (α := List Call) _
  · exact (sends_bucketFinalizer_iff _ (World.fresh ())).not.mpr (by decide)
  · decide
  · intro hreached
    exact absurd (congrArg List.length hreached) (by decide)
  · exact fun _ => rfl
  · decide
  · decide
  · decide

end Fixture.Deletion

end ServiceDoubles
