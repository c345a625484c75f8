/-
RouteConvergence.Proofs.GuardedCycle — a cycle beside other cycles of its
group.

A cycle reads the stores in its first half and writes them in its second,
and another cycle of the group may come in between at any call. What the
two have to agree on is collected in a `Cycle.Protocol`: which changes are
allowed, what a cycle may rely on once it has read the stores, and what it
leaves. It is enough to look at one step at a time then, each in whatever
world it meets.

* `World.Beside` — what cycles of a group never touch, so that a model can
  be built from descriptors that were listed earlier.
* `Cycle.Protocol.guarded_reconcile` — a cycle that follows a protocol is
  guarded by its allowed changes.

This is about settings that leave names alone and allow creation.
-/
import RouteConvergence.Proofs.History
import RouteConvergence.Proofs.Interleaving

namespace RouteConvergence

/-! ## What is not touched -/

/-- A route that sets off a cycle takes its place, held or not. -/
theorem Cycle.withTrigger_unheld (ds : List Descriptor) (d : Descriptor) :
    (withTrigger ds d).map (·.unheld) = withTrigger (ds.map (·.unheld)) d.unheld := by
  rw [withTrigger, withTrigger, List.map_append, List.filter_map]
  rfl

theorem ByReference.unheld {ds : List Descriptor} (h : ByReference ds) :
    ByReference (ds.map (·.unheld)) := by
  rw [ByReference, List.pairwise_map]
  exact h

namespace World

/-- **What holds beside the cycles of a group**: descriptors change in their
finalizers only, every distribution has a number of its own, and what belongs
to other groups stays. -/
structure Beside (group : GroupName) (start w : World) : Prop where
  filed : w.descriptors.FiledBy (·.reference)
  descriptors : w.descriptors.values.map (·.unheld) = start.descriptors.values.map (·.unheld)
  certificates : w.certificates = start.certificates
  zone : w.zone = start.zone
  failing : w.distributions.failing = start.distributions.failing
  numbered : w.distributions.Numbered
  models : ∀ other, other ≠ group →
    w.distributions.models.get? other = start.distributions.models.get? other
  statuses : w.statuses.FiledBy (·.group)
  records : ∀ other, other ≠ group → w.statuses.get? other = start.statuses.get? other

theorem Sound.beside {start : World} (h : start.Sound) (group : GroupName) :
    Beside group start start :=
  ⟨h.descriptors, rfl, rfl, rfl, rfl, h.distributions, fun _ _ => rfl, h.statuses, fun _ _ => rfl⟩

variable {group : GroupName} {start w : World} {settings : Settings} {now : Instant}
  {d : Descriptor}

/-- A stored descriptor stays stored, held or not. -/
theorem Beside.stored (h : Beside group start w)
    (hd : start.descriptors.get? d.reference = some d) :
    ∃ stored, w.descriptors.get? d.reference = some stored ∧ stored.unheld = d.unheld := by
  have hmem : d.unheld ∈ w.descriptors.values.map (·.unheld) := by
    rw [h.descriptors]
    exact List.mem_map_of_mem ((SortedMap.mem_values _ _).2 ⟨_, hd⟩)
  obtain ⟨stored, hstored, hsame⟩ := List.mem_map.1 hmem
  have href : stored.unheld.reference = d.unheld.reference := congrArg _ hsame
  replace href : stored.reference = d.reference := href
  refine ⟨stored, ?_, hsame⟩
  rw [← href]
  exact (h.filed.mem_values_iff stored).1 hstored

/-- The goal of the group is the same. -/
theorem Beside.desired (h : Beside group start w) (other : GroupName) :
    w.desired settings now other = start.desired settings now other := by
  rw [World.desired, ← Group.model_unheld, h.descriptors, Group.model_unheld, h.certificates]
  rfl

/-- **A cycle builds the model of the start** from what it lists, whatever
became of the finalizers. -/
theorem Beside.wanted (h : Beside group start w) (hfiled : start.descriptors.FiledBy (·.reference))
    (hd : start.descriptors.get? d.reference = some d) :
    w.wanted settings now d = start.desired settings now d.group := by
  have hmem : d.unheld ∈ start.descriptors.values.map (·.unheld) :=
    List.mem_map_of_mem ((SortedMap.mem_values _ _).2 ⟨_, hd⟩)
  have hordered : ByReference start.descriptors.values := hfiled.values_ordered
  have haggregate : Group.aggregate d.group
      (Cycle.withTrigger (start.descriptors.values.map (·.unheld)) d.unheld) =
        Group.aggregate d.group (start.descriptors.values.map (·.unheld)) :=
    Group.aggregate_withTrigger hordered.unheld hmem
  rw [World.wanted, ← Group.model_unheld, Cycle.withTrigger_unheld, h.descriptors, h.certificates,
    Group.model, haggregate]
  exact Group.model_unheld _

/-- The pieces a cycle builds its model from. -/
theorem wanted_eq_ok {model : Model} (h : w.wanted settings now d = .ok model) :
    ∃ members draft,
      Group.aggregate d.group (Cycle.withTrigger w.descriptors.values d) = .ok members ∧
      Draft.ofGroup settings members none = .ok draft ∧
      draft.finish settings (.ok (Certificate.usable now w.certificates)) = .ok model := by
  rw [World.wanted, Group.model] at h
  cases hgroup : Group.aggregate d.group (Cycle.withTrigger w.descriptors.values d) with
  | error failure =>
    rw [hgroup] at h
    cases h
  | ok members =>
    rw [hgroup] at h
    replace h : Model.build settings now w.certificates members none = .ok model := h
    rw [Model.build] at h
    cases hdraft : Draft.ofGroup settings members none with
    | error failure =>
      rw [hdraft] at h
      cases h
    | ok draft =>
      rw [hdraft] at h
      exact ⟨members, draft, rfl, hdraft, h⟩

/-- The identity a cycle finds is the one on the record it read, or else the
one that is stored by now. -/
theorem run_existingIdentity_read (h : w.distributions.Numbered) (group : GroupName)
    (persisted : Option StatusRecord) :
    ∃ found, w.run (Cycle.existingIdentity group persisted) = (.ok found, w) ∧
      ((persisted.bind (·.identity)).isSome = true → found = persisted.bind (·.identity)) ∧
      (persisted.bind (·.identity) = none →
        Identity.Recalls found (w.distributions.identityAt group)) := by
  unfold Cycle.existingIdentity
  cases persisted.bind (·.identity) with
  | some identity => exact ⟨some identity, rfl, fun _ => rfl, nofun⟩
  | none =>
    rw [run_bind, run_arnOf, DistributionStore.arnOf_eq]
    cases hstored : w.distributions.identityAt group with
    | none => exact ⟨none, rfl, nofun, fun _ => .refl none⟩
    | some identity =>
      obtain ⟨n, -, rfl⟩ := h.identityAt_eq_some hstored
      dsimp only
      rw [Identity.ofArn?_identityOf]
      exact ⟨_, rfl, nofun, fun _ => ⟨rfl, rfl, Or.inl rfl⟩⟩

theorem run_syncAliasesIfEnabled_disabled (hdisabled : settings.aliasing.enabled = false)
    (model : Model) (status : StatusRecord) :
    w.run (Cycle.syncAliasesIfEnabled settings model status) = (⟨status.aliases, []⟩, w) := by
  rw [Cycle.syncAliasesIfEnabled, hdisabled]
  rfl

end World

/-! ## Procedures of one call -/

namespace Cycle

open Program

theorem single_existingIdentity (group : GroupName) (persisted : Option StatusRecord) :
    (existingIdentity group persisted).Single := by
  unfold existingIdentity
  cases persisted.bind (·.identity) with
  | some identity => trivial
  | none =>
    refine single_call_bind fun answer => ?_
    cases answer with
    | error failure =>
      dsimp only
      cases failure.isNotFound <;> exact ⟨_, rfl⟩
    | ok arn =>
      dsimp only
      cases Identity.ofArn? arn <;> exact ⟨_, rfl⟩

theorem single_candidatesFor (now : Instant) (draft : Draft) :
    (candidatesFor now draft).Single := by
  unfold candidatesFor
  split
  · trivial
  · exact single_call _

theorem single_syncDistribution (settings : Settings) (model : Model) :
    (syncDistribution settings model).Single := by
  unfold syncDistribution
  repeat' split
  all_goals first
    | trivial
    | (intro answer; cases answer <;> exact ⟨_, rfl⟩)

theorem single_syncAliasesIfEnabled {settings : Settings}
    (hdisabled : settings.aliasing.enabled = false) (model : Model) (status : StatusRecord) :
    (syncAliasesIfEnabled settings model status).Single := by
  rw [syncAliasesIfEnabled, hdisabled]
  trivial

theorem single_settleFinalizer (d : Descriptor) (state : FinalizerState) :
    (settleFinalizer d state).Single := by
  unfold settleFinalizer
  split
  · trivial
  · intro answer
    cases answer <;> exact ⟨_, rfl⟩

theorem single_persist (settings : Settings) (model : Model) (status : StatusRecord)
    (isNew clean : Bool) : (persist settings model status isNew clean).Single := by
  unfold persist
  repeat' split
  all_goals first
    | trivial
    | exact single_call _

end Cycle

/-! ## What the cycles of a group agree on -/

/-- A record of a group tells an identity, or that there is none. -/
structure StatusRecord.Tells (status : StatusRecord) (group : GroupName)
    (identity : Option Identity) : Prop where
  group : status.group = group
  id : status.distributionId = identity.map (·.id)
  arn : status.arn = identity.map (·.arn)
  address : status.address = identity.bind (·.address)

theorem StatusRecord.Tells.names {status : StatusRecord} {group : GroupName}
    {identity stored : Option Identity} (h : status.Tells group identity)
    (hrecalls : Identity.Recalls identity stored) : status.Names stored := by
  refine ⟨h.id.trans hrecalls.id, h.arn.trans hrecalls.arn, ?_⟩
  rw [h.address]
  exact hrecalls.address

namespace Cycle

/-- A model of a group as its members ask for it. -/
structure Aims (start : World) (group : GroupName) (model : Model) : Prop where
  isEmpty : model.isEmpty = true ↔ ¬ start.HasMembers group
  group : model.group = group

/-- **What the cycles of a group agree on**: the changes they allow each other,
what one of them knows after it has read the stores and after it has brought
the distribution to its model, and what it leaves behind. -/
structure Protocol (settings : Settings) (group : GroupName) (start : World) where
  allows : World → World → Prop
  found : Option StatusRecord → Option Identity → World → Prop
  synced : Option StatusRecord → DistributionSync → World → Prop
  ended : World → Prop
  allowed : Allowed allows
  beside : ∀ {w : World}, allows w w → World.Beside group start w
  found_kept : ∀ {persisted : Option StatusRecord} {identity : Option Identity} {w w' : World},
    found persisted identity w → allows w w' → found persisted identity w'
  synced_kept : ∀ {persisted : Option StatusRecord} {result : DistributionSync} {w w' : World},
    synced persisted result w → allows w w' → synced persisted result w'
  ended_kept : ∀ {w w' : World}, ended w → allows w w' → ended w'
  /-- Finalizers and events are nobody's concern. -/
  aside : ∀ {w : World} {descriptors : DescriptorStore} {events : List Event}, allows w w →
    World.Beside group start { w with descriptors, events } →
      allows w { w with descriptors, events }
  /-- The identity is on the record that was read. -/
  recalled : ∀ {w : World} {identity : Identity}, allows w w →
    (w.statuses.get? group).bind (·.identity) = some identity →
      found (w.statuses.get? group) (some identity) w
  /-- The record has no identity, and the store was asked later. -/
  lookedUp : ∀ {w w' : World} {identity : Option Identity}, allows w w → allows w w' →
    (w.statuses.get? group).bind (·.identity) = none →
      Identity.Recalls identity (w'.distributions.identityAt group) →
        found (w.statuses.get? group) identity w'
  distribution : ∀ {w : World} {persisted : Option StatusRecord} {model : Model}, allows w w →
    Aims start group model → found persisted model.identity w →
      allows w { w with distributions := (w.distributions.sync settings model).2 } ∧
        synced persisted (w.distributions.sync settings model).1
          { w with distributions := (w.distributions.sync settings model).2 }
  bookkeeping : ∀ {w : World} {persisted : Option StatusRecord} {result : DistributionSync}
    {status : StatusRecord} {model : Model}, allows w w → Aims start group model →
      synced persisted result w → status.Tells group result.identity →
        let stored := StatusStore.persist w.statuses settings model status persisted.isNone
          result.failure.isNone
        allows w { w with statuses := stored.2 } ∧ ended { w with statuses := stored.2 }

namespace Protocol

open Program

variable {settings : Settings} {group : GroupName} {start w : World} {now : Instant}
  {d : Descriptor} {model : Model}

/-! ### The first half -/

/-- The identity comes from the record that was read, or from the store as it is
by then. -/
theorem guarded_existingIdentity (P : Protocol settings group start) (hw : P.allows w w) :
    (existingIdentity group (w.statuses.get? group)).Guarded P.allows
      (fun outcome w' => ∃ identity, outcome = .ok identity ∧ P.allows w' w' ∧
        P.found (w.statuses.get? group) identity w') w := by
  refine Guarded.single (single_existingIdentity _ _) hw fun w' hw' => ?_
  obtain ⟨identity, hrun, hrecord, hlookup⟩ := World.run_existingIdentity_read
    (P.beside (P.allowed.settled hw')).numbered group (w.statuses.get? group)
  rw [hrun]
  refine ⟨P.allowed.settled hw', identity, rfl, P.allowed.settled hw', ?_⟩
  cases hbind : (w.statuses.get? group).bind (·.identity) with
  | none => exact P.lookedUp hw hw' hbind (hlookup hbind)
  | some onRecord =>
    rw [hrecord (by rw [hbind]; rfl), hbind]
    exact P.found_kept (P.recalled hw hbind) hw'

/-- Certificates are what they were at the start, so a draft is finished in the
same way. -/
theorem guarded_candidatesFor (P : Protocol settings group start) (hw : P.allows w w)
    {draft : Draft}
    (hfinish : draft.finish settings (.ok (Certificate.usable now start.certificates)) =
      .ok model) {persisted : Option StatusRecord} {identity : Option Identity}
    (hfound : P.found persisted identity w) :
    (candidatesFor now draft).Guarded P.allows
      (fun candidates w' => draft.finish settings candidates = .ok model ∧
        P.found persisted identity w') w := by
  refine Guarded.single (single_candidatesFor _ _) hw fun w' hw' => ?_
  have hsettled := P.allowed.settled hw'
  obtain ⟨hworld, hcandidates⟩ := World.run_candidatesFor w' settings now draft
  rw [(P.beside hsettled).certificates, hfinish] at hcandidates
  rw [hworld]
  exact ⟨hsettled, hcandidates, P.found_kept hfound hw'⟩

/-- **The first half** ends with the model of the start and with what was found
on the way. -/
theorem guarded_prepare (P : Protocol settings group start) (hw : P.allows w w)
    (hstart : start.Sound) (hcreation : settings.creation = true) (hgroup : d.group = group)
    (hd : start.descriptors.get? d.reference = some d) (hvalid : d.validate = .ok ())
    (hasked : start.desired settings now group = .ok model) :
    (prepare settings now d).run.Guarded P.allows (fun result w' => ∃ persisted identity,
      result = .ok ⟨persisted, model.withIdentity identity⟩ ∧
        (∀ status, persisted = some status → status.group = group) ∧
        P.found persisted identity w') w := by
  subst hgroup
  unfold prepare
  rw [hvalid]
  refine Guarded.stepBind ⟨(), rfl, Guarded.stepBind (Guarded.attempt fun w₁ hw₁ => ?_)⟩
  -- What is listed leads to the model of the start.
  have hsettled₁ := P.allowed.settled hw₁
  have hwanted : w₁.wanted settings now d = .ok model :=
    ((P.beside hsettled₁).wanted hstart.descriptors hd).trans hasked
  obtain ⟨members, draft, hmembers, hdraft, hfinish⟩ := World.wanted_eq_ok hwanted
  rw [(P.beside hsettled₁).certificates] at hfinish
  refine ⟨hsettled₁, _, rfl, _, rfl, ?_⟩
  rw [hmembers]
  refine Guarded.stepBind ⟨members, rfl, Guarded.stepBind (Guarded.attempt fun w₂ hw₂ => ?_)⟩
  have hsettled₂ := P.allowed.settled hw₂
  refine ⟨hsettled₂, _, rfl, _, rfl, ?_⟩
  refine Guarded.stepBind (Guarded.attempt ((P.guarded_existingIdentity hsettled₂).mono ?_))
  rintro _ w₃ ⟨identity, rfl, hsettled₃, hfound⟩
  refine ⟨identity, rfl, identity, rfl, ?_⟩
  rw [Draft.ofGroup_withIdentity, hdraft]
  refine Guarded.stepBind ⟨draft.withIdentity identity, rfl, ?_⟩
  have hfinished : (draft.withIdentity identity).finish settings
      (.ok (Certificate.usable now start.certificates)) = .ok (model.withIdentity identity) := by
    rw [Draft.finish_withIdentity, hfinish]
    rfl
  refine Guarded.stepBind (Guarded.lift
    ((P.guarded_candidatesFor hsettled₃ hfinished hfound).mono ?_))
  rintro candidates w₄ ⟨hcandidates, hfound⟩
  refine ⟨candidates, rfl, ?_⟩
  rw [hcandidates]
  refine Guarded.stepBind ⟨model.withIdentity identity, rfl, ?_⟩
  have hbarred : creationBarred settings (model.withIdentity identity) = false := by
    rw [creationBarred, hcreation]
    simp
  rw [hbarred]
  exact ⟨_, identity, rfl, fun status hstatus => (P.beside hsettled₂).statuses _ _ hstatus, hfound⟩

/-! ### The second half -/

/-- A finalizer is noted at the stored descriptor, whoever noted one before. -/
theorem settle_beside (P : Protocol settings group start) (hw : P.allows w w)
    (hd : start.descriptors.get? d.reference = some d) (state : FinalizerState) :
    (DescriptorStore.settle w.descriptors d state).1 = [] ∧
      P.allows w { w with descriptors := (DescriptorStore.settle w.descriptors d state).2 } := by
  have hbeside := P.beside hw
  obtain ⟨stored, hstored, hsame⟩ := hbeside.stored hd
  unfold DescriptorStore.settle DescriptorStore.setFinalizer
  split
  · exact ⟨rfl, hw⟩
  · rw [hstored]
    refine ⟨rfl, P.aside hw ?_⟩
    have href : stored.reference = d.reference := hbeside.filed _ _ hstored
    have hunheld : (w.descriptors.insert d.reference { stored with finalizer := state }).values.map
        (·.unheld) = w.descriptors.values.map (·.unheld) :=
      SortedMap.map_values_insert _ hstored rfl
    exact { hbeside with
      filed := hbeside.filed.insert href
      descriptors := hunheld.trans hbeside.descriptors }

/-- **The second half** leaves what the protocol says. -/
theorem guarded_converge (P : Protocol settings group start) {p : Prepared} (hw : P.allows w w)
    (hdisabled : settings.aliasing.enabled = false) (hgroup : d.group = group)
    (hd : start.descriptors.get? d.reference = some d) (haims : Aims start group p.model)
    (hfiled : ∀ status, p.persisted = some status → status.group = group)
    (hfound : P.found p.persisted p.model.identity w) :
    (converge settings now d p).Guarded P.allows (fun _ w' => P.ended w') w := by
  unfold converge
  refine Guarded.bind (Guarded.single (single_syncDistribution _ _) hw fun w₁ hw₁ => ?_)
  rw [World.run_syncDistribution]
  obtain ⟨hallowed, hsynced⟩ :=
    P.distribution (P.allowed.settled hw₁) haims (P.found_kept hfound hw₁)
  refine ⟨hallowed, ?_⟩
  generalize (w₁.distributions.sync settings p.model).1 = result at hsynced ⊢
  -- Names are left alone, so the next call is about the finalizer.
  refine Guarded.bind (Guarded.single (single_syncAliasesIfEnabled hdisabled _ _)
    (P.allowed.settled hallowed) fun w₂ hw₂ => ?_)
  rw [World.run_syncAliasesIfEnabled_disabled hdisabled]
  refine ⟨P.allowed.settled hw₂, ?_⟩
  have hsynced₂ := P.synced_kept hsynced hw₂
  refine Guarded.bind (Guarded.single (single_settleFinalizer _ _) (P.allowed.settled hw₂)
    fun w₃ hw₃ => ?_)
  rw [World.run_settleFinalizer]
  obtain ⟨hnone, hnoted⟩ := P.settle_beside (P.allowed.settled hw₃) hd
    (finalizerAfter d (result.failure.toList ++ []))
  refine ⟨hnoted, ?_⟩
  have hsynced₃ := P.synced_kept (P.synced_kept hsynced₂ hw₃) hnoted
  -- The record that is stored tells the identity the first call ended with.
  refine Guarded.bind (Guarded.single (single_persist _ _ _ _ _) (P.allowed.settled hnoted)
    fun w₄ hw₄ => ?_)
  rw [World.run_persist]
  have hclean : (result.failure.toList ++ [] ++ []).isEmpty = result.failure.isNone := by
    cases result.failure <;> rfl
  have hfoundGroup : (p.persisted.getD (.new d.group)).group = group := by
    cases hpersisted : p.persisted with
    | none => exact hgroup
    | some status => exact hfiled status hpersisted
  rw [hnone]
  dsimp only
  rw [hclean]
  refine P.bookkeeping (P.allowed.settled hw₄) haims (P.synced_kept hsynced₃ hw₄) ?_
  unfold StatusRecord.recordSync StatusRecord.forget
  split <;> exact ⟨hfoundGroup, rfl, rfl, rfl⟩

/-! ### The whole cycle -/

theorem guarded_announce (P : Protocol settings group start) (hended : P.ended w)
    (audience : Audience) (kind : EventKind) (reason message : String) :
    (announce d audience kind reason message).Guarded P.allows (fun _ w' => P.ended w') w := by
  have hpublish : ∀ (event : Event) {w' : World}, P.ended w' →
      (call (.publish event)).Guarded P.allows (fun _ w'' => P.ended w'') w' := by
    intro event w' hended' w₁ hw₁
    have hsettled := P.allowed.settled hw₁
    have hallowed : P.allows w₁ { w₁ with events := w₁.events ++ [event] } :=
      P.aside hsettled { P.beside hsettled with }
    exact ⟨hallowed, P.ended_kept (P.ended_kept hended' hw₁) hallowed⟩
  refine Guarded.bind ((hpublish _ hended).mono fun _ w' h => ?_)
  cases audience with
  | route => exact h
  | routeAndStatus => exact Guarded.bind ((hpublish _ h).mono fun _ w'' h'' => h'')

/-- **A cycle that follows a protocol** makes allowed changes only, in whatever
world the others leave it, and leaves what the protocol says. -/
theorem guarded_reconcile (P : Protocol settings group start) (hw : P.allows w w)
    (hstart : start.Sound) (hcreation : settings.creation = true)
    (hdisabled : settings.aliasing.enabled = false) (hgroup : d.group = group)
    (hd : start.descriptors.get? d.reference = some d) (hvalid : d.validate = .ok ())
    (hasked : start.desired settings now group = .ok model) :
    (reconcile settings now d).Guarded P.allows (fun _ w' => P.ended w') w := by
  have haims : ∀ identity, Aims start group (model.withIdentity identity) := by
    intro identity
    have hempty : model.isEmpty = true ↔ ¬ start.HasMembers group := hstart.isEmpty_iff hasked
    exact ⟨hempty, (Group.modelOf hasked).group⟩
  have hprepared :=
    (P.guarded_prepare hw hstart hcreation hgroup hd hvalid hasked).settled P.allowed hw
  have hrun : (run settings now d).run.Guarded P.allows (fun _ w' => P.ended w') w := by
    refine Guarded.stepBind (hprepared.mono ?_)
    rintro _ w₁ ⟨hw₁, persisted, identity, rfl, hfiled, hfound⟩
    have hconverged : (converge settings now d ⟨persisted, model.withIdentity identity⟩).Guarded
        P.allows (fun _ w' => P.ended w') w₁ :=
      P.guarded_converge hw₁ hdisabled hgroup hd (haims identity) hfiled hfound
    refine ⟨_, rfl, Guarded.stepBind (Guarded.lift (hconverged.mono ?_))⟩
    intro failures w₂ hended
    refine ⟨failures, rfl, ?_⟩
    cases failures <;> exact hended
  refine Guarded.bind (hrun.mono fun result w₁ hended => ?_)
  cases result with
  | ok _ => exact Guarded.bind ((P.guarded_announce hended _ _ _ _).mono fun _ _ h => h)
  | error stop => exact Guarded.bind ((P.guarded_announce hended _ _ _ _).mono fun _ _ h => h)

end Protocol

end Cycle

end RouteConvergence
