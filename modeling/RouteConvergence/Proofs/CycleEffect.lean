/-
RouteConvergence.Proofs.CycleEffect — one cycle as a function of the
stores.

`reconcile` is a procedure. Run alone in a world, it comes to this:

* `Cycle.preparedFrom` — what the first half finds in any stores. It reads
  them and leaves them as they are (`Cycle.runWith_prepare`).
* `World.prepared` — the same in a world (`World.run_prepare`).
* `DistributionStore.sync`, `Zone.syncAliases`, `DescriptorStore.settle`,
  `StatusStore.persist` — the four steps of the second half, each on the
  one store it touches, and `World.converged`, the four together
  (`World.run_converge`).
* `World.run_reconcile_stopped`, `World.run_reconcile_converged` — the
  whole cycle with its report.

Later proofs open these functions and never the procedure.
-/
import RouteConvergence.Proofs.DesiredModel
import RouteConvergence.Proofs.ZoneNames

namespace RouteConvergence

/-! ## The first half -/

/-- A result whose failure ends the cycle and is told to everybody. -/
def Stop.orTellAll {α : Type} (outcome : Outcome α) : Except Stop α :=
  outcome.mapError fun failure => ⟨failure, .routeAndStatus⟩

theorem Stop.orTellAll_eq_ok {α : Type} {outcome : Outcome α} {value : α} :
    orTellAll outcome = .ok value ↔ outcome = .ok value := by
  cases outcome with
  | error failure => exact ⟨nofun, nofun⟩
  | ok other =>
    constructor
    · intro h
      cases h
      rfl
    · intro h
      cases h
      rfl

theorem Stop.orTellAll_eq_error {α : Type} {outcome : Outcome α} {stop : Stop} :
    orTellAll outcome = .error stop ↔
      outcome = .error stop.failure ∧ stop.audience = .routeAndStatus := by
  obtain ⟨failure, audience⟩ := stop
  cases outcome with
  | error other =>
    show (Except.error ⟨other, .routeAndStatus⟩ : Except Stop α) = _ ↔ _
    rw [Except.error.injEq, Except.error.injEq, Stop.mk.injEq]
    exact and_congr_right fun _ => eq_comm
  | ok value =>
    constructor
    · intro h
      cases h
    · rintro ⟨h, -⟩
      cases h

/-- Results one after the other end the cycle one after the other. -/
theorem Stop.orTellAll_bind {α β : Type} (x : Outcome α) (f : α → Outcome β) :
    orTellAll (x >>= f) = orTellAll x >>= fun a => orTellAll (f a) := by
  cases x <;> rfl

/-- Whether a call asks for something and changes nothing. -/
def Request.isRead : Request → Bool
  | listDescriptors | getStatus _ | arnOf _ | usableCertificates _ | listRecords _ => true
  | setFinalizer _ _ | createStatus _ | updateStatus _ | deleteStatus _ | createDistribution _
  | updateDistribution _ | deleteDistribution _ | applyBatch _ | publish _ => false

namespace Cycle

section

variable {σ : Type} (answer : (request : Request) → σ → request.Answer × σ) (s : σ)

/-- The group of a descriptor, as the stores list it. -/
def gathered (d : Descriptor) : Outcome Group := do
  let stored ← ((answer .listDescriptors s).1 : Outcome (List Descriptor))
  Group.aggregate d.group (withTrigger stored d)

/-- The status record of a group and the identity of its distribution, as the
stores tell them. -/
def recalled (group : GroupName) : Outcome (Option StatusRecord × Option Identity) := do
  let status ← ((answer (.getStatus group) s).1 : Outcome (Option StatusRecord))
  let identity ← ((existingIdentity group status).runWith answer s).1
  return (status, identity)

/-- The model that is built for a group. -/
def built (settings : Settings) (now : Instant) (group : Group) (identity : Option Identity) :
    Outcome Model :=
  match Draft.ofGroup settings group identity with
  | .error failure => .error failure
  | .ok draft => draft.finish settings ((candidatesFor now draft).runWith answer s).1

/-- What the first half of a cycle finds in any stores. -/
def preparedFrom (settings : Settings) (now : Instant) (d : Descriptor) :
    Except Stop Prepared := do
  Stop.orTellAll d.validate
  let group ← Stop.orTellAll (gathered answer s d)
  let found ← Stop.orTellAll (recalled answer s d.group)
  let model ← Stop.orTellAll (built answer s settings now group found.2)
  if creationBarred settings model then throw ⟨.refused (.creationDisabled d.group), .route⟩
  return ⟨found.1, model⟩

variable {answer s} (hreads : ∀ request : Request, request.isRead = true → (answer request s).2 = s)

include hreads

theorem runWith_existingIdentity (group : GroupName) (status : Option StatusRecord) :
    ((existingIdentity group status).runWith answer s).2 = s := by
  unfold existingIdentity
  cases status.bind (·.identity) with
  | some identity => rfl
  | none =>
    rw [Program.runWith_bind, Program.runWith_call, hreads (.arnOf group) rfl]
    cases (answer (.arnOf group) s).1 with
    | error failure =>
      dsimp only
      cases failure.isNotFound <;> rfl
    | ok arn =>
      dsimp only
      cases Identity.ofArn? arn <;> rfl

theorem runWith_candidatesFor (now : Instant) (draft : Draft) :
    ((candidatesFor now draft).runWith answer s).2 = s := by
  unfold candidatesFor
  split
  · rfl
  · exact hreads (.usableCertificates now) rfl

/-- **The first half of a cycle only reads.** -/
theorem runWith_prepare (settings : Settings) (now : Instant) (d : Descriptor) :
    (prepare settings now d).run.runWith answer s = (preparedFrom answer s settings now d, s) := by
  have hattempt : ∀ {α : Type} (p : Program (Outcome α)), (p.runWith answer s).2 = s →
      (Step.attempt p).run.runWith answer s = (Stop.orTellAll (p.runWith answer s).1, s) := by
    intro α p hp
    rw [Program.runWith_attempt, hp]
    rfl
  unfold prepare preparedFrom gathered recalled
  simp only [Stop.orTellAll_bind, bind_assoc]
  refine Program.runWith_stepReads (Program.runWith_ofOutcome answer s _) fun _ => ?_
  refine Program.runWith_stepReads (hattempt _ (hreads .listDescriptors rfl)) fun stored => ?_
  refine Program.runWith_stepReads (Program.runWith_ofOutcome answer s _) fun group => ?_
  refine Program.runWith_stepReads (hattempt _ (hreads (.getStatus d.group) rfl)) fun status => ?_
  refine Program.runWith_stepReads (hattempt _ (runWith_existingIdentity hreads _ _))
    fun identity => ?_
  show _ = (Stop.orTellAll (built answer s settings now group identity) >>= _, s)
  unfold built
  cases Draft.ofGroup settings group identity with
  | error failure => rfl
  | ok draft =>
    rw [Program.runWith_stepBind, Program.runWith_ofOutcome_ok]
    dsimp only
    rw [Program.runWith_stepBind, Program.runWith_liftStep, runWith_candidatesFor hreads]
    refine Program.runWith_stepReads (Program.runWith_ofOutcome answer s _) fun model => ?_
    cases creationBarred settings model <;> rfl

/-- **A cycle that is stopped in its first half** only announces why. -/
theorem runWith_reconcile_stopped {settings : Settings} {now : Instant} {d : Descriptor}
    {stop : Stop} (h : preparedFrom answer s settings now d = .error stop) :
    (reconcile settings now d).runWith answer s =
      (.error stop.failure, ((announce d stop.audience .warning stop.failure.reason
        stop.failure.message).runWith answer s).2) := by
  have hrun : (run settings now d).run.runWith answer s = (.error stop, s) := by
    rw [run, Program.runWith_stepBind, runWith_prepare hreads, h]
  rw [reconcile, Program.runWith_bind, hrun, Program.runWith_bind, Program.runWith_pure]

end

end Cycle

namespace World

/-- Reading a world leaves it as it is. -/
theorem answer_read (w : World) (request : Request) (h : request.isRead = true) :
    (answer request w).2 = w := by
  cases request <;> first | rfl | cases h

/-- The identity a cycle finds for a group: the one on record, or else the
one the resource name gives away. -/
def identityFound (w : World) (group : GroupName) : Outcome (Option Identity) :=
  match (w.statuses.get? group).bind (·.identity) with
  | some identity => .ok (some identity)
  | none =>
    match w.distributions.arnOf group with
    | .ok arn =>
      match Identity.ofArn? arn with
      | some identity => .ok (some identity)
      | none => .error (.refused (.arnMalformed arn))
    | .error failure => if failure.isNotFound then .ok none else .error failure

/-- What the first half of a cycle finds. -/
def prepared (w : World) (settings : Settings) (now : Instant) (d : Descriptor) :
    Except Stop Cycle.Prepared := do
  Stop.orTellAll d.validate
  let group ← Stop.orTellAll (Group.aggregate d.group (Cycle.withTrigger w.descriptors.values d))
  let identity ← Stop.orTellAll (w.identityFound d.group)
  let model ← Stop.orTellAll (Model.build settings now w.certificates group identity)
  if Cycle.creationBarred settings model then
    throw ⟨.refused (.creationDisabled d.group), .route⟩
  return ⟨w.statuses.get? d.group, model⟩

theorem run_existingIdentity (w : World) (group : GroupName) :
    w.run (Cycle.existingIdentity group (w.statuses.get? group)) = (w.identityFound group, w) := by
  unfold Cycle.existingIdentity identityFound
  cases (w.statuses.get? group).bind (·.identity) with
  | some identity => rfl
  | none =>
    rw [run_bind, run_arnOf]
    cases w.distributions.arnOf group with
    | error failure =>
      dsimp only
      cases failure.isNotFound <;> rfl
    | ok arn =>
      dsimp only
      cases Identity.ofArn? arn <;> rfl

/-- Certificates that were not asked for are not needed. -/
theorem run_candidatesFor (w : World) (settings : Settings) (now : Instant) (draft : Draft) :
    (w.run (Cycle.candidatesFor now draft)).2 = w ∧
      draft.finish settings (w.run (Cycle.candidatesFor now draft)).1 =
        draft.finish settings (.ok (Certificate.usable now w.certificates)) := by
  unfold Cycle.candidatesFor Draft.finish
  cases draft.uncovered.isEmpty <;> exact ⟨rfl, rfl⟩

theorem built_eq (w : World) (settings : Settings) (now : Instant) (group : Group)
    (identity : Option Identity) :
    Cycle.built answer w settings now group identity =
      Model.build settings now w.certificates group identity := by
  unfold Cycle.built Model.build
  cases Draft.ofGroup settings group identity with
  | error failure => rfl
  | ok draft => exact (w.run_candidatesFor settings now draft).2

theorem preparedFrom_eq (w : World) (settings : Settings) (now : Instant) (d : Descriptor) :
    Cycle.preparedFrom answer w settings now d = w.prepared settings now d := by
  have hidentity : ((Cycle.existingIdentity d.group (w.statuses.get? d.group)).runWith answer w).1 =
      w.identityFound d.group := congrArg Prod.fst (w.run_existingIdentity d.group)
  unfold Cycle.preparedFrom prepared Cycle.gathered Cycle.recalled
  simp only [Stop.orTellAll_bind, bind_assoc, built_eq, ← hidentity]
  rfl

/-- **The first half of a cycle only reads the world.** -/
theorem run_prepare (w : World) (settings : Settings) (now : Instant) (d : Descriptor) :
    w.run (Cycle.prepare settings now d).run = (w.prepared settings now d, w) := by
  rw [run, Cycle.runWith_prepare w.answer_read, preparedFrom_eq]

/-- A cycle gets through its first half, and with what. -/
def Passes (w : World) (settings : Settings) (now : Instant) (d : Descriptor)
    (p : Cycle.Prepared) : Prop :=
  (w.run (Cycle.prepare settings now d).run).1 = .ok p

theorem passes_iff {w : World} {settings : Settings} {now : Instant} {d : Descriptor}
    {p : Cycle.Prepared} : w.Passes settings now d p ↔ w.prepared settings now d = .ok p := by
  rw [Passes, run_prepare]

/-- The model a cycle works towards, but for its identity. -/
def wanted (w : World) (settings : Settings) (now : Instant) (d : Descriptor) : Outcome Model :=
  Group.model settings now w.certificates d.group (Cycle.withTrigger w.descriptors.values d)

/-- The model the stored descriptors of a group ask for. -/
def desired (w : World) (settings : Settings) (now : Instant) (group : GroupName) :
    Outcome Model :=
  Group.model settings now w.certificates group w.descriptors.values

theorem wanted_eq_desired {w : World} {settings : Settings} {now : Instant} {d : Descriptor}
    (h : w.descriptors.FiledBy (·.reference)) (hd : w.descriptors.get? d.reference = some d) :
    w.wanted settings now d = w.desired settings now d.group := by
  have hmem : d ∈ w.descriptors.values := (SortedMap.mem_values _ _).2 ⟨_, hd⟩
  rw [wanted, desired, Group.model, Group.model,
    Group.aggregate_withTrigger h.values_ordered hmem]

/-- **When the first half of a cycle gets through**, and with what. -/
theorem prepared_eq_ok_iff {w : World} {settings : Settings} {now : Instant} {d : Descriptor}
    {p : Cycle.Prepared} :
    w.prepared settings now d = .ok p ↔
      d.validate = .ok () ∧ ∃ model identity,
        w.wanted settings now d = .ok model ∧ w.identityFound d.group = .ok identity ∧
          Cycle.creationBarred settings (model.withIdentity identity) = false ∧
            p = ⟨w.statuses.get? d.group, model.withIdentity identity⟩ := by
  simp only [prepared, Outcome.bind_eq_ok, Stop.orTellAll_eq_ok]
  constructor
  · rintro ⟨_, hvalid, group, hgroup, identity, hidentity, built, hbuilt, hrest⟩
    have hmodel : w.wanted settings now d =
        Model.build settings now w.certificates group none := by
      rw [wanted, Group.model, hgroup]
      rfl
    rw [Model.build_withIdentity] at hbuilt
    cases hm : Model.build settings now w.certificates group none with
    | error failure =>
      rw [hm] at hbuilt
      cases hbuilt
    | ok model =>
      rw [hm] at hbuilt
      cases hbuilt
      cases hbarred : Cycle.creationBarred settings (model.withIdentity identity) with
      | true =>
        rw [hbarred] at hrest
        cases hrest
      | false =>
        rw [hbarred] at hrest
        cases hrest
        exact ⟨hvalid, model, identity, hmodel.trans hm, hidentity, hbarred, rfl⟩
  · rintro ⟨hvalid, model, identity, hwanted, hidentity, hbarred, rfl⟩
    rw [wanted, Group.model] at hwanted
    cases hgroup : Group.aggregate d.group (Cycle.withTrigger w.descriptors.values d) with
    | error failure =>
      rw [hgroup] at hwanted
      cases hwanted
    | ok group =>
      rw [hgroup] at hwanted
      refine ⟨(), hvalid, group, rfl, identity, hidentity, model.withIdentity identity, ?_, ?_⟩
      · rw [Model.build_withIdentity,
          show Model.build settings now w.certificates group none = .ok model from hwanted]
        rfl
      · rw [hbarred]
        rfl

end World

/-! ## The second half, store by store -/

/-- Brings the distribution of a group to its model. -/
def DistributionStore.sync (s : DistributionStore) (settings : Settings) (model : Model) :
    Cycle.DistributionSync × DistributionStore :=
  if model.isEmpty then
    if !model.hasIdentity then (⟨none, none⟩, s)
    else if !settings.deletion then (⟨model.identity, none⟩, s)
    else
      match s.delete model with
      | (.ok _, s') => (⟨none, none⟩, s')
      | (.error failure, s') => (⟨model.identity, some failure⟩, s')
  else
    match if model.hasIdentity then s.update model else s.create model with
    | (.ok synced, s') => (⟨synced.identity <|> model.identity, none⟩, s')
    | (.error failure, s') => (⟨model.identity, some failure⟩, s')

namespace Zone

/-- Makes the wanted names point at the distribution. -/
def claimNames (z : Zone) (token : String) (model : Model) (status : StatusRecord)
    (wanted : SortedSet String) : AliasReport × Zone :=
  if wanted.isEmpty then (.empty, z)
  else
    match status.address with
    | some address =>
      converge (claim token address) (AliasSet.desired address wanted.toList model.ipv6).entries z
    | none => (⟨[], [.backend (.addressMissing model.group wanted.toList)]⟩, z)

/-- Releases names that are no longer wanted. -/
def releaseNames (z : Zone) (token : String) (unwanted : AliasSet) : AliasReport × Zone :=
  if unwanted.isEmpty then (.empty, z) else converge (release token) unwanted.entries z

/-- Brings the names of a group to its model, if names are managed at all. -/
def syncAliases (z : Zone) (settings : Settings) (model : Model) (status : StatusRecord) :
    Cycle.AliasSync × Zone :=
  if settings.aliasing.enabled then
    let wanted := SortedSet.ofList model.alternateDomains
    let claimed := z.claimNames settings.aliasing.token model status wanted
    let released := claimed.2.releaseNames settings.aliasing.token
      (.toDelete status.aliases.toList wanted)
    (⟨(status.aliases.insertAll claimed.1.succeeded).eraseAll released.1.succeeded,
      claimed.1.failures ++ released.1.failures⟩, released.2)
  else (⟨status.aliases, []⟩, z)

end Zone

/-- Notes the finalizer of a route if it changed. -/
def DescriptorStore.settle (s : DescriptorStore) (d : Descriptor) (state : FinalizerState) :
    List Failure × DescriptorStore :=
  if state = d.finalizer then ([], s)
  else
    (Cycle.failuresOf (setFinalizer s d.reference state).1, (setFinalizer s d.reference state).2)

/-- Stores a status record, or drops it once nothing is left of the group. -/
def StatusStore.persist (s : StatusStore) (settings : Settings) (model : Model)
    (status : StatusRecord) (isNew clean : Bool) : Outcome Unit × StatusStore :=
  if clean && model.isEmpty && settings.deletion then
    if isNew then (.ok (), s) else (.ok (), s.erase status.group)
  else if isNew then create s status
  else update s status

namespace World

variable (w : World) (settings : Settings) (now : Instant) (d : Descriptor)

theorem run_syncDistribution (model : Model) :
    w.run (Cycle.syncDistribution settings model) =
      ((w.distributions.sync settings model).1,
        { w with distributions := (w.distributions.sync settings model).2 }) := by
  unfold Cycle.syncDistribution DistributionStore.sync
  cases model.isEmpty with
  | true =>
    cases model.hasIdentity with
    | false => rfl
    | true =>
      cases settings.deletion with
      | false => rfl
      | true =>
        rw [if_pos rfl, if_neg (by simp), if_neg (by simp), run_bind, run_deleteDistribution]
        rcases w.distributions.delete model with ⟨_ | _, s'⟩ <;> rfl
  | false =>
    cases model.hasIdentity with
    | true =>
      rw [if_neg (by simp), if_pos rfl, run_bind, run_updateDistribution]
      rcases w.distributions.update model with ⟨_ | _, s'⟩ <;> rfl
    | false =>
      rw [if_neg (by simp), if_neg (by simp), run_bind, run_createDistribution]
      rcases w.distributions.create model with ⟨_ | _, s'⟩ <;> rfl

theorem run_claimNames (token : String) (model : Model) (status : StatusRecord)
    (wanted : SortedSet String) :
    w.run (Cycle.claimNames token model status wanted) =
      ((w.zone.claimNames token model status wanted).1,
        { w with zone := (w.zone.claimNames token model status wanted).2 }) := by
  unfold Cycle.claimNames Zone.claimNames
  split
  · rfl
  · cases status.address with
    | none => rfl
    | some address => exact run_upsert w token _

theorem run_releaseNames (token : String) (unwanted : AliasSet) :
    w.run (Cycle.releaseNames token unwanted) =
      ((w.zone.releaseNames token unwanted).1,
        { w with zone := (w.zone.releaseNames token unwanted).2 }) := by
  unfold Cycle.releaseNames Zone.releaseNames
  split
  · rfl
  · exact run_delete w token unwanted

theorem run_syncAliasesIfEnabled (model : Model) (status : StatusRecord) :
    w.run (Cycle.syncAliasesIfEnabled settings model status) =
      ((w.zone.syncAliases settings model status).1,
        { w with zone := (w.zone.syncAliases settings model status).2 }) := by
  unfold Cycle.syncAliasesIfEnabled Zone.syncAliases
  split
  · rw [Cycle.syncAliases, run_bind, run_claimNames, run_bind, run_releaseNames, run_pure]
  · rfl

theorem run_settleFinalizer (state : FinalizerState) :
    w.run (Cycle.settleFinalizer d state) =
      ((DescriptorStore.settle w.descriptors d state).1,
        { w with descriptors := (DescriptorStore.settle w.descriptors d state).2 }) := by
  unfold Cycle.settleFinalizer DescriptorStore.settle
  split
  · rfl
  · rw [run_bind, run_setFinalizer]
    rcases DescriptorStore.setFinalizer w.descriptors d.reference state with ⟨_ | _, s'⟩ <;> rfl

theorem run_persist (model : Model) (status : StatusRecord) (isNew clean : Bool) :
    w.run (Cycle.persist settings model status isNew clean) =
      ((StatusStore.persist w.statuses settings model status isNew clean).1,
        { w with
          statuses := (StatusStore.persist w.statuses settings model status isNew clean).2 }) := by
  unfold Cycle.persist StatusStore.persist
  split <;> cases isNew <;> rfl

end World

/-! ## The second half as a whole -/

/-- The status record a cycle starts from. -/
def Cycle.Prepared.found (p : Cycle.Prepared) (group : GroupName) : StatusRecord :=
  p.persisted.getD (.new group)

namespace World

variable (w : World) (settings : Settings) (now : Instant) (d : Descriptor) (p : Cycle.Prepared)

/-- What becomes of the distribution. -/
def distributionSync : Cycle.DistributionSync × DistributionStore :=
  w.distributions.sync settings p.model

/-- The status record with the identity the distribution has now. -/
def identified : StatusRecord :=
  (p.found d.group).setIdentity (w.distributionSync settings p).1.identity

theorem identified_address : (w.identified settings d p).address =
    (w.distributionSync settings p).1.identity.bind (·.address) := rfl

theorem identified_aliases :
    (w.identified settings d p).aliases = (p.found d.group).aliases := rfl

/-- What becomes of the names. -/
def aliasSync : Cycle.AliasSync × Zone :=
  w.zone.syncAliases settings p.model (w.identified settings d p)

/-- The failures of the two steps that converge something. -/
def stepFailures : List Failure :=
  (w.distributionSync settings p).1.failure.toList ++ (w.aliasSync settings d p).1.failures

/-- What becomes of the finalizer. -/
def settled : List Failure × DescriptorStore :=
  DescriptorStore.settle w.descriptors d (Cycle.finalizerAfter d (w.stepFailures settings d p))

/-- The status record a cycle ends with. -/
def recordAfter : StatusRecord :=
  let synced := (w.distributionSync settings p).1.failure.isNone &&
    (w.aliasSync settings d p).1.failures.isEmpty
  let noted := { w.identified settings d p with
    aliases := (w.aliasSync settings d p).1.owned }.recordSync d.reference synced
  let kept := if d.beingRemoved then noted.forget d.reference else noted
  { kept with lastReconciled := some now }

/-- What becomes of the status records. -/
def recorded : Outcome Unit × StatusStore :=
  StatusStore.persist w.statuses settings p.model (w.recordAfter settings now d p)
    p.persisted.isNone (w.stepFailures settings d p ++ (w.settled settings d p).1).isEmpty

/-- All failures of the second half. -/
def failuresAfter : List Failure :=
  w.stepFailures settings d p ++ (w.settled settings d p).1 ++
    Cycle.failuresOf (w.recorded settings now d p).1

/-- The world after the second half. -/
def converged : World :=
  { w with
    descriptors := (w.settled settings d p).2
    distributions := (w.distributionSync settings p).2
    zone := (w.aliasSync settings d p).2
    statuses := (w.recorded settings now d p).2 }

/-- **The second half of a cycle**, step after step. -/
theorem run_converge :
    w.run (Cycle.converge settings now d p) =
      (w.failuresAfter settings now d p, w.converged settings now d p) := by
  unfold Cycle.converge
  simp only [run_bind, run_syncDistribution, run_syncAliasesIfEnabled, run_settleFinalizer,
    run_persist, run_pure]
  rfl

/-! ### The record a cycle ends with -/

@[simp] theorem recordAfter_aliases :
    (w.recordAfter settings now d p).aliases = (w.aliasSync settings d p).1.owned := by
  unfold recordAfter StatusRecord.recordSync StatusRecord.forget
  split <;> rfl

@[simp] theorem recordAfter_group :
    (w.recordAfter settings now d p).group = (p.found d.group).group := by
  unfold recordAfter StatusRecord.recordSync StatusRecord.forget
  split <;> rfl

/-- The record keeps what the distribution step found out about the
identity. -/
theorem recordAfter_identity :
    (w.recordAfter settings now d p).distributionId =
        (w.distributionSync settings p).1.identity.map (·.id) ∧
      (w.recordAfter settings now d p).arn =
        (w.distributionSync settings p).1.identity.map (·.arn) ∧
      (w.recordAfter settings now d p).address =
        (w.distributionSync settings p).1.identity.bind (·.address) := by
  unfold recordAfter StatusRecord.recordSync StatusRecord.forget
  split <;> exact ⟨rfl, rfl, rfl⟩

/-- The route that set off the cycle is noted, or forgotten if it is being
removed. -/
theorem recordAfter_isSynced :
    (w.recordAfter settings now d p).isSynced d.reference =
      if d.beingRemoved then none
      else some ((w.distributionSync settings p).1.failure.isNone &&
        (w.aliasSync settings d p).1.failures.isEmpty) := by
  unfold recordAfter StatusRecord.isSynced StatusRecord.recordSync StatusRecord.forget
  split <;> simp

end World

/-! ## The whole cycle -/

/-- The events that tell an audience about the end of a cycle. -/
def Cycle.notices (d : Descriptor) (audience : Audience) (kind : EventKind)
    (reason message : String) : List Event :=
  ⟨.route d.reference, kind, reason, message⟩ ::
    match audience with
    | .route => []
    | .routeAndStatus => [⟨.status d.group, kind, reason, message⟩]

namespace World

/-- The world with some more events published. -/
def told (w : World) (events : List Event) : World := { w with events := w.events ++ events }

theorem run_announce (w : World) (d : Descriptor) (audience : Audience) (kind : EventKind)
    (reason message : String) :
    w.run (Cycle.announce d audience kind reason message) =
      ((), w.told (Cycle.notices d audience kind reason message)) := by
  cases audience with
  | route => rfl
  | routeAndStatus =>
    rw [Cycle.announce, run_bind, run_publish, run_bind, run_publish, run_pure]
    simp [told, Cycle.notices]

variable {w : World} {settings : Settings} {now : Instant} {d : Descriptor}

/-- A cycle that is stopped in its first half changes no store. -/
theorem run_reconcile_stopped {stop : Stop} (h : w.prepared settings now d = .error stop) :
    w.run (reconcile settings now d) =
      (.error stop.failure, w.told (Cycle.notices d stop.audience .warning stop.failure.reason
        stop.failure.message)) := by
  have hstopped := Cycle.runWith_reconcile_stopped w.answer_read
    ((w.preparedFrom_eq settings now d).trans h)
  rw [run, hstopped, ← run, run_announce]

/-- A cycle that gets through its first half ends as its second half does. -/
theorem run_reconcile_converged {p : Cycle.Prepared} (h : w.prepared settings now d = .ok p) :
    w.run (reconcile settings now d) =
      if w.failuresAfter settings now d p = [] then
        (.ok (), (w.converged settings now d p).told
          (Cycle.notices d .routeAndStatus .normal Cycle.convergedReason
            (Cycle.convergedMessage d.group)))
      else
        let failure := Failure.combine (w.failuresAfter settings now d p)
        (.error failure, (w.converged settings now d p).told
          (Cycle.notices d .routeAndStatus .warning failure.reason failure.message)) := by
  have hrun : w.run (Cycle.run settings now d).run =
      if w.failuresAfter settings now d p = [] then (.ok (), w.converged settings now d p)
      else (.error ⟨.combine (w.failuresAfter settings now d p), .routeAndStatus⟩,
        w.converged settings now d p) := by
    rw [Cycle.run, run_step_bind, run_prepare, h]
    dsimp only
    rw [run_step_bind, run_liftStep, run_converge]
    dsimp only
    cases w.failuresAfter settings now d p with
    | nil => rfl
    | cons failure rest => rfl
  rw [reconcile, run_bind, hrun]
  split
  · rw [run_bind, run_announce, run_pure]
  · rw [run_bind, run_announce, run_pure]

/-- Whatever is reported, the stores are as the second half leaves them. -/
theorem exists_told_converged {p : Cycle.Prepared} (h : w.prepared settings now d = .ok p) :
    ∃ events, (w.run (reconcile settings now d)).2 =
      (w.converged settings now d p).told events := by
  rw [run_reconcile_converged h]
  split
  · exact ⟨_, rfl⟩
  · exact ⟨_, rfl⟩

end World

end RouteConvergence
