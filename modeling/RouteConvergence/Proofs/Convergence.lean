/-
RouteConvergence.Proofs.Convergence — a cycle that answers without a
failure has brought the stores to what the descriptors ask for.

The statement is about four stores at once and about every state a history
of partly failed cycles can leave behind. It is put together from what is
known of each step:

* the distribution step reports the identity it has stored
  (`DistributionStore.Synced.provided`, `DistributionStore.Synced.cleared`);
* the name step did to every name what it should
  (`Zone.NamesSynced.failures`), and the ledger of the zone says what stands
  at a name after that (`Zone.Standing.claimAt`, `Zone.Standing.releaseAt`);
* the record that is left holds what the two steps report
  (`World.recorded_eq`).

`World.Arrived` is the result, and `World.desired_converged` says that the
cycle does not move its own goal: it may change a finalizer, and finalizers
do not shape a model.
-/
import RouteConvergence.Proofs.ZoneLedger

namespace RouteConvergence

namespace World

/-! ## The goal of a cycle -/

variable {w : World} {settings : Settings} {now : Instant} {d : Descriptor} {p : Cycle.Prepared}

/-- **A cycle does not move its goal.** -/
theorem desired_converged (hd : w.descriptors.get? d.reference = some d) (group : GroupName) :
    (w.converged settings now d p).desired settings now group = w.desired settings now group := by
  have hsettled := congrArg Prod.snd (DescriptorStore.settle_eq w.descriptors d
    (Cycle.finalizerAfter d (w.stepFailures settings d p)) hd)
  have hunheld : (w.settled settings d p).2.values.map (·.unheld) =
      w.descriptors.values.map (·.unheld) := by
    rw [settled, hsettled]
    dsimp only
    split
    · rfl
    · exact SortedMap.map_values_insert _ hd rfl
  show Group.model settings now w.certificates group (w.settled settings d p).2.values = _
  rw [← Group.model_unheld, hunheld, Group.model_unheld, desired]

/-! ## A cycle without a failure -/

/-- A cycle that answers without a failure got through its first half, and
nothing failed in the second. -/
theorem reconcile_ok (hok : (w.run (reconcile settings now d)).1 = .ok ()) :
    ∃ p events, w.prepared settings now d = .ok p ∧ w.failuresAfter settings now d p = [] ∧
      (w.run (reconcile settings now d)).2 = (w.converged settings now d p).told events := by
  cases hp : w.prepared settings now d with
  | error stop =>
    rw [run_reconcile_stopped hp] at hok
    cases hok
  | ok p =>
    rw [run_reconcile_converged hp] at hok ⊢
    by_cases hnone : w.failuresAfter settings now d p = []
    · rw [if_pos hnone]
      exact ⟨p, _, rfl, hnone, rfl⟩
    · rw [if_neg hnone] at hok
      cases hok

/-- What is known of a cycle in which nothing fails, and of the model it works
towards. -/
structure Clean (w : World) (settings : Settings) (now : Instant) (d : Descriptor)
    (p : Cycle.Prepared) (model : Model) : Prop where
  asked : w.desired settings now d.group = .ok model
  model : p.model = model.withIdentity p.model.identity
  distribution : (w.distributionSync settings p).1.failure = none
  names : (w.aliasSync settings d p).1.failures = []
  recorded : (w.recorded settings now d p).2 =
    if p.model.isEmpty && settings.deletion then w.statuses.erase d.group
    else w.statuses.insert d.group (w.recordAfter settings now d p)

theorem Sound.clean (h : w.Sound) (hd : w.descriptors.get? d.reference = some d)
    (hp : w.prepared settings now d = .ok p) (hnone : w.failuresAfter settings now d p = []) :
    ∃ model, w.Clean settings now d p model := by
  obtain ⟨model, hwanted, hmodel⟩ := (h.preparedModel hp).wanted
  rw [wanted_eq_desired h.descriptors hd] at hwanted
  rw [failuresAfter_eq h.statuses hp, List.append_eq_nil_iff] at hnone
  obtain ⟨hsteps, hsettled⟩ := hnone
  have hrecorded := congrArg Prod.snd (recorded_eq h.statuses hp)
  rw [hsteps, hsettled] at hrecorded
  rw [stepFailures, List.append_eq_nil_iff, Option.toList_eq_nil_iff] at hsteps
  exact ⟨model, hwanted, hmodel, hsteps.1, hsteps.2, hrecorded⟩

/-! ### Its names -/

/-- Without a failure a group owns the names of its model and no others. -/
theorem owned_eq_domains {z : Zone} {token : String} {model : Model} {status : StatusRecord}
    {result : Cycle.AliasSync × Zone} (hsynced : z.NamesSynced token model status result)
    (hnone : result.1.failures = []) :
    result.1.owned.elems = (SortedSet.ofList model.alternateDomains).elems := by
  obtain ⟨hclaims, hreleases⟩ := hsynced.failures.1 hnone
  refine SortedSet.elems_eq_of_mem fun name => ?_
  rw [SortedSet.mem_ofList]
  by_cases hwanted : name ∈ model.alternateDomains
  · obtain ⟨address, haddress, hok⟩ := hclaims name hwanted
    rw [(hsynced.claimed address haddress name hwanted).2]
    exact ⟨fun _ => hwanted, fun _ => Or.inr hok⟩
  · refine ⟨fun howned => absurd howned ?_, fun h => absurd h hwanted⟩
    by_cases hmem : name ∈ status.aliases.elems
    · rw [(hsynced.released name hmem hwanted).2]
      exact fun hne => hne (hreleases name hmem hwanted)
    · exact (hsynced.elsewhere name hmem hwanted).2

/-- Without a failure the wanted names point at the recorded address, and the
others stand as they did at the start. -/
theorem Ledger.names_arrived {start : Zone} (h : w.Ledger settings start)
    (hstart : ∀ name, Zone.Unclaimed settings.aliasing.token (start.recordsAt name))
    {model : Model} {status : StatusRecord} {result : Cycle.AliasSync × Zone}
    (hsynced : w.zone.NamesSynced settings.aliasing.token model status result)
    (hipv6 : model.ipv6 = settings.ipv6) (hnone : result.1.failures = []) :
    (∀ name ∈ model.alternateDomains, ∃ address, status.address = some address ∧
      result.2.recordsAt name =
        Zone.aliasRecords name address settings.ipv6 settings.aliasing.token) ∧
    ∀ name ∈ status.aliases.elems, name ∉ model.alternateDomains →
      result.2.recordsAt name = start.recordsAt name := by
  obtain ⟨hclaims, hreleases⟩ := hsynced.failures.1 hnone
  refine ⟨fun name hwanted => ?_, fun name hmem hwanted => ?_⟩
  · obtain ⟨address, haddress, hok⟩ := hclaims name hwanted
    refine ⟨address, haddress, ?_⟩
    rw [hipv6] at hok
    rw [(hsynced.claimed address haddress name hwanted).1, hipv6]
    exact (((h.standing name).claimAt (hstart name) address (w.zone.failing.contains name)).1
      hok).2
  · rw [(hsynced.released name hmem hwanted).1]
    exact ((h.standing name).releaseAt (hstart name) (w.zone.failing.contains name)).1
      (hreleases name hmem hwanted)

/-! ### What it leads to -/

/-- What a cycle for a stored descriptor leads to if nothing fails, from one
world to another: the stores are as a model asks for. -/
structure Arrived (settings : Settings) (now : Instant) (d : Descriptor) (model : Model)
    (w w' : World) : Prop where
  /-- It is the model the stored descriptors ask for, before and after. -/
  asked : w.desired settings now d.group = .ok model
  stillAsked : w'.desired settings now d.group = .ok model
  /-- A group with members has that distribution, and a record that knows it,
  owns its names, and has noted the route. -/
  provided : w.HasMembers d.group → ∃ identity address status,
    w'.distributions.models.get? d.group = some (model.withIdentity (some identity)) ∧
    w'.statuses.get? d.group = some status ∧
    status.distributionId = some identity.id ∧ status.arn = some identity.arn ∧
    status.address = some address ∧ identity.address = some address ∧
    status.aliases.toList = model.alternateDomains ∧
    (∀ name ∈ model.alternateDomains, w'.zone.recordsAt name =
      Zone.aliasRecords name address settings.ipv6 settings.aliasing.token) ∧
    status.isSynced d.reference = if d.beingRemoved then none else some true
  /-- Of a group without members nothing is left. -/
  cleared : ¬ w.HasMembers d.group →
    w'.distributions.models.get? d.group = none ∧ w'.statuses.get? d.group = none
  /-- Nothing stands at a name the group owned and does not want. -/
  released : ∀ status, w.statuses.get? d.group = some status →
    ∀ name ∈ status.aliases.toList, name ∉ model.alternateDomains → w'.zone.recordsAt name = []

variable {model : Model}

/-- The record of a group with members says all there is to say. -/
theorem Sound.provided (h : w.Sound) (hp : w.prepared settings now d = .ok p)
    (hclean : w.Clean settings now d p model) (hmembers : w.HasMembers d.group) :
    ∃ identity address,
      (w.distributionSync settings p).2.models.get? d.group =
        some (model.withIdentity (some identity)) ∧
      (w.recorded settings now d p).2.get? d.group = some (w.recordAfter settings now d p) ∧
      (w.distributionSync settings p).1.identity = some identity ∧
      identity.address = some address := by
  have hempty : p.model.isEmpty = false := by
    rw [← Bool.not_eq_true, hclean.model]
    exact fun he => (h.isEmpty_iff hclean.asked).1 he hmembers
  obtain ⟨identity, address, hidentity, haddress, hstored⟩ :=
    (h.synced hp).provided hclean.distribution hempty
  rw [(h.preparedModel hp).group, hclean.model] at hstored
  refine ⟨identity, address, hstored, ?_, hidentity, haddress⟩
  rw [hclean.recorded, hempty]
  exact SortedMap.get?_insert_self _ _ _

/-- Of a group without members neither a distribution nor a record is left. -/
theorem Sound.cleared (h : w.Sound) (hp : w.prepared settings now d = .ok p)
    (hclean : w.Clean settings now d p model) (hdeletion : settings.deletion = true)
    (hmembers : ¬ w.HasMembers d.group) :
    (w.distributionSync settings p).2.models.get? d.group = none ∧
      (w.recorded settings now d p).2.get? d.group = none := by
  have hempty : p.model.isEmpty = true := by
    rw [hclean.model]
    exact (h.isEmpty_iff hclean.asked).2 hmembers
  have hnone := ((h.synced hp).cleared hclean.distribution hempty hdeletion).2
  rw [(h.preparedModel hp).group] at hnone
  refine ⟨hnone, ?_⟩
  rw [hclean.recorded, hempty, hdeletion]
  exact SortedMap.get?_erase_self _ _

theorem Clean.domains (hclean : w.Clean settings now d p model) :
    p.model.alternateDomains = model.alternateDomains := by
  rw [hclean.model]
  rfl

/-- The record owns the names of the model. -/
theorem Sound.recordAfter_domains (h : w.Sound) (henabled : settings.aliasing.enabled = true)
    (hclean : w.Clean settings now d p model) :
    (w.recordAfter settings now d p).aliases.toList = model.alternateDomains := by
  have howned := owned_eq_domains (h.namesSynced henabled d p) hclean.names
  rw [hclean.domains] at howned
  rw [recordAfter_aliases]
  exact howned.trans (Group.modelOf hclean.asked).ofList_domains

theorem Ledger.arrived {start : Zone} (h : w.Ledger settings start)
    (hstart : ∀ name, start.recordsAt name = []) (henabled : settings.aliasing.enabled = true)
    (hdeletion : settings.deletion = true) (hd : w.descriptors.get? d.reference = some d)
    (hp : w.prepared settings now d = .ok p) (hclean : w.Clean settings now d p model) :
    Arrived settings now d model w (w.converged settings now d p) := by
  have hunclaimed : ∀ name, Zone.Unclaimed settings.aliasing.token (start.recordsAt name) := by
    intro name
    rw [hstart]
    exact Zone.unclaimed_nil _
  obtain ⟨hclaimed, hreleased⟩ := h.names_arrived hunclaimed (h.sound.namesSynced henabled d p)
    (h.sound.preparedModel hp).ipv6 hclean.names
  rw [hclean.domains] at hclaimed hreleased
  refine ⟨hclean.asked, ?_, ?_, h.sound.cleared hp hclean hdeletion, ?_⟩
  · rw [desired_converged hd]
    exact hclean.asked
  · intro hmembers
    obtain ⟨identity, address, hstored, hrecord, hidentity, haddress⟩ :=
      h.sound.provided hp hclean hmembers
    obtain ⟨hid, harn, hrecorded⟩ := w.recordAfter_identity settings now d p
    rw [hidentity] at hid harn hrecorded
    refine ⟨identity, address, _, hstored, hrecord, hid, harn, hrecorded.trans haddress, haddress,
      h.sound.recordAfter_domains henabled hclean, ?_, ?_⟩
    · intro name hname
      obtain ⟨other, hother, hrecords⟩ := hclaimed name hname
      -- The names were claimed for the address the record ends with.
      rw [identified_address, hidentity] at hother
      cases haddress.symm.trans hother
      exact hrecords
    · rw [recordAfter_isSynced, hclean.distribution, hclean.names]
      rfl
  · intro status hstatus name hname hwanted
    have hmem : name ∈ (w.identified settings d p).aliases.elems := by
      rw [identified_aliases, found_eq hp hstatus]
      exact hname
    show (w.aliasSync settings d p).2.recordsAt name = []
    rw [hreleased name hmem hwanted, hstart]

/-- **A cycle that answers without a failure has converged its group**: from
every state that a history under fixed settings can lead to from empty
stores, and for every stored descriptor. -/
theorem reconcile_converges (settings : Settings) (henabled : settings.aliasing.enabled = true)
    (hdeletion : settings.deletion = true) (certificates : List Certificate)
    (history : List Happening) (hhistory : ∀ next ∈ history, next.Under settings) (now : Instant)
    (d : Descriptor)
    (hd : ((initial certificates).through history).descriptors.get? d.reference = some d)
    (hok : (((initial certificates).through history).run (reconcile settings now d)).1 = .ok ()) :
    ∃ model, Arrived settings now d model ((initial certificates).through history)
      (((initial certificates).through history).run (reconcile settings now d)).2 := by
  have hledger : ((initial certificates).through history).Ledger settings .empty := by
    refine ledger_through certificates [] henabled ?_ hhistory
    intro name r hr
    exact absurd hr List.not_mem_nil
  obtain ⟨p, events, hp, hnone, hworld⟩ := reconcile_ok hok
  obtain ⟨model, hclean⟩ := hledger.sound.clean hd hp hnone
  have harrived := hledger.arrived (fun _ => rfl) henabled hdeletion hd hp hclean
  rw [hworld]
  exact ⟨model, harrived.asked, harrived.stillAsked, harrived.provided, harrived.cleared,
    harrived.released⟩

/-- The blog converges after a first cycle that could not create its
distribution. -/
theorem reconcile_converges_blog :
    let d : Descriptor := { Descriptor.blog with finalizer := .managed }
    let w := (initial []).through [.store .blog, .failures [.create] [],
      .cycle .claiming .someNoon .blog, .failures [] []]
    w.HasMembers d.group ∧
      ∃ model, Arrived .claiming .someNoon d model w
        (w.run (reconcile .claiming .someNoon d)).2 := by
  intro d w
  refine ⟨⟨d, by decide +kernel, by decide +kernel⟩, ?_⟩
  exact reconcile_converges .claiming rfl rfl [] _ (by decide +kernel) _ d (by decide +kernel)
    (Outcome.isOk_iff.1 (by decide +kernel))

end World

end RouteConvergence
