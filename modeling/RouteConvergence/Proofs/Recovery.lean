/-
RouteConvergence.Proofs.Recovery — no failure leaves a group stuck.

Whatever failed before, under whatever settings, and whichever status
records were lost: once nothing is made to fail any more, the next cycle
for a stored descriptor goes through. Every call it makes is looked at in
turn.

* The identity is found, by the record or by the resource name, and an
  update finds the distribution it asks for
  (`World.Sound.identityFound`, `DistributionStore.Synced.sound`).
* An address is known before a name is claimed, because the distribution
  step has just stored it.
* A claim is refused only where somebody else is
  (`Zone.Claimable.claimAt`), a release never (`releaseAt_ok`), and neither
  asks to remove a record that is not there.
* The record that was found decides whether one is created or replaced
  (`StatusStore.persist_eq`).

What is left are the conditions a group cannot be converged without: its
model can be built, a distribution may be created if it has none, and its
names are not in other hands.
-/
import RouteConvergence.Proofs.History

namespace RouteConvergence

/-! ## Claims and releases that cannot be refused -/

/-- Nobody else is at a name: a text there holds the token, and addresses do
not stand without a text. -/
structure Zone.Claimable (token : String) (records : List RecordSet) : Prop where
  ours : ∀ r ∈ records, r.type = .txt → token ∈ r.values
  marked : (∃ r ∈ records, r.type.isAddress = true) → ∃ r ∈ records, r.type = .txt

/-- A claimable name is not somebody else's. -/
theorem Zone.Claimable.not_foreign {token domain : String} {records : List RecordSet}
    (h : Zone.Claimable token records) (cause : Conflict) :
    Claim.of records domain token ≠ .foreign cause := by
  unfold Claim.of
  cases htext : findText records with
  | some text =>
    have htype : text.type = .txt := by simpa using List.find?_some htext
    have hours := h.ours text (List.mem_of_find?_eq_some htext) htype
    simp [hours]
  | none =>
    have hnone : addressRecords records = [] := by
      rw [addressRecords, List.filter_eq_nil_iff]
      intro r hr haddress
      obtain ⟨t, ht, htype⟩ := h.marked ⟨r, hr, haddress⟩
      exact List.find?_eq_none.1 htext t ht (by simpa using htype)
    simp [hnone]

/-- A claim of a claimable name goes through unless the zone fails there. -/
theorem Zone.Claimable.claimAt {token : String} {records : List RecordSet} {entry : AliasEntry}
    (h : Zone.Claimable token records) (target : String) :
    (RouteConvergence.claimAt token target entry false records).1 = .ok () := by
  unfold RouteConvergence.claimAt
  cases hclaim : Claim.of records entry.domain token with
  | foreign cause => exact absurd hclaim (h.not_foreign cause)
  | free => rfl
  | ours text => rfl

/-- A release goes through unless the zone fails there. -/
theorem releaseAt_ok (token : String) (entry : AliasEntry) (records : List RecordSet) :
    (releaseAt token entry false records).1 = .ok () := by
  unfold releaseAt
  cases Claim.of records entry.domain token <;> rfl

namespace World

variable {w : World} {settings : Settings} {now : Instant} {d : Descriptor} {p : Cycle.Prepared}
  {model : Model}

/-! ## The first half -/

/-- The first half of a cycle gets through if the model can be built and a
distribution may be created where there is none. -/
theorem Sound.prepared (h : w.Sound) (hd : w.descriptors.get? d.reference = some d)
    (hvalid : d.validate = .ok ()) (hmodel : w.desired settings now d.group = .ok model)
    (hcreation : settings.creation = true ∨
      (w.distributions.models.get? d.group).isSome = true ∨ ¬ w.HasMembers d.group) :
    ∃ identity, w.prepared settings now d =
      .ok ⟨w.statuses.get? d.group, model.withIdentity identity⟩ := by
  obtain ⟨identity, hidentity, hrecalls⟩ := h.identityFound d.group
  refine ⟨identity, prepared_eq_ok_iff.2 ⟨hvalid, model, identity, ?_, hidentity, ?_, rfl⟩⟩
  · rw [wanted_eq_desired h.descriptors hd, hmodel]
  · unfold Cycle.creationBarred
    rcases hcreation with hcreation | hstored | hmembers
    · rw [hcreation]
      simp
    · have hsome : identity.isSome = true := by
        rw [hrecalls.isSome, Option.isSome_iff_ne_none, ne_eq,
          h.distributions.identityAt_eq_none_iff]
        exact Option.isSome_iff_ne_none.1 hstored
      have hhas : (model.withIdentity identity).hasIdentity = true := hsome
      rw [hhas]
      simp
    · have hempty : (model.withIdentity identity).isEmpty = true :=
        (h.isEmpty_iff hmodel).2 hmembers
      rw [hempty]
      simp

/-! ## The second half -/

/-- The name step goes through if nobody else is at the wanted names. -/
theorem Sound.names_ok (h : w.Sound) (hp : w.prepared settings now d = .ok p)
    (hdistribution : (w.distributionSync settings p).1.failure = none)
    (hzone : w.zone.failing = [])
    (hclaimable : settings.aliasing.enabled = true → ∀ name ∈ p.model.alternateDomains,
      Zone.Claimable settings.aliasing.token (w.zone.recordsAt name)) :
    (w.aliasSync settings d p).1.failures = [] := by
  cases henabled : settings.aliasing.enabled with
  | false =>
    rw [aliasSync_disabled henabled]
  | true =>
    have hnamed := h.namesSynced henabled d p
    have hfails : ∀ name : String, w.zone.failing.contains name = false := by
      intro name
      rw [hzone]
      rfl
    refine hnamed.failures.2 ⟨fun name hname => ?_, fun name _ _ => ?_⟩
    · -- A group that wants a name has members, so its distribution was stored.
      have hempty : p.model.isEmpty = false := by
        rw [← Bool.not_eq_true]
        intro he
        rw [(h.preparedModel hp).noNames he] at hname
        exact absurd hname List.not_mem_nil
      obtain ⟨identity, address, hidentity, haddress, -⟩ :=
        (h.synced hp).provided hdistribution hempty
      refine ⟨address, ?_, ?_⟩
      · rw [identified_address, hidentity]
        exact haddress
      · rw [Zone.claiming, Zone.effectAt, hfails]
        exact (hclaimable henabled name hname).claimAt address
    · rw [Zone.releasing, Zone.effectAt, hfails]
      exact releaseAt_ok _ _ _

/-- The second half of a cycle for a stored descriptor goes through once
nothing is made to fail. -/
theorem Sound.failuresAfter_eq_nil (h : w.Sound) (hd : w.descriptors.get? d.reference = some d)
    (hp : w.prepared settings now d = .ok p) (hcalls : w.distributions.failing = [])
    (hzone : w.zone.failing = [])
    (hclaimable : settings.aliasing.enabled = true → ∀ name ∈ p.model.alternateDomains,
      Zone.Claimable settings.aliasing.token (w.zone.recordsAt name)) :
    w.failuresAfter settings now d p = [] := by
  have hdistribution := (h.synced hp).sound hcalls
  have hnames := h.names_ok hp hdistribution hzone hclaimable
  rw [failuresAfter_eq h.statuses hp, stepFailures, hdistribution, hnames, settled,
    DescriptorStore.settle_eq _ _ _ hd]
  rfl

/-- **No earlier failure can leave a group stuck**: after every history from
empty stores, once nothing is made to fail, the next cycle for a valid
stored descriptor goes through, if its group can be converged at all. -/
theorem next_cycle_recovers (certificates : List Certificate) (records : List RecordSet)
    (history : List Happening) (settings : Settings) (now : Instant) (d : Descriptor)
    (hd : ((seeded certificates records).through history).descriptors.get? d.reference = some d)
    (hvalid : d.validate = .ok ())
    (hcalls : ((seeded certificates records).through history).distributions.failing = [])
    (hzone : ((seeded certificates records).through history).zone.failing = []) (model : Model)
    (hmodel : ((seeded certificates records).through history).desired settings now d.group =
      .ok model)
    (hcreation : settings.creation = true ∨
      (((seeded certificates records).through history).distributions.models.get?
        d.group).isSome = true ∨
      ¬ ((seeded certificates records).through history).HasMembers d.group)
    (hclaimable : settings.aliasing.enabled = true → ∀ name ∈ model.alternateDomains,
      Zone.Claimable settings.aliasing.token
        (((seeded certificates records).through history).zone.recordsAt name)) :
    (((seeded certificates records).through history).run (reconcile settings now d)).1 =
      .ok () := by
  have hsound := sound_through certificates records history
  obtain ⟨identity, hp⟩ := hsound.prepared hd hvalid hmodel hcreation
  have hnone := hsound.failuresAfter_eq_nil hd hp hcalls hzone hclaimable
  rw [run_reconcile_converged hp, if_pos hnone]

/-- The blog recovers after its distribution could not be created, then its
name not be claimed, and then its record was lost, all before creation was
switched off. -/
theorem next_cycle_recovers_blog :
    let d : Descriptor := { Descriptor.blog with finalizer := .managed }
    let settings : Settings := { Settings.claiming with creation := false }
    let w := (seeded [] [.txt "shop.example.com" ["somebody"]]).through
      [.store .blog, .failures [.create] [], .cycle .claiming .someNoon .blog,
        .failures [] ["blog.example.com"], .cycle .claiming .someNoon d, .statusLost "public",
        .failures [] []]
    (w.run (reconcile settings .someNoon d)).1 = .ok () := by
  intro d settings w
  obtain ⟨model, hmodel⟩ : ∃ model, w.desired settings .someNoon d.group = .ok model :=
    Outcome.isOk_iff_exists.1 (by decide +kernel)
  have hnames : model.alternateDomains = ["blog.example.com"] := by
    rw [(Group.modelOf hmodel).domains]
    decide +kernel
  refine next_cycle_recovers _ _ _ settings .someNoon d (by decide +kernel)
    (Outcome.isOk_iff.1 (by decide +kernel)) (by decide +kernel) (by decide +kernel) model hmodel
    (Or.inr (Or.inl (by decide +kernel))) ?_
  intro _ name hname
  rw [hnames, List.mem_singleton] at hname
  subst hname
  exact ⟨by decide +kernel, by decide +kernel⟩

end World

end RouteConvergence
