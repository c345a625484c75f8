/-
RouteConvergence.Proofs.Idempotence — a cycle that went through, once more.

The second cycle takes other branches than the first. What was created is
updated, what was deleted is not there any more, the record exists now, and
the route may be noted with another finalizer than the copy that sets off
the cycle. So nothing follows from the code alone: every step has to be
shown to find what it would write.

* `DistributionStore.sync_again`, `Zone.NamesSynced.again`, `World.settled_again`,
  `World.recordAfter_again` — one step after the other, each on the store its
  first run left.
* `World.prepared_again` — the second cycle works towards the same model,
  and knows the identity the first one ended with.
* `World.reconcile_again` — the two cycles together.

The moment of the last cycle is all that a record shows of the second one
(`StatusRecord.unstamped`).
-/
import RouteConvergence.Proofs.Convergence
import RouteConvergence.Proofs.GuardedCycle
import RouteConvergence.Proofs.IndependentEntries

namespace RouteConvergence

/-! ## What is written a second time -/

namespace SortedMap

variable {κ ν : Type} [Ord κ] [Std.TransOrd κ] [Std.LawfulEqOrd κ]

/-- A value written where it stands changes nothing. -/
theorem insert_of_get? {m : SortedMap κ ν} {k : κ} {v : ν} (h : m.get? k = some v) :
    m.insert k v = m := by
  refine ext_get? fun k' => ?_
  by_cases hk : k' = k
  · rw [hk, get?_insert_self, h]
  · rw [get?_insert_ne m v hk]

/-- A key erased where it does not stand changes nothing. -/
theorem erase_of_get? {m : SortedMap κ ν} {k : κ} (h : m.get? k = none) : m.erase k = m := by
  refine ext_get? fun k' => ?_
  by_cases hk : k' = k
  · rw [hk, get?_erase_self, h]
  · rw [get?_erase_ne m hk]

/-- A key that was erased leaves no trace of an insertion before. -/
theorem erase_insert (m : SortedMap κ ν) (k : κ) (v : ν) : (m.insert k v).erase k = m.erase k := by
  refine ext_get? fun k' => ?_
  by_cases hk : k' = k
  · rw [hk, get?_erase_self, get?_erase_self]
  · rw [get?_erase_ne _ hk, get?_erase_ne _ hk, get?_insert_ne m v hk]

end SortedMap

/-! ## The distribution -/

namespace DistributionStore

variable {s : DistributionStore} {settings : Settings} {model : Model}

/-- Nothing is done for a group without members and without a distribution. -/
theorem sync_unknown (s : DistributionStore) (hempty : model.isEmpty = true)
    (hidentity : model.identity = none) : s.sync settings model = (⟨none, none⟩, s) := by
  rw [sync, if_pos hempty, if_pos (by rw [Model.hasIdentity, hidentity]; rfl)]

/-- Nothing is done for a group without members if deletion is off. -/
theorem sync_undeleted (s : DistributionStore) (hempty : model.isEmpty = true)
    (hdeletion : settings.deletion = false) :
    s.sync settings model = (⟨model.identity, none⟩, s) := by
  cases hidentity : model.identity with
  | none => exact sync_unknown s hempty hidentity
  | some identity =>
    have hhas : (!model.hasIdentity) = false := by rw [Model.hasIdentity, hidentity]; rfl
    rw [sync, if_pos hempty, if_neg (by simp [hhas]), if_pos (by simp [hdeletion]), hidentity]

/-- A group with members and a distribution updates it. -/
theorem sync_known (s : DistributionStore) (hempty : model.isEmpty = false)
    (hknown : model.identity.isSome = true) {updated : Model} {s' : DistributionStore}
    (hupdate : s.update model = (.ok updated, s')) :
    s.sync settings model = (⟨updated.identity <|> model.identity, none⟩, s') := by
  rw [sync, if_neg (by simp [hempty]), if_pos (show model.hasIdentity = true from hknown), hupdate]

/-- **The distribution step finds what it has left**: with the identity it
reported it reports the same again and stores nothing new. -/
theorem sync_again (settings : Settings) (h : s.Numbered)
    (hr : Identity.Recalls model.identity (s.identityAt model.group)) (hcalls : s.failing = []) :
    let first := s.sync settings model
    let again := first.2.sync settings (model.withIdentity first.1.identity)
    again.1 = ⟨first.1.identity, none⟩ ∧ again.2.models = first.2.models := by
  intro first again
  have hsynced : Synced s settings model first := sync_spec h hr
  have hnone : first.1.failure = none := hsynced.sound hcalls
  cases hempty : model.isEmpty with
  | true =>
    cases hdeletion : settings.deletion with
    | true =>
      have hcleared := (hsynced.cleared hnone hempty hdeletion).1
      have hagain : again = (⟨none, none⟩, first.2) := sync_unknown first.2 hempty hcleared
      rw [hagain, hcleared]
      exact ⟨rfl, rfl⟩
    | false =>
      have hagain : again = (⟨first.1.identity, none⟩, first.2) :=
        sync_undeleted first.2 hempty hdeletion
      rw [hagain]
      exact ⟨rfl, rfl⟩
  | false =>
    obtain ⟨identity, address, hidentity, -, hstored⟩ := hsynced.provided hnone hempty
    have hat : first.2.identityAt model.group = some identity := by
      rw [identityAt, hstored]
      rfl
    have hcalls' : Operation.update ∉ first.2.failing := by
      rw [hsynced.failing, hcalls]
      exact List.not_mem_nil
    -- The update writes the stored model where it stands.
    have hupdate : first.2.update (model.withIdentity first.1.identity) = _ :=
      hsynced.numbered.update_eq hidentity hat rfl
    rw [if_neg hcalls'] at hupdate
    have hknown : (model.withIdentity first.1.identity).identity.isSome = true := by
      show first.1.identity.isSome = true
      rw [hidentity]
      rfl
    have hempty' : (model.withIdentity first.1.identity).isEmpty = false := hempty
    rw [show again = _ from sync_known first.2 hempty' hknown hupdate, hidentity]
    exact ⟨rfl, SortedMap.insert_of_get? hstored⟩

end DistributionStore

/-! ## The names -/

/-- **The name step finds what it has left**, if no other names are owned than
those that are wanted. -/
theorem Zone.NamesSynced.again {z : Zone} {token : String} {model : Model}
    {identity : Option Identity} {status status' : StatusRecord}
    {first second : Cycle.AliasSync × Zone}
    (h : z.NamesSynced token model status first) (hnone : first.1.failures = [])
    (h' : first.2.NamesSynced token (model.withIdentity identity) status' second)
    (haddress : status'.address = status.address)
    (howned : ∀ name ∈ status'.aliases.elems, name ∈ model.alternateDomains)
    (hzone : first.2.failing = []) :
    second.1.failures = [] ∧ ∀ name, second.2.recordsAt name = first.2.recordsAt name := by
  obtain ⟨hclaims, -⟩ := h.failures.1 hnone
  have hfails : ∀ name : String, first.2.failing.contains name = false := by
    intro name
    rw [hzone]
    rfl
  have hagain : ∀ name ∈ model.alternateDomains, ∃ address, status'.address = some address ∧
      first.2.claiming token address model.ipv6 name = (.ok (), first.2.recordsAt name) := by
    intro name hname
    obtain ⟨address, hstatus, hok⟩ := hclaims name hname
    refine ⟨address, haddress.trans hstatus, ?_⟩
    rw [claiming, effectAt, hfails]
    dsimp only [AliasEntry.forDomain]
    rw [(h.claimed address hstatus name hname).1]
    exact claimAt_again hok
  constructor
  · refine h'.failures.2 ⟨fun name hname => ?_, fun name hmem hnot => ?_⟩
    · obtain ⟨address, hstatus, hclaim⟩ := hagain name hname
      exact ⟨address, hstatus, congrArg Prod.fst hclaim⟩
    · exact absurd (howned name hmem) hnot
  · intro name
    by_cases hname : name ∈ model.alternateDomains
    · obtain ⟨address, hstatus, hclaim⟩ := hagain name hname
      exact (h'.claimed address hstatus name hname).1.trans (congrArg Prod.snd hclaim)
    · exact (h'.elsewhere name (fun hmem => hname (howned name hmem)) hname).1

/-! ## The bookkeeping -/

/-- A record without a word on when it was last written. -/
def StatusRecord.unstamped (status : StatusRecord) : StatusRecord :=
  { status with lastReconciled := none }

namespace World

variable {w w' : World} {settings : Settings} {now later : Instant} {d : Descriptor}
  {p p' : Cycle.Prepared} {model : Model}

/-- **The finalizer step finds what it has left**, although the copy that sets
off the cycle may say otherwise. -/
theorem settled_again (hd : w.descriptors.get? d.reference = some d)
    (hstore : w'.descriptors = (w.settled settings d p).2)
    (hfailures : w'.stepFailures settings d p' = w.stepFailures settings d p) :
    w'.settled settings d p' = ([], w'.descriptors) := by
  have hfirst := DescriptorStore.settle_eq w.descriptors d
    (Cycle.finalizerAfter d (w.stepFailures settings d p)) hd
  rw [settled, hfailures]
  rw [settled, hfirst] at hstore
  dsimp only at hstore
  by_cases hsame : Cycle.finalizerAfter d (w.stepFailures settings d p) = d.finalizer
  · rw [DescriptorStore.settle, if_pos hsame]
  · rw [if_neg hsame] at hstore
    have hstored : w'.descriptors.get? d.reference =
        some { d with finalizer := Cycle.finalizerAfter d (w.stepFailures settings d p) } := by
      rw [hstore]
      exact SortedMap.get?_insert_self _ _ _
    rw [DescriptorStore.settle, if_neg hsame, DescriptorStore.setFinalizer, hstored]
    refine Prod.ext rfl ?_
    exact SortedMap.insert_of_get? hstored

/-- **The record a second cycle ends with** is the one the first ended with, but
for its moment. -/
theorem recordAfter_again
    (hfound : p'.found d.group = w.recordAfter settings now d p)
    (hdistribution : (w'.distributionSync settings p').1 = (w.distributionSync settings p).1)
    (howned : (w'.aliasSync settings d p').1.owned = (w.aliasSync settings d p).1.owned)
    (hfailures : (w'.aliasSync settings d p').1.failures = (w.aliasSync settings d p).1.failures) :
    (w'.recordAfter settings later d p').unstamped =
      (w.recordAfter settings now d p).unstamped := by
  unfold recordAfter
  rw [hdistribution, howned, hfailures]
  unfold identified
  rw [hfound, hdistribution]
  unfold recordAfter identified StatusRecord.recordSync StatusRecord.forget StatusRecord.setIdentity
    StatusRecord.unstamped
  cases d.beingRemoved with
  | true =>
    simp only [if_true, SortedMap.erase_insert]
    rw [SortedMap.erase_of_get? (SortedMap.get?_erase_self _ _)]
  | false =>
    simp only [Bool.false_eq_true, if_false]
    rw [SortedMap.insert_of_get? (SortedMap.get?_insert_self _ _ _)]

/-! ## The second cycle -/

/-- Time only counts by the certificates that can be used. -/
theorem wanted_congr_usable
    (h : Certificate.usable later w.certificates = Certificate.usable now w.certificates) :
    w.wanted settings later d = w.wanted settings now d := by
  simp only [wanted, Group.model, Model.build, h]

/-- A route sets off the same cycle again, whatever became of its finalizer. -/
theorem wanted_converged (hd : w.descriptors.get? d.reference = some d) :
    (w.converged settings now d p).wanted settings later d = w.wanted settings later d := by
  have hsettled := congrArg Prod.snd (DescriptorStore.settle_eq w.descriptors d
    (Cycle.finalizerAfter d (w.stepFailures settings d p)) hd)
  have hunheld : (w.settled settings d p).2.values.map (·.unheld) =
      w.descriptors.values.map (·.unheld) := by
    rw [settled, hsettled]
    dsimp only
    split
    · rfl
    · exact SortedMap.map_values_insert _ hd rfl
  show Group.model settings later w.certificates d.group
    (Cycle.withTrigger (w.settled settings d p).2.values d) = _
  rw [← Group.model_unheld, Cycle.withTrigger_unheld, hunheld, ← Cycle.withTrigger_unheld,
    Group.model_unheld, wanted]

/-- **The second cycle knows the identity the first one ended with**, from the
record or, if there is none, because there is no distribution either. -/
theorem Sound.identityFound_again (h : w.Sound) (hp : w.prepared settings now d = .ok p)
    (hclean : w.Clean settings now d p model) :
    (w.converged settings now d p).identityFound d.group =
      .ok (w.distributionSync settings p).1.identity := by
  have hsynced := h.synced hp
  cases hidentity : (w.distributionSync settings p).1.identity with
  | none =>
    obtain ⟨found, hfound, hrecalls⟩ := (h.converged hp).identityFound d.group
    have hnothing := hsynced.recalls
    rw [hidentity, (h.preparedModel hp).group] at hnothing
    have hsome : found.isSome = false := hrecalls.isSome.trans hnothing.isSome.symm
    have hunknown : found = none := by simpa using hsome
    rw [hfound, hunknown]
  | some identity =>
    -- An identity that is still there is on a record.
    have hkept : ¬ (p.model.isEmpty && settings.deletion) = true := by
      intro hgone
      obtain ⟨hempty, hdeletion⟩ := Bool.and_eq_true_iff.1 hgone
      rw [(hsynced.cleared hclean.distribution hempty hdeletion).1] at hidentity
      cases hidentity
    have hrecord : (w.converged settings now d p).statuses.get? d.group =
        some (w.recordAfter settings now d p) := by
      show (w.recorded settings now d p).2.get? d.group = _
      rw [hclean.recorded, if_neg hkept]
      exact SortedMap.get?_insert_self _ _ _
    obtain ⟨hid, harn, haddress⟩ := w.recordAfter_identity settings now d p
    rw [hidentity] at hid harn haddress
    have hsame : (w.recordAfter settings now d p).identity = some identity := by
      rw [StatusRecord.identity, hid, harn, haddress]
      rfl
    rw [World.identityFound, hrecord, Option.bind_some, hsame]

/-- **The second cycle works towards the same model.** -/
theorem Sound.prepared_again (h : w.Sound) (hd : w.descriptors.get? d.reference = some d)
    (hp : w.prepared settings now d = .ok p) (hclean : w.Clean settings now d p model)
    (hsame : Certificate.usable later w.certificates = Certificate.usable now w.certificates) :
    (w.converged settings now d p).prepared settings later d =
      .ok ⟨(w.converged settings now d p).statuses.get? d.group,
        p.model.withIdentity (w.distributionSync settings p).1.identity⟩ := by
  obtain ⟨hvalid, -⟩ := prepared_eq_ok_iff.1 hp
  have hwanted : (w.converged settings now d p).wanted settings later d = .ok model := by
    rw [wanted_converged hd, wanted_congr_usable hsame, wanted_eq_desired h.descriptors hd]
    exact hclean.asked
  refine prepared_eq_ok_iff.2 ⟨hvalid, model, _, hwanted, h.identityFound_again hp hclean, ?_, ?_⟩
  · unfold Cycle.creationBarred
    cases hempty : p.model.isEmpty with
    | true =>
      have hasked : model.isEmpty = true := by
        rw [hclean.model] at hempty
        exact hempty
      show (!model.isEmpty && _ && _) = false
      rw [hasked]
      rfl
    | false =>
      obtain ⟨identity, -, hidentity, -⟩ := (h.synced hp).provided hclean.distribution hempty
      rw [hidentity]
      simp [Model.hasIdentity, Model.withIdentity]
  · rw [hclean.model]
    rfl

/-- The record a clean cycle leaves, unless nothing is left of the group. -/
theorem Clean.statuses (hclean : w.Clean settings now d p model) :
    (w.converged settings now d p).statuses.get? d.group =
      if p.model.isEmpty && settings.deletion then none
      else some (w.recordAfter settings now d p) := by
  show (w.recorded settings now d p).2.get? d.group = _
  rw [hclean.recorded]
  split
  · exact SortedMap.get?_erase_self _ _
  · exact SortedMap.get?_insert_self _ _ _

/-- What the second cycle finds on record. -/
theorem Clean.found_again (hclean : w.Clean settings now d p model) (p' : Cycle.Prepared)
    (hp' : p'.persisted = (w.converged settings now d p).statuses.get? d.group) :
    p'.found d.group =
      if p.model.isEmpty && settings.deletion then .new d.group
      else w.recordAfter settings now d p := by
  rw [Cycle.Prepared.found, hp', hclean.statuses]
  split <;> rfl

/-- The name step of the second cycle. -/
theorem Sound.aliasSync_again (h : w.Sound) (hp : w.prepared settings now d = .ok p)
    (hclean : w.Clean settings now d p model) (hzone : w.zone.failing = [])
    {identity : Option Identity}
    (hp' : p' = ⟨(w.converged settings now d p).statuses.get? d.group,
      p.model.withIdentity identity⟩)
    (hdistribution : ((w.converged settings now d p).distributionSync settings p').1 =
      (w.distributionSync settings p).1) :
    let result := (w.converged settings now d p).aliasSync settings d p'
    result.1.failures = [] ∧ result.2.records = (w.aliasSync settings d p).2.records ∧
      (¬ (p.model.isEmpty && settings.deletion) = true →
        result.1.owned = (w.aliasSync settings d p).1.owned) := by
  intro result
  have hfound := hclean.found_again p' (by rw [hp'])
  cases henabled : settings.aliasing.enabled with
  | false =>
    have hresult : result = (⟨(p'.found d.group).aliases, []⟩, (w.aliasSync settings d p).2) :=
      aliasSync_disabled henabled
    rw [hresult]
    refine ⟨rfl, rfl, fun hkept => ?_⟩
    rw [hfound, if_neg hkept, recordAfter_aliases]
  | true =>
    have hsynced := h.namesSynced henabled d p
    have hsynced' := (h.converged hp).namesSynced henabled d p'
    have hmodel : p'.model = p.model.withIdentity identity := by rw [hp']
    rw [hmodel] at hsynced'
    have haddress : ((w.converged settings now d p).identified settings d p').address =
        (w.identified settings d p).address := by
      rw [identified_address, identified_address, hdistribution]
    have howned := owned_eq_domains hsynced hclean.names
    have hlisted : ∀ name ∈ ((w.converged settings now d p).identified settings d p').aliases.elems,
        name ∈ p.model.alternateDomains := by
      intro name hname
      rw [identified_aliases, hfound] at hname
      split at hname
      · exact absurd hname List.not_mem_nil
      · rwa [recordAfter_aliases, howned, SortedSet.mem_ofList] at hname
    obtain ⟨hnone, hrecords⟩ := hsynced.again hclean.names hsynced' haddress hlisted
      (hsynced.failing.trans hzone)
    refine ⟨hnone, Zone.records_eq hsynced.filed hsynced'.filed hrecords, fun _ => ?_⟩
    exact SortedSet.eq_of_elems ((owned_eq_domains hsynced' hnone).trans howned.symm)

/-- Two worlds with the same distributions, DNS records, routes and status
records, but for the moments on the latter. -/
structure SameButStamps (w w' : World) : Prop where
  distributions : w'.distributions.models = w.distributions.models
  records : w'.zone.records = w.zone.records
  descriptors : w'.descriptors = w.descriptors
  statuses : ∀ group, (w'.statuses.get? group).map (·.unstamped) =
    (w.statuses.get? group).map (·.unstamped)

/-- Certificates stay as they are. -/
theorem certificates_through (certificates : List Certificate) (records : List RecordSet)
    (history : List Happening) :
    ((seeded certificates records).through history).certificates = certificates := by
  have hstep : ∀ (w : World) (next : Happening), True → w.certificates = certificates →
      (w.after next).certificates = certificates := by
    intro w next _ hw
    cases next with
    | store d => exact hw
    | withdraw route => exact hw
    | failures operations names => exact hw
    | statusLost group => exact hw
    | cycle settings now d =>
      rcases after_cycle w settings now d with ⟨events, heq⟩ | ⟨p, events, -, heq⟩
      · rw [heq]
        exact hw
      · rw [heq]
        exact hw
  exact through_induction hstep (fun _ _ => trivial) rfl

/-- What the second cycle works towards. -/
def preparedAgain (w : World) (settings : Settings) (now : Instant) (d : Descriptor)
    (p : Cycle.Prepared) : Cycle.Prepared :=
  ⟨(w.converged settings now d p).statuses.get? d.group,
    p.model.withIdentity (w.distributionSync settings p).1.identity⟩

/-- **The second half of the second cycle** fails nowhere and finds everything as
it should be. -/
theorem Sound.converged_again (h : w.Sound) (hd : w.descriptors.get? d.reference = some d)
    (hcalls : w.distributions.failing = []) (hzone : w.zone.failing = [])
    (hp : w.prepared settings now d = .ok p) (hclean : w.Clean settings now d p model)
    (hprepared : (w.converged settings now d p).prepared settings later d =
      .ok (w.preparedAgain settings now d p)) :
    let first := w.converged settings now d p
    let again := w.preparedAgain settings now d p
    first.failuresAfter settings later d again = [] ∧
      SameButStamps first (first.converged settings later d again) := by
  intro first again
  have hfirst : first.Sound := h.converged hp
  have hrecalls := (h.preparedModel hp).recalls
  rw [← (h.preparedModel hp).group] at hrecalls
  obtain ⟨hsync, hmodels⟩ :=
    DistributionStore.sync_again settings h.distributions hrecalls hcalls
  have hdistribution :
      (first.distributionSync settings again).1 = (w.distributionSync settings p).1 := by
    refine hsync.trans ?_
    show (⟨(w.distributionSync settings p).1.identity, none⟩ : Cycle.DistributionSync) = _
    rw [← hclean.distribution]
  obtain ⟨hnames, hrecords, howned⟩ := h.aliasSync_again hp hclean hzone rfl hdistribution
  have hsteps : first.stepFailures settings d again = w.stepFailures settings d p := by
    rw [stepFailures, stepFailures, hdistribution, hclean.names]
    exact congrArg _ hnames
  have hclear : w.stepFailures settings d p = [] := by
    rw [stepFailures, hclean.distribution, hclean.names]
    rfl
  have hsettled : first.settled settings d again = ([], first.descriptors) :=
    settled_again hd rfl hsteps
  have hrecorded : (first.recorded settings later d again).2 =
      if p.model.isEmpty && settings.deletion then first.statuses.erase d.group
      else first.statuses.insert d.group (first.recordAfter settings later d again) := by
    have hstored := congrArg Prod.snd (recorded_eq hfirst.statuses hprepared)
    rw [hsteps, hclear, hsettled] at hstored
    exact hstored
  refine ⟨?_, hmodels, hrecords, ?_, fun group => ?_⟩
  · rw [failuresAfter_eq hfirst.statuses hprepared, hsteps, hclear, hsettled]
    rfl
  · show (first.settled settings d again).2 = first.descriptors
    rw [hsettled]
  · show ((first.recorded settings later d again).2.get? group).map _ = _
    rw [hrecorded]
    by_cases hgone : (p.model.isEmpty && settings.deletion) = true
    · have habsent : first.statuses.get? d.group = none := by rw [hclean.statuses, if_pos hgone]
      rw [if_pos hgone, SortedMap.erase_of_get? habsent]
    · rw [if_neg hgone]
      by_cases hgroup : group = d.group
      · subst hgroup
        have hfound := hclean.found_again again rfl
        rw [if_neg hgone] at hfound
        rw [SortedMap.get?_insert_self, hclean.statuses, if_neg hgone]
        exact congrArg some (recordAfter_again hfound hdistribution (howned hgone)
          (hnames.trans hclean.names.symm))
      · rw [SortedMap.get?_insert_ne _ _ hgroup]

/-- **A cycle that went through is idempotent**: from every state that a history
can lead to from empty stores over any zone, under any settings. If a cycle for
a stored route answers without a failure, and nothing is made to fail, then a
second cycle for the same copy of the route, with the same certificates to
choose from, answers without a failure too and changes nothing but the moment
on the record. -/
theorem reconcile_again (certificates : List Certificate) (records : List RecordSet)
    (history : List Happening) (settings : Settings) (now later : Instant) (d : Descriptor)
    (hd : ((seeded certificates records).through history).descriptors.get? d.reference = some d)
    (hcalls : ((seeded certificates records).through history).distributions.failing = [])
    (hzone : ((seeded certificates records).through history).zone.failing = [])
    (hsame : Certificate.usable later certificates = Certificate.usable now certificates)
    (hok : (((seeded certificates records).through history).run (reconcile settings now d)).1 =
      .ok ()) :
    let first := (((seeded certificates records).through history).run (reconcile settings now d)).2
    let again := first.run (reconcile settings later d)
    again.1 = .ok () ∧ SameButStamps first again.2 := by
  have h := sound_through certificates records history
  rw [← certificates_through certificates records history] at hsame
  obtain ⟨p, events, hp, hnone, hfirst⟩ := reconcile_ok hok
  obtain ⟨model, hclean⟩ := h.clean hd hp hnone
  have hprepared := h.prepared_again hd hp hclean hsame
  obtain ⟨hfailures, hkept⟩ := h.converged_again hd hcalls hzone hp hclean hprepared
  -- The events of the first cycle are nothing the second one looks at.
  have hrun := (run_reconcile_converged
    (w := (((seeded certificates records).through history).converged settings now d p).told events)
    hprepared).trans (if_pos hfailures)
  dsimp only
  rw [hfirst, hrun]
  exact ⟨rfl, hkept.distributions, hkept.records, hkept.descriptors, hkept.statuses⟩

/-- The blog, set off twice by the copy that was read before its source was held,
after a record was lost and beside the text of somebody else. -/
theorem reconcile_again_blog :
    let w := (seeded [] [.txt "shop.example.com" ["somebody"]]).through
      [.store .blog, .cycle .claiming .someNoon .blog, .statusLost "public",
        .withdraw Descriptor.blog.reference, .store .blog]
    let first := (w.run (reconcile .claiming .someNoon .blog)).2
    let again := first.run (reconcile .claiming ⟨⟨2025, 6, 1⟩, 43201, 0⟩ .blog)
    again.1 = .ok () ∧ SameButStamps first again.2 := by
  intro w
  exact reconcile_again [] _ _ .claiming .someNoon ⟨⟨2025, 6, 1⟩, 43201, 0⟩ .blog
    (by decide +kernel) (by decide +kernel) (by decide +kernel) rfl
    (Outcome.isOk_iff.1 (by decide +kernel))

end World

end RouteConvergence
