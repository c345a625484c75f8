/-
RouteConvergence.Proofs.FinalizerSafety — when the source of a route may
go.

The source of a route is held by a finalizer until the route's share in
its group is cleaned up. Released too early it would disappear before its
cleanup, released too late it could not be deleted at all.

* `World.StepsSucceed` — that the two steps of a cycle report no failure, read
  off runs of the steps themselves.
* `World.NotesFinalizer` — the finalizer of one route is noted and nothing
  else of any descriptor changes.
* `World.Withdrawn` — what a route has left behind in the stores when
  nothing of it is there any more.
* `World.FinalizerSafe` — all a cycle does to finalizers, and
  `World.finalizer_safe` that it does so in every state that can be reached.
-/
import RouteConvergence.Proofs.EntryEffect
import RouteConvergence.Proofs.Convergence

namespace RouteConvergence

/-! ## Released names -/

/-- A name that was released, or need not be, does not hold the token. -/
theorem Zone.unclaimed_of_releasing {z : Zone} (hz : z.Filed) {token name : String}
    (hok : (z.releasing token name).1 = .ok ()) :
    Unclaimed token (z.releasing token name).2 := by
  have hdomain : (AliasEntry.forDomain name true).domain = name := rfl
  -- The one text of the name is the one by which it would be ours.
  have hnotOurs : (∀ text, Claim.of (z.recordsAt name) name token ≠ .ours text) →
      Unclaimed token (z.recordsAt name) := by
    intro hnot r hr htype htoken
    have htext := (mem_recordsAt_type hz name .txt r).1 ⟨hr, htype⟩
    rw [← findText_recordsAt hz] at htext
    exact hnot r (Claim.of_eq_ours_iff.2 ⟨htext, htoken⟩)
  unfold releasing effectAt at hok ⊢
  rw [hdomain] at hok ⊢
  by_cases hours : ∃ text, Claim.of (z.recordsAt name) name token = .ours text
  · obtain ⟨text, hclaim⟩ := hours
    cases hfail : z.failing.contains name with
    | true =>
      rw [hfail, releaseAt, hdomain, hclaim] at hok
      cases hok
    | false =>
      rw [releaseAt_ours hclaim]
      exact unclaimed_withdrawn name token text.values
  · rw [releaseAt_of_not_ours _ (not_exists.1 hours)]
    exact hnotOurs (not_exists.1 hours)

/-! ## The routes that remain -/

/-- A route that is being removed has no share in the model of its group. -/
theorem World.wanted_of_beingRemoved {w : World} {settings : Settings} {now : Instant}
    {d : Descriptor} (h : w.descriptors.FiledBy (·.reference)) (hremoved : d.beingRemoved = true) :
    w.wanted settings now d = (w.remove d.reference).desired settings now d.group := by
  have hrest : (w.remove d.reference).descriptors.values =
      w.descriptors.values.filter (·.reference != d.reference) := by
    show (w.descriptors.erase d.reference).values = _
    rw [h.values_erase]
    refine List.filter_congr fun member _ => ?_
    rw [Bool.eq_iff_iff, bne_iff_ne, bne_iff_ne, ne_eq, Std.LawfulEqCmp.compare_eq_iff_eq]
    exact not_congr eq_comm
  have hmember : d.isMemberOf d.group = false := by simp [Descriptor.isMemberOf, hremoved]
  have hmembers : Group.membersOf d.group (Cycle.withTrigger w.descriptors.values d) =
      Group.membersOf d.group (w.remove d.reference).descriptors.values := by
    rw [Group.membersOf, Group.membersOf, hrest, Cycle.withTrigger, List.filter_append,
      List.filter_cons_of_neg (by simp [hmember]), List.filter_nil, List.append_nil]
  unfold World.wanted World.desired Group.model Group.aggregate
  rw [hmembers]
  rfl

namespace World

/-! ## What a cycle does to finalizers -/

/-- Neither the distribution step nor the name step reports a failure. -/
def StepsSucceed (w : World) (settings : Settings) (d : Descriptor) (p : Cycle.Prepared) : Prop :=
  let distribution := w.run (Cycle.syncDistribution settings p.model)
  let names := distribution.2.run (Cycle.syncAliasesIfEnabled settings p.model
    ((p.found d.group).setIdentity distribution.1.identity))
  distribution.1.failure = none ∧ names.1.failures = []

/-- The finalizer of a route is as noted, and nothing else of any descriptor has
changed. -/
def NotesFinalizer (w w' : World) (d : Descriptor) (state : FinalizerState) : Prop :=
  ∀ route, w'.descriptors.get? route =
    if route = d.reference then some { d with finalizer := state } else w.descriptors.get? route

/-- Nothing of a route is left in the stores: the distribution of its group, if
there is one, is what the remaining routes ask for, and a name that its group
owned holds the token only if one of them declares it. -/
structure Withdrawn (settings : Settings) (now : Instant) (d : Descriptor) (w w' : World) :
    Prop where
  distribution : ∃ model, (w.remove d.reference).desired settings now d.group = .ok model ∧
    ∀ stored, w'.distributions.models.get? d.group = some stored →
      stored = model.withIdentity stored.identity
  names : ∀ status, w.statuses.get? d.group = some status → ∀ name ∈ status.aliases.toList,
    (∀ member ∈ (w.remove d.reference).descriptors.values, member.isMemberOf d.group = true →
      name ∉ (collectDomains [member]).toList) →
    Zone.Unclaimed settings.aliasing.token (w'.zone.recordsAt name)

/-- All that a cycle for a route does to finalizers. -/
structure FinalizerSafe (settings : Settings) (now : Instant) (d : Descriptor) (w w' : World) :
    Prop where
  stopped : (∀ p, ¬ w.Passes settings now d p) → w'.descriptors = w.descriptors
  released : ∀ p, w.Passes settings now d p → d.beingRemoved = true →
    w.StepsSucceed settings d p → w.NotesFinalizer w' d .released ∧ Withdrawn settings now d w w'
  managed : ∀ p, w.Passes settings now d p →
    ¬ (d.beingRemoved = true ∧ w.StepsSucceed settings d p) → w.NotesFinalizer w' d .managed

variable {w : World} {settings : Settings} {now : Instant} {d : Descriptor} {p : Cycle.Prepared}

theorem stepsSucceed_iff : w.StepsSucceed settings d p ↔
    (w.distributionSync settings p).1.failure = none ∧
      (w.aliasSync settings d p).1.failures = [] := by
  unfold StepsSucceed
  simp only [run_syncDistribution, run_syncAliasesIfEnabled]
  rfl

/-- The finalizer is noted, or noted already. -/
theorem notesFinalizer_converged (hd : w.descriptors.get? d.reference = some d)
    {state : FinalizerState} (hstate : Cycle.finalizerAfter d (w.stepFailures settings d p) = state)
    (events : List Event) :
    w.NotesFinalizer ((w.converged settings now d p).told events) d state := by
  intro route
  show (w.settled settings d p).2.get? route = _
  rw [settled, DescriptorStore.settle_eq _ _ _ hd, hstate]
  by_cases hroute : route = d.reference
  · subst hroute
    rw [if_pos rfl]
    by_cases hsame : state = d.finalizer
    · rw [if_pos hsame, hsame]
      exact hd
    · rw [if_neg hsame]
      exact SortedMap.get?_insert_self _ _ _
  · rw [if_neg hroute]
    by_cases hsame : state = d.finalizer
    · rw [if_pos hsame]
    · rw [if_neg hsame]
      exact SortedMap.get?_insert_ne _ _ hroute

theorem finalizerAfter_eq_released_iff {failures : List Failure} :
    Cycle.finalizerAfter d failures = .released ↔ d.beingRemoved = true ∧ failures = [] := by
  unfold Cycle.finalizerAfter
  cases failures <;> cases d.beingRemoved <;> simp

theorem stepFailures_eq_nil_iff :
    w.stepFailures settings d p = [] ↔ w.StepsSucceed settings d p := by
  rw [stepsSucceed_iff, stepFailures, List.append_eq_nil_iff, Option.toList_eq_nil_iff]

/-! ## What is left of a removed route -/

/-- The distribution of the group is what the remaining routes ask for. -/
theorem Sound.withdrawn_distribution (h : w.Sound) (hdeletion : settings.deletion = true)
    (hp : w.prepared settings now d = .ok p) (hremoved : d.beingRemoved = true)
    (hsynced : (w.distributionSync settings p).1.failure = none) :
    ∃ model, (w.remove d.reference).desired settings now d.group = .ok model ∧
      ∀ stored, (w.distributionSync settings p).2.models.get? d.group = some stored →
        stored = model.withIdentity stored.identity := by
  have hprepared := h.preparedModel hp
  obtain ⟨model, hwanted, hmodel⟩ := hprepared.wanted
  rw [wanted_of_beingRemoved h.descriptors hremoved] at hwanted
  refine ⟨model, hwanted, fun stored hstored => ?_⟩
  rw [← hprepared.group] at hstored
  cases hempty : p.model.isEmpty with
  | true =>
    have hnone := ((h.synced hp).cleared hsynced hempty hdeletion).2
    rw [hnone] at hstored
    cases hstored
  | false =>
    obtain ⟨identity, -, -, -, hprovided⟩ := (h.synced hp).provided hsynced hempty
    rw [hprovided] at hstored
    cases hstored
    rw [hmodel]
    rfl

/-- A name the group owned is free of the token unless a remaining route
declares it. -/
theorem Sound.withdrawn_name (h : w.Sound) (henabled : settings.aliasing.enabled = true)
    (hp : w.prepared settings now d = .ok p) (hremoved : d.beingRemoved = true)
    (hsynced : (w.aliasSync settings d p).1.failures = []) {status : StatusRecord}
    (hstatus : w.statuses.get? d.group = some status) {name : String}
    (hname : name ∈ status.aliases.toList)
    (hundeclared : ∀ member ∈ (w.remove d.reference).descriptors.values,
      member.isMemberOf d.group = true → name ∉ (collectDomains [member]).toList) :
    Zone.Unclaimed settings.aliasing.token ((w.aliasSync settings d p).2.recordsAt name) := by
  have hnames := h.namesSynced henabled d p
  obtain ⟨model, hwanted, hmodel⟩ := (h.preparedModel hp).wanted
  rw [wanted_of_beingRemoved h.descriptors hremoved] at hwanted
  have hdomains : p.model.alternateDomains = model.alternateDomains := by rw [hmodel]; rfl
  have hrest : (w.remove d.reference).descriptors.FiledBy (·.reference) := h.descriptors.erase _
  have hunwanted : name ∉ p.model.alternateDomains := by
    rw [hdomains, (Group.modelOf hwanted).domains,
      Group.membersOf_eq hrest.values_ordered (.refl _)]
    intro hmem
    obtain ⟨member, hmember, hdeclared⟩ := mem_collectDomains.1 hmem
    obtain ⟨hstored, hof⟩ := List.mem_filter.1 hmember
    exact hundeclared member hstored hof hdeclared
  have howned : name ∈ (w.identified settings d p).aliases.elems := by
    rw [identified_aliases, found_eq hp hstatus]
    exact hname
  rw [(hnames.released name howned hunwanted).1]
  exact Zone.unclaimed_of_releasing h.zone ((hnames.failures.1 hsynced).2 name howned hunwanted)

theorem Sound.withdrawn (h : w.Sound) (henabled : settings.aliasing.enabled = true)
    (hdeletion : settings.deletion = true) (hp : w.prepared settings now d = .ok p)
    (hremoved : d.beingRemoved = true) (hsynced : w.StepsSucceed settings d p)
    (events : List Event) :
    Withdrawn settings now d w ((w.converged settings now d p).told events) := by
  obtain ⟨hdistribution, hnames⟩ := stepsSucceed_iff.1 hsynced
  exact ⟨h.withdrawn_distribution hdeletion hp hremoved hdistribution,
    fun status hstatus name hname => h.withdrawn_name henabled hp hremoved hnames hstatus hname⟩

/-! ## Every cycle -/

theorem Sound.finalizerSafe (h : w.Sound) (henabled : settings.aliasing.enabled = true)
    (hdeletion : settings.deletion = true) (hd : w.descriptors.get? d.reference = some d) :
    FinalizerSafe settings now d w (w.run (reconcile settings now d)).2 := by
  cases hp : w.prepared settings now d with
  | error stop =>
    have hnone : ∀ p, ¬ w.Passes settings now d p := fun p h => nomatch hp.symm.trans (passes_iff.1 h)
    rw [run_reconcile_stopped hp]
    exact ⟨fun _ => rfl, fun p h => absurd h (hnone p), fun p h => absurd h (hnone p)⟩
  | ok p =>
    obtain ⟨events, hworld⟩ := exists_told_converged hp
    rw [hworld]
    refine ⟨fun hnone => absurd (passes_iff.2 hp) (hnone p), ?_, ?_⟩
    · intro other hpasses hremoved hsynced
      cases hp.symm.trans (passes_iff.1 hpasses)
      refine ⟨notesFinalizer_converged hd ?_ events,
        h.withdrawn henabled hdeletion hp hremoved hsynced events⟩
      exact finalizerAfter_eq_released_iff.2 ⟨hremoved, stepFailures_eq_nil_iff.2 hsynced⟩
    · intro other hpasses hnot
      cases hp.symm.trans (passes_iff.1 hpasses)
      refine notesFinalizer_converged hd ?_ events
      rw [← stepFailures_eq_nil_iff, ← finalizerAfter_eq_released_iff] at hnot
      cases hstate : Cycle.finalizerAfter d (w.stepFailures settings d p) with
      | managed => rfl
      | released => exact absurd hstate hnot

/-- **The source of a route is released exactly when its cleanup is done.** In
every state that can be reached, and for every stored route: a cycle that is
stopped early changes no descriptor, and any other notes one finalizer and
nothing else, `released` if the route is being removed and neither step has
failed, and `managed` if not. When it is released, nothing of the route is left. -/
theorem finalizer_safe (settings : Settings) (henabled : settings.aliasing.enabled = true)
    (hdeletion : settings.deletion = true) (certificates : List Certificate)
    (records : List RecordSet) (history : List Happening) (now : Instant) (d : Descriptor)
    (hd : ((seeded certificates records).through history).descriptors.get? d.reference = some d) :
    FinalizerSafe settings now d ((seeded certificates records).through history)
      (((seeded certificates records).through history).run (reconcile settings now d)).2 :=
  (sound_through certificates records history).finalizerSafe henabled hdeletion hd

/-- The blog is being removed: its source is released, but is held while the zone
takes no changes at its name. -/
theorem finalizer_safe_blog :
    let d : Descriptor := { Descriptor.blog with beingRemoved := true, finalizer := .managed }
    let w := (seeded [] []).through [.store .blog, .cycle .claiming .someNoon .blog, .store d]
    (∀ names, FinalizerSafe .claiming .someNoon d (w.failingAt [] names)
      ((w.failingAt [] names).run (reconcile .claiming .someNoon d)).2) ∧
      ((w.run (reconcile .claiming .someNoon d)).2.descriptors.get? d.reference).map
        (·.finalizer) = some .released ∧
      (((w.failingAt [] ["blog.example.com"]).run
        (reconcile .claiming .someNoon d)).2.descriptors.get? d.reference).map
          (·.finalizer) = some .managed := by
  intro d w
  have hd : w.descriptors.get? d.reference = some d := by decide +kernel
  refine ⟨fun names => ?_, by decide +kernel, by decide +kernel⟩
  exact finalizer_safe .claiming rfl rfl [] [] [.store .blog, .cycle .claiming .someNoon .blog,
    .store d, .failures [] names] .someNoon d hd

end World

end RouteConvergence
