/-
RouteConvergence.Proofs.MovedRoutes — what a route leaves behind when it
moves to another group.

A cycle looks at the present group of the route that set it off. The group
the route was in before is looked at again only when another of its routes
sets off a cycle, so what stands in the stores for a group is what the last
cycles of this group have made of it, however long ago.

* `Run`, `Journal` — an engine whose backends take every call, and what it
  went through: the routes that were written and the cycles that answered
  without a failure.
* `Journal.Enrolled`, `Journal.found` — the routes a group has taken in and
  not let go, and the members it was last found to have, both told by the
  journal alone.
* `World.Untroubled.cycle` — one step: in such a run a cycle is stopped by
  its checks or goes through.
* `World.Accounted` — what a run keeps: status records list the enrolled
  routes, and the groups with a distribution are those last found with
  members.
* `World.nothing_left_iff` — once every route is settled, nothing is left
  behind exactly if no enrolled route has moved away and not all of the
  members found have; `World.moved_blog_left` is the shortest way to leave
  something behind.
-/
import RouteConvergence.Proofs.FinalizerSafety
import RouteConvergence.Proofs.Recovery

namespace RouteConvergence

/-- A claimed name can be claimed again. -/
theorem Zone.claimable_aliasRecords (name target token : String) (ipv6 : Bool) :
    Claimable token (aliasRecords name target ipv6 token) := by
  constructor <;> cases ipv6 <;> simp [aliasRecords, RecordSet.aliasTo, RecordSet.txt]

/-! ## Journals -/

/-- One thing an engine went through. -/
inductive Journal.Entry
  /-- A route was written, for the first time or in another version. -/
  | written (d : Descriptor)
  /-- A cycle for a stored route answered without a failure, when the group had
  these members. -/
  | converged (d : Descriptor) (members : List Reference)

/-- What an engine went through, the newest first. -/
abbrev Journal := List Journal.Entry

namespace Journal

/-- The latest version of a route has been through a cycle that answered without
a failure. -/
def Settled (route : Reference) : Journal → Prop
  | [] => False
  | .written d :: earlier => d.reference ≠ route ∧ Settled route earlier
  | .converged d _ :: earlier => d.reference = route ∨ Settled route earlier

/-- The members the last cycle of a group found. -/
def found (group : GroupName) : Journal → List Reference
  | [] => []
  | .written _ :: earlier => found group earlier
  | .converged d members :: earlier => if d.group = group then members else found group earlier

/-- **A group has taken in a route and not let it go**: the last cycle the route
set off in this group was not for its removal, and since then the group has not
been found without members. -/
def Enrolled (group : GroupName) (route : Reference) : Journal → Prop
  | [] => False
  | .written _ :: earlier => Enrolled group route earlier
  | .converged d members :: earlier =>
    if d.group = group then
      members ≠ [] ∧
        if d.reference = route then d.beingRemoved = false else Enrolled group route earlier
    else Enrolled group route earlier

/-- A route was written for a group at some time. -/
def WrittenFor (route : Reference) (group : GroupName) (journal : Journal) : Prop :=
  ∃ d, .written d ∈ journal ∧ d.reference = route ∧ d.group = group

/-- No route was ever written for two groups. -/
def Unmoved (journal : Journal) : Prop :=
  ∀ route group group', journal.WrittenFor route group → journal.WrittenFor route group' →
    group = group'

variable {route : Reference} {group : GroupName} {journal : Journal} {d : Descriptor}
  {members : List Reference}

theorem found_converged_self : found d.group (.converged d members :: journal) = members :=
  if_pos rfl

theorem found_converged_ne (h : d.group ≠ group) :
    found group (.converged d members :: journal) = found group journal :=
  if_neg h

theorem enrolled_converged_self : Enrolled d.group route (.converged d members :: journal) ↔
    members ≠ [] ∧
      if d.reference = route then d.beingRemoved = false else Enrolled d.group route journal := by
  rw [Enrolled, if_pos rfl]

theorem enrolled_converged_ne (h : d.group ≠ group) :
    Enrolled group route (.converged d members :: journal) ↔ Enrolled group route journal := by
  rw [Enrolled, if_neg h]

theorem WrittenFor.cons (h : journal.WrittenFor route group) (entry : Entry) :
    WrittenFor route group (entry :: journal) := by
  obtain ⟨d, hd, hroute, hgroup⟩ := h
  exact ⟨d, List.mem_cons_of_mem _ hd, hroute, hgroup⟩

end Journal

namespace World

/-- The routes that shape the distribution of a group. -/
def membersAt (w : World) (group : GroupName) : List Reference :=
  (w.descriptors.values.filter (·.isMemberOf group)).map (·.reference)

/-- A route is stored, and the group is its present one. -/
def StandsIn (w : World) (route : Reference) (group : GroupName) : Prop :=
  ∃ d, w.descriptors.get? route = some d ∧ d.group = group

/-- The status record of a group lists a route. -/
def ListsRoute (w : World) (group : GroupName) (route : Reference) : Prop :=
  ∃ status, w.statuses.get? group = some status ∧ route ∈ status.synced.keys

/-- **Nothing is left behind**: status records list routes of their groups, and
groups with a distribution have members. -/
structure NothingLeft (w : World) : Prop where
  listed : ∀ group route, w.ListsRoute group route → w.StandsIn route group
  peopled : ∀ group, (w.distributions.models.get? group).isSome = true → w.HasMembers group

/-- **A run from empty stores** in which every call is taken: routes are written,
and cycles are run for routes as they are stored. -/
inductive Run (settings : Settings) (certificates : List Certificate) : World → Journal → Prop
  | start : Run settings certificates (initial certificates) []
  | write {w : World} {journal : Journal} (d : Descriptor)
      (before : Run settings certificates w journal) :
      Run settings certificates (w.after (.store d)) (.written d :: journal)
  | converge {w : World} {journal : Journal} (now : Instant) (d : Descriptor)
      (before : Run settings certificates w journal)
      (stored : w.descriptors.get? d.reference = some d)
      (ok : (w.run (reconcile settings now d)).1 = .ok ()) :
      Run settings certificates (w.after (.cycle settings now d))
        (.converged d (w.membersAt d.group) :: journal)
  | fail {w : World} {journal : Journal} (now : Instant) (d : Descriptor)
      (before : Run settings certificates w journal)
      (stored : w.descriptors.get? d.reference = some d)
      (failed : (w.run (reconcile settings now d)).1 ≠ .ok ()) :
      Run settings certificates (w.after (.cycle settings now d)) journal

variable {w w' : World} {settings : Settings} {certificates : List Certificate} {now : Instant}
  {d : Descriptor} {p : Cycle.Prepared} {journal : Journal} {group : GroupName} {route : Reference}

theorem mem_membersAt (h : w.descriptors.FiledBy (·.reference)) :
    route ∈ w.membersAt group ↔
      ∃ d, w.descriptors.get? route = some d ∧ d.isMemberOf group = true := by
  simp only [membersAt, List.mem_map, List.mem_filter]
  constructor
  · rintro ⟨d, ⟨hd, hmember⟩, rfl⟩
    exact ⟨d, (h.mem_values_iff d).1 hd, hmember⟩
  · rintro ⟨d, hd, hmember⟩
    exact ⟨d, ⟨(SortedMap.mem_values _ _).2 ⟨route, hd⟩, hmember⟩, h _ _ hd⟩

theorem membersAt_ne_nil_iff : w.membersAt group ≠ [] ↔ w.HasMembers group := by
  simp [membersAt, HasMembers, List.filter_eq_nil_iff]

/-! ## Cycles that meet no resistance -/

/-- Every call is taken, and nobody else has written to the zone. -/
structure Untroubled (settings : Settings) (w : World) : Prop where
  sound : w.Sound
  calls : w.distributions.failing = []
  names : w.zone.failing = []
  ledger : settings.aliasing.enabled = true → w.Ledger settings .empty

theorem untroubled_initial (settings : Settings) (certificates : List Certificate) :
    (initial certificates).Untroubled settings where
  sound := sound_seeded certificates []
  calls := rfl
  names := rfl
  ledger := fun _ => ledger_seeded certificates []

/-- Where nothing stood at the start nobody else stands in the way. -/
theorem Untroubled.claimable (h : w.Untroubled settings)
    (henabled : settings.aliasing.enabled = true) (name : String) :
    Zone.Claimable settings.aliasing.token (w.zone.recordsAt name) := by
  rcases (h.ledger henabled).standing name with hsame | ⟨-, target, halias⟩
  · rw [hsame]
    exact ⟨fun _ hr => absurd hr List.not_mem_nil, fun ⟨_, hr, _⟩ => absurd hr List.not_mem_nil⟩
  · rw [halias]
    exact Zone.claimable_aliasRecords _ _ _ _

/-- **In a run without troubles** a cycle is stopped by its checks, and changes
nothing, or it goes through. -/
theorem Untroubled.cycle (h : w.Untroubled settings) (hd : w.descriptors.get? d.reference = some d)
    (now : Instant) :
    (∃ events, (w.run (reconcile settings now d)).1 ≠ .ok () ∧
        w.after (.cycle settings now d) = w.told events) ∨
      ∃ p events, (w.run (reconcile settings now d)).1 = .ok () ∧
        w.prepared settings now d = .ok p ∧ w.failuresAfter settings now d p = [] ∧
        w.after (.cycle settings now d) = (w.converged settings now d p).told events := by
  rw [after_cycle_eq]
  cases hp : w.prepared settings now d with
  | error stop =>
    rw [run_reconcile_stopped hp]
    exact Or.inl ⟨_, nofun, rfl⟩
  | ok p =>
    have hnone := h.sound.failuresAfter_eq_nil hd hp h.calls h.names
      fun henabled name _ => h.claimable henabled name
    rw [run_reconcile_converged hp, if_pos hnone]
    exact Or.inr ⟨p, _, rfl, rfl, hnone, rfl⟩

theorem Untroubled.after_store (h : w.Untroubled settings) (d : Descriptor) :
    (w.after (.store d)).Untroubled settings where
  sound := h.sound.after (.store d)
  calls := h.calls
  names := h.names
  ledger := fun henabled => (h.ledger henabled).after (fun _ => Zone.unclaimed_nil _) henabled trivial

theorem Untroubled.after_cycle (h : w.Untroubled settings) (now : Instant) (d : Descriptor) :
    (w.after (.cycle settings now d)).Untroubled settings := by
  have hfailing : (w.after (.cycle settings now d)).distributions.failing = [] ∧
      (w.after (.cycle settings now d)).zone.failing = [] := by
    rcases World.after_cycle w settings now d with ⟨events, heq⟩ | ⟨p, events, hp, heq⟩
    · rw [heq]
      exact ⟨h.calls, h.names⟩
    · rw [heq]
      refine ⟨(h.sound.synced hp).failing.trans h.calls, ?_⟩
      show (w.aliasSync settings d p).2.failing = []
      cases henabled : settings.aliasing.enabled with
      | true => exact (h.sound.namesSynced henabled d p).failing.trans h.names
      | false =>
        rw [aliasSync_disabled henabled]
        exact h.names
  exact ⟨h.sound.after _, hfailing.1, hfailing.2,
    fun henabled => (h.ledger henabled).after (fun _ => Zone.unclaimed_nil _) henabled rfl⟩

theorem Run.untroubled (h : Run settings certificates w journal) : w.Untroubled settings := by
  induction h with
  | start => exact untroubled_initial settings certificates
  | write d _ ih => exact ih.after_store d
  | converge now d _ _ _ ih => exact ih.after_cycle now d
  | fail now d _ _ _ ih => exact ih.after_cycle now d

/-! ## What a cycle makes of its group -/

/-- The record a cycle starts from lists what the stored one lists. -/
theorem found_lists_iff (hp : w.prepared settings now d = .ok p) :
    (∃ success, (p.found d.group).isSynced route = some success) ↔ w.ListsRoute d.group route := by
  simp only [ListsRoute, SortedMap.mem_keys]
  rw [Cycle.Prepared.found, persisted_eq hp]
  cases w.statuses.get? d.group with
  | none => simp [StatusRecord.isSynced, StatusRecord.new]
  | some status => simp [StatusRecord.isSynced]

/-- A cycle notes nothing of other routes. -/
theorem recordAfter_isSynced_ne (hne : route ≠ d.reference) :
    (w.recordAfter settings now d p).isSynced route = (p.found d.group).isSynced route := by
  unfold recordAfter StatusRecord.isSynced StatusRecord.recordSync StatusRecord.forget identified
    StatusRecord.setIdentity
  split
  · simp [SortedMap.get?_erase_ne _ hne, SortedMap.get?_insert_ne _ _ hne]
  · simp [SortedMap.get?_insert_ne _ _ hne]

/-- The record a cycle ends with lists the route, unless it is being removed,
and those listed before. -/
theorem recordAfter_lists_iff (hp : w.prepared settings now d = .ok p) :
    route ∈ (w.recordAfter settings now d p).synced.keys ↔
      if d.reference = route then d.beingRemoved = false else w.ListsRoute d.group route := by
  rw [SortedMap.mem_keys]
  show (∃ success, (w.recordAfter settings now d p).isSynced route = some success) ↔ _
  split
  · next hroute =>
    rw [← hroute, recordAfter_isSynced]
    cases d.beingRemoved <;> simp
  · next hroute => rw [recordAfter_isSynced_ne (Ne.symm hroute), found_lists_iff hp]

/-- What a cycle that goes through makes of its group, where distributions may be
deleted. -/
structure Renewed (d : Descriptor) (w w' : World) : Prop where
  finalizer : ∃ state, w.NotesFinalizer w' d state
  elsewhere : ∀ group, group ≠ d.group →
    w'.distributions.models.get? group = w.distributions.models.get? group ∧
      w'.statuses.get? group = w.statuses.get? group
  peopled : w.HasMembers d.group → (w'.distributions.models.get? d.group).isSome = true ∧
    ∀ route, w'.ListsRoute d.group route ↔
      if d.reference = route then d.beingRemoved = false else w.ListsRoute d.group route
  cleared : ¬ w.HasMembers d.group → w'.distributions.models.get? d.group = none ∧
    ∀ route, ¬ w'.ListsRoute d.group route

theorem Sound.renewed (h : w.Sound) (hdeletion : settings.deletion = true)
    (hd : w.descriptors.get? d.reference = some d) (hp : w.prepared settings now d = .ok p)
    (hnone : w.failuresAfter settings now d p = []) (events : List Event) :
    Renewed d w ((w.converged settings now d p).told events) := by
  obtain ⟨model, hclean⟩ := h.clean hd hp hnone
  have hgroup := (h.preparedModel hp).group
  refine ⟨⟨_, notesFinalizer_converged hd rfl events⟩, fun group hne => ⟨?_, ?_⟩,
    fun hmembers => ?_, fun hmembers => ?_⟩
  · exact (h.synced hp).elsewhere group (hgroup ▸ hne)
  · show (w.recorded settings now d p).2.get? group = _
    rw [hclean.recorded]
    split
    · exact SortedMap.get?_erase_ne _ hne
    · exact SortedMap.get?_insert_ne _ _ hne
  · obtain ⟨identity, address, hstored, hrecord, -⟩ := h.provided hp hclean hmembers
    refine ⟨Option.isSome_iff_exists.2 ⟨_, hstored⟩, fun route => ?_⟩
    rw [← recordAfter_lists_iff hp]
    constructor
    · rintro ⟨status, hstatus, hroute⟩
      cases hrecord.symm.trans hstatus
      exact hroute
    · exact fun hroute => ⟨_, hrecord, hroute⟩
  · obtain ⟨hmodel, hrecord⟩ := h.cleared hp hclean hdeletion hmembers
    refine ⟨hmodel, fun route => ?_⟩
    rintro ⟨status, hstatus, -⟩
    cases hrecord.symm.trans hstatus

/-- A cycle for a route leaves every route in its group, with what makes it a
member. -/
theorem NotesFinalizer.stored {state : FinalizerState} (h : w.NotesFinalizer w' d state)
    (hd : w.descriptors.get? d.reference = some d) {e' : Descriptor}
    (he' : w'.descriptors.get? route = some e') :
    ∃ e, w.descriptors.get? route = some e ∧ e.group = e'.group ∧
      e.isMemberOf e'.group = e'.isMemberOf e'.group := by
  rw [h route] at he'
  split at he'
  · next hroute =>
    cases he'
    exact ⟨d, hroute ▸ hd, rfl, rfl⟩
  · exact ⟨e', he', rfl, rfl⟩

/-! ## What a run keeps -/

/-- **What stands in the stores is what the journal says.** -/
structure Accounted (w : World) (journal : Journal) : Prop where
  listed : ∀ group route, w.ListsRoute group route ↔ journal.Enrolled group route
  standing : ∀ group,
    (w.distributions.models.get? group).isSome = true ↔ journal.found group ≠ []
  /-- The last cycle of its group has seen a settled route as it is. -/
  current : ∀ route d, w.descriptors.get? route = some d → journal.Settled route →
    (d.isMemberOf d.group = true ↔ route ∈ journal.found d.group)
  written : ∀ route d, w.descriptors.get? route = some d → journal.WrittenFor route d.group
  enrolled : ∀ group route, journal.Enrolled group route ∨ route ∈ journal.found group →
    journal.WrittenFor route group ∧ ∃ d, w.descriptors.get? route = some d

theorem accounted_initial (certificates : List Certificate) :
    (initial certificates).Accounted [] := by
  refine ⟨fun group route => ?_, fun group => ?_, nofun, nofun, ?_⟩
  · exact ⟨fun ⟨_, hstatus, _⟩ => (nomatch hstatus), nofun⟩
  · simp [Journal.found, initial, DistributionStore.empty]
  · rintro group route (h | h)
    · exact h.elim
    · exact absurd h List.not_mem_nil

theorem Accounted.after_store (h : w.Accounted journal) (d : Descriptor) :
    (w.after (.store d)).Accounted (.written d :: journal) := by
  have hother : ∀ {route}, route ≠ d.reference →
      (w.after (.store d)).descriptors.get? route = w.descriptors.get? route :=
    fun hne => SortedMap.get?_insert_ne _ _ hne
  have hself : (w.after (.store d)).descriptors.get? d.reference = some d :=
    SortedMap.get?_insert_self _ _ _
  refine ⟨h.listed, h.standing, fun route e he hsettled => ?_, fun route e he => ?_,
    fun group route hin => ?_⟩
  · obtain ⟨hne, hbefore⟩ := hsettled
    rw [hother (Ne.symm hne)] at he
    exact h.current route e he hbefore
  · by_cases hroute : route = d.reference
    · subst hroute
      cases hself.symm.trans he
      exact ⟨d, List.mem_cons_self, rfl, rfl⟩
    · rw [hother hroute] at he
      exact (h.written route e he).cons _
  · obtain ⟨hwritten, e, he⟩ := h.enrolled group route hin
    refine ⟨hwritten.cons _, ?_⟩
    by_cases hroute : route = d.reference
    · exact ⟨d, hroute ▸ hself⟩
    · exact ⟨e, (hother hroute).trans he⟩

theorem Accounted.told (h : w.Accounted journal) (events : List Event) :
    (w.told events).Accounted journal :=
  ⟨h.listed, h.standing, h.current, h.written, h.enrolled⟩

/-! ### A cycle that goes through

The group of the cycle is as this cycle found it, and the others are as they
were. -/

section

variable (h : w.Accounted journal) (hstep : Renewed d w w')

include h hstep

theorem Accounted.renewed_listed (group : GroupName) (route : Reference) :
    w'.ListsRoute group route ↔
      Journal.Enrolled group route (.converged d (w.membersAt d.group) :: journal) := by
  by_cases hgroup : d.group = group
  · subst hgroup
    rw [Journal.enrolled_converged_self, membersAt_ne_nil_iff, ← h.listed]
    by_cases hmembers : w.HasMembers d.group
    · rw [(hstep.peopled hmembers).2 route, and_iff_right hmembers]
    · exact iff_of_false ((hstep.cleared hmembers).2 route) fun hin => hmembers hin.1
  · rw [Journal.enrolled_converged_ne hgroup, ← h.listed, ListsRoute, ListsRoute,
      (hstep.elsewhere group (Ne.symm hgroup)).2]

theorem Accounted.renewed_standing (group : GroupName) :
    (w'.distributions.models.get? group).isSome = true ↔
      Journal.found group (.converged d (w.membersAt d.group) :: journal) ≠ [] := by
  by_cases hgroup : d.group = group
  · subst hgroup
    rw [Journal.found_converged_self, membersAt_ne_nil_iff]
    by_cases hmembers : w.HasMembers d.group
    · exact iff_of_true (hstep.peopled hmembers).1 hmembers
    · rw [(hstep.cleared hmembers).1]
      exact iff_of_false (by simp) hmembers
  · rw [Journal.found_converged_ne hgroup, ← h.standing,
      (hstep.elsewhere group (Ne.symm hgroup)).1]

variable (hfiled : w.descriptors.FiledBy (·.reference))
  (hd : w.descriptors.get? d.reference = some d)

include hfiled hd

theorem Accounted.renewed_current {e' : Descriptor} (he' : w'.descriptors.get? route = some e')
    (hsettled : Journal.Settled route (.converged d (w.membersAt d.group) :: journal)) :
    e'.isMemberOf e'.group = true ↔
      route ∈ Journal.found e'.group (.converged d (w.membersAt d.group) :: journal) := by
  obtain ⟨state, hnoted⟩ := hstep.finalizer
  obtain ⟨e, he, hsame, hmember⟩ := hnoted.stored hd he'
  rw [← hmember]
  by_cases hgroup : d.group = e'.group
  · rw [← hgroup, Journal.found_converged_self, mem_membersAt hfiled]
    constructor
    · exact fun hof => ⟨e, he, hof⟩
    · rintro ⟨other, hother, hof⟩
      cases he.symm.trans hother
      exact hof
  · rw [Journal.found_converged_ne hgroup, ← hsame]
    refine h.current route e he (hsettled.resolve_left fun hroute => hgroup ?_)
    -- The route that set off the cycle is stored in the group of the cycle.
    subst hroute
    cases hd.symm.trans he
    exact hsame

theorem Accounted.renewed_enrolled
    (hin : Journal.Enrolled group route (.converged d (w.membersAt d.group) :: journal) ∨
      route ∈ Journal.found group (.converged d (w.membersAt d.group) :: journal)) :
    journal.WrittenFor route group ∧ ∃ e, w'.descriptors.get? route = some e := by
  obtain ⟨state, hnoted⟩ := hstep.finalizer
  obtain ⟨hwritten, e, he⟩ : journal.WrittenFor route group ∧
      ∃ e, w.descriptors.get? route = some e := by
    by_cases hgroup : d.group = group
    · subst hgroup
      rw [Journal.enrolled_converged_self, Journal.found_converged_self,
        mem_membersAt hfiled] at hin
      rcases hin with ⟨-, henrolled⟩ | ⟨e, he, hmember⟩
      · split at henrolled
        · next hroute => exact ⟨hroute ▸ h.written _ d hd, d, hroute ▸ hd⟩
        · exact h.enrolled _ _ (Or.inl henrolled)
      · exact ⟨(Descriptor.isMemberOf_iff.1 hmember).1 ▸ h.written route e he, e, he⟩
    · rw [Journal.enrolled_converged_ne hgroup, Journal.found_converged_ne hgroup] at hin
      exact h.enrolled group route hin
  refine ⟨hwritten, ?_⟩
  rw [hnoted route]
  split
  · exact ⟨_, rfl⟩
  · exact ⟨e, he⟩

theorem Accounted.renewed :
    w'.Accounted (.converged d (w.membersAt d.group) :: journal) where
  listed := h.renewed_listed hstep
  standing := h.renewed_standing hstep
  current := fun _ _ he' hsettled => h.renewed_current hstep hfiled hd he' hsettled
  written := fun route e' he' => by
    obtain ⟨state, hnoted⟩ := hstep.finalizer
    obtain ⟨e, he, hgroup, -⟩ := hnoted.stored hd he'
    exact hgroup ▸ (h.written route e he).cons _
  enrolled := fun _ _ hin =>
    have henrolled := h.renewed_enrolled hstep hfiled hd hin
    ⟨henrolled.1.cons _, henrolled.2⟩

end

/-! ### Whole runs -/

/-- **The stores stay accounted for** along every run. -/
theorem Run.accounted (hdeletion : settings.deletion = true)
    (hrun : Run settings certificates w journal) : w.Accounted journal := by
  induction hrun with
  | start => exact accounted_initial certificates
  | write d _ ih => exact ih.after_store d
  | converge now d before hd hok ih =>
    have hpeace := before.untroubled
    rcases hpeace.cycle hd now with ⟨_, hfailed, -⟩ | ⟨p, events, -, hp, hnone, heq⟩
    · exact absurd hok hfailed
    · rw [heq]
      have hstep := hpeace.sound.renewed hdeletion hd hp hnone events
      exact ih.renewed hstep hpeace.sound.descriptors hd
  | fail now d before hd hfailed ih =>
    rcases before.untroubled.cycle hd now with ⟨events, -, heq⟩ | ⟨_, _, hok, -⟩
    · rw [heq]
      exact ih.told events
    · exact absurd hok hfailed

/-! ## What is left behind -/

/-- Without moves a route stands in every group it was written for. -/
theorem Accounted.standsIn (h : w.Accounted journal) (hunmoved : journal.Unmoved)
    (hin : journal.Enrolled group route ∨ route ∈ journal.found group) :
    w.StandsIn route group := by
  obtain ⟨hwritten, d, hd⟩ := h.enrolled group route hin
  exact ⟨d, hd, hunmoved route d.group group (h.written route d hd) hwritten⟩

/-- **What a settled run leaves behind.** After every run from empty stores with
deletion enabled, in which every call is taken and the latest version of every
stored route has been through a cycle without a failure: nothing is left behind
exactly if every route a group has taken in and not let go still stands in this
group, and so does one of the members it was last found to have, if it had any.
Where no route is ever written for two groups, nothing is left behind. -/
theorem nothing_left_iff (settings : Settings) (hdeletion : settings.deletion = true)
    (certificates : List Certificate) (w : World) (journal : Journal)
    (hrun : Run settings certificates w journal)
    (hsettled : ∀ d ∈ w.descriptors.values, journal.Settled d.reference) :
    (w.NothingLeft ↔ ∀ group, (∀ route, journal.Enrolled group route → w.StandsIn route group) ∧
      (journal.found group = [] ∨ ∃ route ∈ journal.found group, w.StandsIn route group)) ∧
    (journal.Unmoved → w.NothingLeft) := by
  have h := hrun.accounted hdeletion
  have hfiled := hrun.untroubled.sound.descriptors
  -- A group has members exactly if one of those it was found to have still stands in it.
  have hmembers : ∀ group, w.HasMembers group ↔
      ∃ route ∈ journal.found group, w.StandsIn route group := by
    intro group
    constructor
    · rintro ⟨d, hd, hmember⟩
      have hgroup := (Descriptor.isMemberOf_iff.1 hmember).1
      have hstored := (hfiled.mem_values_iff d).1 hd
      subst hgroup
      exact ⟨d.reference, (h.current _ d hstored (hsettled d hd)).1 hmember, d, hstored, rfl⟩
    · rintro ⟨route, hfound, d, hd, rfl⟩
      have hmem : d ∈ w.descriptors.values := (SortedMap.mem_values _ _).2 ⟨route, hd⟩
      exact ⟨d, hmem, (h.current route d hd (hfiled _ _ hd ▸ hsettled d hmem)).2 hfound⟩
  have hiff : w.NothingLeft ↔ ∀ group,
      (∀ route, journal.Enrolled group route → w.StandsIn route group) ∧
      (journal.found group = [] ∨ ∃ route ∈ journal.found group, w.StandsIn route group) := by
    constructor
    · intro hnothing group
      refine ⟨fun route henrolled => ?_, or_iff_not_imp_left.2 fun hfound => ?_⟩
      · exact hnothing.listed group route ((h.listed group route).2 henrolled)
      · exact (hmembers group).1 (hnothing.peopled group ((h.standing group).2 hfound))
    · intro hgroups
      refine ⟨fun group route hlists => (hgroups group).1 route ((h.listed group route).1 hlists),
        fun group hstored => (hmembers group).2 ?_⟩
      exact (hgroups group).2.resolve_left ((h.standing group).1 hstored)
  refine ⟨hiff, fun hunmoved => hiff.2 fun group => ⟨fun route henrolled =>
    h.standsIn hunmoved (Or.inl henrolled), ?_⟩⟩
  cases hfound : journal.found group with
  | nil => exact Or.inl rfl
  | cons first others =>
    exact Or.inr ⟨first, List.mem_cons_self, h.standsIn hunmoved (Or.inr (by simp [hfound]))⟩

/-- The blog as it moves to the group of the press. -/
def movedBlog : Descriptor := { Descriptor.blog with group := "press", finalizer := .managed }

/-- The blog, written and converged. -/
def withBlog : World := (initial []).through [.store .blog, .cycle .default .someNoon .blog]

/-- The same after the blog has moved and is converged again. -/
def withMovedBlog : World :=
  withBlog.through [.store movedBlog, .cycle .default .someNoon movedBlog]

theorem run_withBlog : ∃ members, members ≠ [] ∧
    Run .default [] withBlog [.converged .blog members, .written .blog] :=
  ⟨_, by decide +kernel, .converge .someNoon .blog (.write .blog .start) (by decide +kernel)
    (Outcome.isOk_iff.1 (by decide +kernel))⟩

theorem run_withMovedBlog : ∃ members members', members ≠ [] ∧ Run .default [] withMovedBlog
    [.converged movedBlog members', .written movedBlog, .converged .blog members,
      .written .blog] := by
  obtain ⟨members, hsome, hrun⟩ := run_withBlog
  exact ⟨members, _, hsome, .converge .someNoon movedBlog (.write movedBlog hrun)
    (by decide +kernel) (Outcome.isOk_iff.1 (by decide +kernel))⟩

/-- The blog leaves nothing behind until it moves. -/
theorem nothing_left_iff_blog : withBlog.NothingLeft ∧ ¬ withMovedBlog.NothingLeft := by
  have hroutes : ∀ w ∈ [withBlog, withMovedBlog], ∀ d ∈ w.descriptors.values,
      d.reference = Descriptor.blog.reference := by decide +kernel
  constructor
  · obtain ⟨members, -, hrun⟩ := run_withBlog
    refine (nothing_left_iff .default rfl [] _ _ hrun fun d hd => ?_).2 ?_
    · exact Or.inl (hroutes withBlog (by simp) d hd).symm
    · rintro route group group' ⟨d, hd, -, rfl⟩ ⟨d', hd', -, rfl⟩
      simp only [List.mem_cons, List.not_mem_nil, or_false, reduceCtorEq, false_or,
        Journal.Entry.written.injEq] at hd hd'
      rw [hd, hd']
  · obtain ⟨members, members', hsome, hrun⟩ := run_withMovedBlog
    rw [(nothing_left_iff .default rfl [] _ _ hrun fun d hd =>
      Or.inl (hroutes withMovedBlog (by simp) d hd).symm).1]
    intro hgroups
    have henrolled : Journal.Enrolled "public" Descriptor.blog.reference
        [.converged movedBlog members', .written movedBlog, .converged .blog members,
          .written .blog] := by
      simp [Journal.Enrolled, movedBlog, Descriptor.blog, Descriptor.bare, hsome]
    obtain ⟨d, hd, hgroup⟩ := (hgroups "public").1 _ henrolled
    have hpress : (withMovedBlog.descriptors.get? Descriptor.blog.reference).map (·.group) =
        some "press" := by decide +kernel
    rw [hd, Option.map_some, hgroup] at hpress
    exact absurd hpress (by decide)

/-- **A route that moves leaves its group behind**: both cycles of the blog have
answered without a failure, and the group it has left lists it and has a
distribution without members. -/
theorem moved_blog_left :
    (∃ journal, Run .default [] withMovedBlog journal ∧
        ∀ d ∈ withMovedBlog.descriptors.values, journal.Settled d.reference) ∧
      withMovedBlog.ListsRoute "public" ⟨"web", "blog"⟩ ∧
      ¬ withMovedBlog.StandsIn ⟨"web", "blog"⟩ "public" ∧
      (withMovedBlog.distributions.models.get? "public").isSome = true ∧
      ¬ withMovedBlog.HasMembers "public" := by
  obtain ⟨members, members', -, hrun⟩ := run_withMovedBlog
  have hpress : ∀ d ∈ withMovedBlog.descriptors.values,
      d.reference = Descriptor.blog.reference ∧ d.group = "press" := by decide +kernel
  refine ⟨⟨_, hrun, fun d hd => Or.inl (hpress d hd).1.symm⟩, ?_, ?_, by decide +kernel, ?_⟩
  · have hlisted : (withMovedBlog.statuses.get? "public").map (·.synced.keys) =
        some [⟨"web", "blog"⟩] := by decide +kernel
    obtain ⟨status, hstatus, hkeys⟩ := Option.map_eq_some_iff.1 hlisted
    exact ⟨status, hstatus, by simp [hkeys]⟩
  · rintro ⟨d, hd, hgroup⟩
    rw [(hpress d ((SortedMap.mem_values _ _).2 ⟨_, hd⟩)).2] at hgroup
    exact absurd hgroup (by decide)
  · rintro ⟨d, hd, hmember⟩
    have hgroup := (Descriptor.isMemberOf_iff.1 hmember).1
    rw [(hpress d hd).2] at hgroup
    exact absurd hgroup (by decide)

end World

end RouteConvergence
