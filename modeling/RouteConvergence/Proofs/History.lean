/-
RouteConvergence.Proofs.History — what can happen to the stores, one thing
after the other.

A history is a list of happenings: descriptors come and go, cycles are run
to their end, calls are made to fail and to work again, a status record is
lost. Every claim about "any state that can be reached" is a claim about
`World.through` of every history.

* `Happening`, `World.after`, `World.through` — single happenings, and
  histories as their fold.
* `World.through_induction` — what holds at the start and is kept by every
  admitted happening holds after every admitted history.
* `World.Sound` — the invariant that ties the stores together, whatever
  settings cycles are run with and whatever is made to fail:
  `World.sound_through`.
* `World.Sound.synced`, `World.Sound.namesSynced`, `World.recorded_eq` —
  what the steps of one cycle in a sound world come to.
-/
import RouteConvergence.Proofs.DistributionSync
import RouteConvergence.Proofs.NameSync

namespace RouteConvergence

/-! ## Happenings -/

/-- One thing that happens to the stores. -/
inductive Happening
  | store (d : Descriptor)
  | withdraw (route : Reference)
  /-- A cycle run to its end. -/
  | cycle (settings : Settings) (now : Instant) (d : Descriptor)
  /-- From now on exactly these calls and changes at these names fail. -/
  | failures (operations : List Operation) (names : List String)
  /-- A status record disappears behind the engine's back. -/
  | statusLost (group : GroupName)

/-- Whether something happens under fixed settings, and loses nothing. -/
def Happening.Under (settings : Settings) : Happening → Prop
  | cycle s _ _ => s = settings
  | statusLost _ => False
  | store _ | withdraw _ | failures _ _ => True

instance (settings : Settings) : (next : Happening) → Decidable (next.Under settings)
  | .cycle s _ _ => inferInstanceAs (Decidable (s = settings))
  | .statusLost _ => .isFalse id
  | .store _ | .withdraw _ | .failures _ _ => .isTrue trivial

namespace World

/-- Empty stores but for certificates and the records of a zone. -/
def seeded (certificates : List Certificate) (records : List RecordSet) : World :=
  { initial certificates with zone := records.foldl Zone.insert .empty }

/-- The world with other calls failing. -/
def failingAt (w : World) (operations : List Operation) (names : List String) : World :=
  { w with
    distributions := { w.distributions with failing := operations }
    zone := { w.zone with failing := names } }

/-- The world after something happened. -/
def after (w : World) : Happening → World
  | .store d => w.put d
  | .withdraw route => w.remove route
  | .cycle settings now d => (w.run (reconcile settings now d)).2
  | .failures operations names => w.failingAt operations names
  | .statusLost group => { w with statuses := w.statuses.erase group }

theorem after_cycle_eq (w : World) (settings : Settings) (now : Instant) (d : Descriptor) :
    w.after (.cycle settings now d) = (w.run (reconcile settings now d)).2 := rfl

/-- The world after a history. -/
def through (w : World) (history : List Happening) : World := history.foldl after w

theorem through_append (w : World) (earlier later : List Happening) :
    w.through (earlier ++ later) = (w.through earlier).through later :=
  List.foldl_append

/-- **What every admitted happening keeps holds after every history.** -/
theorem through_induction {P : World → Prop} {admitted : Happening → Prop}
    (hstep : ∀ w next, admitted next → P w → P (w.after next)) {w : World}
    {history : List Happening} (hadmitted : ∀ next ∈ history, admitted next) (h : P w) :
    P (w.through history) := by
  induction history generalizing w with
  | nil => exact h
  | cons next rest ih =>
    have hnext := hstep w next (hadmitted next List.mem_cons_self) h
    exact ih (fun x hx => hadmitted x (List.mem_cons_of_mem next hx)) hnext

end World

/-! ## A blog

One route with one name, for histories that can be followed step by step. -/

/-- Settings under which names are claimed, and nothing else is special. -/
def Settings.claiming : Settings :=
  { default with aliasing := ⟨true, "heritage=edgeplane"⟩ }

/-- A route of a blog with one name. -/
def Descriptor.blog : Descriptor :=
  { bare ⟨"web", "blog"⟩ "public" with
    originHost := "blog.internal"
    provisioned := true
    paths := [⟨"/", .subtree⟩]
    alternateDomains := ["blog.example.com"] }

/-- A route of another group that declares the name of the blog. -/
def Descriptor.press : Descriptor :=
  { Descriptor.blog with reference := ⟨"web", "press"⟩, group := "press" }

/-- Noon of some day. -/
def Instant.someNoon : Instant := ⟨⟨2025, 6, 1⟩, 43200, 0⟩

/-! ## Two small stores -/

/-- A finalizer is noted at the descriptor it belongs to. -/
theorem DescriptorStore.settle_eq (s : DescriptorStore) (d : Descriptor) (state : FinalizerState)
    (hd : s.get? d.reference = some d) :
    DescriptorStore.settle s d state =
      ([], if state = d.finalizer then s
        else s.insert d.reference { d with finalizer := state }) := by
  unfold settle setFinalizer
  split
  · rfl
  · rw [hd]
    rfl

theorem DescriptorStore.settle_filed {s : DescriptorStore} (h : s.FiledBy (·.reference))
    (d : Descriptor) (state : FinalizerState) :
    (DescriptorStore.settle s d state).2.FiledBy (·.reference) := by
  unfold settle setFinalizer
  split
  · exact h
  · cases hget : s.get? d.reference with
    | none => exact h
    | some stored =>
      have hkey : stored.reference = d.reference := h _ _ hget
      exact h.insert hkey

/-- **Bookkeeping never fails**: the record that was found decides whether one
is created or replaced. -/
theorem StatusStore.persist_eq (s : StatusStore) (settings : Settings) (model : Model)
    (status : StatusRecord) (clean : Bool) :
    StatusStore.persist s settings model status (s.get? status.group).isNone clean =
      (.ok (), if clean && model.isEmpty && settings.deletion then s.erase status.group
        else s.insert status.group status) := by
  have herase : s.get? status.group = none → s.erase status.group = s := by
    intro hnone
    refine SortedMap.ext_get? fun k => ?_
    by_cases hk : k = status.group
    · rw [hk, SortedMap.get?_erase_self, hnone]
    · rw [SortedMap.get?_erase_ne _ hk]
  unfold persist create update SortedMap.contains
  cases hget : s.get? status.group with
  | none =>
    cases clean && model.isEmpty && settings.deletion with
    | true =>
      rw [herase hget]
      rfl
    | false => rfl
  | some found =>
    cases clean && model.isEmpty && settings.deletion <;> rfl

/-- What is stored afterwards concerns the group alone. -/
theorem StatusStore.get?_persisted (s : StatusStore) (status : StatusRecord) (dropped : Bool) :
    let s' := if dropped then s.erase status.group else s.insert status.group status
    s'.get? status.group = (if dropped then none else some status) ∧
      ∀ other, other ≠ status.group → s'.get? other = s.get? other := by
  cases dropped with
  | true => exact ⟨SortedMap.get?_erase_self _ _, fun other hne => SortedMap.get?_erase_ne _ hne⟩
  | false =>
    exact ⟨SortedMap.get?_insert_self _ _ _, fun other hne => SortedMap.get?_insert_ne _ _ hne⟩

/-! ## What a status record says -/

/-- A record that tells the identity a distribution has, but for an address it
may not know. -/
structure StatusRecord.Names (status : StatusRecord) (stored : Option Identity) : Prop where
  id : status.distributionId = stored.map (·.id)
  arn : status.arn = stored.map (·.arn)
  address : status.address = none ∨ status.address = stored.bind (·.address)

/-- What a record remembers recalls what it names. -/
theorem StatusRecord.Names.identity {status : StatusRecord} {stored : Option Identity}
    (h : status.Names stored) : Identity.Recalls status.identity stored := by
  unfold StatusRecord.identity
  rw [h.id, h.arn]
  cases stored with
  | none => exact .refl none
  | some i => exact ⟨rfl, rfl, h.address⟩

namespace World

/-! ## Soundness -/

/-- **What ties the stores together.** Everything is filed where it belongs,
every distribution has a number of its own, and a status record names the
distribution its group has, or that it has none. -/
structure Sound (w : World) : Prop where
  descriptors : w.descriptors.FiledBy (·.reference)
  statuses : w.statuses.FiledBy (·.group)
  zone : w.zone.Filed
  distributions : w.distributions.Numbered
  recorded : ∀ group status, w.statuses.get? group = some status →
    status.Names (w.distributions.identityAt group)

theorem filed_seed (records : List RecordSet) {z : Zone} (h : z.Filed) :
    (records.foldl Zone.insert z).Filed := by
  induction records generalizing z with
  | nil => exact h
  | cons r rest ih => exact ih (SortedMap.FiledBy.insert h rfl)

theorem sound_seeded (certificates : List Certificate) (records : List RecordSet) :
    (seeded certificates records).Sound where
  descriptors := SortedMap.filedBy_empty _
  statuses := SortedMap.filedBy_empty _
  zone := filed_seed records Zone.filed_empty
  distributions := DistributionStore.numbered_empty
  recorded := fun _ _ h => nomatch h

variable {w : World} {settings : Settings} {now : Instant} {d : Descriptor} {p : Cycle.Prepared}

/-- **The identity of a group is always found**, on record or by the resource
name, and it is the stored one. -/
theorem Sound.identityFound (h : w.Sound) (group : GroupName) :
    ∃ found, w.identityFound group = .ok found ∧
      Identity.Recalls found (w.distributions.identityAt group) := by
  unfold World.identityFound
  cases hstatus : (w.statuses.get? group).bind (·.identity) with
  | some identity =>
    obtain ⟨status, hget, hidentity⟩ := Option.bind_eq_some_iff.1 hstatus
    refine ⟨some identity, rfl, ?_⟩
    rw [← hidentity]
    exact (h.recorded group status hget).identity
  | none =>
    dsimp only
    rw [DistributionStore.arnOf_eq]
    cases hstored : w.distributions.identityAt group with
    | none => exact ⟨none, rfl, .refl none⟩
    | some identity =>
      obtain ⟨n, -, rfl⟩ := h.distributions.identityAt_eq_some hstored
      dsimp only
      rw [Identity.ofArn?_identityOf]
      exact ⟨_, rfl, ⟨rfl, rfl, Or.inl rfl⟩⟩

/-- What a cycle found on record. -/
theorem persisted_eq (hp : w.prepared settings now d = .ok p) :
    p.persisted = w.statuses.get? d.group := by
  obtain ⟨-, model, identity, -, -, -, rfl⟩ := prepared_eq_ok_iff.1 hp
  rfl

/-- What is known of the model a cycle works towards. -/
structure Sound.PreparedModel (w : World) (settings : Settings) (now : Instant) (d : Descriptor)
    (p : Cycle.Prepared) : Prop where
  persisted : p.persisted = w.statuses.get? d.group
  group : p.model.group = d.group
  ipv6 : p.model.ipv6 = settings.ipv6
  recalls : Identity.Recalls p.model.identity (w.distributions.identityAt d.group)
  noNames : p.model.isEmpty = true → p.model.alternateDomains = []
  wanted : ∃ model, w.wanted settings now d = .ok model ∧
    p.model = model.withIdentity p.model.identity

theorem Sound.preparedModel (h : w.Sound) (hp : w.prepared settings now d = .ok p) :
    Sound.PreparedModel w settings now d p := by
  obtain ⟨-, model, identity, hwanted, hidentity, -, rfl⟩ := prepared_eq_ok_iff.1 hp
  obtain ⟨found, hfound, hrecalls⟩ := h.identityFound d.group
  cases hidentity.symm.trans hfound
  have hmodel := Group.modelOf hwanted
  exact ⟨rfl, hmodel.group, hmodel.ipv6, hrecalls, hmodel.domains_eq_nil, model, hwanted, rfl⟩

/-- A cycle goes on from the record on file. -/
theorem found_eq (hp : w.prepared settings now d = .ok p) {status : StatusRecord}
    (hstatus : w.statuses.get? d.group = some status) : p.found d.group = status := by
  rw [Cycle.Prepared.found, persisted_eq hp, hstatus]
  rfl

theorem found_group (hstatuses : w.statuses.FiledBy (·.group))
    (hp : w.prepared settings now d = .ok p) : (p.found d.group).group = d.group := by
  cases hget : w.statuses.get? d.group with
  | none =>
    rw [Cycle.Prepared.found, persisted_eq hp, hget]
    rfl
  | some status =>
    rw [found_eq hp hget]
    exact hstatuses _ _ hget

/-- Some stored descriptor shapes the distribution of the group. -/
def HasMembers (w : World) (group : GroupName) : Prop :=
  ∃ d ∈ w.descriptors.values, d.isMemberOf group = true

/-- A model that was built stands for no distribution exactly if the group has
no members. -/
theorem Sound.isEmpty_iff (h : w.Sound) {group : GroupName} {model : Model}
    (hmodel : w.desired settings now group = .ok model) :
    model.isEmpty = true ↔ ¬ w.HasMembers group := by
  have hmembers : Group.membersOf group w.descriptors.values =
      w.descriptors.values.filter (·.isMemberOf group) :=
    Group.membersOf_eq h.descriptors.values_ordered (.refl _)
  rw [(Group.modelOf hmodel).isEmpty, hmembers, List.isEmpty_iff, List.filter_eq_nil_iff]
  simp only [HasMembers, not_exists, not_and]

/-! ### The steps of a cycle -/

theorem Sound.synced (h : w.Sound) (hp : w.prepared settings now d = .ok p) :
    w.distributions.Synced settings p.model (w.distributionSync settings p) := by
  have hmodel := h.preparedModel hp
  refine DistributionStore.sync_spec h.distributions ?_
  rw [hmodel.group]
  exact hmodel.recalls

theorem Sound.namesSynced (h : w.Sound) (henabled : settings.aliasing.enabled = true)
    (d : Descriptor) (p : Cycle.Prepared) :
    w.zone.NamesSynced settings.aliasing.token p.model (w.identified settings d p)
      (w.aliasSync settings d p) :=
  Zone.syncAliases_spec h.zone henabled

/-- Names are left alone if they are not managed. -/
theorem aliasSync_disabled (henabled : settings.aliasing.enabled = false) :
    w.aliasSync settings d p = (⟨(p.found d.group).aliases, []⟩, w.zone) := by
  rw [aliasSync, Zone.syncAliases, if_neg (by rw [henabled]; simp)]
  rfl

/-- **What is left on record**: nothing if a clean cycle has brought an empty
group to its end, and else the record the cycle ended with. -/
theorem recorded_eq (hstatuses : w.statuses.FiledBy (·.group))
    (hp : w.prepared settings now d = .ok p) :
    w.recorded settings now d p =
      (.ok (), if (w.stepFailures settings d p ++ (w.settled settings d p).1).isEmpty &&
          p.model.isEmpty && settings.deletion then w.statuses.erase d.group
        else w.statuses.insert d.group (w.recordAfter settings now d p)) := by
  have hgroup : (w.recordAfter settings now d p).group = d.group := by
    rw [recordAfter_group, found_group hstatuses hp]
  have hnew : p.persisted.isNone =
      (w.statuses.get? (w.recordAfter settings now d p).group).isNone := by
    rw [hgroup, persisted_eq hp]
  rw [World.recorded, hnew, StatusStore.persist_eq, hgroup]

theorem failuresAfter_eq (hstatuses : w.statuses.FiledBy (·.group))
    (hp : w.prepared settings now d = .ok p) :
    w.failuresAfter settings now d p =
      w.stepFailures settings d p ++ (w.settled settings d p).1 := by
  rw [failuresAfter, recorded_eq hstatuses hp]
  exact List.append_nil _

/-- The record a cycle ends with names the distribution it leaves. -/
theorem Sound.recordAfter_names (h : w.Sound) (hp : w.prepared settings now d = .ok p) :
    (w.recordAfter settings now d p).Names
      ((w.distributionSync settings p).2.identityAt d.group) := by
  have hrecalls := (h.synced hp).recalls
  rw [(h.preparedModel hp).group] at hrecalls
  obtain ⟨hid, harn, haddress⟩ := w.recordAfter_identity settings now d p
  refine ⟨hid.trans hrecalls.id, harn.trans hrecalls.arn, ?_⟩
  rw [haddress]
  exact hrecalls.address

theorem Sound.converged (h : w.Sound) (hp : w.prepared settings now d = .ok p) :
    (w.converged settings now d p).Sound := by
  have hsynced := h.synced hp
  have hgroup := (h.preparedModel hp).group
  have hrecorded := congrArg Prod.snd (recorded_eq h.statuses hp)
  have hother : ∀ other, other ≠ d.group → (w.distributionSync settings p).2.identityAt other =
      w.distributions.identityAt other := by
    intro other hne
    rw [DistributionStore.identityAt, hsynced.elsewhere other (hgroup ▸ hne),
      DistributionStore.identityAt]
  refine ⟨DescriptorStore.settle_filed h.descriptors d _, ?_, ?_, hsynced.numbered, ?_⟩
  · show (w.recorded settings now d p).2.FiledBy (·.group)
    rw [hrecorded]
    dsimp only
    split
    · exact h.statuses.erase _
    · refine h.statuses.insert ?_
      rw [recordAfter_group, found_group h.statuses hp]
  · show (w.aliasSync settings d p).2.Filed
    cases henabled : settings.aliasing.enabled with
    | true => exact (h.namesSynced henabled d p).filed
    | false =>
      rw [aliasSync_disabled henabled]
      exact h.zone
  · intro group status hget
    replace hget : (w.recorded settings now d p).2.get? group = some status := hget
    rw [hrecorded] at hget
    dsimp only at hget
    show status.Names ((w.distributionSync settings p).2.identityAt group)
    split at hget
    · obtain ⟨hne, hold⟩ := SortedMap.get?_erase_eq_some hget
      rw [hother group hne]
      exact h.recorded group status hold
    · by_cases hne : group = d.group
      · subst hne
        rw [SortedMap.get?_insert_self] at hget
        cases hget
        exact h.recordAfter_names hp
      · rw [SortedMap.get?_insert_ne _ _ hne] at hget
        rw [hother group hne]
        exact h.recorded group status hget

/-! ### Whole histories -/

/-- **What a cycle can do**: it is stopped and changes no store, or both its
halves are run. -/
theorem after_cycle (w : World) (settings : Settings) (now : Instant) (d : Descriptor) :
    (∃ events, w.after (.cycle settings now d) = w.told events) ∨
      ∃ p events, w.prepared settings now d = .ok p ∧
        w.after (.cycle settings now d) = (w.converged settings now d p).told events := by
  rw [after_cycle_eq]
  cases hp : w.prepared settings now d with
  | error stop =>
    rw [run_reconcile_stopped hp]
    exact Or.inl ⟨_, rfl⟩
  | ok p =>
    obtain ⟨events, heq⟩ := exists_told_converged hp
    exact Or.inr ⟨p, events, rfl, heq⟩

theorem Sound.told (h : w.Sound) (events : List Event) : (w.told events).Sound :=
  ⟨h.descriptors, h.statuses, h.zone, h.distributions, h.recorded⟩

/-- **Whatever happens, the stores stay tied together.** -/
theorem Sound.after (h : w.Sound) (next : Happening) : (w.after next).Sound := by
  cases next with
  | store d => exact { h with descriptors := h.descriptors.insert rfl }
  | withdraw route => exact { h with descriptors := h.descriptors.erase route }
  | cycle settings now d =>
    rcases after_cycle w settings now d with ⟨events, heq⟩ | ⟨p, events, hp, heq⟩
    · rw [heq]
      exact h.told events
    · rw [heq]
      exact (h.converged hp).told events
  | failures operations names =>
    exact { h with
      zone := h.zone
      distributions := h.distributions.congr rfl rfl
      recorded := h.recorded }
  | statusLost group =>
    refine { h with statuses := h.statuses.erase group, recorded := ?_ }
    intro other status hget
    exact h.recorded other status (SortedMap.get?_erase_eq_some hget).2

theorem Sound.through (h : w.Sound) (history : List Happening) : (w.through history).Sound := by
  refine through_induction ?_ (fun _ _ => trivial) h
  intro w' next _ h'
  exact h'.after next

/-- Every state that can be reached from empty stores is sound. -/
theorem sound_through (certificates : List Certificate) (records : List RecordSet)
    (history : List Happening) : ((seeded certificates records).through history).Sound :=
  (sound_seeded certificates records).through history

end World

end RouteConvergence
