/-
RouteConvergence.Proofs.IndependentBackends — failures of the distribution
store and of the zone do not mix.

Two cycles from one state, in which different calls are made to fail, are
compared. The name step reads what the distribution step has found out
about the address, so independence hangs on what every branch of that step
hands back, a failing one as well:

* `DistributionStore.sync_address` — a known address is handed back whether
  an update goes through or fails.
* `Zone.syncAliases_congr` — of the status record the name step reads the
  names and, if names are wanted, the address.
* `Zone.NamesSynced.agree` — what becomes of a name depends on what stands
  there and on whether the zone fails there, and on no other name.

What is left of the names in a status record depends on one thing more: an
emptied group loses its record when nothing has failed. That makes no
difference as long as the names were released before
(`World.Sound.lists_iff_owned`), and does if names are not managed any more
(`World.record_kept_by_failed_deletion`).
-/
import RouteConvergence.Proofs.Convergence
import RouteConvergence.Proofs.SharedNames

namespace RouteConvergence

/-! ## The address -/

/-- **A known address is handed back** by the distribution step, whatever fails. -/
theorem DistributionStore.sync_address {s : DistributionStore} (h : s.Numbered)
    {settings : Settings} {model : Model}
    (hr : Identity.Recalls model.identity (s.identityAt model.group))
    (hempty : model.isEmpty = false) {address : String}
    (haddress : model.identity.bind (·.address) = some address) :
    (s.sync settings model).1.identity.bind (·.address) = some address := by
  obtain ⟨requested, hrequested, hknown⟩ := Option.bind_eq_some_iff.1 haddress
  have hhas : model.hasIdentity = true := by simp [Model.hasIdentity, hrequested]
  obtain ⟨stored, hstored⟩ := Option.isSome_iff_exists.1 (hr.isSome.symm.trans hhas)
  have hid : requested.id = stored.id := by
    have hids := hr.id
    rw [hrequested, hstored] at hids
    exact Option.some.inj hids
  have hsame : stored.address = some address := by
    rcases hr.address with hnone | hsame
    · rw [haddress] at hnone
      cases hnone
    · rw [haddress, hstored] at hsame
      exact hsame.symm
  unfold sync
  rw [if_neg (by simp [hempty]), if_pos hhas, h.update_eq hrequested hstored hid]
  by_cases hfail : Operation.update ∈ s.failing
  · rw [if_pos hfail]
    exact haddress
  · rw [if_neg hfail]
    exact hsame

namespace Zone

/-! ## The name step -/

/-- **What the name step reads of a status record.** -/
theorem syncAliases_congr {z : Zone} {settings : Settings} {model : Model}
    {status status' : StatusRecord} (haliases : status'.aliases = status.aliases)
    (haddress : model.alternateDomains = [] ∨ status'.address = status.address) :
    z.syncAliases settings model status' = z.syncAliases settings model status := by
  have hclaim : z.claimNames settings.aliasing.token model status'
      (.ofList model.alternateDomains) =
        z.claimNames settings.aliasing.token model status (.ofList model.alternateDomains) := by
    unfold claimNames
    rcases haddress with hnil | hsame
    · rw [hnil]
      rfl
    · rw [hsame]
  unfold syncAliases
  dsimp only
  rw [hclaim, haliases]

/-- **What becomes of a name** depends on what stands there and on whether the
zone fails there. -/
theorem NamesSynced.agree {z z' : Zone} {token : String} {model : Model} {status : StatusRecord}
    {result result' : Cycle.AliasSync × Zone} (h : z.NamesSynced token model status result)
    (h' : z'.NamesSynced token model status result') {name : String}
    (hrecords : z'.recordsAt name = z.recordsAt name)
    (hfailing : z'.failing.contains name = z.failing.contains name) :
    result'.2.recordsAt name = result.2.recordsAt name ∧
      (name ∈ result'.1.owned.elems ↔ name ∈ result.1.owned.elems) := by
  have heffect : ∀ (effect : Effect) (ipv6 : Bool),
      z'.effectAt effect (.forDomain name ipv6) = z.effectAt effect (.forDomain name ipv6) := by
    intro effect ipv6
    show effect _ (z'.failing.contains name) (z'.recordsAt name) = _
    rw [hrecords, hfailing]
    rfl
  by_cases hwanted : name ∈ model.alternateDomains
  · cases haddress : status.address with
    | none =>
      obtain ⟨hsame, howned⟩ := h.unclaimed haddress name hwanted
      obtain ⟨hsame', howned'⟩ := h'.unclaimed haddress name hwanted
      exact ⟨hsame'.trans (hrecords.trans hsame.symm), howned'.trans howned.symm⟩
    | some address =>
      obtain ⟨hclaimed, howned⟩ := h.claimed address haddress name hwanted
      obtain ⟨hclaimed', howned'⟩ := h'.claimed address haddress name hwanted
      rw [claiming, heffect] at hclaimed' howned'
      exact ⟨hclaimed'.trans hclaimed.symm, howned'.trans howned.symm⟩
  · by_cases hmem : name ∈ status.aliases.elems
    · obtain ⟨hreleased, howned⟩ := h.released name hmem hwanted
      obtain ⟨hreleased', howned'⟩ := h'.released name hmem hwanted
      rw [releasing, heffect] at hreleased' howned'
      exact ⟨hreleased'.trans hreleased.symm, howned'.trans howned.symm⟩
    · obtain ⟨hsame, howned⟩ := h.elsewhere name hmem hwanted
      obtain ⟨hsame', howned'⟩ := h'.elsewhere name hmem hwanted
      exact ⟨hsame'.trans (hrecords.trans hsame.symm), iff_of_false howned' howned⟩

end Zone

namespace World

variable {w : World} {settings : Settings} {now : Instant} {d : Descriptor} {p : Cycle.Prepared}

/-! ## Cycles with other failures -/

theorem Sound.failingAt (h : w.Sound) (operations : List Operation) (names : List String) :
    (w.failingAt operations names).Sound := h.after (.failures operations names)

/-- What fails does not matter in the first half. -/
theorem prepared_failingAt (operations : List Operation) (names : List String) :
    (w.failingAt operations names).prepared settings now d = w.prepared settings now d := rfl

/-- A record with an address tells the identity of the distribution. -/
theorem Sound.address_found (h : w.Sound) (hp : w.prepared settings now d = .ok p)
    {status : StatusRecord} (hstatus : w.statuses.get? d.group = some status) {address : String}
    (haddress : status.address = some address) :
    p.model.identity.bind (·.address) = some address := by
  obtain ⟨-, model, identity, -, hidentity, -, rfl⟩ := prepared_eq_ok_iff.1 hp
  have hnames := h.recorded _ _ hstatus
  obtain ⟨id, hid⟩ : ∃ id, status.distributionId = some id := by
    rcases hnames.address with hnone | hstored
    · rw [haddress] at hnone
      cases hnone
    · rw [haddress] at hstored
      obtain ⟨stored, hsome, -⟩ := Option.bind_eq_some_iff.1 hstored.symm
      exact ⟨stored.id, by rw [hnames.id, hsome]; rfl⟩
  have hfound : status.identity = some ⟨id, status.arn.getD "", some address⟩ := by
    rw [StatusRecord.identity, hid, haddress]
    rfl
  rw [World.identityFound, hstatus, Option.bind_some, hfound] at hidentity
  cases hidentity
  rfl

/-- The names step is told the address on record, whatever fails. -/
theorem Sound.address_kept (h : w.Sound) (hp : w.prepared settings now d = .ok p)
    {status : StatusRecord} (hstatus : w.statuses.get? d.group = some status) {address : String}
    (haddress : status.address = some address) (hempty : p.model.isEmpty = false)
    (operations : List Operation) (names : List String) :
    ((w.failingAt operations names).identified settings d p).address = some address := by
  have hprepared := h.preparedModel hp
  refine DistributionStore.sync_address (h.failingAt operations names).distributions ?_ hempty
    (h.address_found hp hstatus haddress)
  show Identity.Recalls _ (w.distributions.identityAt p.model.group)
  rw [hprepared.group]
  exact hprepared.recalls

/-- **The name step does not notice what fails in the distribution store.** -/
theorem Sound.aliasSync_failingAt (h : w.Sound) (hp : w.prepared settings now d = .ok p)
    {status : StatusRecord} (hstatus : w.statuses.get? d.group = some status) {address : String}
    (haddress : status.address = some address) (operations operations' : List Operation)
    (names : List String) :
    (w.failingAt operations' names).aliasSync settings d p =
      (w.failingAt operations names).aliasSync settings d p := by
  refine Zone.syncAliases_congr rfl ?_
  cases hempty : p.model.isEmpty with
  | true => exact Or.inl ((h.preparedModel hp).noNames hempty)
  | false =>
    refine Or.inr ?_
    rw [h.address_kept hp hstatus haddress hempty, h.address_kept hp hstatus haddress hempty]

/-! ## The names of the group afterwards -/

/-- A group owns no name, as far as its record tells. -/
def ListsNone (w : World) (group : GroupName) : Prop := ∀ name, ¬ w.Lists group name

/-- **The names listed afterwards are those owned**, if names are managed or
there are none. -/
theorem Sound.lists_iff_owned (h : w.Sound) (hp : w.prepared settings now d = .ok p)
    (hmanaged : settings.aliasing.enabled = true ∨ w.ListsNone d.group) (name : String) :
    (w.converged settings now d p).Lists d.group name ↔
      name ∈ (w.aliasSync settings d p).1.owned.elems := by
  unfold Lists
  show (∃ status, (w.recorded settings now d p).2.get? d.group = some status ∧ _) ↔ _
  rw [recorded_eq h.statuses hp]
  dsimp only
  split
  · -- The record was dropped, so there is nothing left to own.
    rename_i hdropped
    simp only [Bool.and_eq_true, List.isEmpty_iff, List.append_eq_nil_iff] at hdropped
    obtain ⟨⟨⟨hsteps, -⟩, hempty⟩, -⟩ := hdropped
    rw [SortedMap.get?_erase_self]
    refine iff_of_false ?_ ?_
    · rintro ⟨status, hnone, -⟩
      cases hnone
    · cases henabled : settings.aliasing.enabled with
      | true =>
        exact owned_eq_nil (h.namesSynced henabled d p) (List.append_eq_nil_iff.1 hsteps).2
          ((h.preparedModel hp).noNames hempty) name
      | false =>
        have hnone : w.ListsNone d.group := hmanaged.resolve_left (by simp [henabled])
        rw [aliasSync_disabled henabled]
        exact fun hname => hnone name (h.lists_of_found hp hname)
  · rw [SortedMap.get?_insert_self]
    constructor
    · rintro ⟨status, hstatus, hname⟩
      cases hstatus
      rw [recordAfter_aliases] at hname
      exact hname
    · intro hname
      refine ⟨_, rfl, ?_⟩
      rw [recordAfter_aliases]
      exact hname

/-- Where names are not managed, no record depends on what fails in the zone. -/
theorem statuses_of_disabled (henabled : settings.aliasing.enabled = false)
    (operations : List Operation) (names names' : List String) :
    ((w.failingAt operations names').converged settings now d p).statuses =
      ((w.failingAt operations names).converged settings now d p).statuses := by
  have hsync : ((w.failingAt operations names').aliasSync settings d p).1 =
      ((w.failingAt operations names).aliasSync settings d p).1 := by
    rw [aliasSync_disabled henabled, aliasSync_disabled henabled]
  show ((w.failingAt operations names').recorded settings now d p).2 =
    ((w.failingAt operations names).recorded settings now d p).2
  unfold recorded settled recordAfter stepFailures
  rw [hsync]
  rfl

/-! ## Names that are never managed -/

/-- Cycles that do not manage names leave records without names as they are. -/
theorem Sound.listsNone_after (h : w.Sound) (henabled : settings.aliasing.enabled = false)
    (hnone : ∀ group, w.ListsNone group) {next : Happening}
    (hnext : ∀ s t e, next = .cycle s t e → s = settings) (group : GroupName) :
    (w.after next).ListsNone group := by
  cases next with
  | store _ | withdraw _ | failures _ _ => exact hnone group
  | statusLost lost =>
    rintro name ⟨status, hstatus, hname⟩
    exact hnone group name ⟨status, (SortedMap.get?_erase_eq_some hstatus).2, hname⟩
  | cycle s now d =>
    cases hnext s now d rfl
    rcases after_cycle w settings now d with ⟨events, heq⟩ | ⟨p, events, hp, heq⟩
    · rw [heq]
      exact hnone group
    · rw [heq]
      intro name hlists
      replace hlists : (w.converged settings now d p).Lists group name := hlists
      by_cases hgroup : group = d.group
      · rw [hgroup, h.lists_iff_owned hp (Or.inr (hnone d.group)), aliasSync_disabled henabled]
          at hlists
        exact hnone d.group name (h.lists_of_found hp hlists)
      · obtain ⟨status, hstatus, hname⟩ := hlists
        exact hnone group name ⟨status, (h.statuses_elsewhere hp hgroup).symm.trans hstatus, hname⟩

/-- Nothing is ever listed where no cycle manages names. -/
theorem listsNone_through {certificates : List Certificate} {records : List RecordSet}
    (henabled : settings.aliasing.enabled = false) {history : List Happening}
    (hfixed : ∀ s t e, Happening.cycle s t e ∈ history → s = settings) (group : GroupName) :
    ((seeded certificates records).through history).ListsNone group := by
  have hcycles : ∀ next ∈ history, ∀ s t e, next = Happening.cycle s t e → s = settings := by
    rintro _ hmem s t e rfl
    exact hfixed s t e hmem
  have hinvariant := through_induction (P := fun w => w.Sound ∧ ∀ group, w.ListsNone group)
    (fun w next hnext h => ⟨h.1.after next, h.1.listsNone_after henabled h.2 hnext⟩) hcycles
    ⟨sound_seeded certificates records, fun _ _ ⟨_, hstatus, _⟩ => nomatch hstatus⟩
  exact hinvariant.2 group

/-! ## Two cycles from one state -/

/-- The world a cycle leaves while certain calls and changes fail. -/
def leftBy (w : World) (settings : Settings) (now : Instant) (d : Descriptor)
    (operations : List Operation) (names : List String) : World :=
  ((w.failingAt operations names).run (reconcile settings now d)).2

section

variable (hp : w.prepared settings now d = .ok p) (operations : List Operation)
  (names : List String)

include hp

theorem exists_leftBy : ∃ events, w.leftBy settings now d operations names =
    ((w.failingAt operations names).converged settings now d p).told events :=
  exists_told_converged ((prepared_failingAt operations names).trans hp)

theorem leftBy_zone : (w.leftBy settings now d operations names).zone =
    ((w.failingAt operations names).aliasSync settings d p).2 := by
  obtain ⟨_, hleft⟩ := exists_leftBy hp operations names
  rw [hleft]
  rfl

theorem leftBy_distributions : (w.leftBy settings now d operations names).distributions =
    ((w.failingAt operations names).distributionSync settings p).2 := by
  obtain ⟨_, hleft⟩ := exists_leftBy hp operations names
  rw [hleft]
  rfl

theorem leftBy_statuses : (w.leftBy settings now d operations names).statuses =
    ((w.failingAt operations names).converged settings now d p).statuses := by
  obtain ⟨_, hleft⟩ := exists_leftBy hp operations names
  rw [hleft]
  rfl

/-- What is listed afterwards is what is owned (see `Sound.lists_iff_owned`). -/
theorem Sound.leftBy_lists_iff (h : w.Sound)
    (hmanaged : settings.aliasing.enabled = true ∨ w.ListsNone d.group) (name : String) :
    (w.leftBy settings now d operations names).Lists d.group name ↔
      name ∈ ((w.failingAt operations names).aliasSync settings d p).1.owned.elems := by
  rw [Lists, leftBy_statuses hp]
  exact (h.failingAt operations names).lists_iff_owned hp hmanaged name

end

/-- What a cycle for a descriptor does in one backend does not depend on what
fails in the other, and what it does at one name not on other names. -/
structure FailApart (settings : Settings) (now : Instant) (d : Descriptor) (w : World) : Prop where
  /-- Failures in the distribution store leave no trace in the zone. -/
  records : ∀ operations operations' names,
    (w.leftBy settings now d operations' names).zone.records =
      (w.leftBy settings now d operations names).zone.records
  /-- Nor do they in the names listed, if names are managed or there are none. -/
  listed : settings.aliasing.enabled = true ∨ w.ListsNone d.group →
    ∀ operations operations' names name,
      (w.leftBy settings now d operations' names).Lists d.group name ↔
        (w.leftBy settings now d operations names).Lists d.group name
  /-- Failures in the zone leave no trace in the distribution store. -/
  distributions : ∀ operations names names',
    (w.leftBy settings now d operations names').distributions.models =
      (w.leftBy settings now d operations names).distributions.models
  /-- Nor do they at a name that fails in neither cycle. -/
  atName : ∀ operations names names' name, name ∉ names → name ∉ names' →
    (w.leftBy settings now d operations names').zone.recordsAt name =
        (w.leftBy settings now d operations names).zone.recordsAt name ∧
      ((w.leftBy settings now d operations names').Lists d.group name ↔
        (w.leftBy settings now d operations names).Lists d.group name)

/-- What the zone has at a name, and whether the group lists it, hangs on
failures at that name alone. -/
theorem Sound.apart_at_name (h : w.Sound) (hp : w.prepared settings now d = .ok p)
    (operations : List Operation) {names names' : List String} {name : String}
    (hname : name ∉ names) (hname' : name ∉ names') :
    let left := w.leftBy settings now d operations
    (left names').zone.recordsAt name = (left names).zone.recordsAt name ∧
      ((left names').Lists d.group name ↔ (left names).Lists d.group name) := by
  intro left
  dsimp only [left]
  rw [leftBy_zone hp, leftBy_zone hp]
  cases henabled : settings.aliasing.enabled with
  | false =>
    rw [Lists, Lists, leftBy_statuses hp, leftBy_statuses hp,
      statuses_of_disabled henabled operations names names', aliasSync_disabled henabled,
      aliasSync_disabled henabled]
    exact ⟨rfl, Iff.rfl⟩
  | true =>
    have hsynced := (h.failingAt operations names).namesSynced henabled d p
    have hsynced' := (h.failingAt operations names').namesSynced henabled d p
    have hfailing : names'.contains name = names.contains name := by simp [hname, hname']
    obtain ⟨hrecords, howned⟩ := hsynced.agree hsynced' rfl hfailing
    refine ⟨hrecords, ?_⟩
    rw [h.leftBy_lists_iff hp operations names' (Or.inl henabled),
      h.leftBy_lists_iff hp operations names (Or.inl henabled)]
    exact howned

theorem Sound.failApart (h : w.Sound) (hp : w.prepared settings now d = .ok p)
    {status : StatusRecord} (hstatus : w.statuses.get? d.group = some status) {address : String}
    (haddress : status.address = some address) : FailApart settings now d w where
  records := by
    intro operations operations' names
    rw [leftBy_zone hp, leftBy_zone hp,
      h.aliasSync_failingAt hp hstatus haddress operations operations' names]
  listed := by
    intro hmanaged operations operations' names name
    rw [h.leftBy_lists_iff hp operations' names hmanaged,
      h.leftBy_lists_iff hp operations names hmanaged,
      h.aliasSync_failingAt hp hstatus haddress operations operations' names]
  distributions := by
    intro operations names names'
    rw [leftBy_distributions hp, leftBy_distributions hp]
    rfl
  atName := by
    intro operations names names' name hname hname'
    exact h.apart_at_name hp operations hname hname'

/-! ## Every state that can be reached -/

/-- **The two backends fail apart.** In every state that can be reached, and for
every cycle that is not stopped early in a group whose address is on record:
which calls to the distribution store fail makes no difference in the zone, and
which names fail in the zone makes none in the distribution store, nor at any
other name. The names listed are the same too, unless names were managed once
and are not any more. -/
theorem backends_fail_apart (settings : Settings) (certificates : List Certificate)
    (records : List RecordSet) (history : List Happening) (now : Instant) (d : Descriptor)
    (p : Cycle.Prepared)
    (hpasses : ((seeded certificates records).through history).Passes settings now d p)
    (status : StatusRecord)
    (hstatus : ((seeded certificates records).through history).statuses.get? d.group = some status)
    (address : String) (haddress : status.address = some address) :
    FailApart settings now d ((seeded certificates records).through history) ∧
      ((∀ s t e, Happening.cycle s t e ∈ history → s = settings) →
        settings.aliasing.enabled = true ∨
          ((seeded certificates records).through history).ListsNone d.group) := by
  refine ⟨(sound_through certificates records history).failApart (passes_iff.1 hpasses) hstatus
    haddress, fun hfixed => ?_⟩
  cases henabled : settings.aliasing.enabled with
  | true => exact Or.inl rfl
  | false => exact Or.inr (listsNone_through henabled hfixed d.group)

/-- The name of the blog could not be claimed at first. It is claimed by the
next cycle, whether or not the distribution can be updated. -/
theorem backends_fail_apart_blog :
    let w := (seeded [] []).through
      [.store .blog, .failures [] ["blog.example.com"], .cycle .claiming .someNoon .blog]
    FailApart .claiming .someNoon .blog w ∧
      (Settings.claiming.aliasing.enabled = true ∨ w.ListsNone "public") ∧
      w.zone.recordsAt "blog.example.com" = [] ∧
      (w.leftBy .claiming .someNoon .blog [.update] []).zone.recordsAt "blog.example.com" ≠ [] := by
  intro w
  obtain ⟨p, hpasses⟩ : ∃ p, w.Passes .claiming .someNoon .blog p := by
    have hok : (w.run (Cycle.prepare .claiming .someNoon .blog).run).1.isOk = true := by
      decide +kernel
    unfold Passes
    cases hresult : (w.run (Cycle.prepare .claiming .someNoon .blog).run).1 with
    | error stop =>
      rw [hresult] at hok
      cases hok
    | ok p => exact ⟨p, rfl⟩
  have happly := backends_fail_apart .claiming [] []
    [.store .blog, .failures [] ["blog.example.com"], .cycle .claiming .someNoon .blog] .someNoon
    .blog p hpasses ((w.statuses.get? "public").getD default) (by decide +kernel)
    "e000000000001.cdn.example.net" (by decide +kernel)
  have hfixed : ∀ s t e, Happening.cycle s t e ∈ [.store .blog,
      .failures [] ["blog.example.com"], .cycle .claiming .someNoon .blog] → s = .claiming := by
    intro s t e hmem
    simp only [List.mem_cons, List.not_mem_nil, or_false, reduceCtorEq, false_or,
      Happening.cycle.injEq] at hmem
    exact hmem.1
  exact ⟨happly.1, happly.2 hfixed, by decide +kernel, by decide +kernel⟩

/-- **Names that are not managed any more are another matter.** The blog is
removed under settings that leave names alone: its record goes, and with it the
name listed, but both stay if the distribution cannot be deleted. -/
theorem record_kept_by_failed_deletion :
    let gone : Descriptor := { Descriptor.blog with beingRemoved := true }
    let settings : Settings := { Settings.claiming with aliasing := ⟨false, "heritage=edgeplane"⟩ }
    let w := (seeded [] []).through
      [.store .blog, .cycle .claiming .someNoon .blog, .store gone]
    ((w.statuses.get? "public").bind (·.address)).isSome = true ∧
      (w.run (Cycle.prepare settings .someNoon gone).run).1.isOk = true ∧
      ((w.leftBy settings .someNoon gone [] []).statuses.get? "public").isNone = true ∧
      ((w.leftBy settings .someNoon gone [.delete] []).statuses.get? "public").map
        (·.aliases.toList) = some ["blog.example.com"] := by
  decide +kernel

end World

end RouteConvergence
