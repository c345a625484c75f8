/-
RouteConvergence.Proofs.ShareSteps — the steps of a cycle, told by shares.

Each step of a cycle is followed from the share its group has to the share
it leaves, while cycles of other groups run in between. A step of one call
does what it does alone, so that what is known of it can be used as it is;
only the names take more calls than one.

* `Share.acts_prepare` — the first half reads, and what it finds is a
  function of the share (`Share.expects`) and of the goal of the group,
  which nobody moves.
* `Share.acts_syncDistribution` — the distribution gets some number, or
  keeps one.
* `Share.acts_syncAliases` — every wanted name points at that number.
* `Share.acts_settleFinalizer`, `Share.acts_persist` — the bookkeeping.

Names can be claimed because nobody else is at them: they had no records at
the start, and only this group asks for them.
-/
import RouteConvergence.Proofs.Shares
import RouteConvergence.Proofs.ZoneLedger
import RouteConvergence.Proofs.Idempotence

namespace RouteConvergence

/-! ## What single stores do -/

namespace DistributionStore

/-- Where the distribution of a number is served. -/
def servedAt (n : Nat) : String := ((identityOf n).address).getD ""

/-- **The distribution of a group with members** is given a number, and keeps the
one it has. -/
theorem Numbered.sync_number (settings : Settings) (model : Model) {s : DistributionStore}
    (h : s.Numbered) (hcalls : s.failing = []) (hempty : model.isEmpty = false)
    (hidentity : model.identity = s.identityAt model.group) :
    ∃ n, (∀ identity, model.identity = some identity → identity = identityOf n) ∧
      (s.sync settings model).1 = ⟨some (identityOf n), none⟩ ∧
      (s.sync settings model).2.models.get? model.group =
        some (model.withIdentity (some (identityOf n))) := by
  have hfails : ∀ operation, operation ∉ s.failing := fun operation hmem =>
    absurd (hcalls ▸ hmem) List.not_mem_nil
  cases hstored : s.identityAt model.group with
  | none =>
    rw [hstored] at hidentity
    have hnew : ¬ model.hasIdentity = true := by simp [Model.hasIdentity, hidentity]
    refine ⟨s.issued + 1, fun identity hsome => ?_, ?_⟩
    · rw [hidentity] at hsome
      cases hsome
    · rw [sync, if_neg (by simp [hempty]), if_neg hnew, create_eq, if_neg (hfails _)]
      exact ⟨rfl, SortedMap.get?_insert_self _ _ _⟩
  | some stored =>
    obtain ⟨n, -, rfl⟩ := h.identityAt_eq_some hstored
    rw [hstored] at hidentity
    have hupdate := h.update_eq hidentity hstored rfl
    rw [if_neg (hfails _)] at hupdate
    refine ⟨n, fun identity hsome => ?_, ?_⟩
    · exact Option.some.inj (hsome.symm.trans hidentity)
    · rw [sync_known s hempty (by rw [hidentity]; rfl) hupdate]
      exact ⟨rfl, SortedMap.get?_insert_self _ _ _⟩

end DistributionStore

/-- A name that nothing of others stands at takes a claim. -/
theorem Zone.Standing.claimAt_ok {token address name : String} {ipv6 : Bool}
    {records : List RecordSet} (h : Zone.Standing token ipv6 name [] records) :
    RouteConvergence.claimAt token address (.forDomain name ipv6) false records =
      (.ok (), Zone.aliasRecords name address ipv6 token) := by
  rw [← Zone.pointing_forDomain]
  rcases h with rfl | ⟨-, target, rfl⟩
  · rfl
  · have hours : Claim.of (Zone.aliasRecords name target ipv6 token)
        (AliasEntry.forDomain name ipv6).domain token = .ours (.txt name [token]) :=
      Zone.claim_aliasRecords name target token _ ipv6
    rw [RouteConvergence.claimAt, hours]
    rfl

/-- Nothing is released as long as all names are wanted. -/
theorem AliasSet.isEmpty_toDelete {owned : List String} {wanted : SortedSet String}
    (h : ∀ name ∈ owned, name ∈ wanted.elems) : (toDelete owned wanted).isEmpty = true := by
  have hnone : owned.filter (fun domain => !wanted.contains domain) = [] := by
    rw [List.eq_nil_iff_forall_not_mem]
    intro name hmem
    obtain ⟨howned, hnot⟩ := mem_unwanted.1 hmem
    exact hnot (h name howned)
  rw [isEmpty, toDelete, hnone]
  rfl

namespace AliasProtocol

/-- What is planned for an entry is submitted, unless the name is not ours. -/
def carryOut : Except Conflict Batch → Program (Outcome Unit)
  | .error cause => pure (.error (.conflict cause))
  | .ok batch => submit batch

theorem single_carryOut (plan : Except Conflict Batch) : (carryOut plan).Single := by
  cases plan with
  | error cause => trivial
  | ok batch =>
    dsimp only [carryOut, submit]
    split
    · trivial
    · exact Program.single_call _

theorem run_carryOut (w : World) (token address : String) (entry : AliasEntry) :
    w.run (carryOut (planUpsert (w.zone.recordsAt entry.domain) address entry token)) =
      ((w.zone.claim token address entry).1,
        { w with zone := (w.zone.claim token address entry).2 }) := by
  unfold Zone.claim
  cases planUpsert (w.zone.recordsAt entry.domain) address entry token with
  | error cause => rfl
  | ok batch => exact w.run_submit batch

end AliasProtocol

namespace Share

open Outlook

variable {start w : World} {group : GroupName} {σ : Share} {settings : Settings} {now : Instant}
  {d : Descriptor} {model : Model}

/-! ## The first half -/

/-- The identity of the distribution of a group. -/
def identity (σ : Share) : Option Identity := σ.model.bind (·.identity)

/-- A record that tells the identity of the distribution. -/
def Recorded (σ : Share) : Prop := σ.status.bind (·.identity) = σ.identity

/-- What the first half of a cycle finds, given what the group asks for. -/
abbrev expects (σ : Share) (settings : Settings) (goal : Outcome Model) (d : Descriptor) :
    Except Stop Cycle.Prepared :=
  Outlook.expects settings σ.status σ.identity goal d

theorem Holds.identityAt (h : Holds start group σ w) :
    w.distributions.identityAt group = σ.identity := by
  rw [DistributionStore.identityAt, h.model]
  rfl

/-- **A share foretells what a cycle finds.** -/
theorem foretells (hstart : start.Sound) (hrecorded : σ.Recorded)
    (hd : start.descriptors.get? d.reference = some d) :
    (outlook start).Foretells σ settings now d σ.status σ.identity
      (start.desired settings now d.group) start.certificates :=
  .of_steady hstart hd (fun _ hw => hw.common.toSteady) (fun _ hw => Holds.status hw)
    (fun _ hw => Holds.identityAt hw) hrecorded

/-- **The first half of a cycle**: it reads, and finds what the share says. -/
theorem acts_prepare (hstart : start.Sound) (hrecorded : σ.Recorded) (hgroup : d.group = group)
    (hd : start.descriptors.get? d.reference = some d) :
    Answers start group σ (Cycle.prepare settings now d).run
      (σ.expects settings (start.desired settings now group) d) := by
  subst hgroup
  exact (foretells hstart hrecorded hd).acts_prepare

/-! ## The distribution -/

/-- What the distribution of a number is known by, if a model asks for one. -/
def served (model : Model) (n : Nat) : Option Identity :=
  if model.isEmpty then none else some (DistributionStore.identityOf n)

theorem served_of_isEmpty (h : model.isEmpty = true) (n : Nat) : served model n = none := if_pos h

theorem served_of_members (h : model.isEmpty = false) (n : Nat) :
    served model n = some (DistributionStore.identityOf n) := if_neg (by simp [h])

/-- What the distribution step comes to while no call fails: a distribution under
some number, which is its own if it had one. -/
structure Serves (s : DistributionStore) (settings : Settings) (model : Model) (n : Nat)
    (result : Cycle.DistributionSync × DistributionStore) : Prop extends
    s.Synced settings model result where
  bears : ∀ identity, model.identity = some identity → identity = DistributionStore.identityOf n
  told : result.1 = ⟨served model n, none⟩
  stored : result.2.models.get? model.group =
    (served model n).map fun identity => model.withIdentity (some identity)

/-- **The distribution step while no call fails**, for a model with the identity
there is; a group without members has none. -/
theorem sync_serves {s : DistributionStore} (h : s.Numbered) (hcalls : s.failing = [])
    (settings : Settings) (model : Model) (hidentity : model.identity = s.identityAt model.group)
    (hempty : model.isEmpty = true → model.identity = none) :
    ∃ n, Serves s settings model n (s.sync settings model) := by
  have hsynced : s.Synced settings model _ := DistributionStore.sync_spec h (hidentity ▸ .refl _)
  cases hmodel : model.isEmpty with
  | true =>
    have hnone := hempty hmodel
    have hunserved : served model 0 = none := served_of_isEmpty hmodel 0
    refine ⟨0, hsynced, fun identity hsome => ?_, ?_, ?_⟩
    · rw [hnone] at hsome
      cases hsome
    · rw [DistributionStore.sync_unknown s hmodel hnone, hunserved]
    · rw [DistributionStore.sync_unknown s hmodel hnone, hunserved]
      exact (h.identityAt_eq_none_iff _).1 (hidentity.symm.trans hnone)
  | false =>
    obtain ⟨n, hbears, hresult, hstored⟩ := h.sync_number settings model hcalls hmodel hidentity
    have hserved := served_of_members hmodel n
    refine ⟨n, hsynced, hbears, ?_, ?_⟩
    · rw [hserved]
      exact hresult
    · rw [hserved]
      exact hstored

/-- The share with a distribution as a model asks for. -/
def serving (σ : Share) (model : Model) (n : Nat) : Share :=
  { σ with model := (served model n).map fun identity => model.withIdentity (some identity) }

/-- If there is a distribution, it has a given number. -/
def Bears (σ : Share) (n : Nat) : Prop :=
  ∀ identity, σ.identity = some identity → identity = DistributionStore.identityOf n

/-- **The distribution step.** -/
theorem acts_syncDistribution (hgroup : model.group = group)
    (hempty : model.isEmpty = true → σ.model = none) :
    Acts start group σ (Cycle.syncDistribution settings (model.withIdentity σ.identity))
      fun result σ' => ∃ n, σ.Bears n ∧ result = ⟨served model n, none⟩ ∧
        σ' = σ.serving model n := by
  subst hgroup
  refine Acts.single (Cycle.single_syncDistribution _ _) fun w hw => ?_
  rw [World.run_syncDistribution]
  obtain ⟨n, hserves⟩ := sync_serves hw.common.numbered hw.common.calls settings
    (model.withIdentity σ.identity) (Holds.identityAt hw).symm fun hmodel => by
      show σ.model.bind _ = none
      rw [hempty hmodel]
      rfl
  obtain ⟨hown, hholds⟩ :=
    Holds.distributions hw hserves.numbered hserves.failing hserves.elsewhere
  refine ⟨hown, _, ⟨n, hserves.bears, hserves.told, ?_⟩, hholds⟩
  exact congrArg (fun m => { σ with model := m }) hserves.stored

/-! ## The names -/

theorem served_address (hempty : model.isEmpty = false) (n : Nat) :
    (served model n).bind (·.address) = some (DistributionStore.servedAt n) := by
  rw [served_of_members hempty]
  rfl

/-- The share with some names at an address. -/
def pointing (σ : Share) (token address : String) (ipv6 : Bool) (names : List String) : Share :=
  { σ with
    records := fun name =>
      if name ∈ names then Zone.aliasRecords name address ipv6 token else σ.records name }

theorem pointing_nil (σ : Share) (token address : String) (ipv6 : Bool) :
    σ.pointing token address ipv6 [] = σ := by
  refine Share.ext rfl rfl (funext fun name => ?_) rfl
  simp [pointing]

theorem pointing_cons (σ : Share) (token address : String) (ipv6 : Bool) (name : String)
    (names : List String) :
    (σ.pointing token address ipv6 [name]).pointing token address ipv6 names =
      σ.pointing token address ipv6 (name :: names) := by
  refine Share.ext rfl rfl (funext fun other => ?_) rfl
  show (if other ∈ names then Zone.aliasRecords other address ipv6 token
    else if other ∈ [name] then Zone.aliasRecords other address ipv6 token else σ.records other) =
      if other ∈ name :: names then Zone.aliasRecords other address ipv6 token else σ.records other
  by_cases hnames : other ∈ names
  · rw [if_pos hnames, if_pos (List.mem_cons_of_mem _ hnames)]
  · simp only [List.mem_cons, List.not_mem_nil, hnames, or_false, if_false]

/-- Nothing stands at a name, or what we have put there. -/
def Claimable (σ : Share) (token : String) (ipv6 : Bool) (name : String) : Prop :=
  Zone.Standing token ipv6 name [] (σ.records name)

variable {token address name : String} {ipv6 : Bool}

/-- **One name is claimed.** The batch is planned from records that are still
there when it is applied, since nobody else writes at the name. -/
theorem acts_upsertEntry (hapart : start.NamesApart) (hname : name ∈ (start.namesOf group).elems)
    (hclaimable : σ.Claimable token ipv6 name) :
    Acts start group σ (AliasProtocol.upsertEntry token address (.forDomain name ipv6))
      fun result σ' => result = .ok () ∧ σ' = σ.pointing token address ipv6 [name] := by
  have hlisted : Acts start group σ (Program.call (.listRecords name)) fun answer σ' =>
      answer = .ok (σ.records name) ∧ σ' = σ := by
    refine Acts.reads (Program.single_call _) fun w hw => ?_
    rw [← Holds.records hw hname]
    exact ⟨rfl, rfl, rfl⟩
  refine Acts.bind hlisted ?_
  rintro _ σ ⟨rfl, rfl⟩
  show Acts start group σ (AliasProtocol.carryOut (planUpsert (σ.records name) address _ token)) _
  refine Acts.single (AliasProtocol.single_carryOut _) fun w hw => ?_
  have hrecords := Holds.records hw hname
  have hrun : w.run (AliasProtocol.carryOut (planUpsert (w.zone.recordsAt name) address
      (.forDomain name ipv6) token)) = _ :=
    AliasProtocol.run_carryOut w token address (.forDomain name ipv6)
  rw [← hrecords, hrun]
  obtain ⟨honly, heffect⟩ :=
    Zone.claim_spec hw.common.zone token address (.forDomain name ipv6)
  replace heffect : ((w.zone.claim token address (.forDomain name ipv6)).1,
      (w.zone.claim token address (.forDomain name ipv6)).2.recordsAt name) =
        claimAt token address (.forDomain name ipv6) (w.zone.failing.contains name)
          (w.zone.recordsAt name) := heffect
  rw [hw.common.batches, hrecords, show ([] : List String).contains name = false from rfl,
    hclaimable.claimAt_ok] at heffect
  obtain ⟨hown, hholds⟩ := Holds.zone hw hapart hname honly
  obtain ⟨hok, hthere⟩ := Prod.mk.inj heffect
  refine ⟨hown, _, ⟨hok, ?_⟩, hholds⟩
  refine Share.ext rfl rfl (funext fun other => ?_) rfl
  show (if other = name then (w.zone.claim token address (.forDomain name ipv6)).2.recordsAt name
    else σ.records other) =
    if other ∈ [name] then Zone.aliasRecords other address ipv6 token else σ.records other
  rw [hthere]
  by_cases hother : other = name
  · rw [if_pos hother, if_pos (List.mem_singleton.2 hother), hother]
  · rw [if_neg hother, if_neg (fun hmem => hother (List.mem_singleton.1 hmem))]

/-- **Names are claimed one after the other.** -/
theorem acts_upsertNames (hapart : start.NamesApart) (names : List String) :
    ∀ {σ : Share}, (∀ name ∈ names, name ∈ (start.namesOf group).elems) →
      (∀ name ∈ names, σ.Claimable token ipv6 name) →
      Acts start group σ (AliasProtocol.converge (AliasProtocol.upsertEntry token address)
          (names.map fun name => .forDomain name ipv6))
        fun report σ' => report = ⟨names, []⟩ ∧ σ' = σ.pointing token address ipv6 names := by
  induction names with
  | nil => exact fun _ _ => Acts.pure ⟨rfl, (pointing_nil _ _ _ _).symm⟩
  | cons name rest ih =>
    intro σ hnames hclaimable
    refine Acts.bind (acts_upsertEntry hapart (hnames name List.mem_cons_self)
      (hclaimable name List.mem_cons_self)) ?_
    rintro _ _ ⟨rfl, rfl⟩
    refine Acts.bind (ih (fun other hmem => hnames other (List.mem_cons_of_mem _ hmem)) ?_) ?_
    · intro other hmem
      show Zone.Standing token ipv6 other [] (if other ∈ [name] then _ else _)
      split
      · exact Or.inr ⟨rfl, address, rfl⟩
      · exact hclaimable other (List.mem_cons_of_mem _ hmem)
    · rintro _ _ ⟨rfl, rfl⟩
      exact Acts.pure ⟨rfl, pointing_cons _ _ _ _ _ _⟩

/-- The names a model asks for, if names are managed at all. -/
def claims (settings : Settings) (model : Model) : List String :=
  if settings.aliasing.enabled then model.alternateDomains else []

/-- What the name step goes by: the names are those of the group, the record
says where its distribution is served, and lists no other names. -/
structure Listing (settings : Settings) (model : Model) (n : Nat) (status : StatusRecord)
    (σ : Share) : Prop where
  address : status.address = (served model n).bind (·.address)
  owned : ∀ name ∈ status.aliases.elems, name ∈ model.alternateDomains
  claimable : ∀ name ∈ model.alternateDomains, σ.Claimable settings.aliasing.token model.ipv6 name

variable {n : Nat} {status : StatusRecord}

theorem acts_claimNames (hapart : start.NamesApart)
    (hmodel : Group.ModelOf settings group (Group.membersOf group start.descriptors.values) model)
    (h : Listing settings model n status σ) (identity : Option Identity) :
    Acts start group σ
      (Cycle.claimNames settings.aliasing.token (model.withIdentity identity) status
        (.ofList model.alternateDomains))
      fun report σ' => report = ⟨model.alternateDomains, []⟩ ∧
        σ' = σ.pointing settings.aliasing.token (DistributionStore.servedAt n) model.ipv6
          model.alternateDomains := by
  have hlist := hmodel.ofList_domains
  unfold Cycle.claimNames
  cases hdomains : model.alternateDomains with
  | nil => exact Acts.pure ⟨rfl, (pointing_nil _ _ _ _).symm⟩
  | cons name rest =>
    rw [← hdomains]
    have hwanted : ¬ (SortedSet.ofList model.alternateDomains).isEmpty = true := by
      intro hnil
      rw [SortedSet.isEmpty, List.isEmpty_iff] at hnil
      rw [SortedSet.toList, hnil, hdomains] at hlist
      cases hlist
    have hempty : model.isEmpty = false := by
      rw [← Bool.not_eq_true]
      intro hempty
      rw [hmodel.domains_eq_nil hempty] at hdomains
      cases hdomains
    rw [if_neg hwanted, h.address, served_address hempty, hlist]
    refine acts_upsertNames hapart _ (fun name hmem => ?_) h.claimable
    rw [hmodel.domains] at hmem
    exact hmem

/-- **The name step**: all names point at the distribution. -/
theorem acts_syncAliases (hapart : start.NamesApart)
    (hmodel : Group.ModelOf settings group (Group.membersOf group start.descriptors.values) model)
    (h : Listing settings model n status σ) (identity : Option Identity) :
    Acts start group σ
      (Cycle.syncAliasesIfEnabled settings (model.withIdentity identity) status)
      fun result σ' => result = ⟨status.aliases.insertAll (claims settings model), []⟩ ∧
        σ' = σ.pointing settings.aliasing.token (DistributionStore.servedAt n) model.ipv6
          (claims settings model) := by
  unfold Cycle.syncAliasesIfEnabled claims
  cases settings.aliasing.enabled with
  | false => exact Acts.pure ⟨rfl, (pointing_nil _ _ _ _).symm⟩
  | true =>
    refine Acts.bind (acts_claimNames hapart hmodel h identity) ?_
    rintro _ _ ⟨rfl, rfl⟩
    have hreleased : Cycle.releaseNames settings.aliasing.token
        (.toDelete status.aliases.toList (.ofList model.alternateDomains)) = pure .empty := by
      rw [Cycle.releaseNames, if_pos]
      exact AliasSet.isEmpty_toDelete fun name hmem =>
        (SortedSet.mem_ofList _ name).2 (h.owned name hmem)
    show Acts start group _ (Cycle.releaseNames settings.aliasing.token
      (.toDelete status.aliases.toList (.ofList model.alternateDomains)) >>= _) _
    rw [hreleased]
    exact Acts.pure ⟨rfl, rfl⟩

/-! ## The bookkeeping -/

/-- The finalizer of a route is noted. -/
theorem acts_settleFinalizer (hgroup : d.group = group) (hd : σ.routes d.reference = some d)
    (state : FinalizerState) :
    Acts start group σ (Cycle.settleFinalizer d state) fun failures σ' =>
      failures = [] ∧
        σ' = { σ with
          routes := fun r =>
            if r = d.reference then some { d with finalizer := state } else σ.routes r } := by
  refine Acts.single (Cycle.single_settleFinalizer _ _) fun w hw => ?_
  have hstored : w.descriptors.get? d.reference = some d := by
    have hroute : (w.descriptors.get? d.reference).filter (·.group == group) = some d := by
      rw [← hd, ← hw.part]
      rfl
    exact (Option.filter_eq_some_iff.1 hroute).1
  rw [World.run_settleFinalizer, DescriptorStore.settle_eq _ _ _ hstored]
  dsimp only
  split
  · rename_i hsame
    refine ⟨own_refl _ _ _, σ, ⟨rfl, ?_⟩, hw⟩
    refine Share.ext rfl rfl rfl (funext fun r => ?_)
    dsimp only
    split
    · rename_i hr
      rw [hr, hd, hsame]
    · rfl
  · obtain ⟨hown, hholds⟩ := Holds.descriptors hw hgroup hstored state
    exact ⟨hown, _, ⟨rfl, rfl⟩, hholds⟩

/-- The record is stored, or dropped if nothing is left of the group. -/
theorem acts_persist (hgroup : status.group = group) (identity : Option Identity) :
    Acts start group σ (Cycle.persist settings (model.withIdentity identity) status
        σ.status.isNone true) fun result σ' =>
      result = .ok () ∧
        σ' = { σ with
          status := if model.isEmpty && settings.deletion then none else some status } := by
  subst hgroup
  refine Acts.single (Cycle.single_persist _ _ _ _ _) fun w hw => ?_
  rw [World.run_persist, ← Holds.status hw, StatusStore.persist_eq]
  obtain ⟨hself, helsewhere⟩ := StatusStore.get?_persisted w.statuses status
    (true && model.isEmpty && settings.deletion)
  obtain ⟨hown, hholds⟩ := Holds.statuses hw helsewhere
  refine ⟨hown, _, ⟨rfl, ?_⟩, hholds⟩
  rw [hself, Bool.true_and]

/-- Reports are in nobody's share. -/
theorem acts_announce (audience : Audience) (kind : EventKind) (reason message : String) :
    Acts start group σ (Cycle.announce d audience kind reason message)
      fun _ σ' => σ' = σ := by
  refine Acts.bind (Acts.publish _) ?_
  rintro _ σ rfl
  cases audience with
  | route => exact Acts.pure rfl
  | routeAndStatus =>
    refine Acts.bind (Acts.publish _) ?_
    rintro _ σ rfl
    exact Acts.pure rfl

end Share

end RouteConvergence
