/-
RouteConvergence.Proofs.ZoneLedger — what the engine does to a zone, and
that it never loses track of it.

The zone is shared with others, and whoever wrote the records at a name is
only known by the tokens in its text record. Under fixed settings a name
is in one of two states (`Zone.Standing`): it is as it was at the start, or
it had no records at all and now has exactly those the engine writes
(`Zone.aliasRecords`). A claim that goes through leads to the second state
and a release that goes through back to the first; anything that fails
leaves the name where it is.

The other half is the bookkeeping. A name in the second state is listed in
some status record (`World.Ledger`): a record is only dropped by a cycle
without failures of a group without members, and such a cycle has released
every name of the record.
-/
import RouteConvergence.Proofs.History

namespace RouteConvergence

namespace Zone

/-! ## The two states of a name -/

/-- The records of a claimed name: an IPv4 alias, an IPv6 alias if wanted, and
a text that holds the token alone. -/
def aliasRecords (name target : String) (ipv6 : Bool) (token : String) : List RecordSet :=
  .aliasTo name .a target ::
    (if ipv6 then [.aliasTo name .aaaa target] else []) ++ [.txt name [token]]

theorem pointing_forDomain (name target token : String) (ipv6 : Bool) :
    (AliasEntry.forDomain name ipv6).pointing target [token] =
      aliasRecords name target ipv6 token := by
  cases ipv6 <;> rfl

theorem findText_aliasRecords (name target token : String) (ipv6 : Bool) :
    findText (aliasRecords name target ipv6 token) = some (.txt name [token]) := by
  cases ipv6 <;> rfl

/-- A claimed name is ours. -/
theorem claim_aliasRecords (name target token domain : String) (ipv6 : Bool) :
    Claim.of (aliasRecords name target ipv6 token) domain token = .ours (.txt name [token]) := by
  refine Claim.of_eq_ours_iff.2 ⟨findText_aliasRecords name target token ipv6, ?_⟩
  exact List.mem_singleton_self token

/-- The token is in no text among some records. -/
def Unclaimed (token : String) (records : List RecordSet) : Prop :=
  ∀ r ∈ records, r.type = .txt → token ∉ r.values

theorem unclaimed_nil (token : String) : Unclaimed token [] :=
  fun _ hr => absurd hr List.not_mem_nil

/-- A name without our token is not ours. -/
theorem Unclaimed.not_ours {token domain : String} {records : List RecordSet}
    (h : Unclaimed token records) (text : RecordSet) :
    Claim.of records domain token ≠ .ours text := by
  intro hours
  obtain ⟨hfind, hmem⟩ := Claim.of_eq_ours_iff.1 hours
  have htype := List.find?_some hfind
  exact h text (List.mem_of_find?_eq_some hfind) (by simpa using htype) hmem

/-- There is nothing to release at a name that is not ours. -/
theorem releaseAt_of_not_ours {token : String} {entry : AliasEntry} (failing : Bool)
    {records : List RecordSet}
    (h : ∀ text, Claim.of records entry.domain token ≠ .ours text) :
    releaseAt token entry failing records = (.ok (), records) := by
  rw [releaseAt]
  cases hclaim : Claim.of records entry.domain token with
  | ours text => exact absurd hclaim (h text)
  | foreign cause => rfl
  | free => rfl

/-- No text that is left after a release holds the token. -/
theorem unclaimed_withdrawn (name token : String) (tokens : List String) :
    Unclaimed token (withdrawn name token tokens) := by
  intro r hr _
  cases hothers : tokens.filter (· != token) with
  | nil =>
    rw [withdrawn, hothers] at hr
    exact absurd hr List.not_mem_nil
  | cons other others =>
    rw [withdrawn, hothers] at hr
    rw [List.mem_singleton.1 hr]
    show token ∉ other :: others
    rw [← hothers, List.mem_filter]
    simp

/-- Nothing at all stands at a name that is nobody's. -/
theorem eq_nil_of_free {token domain : String} {records : List RecordSet}
    (h : Claim.of records domain token = .free) : records = [] := by
  obtain ⟨htext, haddress⟩ := Claim.of_eq_free_iff.1 h
  rw [List.eq_nil_iff_forall_not_mem]
  intro r hr
  have hnotText : r.type ≠ .txt := by simpa using List.find?_eq_none.1 htext r hr
  have hnotAddress : ¬ r.type.isAddress = true := by
    intro haddr
    have hmem : r ∈ addressRecords records := List.mem_filter.2 ⟨hr, haddr⟩
    rw [haddress] at hmem
    exact absurd hmem List.not_mem_nil
  cases htype : r.type with
  | a => exact hnotAddress (by rw [htype]; rfl)
  | aaaa => exact hnotAddress (by rw [htype]; rfl)
  | txt => exact hnotText htype

/-- A name is as it was at the start, or was free and is claimed. -/
def Standing (token : String) (ipv6 : Bool) (name : String) (start now : List RecordSet) : Prop :=
  now = start ∨ (start = [] ∧ ∃ target, now = aliasRecords name target ipv6 token)

section

variable {token : String} {ipv6 : Bool} {name : String} {start now : List RecordSet}

/-- **A claim** that goes through claims the name, and any other changes
nothing. -/
theorem Standing.claimAt (h : Standing token ipv6 name start now) (hstart : Unclaimed token start)
    (address : String) (failing : Bool) :
    let result := claimAt token address (.forDomain name ipv6) failing now
    (result.1 = .ok () → start = [] ∧ result.2 = aliasRecords name address ipv6 token) ∧
      (result.1 ≠ .ok () → result.2 = now) := by
  have hdomain : (AliasEntry.forDomain name ipv6).domain = name := rfl
  unfold RouteConvergence.claimAt
  rw [hdomain]
  rcases h with rfl | ⟨rfl, target, rfl⟩
  · cases hclaim : Claim.of now name token with
    | ours text => exact absurd hclaim (hstart.not_ours text)
    | foreign cause => exact ⟨nofun, fun _ => rfl⟩
    | free =>
      have hnil := eq_nil_of_free hclaim
      cases failing with
      | true => exact ⟨nofun, fun _ => rfl⟩
      | false =>
        exact ⟨fun _ => ⟨hnil, pointing_forDomain name address token ipv6⟩,
          fun hne => absurd rfl hne⟩
  · rw [claim_aliasRecords]
    cases failing with
    | true => exact ⟨nofun, fun _ => rfl⟩
    | false =>
      exact ⟨fun _ => ⟨rfl, pointing_forDomain name address token ipv6⟩, fun hne => absurd rfl hne⟩

/-- **A release** that goes through takes the name back to the start, and any
other changes nothing. -/
theorem Standing.releaseAt (h : Standing token ipv6 name start now) (hstart : Unclaimed token start)
    (failing : Bool) :
    let result := releaseAt token (.forDomain name true) failing now
    (result.1 = .ok () → result.2 = start) ∧ (result.1 ≠ .ok () → result.2 = now) := by
  have hdomain : (AliasEntry.forDomain name true).domain = name := rfl
  rcases h with rfl | ⟨rfl, target, rfl⟩
  · rw [releaseAt_of_not_ours failing hstart.not_ours]
    exact ⟨fun _ => rfl, fun _ => rfl⟩
  · unfold RouteConvergence.releaseAt
    rw [hdomain, claim_aliasRecords]
    cases failing with
    | true => exact ⟨nofun, fun _ => rfl⟩
    | false =>
      refine ⟨fun _ => ?_, fun hne => absurd rfl hne⟩
      -- Both types of addresses go, and the text held nothing else.
      have haddresses : ((aliasRecords name target ipv6 token).filter fun r =>
          r.type.isAddress && !(AliasEntry.forDomain name true).types.contains r.type) = [] := by
        cases ipv6 <;> rfl
      have htext : withdrawn name token [token] = [] := by
        simp [withdrawn]
      show _ ++ withdrawn name token [token] = []
      rw [haddresses, htext, List.append_nil]

end

end Zone

namespace World

/-! ## The ledger -/

variable {settings : Settings} {start : Zone} {w : World}

/-- **The ledger of a zone**: every name is as it was at the start or claimed,
and what is not as it was is listed in a status record. -/
structure Ledger (settings : Settings) (start : Zone) (w : World) : Prop where
  sound : w.Sound
  standing : ∀ name, Zone.Standing settings.aliasing.token settings.ipv6 name
    (start.recordsAt name) (w.zone.recordsAt name)
  listed : ∀ name, w.zone.recordsAt name ≠ start.recordsAt name →
    ∃ group status, w.statuses.get? group = some status ∧ name ∈ status.aliases.elems

/-- What one cycle does to one name: its state is kept or changed as it may
be, and if it is not as it was at the start, then the group owns it or the
group has nothing to do with it. -/
structure NameStep (settings : Settings) (start z : Zone) (status : StatusRecord)
    (result : Cycle.AliasSync × Zone) (name : String) : Prop where
  standing : Zone.Standing settings.aliasing.token settings.ipv6 name (start.recordsAt name)
    (result.2.recordsAt name)
  listed : result.2.recordsAt name ≠ start.recordsAt name → name ∈ result.1.owned.elems ∨
    (name ∉ status.aliases.elems ∧ z.recordsAt name ≠ start.recordsAt name)

section

variable {z : Zone} {model : Model} {status : StatusRecord} {result : Cycle.AliasSync × Zone}
  {name : String}

/-- A name whose records are left alone has to stay with its owner. -/
theorem NameStep.of_same (h : Zone.Standing settings.aliasing.token settings.ipv6 name
      (start.recordsAt name) (z.recordsAt name))
    (hsame : result.2.recordsAt name = z.recordsAt name)
    (howned : name ∈ status.aliases.elems → name ∈ result.1.owned.elems) :
    NameStep settings start z status result name where
  standing := by rwa [hsame]
  listed := by
    intro hne
    rw [hsame] at hne
    by_cases hmem : name ∈ status.aliases.elems
    · exact Or.inl (howned hmem)
    · exact Or.inr ⟨hmem, hne⟩

theorem nameStep_wanted (hstart : Zone.Unclaimed settings.aliasing.token (start.recordsAt name))
    (hsynced : z.NamesSynced settings.aliasing.token model status result)
    (hipv6 : model.ipv6 = settings.ipv6)
    (h : Zone.Standing settings.aliasing.token settings.ipv6 name (start.recordsAt name)
      (z.recordsAt name))
    (hwanted : name ∈ model.alternateDomains) : NameStep settings start z status result name := by
  cases haddress : status.address with
  | none =>
    obtain ⟨hsame, howned⟩ := hsynced.unclaimed haddress name hwanted
    exact .of_same h hsame howned.2
  | some address =>
    obtain ⟨hrecords, howned⟩ := hsynced.claimed address haddress name hwanted
    rw [hipv6] at hrecords howned
    obtain ⟨hok, hnot⟩ := h.claimAt hstart address (z.failing.contains name)
    by_cases hdone : (z.claiming settings.aliasing.token address settings.ipv6 name).1 = .ok ()
    · obtain ⟨hnil, halias⟩ := hok hdone
      exact ⟨Or.inr ⟨hnil, address, hrecords.trans halias⟩,
        fun _ => Or.inl (howned.2 (Or.inr hdone))⟩
    · exact .of_same h (hrecords.trans (hnot hdone)) fun hmem => howned.2 (Or.inl hmem)

theorem nameStep_unwanted (hstart : Zone.Unclaimed settings.aliasing.token (start.recordsAt name))
    (hsynced : z.NamesSynced settings.aliasing.token model status result)
    (h : Zone.Standing settings.aliasing.token settings.ipv6 name (start.recordsAt name)
      (z.recordsAt name))
    (hwanted : name ∉ model.alternateDomains) : NameStep settings start z status result name := by
  by_cases hmem : name ∈ status.aliases.elems
  · obtain ⟨hrecords, howned⟩ := hsynced.released name hmem hwanted
    obtain ⟨hok, hnot⟩ := h.releaseAt hstart (z.failing.contains name)
    by_cases hdone : (z.releasing settings.aliasing.token name).1 = .ok ()
    · have hback : result.2.recordsAt name = start.recordsAt name := hrecords.trans (hok hdone)
      exact ⟨Or.inl hback, fun hne => absurd hback hne⟩
    · exact .of_same h (hrecords.trans (hnot hdone)) fun _ => howned.2 hdone
  · obtain ⟨hsame, -⟩ := hsynced.elsewhere name hmem hwanted
    exact .of_same h hsame fun h => absurd h hmem

end

/-- **One cycle and the names of the zone.** -/
theorem Ledger.nameStep (h : w.Ledger settings start)
    (hstart : ∀ name, Zone.Unclaimed settings.aliasing.token (start.recordsAt name))
    (henabled : settings.aliasing.enabled = true) {now : Instant} {d : Descriptor}
    {p : Cycle.Prepared} (hp : w.prepared settings now d = .ok p) (name : String) :
    NameStep settings start w.zone (w.identified settings d p) (w.aliasSync settings d p) name := by
  have hsynced := h.sound.namesSynced henabled d p
  by_cases hwanted : name ∈ p.model.alternateDomains
  · exact nameStep_wanted (hstart name) hsynced (h.sound.preparedModel hp).ipv6 (h.standing name)
      hwanted
  · exact nameStep_unwanted (hstart name) hsynced (h.standing name) hwanted

/-- A name step without a failure that wants no names leaves none owned. -/
theorem owned_eq_nil {z : Zone} {token : String} {model : Model} {status : StatusRecord}
    {result : Cycle.AliasSync × Zone} (hsynced : z.NamesSynced token model status result)
    (hnone : result.1.failures = []) (hempty : model.alternateDomains = []) (name : String) :
    name ∉ result.1.owned.elems := by
  have hwanted : name ∉ model.alternateDomains := by
    rw [hempty]
    exact List.not_mem_nil
  by_cases hmem : name ∈ status.aliases.elems
  · rw [(hsynced.released name hmem hwanted).2]
    exact fun hne => hne ((hsynced.failures.1 hnone).2 name hmem hwanted)
  · exact (hsynced.elsewhere name hmem hwanted).2

theorem Ledger.converged (h : w.Ledger settings start)
    (hstart : ∀ name, Zone.Unclaimed settings.aliasing.token (start.recordsAt name))
    (henabled : settings.aliasing.enabled = true) {now : Instant} {d : Descriptor}
    {p : Cycle.Prepared} (hp : w.prepared settings now d = .ok p) :
    (w.converged settings now d p).Ledger settings start := by
  have hmodel := h.sound.preparedModel hp
  have hsynced := h.sound.namesSynced henabled d p
  have hstep := h.nameStep hstart henabled hp
  have hrecorded := congrArg Prod.snd (recorded_eq h.sound.statuses hp)
  refine ⟨h.sound.converged hp, fun name => (hstep name).standing, ?_⟩
  intro name hne
  show ∃ group status, (w.recorded settings now d p).2.get? group = some status ∧ _
  rw [hrecorded]
  dsimp only
  rcases (hstep name).listed hne with howned | ⟨hmem, hbefore⟩
  · -- The group owns the name, so its record was not dropped.
    split
    · rename_i hclean
      simp only [Bool.and_eq_true, List.isEmpty_iff, List.append_eq_nil_iff] at hclean
      obtain ⟨⟨⟨hsteps, -⟩, hempty⟩, -⟩ := hclean
      have hnone := (List.append_eq_nil_iff.1 hsteps).2
      exact absurd howned (owned_eq_nil hsynced hnone (hmodel.noNames hempty) name)
    · refine ⟨d.group, _, SortedMap.get?_insert_self _ _ _, ?_⟩
      rw [recordAfter_aliases]
      exact howned
  · -- Some other group lists the name, and its record is not touched.
    obtain ⟨group, status, hget, hlisted⟩ := h.listed name hbefore
    have hother : group ≠ d.group := by
      rintro rfl
      refine hmem ?_
      rw [identified_aliases, found_eq hp hget]
      exact hlisted
    refine ⟨group, status, ?_, hlisted⟩
    split
    · rw [SortedMap.get?_erase_ne _ hother, hget]
    · rw [SortedMap.get?_insert_ne _ _ hother, hget]

theorem Ledger.after (h : w.Ledger settings start)
    (hstart : ∀ name, Zone.Unclaimed settings.aliasing.token (start.recordsAt name))
    (henabled : settings.aliasing.enabled = true) {next : Happening} (hnext : next.Under settings) :
    (w.after next).Ledger settings start := by
  cases next with
  | store d => exact ⟨h.sound.after (.store d), h.standing, h.listed⟩
  | withdraw route => exact ⟨h.sound.after (.withdraw route), h.standing, h.listed⟩
  | failures operations names =>
    exact ⟨h.sound.after (.failures operations names), h.standing, h.listed⟩
  | statusLost group => exact hnext.elim
  | cycle s now d =>
    cases (show s = settings from hnext)
    rcases after_cycle w settings now d with ⟨events, heq⟩ | ⟨p, events, hp, heq⟩
    · rw [heq]
      exact ⟨h.sound.told events, h.standing, h.listed⟩
    · rw [heq]
      have hdone := h.converged hstart henabled hp
      exact ⟨hdone.sound.told events, hdone.standing, hdone.listed⟩

theorem ledger_seeded (certificates : List Certificate) (records : List RecordSet) :
    (seeded certificates records).Ledger settings (seeded certificates records).zone :=
  ⟨sound_seeded certificates records, fun _ => Or.inl rfl, fun _ hne => absurd rfl hne⟩

/-- The ledger is kept along every history under fixed settings that loses no
status record. -/
theorem ledger_through (certificates : List Certificate) (records : List RecordSet)
    (henabled : settings.aliasing.enabled = true)
    (hstart : ∀ name, Zone.Unclaimed settings.aliasing.token
      ((seeded certificates records).zone.recordsAt name))
    {history : List Happening} (hhistory : ∀ next ∈ history, next.Under settings) :
    ((seeded certificates records).through history).Ledger settings
      (seeded certificates records).zone :=
  through_induction (fun _ _ hnext h => h.after hstart henabled hnext) hhistory
    (ledger_seeded certificates records)

/-- A name has the records it had at the start, or it had none, was claimed,
and is listed in a status record. -/
def NameAccounted (settings : Settings) (start w : World) (name : String) : Prop :=
  w.zone.recordsAt name = start.zone.recordsAt name ∨
    (start.zone.recordsAt name = [] ∧
      (∃ target, w.zone.recordsAt name =
        Zone.aliasRecords name target settings.ipv6 settings.aliasing.token) ∧
      ∃ status ∈ w.statuses.values, name ∈ status.aliases.toList)

/-- **The engine writes at free names only, and no claimed name is ever lost
from the bookkeeping**: after every history under fixed settings, whatever
else stood in the zone as long as it did not hold the token. -/
theorem every_name_accounted (settings : Settings) (henabled : settings.aliasing.enabled = true)
    (certificates : List Certificate) (records : List RecordSet)
    (hstart : ∀ r ∈ (seeded certificates records).zone.records.values,
      r.type = .txt → settings.aliasing.token ∉ r.values)
    (history : List Happening) (hhistory : ∀ next ∈ history, next.Under settings) (name : String) :
    NameAccounted settings (seeded certificates records)
      ((seeded certificates records).through history) name := by
  have hunclaimed : ∀ other, Zone.Unclaimed settings.aliasing.token
      ((seeded certificates records).zone.recordsAt other) := by
    intro other r hr htype
    exact hstart r (List.mem_filter.1 hr).1 htype
  have hledger := ledger_through certificates records henabled hunclaimed hhistory
  rcases hledger.standing name with hsame | ⟨hnil, target, halias⟩
  · exact Or.inl hsame
  · have hne : ((seeded certificates records).through history).zone.recordsAt name ≠
        (seeded certificates records).zone.recordsAt name := by
      rw [hnil, halias]
      exact List.cons_ne_nil _ _
    obtain ⟨group, status, hget, hlisted⟩ := hledger.listed name hne
    have hmem := (SortedMap.mem_values _ _).2 ⟨group, hget⟩
    exact Or.inr ⟨hnil, ⟨target, halias⟩, status, hmem, hlisted⟩

/-- The blog claims its name beside the text of somebody else, and is accounted
for even after the distribution could not be updated. -/
theorem every_name_accounted_blog :
    let start := seeded [] [.txt "shop.example.com" ["somebody"]]
    let w := start.through [.store .blog, .cycle .claiming .someNoon .blog,
      .failures [.update] ["blog.example.com"], .cycle .claiming .someNoon .blog]
    w.zone.recordsAt "blog.example.com" ≠ start.zone.recordsAt "blog.example.com" ∧
      NameAccounted .claiming start w "blog.example.com" := by
  refine ⟨by decide +kernel, ?_⟩
  exact every_name_accounted .claiming rfl _ _ (by decide +kernel) _ (by decide +kernel) _

end World

end RouteConvergence
