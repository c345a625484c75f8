/-
RouteConvergence.Proofs.NameSync — the name step of a cycle.

A cycle claims the names it wants and releases those it owned and no
longer wants. The two sets of names are disjoint and every entry acts at
its own name, so the step can be read off name by name:

* `Zone.EachName` — what converging distinct names comes to.
* `Zone.claiming`, `Zone.releasing` — what a claim and a release of one
  name come to in a zone, and with what result.
* `Zone.NamesSynced` — what becomes of the records and of the ownership of
  every name, and when the step goes through without a failure;
  `Zone.syncAliases_spec`.
* `Zone.ClaimsMade`, `Zone.ReleasesMade` — the same for its two halves.
-/
import RouteConvergence.Proofs.CycleEffect

namespace RouteConvergence

/-! ## The names of a release -/

/-- The names a release is about are those owned and no longer wanted. -/
theorem mem_unwanted {owned : List String} {wanted : SortedSet String} {name : String} :
    name ∈ owned.filter (fun domain => !wanted.contains domain) ↔
      name ∈ owned ∧ name ∉ wanted.elems := by
  rw [List.mem_filter, Bool.not_eq_true', ← Bool.not_eq_true, SortedSet.contains_iff]

namespace Zone

/-- What claiming a name comes to. -/
def claiming (z : Zone) (token address : String) (ipv6 : Bool) (name : String) :
    Outcome Unit × List RecordSet :=
  z.effectAt (claimAt token address) (.forDomain name ipv6)

/-- What releasing a name comes to. -/
def releasing (z : Zone) (token name : String) : Outcome Unit × List RecordSet :=
  z.effectAt (releaseAt token) (.forDomain name true)

/-! ## One name after the other -/

/-- What converging the entries of distinct names comes to, told by name: each
has its own effect, and succeeds or fails on its own. -/
structure EachName (effect : Effect) (ipv6 : Bool) (names : List String) (z : Zone)
    (result : AliasReport × Zone) : Prop where
  filed : result.2.Filed
  failing : result.2.failing = z.failing
  elsewhere : ∀ name, name ∉ names → result.2.recordsAt name = z.recordsAt name
  there : ∀ name ∈ names,
    result.2.recordsAt name = (z.effectAt effect (.forDomain name ipv6)).2
  succeeded : ∀ name, name ∈ result.1.succeeded ↔
    name ∈ names ∧ (z.effectAt effect (.forDomain name ipv6)).1 = .ok ()
  failures : result.1.failures = [] ↔
    ∀ name ∈ names, (z.effectAt effect (.forDomain name ipv6)).1 = .ok ()

theorem domains_forDomain (names : List String) (ipv6 : Bool) :
    (names.map fun name => AliasEntry.forDomain name ipv6).map (·.domain) = names := by
  rw [List.map_map]
  exact List.map_id names

theorem EachAlone.eachName {effect : Effect} {ipv6 : Bool} {names : List String} {z : Zone}
    {result : AliasReport × Zone}
    (h : EachAlone effect (names.map fun name => .forDomain name ipv6) z result) :
    EachName effect ipv6 names z result where
  filed := h.filed
  failing := h.failing
  elsewhere := fun name hname => h.elsewhere name (by rwa [domains_forDomain])
  there := fun name hname => h.there _ (List.mem_map_of_mem hname)
  succeeded := by
    intro name
    rw [h.mem_succeeded]
    constructor
    · rintro ⟨e, he, rfl, hok⟩
      obtain ⟨other, hother, rfl⟩ := List.mem_map.1 he
      exact ⟨hother, hok⟩
    · rintro ⟨hname, hok⟩
      exact ⟨_, List.mem_map_of_mem hname, rfl, hok⟩
  failures := by
    rw [h.failures_eq_nil]
    constructor
    · intro hall name hname
      exact hall _ (List.mem_map_of_mem hname)
    · intro hall e he
      obtain ⟨name, hname, rfl⟩ := List.mem_map.1 he
      exact hall name hname

/-- Distinct names converge independently. -/
theorem converge_eachName {one : AliasEntry → Zone → Outcome Unit × Zone} {effect : Effect}
    (hone : HasEffect one effect) (ipv6 : Bool) {names : List String} (hnodup : names.Nodup)
    {z : Zone} (hz : z.Filed) :
    EachName effect ipv6 names z
      (converge one (names.map fun name => .forDomain name ipv6) z) := by
  refine (converge_eachAlone hone ?_ hz).eachName
  rwa [domains_forDomain]

/-! ## The two halves of the step -/

variable {z : Zone} {token : String} {model : Model} {status : StatusRecord}
  {wanted : SortedSet String}

/-- With an address every wanted name is claimed on its own. -/
theorem claimNames_of_address (token : String) (model : Model) (wanted : SortedSet String)
    (hz : z.Filed) {address : String} (h : status.address = some address) :
    EachName (claimAt token address) model.ipv6 wanted.elems z
      (z.claimNames token model status wanted) := by
  have heach := converge_eachName (hasEffect_claim token address) model.ipv6 wanted.elems_nodup hz
  unfold claimNames
  rw [h]
  cases hempty : wanted.isEmpty with
  | true =>
    have hnil : wanted.elems = [] := List.isEmpty_iff.1 hempty
    rw [hnil] at heach ⊢
    exact heach
  | false => exact heach

/-- Without an address nothing is claimed. -/
theorem claimNames_of_no_address (z : Zone) (token : String) (model : Model)
    (wanted : SortedSet String) (h : status.address = none) :
    (z.claimNames token model status wanted).2 = z ∧
      (z.claimNames token model status wanted).1.succeeded = [] ∧
        ((z.claimNames token model status wanted).1.failures = [] ↔ wanted.elems = []) := by
  unfold claimNames
  rw [h]
  cases hempty : wanted.isEmpty with
  | true => exact ⟨rfl, rfl, by simpa [AliasReport.empty] using List.isEmpty_iff.1 hempty⟩
  | false =>
    have hne : wanted.elems ≠ [] := fun hnil => by
      rw [SortedSet.isEmpty, hnil] at hempty
      cases hempty
    exact ⟨rfl, rfl, by simp [hne]⟩

/-- What the claims of a cycle come to. -/
structure ClaimsMade (z : Zone) (token : String) (model : Model) (status : StatusRecord)
    (wanted : SortedSet String) (result : AliasReport × Zone) : Prop where
  filed : result.2.Filed
  failing : result.2.failing = z.failing
  claimed : ∀ address, status.address = some address → ∀ name ∈ wanted.elems,
    result.2.recordsAt name = (z.claiming token address model.ipv6 name).2 ∧
      (name ∈ result.1.succeeded ↔ (z.claiming token address model.ipv6 name).1 = .ok ())
  unclaimed : status.address = none → ∀ name,
    result.2.recordsAt name = z.recordsAt name ∧ name ∉ result.1.succeeded
  elsewhere : ∀ name, name ∉ wanted.elems →
    result.2.recordsAt name = z.recordsAt name ∧ name ∉ result.1.succeeded
  failures : result.1.failures = [] ↔ ∀ name ∈ wanted.elems, ∃ address,
    status.address = some address ∧ (z.claiming token address model.ipv6 name).1 = .ok ()

theorem claimNames_spec (hz : z.Filed) :
    ClaimsMade z token model status wanted (z.claimNames token model status wanted) := by
  cases haddress : status.address with
  | none =>
    obtain ⟨hzone, hsucceeded, hfailures⟩ := claimNames_of_no_address z token model wanted haddress
    have hsame : ∀ name, (z.claimNames token model status wanted).2.recordsAt name =
        z.recordsAt name ∧ name ∉ (z.claimNames token model status wanted).1.succeeded := by
      intro name
      rw [hzone, hsucceeded]
      exact ⟨rfl, List.not_mem_nil⟩
    refine ⟨?_, ?_, ?_, fun _ => hsame, fun name _ => hsame name, ?_⟩
    · rw [hzone]
      exact hz
    · rw [hzone]
    · intro address h
      rw [haddress] at h
      cases h
    · rw [hfailures, List.eq_nil_iff_forall_not_mem]
      refine forall_congr' fun name => imp_congr_right fun _ => ?_
      simp [haddress]
  | some address =>
    have heach := claimNames_of_address token model wanted hz haddress
    refine ⟨heach.filed, heach.failing, ?_, ?_, ?_, ?_⟩
    · intro other hother name hname
      cases haddress.symm.trans hother
      refine ⟨heach.there name hname, ?_⟩
      rw [heach.succeeded]
      exact ⟨And.right, fun hok => ⟨hname, hok⟩⟩
    · intro h
      rw [haddress] at h
      cases h
    · intro name hname
      exact ⟨heach.elsewhere name hname, fun h => hname ((heach.succeeded name).1 h).1⟩
    · rw [heach.failures]
      constructor
      · intro h name hname
        exact ⟨address, haddress, h name hname⟩
      · intro h name hname
        obtain ⟨other, hother, hok⟩ := h name hname
        cases haddress.symm.trans hother
        exact hok

/-- Every name that is no longer wanted is released on its own. -/
theorem releaseNames_eachName (token : String) (wanted : SortedSet String) (hz : z.Filed)
    (owned : SortedSet String) :
    EachName (releaseAt token) true (owned.elems.filter fun domain => !wanted.contains domain) z
      (z.releaseNames token (.toDelete owned.toList wanted)) := by
  have heach := converge_eachName (hasEffect_release token) true
    (List.Pairwise.filter (fun domain => !wanted.contains domain) owned.elems_nodup) hz
  unfold releaseNames
  cases hempty : (AliasSet.toDelete owned.toList wanted).isEmpty with
  | true =>
    have hnil : (owned.elems.filter fun domain => !wanted.contains domain) = [] :=
      List.map_eq_nil_iff.1 (List.isEmpty_iff.1 hempty)
    rw [hnil] at heach ⊢
    exact heach
  | false => exact heach

/-- What the releases of a cycle come to. -/
structure ReleasesMade (z : Zone) (token : String) (owned wanted : SortedSet String)
    (result : AliasReport × Zone) : Prop where
  filed : result.2.Filed
  failing : result.2.failing = z.failing
  released : ∀ name ∈ owned.elems, name ∉ wanted.elems →
    result.2.recordsAt name = (z.releasing token name).2 ∧
      (name ∈ result.1.succeeded ↔ (z.releasing token name).1 = .ok ())
  elsewhere : ∀ name, (name ∈ owned.elems → name ∈ wanted.elems) →
    result.2.recordsAt name = z.recordsAt name ∧ name ∉ result.1.succeeded
  failures : result.1.failures = [] ↔
    ∀ name ∈ owned.elems, name ∉ wanted.elems → (z.releasing token name).1 = .ok ()

theorem releaseNames_spec (hz : z.Filed) (owned : SortedSet String) :
    ReleasesMade z token owned wanted (z.releaseNames token (.toDelete owned.toList wanted)) := by
  have heach := releaseNames_eachName token wanted hz owned
  refine ⟨heach.filed, heach.failing, ?_, ?_, ?_⟩
  · intro name howned hwanted
    have hname := mem_unwanted.2 ⟨howned, hwanted⟩
    refine ⟨heach.there name hname, ?_⟩
    rw [heach.succeeded]
    exact ⟨And.right, fun hok => ⟨hname, hok⟩⟩
  · intro name hkept
    have hname : name ∉ owned.elems.filter fun domain => !wanted.contains domain := by
      intro h
      obtain ⟨howned, hwanted⟩ := mem_unwanted.1 h
      exact hwanted (hkept howned)
    exact ⟨heach.elsewhere name hname, fun h => hname ((heach.succeeded name).1 h).1⟩
  · rw [heach.failures]
    constructor
    · intro h name howned hwanted
      exact h name (mem_unwanted.2 ⟨howned, hwanted⟩)
    · intro h name hname
      obtain ⟨howned, hwanted⟩ := mem_unwanted.1 hname
      exact h name howned hwanted

/-! ## The step as a whole -/

/-- What the name step of a cycle comes to. -/
structure NamesSynced (z : Zone) (token : String) (model : Model) (status : StatusRecord)
    (result : Cycle.AliasSync × Zone) : Prop where
  filed : result.2.Filed
  failing : result.2.failing = z.failing
  claimed : ∀ address, status.address = some address → ∀ name ∈ model.alternateDomains,
    result.2.recordsAt name = (z.claiming token address model.ipv6 name).2 ∧
      (name ∈ result.1.owned.elems ↔
        name ∈ status.aliases.elems ∨ (z.claiming token address model.ipv6 name).1 = .ok ())
  /-- Nothing is claimed while nobody knows where to point. -/
  unclaimed : status.address = none → ∀ name ∈ model.alternateDomains,
    result.2.recordsAt name = z.recordsAt name ∧
      (name ∈ result.1.owned.elems ↔ name ∈ status.aliases.elems)
  released : ∀ name ∈ status.aliases.elems, name ∉ model.alternateDomains →
    result.2.recordsAt name = (z.releasing token name).2 ∧
      (name ∈ result.1.owned.elems ↔ (z.releasing token name).1 ≠ .ok ())
  elsewhere : ∀ name, name ∉ status.aliases.elems → name ∉ model.alternateDomains →
    result.2.recordsAt name = z.recordsAt name ∧ name ∉ result.1.owned.elems
  failures : result.1.failures = [] ↔
    (∀ name ∈ model.alternateDomains, ∃ address, status.address = some address ∧
      (z.claiming token address model.ipv6 name).1 = .ok ()) ∧
    ∀ name ∈ status.aliases.elems, name ∉ model.alternateDomains →
      (z.releasing token name).1 = .ok ()

/-- The releases find at their names what stood there before the claims. -/
theorem ClaimsMade.releasing_eq {claims : AliasReport × Zone}
    (h : ClaimsMade z token model status wanted claims) {name : String}
    (hname : name ∉ wanted.elems) : claims.2.releasing token name = z.releasing token name := by
  rw [releasing, releasing, effectAt, effectAt, h.failing]
  exact congrArg _ (h.elsewhere name hname).1

/-- The two halves come together: they are about different names. -/
theorem ClaimsMade.synced {claims releases : AliasReport × Zone}
    (hclaim : ClaimsMade z token model status wanted claims)
    (hrelease : ReleasesMade claims.2 token status.aliases wanted releases)
    (hwanted : ∀ name, name ∈ wanted.elems ↔ name ∈ model.alternateDomains) :
    NamesSynced z token model status
      (⟨(status.aliases.insertAll claims.1.succeeded).eraseAll releases.1.succeeded,
        claims.1.failures ++ releases.1.failures⟩, releases.2) := by
  have howned : ∀ name,
      name ∈ ((status.aliases.insertAll claims.1.succeeded).eraseAll releases.1.succeeded).elems ↔
        name ∉ releases.1.succeeded ∧
          (name ∈ claims.1.succeeded ∨ name ∈ status.aliases.elems) := by
    intro name
    rw [SortedSet.mem_eraseAll, SortedSet.mem_insertAll]
  refine ⟨hrelease.filed, hrelease.failing.trans hclaim.failing, ?_, ?_, ?_, ?_, ?_⟩
  · intro address haddress name hname
    obtain ⟨hrecords, hsucceeded⟩ := hclaim.claimed address haddress name ((hwanted name).2 hname)
    obtain ⟨hafter, hnot⟩ := hrelease.elsewhere name fun _ => (hwanted name).2 hname
    refine ⟨hafter.trans hrecords, ?_⟩
    rw [howned, hsucceeded]
    simp only [hnot, not_false_eq_true, true_and, or_comm]
  · intro haddress name hname
    obtain ⟨hrecords, hsucceeded⟩ := hclaim.unclaimed haddress name
    obtain ⟨hafter, hnot⟩ := hrelease.elsewhere name fun _ => (hwanted name).2 hname
    refine ⟨hafter.trans hrecords, ?_⟩
    rw [howned]
    simp only [hnot, hsucceeded, not_false_eq_true, true_and, false_or]
  · intro name hmem hname
    have hunwanted := mt (hwanted name).1 hname
    obtain ⟨hrecords, hsucceeded⟩ := hrelease.released name hmem hunwanted
    rw [hclaim.releasing_eq hunwanted] at hrecords hsucceeded
    refine ⟨hrecords, ?_⟩
    rw [howned, hsucceeded]
    simp only [hmem, or_true, and_true, ne_eq]
  · intro name hmem hname
    obtain ⟨hrecords, hsucceeded⟩ := hclaim.elsewhere name (mt (hwanted name).1 hname)
    obtain ⟨hafter, -⟩ := hrelease.elsewhere name fun h => absurd h hmem
    refine ⟨hafter.trans hrecords, ?_⟩
    rw [howned]
    rintro ⟨-, h | h⟩
    · exact hsucceeded h
    · exact hmem h
  · dsimp only
    rw [List.append_eq_nil_iff, hclaim.failures, hrelease.failures]
    refine and_congr ?_ ?_
    · exact forall_congr' fun name => by rw [hwanted]
    · refine forall_congr' fun name => imp_congr_right fun _ => ?_
      rw [← hwanted]
      exact imp_congr_right fun hname => by rw [hclaim.releasing_eq hname]

/-- **The name step**, name by name. -/
theorem syncAliases_spec {settings : Settings} (hz : z.Filed)
    (henabled : settings.aliasing.enabled = true) :
    NamesSynced z settings.aliasing.token model status (z.syncAliases settings model status) := by
  have hclaim : ClaimsMade z settings.aliasing.token model status
      (SortedSet.ofList model.alternateDomains) _ := claimNames_spec hz
  have hrelease : ReleasesMade _ settings.aliasing.token status.aliases
      (SortedSet.ofList model.alternateDomains) _ := releaseNames_spec hclaim.filed status.aliases
  rw [syncAliases, if_pos henabled]
  exact hclaim.synced hrelease (SortedSet.mem_ofList _)

end Zone

end RouteConvergence
