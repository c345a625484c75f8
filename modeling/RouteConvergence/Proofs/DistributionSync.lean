/-
RouteConvergence.Proofs.DistributionSync — the distribution step of a
cycle.

The store looks an identifier up in all groups and writes under the group
of the model, so nothing can be said of one group alone. What carries the
step is one invariant of the whole store and one relation between the
store and what a cycle knows:

* `DistributionStore.Numbered` — every stored distribution has the identity
  of a number given out before, and no two have the same number.
* `Identity.Recalls` — an identity that was found for a group is the
  stored one, but may have forgotten the address: a resource name does not
  give it away.
* `DistributionStore.Synced` — what the step comes to, whether it went
  through or failed, and `DistributionStore.sync_spec`.
-/
import RouteConvergence.Proofs.CycleEffect
import RouteConvergence.Proofs.Identifiers

namespace RouteConvergence

/-! ## What is known of an identity -/

/-- An identity that was found agrees with the stored one, but for an
address it may not know. -/
structure Identity.Recalls (found stored : Option Identity) : Prop where
  id : found.map (·.id) = stored.map (·.id)
  arn : found.map (·.arn) = stored.map (·.arn)
  address : found.bind (·.address) = none ∨ found.bind (·.address) = stored.bind (·.address)

theorem Identity.Recalls.refl (stored : Option Identity) : Recalls stored stored :=
  ⟨rfl, rfl, Or.inr rfl⟩

theorem Identity.Recalls.isSome {found stored : Option Identity} (h : Recalls found stored) :
    found.isSome = stored.isSome := by
  have hid := congrArg Option.isSome h.id
  simpa using hid

namespace DistributionStore

/-! ## The numbers of a store -/

/-- The identity of a group's distribution. -/
def identityAt (s : DistributionStore) (group : GroupName) : Option Identity :=
  (s.models.get? group).bind (·.identity)

theorem arnOf_eq (s : DistributionStore) (group : GroupName) :
    s.arnOf group =
      match s.identityAt group with
      | some identity => .ok identity.arn
      | none => .error (.notFound "distribution" group) := rfl

/-- Every distribution has the identity of a number given out, and its own
one. -/
structure Numbered (s : DistributionStore) : Prop where
  given : ∀ group model, s.models.get? group = some model →
    ∃ n, n ≤ s.issued ∧ model.identity = some (identityOf n)
  distinct : ∀ group group' n, s.identityAt group = some (identityOf n) →
    s.identityAt group' = some (identityOf n) → group = group'

theorem numbered_empty : Numbered empty :=
  ⟨fun _ _ h => (nomatch h), fun _ _ _ h => (nomatch h)⟩

variable {s : DistributionStore}

theorem Numbered.identityAt_eq_none_iff (h : s.Numbered) (group : GroupName) :
    s.identityAt group = none ↔ s.models.get? group = none := by
  unfold identityAt
  cases hm : s.models.get? group with
  | none => simp
  | some model =>
    obtain ⟨n, -, hn⟩ := h.given group model hm
    simp [hn]

/-- Nothing is known of a distribution only if there is none. -/
theorem Numbered.none_of_recalls (h : s.Numbered) {group : GroupName}
    (hr : Identity.Recalls none (s.identityAt group)) : s.models.get? group = none := by
  rw [← h.identityAt_eq_none_iff, ← Option.isNone_iff_eq_none, ← Option.not_isSome, ← hr.isSome]
  rfl

theorem Numbered.identityAt_eq_some (h : s.Numbered) {group : GroupName} {identity : Identity}
    (hi : s.identityAt group = some identity) : ∃ n, n ≤ s.issued ∧ identity = identityOf n := by
  obtain ⟨model, hm, hmodel⟩ := Option.bind_eq_some_iff.1 hi
  obtain ⟨n, hle, hn⟩ := h.given group model hm
  rw [hn] at hmodel
  exact ⟨n, hle, (Option.some.inj hmodel).symm⟩

/-- **The identifier of a stored distribution finds its own identity**, in
whatever order the groups are searched. -/
theorem Numbered.findIdentity (h : s.Numbered) {group : GroupName} {identity : Identity}
    (hi : s.identityAt group = some identity) : s.findIdentity identity.id = some identity := by
  obtain ⟨model, hm, hmodel⟩ := Option.bind_eq_some_iff.1 hi
  obtain ⟨n, -, rfl⟩ := h.identityAt_eq_some hi
  unfold DistributionStore.findIdentity
  cases hfind : s.models.values.find? fun m => m.identity.map (·.id) == some (identityOf n).id with
  | none =>
    have hmem : model ∈ s.models.values := (SortedMap.mem_values _ _).2 ⟨group, hm⟩
    have hnot := List.find?_eq_none.1 hfind model hmem
    rw [hmodel] at hnot
    simp at hnot
  | some found =>
    obtain ⟨other, hother⟩ := (SortedMap.mem_values _ _).1 (List.mem_of_find?_eq_some hfind)
    obtain ⟨k, -, hk⟩ := h.given other found hother
    have hsame := List.find?_some hfind
    simp only [hk, Option.map_some, beq_iff_eq, Option.some.injEq] at hsame
    rw [Option.bind_some, hk, identityOf_inj hsame]

/-! ## The three writes -/

/-- Only the stored models decide which identity a group has. -/
theorem identityAt_congr {s s' : DistributionStore} (h : s'.models = s.models)
    (group : GroupName) : s'.identityAt group = s.identityAt group := by
  rw [identityAt, identityAt, h]

theorem Numbered.congr {s s' : DistributionStore} (h : s.Numbered) (hm : s'.models = s.models)
    (hi : s'.issued = s.issued) : s'.Numbered := by
  refine ⟨?_, ?_⟩
  · rw [hm, hi]
    exact h.given
  · intro group group' n hn hn'
    rw [identityAt_congr hm] at hn hn'
    exact h.distinct group group' n hn hn'

theorem identityAt_insert_self {s s' : DistributionStore} {group : GroupName} {model : Model}
    (h : s'.models = s.models.insert group model) : s'.identityAt group = model.identity := by
  rw [identityAt, h, SortedMap.get?_insert_self]
  rfl

theorem identityAt_insert_ne {s s' : DistributionStore} {group other : GroupName} {model : Model}
    (h : s'.models = s.models.insert group model) (hne : other ≠ group) :
    s'.identityAt other = s.identityAt other := by
  rw [identityAt, h, SortedMap.get?_insert_ne _ _ hne, identityAt]

/-- A distribution may be written under its group with a number that no
other group has. -/
theorem Numbered.insert {s s' : DistributionStore} (h : s.Numbered) {group : GroupName}
    {model : Model} {n : Nat} (hm : s'.models = s.models.insert group model)
    (hi : s.issued ≤ s'.issued) (hn : n ≤ s'.issued) (hmodel : model.identity = some (identityOf n))
    (hfree : ∀ other, other ≠ group → s.identityAt other ≠ some (identityOf n)) :
    s'.Numbered := by
  refine ⟨?_, ?_⟩
  · intro other m hother
    rw [hm] at hother
    rcases SortedMap.get?_insert_eq_some hother with ⟨rfl, rfl⟩ | hold
    · exact ⟨n, hn, hmodel⟩
    · obtain ⟨k, hk, hid⟩ := h.given other m hold
      exact ⟨k, by omega, hid⟩
  · -- Of two groups with one number, the one just written excludes the other.
    have hother : ∀ other k, other ≠ group → s'.identityAt other = some (identityOf k) →
        s.identityAt other = some (identityOf k) := fun other k hne hk => by
      rwa [identityAt_insert_ne hm hne] at hk
    have hself : ∀ k, s'.identityAt group = some (identityOf k) → k = n := fun k hk => by
      rw [identityAt_insert_self hm, hmodel] at hk
      exact identityOf_inj (congrArg Identity.id (Option.some.inj hk)).symm
    intro a b k ha hb
    by_cases hag : a = group
    · by_cases hbg : b = group
      · rw [hag, hbg]
      · subst hag
        have hk := hself k ha
        subst hk
        exact absurd (hother b k hbg hb) (hfree b hbg)
    · by_cases hbg : b = group
      · subst hbg
        have hk := hself k hb
        subst hk
        exact absurd (hother a k hag ha) (hfree a hag)
      · exact h.distinct a b k (hother a k hag ha) (hother b k hbg hb)

theorem identityAt_of_erase {s s' : DistributionStore} {group other : GroupName}
    {identity : Identity} (hm : s'.models = s.models.erase group)
    (hother : s'.identityAt other = some identity) : s.identityAt other = some identity := by
  obtain ⟨m, hget, hmi⟩ := Option.bind_eq_some_iff.1 hother
  rw [hm] at hget
  rw [identityAt, (SortedMap.get?_erase_eq_some hget).2]
  exact hmi

theorem Numbered.erase {s s' : DistributionStore} (h : s.Numbered) {group : GroupName}
    (hm : s'.models = s.models.erase group) (hi : s'.issued = s.issued) : s'.Numbered := by
  refine ⟨?_, fun a b k ha hb =>
    h.distinct a b k (identityAt_of_erase hm ha) (identityAt_of_erase hm hb)⟩
  intro other m hother
  rw [hm] at hother
  rw [hi]
  exact h.given other m (SortedMap.get?_erase_eq_some hother).2

theorem create_eq (s : DistributionStore) (model : Model) :
    s.create model =
      if .create ∈ s.failing then
        (.error (.backend (.injected .create)), s.logged .create model.group)
      else
        (.ok (model.withIdentity (some (identityOf (s.issued + 1)))),
          { s.logged .create model.group with
            models := s.models.insert model.group
              (model.withIdentity (some (identityOf (s.issued + 1))))
            issued := s.issued + 1 }) := rfl

theorem delete_eq (s : DistributionStore) (model : Model) :
    s.delete model =
      if .delete ∈ s.failing then
        (.error (.backend (.injected .delete)), s.logged .delete model.group)
      else
        (.ok (), { s.logged .delete model.group with
          models := s.models.erase model.group }) := rfl

/-- **An update finds its distribution** if the model recalls its identity. -/
theorem Numbered.update_eq (h : s.Numbered) {model : Model} {requested stored : Identity}
    (hrequested : model.identity = some requested)
    (hstored : s.identityAt model.group = some stored) (hid : requested.id = stored.id) :
    s.update model =
      if .update ∈ s.failing then
        (.error (.backend (.injected .update)), s.logged .update model.group)
      else
        (.ok (model.withIdentity (some stored)),
          { s.logged .update model.group with
            models := s.models.insert model.group (model.withIdentity (some stored)) }) := by
  have hfind : (s.logged .update model.group).findIdentity requested.id = some stored := by
    rw [hid]
    exact h.findIdentity hstored
  unfold update
  dsimp only
  by_cases hfail : Operation.update ∈ s.failing
  · rw [if_pos hfail, if_pos (show _ ∈ (s.logged .update model.group).failing from hfail)]
  · rw [if_neg hfail, if_neg (show _ ∉ (s.logged .update model.group).failing from hfail),
      hrequested]
    dsimp only
    rw [hfind]
    rfl

/-! ## The step -/

/-- At most one call was made, and it created a distribution only if there was
none. -/
def CreatesOnlyNew (s s' : DistributionStore) : Prop :=
  ∃ made, s'.calls = s.calls ++ made ∧ made.length ≤ 1 ∧
    ∀ group, (Operation.create, group) ∈ made → s.models.get? group = none

theorem CreatesOnlyNew.of_same {s s' : DistributionStore} (h : s'.calls = s.calls) :
    CreatesOnlyNew s s' :=
  ⟨[], by rw [h, List.append_nil], Nat.zero_le 1, fun _ hmem => absurd hmem List.not_mem_nil⟩

theorem CreatesOnlyNew.of_logged {s s' : DistributionStore} {operation : Operation}
    {group : GroupName} (h : s'.calls = (s.logged operation group).calls)
    (hnew : operation = .create → s.models.get? group = none) : CreatesOnlyNew s s' := by
  refine ⟨[(operation, group)], h, Nat.le_refl 1, ?_⟩
  intro other hmem
  obtain ⟨hop, hgroup⟩ := Prod.mk.inj (List.mem_singleton.1 hmem)
  rw [hgroup]
  exact hnew hop.symm

/-- What can become of a store of distributions by one happening: numbers only
grow, one given out before stands only where it stood, and nothing is created
a second time. -/
structure Follows (s s' : DistributionStore) : Prop where
  issued : s.issued ≤ s'.issued
  older : ∀ group n, n ≤ s.issued → s'.identityAt group = some (identityOf n) →
    s.identityAt group = some (identityOf n)
  calls : CreatesOnlyNew s s'

theorem Follows.of_same {s s' : DistributionStore} (hm : s'.models = s.models)
    (hi : s'.issued = s.issued) (hc : CreatesOnlyNew s s') : Follows s s' where
  issued := Nat.le_of_eq hi.symm
  older := fun group n _ hn => by rwa [identityAt_congr hm] at hn
  calls := hc

/-- What the distribution step of a cycle comes to. -/
structure Synced (s : DistributionStore) (settings : Settings) (model : Model)
    (result : Cycle.DistributionSync × DistributionStore) : Prop extends Follows s result.2 where
  numbered : result.2.Numbered
  failing : result.2.failing = s.failing
  /-- What is reported is what is stored. -/
  recalls : Identity.Recalls result.1.identity (result.2.identityAt model.group)
  elsewhere : ∀ other, other ≠ model.group → result.2.models.get? other = s.models.get? other
  provided : result.1.failure = none → model.isEmpty = false →
    ∃ identity address, result.1.identity = some identity ∧ identity.address = some address ∧
      result.2.models.get? model.group = some (model.withIdentity (some identity))
  cleared : result.1.failure = none → model.isEmpty = true → settings.deletion = true →
    result.1.identity = none ∧ result.2.models.get? model.group = none
  sound : s.failing = [] → result.1.failure = none

variable {settings : Settings} {model : Model}

/-- The step leaves the models alone, and reports what the cycle knew. -/
theorem Synced.kept (h : s.Numbered)
    (hr : Identity.Recalls model.identity (s.identityAt model.group)) {s' : DistributionStore}
    {failure : Option Failure} (hm : s'.models = s.models) (hi : s'.issued = s.issued)
    (hf : s'.failing = s.failing) (hcalls : CreatesOnlyNew s s')
    (hdone : failure = none →
      model.isEmpty = true ∧ (settings.deletion = true → model.identity = none))
    (hsound : s.failing = [] → failure = none) :
    Synced s settings model (⟨model.identity, failure⟩, s') where
  toFollows := .of_same hm hi hcalls
  numbered := h.congr hm hi
  failing := hf
  recalls := by
    rw [identityAt_congr hm]
    exact hr
  elsewhere := fun other _ => by rw [hm]
  provided := by
    intro hnone hempty
    rw [(hdone hnone).1] at hempty
    cases hempty
  cleared := by
    intro hnone _ hdeletion
    have hidentity := (hdone hnone).2 hdeletion
    refine ⟨hidentity, ?_⟩
    show s'.models.get? model.group = none
    rw [hm]
    exact h.none_of_recalls (hidentity ▸ hr)
  sound := hsound

/-- The step writes the model under a number of its own. -/
theorem Synced.placed (h : s.Numbered) {s' : DistributionStore} {n : Nat}
    (hm : s'.models = s.models.insert model.group (model.withIdentity (some (identityOf n))))
    (hi : s.issued ≤ s'.issued) (hn : n ≤ s'.issued) (hf : s'.failing = s.failing)
    (hcalls : CreatesOnlyNew s s') (hempty : model.isEmpty = false)
    (hown : s.issued < n ∨ s.identityAt model.group = some (identityOf n)) :
    Synced s settings model (⟨some (identityOf n), none⟩, s') where
  issued := hi
  older := by
    intro other k hk hother
    by_cases hne : other = model.group
    · subst hne
      rw [identityAt_insert_self hm] at hother
      have hkn := identityOf_inj (congrArg Identity.id (Option.some.inj hother))
      rcases hown with hnew | hown
      · omega
      · rw [← hkn]
        exact hown
    · rwa [identityAt_insert_ne hm hne] at hother
  calls := hcalls
  numbered := by
    refine h.insert hm hi hn rfl ?_
    intro other hne hother
    rcases hown with hnew | hown
    · obtain ⟨k, hk, hid⟩ := h.identityAt_eq_some hother
      have := identityOf_inj (congrArg Identity.id hid)
      omega
    · exact hne (h.distinct other model.group n hother hown)
  failing := hf
  recalls := by
    rw [identityAt_insert_self hm]
    exact .refl _
  elsewhere := fun other hne => by rw [hm, SortedMap.get?_insert_ne _ _ hne]
  provided := by
    intro _ _
    obtain ⟨address, haddress⟩ := identityOf_address n
    refine ⟨identityOf n, address, rfl, haddress, ?_⟩
    show s'.models.get? model.group = _
    rw [hm, SortedMap.get?_insert_self]
  cleared := by
    intro _ he
    rw [hempty] at he
    cases he
  sound := fun _ => rfl

/-- The step removes the distribution of the group. -/
theorem Synced.erased (h : s.Numbered) {s' : DistributionStore}
    (hm : s'.models = s.models.erase model.group) (hi : s'.issued = s.issued)
    (hf : s'.failing = s.failing) (hcalls : CreatesOnlyNew s s') (hempty : model.isEmpty = true) :
    Synced s settings model (⟨none, none⟩, s') where
  issued := Nat.le_of_eq hi.symm
  older := fun other n _ hother => identityAt_of_erase hm hother
  calls := hcalls
  numbered := h.erase hm hi
  failing := hf
  recalls := by
    rw [identityAt, hm, SortedMap.get?_erase_self]
    exact .refl _
  elsewhere := fun other hne => by rw [hm, SortedMap.get?_erase_ne _ hne]
  provided := by
    intro _ he
    rw [hempty] at he
    cases he
  cleared := by
    intro _ _ _
    refine ⟨rfl, ?_⟩
    show s'.models.get? model.group = none
    rw [hm, SortedMap.get?_erase_self]
  sound := fun _ => rfl

/-- The only call of the step is made to fail. -/
theorem Synced.failed (h : s.Numbered)
    (hr : Identity.Recalls model.identity (s.identityAt model.group)) {operation : Operation}
    (hfail : operation ∈ s.failing)
    (hnew : operation = .create → s.models.get? model.group = none) (failure : Failure) :
    Synced s settings model (⟨model.identity, some failure⟩, s.logged operation model.group) := by
  have hcalls : CreatesOnlyNew s (s.logged operation model.group) := .of_logged rfl hnew
  refine .kept h hr rfl rfl rfl hcalls (fun hnone => by cases hnone) (fun hnil => ?_)
  rw [hnil] at hfail
  exact absurd hfail List.not_mem_nil

/-- The step for a group without members. -/
theorem sync_cleared (h : s.Numbered)
    (hr : Identity.Recalls model.identity (s.identityAt model.group))
    (hempty : model.isEmpty = true) : Synced s settings model (s.sync settings model) := by
  unfold sync
  rw [if_pos hempty]
  cases hhas : model.hasIdentity with
  | false =>
    have hnone : model.identity = none := by simpa [Model.hasIdentity] using hhas
    have hkept : Synced s settings model (⟨model.identity, none⟩, s) :=
      .kept h hr rfl rfl rfl (.of_same rfl) (fun _ => ⟨hempty, fun _ => hnone⟩) (fun _ => rfl)
    rw [hnone] at hkept
    exact hkept
  | true =>
    rw [if_neg (by simp)]
    cases hdel : settings.deletion with
    | false =>
      have hbarred : settings.deletion = true → model.identity = none := by
        intro hdeletion
        rw [hdel] at hdeletion
        cases hdeletion
      exact .kept h hr rfl rfl rfl (.of_same rfl) (fun _ => ⟨hempty, hbarred⟩) (fun _ => rfl)
    | true =>
      rw [if_neg (by simp), delete_eq]
      by_cases hfail : Operation.delete ∈ s.failing
      · rw [if_pos hfail]
        exact .failed h hr hfail nofun _
      · rw [if_neg hfail]
        exact .erased h rfl rfl rfl (.of_logged rfl nofun) hempty

/-- The step for a group with members: what the identity recalls is updated,
and a distribution is created if it recalls nothing. -/
theorem sync_provided (h : s.Numbered)
    (hr : Identity.Recalls model.identity (s.identityAt model.group))
    (hempty : model.isEmpty = false) : Synced s settings model (s.sync settings model) := by
  unfold sync
  rw [if_neg (by simp [hempty])]
  cases hhas : model.hasIdentity with
  | true =>
    obtain ⟨requested, hrequested⟩ := Option.isSome_iff_exists.1 hhas
    obtain ⟨stored, hstored⟩ := Option.isSome_iff_exists.1 (hr.isSome.symm.trans hhas)
    have hid : requested.id = stored.id := by
      have hids := hr.id
      rw [hrequested, hstored] at hids
      exact Option.some.inj hids
    obtain ⟨n, hn, rfl⟩ := h.identityAt_eq_some hstored
    rw [if_pos rfl, h.update_eq hrequested hstored hid]
    by_cases hfail : Operation.update ∈ s.failing
    · rw [if_pos hfail]
      exact .failed h hr hfail nofun _
    · rw [if_neg hfail]
      exact .placed h rfl (Nat.le_refl _) hn rfl (.of_logged rfl nofun) hempty (Or.inr hstored)
  | false =>
    have hnone : model.identity = none := by simpa [Model.hasIdentity] using hhas
    have hnew : s.models.get? model.group = none := h.none_of_recalls (hnone ▸ hr)
    rw [if_neg (by simp), create_eq]
    by_cases hfail : Operation.create ∈ s.failing
    · rw [if_pos hfail]
      exact .failed h hr hfail (fun _ => hnew) _
    · rw [if_neg hfail]
      exact .placed h rfl (Nat.le_succ _) (Nat.le_refl _) rfl (.of_logged rfl fun _ => hnew) hempty
        (Or.inl (Nat.lt_succ_self _))

/-- **The distribution step**, in a numbered store and with an identity that
recalls the stored one. -/
theorem sync_spec (h : s.Numbered)
    (hr : Identity.Recalls model.identity (s.identityAt model.group)) :
    Synced s settings model (s.sync settings model) := by
  cases hempty : model.isEmpty with
  | true => exact sync_cleared h hr hempty
  | false => exact sync_provided h hr hempty

end DistributionStore

end RouteConvergence
