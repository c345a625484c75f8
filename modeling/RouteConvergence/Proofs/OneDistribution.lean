/-
RouteConvergence.Proofs.OneDistribution — a group has one distribution,
for as long as it has one.

An identifier is a number that was given out, numbers only grow, and the
only call that gives one out is a creation. So it is enough to see what a
single happening can do to the store of distributions
(`DistributionStore.Follows`): a number given out before stands afterwards
only where it stood before, and a creation is called only where there was
nothing. Along a history the first part says that an identifier never
moves to another group and never comes back once it is gone.

A lost status record does not matter, since the identity is found again by
its resource name (`World.Sound.identityFound`), and neither does a failed
cycle, since whatever it leaves is sound.
-/
import RouteConvergence.Proofs.History

namespace RouteConvergence

namespace World

/-! ## One happening -/

variable {w : World}

/-- **Whatever happens, distributions keep their numbers to themselves.** -/
theorem Sound.follows (h : w.Sound) (next : Happening) :
    w.distributions.Follows (w.after next).distributions := by
  cases next with
  | store d => exact .of_same rfl rfl (.of_same rfl)
  | withdraw route => exact .of_same rfl rfl (.of_same rfl)
  | failures operations names => exact .of_same rfl rfl (.of_same rfl)
  | statusLost group => exact .of_same rfl rfl (.of_same rfl)
  | cycle settings now d =>
    rcases after_cycle w settings now d with ⟨events, heq⟩ | ⟨p, events, hp, heq⟩
    · rw [heq]
      exact .of_same rfl rfl (.of_same rfl)
    · rw [heq]
      exact (h.synced hp).toFollows

/-! ## Histories -/

theorem Sound.issued_through (h : w.Sound) (history : List Happening) :
    w.distributions.issued ≤ (w.through history).distributions.issued := by
  induction history generalizing w with
  | nil => exact Nat.le_refl _
  | cons next rest ih => exact Nat.le_trans (h.follows next).issued (ih (h.after next))

/-- **A number given out before** stands after a history only where it stood
before it. -/
theorem Sound.older_through (h : w.Sound) (history : List Happening) {group : GroupName} {n : Nat}
    (hn : n ≤ w.distributions.issued)
    (hafter : (w.through history).distributions.identityAt group =
      some (DistributionStore.identityOf n)) :
    w.distributions.identityAt group = some (DistributionStore.identityOf n) := by
  induction history generalizing w with
  | nil => exact hafter
  | cons next rest ih =>
    have hfollows := h.follows next
    have hnext := ih (h.after next) (Nat.le_trans hn hfollows.issued) hafter
    exact hfollows.older group n hn hnext

/-! ## The distribution of a group -/

/-- The identifier of a group's distribution. -/
def distributionId (w : World) (group : GroupName) : Option String :=
  (w.distributions.models.get? group).bind fun m => m.identity.map (·.id)

/-- The resource name of a group's distribution. -/
def distributionArn (w : World) (group : GroupName) : Option String :=
  (w.distributions.models.get? group).bind fun m => m.identity.map (·.arn)

theorem distributionId_eq (w : World) (group : GroupName) :
    w.distributionId group = (w.distributions.identityAt group).map (·.id) := by
  rw [distributionId, DistributionStore.identityAt]
  cases w.distributions.models.get? group <;> rfl

theorem distributionArn_eq (w : World) (group : GroupName) :
    w.distributionArn group = (w.distributions.identityAt group).map (·.arn) := by
  rw [distributionArn, DistributionStore.identityAt]
  cases w.distributions.models.get? group <;> rfl

/-- An identifier is the one of a number that was given out. -/
theorem Sound.distributionId_eq_some (h : w.Sound) {group : GroupName} {id : String}
    (hid : w.distributionId group = some id) :
    ∃ n, n ≤ w.distributions.issued ∧ id = (DistributionStore.identityOf n).id ∧
      w.distributions.identityAt group = some (DistributionStore.identityOf n) := by
  rw [distributionId_eq] at hid
  obtain ⟨identity, hidentity, rfl⟩ := Option.map_eq_some_iff.1 hid
  obtain ⟨n, hn, rfl⟩ := h.distributions.identityAt_eq_some hidentity
  exact ⟨n, hn, rfl, hidentity⟩

/-- **An identifier is never used again**: found after a history, it is the
one of the same group, and has been all along. -/
theorem Sound.distributionId_through (h : w.Sound) (before rest : List Happening)
    {group group' : GroupName} {id : String} (hid : w.distributionId group = some id)
    (hid' : (w.through (before ++ rest)).distributionId group' = some id) :
    group' = group ∧ (w.through before).distributionId group = some id := by
  obtain ⟨n, hn, rfl, hstored⟩ := h.distributionId_eq_some hid
  obtain ⟨k, -, hk, hstored'⟩ := (h.through _).distributionId_eq_some hid'
  have hnk := DistributionStore.identityOf_inj hk
  subst hnk
  have hsame : group' = group :=
    h.distributions.distinct group' group n (h.older_through _ hn hstored') hstored
  subst hsame
  rw [through_append] at hstored'
  have hbefore := (h.through before).older_through rest
    (Nat.le_trans hn (h.issued_through before)) hstored'
  refine ⟨rfl, ?_⟩
  rw [distributionId_eq, hbefore]
  rfl

/-- A group has at most one distribution, known by an identifier that is its
own, and is never given a second one. -/
structure OneEach (w : World) : Prop where
  /-- Every distribution has an identifier, and no two have the same. -/
  known : ∀ group, (w.distributions.models.get? group).isSome → (w.distributionId group).isSome
  distinct : ∀ group group' id, w.distributionId group = some id →
    w.distributionId group' = some id → group = group'
  /-- A status record names the distribution of its group, or none if there is
  none. -/
  recorded : ∀ group status, w.statuses.get? group = some status →
    status.distributionId = w.distributionId group ∧ status.arn = w.distributionArn group
  /-- Whatever happens next, a distribution is created only for a group that
  has none. -/
  created : ∀ next, ∃ made, (w.after next).distributions.calls = w.distributions.calls ++ made ∧
    made.length ≤ 1 ∧
      ∀ group, (Operation.create, group) ∈ made → w.distributions.models.get? group = none
  /-- Whatever happens from now on, an identifier stays with its group, and is
  never used again once it is gone. -/
  kept : ∀ before rest group group' id, w.distributionId group = some id →
    (w.through (before ++ rest)).distributionId group' = some id →
      group' = group ∧ (w.through before).distributionId group = some id

theorem Sound.oneEach (h : w.Sound) : w.OneEach where
  known := by
    intro group hsome
    obtain ⟨model, hm⟩ := Option.isSome_iff_exists.1 hsome
    obtain ⟨n, -, hn⟩ := h.distributions.given group model hm
    rw [distributionId, hm, Option.bind_some, hn]
    rfl
  distinct := by
    intro group group' id hid hid'
    obtain ⟨n, -, rfl, hstored⟩ := h.distributionId_eq_some hid
    obtain ⟨k, -, hk, hstored'⟩ := h.distributionId_eq_some hid'
    have hnk := DistributionStore.identityOf_inj hk
    subst hnk
    exact h.distributions.distinct group group' n hstored hstored'
  recorded := by
    intro group status hget
    have hnames := h.recorded group status hget
    rw [distributionId_eq, distributionArn_eq]
    exact ⟨hnames.id, hnames.arn⟩
  created := fun next => (h.follows next).calls
  kept := fun before rest _ _ _ hid hid' => h.distributionId_through before rest hid hid'

/-- **One distribution per group**, after every history from empty stores:
whatever descriptors come and go, whichever cycles are run under whatever
settings, whatever fails and whichever status records are lost. -/
theorem one_distribution_per_group (certificates : List Certificate) (records : List RecordSet)
    (history : List Happening) : ((seeded certificates records).through history).OneEach :=
  (sound_through certificates records history).oneEach

/-- A record that was lost does not cost the blog a second distribution. -/
example : ((seeded [] []).through [.store .blog, .cycle .claiming .someNoon .blog,
    .statusLost "public", .cycle .claiming .someNoon .blog]).distributions.calls =
      [(.create, "public"), (.update, "public")] := by
  decide +kernel

end World

end RouteConvergence
