/-
RouteConvergence.Proofs.RacingCycles — two cycles of one group at the same
time, and the cycle after them.

Two cycles that have both found no distribution create one each. The second
takes the place of the first, but of the two records the first one to be
stored stays, because a cycle that has found no record creates one and does
not replace the one it meets. What is on record then names a distribution
that is gone, and every further cycle goes by the record. That is the only
thing that can go wrong:

* `World.Raced` — what two cycles leave, whatever the schedule: a record
  that names the stored distribution, or one of two created distributions,
  the one that was replaced.
* `World.racing_cycles_heal_iff` — the next cycle brings the stores to the
  descriptors exactly if the record names the stored distribution, as it
  always does when at most one distribution was created.
* `World.racing_creations_stick` — a schedule after which it does not.
-/
import RouteConvergence.Proofs.Convergence
import RouteConvergence.Proofs.RaceProtocols
import RouteConvergence.Proofs.Recovery

namespace RouteConvergence

namespace World

/-! ## Races of one group -/

/-- A descriptor that can set off a cycle of a group: it is stored and valid, and
the model of the group can be built. -/
structure Triggers (w : World) (settings : Settings) (now : Instant) (group : GroupName)
    (d : Descriptor) : Prop where
  group : d.group = group
  stored : w.descriptors.get? d.reference = some d
  valid : d.validate = .ok ()
  asked : ∃ model, w.desired settings now d.group = .ok model

/-- Two cycles, call by call in the order of a schedule. -/
def race (w : World) (settings : Settings) (now₁ : Instant) (first : Descriptor)
    (now₂ : Instant) (second : Descriptor) (schedule : List Side) :
    Race (Outcome Unit) (Outcome Unit) :=
  Race.run ⟨w, reconcile settings now₁ first, reconcile settings now₂ second⟩ schedule

/-- The record of a group, if there is one, names the stored distribution. -/
def Tallies (w : World) (group : GroupName) : Prop :=
  ∀ status, w.statuses.get? group = some status → status.Names (w.identityAt group)

/-- The record of a group names a distribution that is nowhere. -/
def Astray (w : World) (group : GroupName) : Prop :=
  ∃ status n, w.statuses.get? group = some status ∧
    status.Names (some (DistributionStore.identityOf n)) ∧
    ∀ other, w.identityAt other ≠ some (DistributionStore.identityOf n)

/-- What two cycles of a group leave. -/
structure Raced (group : GroupName) (start w : World) : Prop where
  beside : Beside group start w
  recorded : w.Tallies group ∨ (w.Astray group ∧ start.HasMembers group ∧
    start.distributions.issued + 1 < w.distributions.issued)

variable {group : GroupName} {start w : World} {settings : Settings} {now now₁ now₂ : Instant}
  {d first second : Descriptor} {model : Model}

/-! ### A group with members -/

/-- Two numbers that can both be the group's are the same, or both were given out
in the race. -/
theorem OwnNumber.eq_or_late {m n : Nat} (hm : OwnNumber group start w m)
    (hn : OwnNumber group start w n) :
    m = n ∨ start.distributions.issued + 1 < w.distributions.issued := by
  rcases hm with hhad | ⟨hnone, hlate, hle⟩
  · rcases hn with hhad' | ⟨hnone', -, -⟩
    · exact Or.inl (DistributionStore.number_unique hhad hhad')
    · rw [hhad] at hnone'
      cases hnone'
  · rcases hn with hhad' | ⟨-, hlate', hle'⟩
    · rw [hnone] at hhad'
      cases hhad'
    · omega

/-- **Cycles of a group with members** leave a record that names what is stored,
unless two numbers were given out and the record has the wrong one. -/
theorem Providing.raced (h : Providing group start w) (hstart : start.distributions.Numbered)
    (hmembers : start.HasMembers group)
    (hended : ∀ status, w.statuses.get? group = some status → Identified group start w status) :
    Raced group start w := by
  refine ⟨h.beside, ?_⟩
  cases hrecord : w.statuses.get? group with
  | none =>
    refine Or.inl fun status hstatus => ?_
    rw [hrecord] at hstatus
    cases hstatus
  | some status =>
    obtain ⟨n, hn, hnames⟩ := hended status hrecord
    rcases h.stored with ⟨m, hm, hstored⟩ | ⟨-, hnone, hissued⟩
    · by_cases hsame : m = n
      · subst hsame
        refine Or.inl fun other hother => ?_
        rw [hrecord] at hother
        cases hother
        rw [hstored]
        exact hnames
      · have htwo := (hm.eq_or_late hn).resolve_left hsame
        refine Or.inr ⟨⟨status, n, hrecord, hnames, fun other hother => ?_⟩, hmembers, htwo⟩
        by_cases hgroup : other = group
        · subst hgroup
          exact hsame (DistributionStore.number_unique hstored hother)
        · exact hn.not_elsewhere hstart h.beside hgroup hother
    · -- Nothing was given out, so there is nothing a record could name.
      rcases hn with hhad | ⟨-, hlate, hle⟩
      · rw [hnone] at hhad
        cases hhad
      · omega

/-! ### A group without members -/

/-- **Cycles of a group without members** leave no record at all, or one that
names what the group has had all along. -/
theorem Vacant.raced (h : Vacant settings group start w)
    (hended : settings.deletion = true → w.identityAt group = none ∧
      w.statuses.get? group = none) : Raced group start w := by
  refine ⟨h.beside, Or.inl fun status hstatus => ?_⟩
  rcases h.stored with hsame | ⟨hdeletion, -⟩
  · rw [hsame]
    exact h.recorded status hstatus
  · rw [(hended hdeletion).2] at hstatus
    cases hstatus

end World

/-! ### Any group -/

open World in
/-- **Two cycles that follow a protocol** leave what the protocol says. -/
theorem Cycle.Protocol.race {settings : Settings} {group : GroupName} {start : World}
    (P : Protocol settings group start) (hallowed : P.allows start start) (hstart : start.Sound)
    (hcreation : settings.creation = true) (hdisabled : settings.aliasing.enabled = false)
    {now₁ now₂ : Instant} {first second : Descriptor}
    (hfirst : start.Triggers settings now₁ group first)
    (hsecond : start.Triggers settings now₂ group second) {schedule : List Side}
    (hleft : (start.race settings now₁ first now₂ second schedule).left.isDone = true)
    (hright : (start.race settings now₁ first now₂ second schedule).right.isDone = true) :
    P.allows start (start.race settings now₁ first now₂ second schedule).world ∧
      P.ended (start.race settings now₁ first now₂ second schedule).world := by
  obtain ⟨model₁, hmodel₁⟩ := hfirst.asked
  obtain ⟨model₂, hmodel₂⟩ := hsecond.asked
  rw [hfirst.group] at hmodel₁
  rw [hsecond.group] at hmodel₂
  have hguarded : Race.Guarded P.allows (fun _ w => P.ended w) (fun _ w => P.ended w) start
      ⟨start, reconcile settings now₁ first, reconcile settings now₂ second⟩ :=
    ⟨hallowed,
      P.guarded_reconcile hallowed hstart hcreation hdisabled hfirst.group hfirst.stored
        hfirst.valid hmodel₁,
      P.guarded_reconcile hallowed hstart hcreation hdisabled hsecond.group hsecond.stored
        hsecond.valid hmodel₂⟩
  have hkept : Kept P.allows fun (_ : Outcome Unit) w => P.ended w :=
    fun _ _ _ hended hw => P.ended_kept hended hw
  obtain ⟨hworld, ⟨_, hended⟩, -⟩ :=
    (hguarded.run P.allowed hkept hkept schedule).finished hleft hright
  exact ⟨hworld, hended⟩

namespace World

variable {group : GroupName} {start w : World} {settings : Settings} {now now₁ now₂ : Instant}
  {d first second : Descriptor} {model : Model}

/-- What holds at the start of a race. -/
theorem Sound.providing (h : start.Sound) (group : GroupName) : Providing group start start where
  beside := h.beside group
  issued := Nat.le_refl _
  stored := by
    cases hstored : start.identityAt group with
    | none => exact Or.inr ⟨rfl, rfl, rfl⟩
    | some identity =>
      obtain ⟨n, -, rfl⟩ := h.distributions.identityAt_eq_some hstored
      exact Or.inl ⟨n, Or.inl hstored, rfl⟩
  recorded := by
    intro status hstatus
    have hnames : status.Names (start.identityAt group) := h.recorded group status hstatus
    cases hstored : start.identityAt group with
    | none =>
      rw [hstored] at hnames
      exact Or.inl (by simpa using hnames.identity.isSome)
    | some identity =>
      obtain ⟨n, -, rfl⟩ := h.distributions.identityAt_eq_some hstored
      rw [hstored] at hnames
      exact Or.inr ⟨n, Or.inl hstored, hnames⟩

theorem Sound.vacant (h : start.Sound) (settings : Settings) (group : GroupName) :
    Vacant settings group start start :=
  ⟨h.beside group, Or.inl rfl, h.recorded group⟩

/-- **What two cycles leave**, whatever the schedule. -/
theorem Sound.raced (h : start.Sound) (hcalls : start.distributions.failing = [])
    (hcreation : settings.creation = true) (hdisabled : settings.aliasing.enabled = false)
    (hfirst : start.Triggers settings now₁ group first)
    (hsecond : start.Triggers settings now₂ group second) {schedule : List Side}
    (hleft : (start.race settings now₁ first now₂ second schedule).left.isDone = true)
    (hright : (start.race settings now₁ first now₂ second schedule).right.isDone = true) :
    Raced group start (start.race settings now₁ first now₂ second schedule).world := by
  by_cases hmembers : start.HasMembers group
  · obtain ⟨hworld, hended⟩ := (Cycle.providing h hcalls hmembers).race
      (h.providing group).provides h hcreation hdisabled hfirst hsecond hleft hright
    exact hworld.after.raced h.distributions hmembers hended
  · obtain ⟨hworld, hended⟩ := (Cycle.vacating hcalls hmembers).race
      (h.vacant settings group).vacates h hcreation hdisabled hfirst hsecond hleft hright
    exact hworld.after.raced hended

/-! ## The cycle after a race -/

/-- The stores are as the descriptors of a group ask for: its distribution is the
one that is built, under the identity on record, or there is neither if nothing
is asked for. -/
def Restored (settings : Settings) (now : Instant) (group : GroupName) (w : World) : Prop :=
  ∃ model, w.desired settings now group = .ok model ∧
    (model.isEmpty = false → ∃ identity status,
      w.distributions.models.get? group = some (model.withIdentity (some identity)) ∧
      w.statuses.get? group = some status ∧
      status.distributionId = some identity.id ∧ status.arn = some identity.arn) ∧
    (model.isEmpty = true → settings.deletion = true →
      w.distributions.models.get? group = none ∧ w.statuses.get? group = none)

/-- A cycle goes through and leaves the stores as they should be. -/
def Heals (w : World) (settings : Settings) (now : Instant) (d : Descriptor) : Prop :=
  (w.run (reconcile settings now d)).1 = .ok () ∧
    Restored settings now d.group (w.run (reconcile settings now d)).2

/-- Stores that belong together but for one group, whose record tallies, do
belong together. -/
theorem Beside.sound (h : Beside group start w) (hstart : start.Sound)
    (htallies : w.Tallies group) : w.Sound where
  descriptors := h.filed
  statuses := h.statuses
  zone := by
    rw [h.zone]
    exact hstart.zone
  distributions := h.numbered
  recorded := by
    intro other status hstatus
    by_cases hother : other = group
    · rw [hother] at hstatus ⊢
      exact htallies status hstatus
    · rw [h.records other hother] at hstatus
      rw [DistributionStore.identityAt, h.models other hother]
      exact hstart.recorded other status hstatus

/-- **In a sound world the next cycle heals** if nothing is made to fail. -/
theorem Sound.heals (h : w.Sound) (hcalls : w.distributions.failing = [])
    (hcreation : settings.creation = true) (hdisabled : settings.aliasing.enabled = false)
    (hd : w.Triggers settings now group d) : w.Heals settings now d := by
  obtain ⟨rfl, hstored, hvalid, model, hmodel⟩ := hd
  obtain ⟨identity, hp⟩ := h.prepared hstored hvalid hmodel (Or.inl hcreation)
  have hnone : w.failuresAfter settings now d ⟨w.statuses.get? d.group,
      model.withIdentity identity⟩ = [] := by
    rw [failuresAfter_eq h.statuses hp, stepFailures, (h.synced hp).sound hcalls,
      aliasSync_disabled hdisabled, settled, DescriptorStore.settle_eq _ _ _ hstored]
    rfl
  obtain ⟨model', hclean⟩ := h.clean hstored hp hnone
  rw [Heals, run_reconcile_converged hp, if_pos hnone]
  refine ⟨rfl, model', ?_, fun hempty => ?_, fun hempty hdeletion => ?_⟩
  · exact (desired_converged hstored d.group).trans hclean.asked
  · have hmembers : w.HasMembers d.group := by
      refine Classical.byContradiction fun hno => ?_
      rw [(h.isEmpty_iff hclean.asked).2 hno] at hempty
      cases hempty
    obtain ⟨found, -, hplaced, hrecord, hidentity, -⟩ := h.provided hp hclean hmembers
    obtain ⟨hid, harn, -⟩ := w.recordAfter_identity settings now d
      ⟨w.statuses.get? d.group, model.withIdentity identity⟩
    rw [hidentity] at hid harn
    exact ⟨found, _, hplaced, hrecord, hid, harn⟩
  · exact h.cleared hp hclean hdeletion ((h.isEmpty_iff hclean.asked).1 hempty)

/-! ### A record that is astray -/

/-- A cycle goes by the record, wherever that leads. -/
theorem Astray.identityFound (h : w.Astray group) :
    ∃ requested n, w.identityFound group = .ok (some requested) ∧
      Identity.Recalls (some requested) (some (DistributionStore.identityOf n)) ∧
      ∀ other, w.identityAt other ≠ some (DistributionStore.identityOf n) := by
  obtain ⟨status, n, hstatus, hnames, hlost⟩ := h
  have hrecalls := hnames.identity
  obtain ⟨requested, hrequested⟩ : ∃ requested, status.identity = some requested :=
    Option.isSome_iff_exists.1 hrecalls.isSome
  rw [hrequested] at hrecalls
  refine ⟨requested, n, ?_, hrecalls, hlost⟩
  rw [World.identityFound, hstatus, Option.bind_some, hrequested]

/-- **A cycle that goes by a record that is astray** fails, and leaves the record
astray. -/
theorem Astray.converged {p : Cycle.Prepared} (h : w.Astray d.group)
    (hnumbered : w.distributions.Numbered) (hcalls : w.distributions.failing = [])
    (hstatuses : w.statuses.FiledBy (·.group)) (hp : w.prepared settings now d = .ok p)
    (hempty : p.model.isEmpty = false) :
    w.failuresAfter settings now d p ≠ [] ∧ (w.converged settings now d p).Astray d.group := by
  obtain ⟨requested, n, hfound, hrecalls, hlost⟩ := h.identityFound
  obtain ⟨status, -, hstatus, -, -⟩ := h
  obtain ⟨-, model, identity, -, hidentity, -, hprepared⟩ := prepared_eq_ok_iff.1 hp
  cases hfound.symm.trans hidentity
  have hpersisted : p.persisted = some status := by
    rw [hprepared]
    exact hstatus
  have hrequested : p.model.identity = some requested := by
    rw [hprepared]
    rfl
  have hsync : w.distributionSync settings p =
      (⟨some requested, some (.backend (.distributionMissing requested.id))⟩,
        w.distributions.logged .update p.model.group) :=
    hnumbered.sync_lost settings hcalls hempty hrequested (Option.some.inj hrecalls.id) hlost
  have hfails : w.stepFailures settings d p ≠ [] := by
    rw [stepFailures, hsync]
    exact List.cons_ne_nil _ _
  refine ⟨fun hnone => hfails (List.append_eq_nil_iff.1 (List.append_eq_nil_iff.1 hnone).1).1, ?_⟩
  have hgroup : (w.recordAfter settings now d p).group = d.group := by
    rw [recordAfter_group, Cycle.Prepared.found, hpersisted]
    exact hstatuses _ _ hstatus
  have hstored : (w.recorded settings now d p).2.get? d.group =
      some (w.recordAfter settings now d p) := by
    rcases StatusStore.persist_provided hempty w.statuses settings (w.recordAfter settings now d p)
      p.persisted.isNone (w.stepFailures settings d p ++ (w.settled settings d p).1).isEmpty with
      hwritten | ⟨-, hmissed⟩
    · rw [recorded, hwritten, hgroup]
      exact SortedMap.get?_insert_self _ _ _
    · rw [hgroup, hpersisted, SortedMap.contains, hstatus] at hmissed
      cases hmissed
  -- The new record has the identity the old one had.
  obtain ⟨hid, harn, haddress⟩ := w.recordAfter_identity settings now d p
  rw [hsync] at hid harn haddress
  refine ⟨_, n, hstored, ⟨hid.trans hrecalls.id, harn.trans hrecalls.arn, ?_⟩, fun other => ?_⟩
  · rw [haddress]
    exact hrecalls.address
  · show (w.distributionSync settings p).2.identityAt other ≠ _
    rw [hsync]
    exact hlost other

/-- **After a race that has left the record astray** the next cycle fails, and the
one after it has the same before it. -/
theorem Beside.sticks (h : Beside group start w) (hstart : start.Sound) (hastray : w.Astray group)
    (hmembers : start.HasMembers group) (hcalls : w.distributions.failing = [])
    (hcreation : settings.creation = true) (hd : w.Triggers settings now group d) :
    (w.run (reconcile settings now d)).1 ≠ .ok () ∧
      (w.run (reconcile settings now d)).2.Astray group := by
  obtain ⟨rfl, hstored, hvalid, model, hmodel⟩ := hd
  obtain ⟨requested, n, hfound, -, -⟩ := hastray.identityFound
  have hwanted : w.wanted settings now d = .ok model :=
    (wanted_eq_desired h.filed hstored).trans hmodel
  have hempty : (model.withIdentity (some requested)).isEmpty = false := by
    rw [h.desired] at hmodel
    rw [← Bool.not_eq_true]
    exact fun he => (hstart.isEmpty_iff hmodel).1 he hmembers
  have hbarred : Cycle.creationBarred settings (model.withIdentity (some requested)) = false := by
    rw [Cycle.creationBarred, hcreation]
    simp
  have hp := prepared_eq_ok_iff.2 ⟨hvalid, model, some requested, hwanted, hfound, hbarred, rfl⟩
  obtain ⟨hfails, hstill⟩ := hastray.converged h.numbered hcalls h.statuses hp hempty
  rw [run_reconcile_converged hp, if_neg hfails]
  refine ⟨fun hok => ?_, hstill⟩
  cases hok

/-! ## The result -/

/-- **Racing cycles heal unless two distributions were created.** From every state
that a history can lead to from empty stores, with nothing made to fail and names
left alone, and whatever the schedule of two cycles of a group: once both are
done, a further cycle for a stored descriptor of the group goes through and
leaves what the descriptors ask for, exactly if the record names the stored
distribution. If it does not, two distributions were created in the race, and the
further cycle fails and leaves the record as wrong as it was. -/
theorem racing_cycles_heal_iff (certificates : List Certificate) (records : List RecordSet)
    (history : List Happening) (hstart : start = (seeded certificates records).through history)
    (hcalls : start.distributions.failing = []) (hcreation : settings.creation = true)
    (hdisabled : settings.aliasing.enabled = false)
    (hfirst : start.Triggers settings now₁ group first)
    (hsecond : start.Triggers settings now₂ group second) (schedule : List Side)
    (hrace : w = (start.race settings now₁ first now₂ second schedule).world)
    (hleft : (start.race settings now₁ first now₂ second schedule).left.isDone = true)
    (hright : (start.race settings now₁ first now₂ second schedule).right.isDone = true)
    (hd : w.Triggers settings now group d) :
    (w.Heals settings now d ↔ w.Tallies group) ∧
      (¬ w.Tallies group → start.distributions.issued + 1 < w.distributions.issued ∧
        (w.run (reconcile settings now d)).1 ≠ .ok () ∧
        (w.run (reconcile settings now d)).2.Astray group) := by
  have hsound : start.Sound := by
    rw [hstart]
    exact sound_through certificates records history
  obtain ⟨hbeside, hrecorded⟩ := hsound.raced hcalls hcreation hdisabled hfirst hsecond hleft hright
  rw [← hrace] at hbeside hrecorded
  replace hcalls : w.distributions.failing = [] := hbeside.failing.trans hcalls
  have hheals : w.Tallies group → w.Heals settings now d := fun htallies =>
    (hbeside.sound hsound htallies).heals hcalls hcreation hdisabled hd
  have hsticks : ¬ w.Tallies group → start.distributions.issued + 1 < w.distributions.issued ∧
      (w.run (reconcile settings now d)).1 ≠ .ok () ∧
      (w.run (reconcile settings now d)).2.Astray group := by
    intro hno
    obtain ⟨hastray, hmembers, hissued⟩ := hrecorded.resolve_left hno
    exact ⟨hissued, hbeside.sticks hsound hastray hmembers hcalls hcreation hd⟩
  refine ⟨⟨fun hhealed => ?_, hheals⟩, hsticks⟩
  exact Classical.byContradiction fun hno => (hsticks hno).2.1 hhealed.1

/-- A schedule in which the left cycle is run to its end after some calls of the
right one. No cycle of a blog makes more than eight calls. -/
def overtaken (before : Nat) : List Side :=
  List.replicate before .right ++ List.replicate 8 .left ++ List.replicate 8 .right

/-- The blog heals after a race in which one cycle has missed the record, but not
the distribution, of the other. -/
theorem racing_cycles_heal_iff_blog :
    let d : Descriptor := { Descriptor.blog with finalizer := .managed }
    let start := (initial []).through [.store .blog]
    let race := start.race .default .someNoon .blog .someNoon .blog (overtaken 2)
    race.left.isDone = true ∧ race.right.isDone = true ∧
      race.world.Heals .default .someNoon d := by
  intro d start race
  have hblog : start.Triggers .default .someNoon "public" .blog :=
    ⟨rfl, by decide +kernel, Outcome.isOk_iff.1 (by decide +kernel),
      Outcome.isOk_iff_exists.1 (by decide +kernel)⟩
  have hd : race.world.Triggers .default .someNoon "public" d :=
    ⟨rfl, by decide +kernel, Outcome.isOk_iff.1 (by decide +kernel),
      Outcome.isOk_iff_exists.1 (by decide +kernel)⟩
  have hleft : race.left.isDone = true := by decide +kernel
  have hright : race.right.isDone = true := by decide +kernel
  obtain ⟨hiff, htwo⟩ := racing_cycles_heal_iff [] [] [.store .blog] rfl rfl rfl rfl hblog hblog
    (overtaken 2) rfl hleft hright hd
  have hone : ¬ start.distributions.issued + 1 < race.world.distributions.issued := by
    decide +kernel
  exact ⟨hleft, hright, hiff.2 (Classical.byContradiction fun hno => hone (htwo hno).1)⟩

/-- **A race can leave a group stuck**: both cycles have found no distribution, the
second one created takes the place of the first, and the record of the first
stays. The next cycle asks for a distribution that is gone. -/
theorem racing_creations_stick :
    let d : Descriptor := { Descriptor.blog with finalizer := .managed }
    let start := (initial []).through [.store .blog]
    let race := start.race .default .someNoon .blog .someNoon .blog (overtaken 3)
    race.left.isDone = true ∧ race.right.isDone = true ∧
      race.world.descriptors.get? d.reference = some d ∧ d.validate.isOk = true ∧
      (race.world.desired .default .someNoon d.group).isOk = true ∧
      (race.world.identityAt d.group).map (·.id) = some "E000000000002" ∧
      (race.world.statuses.get? d.group).bind (·.distributionId) = some "E000000000001" ∧
      (race.world.run (reconcile .default .someNoon d)).1.isOk = false := by
  decide +kernel

end World

end RouteConvergence
