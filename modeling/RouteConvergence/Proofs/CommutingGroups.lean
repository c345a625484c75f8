/-
RouteConvergence.Proofs.CommutingGroups — groups that want different names do
not get in each other's way.

The routes of a file are stored, and the cycles of every group are under way
at once, group by group in the order of the file, in one world
(`groupCycles`). Which group makes the next call is up to a schedule.

* `DomainsApart` — no two groups of some routes ask for the same name.
* `World.holding` stores — what the stores hold at the start.
* `groupCycles_finished` — when all cycles are done, every group has failed
  where it had to, and has the share its own cycles make of the start.
* `groups_commute` — so any two schedules end alike, but for the numbers of
  the distributions and for moments.
* `simulate_scheduled` — a simulation is one of the schedules.
-/
import Mathlib.Tactic.Choose
import RouteConvergence.Proofs.Renumbering
import RouteConvergence.Source.RouteFile

namespace RouteConvergence

/-! ## Routes of a file -/

/-- A file names every route once. -/
theorem RouteFile.once {file : RouteFile} {ds : List Descriptor} (h : file.descriptors = .ok ds) :
    ds.Pairwise fun d e => d.reference ≠ e.reference := by
  obtain ⟨-, -, hnone, -⟩ := RouteFile.descriptors_eq_ok h
  exact List.pairwise_map.1 (repeated?_eq_none_iff.1 hnone).1

theorem getD_byGroup (ds : List Descriptor) (group : GroupName) :
    ((byGroup ds).get? group).getD [] = ds.filter (·.group == group) := by
  have hfold : ∀ (ds : List Descriptor) (groups : SortedMap GroupName (List Descriptor)),
      ((ds.foldl addToGroup groups).get? group).getD [] =
        (groups.get? group).getD [] ++ ds.filter (·.group == group) := by
    intro ds
    induction ds with
    | nil => exact fun groups => (List.append_nil _).symm
    | cons d rest ih =>
      intro groups
      rw [List.foldl_cons, ih, addToGroup]
      by_cases hgroup : d.group = group
      · subst hgroup
        rw [SortedMap.get?_insert_self, List.filter_cons_of_pos (by simp)]
        simp
      · rw [SortedMap.get?_insert_ne _ _ (Ne.symm hgroup),
          List.filter_cons_of_neg (by simp [hgroup])]
  rw [byGroup, hfold]
  rfl

/-! ## The names of the groups -/

/-- The names the routes of a group ask for. -/
def domainsOf (ds : List Descriptor) (group : GroupName) : SortedSet String :=
  collectDomains (ds.filter (·.group == group))

/-- **No two groups ask for the same name.** -/
def DomainsApart (ds : List Descriptor) : Prop :=
  ∀ group other, group ≠ other →
    ∀ name ∈ (domainsOf ds group).elems, name ∉ (domainsOf ds other).elems

theorem mem_domainsOf {ds : List Descriptor} {group : GroupName} {name : String} :
    name ∈ (domainsOf ds group).elems ↔
      ∃ d ∈ ds, d.group = group ∧ name ∈ (collectDomains [d]).elems := by
  rw [domainsOf, mem_collectDomains]
  simp only [List.mem_filter, beq_iff_eq, and_assoc]

/-- It is enough to compare routes of different groups. -/
theorem domainsApart_iff {ds : List Descriptor} :
    DomainsApart ds ↔ ∀ d ∈ ds, ∀ e ∈ ds, d.group ≠ e.group →
      ∀ name ∈ (collectDomains [d]).elems, name ∉ (collectDomains [e]).elems := by
  constructor
  · intro h d hd e he hne name hname hname'
    exact h d.group e.group hne name (mem_domainsOf.2 ⟨d, hd, rfl, hname⟩)
      (mem_domainsOf.2 ⟨e, he, rfl, hname'⟩)
  · intro h group other hne name hname hname'
    obtain ⟨d, hd, rfl, hdname⟩ := mem_domainsOf.1 hname
    obtain ⟨e, he, rfl, hename⟩ := mem_domainsOf.1 hname'
    exact h d hd e he hne name hdname hename

/-! ## The stores at the start -/

namespace World

/-- Storing routes changes nothing else. -/
theorem foldl_put (ds : List Descriptor) (w : World) :
    ds.foldl put w = { w with descriptors := (ds.foldl put w).descriptors } := by
  induction ds generalizing w with
  | nil => rfl
  | cons d rest ih =>
    rw [List.foldl_cons, ih (w.put d)]
    rfl

/-- A reference no route has is not stored for any. -/
theorem get?_foldl_put_ne {ds : List Descriptor} {r : Reference} (h : ∀ d ∈ ds, d.reference ≠ r)
    (w : World) : (ds.foldl put w).descriptors.get? r = w.descriptors.get? r := by
  induction ds generalizing w with
  | nil => rfl
  | cons d rest ih =>
    rw [List.foldl_cons, ih fun e he => h e (List.mem_cons_of_mem d he)]
    exact SortedMap.get?_insert_ne _ _ (h d List.mem_cons_self).symm

/-- Every route is stored. -/
theorem get?_foldl_put {ds : List Descriptor}
    (honce : ds.Pairwise fun d e => d.reference ≠ e.reference) {d : Descriptor} (hd : d ∈ ds)
    (w : World) : (ds.foldl put w).descriptors.get? d.reference = some d := by
  induction ds generalizing w with
  | nil => exact absurd hd List.not_mem_nil
  | cons e rest ih =>
    obtain ⟨hne, hrest⟩ := List.pairwise_cons.1 honce
    rw [List.foldl_cons]
    rcases List.mem_cons.1 hd with rfl | hmem
    · rw [get?_foldl_put_ne fun e he => (hne e he).symm]
      exact SortedMap.get?_insert_self _ _ _
    · exact ih hrest hmem (w.put e)

/-- Nothing else is stored. -/
theorem mem_of_get?_foldl_put {ds : List Descriptor} {r : Reference} {d : Descriptor} (w : World)
    (h : (ds.foldl put w).descriptors.get? r = some d) :
    d ∈ ds ∨ w.descriptors.get? r = some d := by
  induction ds generalizing w with
  | nil => exact Or.inr h
  | cons e rest ih =>
    rcases ih (w.put e) h with hmem | hput
    · exact Or.inl (List.mem_cons_of_mem e hmem)
    · rcases SortedMap.get?_insert_eq_some hput with ⟨-, rfl⟩ | hold
      · exact Or.inl List.mem_cons_self
      · exact Or.inr hold

variable {directory : List Certificate} {ds : List Descriptor}

theorem sound_holding (directory : List Certificate) (ds : List Descriptor) :
    (holding directory ds).Sound := by
  have hput : ∀ (ds : List Descriptor) (w : World), w.Sound → (ds.foldl put w).Sound := by
    intro ds
    induction ds with
    | nil => exact fun w hw => hw
    | cons d rest ih => exact fun w hw => ih (w.put d) (hw.after (.store d))
  exact hput ds _ (sound_seeded directory [])

/-- The routes of a group that are stored are those given. -/
theorem mem_of_stored {d : Descriptor} (h : d ∈ (holding directory ds).descriptors.values) :
    d ∈ ds := by
  obtain ⟨r, hr⟩ := (SortedMap.mem_values _ _).1 h
  rcases mem_of_get?_foldl_put _ hr with hmem | hnone
  · exact hmem
  · cases hnone

theorem namesApart_holding (hapart : DomainsApart ds) : (holding directory ds).NamesApart := by
  have hnames : ∀ {group : GroupName} {name : String},
      name ∈ ((holding directory ds).namesOf group).elems → name ∈ (domainsOf ds group).elems := by
    intro group name hname
    have hordered := (sound_holding directory ds).descriptors.values_ordered
    rw [namesOf, Group.membersOf_eq hordered (.refl _)] at hname
    obtain ⟨d, hd, hdname⟩ := mem_collectDomains.1 hname
    obtain ⟨hstored, hmember⟩ := List.mem_filter.1 hd
    have hgroup := (Descriptor.isMemberOf_iff.1 hmember).1
    exact mem_domainsOf.2 ⟨d, mem_of_stored hstored, hgroup, hdname⟩
  exact fun group other hne name hname hname' =>
    hapart group other hne name (hnames hname) (hnames hname')

theorem holding_eq (directory : List Certificate) (ds : List Descriptor) :
    holding directory ds =
      { initial directory with descriptors := (holding directory ds).descriptors } :=
  foldl_put ds (initial directory)

theorem steady_holding (directory : List Certificate) (ds : List Descriptor) :
    (holding directory ds).Steady (holding directory ds) := by
  refine (sound_holding directory ds).steady ?_
  rw [holding_eq]
  rfl

theorem common_holding (directory : List Certificate) (ds : List Descriptor) :
    (holding directory ds).Common (holding directory ds) := by
  refine ⟨steady_holding directory ds, (sound_holding directory ds).zone, ?_, fun name _ => ?_⟩
  · rw [holding_eq]
    rfl
  · rw [holding_eq]
    rfl

/-- No group has anything but its routes. -/
theorem share_holding (directory : List Certificate) (ds : List Descriptor) (group : GroupName) :
    let share := (holding directory ds).share (holding directory ds) group
    share.model = none ∧ share.status = none ∧ ∀ name, share.records name = [] := by
  intro share
  have hzone : (holding directory ds).zone = .empty := by
    rw [holding_eq]
    rfl
  refine ⟨?_, ?_, fun name => ?_⟩
  · show (holding directory ds).distributions.models.get? group = none
    rw [holding_eq]
    rfl
  · show (holding directory ds).statuses.get? group = none
    rw [holding_eq]
    rfl
  · show (if name ∈ _ then (holding directory ds).zone.recordsAt name else []) = []
    rw [hzone]
    exact ite_self _

end World

/-! ## The cycles of all groups -/

/-- The cycles of all groups under way in stores that hold the routes. -/
def groupCycles (settings : Settings) (clock : Reference → Instant) (directory : List Certificate)
    (ds : List Descriptor) : Fleet GroupName (List RouteFailure) where
  world := .holding directory ds
  procedures group := reconcileEachAt settings clock (((byGroup ds).get? group).getD [])

section

variable {settings : Settings} {directory : List Certificate} {ds : List Descriptor}
  {group : GroupName}

/-- Every group starts on its way. -/
theorem underway_holding (settings : Settings) (goal : Outcome Model) :
    ((World.holding directory ds).share (.holding directory ds) group).Underway settings group
      goal := by
  obtain ⟨hmodel, hstatus, hrecords⟩ := World.share_holding directory ds group
  have hidentity : ((World.holding directory ds).share (.holding directory ds) group).identity =
      none := by
    rw [Share.identity, hmodel]
    rfl
  refine ⟨?_, fun status hsome => ?_, fun model _ => ⟨fun _ => hmodel, fun hsome => ?_,
    fun status hsome => ?_, fun name _ => Or.inl (hrecords name)⟩⟩
  · rw [Share.Recorded, hstatus, hidentity]
    rfl
  · cases hstatus.symm.trans hsome
  · rw [hidentity] at hsome
    cases hsome
  · cases hstatus.symm.trans hsome

/-- The cycles of every group are still to be gone through. -/
theorem pending_holding (honce : ds.Pairwise fun d e => d.reference ≠ e.reference)
    (directory : List Certificate) (group : GroupName) :
    Share.Pending (.holding directory ds) group
      ((World.holding directory ds).share (.holding directory ds) group)
      (ds.filter (·.group == group)) := by
  have hgroup : ∀ d ∈ ds.filter (·.group == group), d.group = group := fun d hd =>
    eq_of_beq (List.mem_filter.1 hd).2
  have hstored : ∀ d ∈ ds.filter (·.group == group),
      (World.holding directory ds).descriptors.get? d.reference = some d := fun d hd =>
    World.get?_foldl_put honce (List.mem_filter.1 hd).1 _
  refine ⟨hgroup, hstored, fun d hd => ?_, honce.sublist (List.filter_sublist)⟩
  show ((World.holding directory ds).descriptors.get? d.reference).filter _ = some d
  rw [Option.filter_eq_some_iff]
  exact ⟨hstored d hd, beq_iff_eq.2 (hgroup d hd)⟩

/-- The model a group asks for does not depend on the moment, as long as the same
certificates can be used. -/
theorem desired_congr_usable {now later : Instant}
    (h : Certificate.usable later directory = Certificate.usable now directory) :
    (World.holding directory ds).desired settings later group =
      (World.holding directory ds).desired settings now group := by
  have hcertificates : (World.holding directory ds).certificates = directory := by
    rw [World.holding_eq]
    rfl
  simp only [World.desired, Group.model, Model.build, hcertificates, h]

/-- The failures of a group. -/
def refusalsOf (settings : Settings) (now : Instant) (directory : List Certificate)
    (ds : List Descriptor) (group : GroupName) : List RouteFailure :=
  Cycle.refusals settings ((World.holding directory ds).desired settings now group)
    (ds.filter (·.group == group))

/-- The share the cycles of a group make of the start, with a number. -/
def shareOf (settings : Settings) (now : Instant) (directory : List Certificate)
    (ds : List Descriptor) (clock : Reference → Instant) (n : Nat) (group : GroupName) : Share :=
  ((World.holding directory ds).share (.holding directory ds) group).cycles settings
    ((World.holding directory ds).desired settings now group) n clock (ds.filter (·.group == group))

variable {now : Instant} {clock : Reference → Instant}

/-- **When all cycles are done**, whatever the schedule, every group has the
failures and the share that its own cycles lead to. -/
theorem groupCycles_finished (honce : ds.Pairwise fun d e => d.reference ≠ e.reference)
    (hapart : DomainsApart ds)
    (hclock : ∀ r, Certificate.usable (clock r) directory = Certificate.usable now directory)
    {schedule : List GroupName}
    (hdone : ((groupCycles settings clock directory ds).run schedule).Finished)
    (group : GroupName) :
    ((groupCycles settings clock directory ds).run schedule).procedures group =
        .done (refusalsOf settings now directory ds group) ∧
      ∃ n, Share.Holds (.holding directory ds) group
        (shareOf settings now directory ds clock n group)
        ((groupCycles settings clock directory ds).run schedule).world := by
  have hkept : (groupCycles settings clock directory ds).Kept
      (Share.contract (.holding directory ds)) fun group =>
      Share.Ends (.holding directory ds) group fun failures σ =>
        failures = refusalsOf settings now directory ds group ∧
          ∃ n, ((World.holding directory ds).share (.holding directory ds) group).Bears n ∧
            σ = shareOf settings now directory ds clock n group := by
    intro group
    show Program.Keeps _ _ (reconcileEachAt settings clock (((byGroup ds).get? group).getD [])) _
    rw [getD_byGroup]
    exact Share.acts_reconcileEach (World.sound_holding directory ds)
      (World.namesApart_holding hapart) _ (fun d _ => desired_congr_usable (hclock d.reference))
      (fun model hmodel => Group.modelOf hmodel) (underway_holding settings _)
      (pending_holding honce directory group) _ ⟨World.common_holding directory ds, rfl⟩
  obtain ⟨failures, hprocedure, σ, ⟨rfl, n, -, rfl⟩, hholds⟩ :=
    (hkept.run (Share.compatible _) schedule).finished hdone group
  exact ⟨hprocedure, n, hholds⟩

/-! ## Group after group -/

/-- Groups may go through their cycles one group after the other. -/
theorem reconcileGroups_scheduled (settings : Settings) (now : Instant) :
    ∀ (groups : List (GroupName × List Descriptor)) {f : Fleet GroupName (List RouteFailure)},
      (groups.map (·.1)).Nodup →
      (∀ e ∈ groups, f.procedures e.1 = reconcileEach settings now e.2) →
      ∃ (schedule : List GroupName) (failures : GroupName → List RouteFailure),
        f.world.run (reconcileGroups settings now (groups.map (·.2))) =
            (groups.flatMap fun e => failures e.1, (f.run schedule).world) ∧
          (∀ e ∈ groups, (f.run schedule).procedures e.1 = .done (failures e.1)) ∧
          ∀ group, group ∉ groups.map (·.1) →
            (f.run schedule).procedures group = f.procedures group
  | [], f, _, _ => ⟨[], fun _ => [], rfl, nofun, fun _ _ => rfl⟩
  | (group, members) :: rest, f, hnodup, hf => by
    obtain ⟨hfresh, hrest⟩ := List.nodup_cons.1 hnodup
    obtain ⟨k, hk⟩ := Fleet.run_alone group (hf _ List.mem_cons_self)
    let first := f.world.run (reconcileEach settings now members)
    let f' := f.run (List.replicate k group)
    have hother : ∀ other, other ≠ group → f'.procedures other = f.procedures other := by
      intro other hne
      show (f.run _).procedures other = _
      rw [hk]
      exact if_neg hne
    have hself : f'.procedures group = .done first.1 := by
      show (f.run _).procedures group = _
      rw [hk]
      exact if_pos rfl
    have hworld : f'.world = first.2 := by
      show (f.run _).world = _
      rw [hk]
    have hne : ∀ e ∈ rest, e.1 ≠ group := fun e he heq => hfresh (List.mem_map.2 ⟨e, he, heq⟩)
    obtain ⟨schedule, failures, hrun, hdone, hothers⟩ :=
      reconcileGroups_scheduled settings now rest hrest (f := f') fun e he => by
        rw [hother e.1 (hne e he)]
        exact hf e (List.mem_cons_of_mem _ he)
    let failures' : GroupName → List RouteFailure := fun other =>
      if other = group then first.1 else failures other
    have hhead : failures' group = first.1 := if_pos rfl
    have htail : ∀ e ∈ rest, failures' e.1 = failures e.1 := fun e he => if_neg (hne e he)
    refine ⟨List.replicate k group ++ schedule, failures', ?_, ?_, ?_⟩
    · show f.world.run (reconcileEach settings now members >>= fun failures =>
        reconcileGroups settings now (rest.map (·.2)) >>= fun others =>
          pure (failures ++ others)) = _
      rw [World.run_bind, World.run_bind, World.run_pure, ← hworld, hrun, Fleet.run_append,
        List.flatMap_cons, List.flatMap_congr htail, hhead]
    · intro e he
      rw [Fleet.run_append]
      rcases List.mem_cons.1 he with rfl | he
      · exact (hothers group hfresh).trans (hself.trans (congrArg Program.done hhead.symm))
      · rw [htail e he]
        exact hdone e he
    · intro other hnot
      rw [List.map_cons, List.mem_cons, not_or] at hnot
      rw [Fleet.run_append]
      exact (hothers other hnot.2).trans (hother other hnot.1)

/-- **A simulation is one of the schedules**: its stores are those of the schedule,
and its failures are those of the groups, in the order of the groups. -/
theorem simulate_scheduled (settings : Settings) (now : Instant) (directory : List Certificate)
    (ds : List Descriptor) :
    ∃ (schedule : List GroupName) (failures : GroupName → List RouteFailure),
      let f := (groupCycles settings (fun _ => now) directory ds).run schedule
      (∀ group, f.procedures group = .done (failures group)) ∧
        simulate settings now directory ds = ((byGroup ds).keys.flatMap failures, f.world) := by
  have hnodup : ((byGroup ds).entries.map (·.1)).Nodup := by
    rw [List.Nodup, List.pairwise_map]
    refine (byGroup ds).ordered.imp fun hlt heq => ?_
    rw [show compare _ _ = Ordering.eq from heq ▸ Std.ReflCmp.compare_self] at hlt
    cases hlt
  obtain ⟨schedule, failures, hrun, hdone, hothers⟩ :=
    reconcileGroups_scheduled settings now (byGroup ds).entries
      (f := groupCycles settings (fun _ => now) directory ds) hnodup fun e he => by
        have hget := (SortedMap.get?_eq_some_iff (byGroup ds) e.1 e.2).2 he
        show reconcileEachAt settings (fun _ => now) (((byGroup ds).get? e.1).getD []) = _
        rw [hget, reconcileEachAt_const]
        rfl
  let failures' : GroupName → List RouteFailure := fun group =>
    if group ∈ (byGroup ds).keys then failures group else []
  have hlisted : ∀ e ∈ (byGroup ds).entries, failures' e.1 = failures e.1 := fun e he =>
    if_pos (List.mem_map.2 ⟨e, he, rfl⟩)
  refine ⟨schedule, failures', fun group => ?_, ?_⟩
  · by_cases hmem : group ∈ (byGroup ds).keys
    · obtain ⟨e, he, rfl⟩ := List.mem_map.1 hmem
      rw [hlisted e he]
      exact hdone e he
    · -- A group without routes has nothing to do.
      have hnone : (byGroup ds).get? group = none := by
        rw [Option.eq_none_iff_forall_ne_some]
        exact fun members hget => hmem (SortedMap.mem_keys.2 ⟨members, hget⟩)
      rw [hothers group hmem, show failures' group = [] from if_neg hmem]
      show reconcileEachAt settings _ (((byGroup ds).get? group).getD []) = _
      rw [hnone]
      rfl
  · rw [SortedMap.keys, List.flatMap_map, List.flatMap_congr hlisted]
    exact hrun

/-- All cycles are done once those of the groups with routes are, if the other
groups have nothing to do. -/
theorem Fleet.finished_of_idle {f : Fleet GroupName (List RouteFailure)}
    {schedule : List GroupName}
    (hidle : ∀ group, ds.filter (·.group == group) = [] → f.procedures group = .done [])
    (h : ∀ d ∈ ds, ((f.run schedule).procedures d.group).isDone = true) :
    (f.run schedule).Finished := by
  intro group
  by_cases hgroup : ∃ d ∈ ds, d.group = group
  · obtain ⟨d, hd, rfl⟩ := hgroup
    exact h d hd
  · have hnone : ds.filter (·.group == group) = [] := by
      rw [List.filter_eq_nil_iff]
      exact fun d hd heq => hgroup ⟨d, hd, eq_of_beq heq⟩
    rw [Fleet.procedures_run_done schedule (hidle group hnone)]
    rfl

theorem finished_of_groups {schedule : List GroupName}
    (h : ∀ d ∈ ds,
      (((groupCycles settings clock directory ds).run schedule).procedures d.group).isDone = true) :
    ((groupCycles settings clock directory ds).run schedule).Finished := by
  refine Fleet.finished_of_idle (fun group hnone => ?_) h
  show reconcileEachAt settings clock (((byGroup ds).get? group).getD []) = _
  rw [getD_byGroup, hnone]
  rfl

/-! ## Two schedules -/

variable {clock' : Reference → Instant} {n : Nat}

theorem identity_holding (directory : List Certificate) (ds : List Descriptor) (group : GroupName) :
    ((World.holding directory ds).share (.holding directory ds) group).identity = none := by
  rw [Share.identity, (World.share_holding directory ds group).1]
  rfl

theorem bears_holding (directory : List Certificate) (ds : List Descriptor) (group : GroupName)
    (n : Nat) : ((World.holding directory ds).share (.holding directory ds) group).Bears n := by
  intro identity hsome
  rw [identity_holding] at hsome
  cases hsome

/-- The distribution of a group has the number that was drawn for it. -/
theorem identityAt_shareOf {w : World} {model : Model}
    (h : Share.Holds (.holding directory ds) group
      (shareOf settings now directory ds clock n group) w)
    (hmodel : w.distributions.models.get? group = some model) :
    w.distributions.identityAt group = some (DistributionStore.identityOf n) := by
  obtain ⟨k, -, hk⟩ := h.common.numbered.given group model hmodel
  have hat : w.distributions.identityAt group = some (DistributionStore.identityOf k) := by
    rw [DistributionStore.identityAt, hmodel]
    exact hk
  have hidentity : (shareOf settings now directory ds clock n group).identity =
      some (DistributionStore.identityOf k) := by
    rw [Share.identity, ← h.model]
    exact hat
  rw [hat, Share.bears_cycles _ (bears_holding directory ds group n) _ hidentity]

/-- The cycles of a group under two numbers that belong together. -/
theorem renumbered_shareOf (ρ : Nat → Nat) (n : Nat) (group : GroupName) :
    Share.Renumbered ρ (shareOf settings now directory ds clock n group)
      (shareOf settings now directory ds clock' (ρ n) group) := by
  obtain ⟨hmodel, hstatus, hrecords⟩ := World.share_holding directory ds group
  refine Share.Renumbered.cycles _ ⟨?_, ?_, fun name => ?_, rfl⟩
  · rw [hmodel]
    exact .none
  · rw [hstatus]
    exact .none
  · rw [hrecords]
    exact .nil

/-- A group without a distribution has used no number. -/
theorem shareOf_of_none (hnone : (shareOf settings now directory ds clock n group).model = none)
    (k : Nat) : shareOf settings now directory ds clock n group =
      shareOf settings now directory ds clock k group := by
  have hgroup : ∀ d ∈ ds.filter (·.group == group), d.group = group := fun d hd =>
    eq_of_beq (List.mem_filter.1 hd).2
  refine ((Share.Underway.cycles_bears (fun model hmodel => Group.modelOf hmodel) hgroup
    (underway_holding settings _) (bears_holding directory ds group n) ?_).2).symm
  intro identity hsome
  replace hsome :
      (shareOf settings now directory ds clock n group).identity = some identity := hsome
  rw [Share.identity, hnone] at hsome
  cases hsome

section

variable {w w' : World} {n' : Nat}
  (h : Share.Holds (.holding directory ds) group
    (shareOf settings now directory ds clock n group) w)
  (h' : Share.Holds (.holding directory ds) group
    (shareOf settings now directory ds clock' n' group) w')

include h h'

/-- A group has a distribution in both worlds or in none. -/
theorem models_shareOf : Option.Rel (Model.Renumbered fun _ => n')
    (w.distributions.models.get? group) (w'.distributions.models.get? group) := by
  rw [h.model, h'.model]
  exact (renumbered_shareOf (fun _ => n') n group).model

/-- A group with a distribution has its number in either world. -/
theorem identities_shareOf (hmem : group ∈ w.distributions.models.keys) :
    w.distributions.identityAt group = some (DistributionStore.identityOf n) ∧
      w'.distributions.identityAt group = some (DistributionStore.identityOf n') := by
  obtain ⟨model, hmodel⟩ := SortedMap.mem_keys.1 hmem
  have hboth := models_shareOf h h'
  rw [hmodel] at hboth
  cases hmodel' : w'.distributions.models.get? group with
  | none =>
    rw [hmodel'] at hboth
    cases hboth
  | some model' => exact ⟨identityAt_shareOf h hmodel, identityAt_shareOf h' hmodel'⟩

/-- **The shares of a group differ by any renumbering** that takes the one number
to the other, if there is a distribution that bears them. -/
theorem renumbered_shares {ρ : Nat → Nat}
    (hρ : group ∈ w.distributions.models.keys → ρ n = n') :
    Share.Renumbered ρ (shareOf settings now directory ds clock n group)
      (shareOf settings now directory ds clock' n' group) := by
  have hrenumbered : Share.Renumbered ρ (shareOf settings now directory ds clock n group)
      (shareOf settings now directory ds clock' (ρ n) group) := renumbered_shareOf ρ n group
  cases hmodel : w.distributions.models.get? group with
  | some model =>
    rw [hρ (SortedMap.mem_keys.2 ⟨model, hmodel⟩)] at hrenumbered
    exact hrenumbered
  | none =>
    have hboth := models_shareOf h h'
    rw [hmodel, h'.model] at hboth
    have hnone : (shareOf settings now directory ds clock' n' group).model = none := by
      cases hshare : (shareOf settings now directory ds clock' n' group).model with
      | none => rfl
      | some model =>
        rw [hshare] at hboth
        cases hboth
    rw [shareOf_of_none hnone (ρ n)]
    exact hrenumbered

end

/-- **Groups commute.** The routes of a file, whose groups ask for different names,
are stored, and the cycles of all groups are run beside each other, route after
route within a group. However the calls of different groups are interleaved, the
stores end the same, but for a permutation of the numbers of distributions and
the moments of the records, and every group has the same failures. Cycles may
take place at any time at which the same certificates can be used. -/
theorem groups_commute (settings : Settings) (directory : List Certificate) {file : RouteFile}
    (hfile : file.descriptors = .ok ds) (hapart : DomainsApart ds) {now : Instant}
    {clock clock' : Reference → Instant}
    (hclock : ∀ r, Certificate.usable (clock r) directory = Certificate.usable now directory)
    (hclock' : ∀ r, Certificate.usable (clock' r) directory = Certificate.usable now directory)
    {schedule schedule' : List GroupName}
    (hdone : ((groupCycles settings clock directory ds).run schedule).Finished)
    (hdone' : ((groupCycles settings clock' directory ds).run schedule').Finished) :
    let one := (groupCycles settings clock directory ds).run schedule
    let other := (groupCycles settings clock' directory ds).run schedule'
    (∃ ρ : Equiv.Perm Nat, World.Renumbered ρ one.world other.world) ∧
      ∀ group, ∃ failures,
        one.procedures group = .done failures ∧ other.procedures group = .done failures := by
  intro one other
  have honce := RouteFile.once hfile
  choose hprocedures number hholds using
    fun group => groupCycles_finished honce hapart hclock hdone group
  choose hprocedures' number' hholds' using
    fun group => groupCycles_finished honce hapart hclock' hdone' group
  refine ⟨?_, fun group => ⟨_, hprocedures group, hprocedures' group⟩⟩
  -- Numbers belong together if one group has them, and no two groups share one.
  have hmatch : ∀ i ∈ one.world.distributions.models.keys,
      ∀ j ∈ one.world.distributions.models.keys,
        (number i = number j ↔ number' i = number' j) := by
    intro i hi j hj
    obtain ⟨hone, hother⟩ := identities_shareOf (hholds i) (hholds' i) hi
    obtain ⟨hone', hother'⟩ := identities_shareOf (hholds j) (hholds' j) hj
    constructor
    · intro hsame
      rw [(hholds i).common.numbered.distinct i j _ hone (hsame ▸ hone')]
    · intro hsame
      rw [(hholds' i).common.numbered.distinct i j _ hother (hsame ▸ hother')]
  obtain ⟨ρ, hρ⟩ := exists_renumbering _ number number' hmatch
  exact ⟨ρ, World.renumbered_of_shares hholds hholds' fun group =>
    renumbered_shares (hholds group) (hholds' group) (hρ group)⟩

/-- A file with a route of a blog and a route of its press room, in a group and
under a name of its own each. -/
def RouteFile.blogAndPress : RouteFile where
  routes := [
    { (default : Manifest) with
      scope := "web", name := "blog", group := "public", originHost := some "blog.internal"
      paths := [⟨"/", .subtree⟩], alternateDomains := ["blog.example.com"] },
    { (default : Manifest) with
      scope := "web", name := "press", group := "press", originHost := some "press.internal"
      paths := [⟨"/", .subtree⟩], alternateDomains := ["Press.example.com"] }]
  annotatedRoutes := []

/-- The two groups take turns, or the press room goes first; the distributions of
the groups change their numbers. -/
theorem groups_commute_press :
    let ds := RouteFile.blogAndPress.routes.map Manifest.normalize
    let turns := (List.replicate 12 ["public", "press"]).flatten
    let pressFirst := List.replicate 12 "press" ++ List.replicate 12 "public"
    let one := (groupCycles .claiming (fun _ => .someNoon) [] ds).run turns
    let other := (groupCycles .claiming (fun _ => ⟨⟨2025, 6, 2⟩, 0, 0⟩) [] ds).run pressFirst
    one.world.distributions.identityAt "public" = some (DistributionStore.identityOf 1) ∧
      other.world.distributions.identityAt "public" = some (DistributionStore.identityOf 2) ∧
      (∃ ρ : Equiv.Perm Nat, World.Renumbered ρ one.world other.world) ∧
      ∀ group, ∃ failures,
        one.procedures group = .done failures ∧ other.procedures group = .done failures := by
  intro ds turns pressFirst one other
  have hfile : RouteFile.blogAndPress.descriptors = .ok ds := rfl
  have hapart : DomainsApart ds := domainsApart_iff.2 (by decide +kernel)
  have hdone : one.Finished := finished_of_groups (by decide +kernel)
  have hdone' : other.Finished := finished_of_groups (by decide +kernel)
  have hclock : ∀ _ : Reference, Certificate.usable .someNoon [] =
      Certificate.usable .someNoon [] := fun _ => rfl
  have hclock' : ∀ _ : Reference, Certificate.usable ⟨⟨2025, 6, 2⟩, 0, 0⟩ [] =
      Certificate.usable .someNoon [] := fun _ => rfl
  refine ⟨by decide +kernel, by decide +kernel, ?_⟩
  exact groups_commute .claiming [] hfile hapart hclock hclock' hdone hdone'

end

end RouteConvergence
