/-
RouteConvergence.Proofs.PreviewedModels — a preview tells what cycles store.

A preview builds the model of a group once, from the routes in the order of
the file. The cycles of all groups run beside each other, one for every route,
removed ones too; each of them lists the stored routes anew, puts its own in
their place, and creates the distribution or brings it up to date. Both ways
lead to the same model, since both build it from the same members.

* `World.desired_holding` — the stored routes of a file ask for what the file
  asks for.
* `preview_eq_some` — what a preview that shows a model has found out.
* `cyclesBeside` — the cycles of all groups, each in an order of its own, beside
  a zone that holds anything.
* `cyclesBeside_finished` — where they all end, whatever the schedule.
* `preview_foretells` — the distribution of a previewed group is there after a
  simulation, and after any such cycles, and is the model that was shown.
-/
import RouteConvergence.Proofs.Accounts
import RouteConvergence.Proofs.CommutingGroups

namespace RouteConvergence

variable {settings : Settings} {now : Instant} {directory : List Certificate}
  {ds : List Descriptor} {group : GroupName} {model : Model}

/-! ## Routes that are stored -/

namespace World

/-- What is stored are the routes of the file. -/
theorem mem_values_holding (honce : ds.Pairwise fun d e => d.reference ≠ e.reference)
    (directory : List Certificate) (d : Descriptor) :
    d ∈ (holding directory ds).descriptors.values ↔ d ∈ ds :=
  ⟨mem_of_stored, fun hd => (SortedMap.mem_values _ _).2 ⟨_, get?_foldl_put honce hd _⟩⟩

/-- **The order of the file does not show** in what its routes ask for. -/
theorem desired_holding (honce : ds.Pairwise fun d e => d.reference ≠ e.reference)
    (settings : Settings) (now : Instant) (directory : List Certificate) (group : GroupName) :
    (holding directory ds).desired settings now group =
      Group.model settings now directory group ds := by
  have hordered := (sound_holding directory ds).descriptors.values_ordered
  have hmembers : Group.membersOf group (holding directory ds).descriptors.values =
      Group.membersOf group ds :=
    Group.membersOf_congr (.of_byReference hordered) fun d _ => mem_values_holding honce directory d
  have hcertificates : (holding directory ds).certificates = directory := by
    rw [holding_eq]
    rfl
  rw [desired, hcertificates, Group.model, Group.model, Group.aggregate, Group.aggregate, hmembers]

theorem account_holding (directory : List Certificate) (ds : List Descriptor)
    (group : GroupName) : (holding directory ds).account group = ⟨none, none⟩ := by
  rw [holding_eq]
  rfl

end World

/-! ## Previews -/

theorem validate_of_forM (h : ds.forM Descriptor.validate = .ok ()) :
    ∀ d ∈ ds, d.validate = .ok () := by
  induction ds with
  | nil => exact fun d hd => absurd hd List.not_mem_nil
  | cons d rest ih =>
    replace h : (d.validate >>= fun _ => rest.forM Descriptor.validate) = .ok () := h
    cases hvalid : d.validate with
    | error failure =>
      rw [hvalid] at h
      cases h
    | ok _ =>
      rw [hvalid] at h
      intro e he
      rcases List.mem_cons.1 he with rfl | he
      · exact hvalid
      · exact ih h e he

/-- **A preview that shows a model** has found every route of the group well-formed
and at least one that shapes it. -/
theorem preview_eq_some (h : preview settings now directory ds group = .ok (some model)) :
    (∀ d ∈ ds.filter (·.group == group), d.validate = .ok ()) ∧
      Group.model settings now directory group ds = .ok model ∧
      Group.membersOf group ds ≠ [] := by
  unfold preview at h
  cases hvalid : (ds.filter (·.group == group)).forM Descriptor.validate with
  | error failure =>
    rw [hvalid] at h
    cases h
  | ok _ =>
    rw [hvalid] at h
    refine ⟨validate_of_forM hvalid, ?_⟩
    cases hgathered : Group.aggregate group ds with
    | error failure =>
      rw [hgathered] at h
      cases h
    | ok gathered =>
      obtain ⟨-, hmembers⟩ := Group.aggregate_eq_ok hgathered
      rw [hgathered] at h
      replace h : (if gathered.isEmpty then .ok none else
        Model.build settings now directory gathered none >>= fun m => .ok (some m)) =
          Except.ok (some model) := h
      rw [Group.isEmpty, hmembers] at h
      split at h
      · cases h
      · rename_i hsome
        rw [Group.model, hgathered]
        cases hbuilt : Model.build settings now directory gathered none with
        | error failure =>
          rw [hbuilt] at h
          cases h
        | ok built =>
          rw [hbuilt] at h
          cases h
          exact ⟨hbuilt, fun hnil => hsome (List.isEmpty_iff.2 hnil)⟩

/-- Where creations are enabled, a cycle for a well-formed route of a group with
members puts the distribution there. -/
theorem Account.puts_of_creation {d : Descriptor} (hcreation : settings.creation = true)
    (hvalid : d.validate = .ok ()) (hempty : model.isEmpty = false) :
    Account.Puts settings (.ok model) d := by
  have hallowed : Cycle.creationBarred settings model = false := by
    simp [Cycle.creationBarred, hcreation]
  refine ⟨model, ?_, hempty⟩
  rw [Cycle.approved, hvalid]
  show (if Cycle.creationBarred settings model then _ else Except.ok model) = Except.ok model
  rw [hallowed]
  rfl

/-! ## Cycles beside any zone -/

/-- The cycles of all groups under way in stores that hold the routes, beside a zone
that holds anything and may fail at any names; each group goes through its
routes in an order of its own. -/
def cyclesBeside (zone : Zone) (order : GroupName → List Descriptor) (settings : Settings)
    (clock : Reference → Instant) (directory : List Certificate) (ds : List Descriptor) :
    Fleet GroupName (List RouteFailure) where
  world := { World.holding directory ds with zone := zone }
  procedures group := reconcileEachAt settings clock (order group)

variable {zone : Zone} {order : GroupName → List Descriptor} {clock : Reference → Instant}

/-- **When all cycles are done**, every group has an account that they lead to,
whatever the schedule and whatever became of the names. -/
theorem cyclesBeside_finished (honce : ds.Pairwise fun d e => d.reference ≠ e.reference)
    (horder : ∀ group, (order group).Perm (ds.filter (·.group == group)))
    (hclock : ∀ r, Certificate.usable (clock r) directory = Certificate.usable now directory)
    {schedule : List GroupName}
    (hdone : ((cyclesBeside zone order settings clock directory ds).run schedule).Finished)
    (group : GroupName) :
    Account.Leads settings group ((World.holding directory ds).desired settings now group)
      (order group) ⟨none, none⟩
      (((cyclesBeside zone order settings clock directory ds).run schedule).world.account
        group) := by
  let start := World.holding directory ds
  have hkept : (cyclesBeside zone order settings clock directory ds).Kept
      (Account.outlook start).contract fun group =>
      (Account.outlook start).Ends group fun _ a =>
        Account.Leads settings group (start.desired settings now group) (order group)
          ⟨none, none⟩ a := by
    intro group
    have hmem : ∀ d ∈ order group, d ∈ ds ∧ d.group = group := by
      intro d hd
      obtain ⟨hds, hgroup⟩ := List.mem_filter.1 ((horder group).mem_iff.1 hd)
      exact ⟨hds, eq_of_beq hgroup⟩
    have hholds : (Account.outlook start).Holds group ⟨none, none⟩
        { start with zone := zone } :=
      ⟨{ World.steady_holding directory ds with }, World.account_holding directory ds group⟩
    exact Account.acts_reconcileEach (World.sound_holding directory ds) (order group)
      (fun d _ => desired_congr_usable (hclock d.reference)) (fun d hd => (hmem d hd).2)
      (fun d hd => World.get?_foldl_put honce (hmem d hd).1 _)
      (Account.underway_none group _) _ hholds
  obtain ⟨failures, -, a, hleads, hholds⟩ :=
    (hkept.run (Account.outlook start).compatible schedule).finished hdone group
  have haccount : (((cyclesBeside zone order settings clock directory ds).run
      schedule).world.account group) = a := hholds.part
  rw [haccount]
  exact hleads

/-! ## What a preview foretells -/

/-- The cycles of a previewed group put its distribution there. -/
theorem stored_of_preview (honce : ds.Pairwise fun d e => d.reference ≠ e.reference)
    (hcreation : settings.creation = true)
    (hpreview : preview settings now directory ds group = .ok (some model))
    (horder : ∀ group, (order group).Perm (ds.filter (·.group == group)))
    (hclock : ∀ r, Certificate.usable (clock r) directory = Certificate.usable now directory)
    {schedule : List GroupName}
    (hdone : ((cyclesBeside zone order settings clock directory ds).run schedule).Finished) :
    ∃ identity, ((cyclesBeside zone order settings clock directory ds).run
        schedule).world.distributions.models.get? group =
      some (model.withIdentity (some identity)) := by
  obtain ⟨hvalid, hmodel, hmembers⟩ := preview_eq_some hpreview
  have hempty : model.isEmpty = false := by
    rw [(Group.modelOf hmodel).isEmpty, ← Bool.not_eq_true, List.isEmpty_iff]
    exact hmembers
  have hleads := cyclesBeside_finished honce horder hclock hdone group
  rw [World.desired_holding honce, hmodel] at hleads
  -- A member is among the routes of the group, so one of its cycles is approved of.
  obtain ⟨d, hd⟩ := List.exists_mem_of_ne_nil _ hmembers
  obtain ⟨hds, hmember⟩ := Group.isMemberOf_of_mem_membersOf hd
  have hgroup : d ∈ ds.filter (·.group == group) :=
    List.mem_filter.2 ⟨hds, beq_iff_eq.2 (Descriptor.isMemberOf_iff.1 hmember).1⟩
  have hputs := Account.puts_of_creation hcreation (hvalid d hgroup) hempty
  exact hleads.underway.stored (hleads.puts d ((horder group).mem_iff.2 hgroup) hputs)

/-- **A preview foretells what is stored.** Let a preview of a group show a model.
After a simulation of the same routes the distribution of the group is there and
is that model in every field but its identity. So it is after the cycles of all
groups in any schedule, each group going through its routes in any order, beside
a zone that holds any records and may fail at any names. Cycles may take place
at any time at which the same certificates can be used. -/
theorem preview_foretells (settings : Settings) (directory : List Certificate) {file : RouteFile}
    (hfile : file.descriptors = .ok ds) (hcreation : settings.creation = true) {now : Instant}
    (hpreview : preview settings now directory ds group = .ok (some model)) :
    (∀ later, Certificate.usable later directory = Certificate.usable now directory →
      ∃ identity, (simulate settings later directory ds).2.distributions.models.get? group =
        some (model.withIdentity (some identity))) ∧
      ∀ (zone : Zone) (order : GroupName → List Descriptor) (clock : Reference → Instant)
        (schedule : List GroupName),
        (∀ group, (order group).Perm (ds.filter (·.group == group))) →
        (∀ r, Certificate.usable (clock r) directory = Certificate.usable now directory) →
        let one := (cyclesBeside zone order settings clock directory ds).run schedule
        one.Finished → ∃ identity, one.world.distributions.models.get? group =
          some (model.withIdentity (some identity)) := by
  have honce := RouteFile.once hfile
  constructor
  · intro later hlater
    obtain ⟨schedule, failures, hdone, hsimulated⟩ :=
      simulate_scheduled settings later directory ds
    have horder : ∀ group, (((byGroup ds).get? group).getD []).Perm
        (ds.filter (·.group == group)) := fun group => by
      rw [getD_byGroup]
    have hcycles : groupCycles settings (fun _ => later) directory ds =
        cyclesBeside (World.holding directory ds).zone
          (fun group => ((byGroup ds).get? group).getD []) settings (fun _ => later) directory ds :=
      rfl
    rw [hsimulated]
    simp only [hcycles] at hdone ⊢
    exact stored_of_preview honce hcreation hpreview horder (fun _ => hlater) fun group =>
      congrArg Program.isDone (hdone group)
  · intro zone order clock schedule horder hclock one hdone
    exact stored_of_preview honce hcreation hpreview horder hclock hdone

/-- A zone in which somebody else serves the blog's name. -/
def Zone.servedElsewhere : Zone :=
  Zone.empty.insert (.aliasTo "blog.example.com" .a "elsewhere.example.net")

/-- The blog as it is previewed is stored by a simulation, and also by cycles that
take turns with those of the press room and cannot have the blog's name. -/
theorem preview_foretells_blog :
    let ds := RouteFile.blogAndPress.routes.map Manifest.normalize
    let taken := (cyclesBeside .servedElsewhere (fun group => ds.filter (·.group == group))
      .claiming (fun _ => .someNoon) [] ds).run (List.replicate 12 ["public", "press"]).flatten
    ∃ model,
      preview .claiming .someNoon [] ds "public" = .ok (some model) ∧
        model.alternateDomains = ["blog.example.com"] ∧
        (∃ identity, (simulate .claiming .someNoon [] ds).2.distributions.models.get? "public" =
          some (model.withIdentity (some identity))) ∧
        (taken.procedures "public").isDone = true ∧
        taken.world.zone.recordsAt "blog.example.com" =
          [.aliasTo "blog.example.com" .a "elsewhere.example.net"] ∧
        ∃ identity, taken.world.distributions.models.get? "public" =
          some (model.withIdentity (some identity)) := by
  intro ds taken
  have hfile : RouteFile.blogAndPress.descriptors = .ok ds := rfl
  have hshown : (preview .claiming .someNoon [] ds "public").toOption.join.map
      (·.alternateDomains) = some ["blog.example.com"] := by decide +kernel
  obtain ⟨model, hmodel, hnames⟩ := Option.map_eq_some_iff.1 hshown
  have hpreview : preview .claiming .someNoon [] ds "public" = .ok (some model) := by
    cases hresult : preview .claiming .someNoon [] ds "public" with
    | error failure =>
      rw [hresult] at hmodel
      cases hmodel
    | ok shown =>
      rw [hresult] at hmodel
      exact congrArg Except.ok (hmodel : shown = some model)
  have hdone : taken.Finished :=
    Fleet.finished_of_idle (fun group hnone => congrArg (reconcileEachAt _ _) hnone)
      (by decide +kernel)
  have hforetold := preview_foretells .claiming [] hfile rfl hpreview
  refine ⟨model, hpreview, hnames, hforetold.1 .someNoon rfl, hdone "public", by decide +kernel, ?_⟩
  exact hforetold.2 .servedElsewhere _ _ _ (fun _ => .refl _) (fun _ => rfl) hdone

end RouteConvergence
