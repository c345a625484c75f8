/-
RouteConvergence.Proofs.DroppedRecords — when the record of a group is
dropped.

A status record lists the names its group owns in the zone. Once it is gone
nobody knows any more that they are to be released, so it should go only
when it lists none. Nothing looks at the list when a record is dropped: it
goes with a cycle that reports no failure and works towards an empty model
(`World.dropped_iff`). That nothing is listed then is due to the name step,
which has released every name or has reported a failure — where names are
managed at all. Where they are not, they are not released, and the record
goes all the same (`World.record_dropped_with_name`).

* `World.namesNoted` — the names a cycle leaves on the record, read off runs
  of its two steps.
* `World.RecordFate` — what becomes of a record in one cycle, and
  `World.record_fate` that it does for every record and all settings.
-/
import RouteConvergence.Proofs.FinalizerSafety

namespace RouteConvergence

namespace World

/-- The names the record of a group lists after the two steps of a cycle. -/
def namesNoted (w : World) (settings : Settings) (d : Descriptor) (p : Cycle.Prepared) :
    SortedSet String :=
  let distribution := w.run (Cycle.syncDistribution settings p.model)
  (distribution.2.run (Cycle.syncAliasesIfEnabled settings p.model
    ((p.found d.group).setIdentity distribution.1.identity))).1.owned

/-- What becomes of the status record of a group in a cycle. -/
structure RecordFate (settings : Settings) (now : Instant) (d : Descriptor)
    (status : StatusRecord) (w : World) (result : Outcome Unit × World) : Prop where
  /-- The list of names has no part in the decision. -/
  dropped_iff : result.2.statuses.get? d.group = none ↔ ∃ p, w.Passes settings now d p ∧
    result.1 = .ok () ∧ p.model.isEmpty = true ∧ settings.deletion = true
  namesNoted : settings.aliasing.enabled = true → result.2.statuses.get? d.group = none →
    ∃ p, w.Passes settings now d p ∧ (w.namesNoted settings d p).toList = []
  released : settings.aliasing.enabled = true → result.2.statuses.get? d.group = none →
    ∀ name ∈ status.aliases.toList,
      Zone.Unclaimed settings.aliasing.token (result.2.zone.recordsAt name)
  unmanaged : settings.aliasing.enabled = false → result.2.zone = w.zone ∧
    ∀ p, w.Passes settings now d p → w.namesNoted settings d p = status.aliases

variable {w : World} {settings : Settings} {now : Instant} {d : Descriptor} {p : Cycle.Prepared}

theorem namesNoted_eq : w.namesNoted settings d p = (w.aliasSync settings d p).1.owned := by
  unfold namesNoted
  simp only [run_syncDistribution, run_syncAliasesIfEnabled]
  rfl

/-- A cycle answers without a failure exactly if there was none on the way. -/
theorem reconcile_ok_iff (hp : w.prepared settings now d = .ok p) :
    (w.run (reconcile settings now d)).1 = .ok () ↔ w.failuresAfter settings now d p = [] := by
  rw [run_reconcile_converged hp]
  split
  · next hnone => exact iff_of_true rfl hnone
  · next hsome =>
    refine iff_of_false ?_ hsome
    intro hok
    cases hok

/-! ## The decision -/

/-- **When a record is dropped**, whatever it lists. -/
theorem dropped_iff (hstatuses : w.statuses.FiledBy (·.group)) {status : StatusRecord}
    (hstatus : w.statuses.get? d.group = some status) :
    (w.run (reconcile settings now d)).2.statuses.get? d.group = none ↔
      ∃ p, w.Passes settings now d p ∧ (w.run (reconcile settings now d)).1 = .ok () ∧
        p.model.isEmpty = true ∧ settings.deletion = true := by
  cases hp : w.prepared settings now d with
  | error stop =>
    have hkept : (w.run (reconcile settings now d)).2.statuses = w.statuses := by
      rw [run_reconcile_stopped hp]
      rfl
    rw [hkept, hstatus]
    refine iff_of_false (Option.some_ne_none _) ?_
    rintro ⟨p, hpasses, -⟩
    cases hp.symm.trans (passes_iff.1 hpasses)
  | ok p =>
    obtain ⟨events, hworld⟩ := exists_told_converged hp
    have hrecords : (w.run (reconcile settings now d)).2.statuses =
        if (w.failuresAfter settings now d p).isEmpty && p.model.isEmpty && settings.deletion
        then w.statuses.erase d.group
        else w.statuses.insert d.group (w.recordAfter settings now d p) := by
      rw [hworld, failuresAfter_eq hstatuses hp]
      exact congrArg Prod.snd (recorded_eq hstatuses hp)
    have hclean : (w.failuresAfter settings now d p).isEmpty = true ↔
        (w.run (reconcile settings now d)).1 = .ok () :=
      List.isEmpty_iff.trans (reconcile_ok_iff hp).symm
    rw [hrecords]
    split
    · next hdrop =>
      rw [Bool.and_eq_true, Bool.and_eq_true, hclean, and_assoc] at hdrop
      exact iff_of_true (SortedMap.get?_erase_self _ _) ⟨p, passes_iff.2 hp, hdrop⟩
    · next hkeep =>
      rw [Bool.and_eq_true, Bool.and_eq_true, hclean, and_assoc] at hkeep
      rw [SortedMap.get?_insert_self]
      refine iff_of_false (Option.some_ne_none _) ?_
      rintro ⟨other, hpasses, hdrop⟩
      cases hp.symm.trans (passes_iff.1 hpasses)
      exact hkeep hdrop

/-! ## The names of a record that is dropped -/

/-- An empty model has no names. -/
theorem domains_of_isEmpty (hp : w.prepared settings now d = .ok p)
    (hempty : p.model.isEmpty = true) : p.model.alternateDomains = [] := by
  obtain ⟨-, model, identity, hwanted, -, -, rfl⟩ := prepared_eq_ok_iff.1 hp
  exact (Group.modelOf hwanted).domains_eq_nil hempty

/-- **No name is left** by a name step without a failure that wants none, neither
on the record nor with the token in the zone. -/
theorem names_released (hzone : w.zone.Filed) (henabled : settings.aliasing.enabled = true)
    (hnames : p.model.alternateDomains = [])
    (hsynced : (w.aliasSync settings d p).1.failures = []) :
    (w.aliasSync settings d p).1.owned.toList = [] ∧
      ∀ name ∈ (p.found d.group).aliases.elems,
        Zone.Unclaimed settings.aliasing.token
          ((w.aliasSync settings d p).2.recordsAt name) := by
  have hspec : w.zone.NamesSynced settings.aliasing.token p.model (w.identified settings d p)
      (w.aliasSync settings d p) := Zone.syncAliases_spec hzone henabled
  have hunwanted : ∀ name, name ∉ p.model.alternateDomains := by simp [hnames]
  have hreleased := (hspec.failures.1 hsynced).2
  rw [identified_aliases] at hreleased
  refine ⟨List.eq_nil_iff_forall_not_mem.2 fun name howned => ?_, fun name hname => ?_⟩
  · by_cases hlisted : name ∈ (p.found d.group).aliases.elems
    · exact ((hspec.released name hlisted (hunwanted name)).2.1 howned)
        (hreleased name hlisted (hunwanted name))
    · exact (hspec.elsewhere name hlisted (hunwanted name)).2 howned
  · rw [(hspec.released name hname (hunwanted name)).1]
    exact Zone.unclaimed_of_releasing hzone (hreleased name hname (hunwanted name))

/-- **What becomes of a status record.** In every world whose stores file
things where they belong, for all settings, every record and every descriptor:
a cycle drops the record of its group only if it reports no failure, works
towards an empty model and may delete. If names are managed, the record then
lists no name any more, and no name it listed holds the token. If they are
not, zone and list stay as they are, and do not keep the record. -/
theorem record_fate (w : World) (hstatuses : w.statuses.FiledBy (·.group))
    (hzone : w.zone.Filed) (settings : Settings) (now : Instant) (d : Descriptor)
    (status : StatusRecord) (hstatus : w.statuses.get? d.group = some status) :
    RecordFate settings now d status w (w.run (reconcile settings now d)) := by
  -- A record that is dropped has been through a name step that left no name.
  have hclean : settings.aliasing.enabled = true →
      (w.run (reconcile settings now d)).2.statuses.get? d.group = none →
        ∃ p, w.prepared settings now d = .ok p ∧ (w.aliasSync settings d p).1.owned.toList = [] ∧
          ∀ name ∈ status.aliases.toList, Zone.Unclaimed settings.aliasing.token
            ((w.aliasSync settings d p).2.recordsAt name) := by
    intro henabled hgone
    obtain ⟨p, hpasses, hok, hempty, -⟩ := (dropped_iff hstatuses hstatus).1 hgone
    have hp := passes_iff.1 hpasses
    have hnone := (reconcile_ok_iff hp).1 hok
    rw [failuresAfter_eq hstatuses hp, stepFailures, List.append_eq_nil_iff,
      List.append_eq_nil_iff] at hnone
    have hreleased := names_released hzone henabled (domains_of_isEmpty hp hempty) hnone.1.2
    rw [found_eq hp hstatus] at hreleased
    exact ⟨p, hp, hreleased⟩
  refine ⟨dropped_iff hstatuses hstatus, ?_, ?_, ?_⟩
  · intro henabled hgone
    obtain ⟨p, hp, howned, -⟩ := hclean henabled hgone
    exact ⟨p, passes_iff.2 hp, by rwa [namesNoted_eq]⟩
  · intro henabled hgone
    obtain ⟨p, hp, -, hreleased⟩ := hclean henabled hgone
    obtain ⟨events, hworld⟩ := exists_told_converged hp
    rw [hworld]
    exact hreleased
  · intro hdisabled
    constructor
    · cases hp : w.prepared settings now d with
      | error stop =>
        rw [run_reconcile_stopped hp]
        rfl
      | ok p =>
        obtain ⟨events, hworld⟩ := exists_told_converged hp
        rw [hworld]
        exact congrArg Prod.snd (aliasSync_disabled hdisabled)
    · intro p hpasses
      rw [namesNoted_eq, aliasSync_disabled hdisabled, found_eq (passes_iff.1 hpasses) hstatus]

/-- The blog is removed while names are managed: its record goes, and its name
has been released. While the zone takes no changes at the name, it stays. -/
theorem record_fate_blog :
    let d : Descriptor := { Descriptor.blog with beingRemoved := true, finalizer := .managed }
    let w := (seeded [] []).through [.store .blog, .cycle .claiming .someNoon .blog, .store d]
    ∃ status, w.statuses.get? d.group = some status ∧
      status.aliases.toList = ["blog.example.com"] ∧
      (∀ names, RecordFate .claiming .someNoon d status (w.failingAt [] names)
        ((w.failingAt [] names).run (reconcile .claiming .someNoon d))) ∧
      (w.run (reconcile .claiming .someNoon d)).2.statuses.get? d.group = none ∧
      ((w.failingAt [] ["blog.example.com"]).run
        (reconcile .claiming .someNoon d)).2.statuses.get? d.group ≠ none := by
  intro d w
  obtain ⟨status, hstatus⟩ : ∃ status, w.statuses.get? d.group = some status :=
    Option.isSome_iff_exists.1 (by decide +kernel)
  have hlisted : (w.statuses.get? d.group).map (·.aliases.toList) = some ["blog.example.com"] := by
    decide +kernel
  rw [hstatus] at hlisted
  have hsound : ∀ names, (w.failingAt [] names).Sound := fun names =>
    sound_through [] [] [.store .blog, .cycle .claiming .someNoon .blog, .store d,
      .failures [] names]
  exact ⟨status, hstatus, Option.some.inj hlisted,
    fun names => record_fate (w.failingAt [] names) (hsound names).statuses (hsound names).zone
      .claiming .someNoon d status hstatus,
    by decide +kernel, by decide +kernel⟩

/-- **A record can be dropped with a name on it**: the blog is removed after
names are no longer managed. Its record lists the name to the end and goes,
and the name holds the token in the zone. -/
theorem record_dropped_with_name :
    let d : Descriptor := { Descriptor.blog with beingRemoved := true, finalizer := .managed }
    let w := (seeded [] []).through [.store .blog, .cycle .claiming .someNoon .blog, .store d]
    Settings.default.aliasing.enabled = false ∧
      (w.statuses.get? d.group).map (·.aliases.toList) = some ["blog.example.com"] ∧
      (∃ p, w.Passes .default .someNoon d p ∧
        (w.namesNoted .default d p).toList = ["blog.example.com"]) ∧
      (w.run (reconcile .default .someNoon d)).2.statuses.get? d.group = none ∧
      (w.run (reconcile .default .someNoon d)).2.zone.tokensAt "blog.example.com" =
        [Settings.default.aliasing.token] := by
  intro d w
  have hpasses : ((w.run (Cycle.prepare .default .someNoon d).run).1.toOption.map
      fun p => (w.namesNoted .default d p).toList) = some ["blog.example.com"] := by
    decide +kernel
  obtain ⟨p, hp, hnames⟩ := Option.map_eq_some_iff.1 hpasses
  refine ⟨rfl, by decide +kernel, ⟨p, ?_, hnames⟩, by decide +kernel, by decide +kernel⟩
  unfold Passes
  cases hrun : (w.run (Cycle.prepare .default .someNoon d).run).1 with
  | error stop =>
    rw [hrun] at hp
    cases hp
  | ok found =>
    rw [hrun] at hp
    cases hp
    rfl

end World

end RouteConvergence
