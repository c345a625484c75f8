/-
RouteConvergence.Proofs.FatalFailures — which fatal failures come before
any change.

A failure is fatal by its kind, and whether stores were changed depends on
the step that raised it. So the steps are gone through in order, each with
the kinds of failures it can raise:

* the first half (`World.prepared_failure`) — refusals, firewall conflicts
  and build faults. It only reads, so a cycle that ends there has changed
  nothing.
* the distribution step, the finalizer and the bookkeeping
  (`DistributionStore.sync_failure`, `DescriptorStore.settle_failure`,
  `StatusStore.persist_failure`) — nothing fatal.
* the name step (`Zone.syncAliases_failure`) — a conflict about a name, which
  is fatal by its kind, or nothing fatal.

Failures of the second half are combined, and several together are not
fatal. What remains is a lone conflict about a name. It comes after the
distribution was written (`DistributionStore.sync_written`), and it is the
only fatal failure that does (`World.fatal_leaves_stores_iff`).
-/
import RouteConvergence.Proofs.CombinedFailures
import RouteConvergence.Proofs.History

namespace RouteConvergence

/-! ## Conflicts about names -/

/-- A name that could not be claimed because it is in other hands. -/
def Conflict.isAboutName : Conflict → Bool
  | .ownedElsewhere _ _ | .unclaimedRecords _ => true
  | .stated _ _ | .webAclsDiffer _ _ => false

def Failure.isNameConflict : Failure → Bool
  | .conflict cause => cause.isAboutName
  | _ => false

/-- A judgement on the input: it is refused, disagrees with itself, or makes no
model. -/
def Failure.isJudgement : Failure → Bool
  | .refused _ | .build _ => true
  | .conflict cause => !cause.isAboutName
  | _ => false

theorem Failure.not_nameConflict_of_judgement {failure : Failure}
    (h : failure.isJudgement = true) : failure.isNameConflict = false := by
  cases failure <;> first | rfl | simpa [isJudgement, isNameConflict] using h

theorem Claim.of_foreign {records : List RecordSet} {domain token : String} {cause : Conflict}
    (h : Claim.of records domain token = .foreign cause) : cause.isAboutName = true := by
  unfold Claim.of at h
  split at h
  · split at h
    · cases h
    · cases h
      rfl
  · split at h
    · cases h
    · cases h
      rfl

/-! ## The first half -/

theorem Descriptor.validate_failure {d : Descriptor} {failure : Failure}
    (h : d.validate = .error failure) : failure.isJudgement = true := by
  unfold Descriptor.validate at h
  split at h
  · cases h
    rfl
  · cases h

theorem Group.aggregate_failure {name : GroupName} {ds : List Descriptor} {failure : Failure}
    (h : Group.aggregate name ds = .error failure) : failure.isJudgement = true := by
  unfold Group.aggregate at h
  dsimp only at h
  split at h
  · cases h
  · cases h
  · cases h
    rfl

theorem World.identityFound_failure {w : World} {group : GroupName} {failure : Failure}
    (h : w.identityFound group = .error failure) : failure.isJudgement = true := by
  unfold World.identityFound at h
  split at h
  · cases h
  · split at h
    · split at h
      · cases h
      · cases h
        rfl
    · rename_i other hother
      split at h
      · cases h
      · next hthere =>
        cases h
        rw [DistributionStore.arnOf_eq] at hother
        split at hother
        · cases hother
        · -- A missing distribution is no failure.
          cases hother
          exact absurd rfl hthere

theorem Draft.ofGroup_failure {settings : Settings} {group : Group} {identity : Option Identity}
    {failure : Failure} (h : Draft.ofGroup settings group identity = .error failure) :
    failure.isJudgement = true := by
  unfold Draft.ofGroup at h
  split at h
  · cases h
    rfl
  · cases h

theorem Certificate.resolve_failure {candidates : List Certificate} {domains : List String}
    {failure : Failure} (h : Certificate.resolve candidates domains = .error failure) :
    failure.isJudgement = true := by
  unfold Certificate.resolve at h
  split at h
  · cases h
  · cases h
    rfl

theorem Model.build_failure {settings : Settings} {now : Instant} {directory : List Certificate}
    {group : Group} {identity : Option Identity} {failure : Failure}
    (h : Model.build settings now directory group identity = .error failure) :
    failure.isJudgement = true := by
  unfold Model.build at h
  split at h
  · rename_i hdraft
    cases h
    exact Draft.ofGroup_failure hdraft
  · unfold Draft.finish at h
    split at h
    · cases h
    · dsimp only at h
      split at h
      · rename_i hresolved
        cases h
        exact Certificate.resolve_failure hresolved
      · cases h

/-- **A cycle that is stopped in its first half** was stopped by a judgement on
its input. -/
theorem World.prepared_judgement {w : World} {settings : Settings} {now : Instant} {d : Descriptor}
    {stop : Stop} (h : w.prepared settings now d = .error stop) :
    stop.failure.isJudgement = true := by
  simp only [World.prepared, Outcome.bind_eq_error] at h
  rcases h with h | ⟨_, -, h | ⟨group, -, h | ⟨identity, -, h | ⟨model, -, h⟩⟩⟩⟩
  · exact Descriptor.validate_failure (Stop.orTellAll_eq_error.1 h).1
  · exact Group.aggregate_failure (Stop.orTellAll_eq_error.1 h).1
  · exact World.identityFound_failure (Stop.orTellAll_eq_error.1 h).1
  · exact Model.build_failure (Stop.orTellAll_eq_error.1 h).1
  · cases hbarred : Cycle.creationBarred settings model with
    | true =>
      rw [hbarred] at h
      cases h
      rfl
    | false =>
      rw [hbarred] at h
      cases h

/-- Such a cycle has not met a name in other hands: it has not looked at a name
yet. -/
theorem World.prepared_failure {w : World} {settings : Settings} {now : Instant} {d : Descriptor}
    {stop : Stop} (h : w.prepared settings now d = .error stop) :
    stop.failure.isNameConflict = false :=
  Failure.not_nameConflict_of_judgement (prepared_judgement h)

/-! ## The second half, step by step -/

/-- A store did not do what it was asked. -/
def Failure.isBackend : Failure → Bool
  | .backend _ => true
  | _ => false

/-- A failure of a store: the call did not go through. -/
def Failure.isStoreFailure : Failure → Bool
  | .backend _ | .notFound _ _ => true
  | _ => false

theorem Failure.isStoreFailure_of_isBackend {failure : Failure} (h : failure.isBackend = true) :
    failure.isStoreFailure = true := by
  cases failure <;> first | rfl | cases h

theorem Failure.not_fatal_of_store {failure : Failure} (h : failure.isStoreFailure = true) :
    failure.isFatal = false := by
  cases failure <;> first | rfl | cases h

theorem DistributionStore.write_failure {s : DistributionStore} {model : Model} {failure : Failure}
    (h : (if model.hasIdentity then s.update model else s.create model).1 = .error failure) :
    failure.isBackend = true := by
  unfold update create at h
  dsimp only at h
  repeat' split at h
  all_goals cases h
  all_goals rfl

theorem DistributionStore.delete_failure {s : DistributionStore} {model : Model} {failure : Failure}
    (h : (s.delete model).1 = .error failure) : failure.isBackend = true := by
  rw [delete_eq] at h
  split at h
  · cases h
    rfl
  · cases h

theorem DistributionStore.sync_failure {s : DistributionStore} {settings : Settings}
    {model : Model} {failure : Failure}
    (h : (s.sync settings model).1.failure = some failure) : failure.isBackend = true := by
  unfold sync at h
  split at h
  · split at h
    · cases h
    · split at h
      · cases h
      · split at h
        · cases h
        · rename_i hdelete
          cases h
          exact delete_failure (congrArg Prod.fst hdelete)
  · split at h
    · cases h
    · rename_i hwrite
      cases h
      exact write_failure (congrArg Prod.fst hwrite)

theorem DescriptorStore.settle_failure {s : DescriptorStore} {d : Descriptor}
    {state : FinalizerState} {failure : Failure}
    (h : failure ∈ (DescriptorStore.settle s d state).1) : failure.isStoreFailure = true := by
  unfold settle setFinalizer at h
  split at h
  · exact absurd h List.not_mem_nil
  · split at h
    · exact absurd h List.not_mem_nil
    · rw [List.mem_singleton.1 h]
      rfl

theorem StatusStore.persist_failure {s : StatusStore} {settings : Settings} {model : Model}
    {status : StatusRecord} {isNew clean : Bool} {failure : Failure}
    (h : failure ∈ Cycle.failuresOf (persist s settings model status isNew clean).1) :
    failure.isStoreFailure = true := by
  unfold persist create update at h
  repeat' split at h
  all_goals first | exact absurd h List.not_mem_nil | (rw [List.mem_singleton.1 h]; rfl)

namespace Zone

theorem submit_failure {z : Zone} {batch : Batch} {failure : Failure}
    (h : (z.submit batch).1 = .error failure) : failure.isBackend = true := by
  unfold submit apply at h
  split at h
  · cases h
  · split at h
    · cases h
      rfl
    · cases h

theorem claim_failure {z : Zone} {token target : String} {entry : AliasEntry} {failure : Failure}
    (h : (z.claim token target entry).1 = .error failure) :
    failure.isBackend = true ∨ failure.isNameConflict = true := by
  unfold claim planUpsert at h
  cases hclaim : Claim.of (z.recordsAt entry.domain) entry.domain token with
  | foreign cause =>
    rw [hclaim] at h
    cases h
    exact Or.inr (Claim.of_foreign hclaim)
  | free =>
    rw [hclaim] at h
    exact Or.inl (submit_failure h)
  | ours text =>
    rw [hclaim] at h
    exact Or.inl (submit_failure h)

theorem release_failure {z : Zone} {token : String} {entry : AliasEntry} {failure : Failure}
    (h : (z.release token entry).1 = .error failure) : failure.isBackend = true := by
  unfold release at h
  split at h
  · exact submit_failure h
  · cases h

/-- A failure in a report was raised by one of the entries. -/
theorem converge_failure {one : AliasEntry → Zone → Outcome Unit × Zone} {failure : Failure} :
    ∀ {entries : List AliasEntry} {z : Zone}, failure ∈ (converge one entries z).1.failures →
      ∃ entry z', (one entry z').1 = .error failure
  | [], _, h => absurd h List.not_mem_nil
  | entry :: rest, z, h => by
    rw [converge, failures_withEntry, List.mem_append] at h
    rcases h with h | h
    · refine ⟨entry, z, ?_⟩
      cases hone : (one entry z).1 with
      | ok value =>
        rw [hone] at h
        exact absurd h List.not_mem_nil
      | error other =>
        rw [hone] at h
        rw [List.mem_singleton.1 h]
    · exact converge_failure h

/-- **The name step** is the only one to raise a fatal failure, and only if it
has a name to claim. -/
theorem syncAliases_failure {z : Zone} {settings : Settings} {model : Model}
    {status : StatusRecord} {failure : Failure}
    (h : failure ∈ (z.syncAliases settings model status).1.failures) :
    failure.isBackend = true ∨
      (failure.isNameConflict = true ∧ model.alternateDomains ≠ []) := by
  unfold syncAliases at h
  split at h
  · rw [List.mem_append] at h
    rcases h with h | h
    · unfold claimNames at h
      split at h
      · exact absurd h List.not_mem_nil
      · rename_i hwanted
        have hnames : model.alternateDomains ≠ [] := by
          intro hnil
          rw [hnil] at hwanted
          exact hwanted rfl
        split at h
        · obtain ⟨entry, z', hentry⟩ := converge_failure h
          exact (claim_failure hentry).imp id fun hconflict => ⟨hconflict, hnames⟩
        · rw [List.mem_singleton.1 h]
          exact Or.inl rfl
    · unfold releaseNames at h
      split at h
      · exact absurd h List.not_mem_nil
      · obtain ⟨entry, z', hentry⟩ := converge_failure h
        exact Or.inl (release_failure hentry)
  · exact absurd h List.not_mem_nil

end Zone

/-! ## What was written by then -/

namespace DistributionStore

/-- The store holds a model under its group, by a call that is on the log. -/
def Wrote (s : DistributionStore) (model : Model) (s' : DistributionStore) : Prop :=
  ∃ operation identity, s'.calls = s.calls ++ [(operation, model.group)] ∧
    s'.models.get? model.group = some (model.withIdentity (some identity))

theorem update_wrote {s : DistributionStore} {model synced : Model}
    (h : (s.update model).1 = .ok synced) : s.Wrote model (s.update model).2 := by
  unfold update at h ⊢
  dsimp only at h ⊢
  split
  · rename_i hfail
    rw [if_pos hfail] at h
    cases h
  · rename_i hfail
    rw [if_neg hfail] at h
    split
    · rename_i hnone
      rw [hnone] at h
      cases h
    · rename_i requested hrequested
      rw [hrequested] at h
      dsimp only at h ⊢
      split
      · rename_i hmissing
        rw [hmissing] at h
        cases h
      · exact ⟨.update, _, rfl, SortedMap.get?_insert_self _ _ _⟩

theorem create_wrote {s : DistributionStore} {model synced : Model}
    (h : (s.create model).1 = .ok synced) : s.Wrote model (s.create model).2 := by
  rw [create_eq] at h ⊢
  split
  · rename_i hfail
    rw [if_pos hfail] at h
    cases h
  · exact ⟨.create, _, rfl, SortedMap.get?_insert_self _ _ _⟩

/-- A distribution step without a failure has written the model of a group with
members. -/
theorem sync_written {s : DistributionStore} {settings : Settings} {model : Model}
    (hempty : model.isEmpty = false) (hdone : (s.sync settings model).1.failure = none) :
    s.Wrote model (s.sync settings model).2 := by
  unfold sync at hdone ⊢
  rw [if_neg (by simp [hempty])] at hdone ⊢
  cases hhas : model.hasIdentity with
  | true =>
    rw [hhas, if_pos rfl] at hdone
    rw [if_pos rfl]
    split
    · rename_i heq
      have hwrote := update_wrote (congrArg Prod.fst heq)
      rwa [heq] at hwrote
    · rename_i heq
      rw [heq] at hdone
      cases hdone
  | false =>
    rw [hhas, if_neg (by simp)] at hdone
    rw [if_neg (by simp)]
    split
    · rename_i heq
      have hwrote := create_wrote (congrArg Prod.fst heq)
      rwa [heq] at hwrote
    · rename_i heq
      rw [heq] at hdone
      cases hdone

end DistributionStore

/-! ## The failures of a cycle -/

/-- Failures that are no lists, put together: a fatal one was alone. -/
theorem Failure.combine_fatal {failures : List Failure}
    (hparts : ∀ failure ∈ failures, failure.parts = [failure])
    (hfatal : (combine failures).isFatal = true) :
    ∃ failure, failures = [failure] ∧ combine failures = failure := by
  have hflat := flatMap_parts hparts
  unfold combine at hfatal ⊢
  rw [hflat] at hfatal ⊢
  cases failures with
  | nil => cases hfatal
  | cons failure rest =>
    cases rest with
    | nil => exact ⟨failure, rfl, rfl⟩
    | cons other rest => cases hfatal

namespace World

/-- The stores hold what they held, whatever was published. -/
structure SameStores (w w' : World) : Prop where
  descriptors : w'.descriptors = w.descriptors
  distributions : w'.distributions = w.distributions
  zone : w'.zone = w.zone
  statuses : w'.statuses = w.statuses

variable {w : World} {settings : Settings} {now : Instant} {d : Descriptor} {p : Cycle.Prepared}
  {failure : Failure}

/-- What can go wrong where something is converged. -/
theorem stepFailures_kinds (h : failure ∈ w.stepFailures settings d p) :
    failure.isBackend = true ∨
      (failure.isNameConflict = true ∧ p.model.alternateDomains ≠ []) := by
  rw [stepFailures, List.mem_append, Option.mem_toList] at h
  rcases h with h | h
  · exact Or.inl (DistributionStore.sync_failure h)
  · exact Zone.syncAliases_failure h

/-- What can go wrong in the second half of a cycle. -/
theorem failuresAfter_kinds (h : failure ∈ w.failuresAfter settings now d p) :
    failure.isStoreFailure = true ∨
      (failure.isNameConflict = true ∧ p.model.alternateDomains ≠ []) := by
  rw [failuresAfter, List.mem_append, List.mem_append] at h
  rcases h with (h | h) | h
  · exact (stepFailures_kinds h).imp Failure.isStoreFailure_of_isBackend id
  · exact Or.inl (DescriptorStore.settle_failure h)
  · exact Or.inl (StatusStore.persist_failure h)

theorem parts_of_failuresAfter (h : failure ∈ w.failuresAfter settings now d p) :
    failure.parts = [failure] := by
  rcases failuresAfter_kinds h with hstore | ⟨hname, -⟩
  · cases failure <;> first | rfl | cases hstore
  · cases failure <;> first | rfl | cases hname

/-- **A fatal failure of the second half** is a conflict about a name, raised
after the distribution was written. -/
theorem fatal_written (hp : w.prepared settings now d = .ok p)
    (halone : w.failuresAfter settings now d p = [failure]) (hfatal : failure.isFatal = true) :
    failure.isNameConflict = true ∧
      w.distributions.Wrote p.model (w.distributionSync settings p).2 := by
  have hmem : failure ∈ w.failuresAfter settings now d p := by simp [halone]
  rcases failuresAfter_kinds hmem with hstore | ⟨hname, hwanted⟩
  · rw [Failure.not_fatal_of_store hstore] at hfatal
    cases hfatal
  · refine ⟨hname, ?_⟩
    have hempty : p.model.isEmpty = false := by
      obtain ⟨-, model, identity, hmodel, -, -, rfl⟩ := prepared_eq_ok_iff.1 hp
      rw [← Bool.not_eq_true]
      intro he
      exact hwanted ((Group.modelOf hmodel).domains_eq_nil he)
    refine DistributionStore.sync_written hempty ?_
    -- A failure of the distribution step would stand beside the conflict.
    cases hsync : (w.distributionSync settings p).1.failure with
    | none => exact hsync
    | some other =>
      have hother : other ∈ w.failuresAfter settings now d p := by
        simp [failuresAfter, stepFailures, hsync]
      rw [halone, List.mem_singleton] at hother
      have hstore := Failure.isStoreFailure_of_isBackend (DistributionStore.sync_failure hsync)
      rw [hother] at hstore
      rw [Failure.not_fatal_of_store hstore] at hfatal
      cases hfatal

/-- **Fatal failures and changes.** For all settings, stores and descriptors: a
cycle that ends with a fatal failure has left the stores alone exactly if the
failure is no conflict about a name. If it is one, the distribution of the group
was written before. -/
theorem fatal_leaves_stores_iff (w : World) (settings : Settings) (now : Instant) (d : Descriptor)
    (failure : Failure) (hfailed : (w.run (reconcile settings now d)).1 = .error failure)
    (hfatal : failure.isFatal = true) :
    (w.SameStores (w.run (reconcile settings now d)).2 ↔ failure.isNameConflict = false) ∧
      (failure.isNameConflict = true → ∃ model, model.group = d.group ∧
        w.distributions.Wrote model (w.run (reconcile settings now d)).2.distributions) := by
  cases hp : w.prepared settings now d with
  | error stop =>
    rw [run_reconcile_stopped hp] at hfailed ⊢
    cases hfailed
    have hname := prepared_failure hp
    refine ⟨⟨fun _ => hname, fun _ => ⟨rfl, rfl, rfl, rfl⟩⟩, fun h => ?_⟩
    rw [hname] at h
    cases h
  | ok p =>
    rw [run_reconcile_converged hp] at hfailed ⊢
    split at hfailed
    · cases hfailed
    · rename_i hsome
      cases hfailed
      obtain ⟨failure, halone, hcombine⟩ :=
        Failure.combine_fatal (fun _ h => parts_of_failuresAfter h) hfatal
      rw [hcombine] at hfatal ⊢
      obtain ⟨hname, hwrote⟩ := fatal_written hp halone hfatal
      rw [if_neg hsome, hname]
      refine ⟨⟨fun hsame => ?_, fun h => by cases h⟩, fun _ => ⟨p.model, ?_, hwrote⟩⟩
      · -- The call that wrote the distribution is on the log.
        obtain ⟨operation, -, hcalls, -⟩ := hwrote
        have hlog := hcalls.symm.trans (congrArg DistributionStore.calls hsame.distributions)
        simp at hlog
      · obtain ⟨-, model, identity, hmodel, -, -, rfl⟩ := prepared_eq_ok_iff.1 hp
        exact (Group.modelOf hmodel).group

end World

theorem Cycle.exists_of_failuresOf {α : Type} {outcome : Outcome α} {kind : Failure → Bool}
    (h : (failuresOf outcome).any kind = true) :
    ∃ failure, outcome = .error failure ∧ kind failure = true := by
  cases outcome with
  | ok value => cases h
  | error failure => exact ⟨failure, rfl, by simpa [failuresOf] using h⟩

namespace World

/-- Where creation is switched off, a second group is stopped before anything
is changed. -/
theorem fatal_leaves_stores_iff_barred :
    let settings : Settings := { Settings.claiming with creation := false }
    let w := (initial []).through [.store .blog, .cycle .claiming .someNoon .blog, .store .press]
    ∃ failure, (w.run (reconcile settings .someNoon .press)).1 = .error failure ∧
      failure.isFatal = true ∧ w.SameStores (w.run (reconcile settings .someNoon .press)).2 := by
  intro settings w
  obtain ⟨failure, hfailed, hkind⟩ : ∃ failure,
      (w.run (reconcile settings .someNoon .press)).1 = .error failure ∧
        (failure.isFatal && !failure.isNameConflict) = true :=
    Cycle.exists_of_failuresOf (by decide +kernel)
  simp only [Bool.and_eq_true, Bool.not_eq_true'] at hkind
  exact ⟨failure, hfailed, hkind.1,
    (fatal_leaves_stores_iff w _ _ .press failure hfailed hkind.1).1.2 hkind.2⟩

/-- **A fatal failure does not mean that nothing was changed**: somebody else
holds the name of the blog, and the distribution and the status record are
there all the same. -/
theorem fatal_after_creation :
    let w := (seeded [] [.txt "blog.example.com" ["somebody"]]).through [.store .blog]
    let result := w.run (reconcile .claiming .someNoon .blog)
    (∃ failure, result.1 = .error failure ∧ failure.isFatal = true) ∧
      w.distributions.models.get? "public" = none ∧
      result.2.distributions.models.get? "public" ≠ none ∧
      w.statuses.get? "public" = none ∧ result.2.statuses.get? "public" ≠ none := by
  refine ⟨Cycle.exists_of_failuresOf (by decide +kernel), ?_⟩
  decide +kernel

end World

end RouteConvergence
