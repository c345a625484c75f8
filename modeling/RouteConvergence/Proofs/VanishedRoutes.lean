/-
RouteConvergence.Proofs.VanishedRoutes — what a cycle reports as missing.

A failure that says something is not there is meant as an answer, not as a
failure of a cycle. Three calls of a cycle can give it, and each is dealt
with elsewhere:

* the resource name of a group without a distribution: the cycle goes on
  without an identity, so that no judgement of the first half is of this
  kind (`World.prepared_judgement`);
* the replacement of a status record: it is only asked for where a record
  was found (`World.recorded_eq`);
* the finalizer of a route that has gone from the source in the meantime:
  its answer is collected like any failure (`DescriptorStore.settle_failures`).

So a cycle can report one thing as missing, the route that set it off, and
`World.missing_reported_iff` says when it does.
-/
import RouteConvergence.Proofs.FatalFailures
import RouteConvergence.Proofs.FinalizerSafety

namespace RouteConvergence

/-! ## Kinds of failures -/

namespace Failure

variable {failure : Failure}

theorem not_notFound_of_judgement (h : failure.isJudgement = true) :
    failure.isNotFound = false := by
  cases failure <;> first | rfl | cases h

theorem not_notFound_of_backend (h : failure.isBackend = true) : failure.isNotFound = false := by
  cases failure <;> first | rfl | cases h

theorem not_notFound_of_nameConflict (h : failure.isNameConflict = true) :
    failure.isNotFound = false := by
  cases failure <;> first | rfl | cases h

theorem parts_of_judgement (h : failure.isJudgement = true) : failure.parts = [failure] := by
  cases failure <;> first | rfl | cases h

end Failure

/-! ## The finalizer -/

/-- **A finalizer cannot be noted** for a route that is not there, and only
then. -/
theorem DescriptorStore.settle_failures (s : DescriptorStore) (d : Descriptor)
    (state : FinalizerState) :
    (DescriptorStore.settle s d state).1 =
      if s.get? d.reference = none ∧ state ≠ d.finalizer then
        [.notFound "descriptor" d.reference.text]
      else [] := by
  unfold settle setFinalizer
  by_cases hstate : state = d.finalizer
  · rw [if_pos hstate, if_neg (fun h => h.2 hstate)]
  · rw [if_neg hstate]
    cases hstored : s.get? d.reference with
    | none =>
      rw [if_pos ⟨rfl, hstate⟩]
      rfl
    | some stored =>
      rw [if_neg (fun h => nomatch h.1)]
      rfl

namespace World

variable {w : World} {settings : Settings} {now : Instant} {d : Descriptor} {p : Cycle.Prepared}

/-- A copy of a route carries the finalizer its cycle ends with if it is
released exactly where its removal went through. -/
theorem finalizerAfter_eq_iff :
    Cycle.finalizerAfter d (w.stepFailures settings d p) = d.finalizer ↔
      (d.finalizer = .released ↔ d.beingRemoved = true ∧ w.StepsSucceed settings d p) := by
  rw [← stepFailures_eq_nil_iff, ← finalizerAfter_eq_released_iff]
  cases d.finalizer <;> cases Cycle.finalizerAfter d (w.stepFailures settings d p) <;> simp

/-- Converging something reports nothing as missing. -/
theorem stepFailures_notFound {failure : Failure} (h : failure ∈ w.stepFailures settings d p) :
    failure.isNotFound = false := by
  rcases stepFailures_kinds h with hbackend | ⟨hname, -⟩
  · exact Failure.not_notFound_of_backend hbackend
  · exact Failure.not_notFound_of_nameConflict hname

/-! ## The whole cycle -/

/-- What a cycle reports is what stopped it, or the failures of its second
half. -/
theorem parts_of_reported {failure : Failure}
    (h : (w.run (reconcile settings now d)).1 = .error failure) :
    (∃ stop, w.prepared settings now d = .error stop ∧ failure.parts = [stop.failure]) ∨
      ∃ p, w.prepared settings now d = .ok p ∧
        failure.parts = w.failuresAfter settings now d p := by
  cases hp : w.prepared settings now d with
  | error stop =>
    rw [run_reconcile_stopped hp] at h
    cases h
    exact Or.inl ⟨stop, rfl, Failure.parts_of_judgement (prepared_judgement hp)⟩
  | ok p =>
    rw [run_reconcile_converged hp] at h
    split at h
    · cases h
    · cases h
      have hflat : (w.failuresAfter settings now d p).flatMap Failure.parts =
          w.failuresAfter settings now d p :=
        Failure.flatMap_parts fun _ hf => parts_of_failuresAfter hf
      refine Or.inr ⟨p, rfl, ?_⟩
      rw [Failure.parts_combine, hflat]
      rw [hflat]
      exact fun _ hf => parts_of_failuresAfter hf

/-- Failures of the second half are reported. -/
theorem reported_of_failuresAfter (hp : w.prepared settings now d = .ok p)
    (hsome : w.failuresAfter settings now d p ≠ []) :
    ∃ failure, (w.run (reconcile settings now d)).1 = .error failure := by
  rw [run_reconcile_converged hp, if_neg hsome]
  exact ⟨_, rfl⟩

/-- **A cycle reports one thing as missing, its own route**, and does so exactly
if the route is not stored any more, the cycle gets through its checks, and
the copy it was given does not carry the finalizer it would note: it is held
although its removal went through, or it is not held and there is something
left to do. Status records have to be filed under their groups, as all calls
file them. -/
theorem missing_reported_iff (w : World) (hstatuses : w.statuses.FiledBy (·.group))
    (settings : Settings) (now : Instant) (d : Descriptor) :
    ((∃ failure, (w.run (reconcile settings now d)).1 = .error failure ∧
        ∃ part ∈ failure.parts, part.isNotFound = true) ↔
      w.descriptors.get? d.reference = none ∧ ∃ p, w.Passes settings now d p ∧
        ¬ (d.finalizer = .released ↔ d.beingRemoved = true ∧ w.StepsSucceed settings d p)) ∧
      ∀ failure, (w.run (reconcile settings now d)).1 = .error failure →
        ∀ part ∈ failure.parts, part.isNotFound = true →
          part = .notFound "descriptor" d.reference.text := by
  have hmissing : ∀ p, w.prepared settings now d = .ok p →
      ∀ part ∈ w.failuresAfter settings now d p, part.isNotFound = true →
        part ∈ (w.settled settings d p).1 := by
    intro p hp part hpart hkind
    rw [failuresAfter_eq hstatuses hp, List.mem_append] at hpart
    refine hpart.resolve_left fun hstep => ?_
    rw [stepFailures_notFound hstep] at hkind
    cases hkind
  have hreported : ∀ failure, (w.run (reconcile settings now d)).1 = .error failure →
      ∀ part ∈ failure.parts, part.isNotFound = true →
        ∃ p, w.prepared settings now d = .ok p ∧ part ∈ (w.settled settings d p).1 := by
    intro failure hfailed part hpart hkind
    rcases parts_of_reported hfailed with ⟨stop, hp, hparts⟩ | ⟨p, hp, hparts⟩
    · rw [hparts, List.mem_singleton] at hpart
      rw [hpart, Failure.not_notFound_of_judgement (prepared_judgement hp)] at hkind
      cases hkind
    · rw [hparts] at hpart
      exact ⟨p, hp, hmissing p hp part hpart hkind⟩
  refine ⟨⟨?_, ?_⟩, ?_⟩
  · rintro ⟨failure, hfailed, part, hpart, hkind⟩
    obtain ⟨p, hp, hsettled⟩ := hreported failure hfailed part hpart hkind
    rw [settled, DescriptorStore.settle_failures] at hsettled
    split at hsettled
    · next hgone => exact ⟨hgone.1, p, passes_iff.2 hp, mt finalizerAfter_eq_iff.2 hgone.2⟩
    · exact absurd hsettled List.not_mem_nil
  · rintro ⟨hgone, p, hpasses, hfinalizer⟩
    have hp := passes_iff.1 hpasses
    have hmem : Failure.notFound "descriptor" d.reference.text ∈
        w.failuresAfter settings now d p := by
      rw [failuresAfter_eq hstatuses hp, settled, DescriptorStore.settle_failures,
        if_pos ⟨hgone, mt finalizerAfter_eq_iff.1 hfinalizer⟩]
      exact List.mem_append_right _ (List.mem_singleton_self _)
    obtain ⟨failure, hfailed⟩ := reported_of_failuresAfter hp (List.ne_nil_of_mem hmem)
    refine ⟨failure, hfailed, .notFound "descriptor" d.reference.text, ?_, rfl⟩
    rcases parts_of_reported hfailed with ⟨stop, hstopped, -⟩ | ⟨p', hp', hparts⟩
    · cases hp.symm.trans hstopped
    · cases hp.symm.trans hp'
      rw [hparts]
      exact hmem
  · intro failure hfailed part hpart hkind
    obtain ⟨p, -, hsettled⟩ := hreported failure hfailed part hpart hkind
    rw [settled, DescriptorStore.settle_failures] at hsettled
    split at hsettled
    · exact List.mem_singleton.1 hsettled
    · exact absurd hsettled List.not_mem_nil

/-- The blog was withdrawn while a cycle for its removal was still to come: the
cycle empties its group, and reports the route as missing. -/
theorem missing_reported_iff_withdrawn :
    let d : Descriptor := { Descriptor.blog with beingRemoved := true, finalizer := .managed }
    let w := (initial []).through [.store .blog, .cycle .claiming .someNoon .blog,
      .withdraw d.reference]
    w.statuses.FiledBy (·.group) ∧
      (w.run (reconcile .claiming .someNoon d)).1 = .error (.notFound "descriptor" "web/blog") ∧
      w.descriptors.get? d.reference = none := by
  intro d w
  have hfiled : w.statuses.FiledBy (·.group) := (sound_through [] [] _).statuses
  obtain ⟨failure, hfailed, hkind⟩ : ∃ failure,
      (w.run (reconcile .claiming .someNoon d)).1 = .error failure ∧ failure.isNotFound = true :=
    Cycle.exists_of_failuresOf (by decide +kernel)
  have hpart : failure ∈ failure.parts := by
    cases failure <;> first | exact List.mem_singleton_self _ | cases hkind
  obtain ⟨hmissing, honly⟩ := missing_reported_iff w hfiled .claiming .someNoon d
  refine ⟨hfiled, ?_, (hmissing.1 ⟨failure, hfailed, failure, hpart, hkind⟩).1⟩
  rw [hfailed, honly failure hfailed failure hpart hkind]
  rfl

/-- **A cycle can fail for a route that is missing**: the blog has gone when its
cycle runs, everything is converged all the same, and the cycle ends with a
failure and a warning. -/
theorem vanished_route_fails :
    let result := (initial []).run (reconcile .claiming .someNoon .blog)
    (∃ failure, result.1 = .error failure ∧ (failure.isNotFound &&
        failure.message == "Resource not found: descriptor with ID 'web/blog'") = true) ∧
      result.2.distributions.models.get? "public" ≠ none ∧
      (result.2.statuses.get? "public").map (·.isSynced ⟨"web", "blog"⟩) = some (some true) ∧
      result.2.events.map (fun event => (event.kind, event.reason)) =
        [(.warning, "NotFound"), (.warning, "NotFound")] := by
  intro result
  exact ⟨Cycle.exists_of_failuresOf (by decide +kernel), by decide +kernel⟩

end World

end RouteConvergence
