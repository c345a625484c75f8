/-
RouteConvergence.Proofs.RoutingConflicts — when the routes of a group
cannot be built.

Members are compared with what was gathered from the members before them,
never with each other: a timeout with the one its origin has by then, a
pattern with the behaviour the table has for it. Nothing is missed by
that. What has been accepted is made of the members alone (`Origins.Routed`,
`Origins.Gathered`), so a disagreement with it is one with a member, and if
all were accepted any two of them agree with what was gathered, and so with
each other.

* `Descriptor.ConflictsWith` — two members that cannot both have their way.
* `Origins.refused_iff` — origins are refused exactly for such a pair.
-/
import RouteConvergence.Proofs.OriginContents

namespace RouteConvergence

/-! ## Members that disagree -/

namespace Descriptor

/-- Two members want their one origin to wait for different times. -/
def TimeoutsDiffer (a b : Descriptor) : Prop :=
  a.originHost = b.originHost ∧
    ∃ current requested, a.responseTimeout = some current ∧
      b.responseTimeout = some requested ∧ current ≠ requested

/-- Two members route a pattern of both differently. -/
def RoutesDiffer (a b : Descriptor) : Prop :=
  a.originHost ≠ b.originHost ∨ a.functions ≠ b.functions ∨
    a.originRequestPolicy ≠ b.originRequestPolicy ∨ a.cachePolicy ≠ b.cachePolicy

/-- Two members that cannot both have their way. -/
def ConflictsWith (a b : Descriptor) : Prop :=
  a.TimeoutsDiffer b ∨
    (∃ pattern, pattern ∈ PathSpec.allPatterns a.paths ∧
      pattern ∈ PathSpec.allPatterns b.paths) ∧ a.RoutesDiffer b

/-- What a fault says of two members, the one that was accepted first. -/
inductive Disagreement (a b : Descriptor) : BuildFault → Prop
  | timeouts {current requested : Nat} : a.originHost = b.originHost →
      a.responseTimeout = some current → b.responseTimeout = some requested →
      current ≠ requested →
      Disagreement a b (.timeoutsDiffer b.originHost current requested)
  | pattern {pattern : String} : pattern ∈ PathSpec.allPatterns a.paths →
      pattern ∈ PathSpec.allPatterns b.paths → a.RoutesDiffer b →
      Disagreement a b (.patternTaken pattern b.reference b.originHost a.originHost)

theorem Disagreement.conflictsWith {a b : Descriptor} {fault : BuildFault}
    (h : Disagreement a b fault) : a.ConflictsWith b := by
  cases h with
  | timeouts hhost ha hb hne => exact Or.inl ⟨hhost, _, _, ha, hb, hne⟩
  | pattern ha hb hdiffer => exact Or.inr ⟨⟨_, ha, hb⟩, hdiffer⟩

/-- The behaviours of two members for a pattern differ if the members do. -/
theorem behaviorOf_ne_iff {a b : Descriptor} {pattern : String} :
    Origins.behaviorOf a pattern ≠ Origins.behaviorOf b pattern ↔ a.RoutesDiffer b := by
  simp only [Origins.behaviorOf, ne_eq, Behavior.mk.injEq, true_and, not_and_or, RoutesDiffer]

end Descriptor

namespace Origins

open Descriptor (Disagreement)

variable {member : Descriptor} {routed : SortedMap String Behavior} {origins : Origins}

/-! ## Refusals -/

theorem mergeTimeout_eq_error {host : String} {current requested : Option Nat}
    {fault : BuildFault} (h : mergeTimeout host current requested = .error fault) :
    ∃ s t, current = some s ∧ requested = some t ∧ s ≠ t ∧ fault = .timeoutsDiffer host s t := by
  unfold mergeTimeout at h
  split at h
  · split at h
    · cases h
    · rename_i hne
      cases h
      exact ⟨_, _, rfl, rfl, hne, rfl⟩
  · cases h
  · cases h

/-- A pattern is refused for what the table had before the member, never for what the member
itself put there. -/
theorem addPatterns_eq_error {fault : BuildFault} :
    ∀ {patterns : List String} {routed : SortedMap String Behavior} {origin : Origin},
      addPatterns member routed origin patterns = .error fault →
        ∃ pattern ∈ patterns, ∃ existing, routed.get? pattern = some existing ∧
          existing ≠ behaviorOf member pattern ∧
          fault = .patternTaken pattern member.reference member.originHost existing.target
  | [], _, _, h => by cases h
  | pattern :: rest, routed, origin, h => by
    rw [addPatterns] at h
    cases hget : routed.get? pattern with
    | some existing =>
      rw [hget] at h
      dsimp only at h
      split at h
      · obtain ⟨other, hmem, hother⟩ := addPatterns_eq_error h
        exact ⟨other, List.mem_cons_of_mem _ hmem, hother⟩
      · rename_i hne
        cases h
        exact ⟨pattern, List.mem_cons_self, existing, hget, hne, rfl⟩
    | none =>
      rw [hget] at h
      obtain ⟨other, hmem, existing, hthere, hne, hfault⟩ := addPatterns_eq_error h
      rcases SortedMap.get?_insert_eq_some hthere with ⟨rfl, hown⟩ | hbefore
      · exact absurd hown hne
      · exact ⟨other, List.mem_cons_of_mem _ hmem, existing, hbefore, hne, hfault⟩

/-- **A member is refused for one that was accepted before it.** -/
theorem addMember_eq_error {members : List Descriptor} {fault : BuildFault}
    (hrouted : Routed members routed origins) (hgathered : Gathered members origins)
    (h : addMember member routed origins = .error fault) :
    ∃ other ∈ members, Disagreement other member fault := by
  have hends := memberAdded member routed origins
  rw [h] at hends
  cases hends with
  | timeoutsDiffer htimeout =>
    obtain ⟨current, requested, hcurrent, hrequested, hne, rfl⟩ := mergeTimeout_eq_error htimeout
    obtain ⟨other, hmem, hhost, hother⟩ := (hgathered.timeout_originOf member current).1 hcurrent
    exact ⟨other, hmem, .timeouts hhost hother hrequested hne⟩
  | patternTaken hpatterns =>
    obtain ⟨pattern, hpattern, existing, hthere, hne, rfl⟩ := addPatterns_eq_error hpatterns
    obtain ⟨other, hmem, hother, rfl⟩ := (hrouted.made pattern existing).1 hthere
    exact ⟨other, hmem, .pattern hother (mem_patternsOf.1 hpattern)
      (Descriptor.behaviorOf_ne_iff.1 hne)⟩

theorem addMembers_eq_error {fault : BuildFault} :
    ∀ {rest members : List Descriptor} {routed : SortedMap String Behavior} {origins : Origins},
      Routed members routed origins → Gathered members origins →
        addMembers routed origins rest = .error fault →
          ∃ a ∈ members ++ rest, ∃ b ∈ members ++ rest, Disagreement a b fault
  | [], _, _, _, _, _, h => by cases h
  | member :: rest, members, routed, origins, hrouted, hgathered, h => by
    rcases Outcome.bind_eq_error.1 h with hmember | ⟨added, hmember, h⟩
    · obtain ⟨other, hmem, hother⟩ := addMember_eq_error hrouted hgathered hmember
      exact ⟨other, List.mem_append_left _ hmem, member,
        List.mem_append_right _ List.mem_cons_self, hother⟩
    · rw [List.append_cons]
      exact addMembers_eq_error (hrouted.add hmember) (hgathered.add hrouted hmember) h

/-- Refused origins have a pair of members that disagree as the fault says. -/
theorem ofMembers_eq_error {members : List Descriptor} {fault : BuildFault}
    (h : ofMembers members = .error fault) :
    ∃ a ∈ members, ∃ b ∈ members, Disagreement a b fault := by
  rcases Outcome.bind_eq_error.1 h with hadd | ⟨origins, -, h⟩
  · exact addMembers_eq_error routed_nil gathered_nil hadd
  · cases h

/-! ## Acceptance -/

/-- **Members that were all accepted agree**: each of them agrees with what was gathered. -/
theorem not_conflictsWith_of_ok {members : List Descriptor} {result : List Origin}
    (h : ofMembers members = .ok result) {a b : Descriptor} (ha : a ∈ members)
    (hb : b ∈ members) : ¬ a.ConflictsWith b := by
  obtain ⟨routed, origins, hrouted, hgathered, -⟩ := gathered_ofMembers h
  rintro (⟨hhost, s, t, hs, ht, hne⟩ | ⟨⟨pattern, hpa, hpb⟩, hdiffer⟩)
  · obtain ⟨origin, horigin⟩ := (hgathered.hosts _).2 ⟨b, hb, rfl⟩
    have hs' := (hgathered.timeouts _ origin horigin s).2 ⟨a, ha, hhost, hs⟩
    have ht' := (hgathered.timeouts _ origin horigin t).2 ⟨b, hb, rfl, ht⟩
    rw [hs'] at ht'
    exact hne (Option.some.inj ht')
  · have hmadea := (hrouted.made pattern _).2 ⟨a, ha, hpa, rfl⟩
    have hmadeb := (hrouted.made pattern _).2 ⟨b, hb, hpb, rfl⟩
    rw [hmadea] at hmadeb
    exact Descriptor.behaviorOf_ne_iff.2 hdiffer (Option.some.inj hmadeb)

/-- **Origins are refused exactly for two members that cannot both have their way.** The
refusal is a fault of the build that names what the two disagree on. -/
theorem refused_iff (members : List Descriptor) :
    ((∃ fault, ofMembers members = .error fault) ↔
      ∃ a ∈ members, ∃ b ∈ members, a.ConflictsWith b) ∧
    ∀ fault, ofMembers members = .error fault →
      (∃ a ∈ members, ∃ b ∈ members, Disagreement a b fault) ∧
        ∀ settings name webAcl identity,
          Draft.ofGroup settings ⟨name, members, webAcl⟩ identity = .error (.build fault) := by
  refine ⟨⟨?_, ?_⟩, ?_⟩
  · rintro ⟨fault, hfault⟩
    obtain ⟨a, ha, b, hb, hdisagree⟩ := ofMembers_eq_error hfault
    exact ⟨a, ha, b, hb, hdisagree.conflictsWith⟩
  · rintro ⟨a, ha, b, hb, hconflict⟩
    cases h : ofMembers members with
    | error fault => exact ⟨fault, rfl⟩
    | ok result => exact absurd hconflict (not_conflictsWith_of_ok h ha hb)
  · intro fault hfault
    refine ⟨ofMembers_eq_error hfault, fun settings name webAcl identity => ?_⟩
    rw [Draft.ofGroup, hfault]

/-- The shop's front page is claimed by a third route with a cache policy of its own. The help
page comes between the two and disagrees with neither. -/
theorem refused_iff_recached :
    ∃ fault, ofMembers [.shop, .help, { Descriptor.shopFront with cachePolicy := some "long" }] =
        .error fault ∧
      ∃ a ∈ [.shop, .help, { Descriptor.shopFront with cachePolicy := some "long" }],
        ∃ b ∈ [.shop, .help, { Descriptor.shopFront with cachePolicy := some "long" }],
          Disagreement a b fault := by
  obtain ⟨hiff, htold⟩ :=
    refused_iff [.shop, .help, { Descriptor.shopFront with cachePolicy := some "long" }]
  obtain ⟨fault, hfault⟩ := hiff.2 ⟨.shop, List.mem_cons_self, _,
    List.mem_cons_of_mem _ (List.mem_cons_of_mem _ List.mem_cons_self),
    Or.inr ⟨⟨"/s", by decide, by decide⟩, Or.inr (Or.inr (Or.inr (by decide)))⟩⟩
  exact ⟨fault, hfault, (htold fault hfault).1⟩

end Origins

end RouteConvergence
