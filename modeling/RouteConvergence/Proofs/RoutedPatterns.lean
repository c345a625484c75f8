/-
RouteConvergence.Proofs.RoutedPatterns — where each pattern of a model
leads.

The members of a group are added one after the other, and each pattern is
looked up among those routed before. What is kept along the way
(`Origins.Routed`) is that the table of routed patterns is made of the
members added so far and of nothing else, and that it says the same as the
origins: a behaviour stands in the origin of its target exactly if the
table has it. A pattern has one entry in the table, so it leads one way
only.

* `Origins.mem_behaviors_iff` — the behaviours of a model are those of its
  members' patterns.
* `Origins.eq_of_pattern` — of one pattern there is one behaviour.
-/
import RouteConvergence.Proofs.DesiredModel

namespace RouteConvergence

namespace Origins

/-! ## The patterns of one member -/

theorem mem_patternsOf {member : Descriptor} {pattern : String} :
    pattern ∈ patternsOf member ↔ pattern ∈ PathSpec.allPatterns member.paths :=
  List.mem_mergeSort

/-- What it comes to that patterns of a member were added. -/
structure PatternsAdded (member : Descriptor) (patterns : List String)
    (routed : SortedMap String Behavior) (origin : Origin)
    (result : SortedMap String Behavior × Origin) : Prop where
  table : ∀ pattern b, result.1.get? pattern = some b ↔
    routed.get? pattern = some b ∨ (pattern ∈ patterns ∧ b = behaviorOf member pattern)
  behaviors : ∀ b, b ∈ result.2.behaviors ↔ b ∈ origin.behaviors ∨
    (routed.get? b.pattern = none ∧ b.pattern ∈ patterns ∧ b = behaviorOf member b.pattern)

variable {member : Descriptor} {pattern : String} {patterns : List String}
  {routed : SortedMap String Behavior} {origin : Origin}
  {result : SortedMap String Behavior × Origin}

/-- A pattern that already leads to the member is met again. -/
theorem PatternsAdded.again (h : PatternsAdded member patterns routed origin result)
    (hthere : routed.get? pattern = some (behaviorOf member pattern)) :
    PatternsAdded member (pattern :: patterns) routed origin result where
  table := by
    intro other b
    rw [h.table, List.mem_cons]
    constructor
    · exact fun hb => hb.imp id fun hb => ⟨Or.inr hb.1, hb.2⟩
    · rintro (hb | ⟨rfl | hmem, rfl⟩)
      · exact Or.inl hb
      · exact Or.inl hthere
      · exact Or.inr ⟨hmem, rfl⟩
  behaviors := by
    intro b
    rw [h.behaviors, List.mem_cons]
    constructor
    · exact fun hb => hb.imp id fun hb => ⟨hb.1, Or.inr hb.2.1, hb.2.2⟩
    · rintro (hb | ⟨hnone, hsame | hmem, hb⟩)
      · exact Or.inl hb
      · rw [hsame, hthere] at hnone
        cases hnone
      · exact Or.inr ⟨hnone, hmem, hb⟩

/-- A pattern is routed for the first time. -/
theorem PatternsAdded.first
    (h : PatternsAdded member patterns (routed.insert pattern (behaviorOf member pattern))
      { origin with behaviors := origin.behaviors ++ [behaviorOf member pattern] } result)
    (hnew : routed.get? pattern = none) :
    PatternsAdded member (pattern :: patterns) routed origin result where
  table := by
    intro other b
    rw [h.table, List.mem_cons]
    by_cases hother : other = pattern
    · subst hother
      rw [SortedMap.get?_insert_self, hnew]
      simp only [Option.some.injEq, reduceCtorEq, true_or, true_and, false_or]
      exact ⟨fun hb => hb.elim Eq.symm And.right, fun hb => Or.inl hb.symm⟩
    · rw [SortedMap.get?_insert_ne _ _ hother]
      simp only [hother, false_or]
  behaviors := by
    intro b
    rw [h.behaviors, List.mem_append, List.mem_singleton, List.mem_cons]
    by_cases hsame : b.pattern = pattern
    · rw [hsame, SortedMap.get?_insert_self, hnew]
      simp only [reduceCtorEq, false_and, or_false, true_or, true_and]
    · have hne : b ≠ behaviorOf member pattern := fun hb => hsame (congrArg Behavior.pattern hb)
      rw [SortedMap.get?_insert_ne _ _ hsame]
      simp only [hsame, hne, or_false, false_or]

theorem addPatterns_spec :
    ∀ {patterns : List String} {routed : SortedMap String Behavior} {origin : Origin}
      {result : SortedMap String Behavior × Origin},
      addPatterns member routed origin patterns = .ok result →
        PatternsAdded member patterns routed origin result
  | [], routed, origin, result, h => by
    cases h
    exact ⟨by simp, by simp⟩
  | pattern :: rest, routed, origin, result, h => by
    rw [addPatterns] at h
    cases hget : routed.get? pattern with
    | none =>
      rw [hget] at h
      exact (addPatterns_spec h).first hget
    | some existing =>
      rw [hget] at h
      dsimp only at h
      split at h
      · rename_i hsame
        subst hsame
        exact (addPatterns_spec h).again hget
      · cases h

/-! ## The members of a group -/

/-- **What is kept while members are added**: the table holds what their
patterns lead to, and the origins say the same. -/
structure Routed (members : List Descriptor) (routed : SortedMap String Behavior)
    (origins : Origins) : Prop where
  made : ∀ pattern b, routed.get? pattern = some b ↔ ∃ member ∈ members,
    pattern ∈ PathSpec.allPatterns member.paths ∧ b = behaviorOf member pattern
  placed : ∀ pattern b, routed.get? pattern = some b →
    ∃ origin, origins.get? b.target = some origin ∧ b ∈ origin.behaviors
  tabled : ∀ host origin b, origins.get? host = some origin → b ∈ origin.behaviors →
    b.target = host ∧ routed.get? b.pattern = some b

theorem routed_nil : Routed [] .empty .empty where
  made := fun _ _ => ⟨fun h => (nomatch h), fun ⟨_, h, _⟩ => absurd h List.not_mem_nil⟩
  placed := fun _ _ h => nomatch h
  tabled := fun _ _ _ h => nomatch h

/-- A member that is added puts its patterns to the origin of its host. -/
theorem addMember_added {origins : Origins} {added : SortedMap String Behavior × Origins}
    (h : addMember member routed origins = .ok added) :
    ∃ origin result, origin.behaviors = (originOf origins member).behaviors ∧
      PatternsAdded member (patternsOf member) routed origin result ∧
      added = (result.1, origins.insert member.originHost result.2) := by
  have hends := memberAdded member routed origins
  rw [h] at hends
  cases hends with
  | @done timeout result htimeout hpatterns =>
    exact ⟨{ originOf origins member with responseTimeout := timeout }, result, rfl,
      addPatterns_spec hpatterns, rfl⟩

/-- What stands in the origin of a member's host before the member is added
is on the table. -/
theorem Routed.tabled_originOf {members : List Descriptor} {origins : Origins}
    (h : Routed members routed origins) {b : Behavior}
    (hb : b ∈ (originOf origins member).behaviors) :
    b.target = member.originHost ∧ routed.get? b.pattern = some b := by
  unfold originOf at hb
  cases hget : origins.get? member.originHost with
  | none =>
    rw [hget] at hb
    exact absurd hb List.not_mem_nil
  | some old =>
    rw [hget] at hb
    exact h.tabled _ old b hget hb

theorem Routed.add {members : List Descriptor} {origins : Origins}
    (h : Routed members routed origins) {added : SortedMap String Behavior × Origins}
    (hadd : addMember member routed origins = .ok added) :
    Routed (members ++ [member]) added.1 added.2 := by
  obtain ⟨origin, result, hbehaviors, hpatterns, rfl⟩ := addMember_added hadd
  refine ⟨?_, ?_, ?_⟩
  · intro pattern b
    rw [hpatterns.table, h.made, mem_patternsOf]
    simp only [List.mem_append, List.mem_singleton, or_and_right, exists_or, exists_eq_left]
  · intro pattern b hb
    by_cases hold : routed.get? pattern = some b
    · obtain ⟨old, hget, hmem⟩ := h.placed pattern b hold
      by_cases hhost : b.target = member.originHost
      · refine ⟨result.2, ?_, (hpatterns.behaviors b).2 (Or.inl ?_)⟩
        · rw [hhost, SortedMap.get?_insert_self]
        · rw [hhost] at hget
          rw [hbehaviors, originOf, hget]
          exact hmem
      · refine ⟨old, ?_, hmem⟩
        rw [SortedMap.get?_insert_ne _ _ hhost, hget]
    · rcases (hpatterns.table pattern b).1 hb with hthere | ⟨hmem, rfl⟩
      · exact absurd hthere hold
      · refine ⟨result.2, SortedMap.get?_insert_self _ _ _,
          (hpatterns.behaviors _).2 (Or.inr ⟨?_, hmem, rfl⟩)⟩
        cases hget : routed.get? pattern with
        | none => exact hget
        | some other =>
          -- The pattern was on the table, so the members agree on it.
          have hboth := (hpatterns.table pattern other).2 (Or.inl hget)
          rw [hb] at hboth
          cases hboth
          exact absurd hget hold
  · intro host o b ho hb
    rcases SortedMap.get?_insert_eq_some ho with ⟨rfl, rfl⟩ | hold
    · rcases (hpatterns.behaviors b).1 hb with hold | ⟨-, hmem, hmade⟩
      · obtain ⟨htarget, hthere⟩ := h.tabled_originOf (hbehaviors ▸ hold)
        exact ⟨htarget, (hpatterns.table _ b).2 (Or.inl hthere)⟩
      · exact ⟨congrArg Behavior.target hmade, (hpatterns.table _ b).2 (Or.inr ⟨hmem, hmade⟩)⟩
    · obtain ⟨htarget, hthere⟩ := h.tabled host o b hold hb
      exact ⟨htarget, (hpatterns.table _ b).2 (Or.inl hthere)⟩

theorem Routed.addAll :
    ∀ {rest members : List Descriptor} {routed : SortedMap String Behavior}
      {origins origins' : Origins},
      Routed members routed origins → addMembers routed origins rest = .ok origins' →
        ∃ routed', Routed (members ++ rest) routed' origins'
  | [], members, routed, origins, origins', h, hadd => by
    cases hadd
    rw [List.append_nil]
    exact ⟨routed, h⟩
  | member :: rest, members, routed, origins, origins', h, hadd => by
    obtain ⟨added, hmember, hadd⟩ := Outcome.bind_eq_ok.1 hadd
    rw [List.append_cons]
    exact (h.add hmember).addAll hadd

/-! ## The behaviours of a model -/

/-- The origins of a group were made by adding its members one by one. -/
theorem routed_ofMembers {members : List Descriptor} {origins : List Origin}
    (h : ofMembers members = .ok origins) :
    ∃ routed, ∃ added : Origins, Routed members routed added ∧
      ∀ b, b ∈ origins.flatMap (·.behaviors) ↔ routed.get? b.pattern = some b := by
  obtain ⟨added, hadd, h⟩ := Outcome.bind_eq_ok.1 h
  obtain rfl : added.values.map sortBehaviors = origins := Except.ok.inj h
  obtain ⟨routed, hrouted⟩ := routed_nil.addAll hadd
  rw [List.nil_append] at hrouted
  refine ⟨routed, added, hrouted, fun b => ?_⟩
  simp only [List.mem_flatMap, List.mem_map, SortedMap.mem_values]
  constructor
  · rintro ⟨_, ⟨origin, ⟨host, hget⟩, rfl⟩, hb⟩
    exact (hrouted.tabled host origin b hget (List.mem_mergeSort.1 hb)).2
  · intro hb
    obtain ⟨origin, hget, hmem⟩ := hrouted.placed _ b hb
    exact ⟨_, ⟨origin, ⟨_, hget⟩, rfl⟩, List.mem_mergeSort.2 hmem⟩

/-- **The behaviours of a model** are those its members' patterns ask for. -/
theorem mem_behaviors_iff {members : List Descriptor} {origins : List Origin}
    (h : ofMembers members = .ok origins) (b : Behavior) :
    b ∈ origins.flatMap (·.behaviors) ↔ ∃ member ∈ members,
      b.pattern ∈ PathSpec.allPatterns member.paths ∧ b = behaviorOf member b.pattern := by
  obtain ⟨routed, added, hrouted, hmem⟩ := routed_ofMembers h
  rw [hmem, hrouted.made]

/-- **A pattern leads one way only.** -/
theorem eq_of_pattern {members : List Descriptor} {origins : List Origin}
    (h : ofMembers members = .ok origins) {b b' : Behavior}
    (hb : b ∈ origins.flatMap (·.behaviors)) (hb' : b' ∈ origins.flatMap (·.behaviors))
    (hpattern : b.pattern = b'.pattern) : b = b' := by
  obtain ⟨routed, added, hrouted, hmem⟩ := routed_ofMembers h
  have hthere := (hmem b).1 hb
  rw [hpattern, (hmem b').1 hb'] at hthere
  exact (Option.some.inj hthere).symm

end Origins

/-- A finished draft has its origins and its names from the members of its
group. -/
theorem Draft.finished_members {settings : Settings} {group : Group} {identity : Option Identity}
    {draft : Draft} {candidates : Outcome (List Certificate)} {model : Model}
    (hdraft : ofGroup settings group identity = .ok draft)
    (h : draft.finish settings candidates = .ok model) :
    Origins.ofMembers group.members = .ok model.origins ∧
      model.alternateDomains = (collectDomains group.members).toList := by
  rw [ofGroup] at hdraft
  cases horigins : Origins.ofMembers group.members with
  | error fault =>
    rw [horigins] at hdraft
    cases hdraft
  | ok origins =>
    rw [horigins] at hdraft
    cases hdraft
    obtain ⟨tls, rfl⟩ := Draft.finish_eq_ok h
    exact ⟨rfl, rfl⟩

namespace Model

variable {settings : Settings} {now : Instant} {directory : List Certificate} {group : Group}
  {identity : Option Identity} {model : Model}

/-- A model has its origins and its names from the members of its group. -/
theorem members_of_build (h : build settings now directory group identity = .ok model) :
    Origins.ofMembers group.members = .ok model.origins ∧
      model.alternateDomains = (collectDomains group.members).toList := by
  rw [build] at h
  cases hdraft : Draft.ofGroup settings group identity with
  | error failure =>
    rw [hdraft] at h
    cases h
  | ok draft =>
    rw [hdraft] at h
    exact Draft.finished_members hdraft h

theorem ofMembers_of_build (h : build settings now directory group identity = .ok model) :
    Origins.ofMembers group.members = .ok model.origins :=
  (members_of_build h).1

end Model

end RouteConvergence
