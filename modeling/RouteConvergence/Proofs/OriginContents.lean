/-
RouteConvergence.Proofs.OriginContents — what the origins of some members
hold, and in which order.

Members are added one after the other, each to the origin of its host, and
`Origins.Routed` says which behaviours this makes. Kept beside it is what
does not concern patterns alone (`Origins.Gathered`): every origin stands
under its own host, has a member behind it, waits as long as its members
ask for, and has one behaviour for a pattern. No two patterns are equally
specific (`Pattern.specificity_eq_iff`), so behaviours that are sorted are
strictly sorted, and what they are determines where each of them stands.

* `Origins.Exact` — all that is said of the origins of some members.
* `Origins.exact_ofMembers` — it holds whenever there are origins at all.
-/
import Mathlib.Data.List.Sort
import RouteConvergence.Proofs.RoutedPatterns
import RouteConvergence.Proofs.SpecificityOrder

namespace RouteConvergence

/-! ## Strict order -/

namespace Behavior

/-- Whether a behaviour is more specific than another. -/
def Precedes (a b : Behavior) : Prop := Pattern.specificity a.pattern b.pattern = .lt

instance (a b : Behavior) : Decidable (a.Precedes b) :=
  inferInstanceAs (Decidable (_ = _))

instance : Std.Irrefl Precedes where
  irrefl a h := by
    have hself : Pattern.specificity a.pattern a.pattern = .eq := Pattern.specificity_eq_iff.2 rfl
    rw [Precedes, hself] at h
    cases h

instance : Std.Antisymm Precedes where
  antisymm _ _ hab hba := absurd hba (Std.OrientedCmp.not_lt_of_lt hab)

/-- Sorted behaviours with one behaviour a pattern are strictly sorted. -/
theorem sorted_strictly {behaviors : List Behavior} (h : (behaviors.map (·.pattern)).Nodup) :
    (behaviors.mergeSort mayPrecede).Pairwise Precedes := by
  have hnodup : ((behaviors.mergeSort mayPrecede).map (·.pattern)).Nodup :=
    ((List.mergeSort_perm _ _).map _).nodup_iff.2 h
  refine (sorted_mergeSort behaviors).imp₂ ?_ (List.pairwise_map.1 hnodup)
  intro a b hle hne
  rcases Ordering.isLE_iff_eq_lt_or_eq_eq.1 hle with hlt | heq
  · exact hlt
  · exact absurd (Pattern.specificity_eq_iff.1 heq) hne

end Behavior

namespace Origins

/-! ## What one member adds -/

variable {member : Descriptor} {routed : SortedMap String Behavior} {origins : Origins}

/-- Requests for a timeout that agree come to any that was made. -/
theorem mergeTimeout_eq_ok {host : String} {current requested merged : Option Nat}
    (h : mergeTimeout host current requested = .ok merged) (seconds : Nat) :
    merged = some seconds ↔ current = some seconds ∨ requested = some seconds := by
  unfold mergeTimeout at h
  split at h
  · split at h
    · rename_i hsame
      cases h
      simp [hsame]
    · cases h
  · cases h
    simp
  · cases h
    simp

/-- What an origin is apart from its behaviours stays when patterns are added. -/
theorem addPatterns_frame :
    ∀ {patterns : List String} {routed : SortedMap String Behavior} {origin : Origin}
      {result : SortedMap String Behavior × Origin},
      addPatterns member routed origin patterns = .ok result →
        result.2.host = origin.host ∧ result.2.responseTimeout = origin.responseTimeout
  | [], _, _, _, h => by
    cases h
    exact ⟨rfl, rfl⟩
  | pattern :: rest, routed, origin, result, h => by
    rw [addPatterns] at h
    split at h
    · split at h
      · exact addPatterns_frame h
      · cases h
    · -- The new behaviour is not looked at.
      obtain ⟨hhost, hwait⟩ := addPatterns_frame h
      exact ⟨hhost, hwait⟩

/-- An origin has one behaviour for a pattern if the table has what it has. -/
theorem addPatterns_once :
    ∀ {patterns : List String} {routed : SortedMap String Behavior} {origin : Origin}
      {result : SortedMap String Behavior × Origin},
      addPatterns member routed origin patterns = .ok result →
        (origin.behaviors.map (·.pattern)).Nodup →
          (∀ b ∈ origin.behaviors, routed.get? b.pattern = some b) →
            (result.2.behaviors.map (·.pattern)).Nodup
  | [], _, _, _, h, honce, _ => by
    cases h
    exact honce
  | pattern :: rest, routed, origin, result, h, honce, htabled => by
    rw [addPatterns] at h
    cases hget : routed.get? pattern with
    | some existing =>
      rw [hget] at h
      dsimp only at h
      split at h
      · exact addPatterns_once h honce htabled
      · cases h
    | none =>
      rw [hget] at h
      have hnew : ∀ b ∈ origin.behaviors, b.pattern ≠ pattern := by
        rintro b hb rfl
        rw [htabled b hb] at hget
        cases hget
      refine addPatterns_once h ?_ ?_
      · rw [List.map_append, List.nodup_append]
        refine ⟨honce, List.nodup_singleton _, ?_⟩
        rintro _ hold _ hadded rfl
        obtain ⟨b, hb, hpattern⟩ := List.mem_map.1 hold
        exact hnew b hb (hpattern.trans (List.mem_singleton.1 hadded))
      · intro b hb
        rcases List.mem_append.1 hb with hb | hb
        · rw [SortedMap.get?_insert_ne _ _ (hnew b hb), htabled b hb]
        · rw [List.mem_singleton.1 hb]
          exact SortedMap.get?_insert_self _ _ _

/-! ## All members -/

/-- **What is kept of the origins while members are added**, beside where
their patterns lead. -/
structure Gathered (members : List Descriptor) (origins : Origins) : Prop where
  filed : origins.FiledBy Origin.host
  hosts : ∀ host, (∃ origin, origins.get? host = some origin) ↔
    ∃ member ∈ members, member.originHost = host
  timeouts : ∀ host origin, origins.get? host = some origin → ∀ seconds,
    origin.responseTimeout = some seconds ↔
      ∃ member ∈ members, member.originHost = host ∧ member.responseTimeout = some seconds
  once : ∀ host origin, origins.get? host = some origin →
    (origin.behaviors.map (·.pattern)).Nodup

theorem gathered_nil : Gathered [] .empty where
  filed := SortedMap.filedBy_empty _
  hosts := fun _ => ⟨fun ⟨_, h⟩ => (nomatch h), fun ⟨_, h, _⟩ => absurd h List.not_mem_nil⟩
  timeouts := fun _ _ h => nomatch h
  once := fun _ _ h => nomatch h

/-- The origin of a host that was not met before has no timeout, and no member asked
for one. -/
theorem Gathered.timeout_originOf {members : List Descriptor} (h : Gathered members origins)
    (member : Descriptor) (seconds : Nat) :
    (originOf origins member).responseTimeout = some seconds ↔ ∃ other ∈ members,
      other.originHost = member.originHost ∧ other.responseTimeout = some seconds := by
  unfold originOf
  cases hget : origins.get? member.originHost with
  | some origin => exact h.timeouts _ origin hget seconds
  | none =>
    refine ⟨fun hbare => (nomatch hbare), ?_⟩
    rintro ⟨other, hmem, hhost, -⟩
    obtain ⟨origin, horigin⟩ := (h.hosts _).2 ⟨other, hmem, hhost⟩
    rw [hget] at horigin
    cases horigin

theorem Gathered.host_originOf {members : List Descriptor} (h : Gathered members origins)
    (member : Descriptor) : (originOf origins member).host = member.originHost := by
  unfold originOf
  cases hget : origins.get? member.originHost with
  | none => rfl
  | some origin => exact h.filed _ _ hget

theorem Gathered.once_originOf {members : List Descriptor} (h : Gathered members origins)
    (member : Descriptor) : ((originOf origins member).behaviors.map (·.pattern)).Nodup := by
  unfold originOf
  cases hget : origins.get? member.originHost with
  | none => exact List.nodup_nil
  | some origin => exact h.once _ origin hget

theorem Gathered.add {members : List Descriptor} (h : Gathered members origins)
    (hrouted : Routed members routed origins)
    {added : SortedMap String Behavior × Origins}
    (hadd : addMember member routed origins = .ok added) :
    Gathered (members ++ [member]) added.2 := by
  have hends := memberAdded member routed origins
  rw [hadd] at hends
  cases hends with
  | @done timeout result htimeout hpatterns =>
    obtain ⟨hhost, hwait⟩ := addPatterns_frame hpatterns
    have hnew : ∀ host, (∃ other ∈ members ++ [member], other.originHost = host) ↔
        (∃ other ∈ members, other.originHost = host) ∨ member.originHost = host := by
      intro host
      simp only [List.mem_append, List.mem_singleton, or_and_right, exists_or, exists_eq_left]
    refine ⟨h.filed.insert (hhost.trans (h.host_originOf member)), ?_, ?_, ?_⟩
    · intro host
      rw [hnew, ← h.hosts]
      by_cases hsame : host = member.originHost
      · subst hsame
        simp only [SortedMap.get?_insert_self, Option.some.injEq, exists_eq', or_true]
      · rw [SortedMap.get?_insert_ne _ _ hsame]
        simp only [Ne.symm hsame, or_false]
    · intro host origin hget seconds
      simp only [List.mem_append, List.mem_singleton, or_and_right, exists_or, exists_eq_left]
      by_cases hsame : host = member.originHost
      · subst hsame
        rw [SortedMap.get?_insert_self] at hget
        cases hget
        rw [hwait, mergeTimeout_eq_ok htimeout, h.timeout_originOf]
        simp only [true_and]
      · rw [SortedMap.get?_insert_ne _ _ hsame] at hget
        rw [h.timeouts host origin hget]
        simp only [Ne.symm hsame, false_and, or_false]
    · intro host origin hget
      rcases SortedMap.get?_insert_eq_some hget with ⟨rfl, rfl⟩ | hold
      · exact addPatterns_once hpatterns (h.once_originOf member)
          fun b hb => (hrouted.tabled_originOf hb).2
      · exact h.once host origin hold

theorem Gathered.addAll :
    ∀ {rest members : List Descriptor} {routed : SortedMap String Behavior}
      {origins origins' : Origins}, Gathered members origins → Routed members routed origins →
        addMembers routed origins rest = .ok origins' → Gathered (members ++ rest) origins'
  | [], members, routed, origins, origins', h, _, hadd => by
    cases hadd
    rw [List.append_nil]
    exact h
  | member :: rest, members, routed, origins, origins', h, hrouted, hadd => by
    obtain ⟨added, hmember, hadd⟩ := Outcome.bind_eq_ok.1 hadd
    rw [List.append_cons]
    exact (h.add hrouted hmember).addAll (hrouted.add hmember) hadd

/-! ## The finished origins -/

/-- **What the origins of some members hold**, and in which order. -/
structure Exact (members : List Descriptor) (origins : List Origin) : Prop where
  /-- The origins stand by host, each host once. -/
  hosts_ordered : origins.Pairwise fun o p => o.host < p.host
  /-- Their hosts are those of the members. -/
  hosts : ∀ host, (∃ origin ∈ origins, origin.host = host) ↔
    ∃ member ∈ members, member.originHost = host
  /-- A pattern is routed if a member's paths ask for it. -/
  patterns : ∀ pattern, (∃ b ∈ origins.flatMap (·.behaviors), b.pattern = pattern) ↔
    ∃ member ∈ members, pattern ∈ PathSpec.allPatterns member.paths
  /-- No pattern is routed twice, in one origin or in several. -/
  patterns_once : ((origins.flatMap (·.behaviors)).map (·.pattern)).Nodup
  /-- A pattern of a member stands in the origin of the member's host, leads there and
  carries what the member says. -/
  routed : ∀ member ∈ members, ∀ pattern ∈ PathSpec.allPatterns member.paths,
    ∃ origin ∈ origins, origin.host = member.originHost ∧
      (⟨pattern, member.originHost, member.functions, member.originRequestPolicy,
        member.cachePolicy⟩ : Behavior) ∈ origin.behaviors
  /-- An origin waits as long as its members ask for, if any does. -/
  timeouts : ∀ origin ∈ origins, ∀ seconds, origin.responseTimeout = some seconds ↔
    ∃ member ∈ members, member.originHost = origin.host ∧ member.responseTimeout = some seconds
  /-- The behaviours of an origin stand most specific first, no two of them alike. -/
  behaviors_ordered : ∀ origin ∈ origins, origin.behaviors.Pairwise Behavior.Precedes
  /-- So do the behaviours of all origins together, which are the behaviours of each in
  their order. -/
  tried : ∀ model : Model, model.origins = origins →
    model.orderedBehaviors.Pairwise Behavior.Precedes ∧
      model.orderedBehaviors.Perm (origins.flatMap (·.behaviors)) ∧
      ∀ origin ∈ origins,
        model.orderedBehaviors.filter (· ∈ origin.behaviors) = origin.behaviors

/-- Origins with their behaviours sorted. -/
def finished (origins : Origins) : List Origin := origins.values.map sortBehaviors

/-- Finished origins come from origins that were gathered. -/
theorem gathered_ofMembers {members : List Descriptor} {result : List Origin}
    (h : ofMembers members = .ok result) :
    ∃ routed, ∃ origins : Origins, Routed members routed origins ∧ Gathered members origins ∧
      result = finished origins := by
  obtain ⟨origins, hadd, h⟩ := Outcome.bind_eq_ok.1 h
  obtain rfl : finished origins = result := Except.ok.inj h
  obtain ⟨routed, hrouted⟩ := routed_nil.addAll hadd
  have hgathered := gathered_nil.addAll routed_nil hadd
  rw [List.nil_append] at hrouted hgathered
  exact ⟨routed, origins, hrouted, hgathered, rfl⟩

theorem Gathered.mem_finished {members : List Descriptor} (h : Gathered members origins)
    {origin : Origin} : origin ∈ finished origins ↔
      ∃ old, origins.get? old.host = some old ∧ sortBehaviors old = origin := by
  simp only [finished, List.mem_map, h.filed.mem_values_iff]

/-- What stands under a host is among the finished origins, with the same host. -/
theorem Gathered.finished_of_get? {members : List Descriptor} (h : Gathered members origins)
    {host : String} {old : Origin} (hget : origins.get? host = some old) :
    sortBehaviors old ∈ finished origins ∧ (sortBehaviors old).host = host := by
  have hhost : old.host = host := h.filed _ _ hget
  subst hhost
  exact ⟨h.mem_finished.2 ⟨old, hget, rfl⟩, rfl⟩

theorem Gathered.hosts_ordered {members : List Descriptor} (h : Gathered members origins) :
    (finished origins).Pairwise fun o p => o.host < p.host := by
  rw [finished, List.pairwise_map]
  exact h.filed.values_ordered.imp compareOfLessAndEq_eq_lt.1

/-- A pattern leads to one host, so two origins never share one. -/
theorem Gathered.patterns_once {members : List Descriptor} (h : Gathered members origins)
    (hrouted : Routed members routed origins) :
    (((finished origins).flatMap (·.behaviors)).map (·.pattern)).Nodup := by
  rw [List.map_flatMap, List.nodup_flatMap]
  constructor
  · intro origin horigin
    obtain ⟨old, hold, rfl⟩ := h.mem_finished.1 horigin
    exact ((List.mergeSort_perm _ _).map _).nodup_iff.2 (h.once _ old hold)
  · refine h.hosts_ordered.imp_of_mem ?_
    intro o p ho hp hlt pattern hpattern hpattern'
    obtain ⟨old, hold, rfl⟩ := h.mem_finished.1 ho
    obtain ⟨old', hold', rfl⟩ := h.mem_finished.1 hp
    obtain ⟨b, hb, rfl⟩ := List.mem_map.1 hpattern
    obtain ⟨b', hb', hsame⟩ := List.mem_map.1 hpattern'
    obtain ⟨htarget, hget⟩ := hrouted.tabled _ old b hold (List.mem_mergeSort.1 hb)
    obtain ⟨htarget', hget'⟩ := hrouted.tabled _ old' b' hold' (List.mem_mergeSort.1 hb')
    rw [hsame, hget] at hget'
    cases hget'
    rw [htarget] at htarget'
    exact String.lt_irrefl _ (htarget' ▸ hlt)

end Origins

/-- **Behaviours with a pattern each** are tried in strict order, each once, and those of
one origin in the origin's order. -/
theorem Model.tried_of_once {model : Model}
    (honce : ((model.origins.flatMap (·.behaviors)).map (·.pattern)).Nodup)
    (hordered : ∀ origin ∈ model.origins, origin.behaviors.Pairwise Behavior.Precedes) :
    model.orderedBehaviors.Pairwise Behavior.Precedes ∧
      model.orderedBehaviors.Perm (model.origins.flatMap (·.behaviors)) ∧
      ∀ origin ∈ model.origins,
        model.orderedBehaviors.filter (· ∈ origin.behaviors) = origin.behaviors := by
  have htried : model.orderedBehaviors.Pairwise Behavior.Precedes :=
    Behavior.sorted_strictly honce
  have hperm : model.orderedBehaviors.Perm (model.origins.flatMap (·.behaviors)) :=
    List.mergeSort_perm _ _
  refine ⟨htried, hperm, fun origin horigin => ?_⟩
  -- Both lists are strictly sorted, so what they hold determines them.
  refine (htried.filter _).eq_of_mem_iff (hordered origin horigin) fun b => ?_
  simp only [List.mem_filter, decide_eq_true_eq, hperm.mem_iff]
  exact ⟨And.right, fun hb => ⟨List.mem_flatMap.2 ⟨origin, horigin, hb⟩, hb⟩⟩

/-- **The origins of some members hold exactly what the members ask for**, in the order in
which it is tried. -/
theorem Origins.exact_ofMembers {members : List Descriptor} {result : List Origin}
    (h : ofMembers members = .ok result) : Exact members result := by
  obtain ⟨routed, origins, hrouted, hgathered, rfl⟩ := gathered_ofMembers h
  have hstrict : ∀ origin ∈ finished origins, origin.behaviors.Pairwise Behavior.Precedes := by
    intro origin horigin
    obtain ⟨old, hold, rfl⟩ := hgathered.mem_finished.1 horigin
    exact Behavior.sorted_strictly (hgathered.once _ old hold)
  refine ⟨hgathered.hosts_ordered, ?_, ?_, hgathered.patterns_once hrouted, ?_, ?_, hstrict, ?_⟩
  · intro host
    rw [← hgathered.hosts]
    constructor
    · rintro ⟨origin, horigin, rfl⟩
      obtain ⟨old, hold, rfl⟩ := hgathered.mem_finished.1 horigin
      exact ⟨old, hold⟩
    · rintro ⟨old, hold⟩
      exact ⟨sortBehaviors old, hgathered.finished_of_get? hold⟩
  · intro pattern
    constructor
    · rintro ⟨b, hb, rfl⟩
      obtain ⟨member, hmem, hpattern, -⟩ := (mem_behaviors_iff h b).1 hb
      exact ⟨member, hmem, hpattern⟩
    · rintro ⟨member, hmem, hpattern⟩
      exact ⟨behaviorOf member pattern,
        (mem_behaviors_iff h _).2 ⟨member, hmem, hpattern, rfl⟩, rfl⟩
  · intro member hmem pattern hpattern
    have hmade := (hrouted.made pattern _).2 ⟨member, hmem, hpattern, rfl⟩
    obtain ⟨old, hold, hb⟩ := hrouted.placed pattern _ hmade
    obtain ⟨hthere, hhost⟩ := hgathered.finished_of_get? hold
    exact ⟨sortBehaviors old, hthere, hhost, List.mem_mergeSort.2 hb⟩
  · intro origin horigin seconds
    obtain ⟨old, hold, rfl⟩ := hgathered.mem_finished.1 horigin
    exact hgathered.timeouts _ old hold seconds
  · intro model horigins
    rw [← horigins] at hstrict ⊢
    exact Model.tried_of_once (horigins ▸ hgathered.patterns_once hrouted) hstrict

/-! ## A shop

Three routes to two hosts. Two of them name one path, once with all below it and once
alone, and one of these two says how long the origin may take. -/

/-- The shop and everything below it. -/
def Descriptor.shop : Descriptor :=
  { bare ⟨"web", "shop"⟩ "public" with
    originHost := "shop.internal"
    provisioned := true
    paths := [⟨"/s/", .subtree⟩]
    responseTimeout := some 30 }

/-- The front page of the shop once more. -/
def Descriptor.shopFront : Descriptor :=
  { bare ⟨"web", "shop-front"⟩ "public" with
    originHost := "shop.internal"
    provisioned := true
    paths := [⟨"/s", .exact⟩] }

/-- A help page, behind a host of its own. -/
def Descriptor.help : Descriptor :=
  { bare ⟨"web", "help"⟩ "public" with
    originHost := "help.internal"
    provisioned := true
    paths := [⟨"/h", .exact⟩] }

/-- The path that two routes name is routed once, and all behaviours of the shop stand in one
origin that waits for thirty seconds. -/
theorem Origins.exact_ofMembers_shop :
    ∃ result, ofMembers [.shop, .shopFront, .help] = .ok result ∧
      (result.map fun o => (o.host, o.behaviors.map (·.pattern), o.responseTimeout)) =
        [("help.internal", ["/h"], none), ("shop.internal", ["/s/*", "/s"], some 30)] ∧
      Exact [.shop, .shopFront, .help] result := by
  have hshape : (ofMembers [.shop, .shopFront, .help]).toOption.map
      (·.map fun o => (o.host, o.behaviors.map (·.pattern), o.responseTimeout)) =
        some [("help.internal", ["/h"], none),
          ("shop.internal", ["/s/*", "/s"], some 30)] := by cbv
  cases hresult : ofMembers [.shop, .shopFront, .help] with
  | error fault =>
    rw [hresult] at hshape
    cases hshape
  | ok result =>
    rw [hresult] at hshape
    exact ⟨result, rfl, Option.some.inj hshape, exact_ofMembers hresult⟩

end RouteConvergence
