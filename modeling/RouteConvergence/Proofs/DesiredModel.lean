/-
RouteConvergence.Proofs.DesiredModel — what the stored descriptors ask
for.

The model of a group is a function of the descriptors, the settings, the
certificates and the time. Most of what a cycle does to its input cannot
be seen in it:

* `Group.aggregate_withTrigger` — putting the descriptor that set off the
  cycle in place of its stored copy changes nothing if the two are equal.
* `Model.build_withIdentity` — the identity is carried, not used.
* `Origins.MemberAdded` — the ways in which adding a member to the origins
  ends.
* `Origins.ofMembers_sameRoutes` — the origins depend on the routes of the
  members only.
* `Group.model_unheld` — whether the sources are held does not matter, so
  a cycle that changes a finalizer leaves the desired model alone.

`Group.model` is aggregation followed by building, without an identity,
and `Group.ModelOf` lists what can be read off such a model.
-/
import RouteConvergence.Cycle
import RouteConvergence.Proofs.Containers
import RouteConvergence.Proofs.MemberOrder

namespace RouteConvergence

/-! ## The members of a group -/

/-- A stored descriptor that sets off a cycle takes its own place. -/
theorem Cycle.withTrigger_perm {ds : List Descriptor} (h : ByReference ds) {d : Descriptor}
    (hd : d ∈ ds) : (withTrigger ds d).Perm ds := by
  have htrigger : (withTrigger ds d).Nodup := by
    refine List.nodup_append.2 ⟨ByReference.nodup (List.Pairwise.filter _ h), by simp, ?_⟩
    intro a ha b hb hab
    rw [List.mem_singleton.1 hb] at hab
    subst hab
    simp at ha
  refine (List.perm_ext_iff_of_nodup htrigger h.nodup).2 fun a => ?_
  simp only [withTrigger, List.mem_append, List.mem_filter, bne_iff_ne, List.mem_singleton]
  constructor
  · rintro (⟨ha, -⟩ | rfl)
    · exact ha
    · exact hd
  · intro ha
    by_cases href : a.reference = d.reference
    · exact Or.inr (h.eq_of_reference ha hd href)
    · exact Or.inl ⟨ha, href⟩

namespace Group

/-- The order of descriptors with distinct references does not count. -/
theorem aggregate_perm {name : GroupName} {given ds : List Descriptor} (h : ByReference ds)
    (hperm : given.Perm ds) : aggregate name given = aggregate name ds := by
  rw [aggregate, aggregate, membersOf_eq h hperm, membersOf_eq h (.refl ds)]

/-- **A stored descriptor as the trigger** adds nothing to the stored ones. -/
theorem aggregate_withTrigger {name : GroupName} {ds : List Descriptor} (h : ByReference ds)
    {d : Descriptor} (hd : d ∈ ds) :
    aggregate name (Cycle.withTrigger ds d) = aggregate name ds :=
  aggregate_perm h (Cycle.withTrigger_perm h hd)

theorem aggregate_eq_ok {name : GroupName} {ds : List Descriptor} {group : Group}
    (h : aggregate name ds = .ok group) :
    group.name = name ∧ group.members = membersOf name ds := by
  unfold aggregate at h
  dsimp only at h
  split at h
  · cases h
    exact ⟨rfl, rfl⟩
  · cases h
    exact ⟨rfl, rfl⟩
  · cases h

end Group

/-! ## Building -/

/-- A certificate is all that is added to a draft. -/
theorem Draft.finish_eq_ok {settings : Settings} {draft : Draft}
    {candidates : Outcome (List Certificate)} {model : Model}
    (h : draft.finish settings candidates = .ok model) :
    ∃ tls, model = { draft.model with tls := tls } := by
  unfold finish at h
  split at h
  · cases h
    exact ⟨_, rfl⟩
  · cases candidates with
    | error failure => cases h
    | ok usable =>
      dsimp only at h
      cases hc : Certificate.resolve usable draft.uncovered with
      | error failure =>
        rw [hc] at h
        cases h
      | ok certificate =>
        rw [hc] at h
        cases h
        exact ⟨_, rfl⟩

/-- A draft with an identity in place of its own. -/
def Draft.withIdentity (draft : Draft) (identity : Option Identity) : Draft :=
  { draft with model := draft.model.withIdentity identity }

theorem Draft.ofGroup_withIdentity (settings : Settings) (group : Group)
    (identity : Option Identity) :
    ofGroup settings group identity =
      (ofGroup settings group none).map (·.withIdentity identity) := by
  unfold ofGroup
  cases Origins.ofMembers group.members <;> rfl

theorem Draft.finish_withIdentity (settings : Settings) (draft : Draft)
    (identity : Option Identity) (candidates : Outcome (List Certificate)) :
    (draft.withIdentity identity).finish settings candidates =
      (draft.finish settings candidates).map (·.withIdentity identity) := by
  unfold finish
  show (if draft.uncovered.isEmpty then _ else _) = _
  cases draft.uncovered.isEmpty with
  | true => rfl
  | false =>
    cases candidates with
    | error failure => rfl
    | ok usable =>
      dsimp only [withIdentity]
      cases Certificate.resolve usable draft.uncovered <;> rfl

/-- **The identity is carried, not used**: it can be given to the model that
was built without one. -/
theorem Model.build_withIdentity (settings : Settings) (now : Instant)
    (directory : List Certificate) (group : Group) (identity : Option Identity) :
    build settings now directory group identity =
      (build settings now directory group none).map (·.withIdentity identity) := by
  rw [build, Draft.ofGroup_withIdentity, build]
  cases Draft.ofGroup settings group none with
  | error failure => rfl
  | ok draft => exact draft.finish_withIdentity settings identity _

namespace Origins

/-- The origin a member is added to: that of its host, new if there is none. -/
def originOf (origins : Origins) (member : Descriptor) : Origin :=
  (origins.get? member.originHost).getD (.bare member.originHost)

/-- The ways in which adding a member ends. -/
inductive MemberAdded (member : Descriptor) (routed : SortedMap String Behavior)
    (origins : Origins) : Except BuildFault (SortedMap String Behavior × Origins) → Prop
  | timeoutsDiffer {fault : BuildFault} :
      mergeTimeout member.originHost (originOf origins member).responseTimeout
        member.responseTimeout = .error fault →
      MemberAdded member routed origins (.error fault)
  | patternTaken {timeout : Option Nat} {fault : BuildFault} :
      addPatterns member routed { originOf origins member with responseTimeout := timeout }
        (patternsOf member) = .error fault →
      MemberAdded member routed origins (.error fault)
  | done {timeout : Option Nat} {result : SortedMap String Behavior × Origin} :
      mergeTimeout member.originHost (originOf origins member).responseTimeout
        member.responseTimeout = .ok timeout →
      addPatterns member routed { originOf origins member with responseTimeout := timeout }
        (patternsOf member) = .ok result →
      MemberAdded member routed origins
        (.ok (result.1, origins.insert member.originHost result.2))

theorem memberAdded (member : Descriptor) (routed : SortedMap String Behavior)
    (origins : Origins) :
    MemberAdded member routed origins (addMember member routed origins) := by
  simp only [addMember, bind, Except.bind, pure, Except.pure]
  cases htimeout : mergeTimeout member.originHost
      ((origins.get? member.originHost).getD (.bare member.originHost)).responseTimeout
      member.responseTimeout with
  | error fault => exact .timeoutsDiffer htimeout
  | ok timeout =>
    dsimp only
    cases hadd : addPatterns member routed
        { (origins.get? member.originHost).getD (.bare member.originHost) with
          responseTimeout := timeout } (patternsOf member) with
    | error fault => exact .patternTaken hadd
    | ok result => exact .done htimeout hadd

/-- A member is added under its host. -/
theorem addMember_eq_ok {member : Descriptor} {routed routed' : SortedMap String Behavior}
    {origins origins' : Origins} (h : addMember member routed origins = .ok (routed', origins')) :
    ∃ origin, origins' = origins.insert member.originHost origin := by
  have hends := memberAdded member routed origins
  rw [h] at hends
  cases hends with
  | done htimeout hpatterns => exact ⟨_, rfl⟩

/-- Every member has its origin, and no origin is lost again. -/
theorem contains_addMembers {host : String} :
    ∀ {members : List Descriptor} {routed : SortedMap String Behavior} {origins origins' : Origins},
      addMembers routed origins members = .ok origins' →
        (origins.contains host = true ∨ ∃ member ∈ members, member.originHost = host) →
          origins'.contains host = true
  | [], _, _, _, h, hhost => by
    cases h
    rcases hhost with hhost | ⟨member, hmem, -⟩
    · exact hhost
    · exact absurd hmem List.not_mem_nil
  | member :: rest, routed, origins, origins', h, hhost => by
    obtain ⟨⟨routed', origins₁⟩, hadd, h⟩ := Outcome.bind_eq_ok.1 h
    obtain ⟨origin, rfl⟩ := addMember_eq_ok hadd
    refine contains_addMembers h ?_
    by_cases hself : host = member.originHost
    · subst hself
      exact Or.inl (SortedMap.contains_iff.2 ⟨origin, SortedMap.get?_insert_self _ _ _⟩)
    · rcases hhost with hhost | ⟨other, hmem, hother⟩
      · obtain ⟨o, ho⟩ := SortedMap.contains_iff.1 hhost
        refine Or.inl (SortedMap.contains_iff.2 ⟨o, ?_⟩)
        rw [SortedMap.get?_insert_ne _ _ hself, ho]
      · rcases List.mem_cons.1 hmem with rfl | hmem
        · exact absurd hother.symm hself
        · exact Or.inr ⟨other, hmem, hother⟩

/-- Only a group without members has no origins. -/
theorem isEmpty_ofMembers {members : List Descriptor} {origins : List Origin}
    (h : ofMembers members = .ok origins) : origins.isEmpty = members.isEmpty := by
  obtain ⟨added, hadd, h⟩ := Outcome.bind_eq_ok.1 h
  obtain rfl : added.values.map sortBehaviors = origins := Except.ok.inj h
  cases members with
  | nil =>
    cases hadd
    rfl
  | cons member rest =>
    have hthere := contains_addMembers hadd (Or.inr ⟨member, List.mem_cons_self, rfl⟩)
    obtain ⟨origin, horigin⟩ := SortedMap.contains_iff.1 hthere
    have hmem := (SortedMap.mem_values added origin).2 ⟨_, horigin⟩
    cases hvalues : added.values with
    | nil =>
      rw [hvalues] at hmem
      exact absurd hmem List.not_mem_nil
    | cons o os => rfl

end Origins

/-! ## What origins see of a member -/

/-- Two descriptors with the same routes, whatever else they say. -/
structure Descriptor.SameRoutes (d d' : Descriptor) : Prop where
  reference : d'.reference = d.reference
  originHost : d'.originHost = d.originHost
  paths : d'.paths = d.paths
  functions : d'.functions = d.functions
  originRequestPolicy : d'.originRequestPolicy = d.originRequestPolicy
  cachePolicy : d'.cachePolicy = d.cachePolicy
  responseTimeout : d'.responseTimeout = d.responseTimeout

namespace Origins

variable {member member' : Descriptor}

theorem behaviorOf_sameRoutes (h : member.SameRoutes member') :
    behaviorOf member' = behaviorOf member := by
  funext pattern
  rw [behaviorOf, behaviorOf, h.originHost, h.functions, h.originRequestPolicy, h.cachePolicy]

theorem addPatterns_sameRoutes (h : member.SameRoutes member') :
    ∀ (patterns : List String) (routed : SortedMap String Behavior) (origin : Origin),
      addPatterns member' routed origin patterns = addPatterns member routed origin patterns
  | [], _, _ => rfl
  | pattern :: rest, routed, origin => by
    simp only [addPatterns, addPatterns_sameRoutes h rest, behaviorOf_sameRoutes h, h.reference]

theorem addMember_sameRoutes (h : member.SameRoutes member')
    (routed : SortedMap String Behavior) (origins : Origins) :
    addMember member' routed origins = addMember member routed origins := by
  have hpatterns : patternsOf member' = patternsOf member := by
    rw [patternsOf, patternsOf, h.paths]
  simp only [addMember, addPatterns_sameRoutes h, hpatterns, h.originHost, h.responseTimeout]

theorem addMembers_sameRoutes {members members' : List Descriptor}
    (h : List.Forall₂ Descriptor.SameRoutes members members') :
    ∀ (routed : SortedMap String Behavior) (origins : Origins),
      addMembers routed origins members' = addMembers routed origins members := by
  induction h with
  | nil => exact fun _ _ => rfl
  | cons hsame _ ih =>
    intro routed origins
    rw [addMembers, addMembers, addMember_sameRoutes hsame]
    congr 1
    funext added
    exact ih _ _

/-- **Origins see nothing but routes.** -/
theorem ofMembers_sameRoutes {members members' : List Descriptor}
    (h : List.Forall₂ Descriptor.SameRoutes members members') :
    ofMembers members' = ofMembers members := by
  rw [ofMembers, ofMembers, addMembers_sameRoutes h]

end Origins

/-! ## Whether a source is held -/

/-- A descriptor without a word on whether its source is held. -/
def Descriptor.unheld (d : Descriptor) : Descriptor := { d with finalizer := .released }

theorem Descriptor.sameRoutes_unheld (d : Descriptor) : d.SameRoutes d.unheld :=
  ⟨rfl, rfl, rfl, rfl, rfl, rfl, rfl⟩

namespace Group

/-- A group whose members say nothing about their sources. -/
def unheld (group : Group) : Group := { group with members := group.members.map (·.unheld) }

theorem dropRepeated_unheld :
    ∀ ds : List Descriptor, dropRepeated (ds.map (·.unheld)) = (dropRepeated ds).map (·.unheld)
  | [] => rfl
  | d :: rest => by
    rw [List.map_cons, dropRepeated, dropRepeated, dropRepeated_unheld rest]
    cases dropRepeated rest with
    | nil => rfl
    | cons e kept =>
      show (if e.reference = d.reference then _ else _) = List.map _ (if _ then _ else _)
      split <;> rfl

theorem membersOf_unheld (name : GroupName) (ds : List Descriptor) :
    membersOf name (ds.map (·.unheld)) = (membersOf name ds).map (·.unheld) := by
  have hfilter : (ds.map (·.unheld)).filter (·.isMemberOf name) =
      (ds.filter (·.isMemberOf name)).map (·.unheld) := by
    rw [List.filter_map]
    rfl
  rw [membersOf, membersOf, hfilter, ← dropRepeated_unheld]
  congr 1
  refine (List.map_mergeSort (s := mayPrecede) ?_).symm
  intro a _ b _
  rfl

theorem aggregate_unheld (name : GroupName) (ds : List Descriptor) :
    aggregate name (ds.map (·.unheld)) = (aggregate name ds).map unheld := by
  have hacls : webAcls ((membersOf name ds).map (·.unheld)) = webAcls (membersOf name ds) := by
    rw [webAcls, webAcls, List.filterMap_map]
    rfl
  unfold aggregate
  dsimp only
  rw [membersOf_unheld, hacls]
  split <;> rfl

end Group

theorem Draft.ofGroup_unheld (settings : Settings) (group : Group) (identity : Option Identity) :
    ofGroup settings group.unheld identity = ofGroup settings group identity := by
  have horigins : Origins.ofMembers group.unheld.members = Origins.ofMembers group.members :=
    Origins.ofMembers_sameRoutes
      (List.forall₂_map_right_iff.2 (List.forall₂_same.2 fun d _ => d.sameRoutes_unheld))
  have hdomains : collectDomains group.unheld.members = collectDomains group.members := by
    rw [collectDomains, collectDomains, Group.unheld, List.flatMap_map]
    rfl
  have htags : mergeTags settings group.unheld = mergeTags settings group := by
    rw [mergeTags, mergeTags, Group.unheld, List.foldl_map]
    rfl
  unfold ofGroup
  rw [horigins, hdomains, htags]
  rfl

/-! ## Names -/

/-- The names of some descriptors are the names of each of them. -/
theorem mem_collectDomains {ds : List Descriptor} {name : String} :
    name ∈ (collectDomains ds).elems ↔ ∃ d ∈ ds, name ∈ (collectDomains [d]).elems := by
  simp only [collectDomains, SortedSet.mem_ofList, List.mem_filter, List.mem_map, List.mem_flatMap,
    List.flatMap_singleton]
  constructor
  · rintro ⟨⟨domain, ⟨d, hd, hdomain⟩, rfl⟩, hname⟩
    exact ⟨d, hd, ⟨domain, hdomain, rfl⟩, hname⟩
  · rintro ⟨d, hd, ⟨domain, hdomain, rfl⟩, hname⟩
    exact ⟨⟨domain, ⟨d, hd, hdomain⟩, rfl⟩, hname⟩

/-- The names of some descriptors are what they declare, in canonical form,
unless it is blank. -/
theorem mem_names {ds : List Descriptor} {name : String} :
    name ∈ (collectDomains ds).toList ↔
      ∃ d ∈ ds, ∃ domain ∈ d.alternateDomains, canonicalDomain domain = name ∧ name ≠ "" := by
  show name ∈ (collectDomains ds).elems ↔ _
  simp only [collectDomains, SortedSet.mem_ofList, List.mem_filter, List.mem_map, List.mem_flatMap,
    Bool.not_eq_true', String.isEmpty_eq_false_iff]
  constructor
  · rintro ⟨⟨domain, ⟨d, hd, hdomain⟩, hcanonical⟩, hname⟩
    exact ⟨d, hd, domain, hdomain, hcanonical, hname⟩
  · rintro ⟨d, hd, domain, hdomain, hcanonical, hname⟩
    exact ⟨⟨domain, ⟨d, hd, hdomain⟩, hcanonical⟩, hname⟩

/-! ## The model some descriptors ask for -/

namespace Group

/-- The model some descriptors ask for, before it has an identity. -/
def model (settings : Settings) (now : Instant) (directory : List Certificate) (name : GroupName)
    (ds : List Descriptor) : Outcome Model := do
  let group ← aggregate name ds
  Model.build settings now directory group none

variable {settings : Settings} {now : Instant} {directory : List Certificate} {name : GroupName}

/-- **Finalizers do not shape a model.** -/
theorem model_unheld (ds : List Descriptor) :
    model settings now directory name (ds.map (·.unheld)) =
      model settings now directory name ds := by
  rw [model, model, aggregate_unheld]
  cases aggregate name ds with
  | error failure => rfl
  | ok group =>
    show Model.build settings now directory group.unheld none = _
    rw [Model.build, Draft.ofGroup_unheld]
    rfl

/-- What can be read off the model some descriptors ask for. -/
structure ModelOf (settings : Settings) (name : GroupName) (members : List Descriptor)
    (model : Model) : Prop where
  group : model.group = name
  ipv6 : model.ipv6 = settings.ipv6
  identity : model.identity = none
  domains : model.alternateDomains = (collectDomains members).toList
  isEmpty : model.isEmpty = members.isEmpty

theorem modelOf {ds : List Descriptor} {m : Model}
    (h : model settings now directory name ds = .ok m) :
    ModelOf settings name (membersOf name ds) m := by
  unfold model at h
  cases hgroup : aggregate name ds with
  | error failure =>
    rw [hgroup] at h
    cases h
  | ok group =>
    obtain ⟨rfl, hmembers⟩ := aggregate_eq_ok hgroup
    rw [hgroup] at h
    replace h : Model.build settings now directory group none = .ok m := h
    rw [Model.build, Draft.ofGroup] at h
    cases horigins : Origins.ofMembers group.members with
    | error fault =>
      rw [horigins] at h
      cases h
    | ok origins =>
      rw [horigins] at h
      obtain ⟨tls, rfl⟩ := Draft.finish_eq_ok h
      rw [← hmembers]
      exact ⟨rfl, rfl, rfl, rfl, Origins.isEmpty_ofMembers horigins⟩

variable {members : List Descriptor} {m : Model}

/-- The names of a model stand sorted and each once. -/
theorem ModelOf.ofList_domains (h : ModelOf settings name members m) :
    (SortedSet.ofList m.alternateDomains).toList = m.alternateDomains := by
  rw [h.domains]
  exact SortedSet.elems_eq_of_mem fun x => SortedSet.mem_ofList _ x

/-- Without members there are no names. -/
theorem ModelOf.domains_eq_nil (h : ModelOf settings name members m) (hm : m.isEmpty = true) :
    m.alternateDomains = [] := by
  rw [h.isEmpty, List.isEmpty_iff] at hm
  rw [h.domains, hm]
  rfl

end Group

end RouteConvergence
