/-
RouteConvergence.Proofs.WellFormedModels — what is true of the model of a
group whose members are all accepted.

A descriptor is checked by going through its rules one after the other and
telling the first that it breaks. `Descriptor.Accepted` is all the rules a
member has to keep, and `Descriptor.validate_iff` says that it is accepted
for no other reason. Every rule is about one member, and a model is put together
from many: patterns are made from paths, an origin is shared by the members of
one host, a pattern met twice is dropped. What comes of it is still well formed
(`Model.WellFormed`), because all there is in a model stands for a member:

* a behaviour is that of some member for one of its patterns
  (`Origins.mem_behaviors_iff`);
* an origin has a member behind it, and a behaviour for each pattern of that
  member (`Origins.member_behind`), also where another member of the host came
  first with the pattern.
-/
import RouteConvergence.Proofs.CutTexts
import RouteConvergence.Proofs.History
import RouteConvergence.Proofs.OriginContents
import RouteConvergence.Proofs.SubtreeLanguage

namespace RouteConvergence

/-! ## What acceptance comes to -/

namespace Descriptor

/-- What a member of a group is accepted for. -/
structure Accepted (d : Descriptor) : Prop where
  grouped : d.group ≠ ""
  /-- The host is not blank. -/
  host : ∃ c ∈ d.originHost.toList, Text.isBlank c = false
  paths : d.paths ≠ []
  rooted : ∀ p ∈ d.paths, Text.startsWith p.path "/" = true
  exact_plain : ∀ p ∈ d.paths, p.kind = .exact → ∀ c ∈ p.path.toList, isWildcard c = false
  domains : ∀ domain ∈ d.alternateDomains, Hostname.isValid domain = true
  timeout : ∀ seconds, d.responseTimeout = some seconds →
    1 ≤ seconds ∧ seconds ≤ maxResponseTimeout
  policies : d.originRequestPolicy.isSome = true → d.cachePolicy.isSome = true
  viewers : ∀ f ∈ d.functions, f.kind = .viewer → f.event.isViewer = true
  events : (d.functions.map (·.event)).Nodup

theorem pathRefusal?_eq_none_iff {index : Nat} {paths : List PathSpec} :
    pathRefusal? index paths = none ↔ ∀ p ∈ paths, Text.startsWith p.path "/" = true ∧
      (p.kind = .exact → ∀ c ∈ p.path.toList, isWildcard c = false) := by
  induction paths generalizing index with
  | nil => simp [pathRefusal?]
  | cons p rest ih =>
    rw [pathRefusal?, List.forall_mem_cons, ← @ih (index + 1)]
    cases hroot : Text.startsWith p.path "/" with
    | false => simp
    | true =>
      by_cases hwild : p.kind = .exact ∧ p.path.toList.any isWildcard = true
      · obtain ⟨c, hc, hcwild⟩ := List.any_eq_true.1 hwild.2
        simp only [hwild, and_self, if_true, Bool.not_true, Bool.false_eq_true, if_false,
          reduceCtorEq, true_and, forall_const, false_iff, not_and]
        intro hplain
        rw [hplain c hc] at hcwild
        cases hcwild
      · have hplain : p.kind = .exact → ∀ c ∈ p.path.toList, isWildcard c = false := by
          intro hexact c hc
          by_contra hnot
          exact hwild ⟨hexact, List.any_eq_true.2 ⟨c, hc, Bool.eq_true_of_not_eq_false hnot⟩⟩
        simp only [hwild, if_false, Bool.not_true, Bool.false_eq_true, true_and]
        exact ⟨fun h => ⟨hplain, h⟩, And.right⟩

theorem domainRefusal?_eq_none_iff {domains : List String} :
    domainRefusal? domains = none ↔ ∀ domain ∈ domains, Hostname.isValid domain = true := by
  simp [domainRefusal?]

theorem timeoutRefusal?_eq_none_iff {timeout : Option Nat} :
    timeoutRefusal? timeout = none ↔
      ∀ seconds, timeout = some seconds → 1 ≤ seconds ∧ seconds ≤ maxResponseTimeout := by
  cases timeout with
  | none => simp [timeoutRefusal?]
  | some seconds =>
    simp only [timeoutRefusal?, ite_eq_right_iff, reduceCtorEq, imp_false, Option.some.injEq,
      forall_eq']
    omega

/-- Functions are looked at in order, with the moments of those before them taken. -/
theorem functionRefusal?_eq_none_iff {taken : List FunctionEvent}
    {functions : List FunctionAssociation} :
    functionRefusal? taken functions = none ↔
      (∀ f ∈ functions, f.kind = .viewer → f.event.isViewer = true) ∧
        (functions.map (·.event)).Nodup ∧ ∀ f ∈ functions, f.event ∉ taken := by
  induction functions generalizing taken with
  | nil => simp [functionRefusal?]
  | cons f rest ih =>
    rw [functionRefusal?]
    by_cases hviewer : f.kind = .viewer ∧ f.event.isViewer = false
    · simp [hviewer]
    · by_cases htaken : f.event ∈ taken
      · simp [hviewer, htaken]
      · have hown : f.kind = .viewer → f.event.isViewer = true := by
          intro hkind
          exact Bool.eq_true_of_not_eq_false fun hnot => hviewer ⟨hkind, hnot⟩
        have hfresh : (∀ g ∈ rest, g.event ∉ f.event :: taken) ↔
            f.event ∉ rest.map (·.event) ∧ ∀ g ∈ rest, g.event ∉ taken := by
          simp only [List.mem_cons, not_or, List.mem_map, not_exists, not_and]
          exact ⟨fun h => ⟨fun g hg => (h g hg).1, fun g hg => (h g hg).2⟩,
            fun h g hg => ⟨h.1 g hg, h.2 g hg⟩⟩
        rw [if_neg hviewer, if_neg htaken, ih, hfresh, List.map_cons, List.nodup_cons,
          List.forall_mem_cons, List.forall_mem_cons]
        constructor
        · rintro ⟨hviewers, honce, hnew, hothers⟩
          exact ⟨⟨hown, hviewers⟩, ⟨hnew, honce⟩, htaken, hothers⟩
        · rintro ⟨⟨-, hviewers⟩, ⟨hnew, honce⟩, -, hothers⟩
          exact ⟨hviewers, honce, hnew, hothers⟩

theorem not_requestPolicyAlone_iff {request cache : Option String} :
    ¬ (request.isSome && cache.isNone) = true ↔
      (request.isSome = true → cache.isSome = true) := by
  cases request <;> cases cache <;> simp

theorem validate_eq_ok_iff {d : Descriptor} : d.validate = .ok () ↔ d.refusal? = none := by
  unfold validate
  cases d.refusal? <;> simp

/-- **A member is accepted exactly if it keeps all the rules.** -/
theorem validate_iff {d : Descriptor} (hprovisioned : d.provisioned = true)
    (hstays : d.beingRemoved = false) : d.validate = .ok () ↔ d.Accepted := by
  have hhost : ¬ Text.trim d.originHost = "" ↔
      ∃ c ∈ d.originHost.toList, Text.isBlank c = false := by
    rw [Text.trim_eq_empty_iff]
    simp
  rw [validate_eq_ok_iff, refusal?]
  simp only [hprovisioned, hstays, Bool.true_and, Bool.false_eq_true, if_false, ite_eq_iff,
    reduceCtorEq, and_false, false_or, String.isEmpty_iff, hhost, List.isEmpty_iff,
    Option.orElse_eq_none, pathRefusal?_eq_none_iff, domainRefusal?_eq_none_iff,
    timeoutRefusal?_eq_none_iff, not_requestPolicyAlone_iff, functionRefusal?_eq_none_iff,
    List.not_mem_nil,
    not_false_eq_true, implies_true, and_true]
  constructor
  · rintro ⟨hgroup, hhost, hpaths, hrules, hdomains, htimeout, hpolicies, hviewers, hevents⟩
    exact ⟨hgroup, hhost, hpaths, fun p hp => (hrules p hp).1, fun p hp => (hrules p hp).2,
      hdomains, htimeout, hpolicies, hviewers, hevents⟩
  · intro h
    exact ⟨h.grouped, h.host, h.paths, fun p hp => ⟨h.rooted p hp, h.exact_plain p hp⟩,
      h.domains, h.timeout, h.policies, h.viewers, h.events⟩

end Descriptor

/-! ## Patterns -/

namespace PathSpec

/-- The root of a subtree begins with a slash, but for that of everything, which is empty. -/
theorem startsWith_base {p : PathSpec} (h : Text.startsWith p.path "/" = true)
    (hroot : p.path ≠ "/") : Text.startsWith p.base "/" = true := by
  obtain ⟨rest, hrest⟩ := Text.startsWith_slash_iff.1 h
  rw [Text.startsWith_slash_iff, toList_base, hrest, Text.dropFinalSlash]
  cases rest with
  | nil => exact absurd (String.toList_inj.1 hrest) hroot
  | cons c rest =>
    split
    · exact ⟨_, List.dropLast_cons_cons⟩
    · exact ⟨_, rfl⟩

/-- **A path that begins with a slash** has patterns that do. -/
theorem startsWith_of_mem_patterns {p : PathSpec} (h : Text.startsWith p.path "/" = true)
    {pattern : String} (hpattern : pattern ∈ p.patterns) :
    Text.startsWith pattern "/" = true := by
  cases hkind : p.kind with
  | exact =>
    rw [(mem_patterns_of_exact hkind pattern).1 hpattern]
    exact h
  | subtree =>
    rcases (mem_patterns_of_subtree hkind pattern).1 hpattern with ⟨hroot, rfl⟩ | rfl
    · exact startsWith_base h hroot
    · by_cases hroot : p.path = "/"
      · rw [base_of_everything hroot]
        rfl
      · obtain ⟨rest, hrest⟩ := Text.startsWith_slash_iff.1 (startsWith_base h hroot)
        rw [Text.startsWith_slash_iff, String.toList_append, hrest]
        exact ⟨_, List.cons_append⟩

theorem patterns_ne_nil (p : PathSpec) : p.patterns ≠ [] := by
  unfold patterns
  split
  · exact List.cons_ne_nil _ _
  · split <;> exact List.cons_ne_nil _ _

theorem exists_mem_allPatterns {paths : List PathSpec} (h : paths ≠ []) :
    ∃ pattern, pattern ∈ allPatterns paths := by
  obtain ⟨p, hp⟩ := List.exists_mem_of_ne_nil paths h
  obtain ⟨pattern, hpattern⟩ := List.exists_mem_of_ne_nil p.patterns p.patterns_ne_nil
  exact ⟨pattern, List.mem_flatMap.2 ⟨p, hp, hpattern⟩⟩

end PathSpec

/-! ## Origins -/

namespace Origins

variable {members : List Descriptor} {result : List Origin}

/-- **Every origin has a member behind it**, with all that the member routes, and waits as
long as some member asks for. -/
theorem member_behind (h : ofMembers members = .ok result) {origin : Origin}
    (horigin : origin ∈ result) :
    (∃ member ∈ members, member.originHost = origin.host ∧
        ∀ pattern ∈ PathSpec.allPatterns member.paths,
          behaviorOf member pattern ∈ origin.behaviors) ∧
      ∀ seconds, origin.responseTimeout = some seconds →
        ∃ member ∈ members, member.responseTimeout = some seconds := by
  obtain ⟨routed, origins, hrouted, hgathered, rfl⟩ := gathered_ofMembers h
  obtain ⟨old, hold, rfl⟩ := hgathered.mem_finished.1 horigin
  obtain ⟨member, hmem, hhost⟩ := (hgathered.hosts old.host).1 ⟨old, hold⟩
  refine ⟨⟨member, hmem, hhost, fun pattern hpattern => ?_⟩, fun seconds hseconds => ?_⟩
  · have hmade := (hrouted.made pattern _).2 ⟨member, hmem, hpattern, rfl⟩
    obtain ⟨placed, hplaced, hb⟩ := hrouted.placed pattern _ hmade
    -- The origin of the member's host is the one at hand.
    have hsame : origins.get? old.host = some placed := hhost ▸ hplaced
    rw [hold] at hsame
    cases hsame
    exact List.mem_mergeSort.2 hb
  · obtain ⟨other, hother, -, hasked⟩ := (hgathered.timeouts _ old hold seconds).1 hseconds
    exact ⟨other, hother, hasked⟩

end Origins

/-! ## Models -/

/-- A group has no members exactly if none of the descriptors is one. -/
theorem Group.membersOf_eq_nil_iff {name : GroupName} {ds : List Descriptor} :
    membersOf name ds = [] ↔ ∀ d ∈ ds, d.isMemberOf name = false := by
  constructor
  · intro hnone d hd
    by_contra hmember
    have hsorted : d ∈ (ds.filter (·.isMemberOf name)).mergeSort mayPrecede :=
      List.mem_mergeSort.2 (List.mem_filter.2 ⟨hd, Bool.eq_true_of_not_eq_false hmember⟩)
    obtain ⟨e, he, -⟩ := exists_mem_dropRepeated hsorted
    exact List.ne_nil_of_mem he hnone
  · intro hnone
    refine List.eq_nil_iff_forall_not_mem.2 fun d hd => ?_
    obtain ⟨hgiven, hmember⟩ := isMemberOf_of_mem_membersOf hd
    rw [hnone d hgiven] at hmember
    cases hmember

namespace Model

/-- What is true of the model of accepted members. -/
structure WellFormed (m : Model) : Prop where
  rooted : ∀ b ∈ m.origins.flatMap (·.behaviors), Text.startsWith b.pattern "/" = true
  /-- No pattern is routed twice, in one origin or in several. -/
  patterns_once : ((m.origins.flatMap (·.behaviors)).map (·.pattern)).Nodup
  hosts : ∀ origin ∈ m.origins, ∃ c ∈ origin.host.toList, Text.isBlank c = false
  routed : ∀ origin ∈ m.origins, origin.behaviors ≠ []
  timeouts : ∀ origin ∈ m.origins, ∀ seconds, origin.responseTimeout = some seconds →
    1 ≤ seconds ∧ seconds ≤ 180
  policies : ∀ b ∈ m.origins.flatMap (·.behaviors),
    b.originRequestPolicy.isSome = true → b.cachePolicy.isSome = true
  /-- At each moment at most one function runs. -/
  events_once : ∀ b ∈ m.origins.flatMap (·.behaviors), (b.functions.map (·.event)).Nodup
  viewers : ∀ b ∈ m.origins.flatMap (·.behaviors), ∀ f ∈ b.functions,
    f.kind = .viewer → f.event.isViewer = true
  /-- A model without origins has nothing to serve under names. -/
  unnamed : m.isEmpty = true → m.alternateDomains = [] ∧ m.tls = none

variable {settings : Settings} {now : Instant} {directory : List Certificate} {group : Group}
  {identity : Option Identity} {model : Model}

theorem isEmpty_of_build (h : build settings now directory group identity = .ok model) :
    model.isEmpty = group.isEmpty :=
  Origins.isEmpty_ofMembers (ofMembers_of_build h)

/-- Without members there is no name, and so no certificate. -/
theorem unnamed_of_no_members (hnone : group.members = [])
    (h : build settings now directory group identity = .ok model) :
    model.alternateDomains = [] ∧ model.tls = none := by
  rw [build, Draft.ofGroup, hnone] at h
  have hnames : (collectDomains []).toList = [] := rfl
  have hfinish : ∀ draft : Draft, draft.uncovered = [] → draft.model.alternateDomains = [] →
      draft.model.tls = none →
        draft.finish settings (.ok (Certificate.usable now directory)) = .ok model →
          model.alternateDomains = [] ∧ model.tls = none := by
    intro draft hcovered hdomains htls hdone
    rw [Draft.finish, hcovered] at hdone
    cases hdone
    exact ⟨hdomains, htls⟩
  refine hfinish _ ?_ hnames rfl h
  exact ite_self _

/-- **Accepted members make a well-formed model.** -/
theorem wellFormed_of_accepted (hmembers : ∀ member ∈ group.members, member.Accepted)
    (h : build settings now directory group identity = .ok model) : model.WellFormed := by
  have horigins := ofMembers_of_build h
  have hbehavior : ∀ b ∈ model.origins.flatMap (·.behaviors), ∃ member ∈ group.members,
      b.pattern ∈ PathSpec.allPatterns member.paths ∧ b = Origins.behaviorOf member b.pattern :=
    fun b hb => (Origins.mem_behaviors_iff horigins b).1 hb
  refine ⟨?_, ?_, ?_, ?_, ?_, ?_, ?_, ?_, ?_⟩
  · intro b hb
    obtain ⟨member, hmem, hpattern, -⟩ := hbehavior b hb
    obtain ⟨p, hp, hpattern⟩ := List.mem_flatMap.1 hpattern
    exact PathSpec.startsWith_of_mem_patterns ((hmembers member hmem).rooted p hp) hpattern
  · obtain ⟨routed, origins, hrouted, hgathered, hfinished⟩ := Origins.gathered_ofMembers horigins
    rw [hfinished]
    exact hgathered.patterns_once hrouted
  · intro origin horigin
    obtain ⟨⟨member, hmem, hhost, -⟩, -⟩ := Origins.member_behind horigins horigin
    exact hhost ▸ (hmembers member hmem).host
  · intro origin horigin
    obtain ⟨⟨member, hmem, -, hroutes⟩, -⟩ := Origins.member_behind horigins horigin
    obtain ⟨pattern, hpattern⟩ := PathSpec.exists_mem_allPatterns (hmembers member hmem).paths
    exact List.ne_nil_of_mem (hroutes pattern hpattern)
  · intro origin horigin seconds hseconds
    obtain ⟨member, hmem, hasked⟩ := (Origins.member_behind horigins horigin).2 seconds hseconds
    exact (hmembers member hmem).timeout seconds hasked
  · intro b hb
    obtain ⟨member, hmem, -, hmade⟩ := hbehavior b hb
    rw [hmade]
    exact (hmembers member hmem).policies
  · intro b hb
    obtain ⟨member, hmem, -, hmade⟩ := hbehavior b hb
    rw [hmade]
    exact (hmembers member hmem).events
  · intro b hb
    obtain ⟨member, hmem, -, hmade⟩ := hbehavior b hb
    rw [hmade]
    exact (hmembers member hmem).viewers
  · intro hempty
    rw [isEmpty_of_build h] at hempty
    exact unnamed_of_no_members (List.isEmpty_iff.1 hempty) h

/-- **A group whose members are all valid has a well-formed model**, whatever the settings
and the certificates, if there is a model at all. It is empty exactly if none of the
descriptors is a member. -/
theorem wellFormed_of_validate (settings : Settings) (now : Instant) (directory : List Certificate)
    (name : GroupName) (descriptors : List Descriptor)
    (hvalid : ∀ d ∈ descriptors, d.isMemberOf name = true → d.validate = .ok ()) (group : Group)
    (hgroup : Group.aggregate name descriptors = .ok group) (identity : Option Identity)
    (model : Model) (hmodel : build settings now directory group identity = .ok model) :
    model.WellFormed ∧
      (model.isEmpty = true ↔ ∀ d ∈ descriptors, d.isMemberOf name = false) := by
  have hmembers := (Group.aggregate_eq_ok hgroup).2
  refine ⟨wellFormed_of_accepted (fun member hmem => ?_) hmodel, ?_⟩
  · rw [hmembers] at hmem
    obtain ⟨hgiven, hmember⟩ := Group.isMemberOf_of_mem_membersOf hmem
    have hrole := hmember
    simp only [Descriptor.isMemberOf, Bool.and_eq_true, Bool.not_eq_true'] at hrole
    exact (Descriptor.validate_iff hrole.1.2 hrole.2).1 (hvalid member hgiven hmember)
  · rw [isEmpty_of_build hmodel, Group.isEmpty, hmembers, List.isEmpty_iff]
    exact Group.membersOf_eq_nil_iff

end Model

/-! ## A gallery

A gallery behind the host of the shop, with functions and policies of its own, and an older
one that was never well formed and is on its way out. -/

/-- The pictures of the shop. -/
def Descriptor.gallery : Descriptor :=
  { bare ⟨"web", "gallery"⟩ "public" with
    originHost := "shop.internal"
    provisioned := true
    paths := [⟨"/g/", .subtree⟩]
    functions := [⟨.viewer, .viewerRequest, "arn:resize", false⟩,
      ⟨.edge, .originRequest, "arn:sign", true⟩]
    originRequestPolicy := some "signed"
    cachePolicy := some "long" }

namespace Model

/-- Nobody looks at the paths of the gallery that is being removed, and they do not come into
the model. -/
theorem wellFormed_of_validate_gallery :
    let leaving : Descriptor :=
      { Descriptor.gallery with
        reference := ⟨"web", "old-gallery"⟩, paths := [⟨"g", .exact⟩], beingRemoved := true }
    let descriptors : List Descriptor := [.gallery, leaving, .shopFront]
    (∀ d ∈ descriptors, d.isMemberOf "public" = true → d.validate = .ok ()) ∧
      ∃ group model, Group.aggregate "public" descriptors = .ok group ∧
        build default .someNoon [] group none = .ok model ∧
        model.WellFormed ∧ model.isEmpty = false := by
  intro leaving descriptors
  have hvalid : ∀ d ∈ descriptors, d.isMemberOf "public" = true → d.validate = .ok () := by
    have hok : ∀ d ∈ descriptors, d.isMemberOf "public" = true → d.validate.isOk = true := by
      decide +kernel
    exact fun d hd hmember => Outcome.isOk_iff.1 (hok d hd hmember)
  have hgroup : Group.aggregate "public" descriptors =
      .ok ⟨"public", [.gallery, .shopFront], none⟩ := by cbv
  obtain ⟨model, hmodel⟩ : ∃ model,
      build default .someNoon [] ⟨"public", [.gallery, .shopFront], none⟩ none = .ok model :=
    Outcome.isOk_iff_exists.1 (by cbv)
  obtain ⟨hwell, hempty⟩ := wellFormed_of_validate default .someNoon [] "public" descriptors hvalid
    _ hgroup none model hmodel
  refine ⟨hvalid, _, model, hgroup, hmodel, hwell, ?_⟩
  rw [← Bool.not_eq_true, hempty]
  exact fun hnone => absurd (hnone .gallery List.mem_cons_self) (by decide)

end Model

end RouteConvergence
