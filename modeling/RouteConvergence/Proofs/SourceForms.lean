/-
RouteConvergence.Proofs.SourceForms — one route in both source formats.

A route that has no functions, names, tags or timeout is a few texts and its
paths (`RouteTexts`). They can be written as annotations of an object or as
the fields of a manifest. Both formats bring group and host to one form, but
not the three options: an annotation is trimmed and a blank one is missing,
while a manifest's policies are taken as they stand, and of its firewall id
only a blank one is missing.

* `RouteTexts.normalize_annotated`, `RouteTexts.normalize_manifest` — each
  normal form is `RouteTexts.descriptor`, of the texts as that format reads
  them.
* `RouteTexts.validate_descriptor_iff` — what such a descriptor is accepted
  for.
* `RouteTexts.forms_agree_iff` — the formats agree on a route exactly if its
  options are tidy or both refuse it, and on every route that is tidied
  before it is written into a manifest.
-/
import RouteConvergence.Proofs.WellFormedModels
import RouteConvergence.Source.Annotated

namespace RouteConvergence

/-! ## Annotations -/

theorem AnnotationKey.text_inj {a b : AnnotationKey} : a.text = b.text ↔ a = b := by
  refine ⟨fun h => ?_, congrArg text⟩
  cases a <;> cases b <;> first | rfl | simp [text] at h

/-- Annotations with one more, if there is a text for it. -/
def withOption (annotations : SortedMap String String) (key : AnnotationKey) :
    Option String → SortedMap String String
  | none => annotations
  | some text => annotations.insert key.text text

theorem get?_withOption (annotations : SortedMap String String) (key key' : AnnotationKey)
    (text? : Option String) :
    (withOption annotations key text?).get? key'.text =
      if key' = key then text? <|> annotations.get? key'.text
      else annotations.get? key'.text := by
  cases text? with
  | none => simp [withOption]
  | some text =>
    by_cases hkey : key' = key
    · subst hkey
      simp [withOption]
    · rw [withOption, SortedMap.get?_insert_ne _ _ (mt AnnotationKey.text_inj.1 hkey), if_neg hkey]

/-! ## Trimmed texts -/

theorem trimmed?_eq_some_iff {s t : String} :
    trimmed? s = some t ↔ Text.trim s = t ∧ t ≠ "" := by
  unfold trimmed?
  dsimp only
  split
  · next hblank =>
    rw [String.isEmpty_iff] at hblank
    simp only [reduceCtorEq, false_iff, not_and, not_not]
    exact fun h => h.symm.trans hblank
  · next hthere =>
    rw [String.isEmpty_iff] at hthere
    simp only [Option.some.injEq]
    exact ⟨fun h => ⟨h, h ▸ hthere⟩, And.left⟩

theorem trimmed?_eq_none_iff {s : String} : trimmed? s = none ↔ Text.trim s = "" := by
  simp [trimmed?]

/-- A text stays as it is if it is neither blank nor padded. -/
theorem bind_trimmed?_eq_self_iff {text : Option String} :
    text.bind trimmed? = text ↔ ∀ s, text = some s → s ≠ "" ∧ Text.trim s = s := by
  cases text with
  | none => simp
  | some s =>
    simp only [Option.bind_some, trimmed?_eq_some_iff, Option.some.injEq, forall_eq']
    exact and_comm

/-- Trimming a text does no more than leaving it out if it is blank, as long as
it is not padded. -/
theorem bind_trimmed?_eq_filter_iff {text : Option String} :
    text.bind trimmed? = text.filter (fun s => !(Text.trim s).isEmpty) ↔
      ∀ s, text = some s → Text.trim s = "" ∨ Text.trim s = s := by
  cases text with
  | none => simp
  | some s =>
    by_cases hblank : Text.trim s = ""
    · simp [trimmed?_eq_none_iff.2 hblank, Option.filter_some, hblank]
    · have hthere : trimmed? s = some (Text.trim s) := trimmed?_eq_some_iff.2 ⟨rfl, hblank⟩
      simp [hthere, Option.filter_some, hblank]

theorem isSome_bind_trimmed?_iff {text : Option String} :
    (text.bind trimmed?).isSome = true ↔ ∃ s, text = some s ∧ Text.trim s ≠ "" := by
  cases text <;> simp [Option.isSome_iff_ne_none, trimmed?_eq_none_iff]

/-! ## A route and its two forms -/

/-- The texts of a route, as they are before any format reads them. -/
structure RouteTexts where
  scope : String
  name : String
  group : String
  host : Option String
  webAcl : Option String
  cachePolicy : Option String
  originRequestPolicy : Option String
  paths : List PathSpec
  removed : Bool
deriving DecidableEq

namespace RouteTexts

/-- The texts as annotations, none for what is absent. -/
def annotations (t : RouteTexts) : SortedMap String String :=
  let grouped := withOption .empty .group (some t.group)
  let guarded := withOption grouped .webAcl t.webAcl
  let cached := withOption guarded .cachePolicy t.cachePolicy
  withOption cached .originRequestPolicy t.originRequestPolicy

/-- A path as the rule of an object. -/
def rulePath (p : PathSpec) : RulePath :=
  match p.kind with
  | .exact => ⟨p.path, .exact⟩
  | .subtree => ⟨p.path, .subtree⟩

/-- The route as an object with annotations. -/
def annotated (t : RouteTexts) : AnnotatedRoute where
  scope := t.scope
  name := t.name
  annotations := t.annotations
  paths := t.paths.map rulePath
  loadBalancer := t.host
  deletionRequested := t.removed
  finalizers := []

/-- The route as a manifest. -/
def manifest (t : RouteTexts) : Manifest where
  scope := t.scope
  name := t.name
  group := t.group
  originHost := t.host
  paths := t.paths.map fun p => ⟨p.path, p.kind⟩
  viewerFunctions := []
  edgeFunctions := []
  originRequestPolicy := t.originRequestPolicy
  cachePolicy := t.cachePolicy
  responseTimeout := none
  alternateDomains := []
  webAcl := t.webAcl
  tags := .empty
  removed := t.removed
  finalizer := .released

/-- A descriptor if it is accepted. -/
def validated (d : Descriptor) : Outcome Descriptor := do
  d.validate
  return d

/-- What comes of the route as an object. -/
def fromAnnotations (t : RouteTexts) : Outcome Descriptor := t.annotated.normalize >>= validated

/-- What comes of the route as a manifest. -/
def fromManifest (t : RouteTexts) : Outcome Descriptor := validated t.manifest.normalize

/-- The formats agree on a route if what is accepted in one is accepted in the
other, with the same descriptor. -/
def FormsAgree (t : RouteTexts) : Prop :=
  ∀ d, t.fromAnnotations = .ok d ↔ t.fromManifest = .ok d

variable {t : RouteTexts}

theorem FormsAgree.toOption_eq (h : t.FormsAgree) :
    t.fromAnnotations.toOption = t.fromManifest.toOption := by
  have hok : ∀ {outcome : Outcome Descriptor} {d}, outcome.toOption = some d ↔ outcome = .ok d := by
    intro outcome d
    cases outcome <;> simp [Except.toOption]
  ext d
  rw [hok, hok, h d]

/-! ## Normal forms -/

/-- The descriptor of a route whose options are taken as they stand. -/
def descriptor (t : RouteTexts) : Descriptor :=
  { (Descriptor.bare ⟨t.scope, t.name⟩ (Text.trim t.group)).behind (t.host.bind trimmed?) with
    paths := t.paths
    originRequestPolicy := t.originRequestPolicy
    cachePolicy := t.cachePolicy
    webAcl := t.webAcl
    beingRemoved := t.removed }

/-- The route with its options trimmed, and without blank ones. -/
def tidied (t : RouteTexts) : RouteTexts :=
  { t with
    webAcl := t.webAcl.bind trimmed?
    cachePolicy := t.cachePolicy.bind trimmed?
    originRequestPolicy := t.originRequestPolicy.bind trimmed? }

/-- The route without its firewall id if that is blank. -/
def withoutBlankAcl (t : RouteTexts) : RouteTexts :=
  { t with webAcl := t.webAcl.filter fun acl => !(Text.trim acl).isEmpty }

/-- The text behind an annotation. -/
def text? (t : RouteTexts) : AnnotationKey → Option String
  | .group => some t.group
  | .webAcl => t.webAcl
  | .cachePolicy => t.cachePolicy
  | .originRequestPolicy => t.originRequestPolicy
  | _ => none

theorem get?_annotations (t : RouteTexts) (key : AnnotationKey) :
    t.annotations.get? key.text = t.text? key := by
  simp only [annotations, get?_withOption, SortedMap.get?_empty]
  cases key <;> simp [text?]

theorem option?_annotated (t : RouteTexts) (key : AnnotationKey) :
    t.annotated.option? key = (t.text? key).bind trimmed? := by
  rw [← get?_annotations]
  rfl

/-- **Annotations are read tidied**, and a group has to be among them. -/
theorem normalize_annotated (t : RouteTexts) :
    t.annotated.normalize =
      if Text.trim t.group = "" then
        .error (.refused (.groupAnnotationMissing ⟨t.scope, t.name⟩))
      else .ok t.tidied.descriptor := by
  have hretired : t.annotated.annotations.contains AnnotationKey.retiredEdgeFunction.text =
      false := by
    rw [SortedMap.contains]
    show (t.annotations.get? _).isSome = false
    rw [get?_annotations]
    rfl
  have hpaths : (t.annotated.paths.map
      fun rule => (⟨rule.path, rule.type.matchKind⟩ : PathSpec)) = t.paths := by
    rw [annotated, List.map_map]
    refine List.map_id'' ?_ _
    rintro ⟨path, _ | _⟩ <;> rfl
  simp only [AnnotatedRoute.normalize, hretired, option?_annotated, text?, Option.bind_some,
    Bool.false_eq_true, if_false]
  cases hgroup : trimmed? t.group with
  | none =>
    rw [if_pos (trimmed?_eq_none_iff.1 hgroup)]
    rfl
  | some group =>
    obtain ⟨rfl, hthere⟩ := trimmed?_eq_some_iff.1 hgroup
    have hhost : t.annotated.loadBalancer = t.host := rfl
    simp only [if_neg hthere, AnnotatedRoute.normalizeIn, option?_annotated, text?, hpaths, hhost,
      descriptor, tidied]
    cases t.host.bind trimmed? <;> rfl

/-- **A manifest is read as it stands**, but for a blank firewall id. -/
theorem normalize_manifest (t : RouteTexts) :
    t.manifest.normalize = t.withoutBlankAcl.descriptor := by
  have hpaths : (t.paths.map fun p => (⟨p.path, p.kind⟩ : ManifestPath)).map
      (fun p => (⟨p.path, p.kind⟩ : PathSpec)) = t.paths := by
    rw [List.map_map]
    exact List.map_id _
  simp only [Manifest.normalize, manifest, hpaths, descriptor, withoutBlankAcl]
  cases t.host.bind trimmed? <;> rfl

/-- No blank firewall id is left by tidying. -/
theorem withoutBlankAcl_tidied (t : RouteTexts) : t.tidied.withoutBlankAcl = t.tidied := by
  have hkept : (t.webAcl.bind trimmed?).filter (fun acl => !(Text.trim acl).isEmpty) =
      t.webAcl.bind trimmed? := by
    cases hacl : t.webAcl.bind trimmed? with
    | none => rfl
    | some acl =>
      obtain ⟨given, -, htrimmed⟩ := Option.bind_eq_some_iff.1 hacl
      obtain ⟨rfl, hthere⟩ := trimmed?_eq_some_iff.1 htrimmed
      simp [Option.filter_some, Text.trim_trim, hthere]
  rw [withoutBlankAcl, tidied, hkept]

/-! ## Acceptance -/

/-- The rules for the paths of a route. -/
structure PathsKept (paths : List PathSpec) : Prop where
  some : paths ≠ []
  rooted : ∀ p ∈ paths, Text.startsWith p.path "/" = true
  exact_plain : ∀ p ∈ paths, p.kind = .exact → ∀ c ∈ p.path.toList, Descriptor.isWildcard c = false

/-- What a route with these options is accepted for: it names a group, and as
long as it stays, its paths keep the rules and it has no origin request
policy without a cache policy. -/
structure Accepted (t : RouteTexts) : Prop where
  grouped : Text.trim t.group ≠ ""
  paths : t.removed = false → PathsKept t.paths
  policies : t.removed = false →
    t.originRequestPolicy.isSome = true → t.cachePolicy.isSome = true

/-- A host is only set if there is something of it. -/
theorem host_descriptor (t : RouteTexts) :
    (t.descriptor.provisioned && (Text.trim t.descriptor.originHost).isEmpty) = false := by
  rw [descriptor]
  cases hhost : t.host.bind trimmed? with
  | none => rfl
  | some host =>
    obtain ⟨given, -, htrimmed⟩ := Option.bind_eq_some_iff.1 hhost
    obtain ⟨rfl, hthere⟩ := trimmed?_eq_some_iff.1 htrimmed
    simpa [Descriptor.behind, Text.trim_trim] using hthere

/-- **A descriptor of a route is accepted for nothing else**: its host is not
blank, and it has no names, timeout or functions to be refused for. -/
theorem validate_descriptor_iff : t.descriptor.validate = .ok () ↔ t.Accepted := by
  have hbare : t.descriptor.alternateDomains = [] ∧ t.descriptor.responseTimeout = none ∧
      t.descriptor.functions = [] ∧ t.descriptor.group = Text.trim t.group := by
    rw [descriptor]
    cases t.host.bind trimmed? <;> exact ⟨rfl, rfl, rfl, rfl⟩
  obtain ⟨hdomains, htimeout, hfunctions, hgroup⟩ := hbare
  have hpaths : t.descriptor.paths = t.paths := rfl
  have hremoved : t.descriptor.beingRemoved = t.removed := rfl
  have hcache : t.descriptor.cachePolicy = t.cachePolicy := rfl
  have hrequest : t.descriptor.originRequestPolicy = t.originRequestPolicy := rfl
  rw [Descriptor.validate_eq_ok_iff, Descriptor.refusal?, host_descriptor, hgroup, hremoved]
  simp only [Option.orElse_eq_none, ite_eq_iff, reduceCtorEq, and_false, and_true, false_or,
    not_false_eq_true, true_and, String.isEmpty_iff, List.isEmpty_iff, List.find?_nil,
    Option.map_none, Descriptor.pathRefusal?_eq_none_iff, Descriptor.not_requestPolicyAlone_iff,
    hdomains, htimeout, hfunctions, hpaths, hcache, hrequest, Descriptor.domainRefusal?,
    Descriptor.timeoutRefusal?, Descriptor.functionRefusal?]
  constructor
  · rintro ⟨hthere, hrules⟩
    refine ⟨hthere, fun hstays => ?_, fun hstays => ?_⟩
    all_goals
      obtain ⟨-, hsome, hpaths, hpolicies⟩ := hrules.resolve_left (by simp [hstays])
    · exact ⟨hsome, fun p hp => (hpaths p hp).1, fun p hp => (hpaths p hp).2⟩
    · exact hpolicies
  · intro h
    refine ⟨h.grouped, ?_⟩
    cases hstays : t.removed with
    | true => exact Or.inl rfl
    | false =>
      have hkept := h.paths hstays
      exact Or.inr ⟨Bool.false_ne_true, hkept.some,
        fun p hp => ⟨hkept.rooted p hp, hkept.exact_plain p hp⟩, h.policies hstays⟩

theorem validated_eq_ok_iff {d d' : Descriptor} :
    validated d = .ok d' ↔ d.validate = .ok () ∧ d = d' := by
  rw [validated]
  cases d.validate <;> simp

/-- An object is accepted as its options are after tidying. -/
theorem fromAnnotations_eq_ok_iff {d : Descriptor} :
    t.fromAnnotations = .ok d ↔ t.tidied.Accepted ∧ t.tidied.descriptor = d := by
  rw [fromAnnotations, Outcome.bind_eq_ok, normalize_annotated]
  split
  · next hblank =>
    simp only [reduceCtorEq, false_and, exists_false, false_iff, not_and]
    exact fun h => absurd hblank h.grouped
  · simp only [Except.ok.injEq, exists_eq_left', validated_eq_ok_iff, validate_descriptor_iff]

/-- A manifest is accepted as its options are. -/
theorem fromManifest_eq_ok_iff {d : Descriptor} :
    t.fromManifest = .ok d ↔ t.Accepted ∧ t.withoutBlankAcl.descriptor = d := by
  have haccepted : t.withoutBlankAcl.Accepted ↔ t.Accepted :=
    ⟨fun h => ⟨h.grouped, h.paths, h.policies⟩, fun h => ⟨h.grouped, h.paths, h.policies⟩⟩
  rw [fromManifest, normalize_manifest, validated_eq_ok_iff, validate_descriptor_iff, haccepted]

/-! ## Agreement -/

/-- The options of a route are tidy if nothing is to be trimmed from them and
only the firewall id is blank, if any. -/
structure Tidy (t : RouteTexts) : Prop where
  webAcl : ∀ acl, t.webAcl = some acl → Text.trim acl = "" ∨ Text.trim acl = acl
  cachePolicy : ∀ id, t.cachePolicy = some id → id ≠ "" ∧ Text.trim id = id
  originRequestPolicy : ∀ id, t.originRequestPolicy = some id → id ≠ "" ∧ Text.trim id = id

/-- The reasons for which both formats refuse a route: the group is blank, or
it stays and breaks a rule for paths, or it has an origin request policy
that is not blank without any cache policy. -/
def Refused (t : RouteTexts) : Prop :=
  Text.trim t.group = "" ∨ t.removed = false ∧
    (¬ PathsKept t.paths ∨
      t.cachePolicy = none ∧ ∃ id, t.originRequestPolicy = some id ∧ Text.trim id ≠ "")

/-- Tidy options are read alike by both formats. -/
theorem tidy_iff : t.Tidy ↔ t.tidied.descriptor = t.withoutBlankAcl.descriptor := by
  have hacl := @bind_trimmed?_eq_filter_iff t.webAcl
  have hcache := @bind_trimmed?_eq_self_iff t.cachePolicy
  have hrequest := @bind_trimmed?_eq_self_iff t.originRequestPolicy
  constructor
  · intro h
    have hsame : t.tidied = t.withoutBlankAcl := by
      rw [tidied, withoutBlankAcl, hacl.2 h.webAcl, hcache.2 h.cachePolicy,
        hrequest.2 h.originRequestPolicy]
    rw [hsame]
  · intro h
    exact ⟨hacl.1 (congrArg Descriptor.webAcl h), hcache.1 (congrArg Descriptor.cachePolicy h),
      hrequest.1 (congrArg Descriptor.originRequestPolicy h)⟩

/-- Tidying makes no difference to whether a tidy route is accepted. -/
theorem Tidy.accepted_iff (h : t.Tidy) : t.tidied.Accepted ↔ t.Accepted := by
  have hcache := bind_trimmed?_eq_self_iff.2 h.cachePolicy
  have hrequest := bind_trimmed?_eq_self_iff.2 h.originRequestPolicy
  have hpolicies : (t.tidied.originRequestPolicy.isSome = true →
      t.tidied.cachePolicy.isSome = true) ↔
        (t.originRequestPolicy.isSome = true → t.cachePolicy.isSome = true) := by
    rw [tidied, hcache, hrequest]
  exact ⟨fun h => ⟨h.grouped, h.paths, fun hstays => hpolicies.1 (h.policies hstays)⟩,
    fun h => ⟨h.grouped, h.paths, fun hstays => hpolicies.2 (h.policies hstays)⟩⟩

/-- A route is refused by both formats for these reasons and no others. -/
theorem refused_by_both_iff : t.Refused ↔ ¬ t.Accepted ∧ ¬ t.tidied.Accepted := by
  constructor
  · rintro (hblank | ⟨hstays, hpaths | ⟨hcache, id, hrequest, hthere⟩⟩)
    · exact ⟨fun h => h.grouped hblank, fun h => h.grouped hblank⟩
    · exact ⟨fun h => hpaths (h.paths hstays), fun h => hpaths (h.paths hstays)⟩
    · refine ⟨fun h => ?_, fun h => ?_⟩
      · exact absurd (h.policies hstays (by rw [hrequest]; rfl)) (by simp [hcache])
      · exact absurd (h.policies hstays (isSome_bind_trimmed?_iff.2 ⟨id, hrequest, hthere⟩))
          (by simp [tidied, hcache])
  · rintro ⟨hrefused, htidied⟩
    by_contra hnot
    simp only [Refused, not_or, not_and, not_not, not_exists] at hnot
    obtain ⟨hgroup, hnot⟩ := hnot
    -- What is left are the policies: with a cache policy the manifest is accepted, and without one
    -- the request policy is blank, so the object is.
    cases hcache : t.cachePolicy with
    | some id =>
      exact hrefused ⟨hgroup, fun hstays => (hnot hstays).1, fun _ _ => hcache ▸ rfl⟩
    | none =>
      refine htidied ⟨hgroup, fun hstays => (hnot hstays).1, fun hstays hrequest => ?_⟩
      obtain ⟨id, hgiven, hthere⟩ := isSome_bind_trimmed?_iff.1 hrequest
      exact absurd ((hnot hstays).2 hcache id hgiven) hthere

/-- **The formats agree on a route exactly if its options are tidy or both
refuse it.** Once its options are tidied they agree on it always: what
makes the difference is that a manifest does not tidy them. -/
theorem forms_agree_iff (t : RouteTexts) :
    (t.FormsAgree ↔ t.Tidy ∨ t.Refused) ∧
      ∀ d, t.fromAnnotations = .ok d ↔ t.tidied.fromManifest = .ok d := by
  refine ⟨⟨fun hagree => ?_, ?_⟩, fun d => ?_⟩
  · by_cases hrefused : t.Refused
    · exact Or.inr hrefused
    · refine Or.inl (tidy_iff.2 ?_)
      rw [refused_by_both_iff, not_and_or, not_not, not_not] at hrefused
      rcases hrefused with haccepted | haccepted
      · exact (fromAnnotations_eq_ok_iff.1
          ((hagree _).2 (fromManifest_eq_ok_iff.2 ⟨haccepted, rfl⟩))).2
      · exact (fromManifest_eq_ok_iff.1
          ((hagree _).1 (fromAnnotations_eq_ok_iff.2 ⟨haccepted, rfl⟩))).2.symm
  · rintro (htidy | hrefused) d
    · rw [fromAnnotations_eq_ok_iff, fromManifest_eq_ok_iff, htidy.accepted_iff,
        tidy_iff.1 htidy]
    · obtain ⟨hmanifest, hannotated⟩ := refused_by_both_iff.1 hrefused
      rw [fromAnnotations_eq_ok_iff, fromManifest_eq_ok_iff]
      exact ⟨fun h => absurd h.1 hannotated, fun h => absurd h.1 hmanifest⟩
  · rw [fromAnnotations_eq_ok_iff, fromManifest_eq_ok_iff, withoutBlankAcl_tidied]

/-- A padded firewall id stays padded in a manifest, and a blank cache policy
of a manifest counts as one. -/
theorem forms_differ :
    let padded : RouteTexts :=
      ⟨"shop", "checkout", "public", some "lb.internal", some " acl-1", none, none,
        [⟨"/checkout", .subtree⟩], false⟩
    let blank : RouteTexts :=
      { padded with webAcl := none, cachePolicy := some " ", originRequestPolicy := some "all" }
    (padded.fromAnnotations.toOption.map (·.webAcl) = some (some "acl-1") ∧
        padded.fromManifest.toOption.map (·.webAcl) = some (some " acl-1") ∧
        ¬ padded.FormsAgree) ∧
      blank.fromAnnotations.toOption = none ∧ blank.fromManifest.toOption.isSome = true ∧
        ¬ blank.FormsAgree := by
  intro padded blank
  have hpadded : padded.fromAnnotations.toOption.map (·.webAcl) = some (some "acl-1") ∧
      padded.fromManifest.toOption.map (·.webAcl) = some (some " acl-1") := by decide +kernel
  have hblank : blank.fromAnnotations.toOption = none ∧
      blank.fromManifest.toOption.isSome = true := by decide +kernel
  refine ⟨⟨hpadded.1, hpadded.2, fun hagree => ?_⟩, hblank.1, hblank.2, fun hagree => ?_⟩
  · have hsame := hpadded.1
    rw [hagree.toOption_eq, hpadded.2] at hsame
    exact absurd hsame (by decide +kernel)
  · have hthere := hblank.2
    rw [← hagree.toOption_eq, hblank.1] at hthere
    cases hthere

end RouteTexts

end RouteConvergence
