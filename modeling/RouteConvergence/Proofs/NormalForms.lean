/-
RouteConvergence.Proofs.NormalForms — what becomes of a file of routes.

A file holds routes in two forms, and each form has a way of its own to the
normal form. What follows relies on both alike: routes are kept by reference,
groups are told apart by their names as they are, and a route that is said to
be provisioned has a host.

* `RouteFile.Entry` — a route of a file in either form.
* `Descriptor.Tidied` — group and host are bare, and there is a host exactly
  if the route is provisioned; `Descriptor.tidied_behind` is what both forms
  come down to.
* `Descriptor.Tidied.validate_ne` — such a descriptor is not refused for want
  of a host.
* `RouteFile.descriptors_eq_ok_iff` — what it means that a file is accepted.
* `RouteFile.normal_form` — which files are accepted, and as what.
-/
import RouteConvergence.Proofs.PersistedReferences
import RouteConvergence.Proofs.SourceForms

namespace RouteConvergence

/-! ## White space at the ends -/

namespace Text

/-- Neither end of a text is white space. -/
def Unpadded (s : String) : Prop :=
  (∀ c, s.toList.head? = some c → isBlank c = false) ∧
    ∀ c, s.toList.getLast? = some c → isBlank c = false

theorem unpadded_empty : Unpadded "" := by simp [Unpadded]

/-- Where no blanks are to be dropped in front, none is there. -/
theorem isBlank_head {cs : List Char} (h : cs.dropWhile isBlank = cs) {c : Char}
    (hc : cs.head? = some c) : isBlank c = false := by
  cases cs with
  | nil => cases hc
  | cons d cs =>
    obtain rfl : d = c := Option.some.inj hc
    simpa using List.dropWhile_eq_self_iff.1 h (Nat.zero_lt_succ _)

/-- **A trimmed text is bare.** -/
theorem unpadded_trim (s : String) : Unpadded (trim s) := by
  have hfront : trimLeft (trimChars s.toList) = trimChars s.toList :=
    trimLeft_trimRight (List.dropWhile_idempotent isBlank _)
  have hback : (trimChars s.toList).reverse.dropWhile isBlank = (trimChars s.toList).reverse := by
    rw [trimChars, trimRight, List.reverse_reverse]
    exact List.dropWhile_idempotent isBlank _
  rw [Unpadded, trim, String.toList_ofList]
  refine ⟨fun c hc => isBlank_head hfront hc, fun c hc => isBlank_head hback ?_⟩
  rw [List.head?_reverse]
  exact hc

end Text

/-! ## Descriptors in normal form -/

namespace Descriptor

/-- What holds of the group and the host of a descriptor in normal form. -/
structure Tidied (d : Descriptor) : Prop where
  group : Text.Unpadded d.group
  host : Text.Unpadded d.originHost
  provisioned_iff : d.provisioned = true ↔ d.originHost ≠ ""

variable {d e : Descriptor}

theorem SamePlace.tidied (h : d.SamePlace e) (he : e.Tidied) : d.Tidied := by
  constructor
  · rw [h.group]
    exact he.group
  · rw [h.originHost]
    exact he.host
  · rw [h.provisioned, h.originHost]
    exact he.provisioned_iff

/-- **A bare group and a trimmed host** are all there is to it. -/
theorem tidied_behind (route : Reference) {group : GroupName} (hgroup : Text.Unpadded group)
    (host : Option String) : ((bare route group).behind (host.bind trimmed?)).Tidied := by
  cases htrimmed : host.bind trimmed? with
  | none => exact ⟨hgroup, Text.unpadded_empty, by simp [behind, bare]⟩
  | some t =>
    obtain ⟨given, -, hgiven⟩ := Option.bind_eq_some_iff.1 htrimmed
    obtain ⟨rfl, hthere⟩ := trimmed?_eq_some_iff.1 hgiven
    exact ⟨hgroup, Text.unpadded_trim given, by simp [behind, hthere]⟩

/-! ### The complaint about a missing host -/

theorem pathRefusal?_ne_hostMissing (index : Nat) (paths : List PathSpec) (route : Reference) :
    pathRefusal? index paths ≠ some (.hostMissing route) := by
  induction paths generalizing index with
  | nil => simp [pathRefusal?]
  | cons p rest ih =>
    rw [pathRefusal?]
    split
    · simp
    split
    · simp
    · exact ih (index + 1)

theorem functionRefusal?_ne_hostMissing (taken : List FunctionEvent)
    (functions : List FunctionAssociation) (route : Reference) :
    functionRefusal? taken functions ≠ some (.hostMissing route) := by
  induction functions generalizing taken with
  | nil => simp [functionRefusal?]
  | cons f rest ih =>
    rw [functionRefusal?]
    split
    · simp
    split
    · simp
    · exact ih (f.event :: taken)

/-- A host is complained about only if it is blank on a provisioned route. -/
theorem host_of_hostMissing {route : Reference} (h : d.refusal? = some (.hostMissing route)) :
    d.provisioned = true ∧ Text.trim d.originHost = "" := by
  unfold refusal? at h
  split at h
  · simp at h
  split at h
  · simp at h
  split at h
  · next hhost => simpa using hhost
  split at h
  · simp at h
  · simp only [Option.orElse_eq_some, pathRefusal?_ne_hostMissing, functionRefusal?_ne_hostMissing,
      false_or, and_false, or_false] at h
    rcases h with ⟨-, hdomain | ⟨-, htimeout | ⟨-, hpolicy⟩⟩⟩
    · simp [domainRefusal?] at hdomain
    · unfold timeoutRefusal? at htimeout
      split at htimeout
      · cases htimeout
      · split at htimeout <;> cases htimeout
    · split at hpolicy <;> cases hpolicy

/-- A descriptor in normal form is not refused for want of a host. -/
theorem Tidied.validate_ne (h : d.Tidied) (route : Reference) :
    d.validate ≠ .error (.refused (.hostMissing route)) := by
  intro hrefused
  unfold validate at hrefused
  split at hrefused
  · next refusal hrefusal =>
    obtain rfl : refusal = .hostMissing route := by simpa using hrefused
    obtain ⟨hprovisioned, hblank⟩ := host_of_hostMissing hrefusal
    obtain ⟨c, cs, hhost⟩ := List.exists_cons_of_ne_nil
      (mt String.toList_eq_nil_iff.1 (h.provisioned_iff.1 hprovisioned))
    have hc : Text.isBlank c = true :=
      Text.trim_eq_empty_iff.1 hblank c (by rw [hhost]; exact List.mem_cons_self)
    rw [h.host.1 c (by rw [hhost]; rfl)] at hc
    cases hc
  · cases hrefused

end Descriptor

theorem Manifest.tidied_normalize (m : Manifest) : m.normalize.Tidied :=
  m.samePlace_normalize.tidied
    (Descriptor.tidied_behind m.reference (Text.unpadded_trim m.group) m.originHost)

theorem AnnotatedRoute.tidied_normalize {r : AnnotatedRoute} {d : Descriptor}
    (h : r.normalize = .ok d) : d.Tidied := by
  obtain ⟨group, hgroup, hplace⟩ := samePlace_normalize h
  obtain ⟨given, -, htrimmed⟩ := Option.bind_eq_some_iff.1 hgroup
  obtain ⟨rfl, -⟩ := trimmed?_eq_some_iff.1 htrimmed
  exact hplace.tidied
    (Descriptor.tidied_behind r.reference (Text.unpadded_trim given) r.loadBalancer)

/-! ## Files -/

namespace Outcome

variable {ε α β : Type} {f : α → Except ε β} {xs : List α} {ys : List β}

/-- Results of a list are the results item by item. -/
theorem mapM_eq_ok_iff : xs.mapM f = .ok ys ↔ List.Forall₂ (fun x y => f x = .ok y) xs ys := by
  induction xs generalizing ys with
  | nil =>
    rw [List.forall₂_nil_left_iff]
    exact ⟨fun h => (Except.ok.inj h).symm, fun h => h ▸ rfl⟩
  | cons x xs ih =>
    rw [List.mapM_cons, bind_eq_ok, List.forall₂_cons_left_iff]
    refine exists_congr fun y => ?_
    rw [bind_eq_ok]
    constructor
    · rintro ⟨hy, more, hmore, hys⟩
      exact ⟨more, hy, ih.1 hmore, (Except.ok.inj hys).symm⟩
    · rintro ⟨more, hy, hmore, rfl⟩
      exact ⟨hy, more, ih.2 hmore, rfl⟩

/-- A list has results if each of its items has one. -/
theorem exists_mapM_eq_ok_iff : (∃ ys, xs.mapM f = .ok ys) ↔ ∀ x ∈ xs, ∃ y, f x = .ok y := by
  induction xs with
  | nil => exact ⟨fun _ => nofun, fun _ => ⟨[], rfl⟩⟩
  | cons x xs ih =>
    simp only [List.mapM_cons, bind_eq_ok, List.forall_mem_cons, ← ih]
    constructor
    · rintro ⟨-, y, hy, more, hmore, -⟩
      exact ⟨⟨y, hy⟩, more, hmore⟩
    · rintro ⟨⟨y, hy⟩, more, hmore⟩
      exact ⟨y :: more, y, hy, more, hmore, rfl⟩

/-- What is among the results of a list is the result of one of its items. -/
theorem exists_of_mapM_eq_ok (h : xs.mapM f = .ok ys) : ∀ y ∈ ys, ∃ x ∈ xs, f x = .ok y := by
  have hitems := mapM_eq_ok_iff.1 h
  clear h
  induction hitems with
  | nil => exact nofun
  | @cons x y xs ys hxy _ ih =>
    refine List.forall_mem_cons.2 ⟨⟨x, List.mem_cons_self, hxy⟩, fun y hy => ?_⟩
    obtain ⟨x, hx, hxy⟩ := ih y hy
    exact ⟨x, List.mem_cons_of_mem _ hx, hxy⟩

end Outcome

namespace RouteFile

/-- A route of a file in either form. -/
inductive Entry
  | manifest (m : Manifest)
  | annotated (r : AnnotatedRoute)

/-- The normal form of a route, or what is wrong with it. -/
def Entry.normalize : Entry → Outcome Descriptor
  | manifest m => .ok m.normalize
  | annotated r => r.normalize

/-- The routes of a file: manifests first, in each form in the order of the
file. -/
def entries (f : RouteFile) : List Entry :=
  f.routes.map .manifest ++ f.annotatedRoutes.map .annotated

theorem Entry.tidied_normalize {e : Entry} {d : Descriptor} (h : e.normalize = .ok d) :
    d.Tidied := by
  cases e with
  | manifest m =>
    obtain rfl : m.normalize = d := Except.ok.inj h
    exact m.tidied_normalize
  | annotated r => exact AnnotatedRoute.tidied_normalize h

/-- The routes of a file are brought to the normal form one by one. -/
theorem mapM_entries_eq_ok_iff {f : RouteFile} {ds : List Descriptor} :
    f.entries.mapM Entry.normalize = .ok ds ↔
      ∃ annotated, f.annotatedRoutes.mapM AnnotatedRoute.normalize = .ok annotated ∧
        f.routes.map Manifest.normalize ++ annotated = ds := by
  have hmanifests : (f.routes.map Entry.manifest).mapM Entry.normalize =
      .ok (f.routes.map Manifest.normalize) := by
    rw [List.mapM_map]
    exact List.mapM_pure
  have hannotated : (f.annotatedRoutes.map Entry.annotated).mapM Entry.normalize =
      f.annotatedRoutes.mapM AnnotatedRoute.normalize := List.mapM_map
  rw [entries, List.mapM_append, hmanifests, hannotated, Outcome.bind_eq_ok]
  simp only [Except.ok.injEq, exists_eq_left', Outcome.bind_eq_ok]
  exact exists_congr fun annotated => and_congr_right fun _ => ⟨Except.ok.inj, fun h => h ▸ rfl⟩

/-- The descriptors of a file's routes have the references it names, whether or
not one is there twice. -/
theorem map_reference_entries {f : RouteFile} {ds : List Descriptor}
    (h : f.entries.mapM Entry.normalize = .ok ds) : ds.map (·.reference) = f.references := by
  obtain ⟨annotated, hannotated, rfl⟩ := mapM_entries_eq_ok_iff.1 h
  exact map_reference_append hannotated

/-- **A file is accepted** with the descriptors of its routes, if no reference
is there twice. -/
theorem descriptors_eq_ok_iff {f : RouteFile} {ds : List Descriptor} :
    f.descriptors = .ok ds ↔
      f.entries.mapM Entry.normalize = .ok ds ∧ (ds.map (·.reference)).Nodup := by
  have honce : repeated? [] ds = none ↔ (ds.map (·.reference)).Nodup := by
    simp [repeated?_eq_none_iff]
  rw [mapM_entries_eq_ok_iff, ← honce]
  constructor
  · intro h
    obtain ⟨annotated, hannotated, hnone, hds⟩ := descriptors_eq_ok h
    exact ⟨⟨annotated, hannotated, hds⟩, hnone⟩
  · rintro ⟨⟨annotated, hannotated, rfl⟩, hnone⟩
    refine Outcome.bind_eq_ok.2 ⟨annotated, hannotated, ?_⟩
    dsimp only
    rw [hnone]
    rfl

/-- **Which files are accepted, and as what.** A file is accepted exactly if
every object in it has a normal form and the references of all its routes, of
both forms together, are different. Then there is one descriptor for each
route in order, with the reference of that route; no reference is there
twice; and in every descriptor the group and the host have no white space at
their ends, there is a host exactly if the route is provisioned, and the
checks never complain about a missing one. -/
theorem normal_form (f : RouteFile) :
    ((∃ ds, f.descriptors = .ok ds) ↔
      (∀ r ∈ f.annotatedRoutes, ∃ d, r.normalize = .ok d) ∧ f.references.Nodup) ∧
    ∀ ds, f.descriptors = .ok ds →
      List.Forall₂ (fun e d => e.normalize = .ok d) f.entries ds ∧
      ds.map (·.reference) = f.references ∧ (ds.map (·.reference)).Nodup ∧
      ∀ d ∈ ds, d.Tidied ∧ ∀ route, d.validate ≠ .error (.refused (.hostMissing route)) := by
  have hnormal : (∃ ds, f.entries.mapM Entry.normalize = .ok ds) ↔
      ∀ r ∈ f.annotatedRoutes, ∃ d, r.normalize = .ok d := by
    rw [Outcome.exists_mapM_eq_ok_iff]
    simp [entries, or_imp, forall_and, Entry.normalize]
  constructor
  · rw [← hnormal]
    constructor
    · rintro ⟨ds, h⟩
      obtain ⟨hentries, honce⟩ := descriptors_eq_ok_iff.1 h
      exact ⟨⟨ds, hentries⟩, map_reference_entries hentries ▸ honce⟩
    · rintro ⟨⟨ds, hentries⟩, honce⟩
      exact ⟨ds, descriptors_eq_ok_iff.2 ⟨hentries, map_reference_entries hentries ▸ honce⟩⟩
  · intro ds h
    obtain ⟨hentries, honce⟩ := descriptors_eq_ok_iff.1 h
    have hforms := Outcome.mapM_eq_ok_iff.1 hentries
    refine ⟨hforms, map_reference_entries hentries, honce, fun d hd => ?_⟩
    obtain ⟨e, -, he⟩ := Outcome.exists_of_mapM_eq_ok hentries d hd
    have htidied := Entry.tidied_normalize he
    exact ⟨htidied, htidied.validate_ne⟩

/-- A manifest and an object with blanks around their texts are accepted in
this order, but not under one name. -/
theorem normal_form_mixed :
    let padded (name : String) : RouteFile :=
      let web : Manifest := {
        scope := "shop", name := "web", group := " public\t", originHost := some " web.internal ",
        paths := [⟨"/", .subtree⟩], viewerFunctions := [], edgeFunctions := [],
        originRequestPolicy := none, cachePolicy := none, responseTimeout := none,
        alternateDomains := [], webAcl := none, tags := .empty, removed := false,
        finalizer := .released }
      ⟨[web], [⟨"shop", name, .ofList [(AnnotationKey.group.text, "public\u3000")], [], some " ",
        false, []⟩]⟩
    (∃ ds, (padded "api").descriptors = .ok ds ∧
      ds.map (·.reference) = [⟨"shop", "web"⟩, ⟨"shop", "api"⟩] ∧ ∀ d ∈ ds, d.Tidied) ∧
      ¬ ∃ ds, (padded "web").descriptors = .ok ds := by
  intro padded
  have hnormal : ∀ name, ∀ r ∈ (padded name).annotatedRoutes, ∃ d, r.normalize = .ok d := by
    intro name r hr
    obtain rfl := List.mem_singleton.1 hr
    exact ⟨_, rfl⟩
  obtain ⟨ds, hds⟩ := (normal_form (padded "api")).1.2 ⟨hnormal "api", by decide⟩
  obtain ⟨-, hnames, -, htidied⟩ := (normal_form (padded "api")).2 ds hds
  refine ⟨⟨ds, hds, hnames, fun d hd => (htidied d hd).1⟩, fun haccepted => ?_⟩
  exact absurd ((normal_form (padded "web")).1.1 haccepted).2 (by decide)

end RouteFile

end RouteConvergence
