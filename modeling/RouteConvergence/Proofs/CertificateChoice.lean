/-
RouteConvergence.Proofs.CertificateChoice — which certificate a model gets.

A certificate has to be usable and to cover one of the names of the group,
and of several the first of the directory is taken. What covers a name is
stated without the steps that find it out (`Certificate.Covers`), and the
choice is one search through the directory (`Certificate.select_usable`).

What the choice does not see follows from that. The search asks each
certificate for itself, so certificates that do not serve can be put in
anywhere (`Certificate.Rewritten`). It asks only what case does not change,
of the certificates' names by themselves and of the members' names because
they are brought to canonical form before, sorted and each once
(`Group.Renamed`).
-/
import RouteConvergence.Proofs.History
import RouteConvergence.Proofs.LetterCase
import RouteConvergence.Proofs.OriginContents

namespace RouteConvergence

/-! ## What covers a name -/

namespace Certificate

open Text (lowerAscii sameIgnoringCase sameIgnoringCase_iff)

variable {c c' : Certificate} {domain name name' : String}

/-- A certificate covers a domain if, case apart, one of its names is the
domain, or an alternative name is `*.` and then the domain without its
first label. -/
def Covers (c : Certificate) (domain : String) : Prop :=
  (∃ name ∈ c.domainName :: c.alternativeNames, sameIgnoringCase name domain = true) ∨
    ∃ name ∈ c.alternativeNames, ∃ rest label parent : String,
      name = "*." ++ rest ∧ domain = label ++ "." ++ parent ∧ '.' ∉ label.toList ∧
        sameIgnoringCase rest parent = true

theorem nameCovers_iff :
    nameCovers domain name = true ↔ sameIgnoringCase name domain = true ∨
      ∃ rest label parent : String, name = "*." ++ rest ∧ domain = label ++ "." ++ parent ∧
        '.' ∉ label.toList ∧ sameIgnoringCase rest parent = true := by
  have hrest : ∀ rest, Text.dropStart? "*." name = some rest ↔ name = "*." ++ rest := by
    intro rest
    rw [Text.dropStart?_eq_some_iff, ← String.toList_inj, String.toList_append]
  have hcut : ∀ label parent, Text.splitOnce '.' domain = some (label, parent) ↔
      domain = label ++ "." ++ parent ∧ '.' ∉ label.toList := by
    intro label parent
    rw [Text.splitOnce_eq_some_iff, ← String.toList_inj]
    simp
  rw [nameCovers, Bool.or_eq_true]
  refine or_congr_right ?_
  constructor
  · intro h
    split at h
    · next rest label parent hdrop hsplit =>
      obtain ⟨hdomain, hlabel⟩ := (hcut label parent).1 hsplit
      exact ⟨rest, label, parent, (hrest rest).1 hdrop, hdomain, hlabel, h⟩
    · cases h
  · rintro ⟨rest, label, parent, hname, hdomain, hlabel, hsame⟩
    rw [(hrest rest).2 hname, (hcut label parent).2 ⟨hdomain, hlabel⟩]
    exact hsame

/-- **A certificate covers what the rule says.** -/
theorem covers_iff : c.covers domain = true ↔ c.Covers domain := by
  rw [covers, Bool.or_eq_true, List.any_eq_true]
  simp only [nameCovers_iff, Covers, List.exists_mem_cons_iff, and_or_left, exists_or, or_assoc]

/-! ## Names in another case -/

/-- The two marks of a wildcard have no case. -/
theorem dropStart?_lowerAscii (name : String) :
    Text.dropStart? "*." (lowerAscii name) = (Text.dropStart? "*." name).map lowerAscii := by
  have hmark : ∀ d : Char, d.toNat < 65 → ∀ c : Char, (d == c.toLower) = (d == c) := by
    intro d hd c
    rw [Bool.eq_iff_iff, beq_iff_eq, beq_iff_eq, eq_comm, Text.toLower_eq_iff hd, eq_comm]
  have hstart : ∀ cs : List Char,
      ['*', '.'].isPrefixOf (cs.map Char.toLower) = ['*', '.'].isPrefixOf cs
    | [] => rfl
    | [c] => by simp [List.isPrefixOf, hmark '*' (by decide)]
    | c :: d :: cs => by
      simp [List.isPrefixOf, hmark '*' (by decide), hmark '.' (by decide)]
  have hmarks : "*.".toList = ['*', '.'] := rfl
  rw [Text.dropStart?, Text.dropStart?, Text.toList_lowerAscii, hmarks, hstart]
  split
  · simp [← String.toList_inj, Text.toList_lowerAscii]
  · rfl

theorem nameCovers_lowerAscii (domain name : String) :
    nameCovers domain (lowerAscii name) = nameCovers domain name := by
  rw [nameCovers, nameCovers, dropStart?_lowerAscii]
  cases Text.dropStart? "*." name with
  | none => simp [sameIgnoringCase]
  | some rest => cases Text.splitOnce '.' domain <;> simp [sameIgnoringCase]

/-- The same certificate with its names in another case. -/
structure Recased (c c' : Certificate) : Prop where
  arn : c'.arn = c.arn
  status : c'.status = c.status
  notAfter : c'.notAfter = c.notAfter
  domainName : sameIgnoringCase c.domainName c'.domainName = true
  alternativeNames :
    List.Forall₂ (fun name name' => sameIgnoringCase name name' = true) c.alternativeNames
      c'.alternativeNames

theorem Recased.covers_eq (h : Recased c c') (domain : String) :
    c'.covers domain = c.covers domain := by
  have hname : ∀ {name name'}, sameIgnoringCase name name' = true →
      nameCovers domain name' = nameCovers domain name := by
    intro name name' hsame
    rw [← nameCovers_lowerAscii, ← sameIgnoringCase_iff.1 hsame, nameCovers_lowerAscii]
  have hnames : ∀ {names names' : List String},
      List.Forall₂ (fun name name' => sameIgnoringCase name name' = true) names names' →
        names'.any (nameCovers domain) = names.any (nameCovers domain) := by
    intro names names' hall
    induction hall with
    | nil => rfl
    | cons hsame _ ih => rw [List.any_cons, List.any_cons, hname hsame, ih]
  rw [covers, covers, hnames h.alternativeNames, sameIgnoringCase, sameIgnoringCase,
    sameIgnoringCase_iff.1 h.domainName]

/-! ## The choice -/

/-- Whether a certificate can be taken now for some domains: it is issued, it
has no last moment or one that is still to come, and it covers one of
them. -/
structure Serves (now : Instant) (domains : List String) (c : Certificate) : Prop where
  issued : c.status = .issued
  lasting : ∀ last, c.notAfter = some last → now.isBefore last = true
  covering : ∃ domain ∈ domains, c.Covers domain

variable {now : Instant} {domains : List String} {directory directory' : List Certificate}

theorem isUsable_iff :
    c.isUsable now = true ↔ c.status = .issued ∧
      ∀ last, c.notAfter = some last → now.isBefore last = true := by
  rw [isUsable]
  cases c.notAfter <;> simp

theorem serves_iff :
    (c.isUsable now = true ∧ domains.any c.covers = true) ↔ c.Serves now domains := by
  rw [isUsable_iff, List.any_eq_true]
  simp only [covers_iff]
  constructor
  · rintro ⟨⟨hissued, hlasting⟩, hcovering⟩
    exact ⟨hissued, hlasting, hcovering⟩
  · rintro ⟨hissued, hlasting, hcovering⟩
    exact ⟨⟨hissued, hlasting⟩, hcovering⟩

instance : Decidable (c.Serves now domains) := decidable_of_iff _ serves_iff

theorem Recased.serves_iff (h : Recased c c') :
    c'.Serves now domains ↔ c.Serves now domains := by
  rw [← Certificate.serves_iff, ← Certificate.serves_iff, isUsable, isUsable, h.status, h.notAfter,
    funext h.covers_eq]

/-- **The choice is one search** through the directory, for the first
certificate that serves. -/
theorem select_usable :
    select (usable now directory) domains =
      directory.find? fun c => decide (c.Serves now domains) := by
  rw [select, usable, List.find?_filter]
  simp only [serves_iff]

/-- The first certificate of a directory that serves. -/
structure IsFirst (now : Instant) (domains : List String) (directory : List Certificate)
    (c : Certificate) : Prop where
  serves : c.Serves now domains
  first : ∃ before after, directory = before ++ c :: after ∧ ∀ b ∈ before, ¬ b.Serves now domains

theorem resolve_eq_ok_iff :
    resolve (usable now directory) domains = .ok c ↔ IsFirst now domains directory c := by
  have hchosen : resolve (usable now directory) domains = .ok c ↔
      select (usable now directory) domains = some c := by
    rw [resolve]
    cases select (usable now directory) domains <;> simp
  rw [hchosen, select_usable, List.find?_eq_some_iff_append]
  simp only [decide_eq_true_eq, Bool.not_eq_true', decide_eq_false_iff_not]
  constructor
  · rintro ⟨hserves, before, after, hdirectory, hbefore⟩
    exact ⟨hserves, before, after, hdirectory, hbefore⟩
  · rintro ⟨hserves, before, after, hdirectory, hbefore⟩
    exact ⟨hserves, before, after, hdirectory, hbefore⟩

theorem exists_resolve_iff :
    (∃ c, resolve (usable now directory) domains = .ok c) ↔
      ∃ c ∈ directory, c.Serves now domains := by
  have hsome : (∃ c, resolve (usable now directory) domains = .ok c) ↔
      (select (usable now directory) domains).isSome = true := by
    rw [resolve]
    cases select (usable now directory) domains <;> simp
  rw [hsome, select_usable, List.find?_isSome]
  simp only [decide_eq_true_eq]

theorem resolve_of_none (h : ∀ c ∈ directory, ¬ c.Serves now domains) :
    resolve (usable now directory) domains = .error (.build (.certificateMissing domains)) := by
  have hnone : select (usable now directory) domains = none := by
    rw [select_usable, List.find?_eq_none]
    simpa using h
  rw [resolve, hnone]

/-! ## Directories that come to the same -/

/-- A directory rewritten: some certificates have their names in another case,
and some that do not serve are put in between. -/
inductive Rewritten (now : Instant) (domains : List String) :
    List Certificate → List Certificate → Prop
  | nil : Rewritten now domains [] []
  | keep {c c' : Certificate} {cs cs' : List Certificate} :
      Recased c c' → Rewritten now domains cs cs' → Rewritten now domains (c :: cs) (c' :: cs')
  | insert {c : Certificate} {cs cs' : List Certificate} :
      ¬ c.Serves now domains → Rewritten now domains cs cs' → Rewritten now domains cs (c :: cs')

/-- **What is chosen has one resource name** before and after rewriting. -/
theorem Rewritten.arn_select (h : Rewritten now domains directory directory') :
    (select (usable now directory') domains).map (·.arn) =
      (select (usable now directory) domains).map (·.arn) := by
  rw [select_usable, select_usable]
  induction h with
  | nil => rfl
  | @keep c c' _ _ hcase _ ih =>
    have hsame : decide (c'.Serves now domains) = decide (c.Serves now domains) :=
      decide_eq_decide.2 hcase.serves_iff
    rw [List.find?_cons, List.find?_cons, hsame]
    cases decide (c.Serves now domains) with
    | true => exact congrArg some hcase.arn
    | false => exact ih
  | insert hnot _ ih =>
    rw [List.find?_cons, decide_eq_false hnot]
    exact ih

end Certificate

/-! ## Groups that name the same -/

/-- The form in which a domain is stored does not depend on its case. -/
theorem canonicalDomain_of_sameIgnoringCase {a b : String}
    (h : Text.sameIgnoringCase a b = true) : canonicalDomain a = canonicalDomain b := by
  rw [canonicalDomain, canonicalDomain, ← Text.trim_lowerAscii, ← Text.trim_lowerAscii,
    Text.sameIgnoringCase_iff.1 h]

/-- A descriptor without its names. -/
def Descriptor.unnamed (d : Descriptor) : Descriptor := { d with alternateDomains := [] }

theorem Descriptor.sameRoutes_unnamed (d : Descriptor) : d.SameRoutes d.unnamed :=
  ⟨rfl, rfl, rfl, rfl, rfl, rfl, rfl⟩

namespace Group

/-- Whether a member of a group declares a name, in whatever case. -/
def Declares (group : Group) (name : String) : Prop :=
  ∃ member ∈ group.members, ∃ domain ∈ member.alternateDomains,
    Text.sameIgnoringCase domain name = true

/-- The same group with its names in another case, in another order, repeated
or moved from member to member. -/
structure Renamed (group group' : Group) : Prop where
  name : group'.name = group.name
  members : group'.members.map (·.unnamed) = group.members.map (·.unnamed)
  webAcl : group'.webAcl = group.webAcl
  declares : ∀ name, group.Declares name ↔ group'.Declares name

variable {group group' : Group}

theorem mem_names_of_declares (hdeclares : ∀ name, group.Declares name → group'.Declares name)
    {name : String} (h : name ∈ (collectDomains group.members).toList) :
    name ∈ (collectDomains group'.members).toList := by
  obtain ⟨member, hmember, domain, hdomain, hcanonical, hname⟩ := mem_names.1 h
  obtain ⟨member', hmember', domain', hdomain', hsame⟩ :=
    hdeclares domain ⟨member, hmember, domain, hdomain, Text.sameIgnoringCase_iff.2 rfl⟩
  exact mem_names.2 ⟨member', hmember', domain', hdomain',
    (canonicalDomain_of_sameIgnoringCase hsame).trans hcanonical, hname⟩

theorem Renamed.names_eq (h : group.Renamed group') :
    (collectDomains group'.members).toList = (collectDomains group.members).toList :=
  SortedSet.elems_eq_of_mem fun _ =>
    ⟨mem_names_of_declares fun name => (h.declares name).2,
      mem_names_of_declares fun name => (h.declares name).1⟩

end Group

theorem Origins.ofMembers_unnamed (members : List Descriptor) :
    ofMembers (members.map (·.unnamed)) = ofMembers members :=
  ofMembers_sameRoutes
    (List.forall₂_map_right_iff.2 (List.forall₂_same.2 fun d _ => d.sameRoutes_unnamed))

/-- **The draft of a group is that of the renamed one.** -/
theorem Draft.ofGroup_renamed {group group' : Group} (h : group.Renamed group')
    (settings : Settings) (identity : Option Identity) :
    ofGroup settings group' identity = ofGroup settings group identity := by
  have horigins : Origins.ofMembers group'.members = Origins.ofMembers group.members := by
    rw [← Origins.ofMembers_unnamed, h.members, Origins.ofMembers_unnamed]
  have htags : mergeTags settings group' = mergeTags settings group := by
    have hmembers : ∀ (members : List Descriptor) (marked : SortedMap String String),
        members.foldl (fun tags member => tags.insertAll member.tags.entries) marked =
          (members.map (·.unnamed)).foldl
            (fun tags member => tags.insertAll member.tags.entries) marked := by
      intro members marked
      rw [List.foldl_map]
      rfl
    rw [mergeTags, mergeTags, h.name, hmembers, h.members, ← hmembers]
  unfold ofGroup
  dsimp only
  rw [horigins, htags, h.names_eq, h.name, h.webAcl]

/-! ## The certificate of a model -/

/-- A draft that needs a certificate is finished with the chosen one. -/
theorem Draft.finish_usable {settings : Settings} {draft : Draft} {candidates : List Certificate}
    (h : draft.uncovered ≠ []) :
    draft.finish settings (.ok candidates) =
      (Certificate.resolve candidates draft.uncovered).map (draft.withCertificate settings) := by
  have hneeded : draft.uncovered.isEmpty = false := by
    rw [← Bool.not_eq_true, List.isEmpty_iff]
    exact h
  rw [finish, hneeded]
  cases Certificate.resolve candidates draft.uncovered <;> rfl

/-- Only the resource name of the chosen certificate gets into the model. -/
theorem Draft.map_withCertificate {draft : Draft} {settings : Settings}
    {candidates candidates' : List Certificate} {domains : List String}
    (h : (Certificate.select candidates' domains).map (·.arn) =
      (Certificate.select candidates domains).map (·.arn)) :
    (Certificate.resolve candidates' domains).map (draft.withCertificate settings) =
      (Certificate.resolve candidates domains).map (draft.withCertificate settings) := by
  rw [Certificate.resolve, Certificate.resolve]
  cases hc' : Certificate.select candidates' domains with
  | none =>
    cases hc : Certificate.select candidates domains with
    | none => rfl
    | some c => simp [hc', hc] at h
  | some c' =>
    cases hc : Certificate.select candidates domains with
    | none => simp [hc', hc] at h
    | some c =>
      have harn : c'.arn = c.arn := by simpa [hc', hc] using h
      simp [Except.map, withCertificate, harn]

theorem Draft.uncovered_of_ofGroup {settings : Settings} {group : Group}
    {identity : Option Identity} {draft : Draft} (h : ofGroup settings group identity = .ok draft) :
    draft.uncovered =
      if settings.tls.enabled then (collectDomains group.members).toList else [] := by
  unfold ofGroup at h
  split at h
  · cases h
  · cases h
    rfl

namespace Model

open Certificate (IsFirst Rewritten usable resolve_eq_ok_iff resolve_of_none)

variable {settings : Settings} {now : Instant} {directory directory' : List Certificate}
  {group group' : Group}

/-- **What the choice does not see** does not change the model: the case of
names on either side, which member declares a name and how often, and
certificates that do not serve. -/
theorem build_rewritten
    (hdirectory : Rewritten now (collectDomains group.members).toList directory directory')
    (hgroup : group.Renamed group') (identity : Option Identity) :
    build settings now directory' group' identity =
      build settings now directory group identity := by
  rw [build, build, Draft.ofGroup_renamed hgroup]
  cases hdraft : Draft.ofGroup settings group identity with
  | error failure => rfl
  | ok draft =>
    dsimp only
    by_cases hneeded : draft.uncovered = []
    · rw [Draft.finish, Draft.finish, hneeded]
      rfl
    · have huncovered := Draft.uncovered_of_ofGroup hdraft
      split at huncovered
      · rw [Draft.finish_usable hneeded, Draft.finish_usable hneeded, huncovered]
        exact Draft.map_withCertificate hdirectory.arn_select
      · exact absurd huncovered hneeded

/-- With TLS a group that has origins and names gets its draft finished with
the certificate that is found. -/
theorem exists_build_eq_map (htls : settings.tls.enabled = true) (now : Instant)
    (directory : List Certificate) {origins : List Origin}
    (horigins : Origins.ofMembers group.members = .ok origins)
    (hnames : (collectDomains group.members).toList ≠ []) (identity : Option Identity) :
    ∃ draft : Draft, build settings now directory group identity =
      (Certificate.resolve (usable now directory) (collectDomains group.members).toList).map
        (draft.withCertificate settings) := by
  obtain ⟨draft, hdraft⟩ : ∃ draft, Draft.ofGroup settings group identity = .ok draft := by
    rw [Draft.ofGroup, horigins]
    exact ⟨_, rfl⟩
  have huncovered : draft.uncovered = (collectDomains group.members).toList := by
    rw [Draft.uncovered_of_ofGroup hdraft, if_pos htls]
  refine ⟨draft, ?_⟩
  rw [build, hdraft, ← huncovered]
  exact Draft.finish_usable (huncovered ▸ hnames)

/-- **With TLS a model gets the first certificate that serves**, and there is
a model exactly if one does. A certificate serves if it is issued, not
past its last moment and covers one of the names, and what it covers is
what the rule says (`Certificate.Covers`). Without one that serves the
failure tells the names. Nothing in this depends on the case of names, on
their order and repetition among members, or on certificates that do not
serve. -/
theorem build_certified (settings : Settings) (htls : settings.tls.enabled = true) (now : Instant)
    (directory : List Certificate) (group : Group) (origins : List Origin)
    (horigins : Origins.ofMembers group.members = .ok origins)
    (hnames : (collectDomains group.members).toList ≠ []) (identity : Option Identity) :
    let names := (collectDomains group.members).toList
    ((∃ model, build settings now directory group identity = .ok model) ↔
        ∃ c ∈ directory, c.Serves now names) ∧
      (∀ model, build settings now directory group identity = .ok model →
        ∃ c, IsFirst now names directory c ∧ model.tls =
          some ⟨c.arn, settings.tls.securityPolicy, settings.tls.supportMethod⟩) ∧
      ((∀ c ∈ directory, ¬ c.Serves now names) →
        build settings now directory group identity =
          .error (.build (.certificateMissing names))) ∧
      (∀ (c : Certificate) (domain : String), c.covers domain = true ↔ c.Covers domain) ∧
      ∀ directory' group', Rewritten now names directory directory' → group.Renamed group' →
        build settings now directory' group' identity =
          build settings now directory group identity := by
  intro names
  obtain ⟨draft, hbuild⟩ := exists_build_eq_map htls now directory horigins hnames identity
  have hnone : (∀ c ∈ directory, ¬ c.Serves now names) →
      build settings now directory group identity =
        .error (.build (.certificateMissing names)) := by
    intro h
    rw [hbuild, resolve_of_none h]
    rfl
  have hfirst : ∀ model, build settings now directory group identity = .ok model →
      ∃ c, IsFirst now names directory c ∧ model.tls =
        some ⟨c.arn, settings.tls.securityPolicy, settings.tls.supportMethod⟩ := by
    intro model hmodel
    rw [hbuild] at hmodel
    cases hc : Certificate.resolve (usable now directory) names with
    | error failure =>
      rw [hc] at hmodel
      cases hmodel
    | ok c =>
      rw [hc] at hmodel
      cases hmodel
      exact ⟨c, resolve_eq_ok_iff.1 hc, rfl⟩
  refine ⟨?_, hfirst, hnone, fun c domain => Certificate.covers_iff,
    fun directory' group' hdirectory hgroup => build_rewritten hdirectory hgroup identity⟩
  rw [← Certificate.exists_resolve_iff, hbuild]
  cases Certificate.resolve (usable now directory) names <;> simp [Except.map]

/-! ## A certificate for a shop -/

/-- The certificate with the wildcard is taken for the name of a route. It
stays the one if it comes after one that is past its last moment, and if
the capitals change on both sides. -/
theorem build_certified_shop :
    let settings : Settings := { Settings.default with tls := ⟨true, "TLSv1.2_2021", "sni-only"⟩ }
    let shop (wildcard : String) : Certificate :=
      ⟨"arn:shop", "shop.example.com", [wildcard], .issued, none⟩
    let past : Certificate := ⟨"arn:past", "www.shop.example.com", [], .issued, some .someNoon⟩
    let named (domains : List String) : Group :=
      ⟨"public", [{ Descriptor.help with alternateDomains := domains }], none⟩
    ∃ model, build settings .someNoon [shop "*.shop.example.com"]
        (named ["www.shop.example.com"]) none = .ok model ∧
      model.tls = some ⟨"arn:shop", "TLSv1.2_2021", "sni-only"⟩ ∧
      build settings .someNoon [past, shop "*.Shop.example.com"]
        (named ["WWW.shop.example.com", "www.SHOP.example.com"]) none = .ok model := by
  intro settings shop past named
  have hnames : (collectDomains (named ["www.shop.example.com"]).members).toList =
      ["www.shop.example.com"] := by decide +kernel
  obtain ⟨origins, horigins⟩ :
      ∃ origins, Origins.ofMembers (named ["www.shop.example.com"]).members = .ok origins :=
    Outcome.isOk_iff_exists.1 (by cbv)
  obtain ⟨hthere, htls, -, -, hsame⟩ := build_certified settings rfl .someNoon
    [shop "*.shop.example.com"] (named ["www.shop.example.com"]) origins horigins
    (by rw [hnames]; decide) none
  rw [hnames] at hthere htls hsame
  obtain ⟨model, hmodel⟩ := hthere.2 (by decide +kernel)
  obtain ⟨c, hc, hmodeltls⟩ := htls model hmodel
  obtain ⟨before, after, hsplit, -⟩ := hc.first
  have hshop : c = shop "*.shop.example.com" := by
    have hmem : c ∈ [shop "*.shop.example.com"] :=
      hsplit ▸ List.mem_append_right before List.mem_cons_self
    exact List.mem_singleton.1 hmem
  refine ⟨model, hmodel, by rw [hmodeltls, hshop], ?_⟩
  rw [hsame, hmodel]
  · refine .insert (by decide +kernel) (.keep ⟨rfl, rfl, rfl, ?_, ?_⟩ .nil)
    · decide +kernel
    · exact .cons (by decide +kernel) .nil
  · refine ⟨rfl, rfl, rfl, fun name => ?_⟩
    have hsmall : Text.lowerAscii "www.shop.example.com" = "www.shop.example.com" ∧
        Text.lowerAscii "WWW.shop.example.com" = "www.shop.example.com" ∧
        Text.lowerAscii "www.SHOP.example.com" = "www.shop.example.com" := by decide +kernel
    simp [Group.Declares, named, Text.sameIgnoringCase_iff, hsmall]

end Model

end RouteConvergence
