/-
RouteConvergence.Proofs.CanonicalNames — the names of a model, and the two
letters that stay as they are.

Names are judged without regard to case and stored in small letters, but
not by one rule of case: the check takes the long s and the Kelvin sign for
letters (`Hostname.foldLetter`), and only the letters of ASCII are made
small. So the names of a model of valid members are canonical, and none is
there in two cases, as far as members name no domain with one of the two
letters, and no further (`Model.names_canonical_iff`).

* `Hostname.accepts_folded` — the check takes a text as it takes the text
  with its letters folded.
* `Hostname.canonicalDomain_eq` — there is nothing to trim in a host name.
* `Model.mem_names_of_valid` — the names of a model are those of its
  members in small letters.
-/
import Mathlib.Data.String.Basic
import RouteConvergence.Proofs.HostnameGrammar
import RouteConvergence.Proofs.LetterCase
import RouteConvergence.Proofs.WellFormedModels

namespace RouteConvergence

namespace Hostname

open Text (isFoldedLetter isDigit isBlank lowerAscii toList_lowerAscii toNat_toLower)

/-! ## Letters in either case -/

/-- A letter of host names outside ASCII. -/
def isForeign (c : Char) : Bool := c == '\u017f' || c == '\u212a'

/-- The letter of ASCII that the check takes a character for. -/
def foldLetter (c : Char) : Char :=
  if c = '\u017f' then 's' else if c = '\u212a' then 'k' else c.toLower

/-- A text with its letters folded. The check takes two texts for one in
different case if this is the same of both. -/
def folded (s : String) : String := String.ofList (s.toList.map foldLetter)

variable {c : Char} {s : String}

theorem isForeign_iff : isForeign c = true ↔ c.toNat = 383 ∨ c.toNat = 8490 := by
  simp only [isForeign, Bool.or_eq_true, beq_iff_eq, ← Char.toNat_inj]
  rfl

theorem isDigit_iff : isDigit c = true ↔ 48 ≤ c.toNat ∧ c.toNat ≤ 57 := by
  simp only [isDigit, Bool.and_eq_true, decide_eq_true_eq]
  rfl

theorem isFoldedLetter_iff :
    isFoldedLetter c = true ↔ (97 ≤ c.toNat ∧ c.toNat ≤ 122) ∨ (65 ≤ c.toNat ∧ c.toNat ≤ 90) ∨
      c.toNat = 383 ∨ c.toNat = 8490 := by
  simp only [isFoldedLetter, Bool.or_eq_true, Bool.and_eq_true, decide_eq_true_eq, beq_iff_eq,
    or_assoc, ← Char.toNat_inj]
  rfl

theorem isInnerChar_iff :
    isInnerChar c = true ↔ isFoldedLetter c = true ∨ isDigit c = true ∨ c.toNat = 45 := by
  simp only [isInnerChar, isWordChar, Bool.or_eq_true, beq_iff_eq, or_assoc, ← Char.toNat_inj]
  rfl

theorem toNat_foldLetter (c : Char) :
    (foldLetter c).toNat = if c.toNat = 383 then 115 else if c.toNat = 8490 then 107
      else if 65 ≤ c.toNat ∧ c.toNat ≤ 90 then c.toNat + 32 else c.toNat := by
  have hlong : c = '\u017f' ↔ c.toNat = 383 := Char.toNat_inj.symm
  have hkelvin : c = '\u212a' ↔ c.toNat = 8490 := Char.toNat_inj.symm
  simp only [foldLetter, hlong, hkelvin, ← toNat_toLower]
  split_ifs <;> rfl

/-- Folding makes no letter and takes none away. -/
theorem isFoldedLetter_foldLetter (c : Char) :
    isFoldedLetter (foldLetter c) = isFoldedLetter c := by
  rw [Bool.eq_iff_iff, isFoldedLetter_iff, isFoldedLetter_iff, toNat_foldLetter]
  split_ifs <;> omega

theorem isDigit_foldLetter (c : Char) : isDigit (foldLetter c) = isDigit c := by
  rw [Bool.eq_iff_iff, isDigit_iff, isDigit_iff, toNat_foldLetter]
  split_ifs <;> omega

/-- What is no letter is what it was. -/
theorem foldLetter_eq_iff {d : Char} (hd : d.toNat < 65) : foldLetter c = d ↔ c = d := by
  rw [← Char.toNat_inj, ← Char.toNat_inj, toNat_foldLetter]
  split_ifs <;> omega

/-- **The check does not see the case of letters**, of the two outside ASCII
no more than of the others. -/
theorem accepts_folded (s : String) :
    expression.accepts (folded s).toList = expression.accepts s.toList := by
  have hword : ∀ c, isWordChar (foldLetter c) = isWordChar c := by
    intro c
    simp only [isWordChar, isFoldedLetter_foldLetter, isDigit_foldLetter]
  have hmark : ∀ d : Char, d.toNat < 65 → ∀ c, (foldLetter c == d) = (c == d) := by
    intro d hd c
    rw [Bool.eq_iff_iff, beq_iff_eq, beq_iff_eq, foldLetter_eq_iff hd]
  have hinner : ∀ c, isInnerChar (foldLetter c) = isInnerChar c := by
    intro c
    rw [isInnerChar, isInnerChar, hword, hmark '-' (by decide)]
  have hstar := hmark '*' (by decide)
  have hdot := hmark '.' (by decide)
  have htail : labelTail.Ignores foldLetter := ⟨hinner, hword⟩
  have hlabel : dottedLabel.Ignores foldLetter := ⟨hword, ⟨trivial, htail⟩, hdot⟩
  have hexpression : expression.Ignores foldLetter :=
    ⟨⟨trivial, hstar, hdot⟩, hlabel, isFoldedLetter_foldLetter, htail⟩
  rw [folded, String.toList_ofList, hexpression.accepts_map]

/-- Where there are only letters of ASCII, folding is making them small. -/
theorem folded_eq (h : ∀ c ∈ s.toList, isForeign c = false) : folded s = lowerAscii s := by
  rw [folded, lowerAscii]
  congr 1
  refine List.map_congr_left fun c hc => ?_
  have hc := h c hc
  rw [← Bool.not_eq_true, isForeign_iff, not_or] at hc
  rw [← Char.toNat_inj, toNat_foldLetter, toNat_toLower, if_neg hc.1, if_neg hc.2]

/-! ## Canonical names -/

/-- A character of a name in small letters of ASCII. -/
def isCanonicalChar (c : Char) : Bool :=
  ('a' ≤ c && c ≤ 'z') || isDigit c || c == '-' || c == '.'

/-- A name in small letters of ASCII, a wildcard label in front apart. -/
def IsCanonical (name : String) : Prop :=
  ∀ c ∈ withoutWildcard name.toList, isCanonicalChar c = true

instance (name : String) : Decidable (IsCanonical name) :=
  decidable_of_iff ((withoutWildcard name.toList).all isCanonicalChar = true) List.all_eq_true

theorem isCanonicalChar_iff :
    isCanonicalChar c = true ↔ (97 ≤ c.toNat ∧ c.toNat ≤ 122) ∨ (48 ≤ c.toNat ∧ c.toNat ≤ 57) ∨
      c.toNat = 45 ∨ c.toNat = 46 := by
  rw [isCanonicalChar, Bool.or_eq_true, Bool.or_eq_true, Bool.or_eq_true, isDigit_iff]
  simp only [Bool.and_eq_true, decide_eq_true_eq, beq_iff_eq, or_assoc, ← Char.toNat_inj]
  rfl

theorem mem_withoutWildcard {cs : List Char} (hc : c ∈ cs) (hstar : c ≠ '*') (hdot : c ≠ '.') :
    c ∈ withoutWildcard cs := by
  unfold withoutWildcard
  split
  · simpa [hstar, hdot] using hc
  · exact hc

theorem withoutWildcard_map_toLower (cs : List Char) :
    withoutWildcard (cs.map Char.toLower) = (withoutWildcard cs).map Char.toLower := by
  have hstar : ∀ c : Char, c.toLower = '*' ↔ c = '*' := fun c => Text.toLower_eq_iff (by decide)
  have hdot : ∀ c : Char, c.toLower = '.' ↔ c = '.' := fun c => Text.toLower_eq_iff (by decide)
  match cs with
  | [] => rfl
  | [c] => simp [withoutWildcard]
  | c :: d :: cs =>
    by_cases hmark : c = '*' ∧ d = '.'
    · obtain ⟨rfl, rfl⟩ := hmark
      rfl
    · have hplain : ∀ {a b : Char} {rest}, ¬ (a = '*' ∧ b = '.') →
          withoutWildcard (a :: b :: rest) = a :: b :: rest := by
        intro a b rest hab
        unfold withoutWildcard
        split
        · next heq =>
          obtain ⟨rfl, rfl, -⟩ : a = '*' ∧ b = '.' ∧ _ := by simpa using heq
          exact absurd ⟨rfl, rfl⟩ hab
        · rfl
      rw [List.map_cons, List.map_cons, hplain (by rwa [hstar, hdot]), hplain hmark]
      rfl

/-- A host name has label characters and dots behind the wildcard label. -/
theorem WellFormed.chars (h : WellFormed s) (hc : c ∈ withoutWildcard s.toList) :
    isInnerChar c = true ∨ c = '.' := by
  rcases Text.mem_splitChars '.' hc with rfl | ⟨label, hlabel, hc⟩
  · exact Or.inr rfl
  · exact Or.inl ((h.labels label hlabel).chars c hc)

theorem WellFormed.ne_empty (h : WellFormed s) : s ≠ "" := by
  rintro rfl
  exact absurd h.several (by decide)

/-- There is no blank in a host name. -/
theorem WellFormed.no_blank (h : WellFormed s) (hc : c ∈ s.toList) : isBlank c = false := by
  by_cases hmark : c = '*' ∨ c = '.'
  · rcases hmark with rfl | rfl <;> decide
  · rw [not_or] at hmark
    have hinner := (h.chars (mem_withoutWildcard hc hmark.1 hmark.2)).resolve_right hmark.2
    rw [isInnerChar_iff, isFoldedLetter_iff, isDigit_iff] at hinner
    simp [isBlank, Text.blankRanges]
    omega

/-- **There is nothing to trim in a host name.** -/
theorem canonicalDomain_eq (h : isValid s = true) : canonicalDomain s = lowerAscii s := by
  have hwell := (isValid_iff_wellFormed s).1 h
  rw [canonicalDomain, Text.trim_of_no_blank fun c hc => hwell.no_blank hc]

/-- In small letters a host name is canonical up to the two letters. -/
theorem isCanonicalChar_lowerAscii (h : isValid s = true)
    (hc : c ∈ withoutWildcard (lowerAscii s).toList) :
    isCanonicalChar c = true ∨ isForeign c = true := by
  rw [toList_lowerAscii, withoutWildcard_map_toLower] at hc
  obtain ⟨d, hd, rfl⟩ := List.mem_map.1 hc
  have hshape := ((isValid_iff_wellFormed s).1 h).chars hd
  rw [isInnerChar_iff, isFoldedLetter_iff, isDigit_iff, ← Char.toNat_inj] at hshape
  rw [isCanonicalChar_iff, isForeign_iff, toNat_toLower]
  have hdot : '.'.toNat = 46 := rfl
  split <;> omega

/-- The two letters are not made small. -/
theorem foreign_lowerAscii :
    (∃ c ∈ (lowerAscii s).toList, isForeign c = true) ↔ ∃ c ∈ s.toList, isForeign c = true := by
  have hsame : ∀ c : Char, isForeign c.toLower = isForeign c := by
    intro c
    rw [Bool.eq_iff_iff, isForeign_iff, isForeign_iff, toNat_toLower]
    split <;> omega
  simp [toList_lowerAscii, hsame]

/-- A host name in small letters is canonical exactly if it has neither of the
two letters. -/
theorem isCanonical_lowerAscii_iff (h : isValid s = true) :
    IsCanonical (lowerAscii s) ↔ ∀ c ∈ s.toList, isForeign c = false := by
  have hforeign : (∀ c ∈ s.toList, isForeign c = false) ↔
      ∀ c ∈ (lowerAscii s).toList, isForeign c = false := by
    rw [← not_iff_not]
    simpa using (foreign_lowerAscii (s := s)).symm
  rw [hforeign]
  constructor
  · intro hcanonical c hc
    by_contra hnot
    have hcode := isForeign_iff.1 (Bool.eq_true_of_not_eq_false hnot)
    have hmarks : c ≠ '*' ∧ c ≠ '.' := by
      constructor <;> rintro rfl <;> exact absurd hcode (by decide)
    have hsmall := isCanonicalChar_iff.1 (hcanonical c (mem_withoutWildcard hc hmarks.1 hmarks.2))
    omega
  · intro hnone c hc
    have hmem : c ∈ (lowerAscii s).toList := by
      unfold withoutWildcard at hc
      split at hc
      · next heq =>
        rw [heq]
        exact List.mem_cons_of_mem _ (List.mem_cons_of_mem _ hc)
      · exact hc
    exact (isCanonicalChar_lowerAscii h hc).resolve_right (by simp [hnone c hmem])

end Hostname

/-! ## The names of a model -/

namespace Model

open Hostname (IsCanonical isCanonicalChar isForeign folded withoutWildcard)

variable {settings : Settings} {now : Instant} {directory : List Certificate} {group : Group}
  {identity : Option Identity} {model : Model}

/-- **The names of a model of valid members** are theirs in small letters. -/
theorem mem_names_of_valid
    (hnames : ∀ member ∈ group.members, ∀ domain ∈ member.alternateDomains,
      Hostname.isValid domain = true)
    (h : build settings now directory group identity = .ok model) {name : String} :
    name ∈ model.alternateDomains ↔ ∃ member ∈ group.members,
      ∃ domain ∈ member.alternateDomains, Text.lowerAscii domain = name := by
  rw [(members_of_build h).2, mem_names]
  constructor
  · rintro ⟨member, hmember, domain, hdomain, rfl, -⟩
    exact ⟨member, hmember, domain, hdomain,
      (Hostname.canonicalDomain_eq (hnames member hmember domain hdomain)).symm⟩
  · rintro ⟨member, hmember, domain, hdomain, rfl⟩
    have hvalid := hnames member hmember domain hdomain
    refine ⟨member, hmember, domain, hdomain, Hostname.canonicalDomain_eq hvalid, ?_⟩
    rw [ne_eq, Text.lowerAscii_eq_empty]
    exact ((Hostname.isValid_iff_wellFormed domain).1 hvalid).ne_empty

/-- Valid members have valid names. -/
theorem isValid_of_validate
    (hvalid : ∀ member ∈ group.members, member.isMemberOf group.name = true ∧
      member.validate = .ok ()) :
    ∀ member ∈ group.members, ∀ domain ∈ member.alternateDomains,
      Hostname.isValid domain = true := by
  intro member hmember
  obtain ⟨hrole, haccepted⟩ := hvalid member hmember
  obtain ⟨-, hprovisioned, hkept⟩ := Descriptor.isMemberOf_iff.1 hrole
  exact ((Descriptor.validate_iff hprovisioned hkept).1 haccepted).domains

/-- The names handed on for a model: those a certificate has to be found for,
and those that are claimed in the zone. -/
structure HandsOn (settings : Settings) (group : Group) (identity : Option Identity)
    (model : Model) : Prop where
  certificate : ∀ draft, Draft.ofGroup settings group identity = .ok draft →
    ∀ name ∈ draft.uncovered, name ∈ model.alternateDomains
  zone : ∀ address, (AliasSet.desired address (SortedSet.ofList model.alternateDomains).toList
    model.ipv6).entries.map (·.domain) = model.alternateDomains

theorem handsOn (h : build settings now directory group identity = .ok model) :
    HandsOn settings group identity model := by
  have hnames := (members_of_build h).2
  refine ⟨fun draft hdraft name hname => ?_, fun address => ?_⟩
  · rw [Draft.ofGroup, (members_of_build h).1] at hdraft
    obtain rfl := Except.ok.inj hdraft
    dsimp only at hname
    split at hname
    · rw [hnames]
      exact hname
    · exact absurd hname List.not_mem_nil
  · have hsorted : (SortedSet.ofList model.alternateDomains).toList = model.alternateDomains := by
      rw [hnames]
      exact congrArg SortedSet.toList (SortedSet.ofList_elems _)
    rw [hsorted, AliasSet.desired, List.map_map]
    exact List.map_id _

/-- **The names of a model of valid members** stand in strictly increasing
order, with small letters of ASCII, digits, hyphens and dots behind a
wildcard label, but for the long s and the Kelvin sign. They are canonical
exactly if no member names a domain with one of these two; and of names
that the check takes for one in different case only one is there, unless
one of these two is in them. The certificate and the zone are asked for
these names and no others. -/
theorem names_canonical_iff (settings : Settings) (now : Instant) (directory : List Certificate)
    (group : Group) (hvalid : ∀ member ∈ group.members, member.isMemberOf group.name = true ∧
      member.validate = .ok ()) (identity : Option Identity)
    (model : Model) (hmodel : build settings now directory group identity = .ok model) :
    model.alternateDomains.Pairwise (· < ·) ∧
      (∀ domain ∈ model.alternateDomains, ∀ c ∈ withoutWildcard domain.toList,
        isCanonicalChar c = true ∨ isForeign c = true) ∧
      ((∀ domain ∈ model.alternateDomains, IsCanonical domain) ↔
        ∀ member ∈ group.members, ∀ domain ∈ member.alternateDomains,
          ∀ c ∈ domain.toList, isForeign c = false) ∧
      (∀ a ∈ model.alternateDomains, ∀ b ∈ model.alternateDomains, folded a = folded b →
        a = b ∨ (∃ c ∈ a.toList, isForeign c = true) ∨ ∃ c ∈ b.toList, isForeign c = true) ∧
      HandsOn settings group identity model := by
  have hnames := isValid_of_validate hvalid
  have hmem : ∀ {x}, x ∈ model.alternateDomains ↔ ∃ member ∈ group.members,
      ∃ domain ∈ member.alternateDomains, Text.lowerAscii domain = x :=
    mem_names_of_valid hnames hmodel
  refine ⟨?_, ?_, ⟨?_, ?_⟩, ?_, handsOn hmodel⟩
  · rw [(members_of_build hmodel).2]
    exact (collectDomains group.members).ordered.imp fun hlt => compare_lt_iff_lt.1 hlt
  · intro domain hdomain c hc
    obtain ⟨member, hmember, given, hgiven, rfl⟩ := hmem.1 hdomain
    exact Hostname.isCanonicalChar_lowerAscii (hnames member hmember given hgiven) hc
  · intro hcanonical member hmember domain hdomain
    exact (Hostname.isCanonical_lowerAscii_iff (hnames member hmember domain hdomain)).1
      (hcanonical _ (hmem.2 ⟨member, hmember, domain, hdomain, rfl⟩))
  · intro hplain domain hdomain
    obtain ⟨member, hmember, given, hgiven, rfl⟩ := hmem.1 hdomain
    exact (Hostname.isCanonical_lowerAscii_iff (hnames member hmember given hgiven)).2
      (hplain member hmember given hgiven)
  · intro a ha b hb hfolded
    by_cases hforeign : (∃ c ∈ a.toList, isForeign c = true) ∨ ∃ c ∈ b.toList, isForeign c = true
    · exact Or.inr hforeign
    · -- Without the two letters a name in small letters is what it folds to.
      have hsmall : ∀ x ∈ model.alternateDomains,
          (¬ ∃ c ∈ x.toList, isForeign c = true) → folded x = x := by
        intro x hx hnone
        obtain ⟨member, hmember, given, hgiven, rfl⟩ := hmem.1 hx
        rw [Hostname.folded_eq (by simpa using hnone), Text.lowerAscii_lowerAscii]
      rw [not_or] at hforeign
      refine Or.inl ?_
      rw [← hsmall a ha hforeign.1, hfolded, hsmall b hb hforeign.2]

/-! ## Names of a shop -/

/-- Two routes, each with names of its own. -/
def namedShop (front help : List String) : List Descriptor :=
  [{ Descriptor.help with alternateDomains := help },
    { Descriptor.shopFront with alternateDomains := front }]

/-- Without TLS a model only needs its origins. -/
theorem exists_build_namedShop (front help : List String) :
    ∃ model, build .default .someNoon [] ⟨"public", namedShop front help, none⟩ none =
      .ok model := by
  obtain ⟨origins, horigins⟩ : ∃ origins, Origins.ofMembers (namedShop front help) = .ok origins :=
    Outcome.isOk_iff_exists.1 (by cbv)
  rw [build, Draft.ofGroup, horigins]
  exact ⟨_, rfl⟩

/-- Capitals and repetitions go, and the wildcard label stays. -/
theorem names_canonical_iff_shop :
    let group : Group := ⟨"public", namedShop ["WWW.Shop.example.com", "*.shop.Example.com"]
      ["www.shop.example.COM"], none⟩
    (∀ member ∈ group.members, member.isMemberOf group.name = true ∧
        member.validate = .ok ()) ∧
      ∃ model, build .default .someNoon [] group none = .ok model ∧
        model.alternateDomains = ["*.shop.example.com", "www.shop.example.com"] ∧
        ∀ domain ∈ model.alternateDomains, IsCanonical domain := by
  intro group
  have hvalid : ∀ member ∈ group.members, member.isMemberOf group.name = true ∧
      member.validate = .ok () := by
    have hok : ∀ member ∈ group.members, member.isMemberOf group.name = true ∧
        member.validate.isOk = true := by decide +kernel
    exact fun member hmember =>
      ⟨(hok member hmember).1, Outcome.isOk_iff.1 (hok member hmember).2⟩
  obtain ⟨model, hmodel⟩ := exists_build_namedShop ["WWW.Shop.example.com", "*.shop.Example.com"]
    ["www.shop.example.COM"]
  obtain ⟨-, -, hcanonical, -⟩ := names_canonical_iff .default .someNoon [] group hvalid none model
    hmodel
  have hplain : group.members.all (fun member => member.alternateDomains.all fun domain =>
      domain.toList.all fun c => !isForeign c) = true := by decide +kernel
  refine ⟨hvalid, model, hmodel, ?_, hcanonical.2 (by simpa using hplain)⟩
  rw [(members_of_build hmodel).2]
  decide +kernel

/-- Two valid members, one with the long s: the check takes their names for
one, and both are there, one of them outside ASCII. -/
theorem long_s_kept :
    let descriptors := namedShop ["shop.example.com"] ["\u017fhop.example.com"]
    (∀ d ∈ descriptors, d.isMemberOf "public" = true ∧ d.validate.isOk = true) ∧
      folded "\u017fhop.example.com" = folded "shop.example.com" ∧
      ∃ group model, Group.aggregate "public" descriptors = .ok group ∧
        build .default .someNoon [] group none = .ok model ∧
        model.alternateDomains = ["shop.example.com", "\u017fhop.example.com"] ∧
        ¬ IsCanonical "\u017fhop.example.com" := by
  intro descriptors
  have hgroup : Group.aggregate "public" descriptors = .ok ⟨"public", descriptors, none⟩ := by
    cbv
  obtain ⟨model, hmodel⟩ := exists_build_namedShop ["shop.example.com"] ["\u017fhop.example.com"]
  refine ⟨by decide +kernel, by decide +kernel, _, model, hgroup, hmodel, ?_, by decide +kernel⟩
  rw [(members_of_build hmodel).2]
  decide +kernel

end Model

end RouteConvergence
