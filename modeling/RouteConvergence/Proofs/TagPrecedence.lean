/-
RouteConvergence.Proofs.TagPrecedence — which tag wins where several have
one key.

The tags of a model are laid over one another in five layers: the mark of
what is managed, the name of the group, the tags of each member in turn, and
the tags of the settings. `TagRule` says for one key what is to come of
it, from the descriptors as they are given: it knows no layers, no list of
members and no sorting.

* `Group.find?_membersOf` — of the descriptors with one reference the first
  that is given is the member.
* `Group.lastTag_eq_some_iff` — the last member with a tag is the one whose
  reference comes last.
* `get?_mergeTags` — all layers as one chain of lookups.
* `Model.tag_precedence` — the tags of a model keep the rule.
-/
import Mathlib.Data.String.Basic
import RouteConvergence.Proofs.History
import RouteConvergence.Proofs.RoutedPatterns

namespace RouteConvergence

/-! ## The order of references -/

namespace Reference

/-- A reference comes before another by its scope, and in one scope by its
name. -/
def Before (r s : Reference) : Prop := r.scope < s.scope ∨ r.scope = s.scope ∧ r.name < s.name

instance (r s : Reference) : Decidable (r.Before s) :=
  inferInstanceAs (Decidable (r.scope < s.scope ∨ r.scope = s.scope ∧ r.name < s.name))

theorem compare_eq_lt_iff {r s : Reference} : compare r s = .lt ↔ r.Before s := by
  show (compare r.scope s.scope).then (compare r.name s.name) = .lt ↔ _
  rw [Ordering.then_eq_lt, compare_lt_iff_lt, compare_eq_iff_eq, compare_lt_iff_lt, Before]

end Reference

/-! ## The member with a reference -/

namespace Group

/-- The member of a group with a reference: the first that is given. -/
def member? (name : GroupName) (ds : List Descriptor) (route : Reference) : Option Descriptor :=
  ds.find? fun d => d.isMemberOf name && d.reference == route

/-- Of descriptors with one reference the first stays. -/
theorem find?_dropRepeated (route : Reference) (ds : List Descriptor) :
    (dropRepeated ds).find? (·.reference == route) = ds.find? (·.reference == route) := by
  induction ds with
  | nil => rfl
  | cons d rest ih =>
    rw [List.find?_cons, ← ih, dropRepeated]
    cases hkept : dropRepeated rest with
    | nil => rw [List.find?_cons]
    | cons first kept =>
      dsimp only
      split
      · next heq =>
        rw [List.find?_cons, List.find?_cons, heq]
        cases d.reference == route <;> rfl
      · rw [List.find?_cons]

/-- Sorting leaves the first descriptor with a reference the first. -/
theorem find?_mergeSort (route : Reference) (ds : List Descriptor) :
    (ds.mergeSort mayPrecede).find? (·.reference == route) = ds.find? (·.reference == route) := by
  have hsame : ∀ d ∈ ds.filter (·.reference == route), d.reference = route :=
    fun d hd => eq_of_beq (List.mem_filter.1 hd).2
  have hsorted : (ds.filter (·.reference == route)).Pairwise
      fun a b => mayPrecede a b = true := by
    refine List.pairwise_iff_forall_sublist.2 fun {a b} hab => ?_
    rw [mayPrecede, hsame a (hab.subset (by simp)), hsame b (hab.subset (by simp)),
      Reference.compare_eq_iff.2 rfl]
    rfl
  -- Sorting is stable, so the descriptors with the reference keep their order.
  have hsublist := (List.sublist_mergeSort mayPrecede_trans mayPrecede_total hsorted
    List.filter_sublist).filter (·.reference == route)
  have hkept : (ds.mergeSort mayPrecede).filter (·.reference == route) =
      ds.filter (·.reference == route) := by
    simp only [List.filter_filter, Bool.and_self] at hsublist
    exact (hsublist.eq_of_length
      ((List.mergeSort_perm ds mayPrecede).symm.filter _).length_eq).symm
  rw [← List.head?_filter, hkept, List.head?_filter]

/-- **The member with a reference** is the one that is gathered. -/
theorem find?_membersOf (name : GroupName) (ds : List Descriptor) (route : Reference) :
    (membersOf name ds).find? (·.reference == route) = member? name ds route := by
  rw [membersOf, find?_dropRepeated, find?_mergeSort, List.find?_filter, member?]
  simp only [Bool.decide_and, Bool.decide_eq_true]

variable {name : GroupName} {ds : List Descriptor}

theorem reference_of_member? {route : Reference} {d : Descriptor}
    (h : member? name ds route = some d) : d.reference = route := by
  have hd := List.find?_some h
  simp only [Bool.and_eq_true, beq_iff_eq] at hd
  exact hd.2

theorem mem_membersOf_iff {d : Descriptor} :
    d ∈ membersOf name ds ↔ member? name ds d.reference = some d := by
  rw [← find?_membersOf]
  constructor
  · intro hd
    cases hfound : (membersOf name ds).find? (·.reference == d.reference) with
    | none => simpa using List.find?_eq_none.1 hfound d hd
    | some e =>
      have href := List.find?_some hfound
      rw [beq_iff_eq] at href
      rw [(byReference_membersOf name ds).eq_of_reference (List.mem_of_find?_eq_some hfound) hd
        href]
  · exact List.mem_of_find?_eq_some

/-! ## The last member with a tag -/

/-- The value of a tag at the last of some members that have it. -/
def lastTag (members : List Descriptor) (key : String) : Option String :=
  members.reverse.findSome? (·.tags.get? key)

/-- **The last member that has a tag** is the one behind which no other has
it. -/
theorem lastTag_eq_some_iff {key value : String} :
    lastTag (membersOf name ds) key = some value ↔
      ∃ route d, member? name ds route = some d ∧ d.tags.get? key = some value ∧
        ∀ later e, route.Before later → member? name ds later = some e →
          e.tags.get? key = none := by
  have hsorted := byReference_membersOf name ds
  rw [lastTag, List.findSome?_eq_some_iff]
  constructor
  · rintro ⟨behind, d, front, hreverse, htag, hlast⟩
    have hlist : membersOf name ds = front.reverse ++ d :: behind.reverse := by
      rw [← List.reverse_reverse (membersOf name ds), hreverse]
      simp
    have hd : d ∈ membersOf name ds := by simp [hlist]
    refine ⟨d.reference, d, mem_membersOf_iff.1 hd, htag, fun later e hlater he => ?_⟩
    obtain rfl := reference_of_member? he
    have hmem : e ∈ front.reverse ++ d :: behind.reverse := hlist ▸ mem_membersOf_iff.2 he
    rw [hlist] at hsorted
    rcases List.mem_append.1 hmem with hfront | hbehind
    · -- A member in front has no reference behind that of `d`.
      have hlt : compare e.reference d.reference = .lt :=
        (List.pairwise_append.1 hsorted).2.2 e hfront d List.mem_cons_self
      exact absurd (Reference.compare_eq_lt_iff.2 hlater) (Std.OrientedCmp.not_lt_of_lt hlt)
    · rcases List.mem_cons.1 hbehind with rfl | hbehind
      · exact absurd (Reference.compare_eq_lt_iff.2 hlater) (by simp)
      · exact hlast e (List.mem_reverse.1 hbehind)
  · rintro ⟨route, d, hd, htag, hlast⟩
    obtain rfl := reference_of_member? hd
    obtain ⟨front, behind, hlist⟩ := List.append_of_mem (mem_membersOf_iff.2 hd)
    refine ⟨behind.reverse, d, front.reverse, by simp [hlist], htag, fun e he => ?_⟩
    have hmem : e ∈ membersOf name ds := by
      rw [hlist]
      exact List.mem_append_right _ (List.mem_cons_of_mem _ (List.mem_reverse.1 he))
    have hlt : compare d.reference e.reference = .lt := by
      rw [hlist] at hsorted
      exact (List.pairwise_cons.1 (List.pairwise_append.1 hsorted).2.1).1 e (List.mem_reverse.1 he)
    exact hlast e.reference e (Reference.compare_eq_lt_iff.1 hlt) (mem_membersOf_iff.1 hmem)

theorem lastTag_eq_none_iff {key : String} :
    lastTag (membersOf name ds) key = none ↔
      ∀ route d, member? name ds route = some d → d.tags.get? key = none := by
  rw [lastTag, List.findSome?_eq_none_iff]
  constructor
  · intro h route d hd
    obtain rfl := reference_of_member? hd
    exact h d (List.mem_reverse.2 (mem_membersOf_iff.2 hd))
  · exact fun h d hd => h _ d (mem_membersOf_iff.1 (List.mem_reverse.1 hd))

end Group

/-! ## All layers -/

/-- What members lay over some tags. -/
theorem get?_foldl_tags (members : List Descriptor) (tags : SortedMap String String)
    (key : String) :
    (members.foldl (fun tags member => tags.insertAll member.tags.entries) tags).get? key =
      (Group.lastTag members key).or (tags.get? key) := by
  induction members generalizing tags with
  | nil => rfl
  | cons d rest ih =>
    rw [List.foldl_cons, ih, SortedMap.get?_insertAll_entries, ← Option.or_assoc, Group.lastTag,
      Group.lastTag, List.reverse_cons, List.findSome?_append, List.findSome?_singleton]

/-- **The layers of tags as one chain of lookups.** -/
theorem get?_mergeTags (settings : Settings) (group : Group) (key : String) :
    (mergeTags settings group).get? key =
      (settings.customTags.get? key).or ((Group.lastTag group.members key).or
        (if key = settings.groupTagKey then some group.name
          else if key = settings.managedTagKey then some managedTagValue else none)) := by
  rw [mergeTags, SortedMap.get?_insertAll_entries, get?_foldl_tags, SortedMap.get?_insert,
    SortedMap.get?_insert, SortedMap.get?_empty]
  simp only [compare_eq_iff_eq]

/-- No tag of the settings and no tag of a member has a key. -/
structure Untagged (settings : Settings) (name : GroupName) (ds : List Descriptor)
    (key : String) : Prop where
  custom : settings.customTags.get? key = none
  members : ∀ route d, Group.member? name ds route = some d → d.tags.get? key = none

/-- What comes of a key among the tags of a group, if these descriptors are
given: there is one rule for each place a value can come from, and one for a
key without a value. -/
inductive TagRule (settings : Settings) (name : GroupName) (ds : List Descriptor) (key : String) :
    Option String → Prop
  | custom {value : String} (hcustom : settings.customTags.get? key = some value) :
    TagRule settings name ds key (some value)
  /-- The member comes last by reference of those that have the tag. -/
  | member {route : Reference} {d : Descriptor} {value : String}
    (hcustom : settings.customTags.get? key = none)
    (hmember : Group.member? name ds route = some d) (htag : d.tags.get? key = some value)
    (hlast : ∀ later e, route.Before later → Group.member? name ds later = some e →
      e.tags.get? key = none) :
    TagRule settings name ds key (some value)
  | group (huntagged : Untagged settings name ds key) (hkey : key = settings.groupTagKey) :
    TagRule settings name ds key (some name)
  | managed (huntagged : Untagged settings name ds key) (hother : key ≠ settings.groupTagKey)
    (hkey : key = settings.managedTagKey) : TagRule settings name ds key (some "edgeplane")
  | absent (huntagged : Untagged settings name ds key) (hother : key ≠ settings.groupTagKey)
    (hneither : key ≠ settings.managedTagKey) : TagRule settings name ds key none

theorem untagged_iff {settings : Settings} {name : GroupName} {ds : List Descriptor}
    {key : String} :
    Untagged settings name ds key ↔ settings.customTags.get? key = none ∧
      Group.lastTag (Group.membersOf name ds) key = none := by
  rw [Group.lastTag_eq_none_iff]
  exact ⟨fun h => ⟨h.custom, h.members⟩, fun h => ⟨h.1, h.2⟩⟩

/-- The rule says what the chain of lookups gives. -/
theorem tagRule_iff {settings : Settings} {name : GroupName} {ds : List Descriptor} {key : String}
    {value : Option String} :
    TagRule settings name ds key value ↔
      (settings.customTags.get? key).or ((Group.lastTag (Group.membersOf name ds) key).or
        (if key = settings.groupTagKey then some name
          else if key = settings.managedTagKey then some managedTagValue else none)) = value := by
  constructor
  · rintro (hcustom | ⟨hcustom, hmember, htag, hlast⟩ | ⟨huntagged, hkey⟩ |
      ⟨huntagged, hother, hkey⟩ | ⟨huntagged, hother, hneither⟩)
    · rw [hcustom, Option.some_or]
    · rw [hcustom, Group.lastTag_eq_some_iff.2 ⟨_, _, hmember, htag, hlast⟩]
      rfl
    all_goals
      obtain ⟨hcustom, hnone⟩ := untagged_iff.1 huntagged
      rw [hcustom, hnone, Option.none_or, Option.none_or]
    · rw [if_pos hkey]
    · rw [if_neg hother, if_pos hkey, managedTagValue]
    · rw [if_neg hother, if_neg hneither]
  · rintro rfl
    cases hcustom : settings.customTags.get? key with
    | some value => exact .custom hcustom
    | none =>
      cases hlast : Group.lastTag (Group.membersOf name ds) key with
      | some value =>
        obtain ⟨route, d, hmember, htag, hlater⟩ := Group.lastTag_eq_some_iff.1 hlast
        exact .member hcustom hmember htag hlater
      | none =>
        have huntagged := untagged_iff.2 ⟨hcustom, hlast⟩
        rw [Option.none_or, Option.none_or]
        split
        · next hkey => exact .group huntagged hkey
        · next hother =>
          split
          · next hkey => exact .managed huntagged hother hkey
          · next hneither => exact .absent huntagged hother hneither

namespace Model

/-- The tags of a model are the merged tags of its group. -/
theorem tags_of_build {settings : Settings} {now : Instant} {directory : List Certificate}
    {group : Group} {identity : Option Identity} {model : Model}
    (h : build settings now directory group identity = .ok model) :
    model.tags = mergeTags settings group := by
  have horigins := ofMembers_of_build h
  rw [build, Draft.ofGroup, horigins] at h
  obtain ⟨tls, hmodel⟩ := Draft.finish_eq_ok h
  rw [hmodel]

/-- **Which tag wins.** For all settings and all descriptors that make up a
group with a model, and for every key: the model has the value that the rule
gives, and no value if the rule gives none. This holds in whatever order the
descriptors come and with references given more than once, also where the two
configured keys are one, or members or the settings use them. -/
theorem tag_precedence (settings : Settings) (now : Instant) (directory : List Certificate)
    (name : GroupName) (ds : List Descriptor) (group : Group)
    (hgroup : Group.aggregate name ds = .ok group) (identity : Option Identity) (model : Model)
    (hmodel : build settings now directory group identity = .ok model) (key : String)
    (value : Option String) :
    model.tags.get? key = value ↔ TagRule settings name ds key value := by
  obtain ⟨hname, hmembers⟩ := Group.aggregate_eq_ok hgroup
  rw [tags_of_build hmodel, get?_mergeTags, hname, hmembers, tagRule_iff]

/-- The press team comes last by reference, though not by the written form of
it, so its tag wins over that of the shop and over the name of the group,
which is to have the same key. -/
theorem tag_precedence_teams :
    let settings : Settings :=
      { Settings.default with groupTagKey := "team", managedTagKey := "owner" }
    ∃ group model, Group.aggregate "public" Group.teams = .ok group ∧
      build settings .someNoon [] group none = .ok model ∧
      model.tags.get? "team" = some "press" ∧ model.tags.get? "owner" = some "edgeplane" ∧
      model.tags.get? "edgeplane.io/group" = none := by
  intro settings
  obtain ⟨group, hgroup⟩ : ∃ group, Group.aggregate "public" Group.teams = .ok group :=
    Outcome.isOk_iff_exists.1 (by cbv)
  obtain ⟨model, hmodel⟩ : ∃ model, build settings .someNoon [] group none = .ok model := by
    obtain ⟨origins, horigins⟩ : ∃ origins, Origins.addMembers .empty .empty
        (Group.membersOf "public" Group.teams) = .ok origins :=
      Outcome.isOk_iff_exists.1 (by cbv)
    rw [build, Draft.ofGroup, (Group.aggregate_eq_ok hgroup).2, Origins.ofMembers, horigins]
    exact ⟨_, rfl⟩
  have hrule := tag_precedence settings .someNoon [] "public" Group.teams group hgroup none model
    hmodel
  have huntagged : ∀ key, key ≠ "team" → Untagged settings "public" Group.teams key := by
    intro key hkey
    refine ⟨rfl, fun route d hd => ?_⟩
    have htags : ∀ e ∈ Group.teams, e.tags.keys = ["team"] := by decide +kernel
    cases hvalue : d.tags.get? key with
    | none => rfl
    | some value =>
      have hlisted := SortedMap.mem_keys.2 ⟨value, hvalue⟩
      rw [htags d (List.mem_of_find?_eq_some hd)] at hlisted
      exact absurd (List.mem_singleton.1 hlisted) hkey
  have hlast : ∀ e ∈ Group.teams, ¬ (⟨"web-eu", "news"⟩ : Reference).Before e.reference := by
    decide +kernel
  refine ⟨group, model, hgroup, hmodel, (hrule "team" (some "press")).2 ?_,
    (hrule "owner" (some "edgeplane")).2 ?_, (hrule "edgeplane.io/group" none).2 ?_⟩
  · have hnews : Group.member? "public" Group.teams ⟨"web-eu", "news"⟩ =
        some (Group.tagged ⟨"web-eu", "news"⟩ "press") := rfl
    refine .member rfl hnews (by decide +kernel) ?_
    intro later e hlater he
    obtain rfl := Group.reference_of_member? he
    exact absurd hlater (hlast e (List.mem_of_find?_eq_some he))
  · exact .managed (huntagged "owner" (by decide)) (by decide) rfl
  · exact .absent (huntagged _ (by decide)) (by decide) (by decide)

end Model

end RouteConvergence
