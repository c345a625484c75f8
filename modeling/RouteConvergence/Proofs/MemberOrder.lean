/-
RouteConvergence.Proofs.MemberOrder — a model depends on the members of
its group alone.

Later members win where tags are merged, the first copy settles a repeated
reference, and the first disagreement found is the one reported, so the
order in which descriptors come could show in the result. It does not:
members are sorted before anything reads them, and the order by reference
leaves no choice as long as a reference names one member.

* `Group.byReference_membersOf` — whatever descriptors are given, the
  members gathered from them stand by reference, each reference once.
* `Group.mem_membersOf` — no member is lost on the way if a reference
  names one.
* `Group.membersOf_congr` — so descriptors with the same members are
  gathered to the same list, and everything later is a function of it.
-/
import Mathlib.Data.List.Permutation
import RouteConvergence.Distribution.Build
import RouteConvergence.Proofs.Containers

namespace RouteConvergence

theorem Descriptor.isMemberOf_iff {d : Descriptor} {group : GroupName} :
    d.isMemberOf group = true ↔
      d.group = group ∧ d.provisioned = true ∧ d.beingRemoved = false := by
  simp only [isMemberOf, Bool.and_eq_true, beq_iff_eq, Bool.not_eq_true', and_assoc]

/-! ## Lists by reference -/

/-- Descriptors listed by reference, each reference once. -/
def ByReference (ds : List Descriptor) : Prop :=
  ds.Pairwise fun a b => compare a.reference b.reference = .lt

namespace ByReference

/-- A reference names one descriptor of such a list. -/
theorem eq_of_reference {ds : List Descriptor} (h : ByReference ds) {a b : Descriptor}
    (ha : a ∈ ds) (hb : b ∈ ds) (href : a.reference = b.reference) : a = b := by
  have hself : ∀ {c : Descriptor}, compare c.reference c.reference ≠ .lt := by simp
  induction ds with
  | nil => exact absurd ha List.not_mem_nil
  | cons d rest ih =>
    have hd := List.pairwise_cons.1 h
    rcases List.mem_cons.1 ha with rfl | ha'
    · rcases List.mem_cons.1 hb with rfl | hb'
      · rfl
      · exact absurd (href ▸ hd.1 b hb') hself
    · rcases List.mem_cons.1 hb with rfl | hb'
      · exact absurd (href ▸ hd.1 a ha') hself
      · exact ih hd.2 ha' hb'

theorem nodup {ds : List Descriptor} (h : ByReference ds) : ds.Nodup := by
  refine h.imp ?_
  rintro a b hlt rfl
  simp at hlt

/-- **What such a list holds determines it.** -/
theorem eq_of_mem_iff {ds es : List Descriptor} (hds : ByReference ds) (hes : ByReference es)
    (h : ∀ d, d ∈ ds ↔ d ∈ es) : ds = es := by
  have hperm : ds.Perm es := (List.perm_ext_iff_of_nodup hds.nodup hes.nodup).2 h
  refine hperm.eq_of_pairwise ?_ hds hes
  intro a b _ _ hab hba
  exact absurd hba (Std.OrientedCmp.not_lt_of_lt hab)

end ByReference

/-! ## Gathering the members -/

namespace Group

theorem mayPrecede_trans (a b c : Descriptor) (hab : mayPrecede a b = true)
    (hbc : mayPrecede b c = true) : mayPrecede a c = true :=
  Std.TransCmp.isLE_trans hab hbc

theorem mayPrecede_total (a b : Descriptor) : (mayPrecede a b || mayPrecede b a) = true := by
  have hba : mayPrecede b a = (compare a.reference b.reference).isGE :=
    (Std.OrientedCmp.isGE_eq_isLE).symm
  rw [hba, mayPrecede]
  cases compare a.reference b.reference <;> rfl

/-- A descriptor that may precede another and has not its reference stands
strictly before it. -/
theorem compare_eq_lt {a b : Descriptor} (h : mayPrecede a b = true)
    (hne : b.reference ≠ a.reference) : compare a.reference b.reference = .lt := by
  rcases Ordering.isLE_iff_eq_lt_or_eq_eq.1 h with hlt | heq
  · exact hlt
  · exact absurd (Reference.compare_eq_iff.1 heq).symm hne

theorem mem_of_mem_dropRepeated :
    ∀ {ds : List Descriptor} {d : Descriptor}, d ∈ dropRepeated ds → d ∈ ds
  | [], _, h => absurd h List.not_mem_nil
  | e :: rest, d, h => by
    rw [dropRepeated] at h
    have hrest : d ∈ dropRepeated rest → d ∈ e :: rest :=
      fun hmem => List.mem_cons_of_mem e (mem_of_mem_dropRepeated hmem)
    cases hkept : dropRepeated rest with
    | nil =>
      rw [hkept] at h
      rw [List.mem_singleton.1 h]
      exact List.mem_cons_self
    | cons first kept =>
      rw [hkept] at h hrest
      dsimp only at h
      split at h
      · rcases List.mem_cons.1 h with rfl | hmem
        · exact List.mem_cons_self
        · exact hrest (List.mem_cons_of_mem first hmem)
      · rcases List.mem_cons.1 h with rfl | hmem
        · exact List.mem_cons_self
        · exact hrest hmem

/-- No reference is lost with the descriptors that repeat it. -/
theorem exists_mem_dropRepeated :
    ∀ {ds : List Descriptor} {d : Descriptor}, d ∈ ds →
      ∃ e ∈ dropRepeated ds, e.reference = d.reference
  | e :: rest, d, h => by
    -- What the rest keeps is kept, up to a first descriptor that repeats `e`.
    have hrest : d ∈ rest → ∃ f ∈ dropRepeated rest, f.reference = d.reference :=
      exists_mem_dropRepeated
    rw [dropRepeated]
    cases hkept : dropRepeated rest with
    | nil =>
      rw [hkept] at hrest
      rcases List.mem_cons.1 h with rfl | hd
      · exact ⟨d, List.mem_cons_self, rfl⟩
      · obtain ⟨f, hf, -⟩ := hrest hd
        exact absurd hf List.not_mem_nil
    | cons first kept =>
      rw [hkept] at hrest
      dsimp only
      split
      · next heq =>
        rcases List.mem_cons.1 h with rfl | hd
        · exact ⟨d, List.mem_cons_self, rfl⟩
        · obtain ⟨f, hf, href⟩ := hrest hd
          rcases List.mem_cons.1 hf with rfl | hf
          · exact ⟨e, List.mem_cons_self, heq.symm.trans href⟩
          · exact ⟨f, List.mem_cons_of_mem e hf, href⟩
      · rcases List.mem_cons.1 h with rfl | hd
        · exact ⟨d, List.mem_cons_self, rfl⟩
        · obtain ⟨f, hf, href⟩ := hrest hd
          exact ⟨f, List.mem_cons_of_mem e hf, href⟩

/-- Of a sorted list one descriptor for each reference stays. -/
theorem byReference_dropRepeated :
    ∀ {ds : List Descriptor}, ds.Pairwise (fun a b => mayPrecede a b = true) →
      ByReference (dropRepeated ds)
  | [], _ => List.Pairwise.nil
  | d :: rest, h => by
    have hd := List.pairwise_cons.1 h
    have ih := byReference_dropRepeated hd.2
    have hfirst : ∀ e ∈ dropRepeated rest, mayPrecede d e = true :=
      fun e he => hd.1 e (mem_of_mem_dropRepeated he)
    rw [dropRepeated]
    cases hkept : dropRepeated rest with
    | nil => exact List.pairwise_singleton _ d
    | cons e kept =>
      rw [hkept] at ih hfirst
      have he := List.pairwise_cons.1 ih
      dsimp only
      split
      · next heq => exact List.pairwise_cons.2 ⟨fun x hx => heq ▸ he.1 x hx, he.2⟩
      · next hne =>
        have hlt := compare_eq_lt (hfirst e List.mem_cons_self) hne
        refine List.pairwise_cons.2 ⟨?_, ih⟩
        intro x hx
        rcases List.mem_cons.1 hx with rfl | hx
        · exact hlt
        · exact Std.TransCmp.lt_trans hlt (he.1 x hx)

/-- The members stand by reference, whatever they were gathered from. -/
theorem byReference_membersOf (name : GroupName) (ds : List Descriptor) :
    ByReference (membersOf name ds) :=
  byReference_dropRepeated (List.pairwise_mergeSort mayPrecede_trans mayPrecede_total _)

/-- Only members are gathered. -/
theorem isMemberOf_of_mem_membersOf {name : GroupName} {ds : List Descriptor} {d : Descriptor}
    (h : d ∈ membersOf name ds) : d ∈ ds ∧ d.isMemberOf name = true := by
  have hsorted := List.mem_mergeSort.1 (mem_of_mem_dropRepeated h)
  exact List.mem_filter.1 hsorted

/-! ## Members with references of their own -/

/-- Among some descriptors a reference names at most one member of a group.
Copies of one descriptor do no harm. -/
def Distinct (name : GroupName) (ds : List Descriptor) : Prop :=
  ∀ a ∈ ds, ∀ b ∈ ds, a.isMemberOf name = true → b.isMemberOf name = true →
    a.reference = b.reference → a = b

instance (name : GroupName) (ds : List Descriptor) : Decidable (Distinct name ds) :=
  inferInstanceAs (Decidable (∀ a ∈ ds, ∀ b ∈ ds, a.isMemberOf name = true →
    b.isMemberOf name = true → a.reference = b.reference → a = b))

variable {name : GroupName} {ds es : List Descriptor}

theorem Distinct.of_byReference (h : ByReference ds) : Distinct name ds := by
  intro a ha b hb _ _ href
  exact h.eq_of_reference ha hb href

/-- Whether references are distinct is seen on the members. -/
theorem Distinct.congr (h : Distinct name ds)
    (hsame : ∀ d : Descriptor, d.isMemberOf name = true → (d ∈ ds ↔ d ∈ es)) :
    Distinct name es := by
  intro a ha b hb hamember hbmember
  exact h a ((hsame a hamember).2 ha) b ((hsame b hbmember).2 hb) hamember hbmember

/-- **Every member is gathered** if a reference names one. -/
theorem mem_membersOf (h : Distinct name ds) {d : Descriptor} :
    d ∈ membersOf name ds ↔ d ∈ ds ∧ d.isMemberOf name = true := by
  refine ⟨isMemberOf_of_mem_membersOf, ?_⟩
  rintro ⟨hd, hmember⟩
  have hsorted : d ∈ (ds.filter (·.isMemberOf name)).mergeSort mayPrecede :=
    List.mem_mergeSort.2 (List.mem_filter.2 ⟨hd, hmember⟩)
  obtain ⟨e, he, href⟩ := exists_mem_dropRepeated hsorted
  have hgiven := isMemberOf_of_mem_membersOf he
  rw [h d hd e hgiven.1 hmember hgiven.2 href.symm]
  exact he

/-- **The members alone count**, not their order and not what else is
given with them. -/
theorem membersOf_congr (h : Distinct name ds)
    (hsame : ∀ d : Descriptor, d.isMemberOf name = true → (d ∈ ds ↔ d ∈ es)) :
    membersOf name ds = membersOf name es := by
  refine (byReference_membersOf name ds).eq_of_mem_iff (byReference_membersOf name es) fun d => ?_
  rw [mem_membersOf h, mem_membersOf (h.congr hsame)]
  constructor
  · rintro ⟨hd, hmember⟩
    exact ⟨(hsame d hmember).1 hd, hmember⟩
  · rintro ⟨hd, hmember⟩
    exact ⟨(hsame d hmember).2 hd, hmember⟩

/-- The members among descriptors by reference are picked from them, whatever
order those are given in. -/
theorem membersOf_eq {given : List Descriptor} (h : ByReference ds) (hperm : given.Perm ds) :
    membersOf name given = ds.filter (·.isMemberOf name) := by
  have hfiltered : ByReference (ds.filter (·.isMemberOf name)) := List.Pairwise.filter _ h
  refine (byReference_membersOf name given).eq_of_mem_iff hfiltered fun d => ?_
  rw [List.mem_filter, ← hperm.mem_iff]
  exact mem_membersOf ((Distinct.of_byReference h).congr fun d _ => hperm.mem_iff.symm)

/-! ## The model of the members -/

/-- **The model depends only on the members.** If a reference names one
member, then two lists of descriptors with the same members give the same
group and the same model in every field, or the same failure with the same
text: for all settings, certificates and identities, in whatever order the
descriptors come and whatever other descriptors stand between them. -/
theorem built_from_members (settings : Settings) (now : Instant) (directory : List Certificate)
    (name : GroupName) (identity : Option Identity) (ds es : List Descriptor)
    (hdistinct : Distinct name ds)
    (hsame : ∀ d : Descriptor, d.isMemberOf name = true → (d ∈ ds ↔ d ∈ es)) :
    aggregate name ds = aggregate name es ∧
      (aggregate name ds >>= fun group => Model.build settings now directory group identity) =
        (aggregate name es >>= fun group => Model.build settings now directory group identity) := by
  have hgroup : aggregate name ds = aggregate name es := by
    rw [aggregate, aggregate, membersOf_congr hdistinct hsame]
  exact ⟨hgroup, by rw [hgroup]⟩

/-- A member of a group that carries a tag. -/
def tagged (reference : Reference) (team : String) : Descriptor :=
  { Descriptor.bare reference "public" with
    originHost := "app.internal"
    provisioned := true
    paths := [⟨"/" ++ reference.name, .exact⟩]
    tags := .ofList [("team", team)] }

/-- Two teams tag one group, and a third route of it is on its way out. -/
def teams : List Descriptor :=
  [tagged ⟨"web", "shop"⟩ "sales", { tagged ⟨"ops", "old"⟩ "ops" with beingRemoved := true },
    tagged ⟨"web-eu", "news"⟩ "press"]

/-- The same two teams the other way round. -/
def teamsTurned : List Descriptor :=
  [tagged ⟨"web-eu", "news"⟩ "press", tagged ⟨"web", "shop"⟩ "sales"]

/-- The scope that is later wins in both lists, though the written forms of
the references stand the other way round. -/
theorem built_from_members_teams :
    Distinct "public" teams ∧
      (∀ d : Descriptor, d.isMemberOf "public" = true → (d ∈ teams ↔ d ∈ teamsTurned)) ∧
      (aggregate "public" teams >>= fun group =>
          Model.build .default ⟨⟨2025, 6, 1⟩, 43200, 0⟩ [] group none) =
        (aggregate "public" teamsTurned >>= fun group =>
          Model.build .default ⟨⟨2025, 6, 1⟩, 43200, 0⟩ [] group none) ∧
      (aggregate "public" teams).map (fun group => (mergeTags .default group).get? "team") =
        .ok (some "press") := by
  have hdistinct : Distinct "public" teams := by decide +kernel
  have hsame : ∀ d : Descriptor, d.isMemberOf "public" = true → (d ∈ teams ↔ d ∈ teamsTurned) := by
    intro d hmember
    have hleaving : d ≠ { tagged ⟨"ops", "old"⟩ "ops" with beingRemoved := true } := by
      rintro rfl
      exact Bool.noConfusion (show false = true from hmember)
    simp only [teams, teamsTurned, List.mem_cons, List.not_mem_nil, or_false, hleaving, false_or]
    exact or_comm
  exact ⟨hdistinct, hsame,
    (built_from_members .default _ [] "public" none teams teamsTurned hdistinct hsame).2, by cbv⟩

end Group

end RouteConvergence
