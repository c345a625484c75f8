/-
RouteConvergence.Proofs.PersistedReferences — which routes keep their
identity in the status records.

Routes are compared by scope and name, but a status record is stored with
their written forms as keys. Neither a file nor the checks of a descriptor
look at the parts of a reference, so what is accepted need not survive:
a scope with a slash makes two routes into one, an empty part makes the
record unreadable. What has to hold of a file instead is that it is
`RouteFile.Nameable`.

* `StatusRecord.decode_encode_iff` — the records that are read back are
  those with well-formed keys and a moment of the calendar.
* `World.recordsAbout_through` — cycles about some descriptors leave
  records with their references as keys, whatever else happens.
* `RouteFile.nameable_iff` — for an accepted file, being nameable, keeping
  every reference through its written form, and keeping every status
  record through its stored form are the same.
* `RouteFile.accepted_and_merged` — an accepted file that is not nameable.
-/
import RouteConvergence.Proofs.History
import RouteConvergence.Proofs.StoredValues

namespace RouteConvergence

open Data

/-! ## Status records -/

namespace StatusRecord

/-- **A record is decoded from what it is encoded as exactly if it is
storable.** -/
theorem decode_encode_iff {s : StatusRecord} {layout : Document → String}
    (hlayout : layout ∈ [Json.compact, Json.pretty]) :
    Stored.statusRecord.decode (Stored.statusRecord.encode layout s) = some s ↔ s.Storable := by
  rw [Stored.decode_encode_eq _ _ hlayout]
  exact ⟨storable_of_ofTree?, Storable.ofTree?_document⟩

end StatusRecord

/-! ## References of a file -/

/-- The identity of a manifest's route. -/
def Manifest.reference (m : Manifest) : Reference := ⟨m.scope, m.name⟩

theorem Descriptor.reference_behind (d : Descriptor) (host : Option String) :
    (d.behind host).reference = d.reference := by
  cases host <;> rfl

/-- Descriptors of one route in one group behind one host, whatever options
they carry. -/
structure Descriptor.SamePlace (d e : Descriptor) : Prop where
  reference : d.reference = e.reference
  group : d.group = e.group
  originHost : d.originHost = e.originHost
  provisioned : d.provisioned = e.provisioned

theorem Manifest.samePlace_normalize (m : Manifest) :
    m.normalize.SamePlace
      ((Descriptor.bare m.reference (Text.trim m.group)).behind (m.originHost.bind trimmed?)) :=
  ⟨rfl, rfl, rfl, rfl⟩

theorem Manifest.reference_normalize (m : Manifest) : m.normalize.reference = m.reference :=
  Descriptor.reference_behind _ _

/-- An object has its place from its group annotation and its load balancer. -/
theorem AnnotatedRoute.samePlace_normalize {r : AnnotatedRoute} {d : Descriptor}
    (h : r.normalize = .ok d) : ∃ group, r.option? .group = some group ∧
      d.SamePlace
        ((Descriptor.bare r.reference group).behind (r.loadBalancer.bind trimmed?)) := by
  unfold normalize at h
  split at h
  · simp at h
  split at h
  · simp at h
  · next group hgroup =>
    cases hd : r.normalizeIn group with
    | error refusal => simp [hd, Except.mapError] at h
    | ok found =>
      obtain rfl : found = d := by simpa [hd, Except.mapError] using h
      unfold normalizeIn at hd
      obtain ⟨timeout, -, hd⟩ := Outcome.bind_eq_ok.1 hd
      obtain ⟨functions, -, hd⟩ := Outcome.bind_eq_ok.1 hd
      obtain ⟨tags, -, hd⟩ := Outcome.bind_eq_ok.1 hd
      obtain rfl := Except.ok.inj hd
      exact ⟨group, hgroup, rfl, rfl, rfl, rfl⟩

theorem AnnotatedRoute.reference_normalize {r : AnnotatedRoute} {d : Descriptor}
    (h : r.normalize = .ok d) : d.reference = r.reference := by
  obtain ⟨group, -, hplace⟩ := samePlace_normalize h
  exact hplace.reference.trans (Descriptor.reference_behind _ _)

namespace RouteFile

/-- The references a file names, manifests first. -/
def references (f : RouteFile) : List Reference :=
  f.routes.map Manifest.reference ++ f.annotatedRoutes.map AnnotatedRoute.reference

theorem map_reference_annotated : ∀ {rs : List AnnotatedRoute} {ds : List Descriptor},
    rs.mapM AnnotatedRoute.normalize = .ok ds →
      ds.map (·.reference) = rs.map AnnotatedRoute.reference
  | [], ds, h => by
    obtain rfl : [] = ds := Except.ok.inj h
    rfl
  | r :: rs, ds, h => by
    rw [List.mapM_cons] at h
    obtain ⟨d, hd, h⟩ := Outcome.bind_eq_ok.1 h
    obtain ⟨more, hmore, h⟩ := Outcome.bind_eq_ok.1 h
    obtain rfl : d :: more = ds := Except.ok.inj h
    rw [List.map_cons, List.map_cons, AnnotatedRoute.reference_normalize hd,
      map_reference_annotated hmore]

/-- The descriptors of a file's routes have the references it names. -/
theorem map_reference_append {f : RouteFile} {annotated : List Descriptor}
    (h : f.annotatedRoutes.mapM AnnotatedRoute.normalize = .ok annotated) :
    (f.routes.map Manifest.normalize ++ annotated).map (·.reference) = f.references := by
  rw [List.map_append, List.map_map, map_reference_annotated h, references]
  exact congrArg (· ++ _) (List.map_congr_left fun m _ => m.reference_normalize)

theorem map_reference {f : RouteFile} {ds : List Descriptor} (h : f.descriptors = .ok ds) :
    ds.map (·.reference) = f.references := by
  obtain ⟨annotated, hannotated, -, rfl⟩ := descriptors_eq_ok h
  exact map_reference_append hannotated

/-- A file all of whose references survive being written. -/
def Nameable (f : RouteFile) : Prop := ∀ r ∈ f.references, r.WellFormed

end RouteFile

/-! ## Records that cycles leave -/

/-- A status record about some descriptors: its keys are references of
theirs, and its last cycle was at a moment of the calendar. -/
structure StatusRecord.IsAbout (s : StatusRecord) (ds : List Descriptor) : Prop where
  keys : ∀ e ∈ s.synced.entries, ∃ d ∈ ds, d.reference = e.1
  moment : ∀ t, s.lastReconciled = some t → t.Proper

/-- Whether every cycle is about one of some descriptors, at a moment of the
calendar. What else happens does not matter. -/
def Happening.Concerns (ds : List Descriptor) : Happening → Prop
  | cycle _ now d => (∃ d' ∈ ds, d'.reference = d.reference) ∧ now.Proper
  | store _ | withdraw _ | failures _ _ | statusLost _ => True

namespace World

/-- All status records on file are about some descriptors. -/
def RecordsAbout (w : World) (ds : List Descriptor) : Prop :=
  ∀ group s, w.statuses.get? group = some s → s.IsAbout ds

variable {w : World} {settings : Settings} {now : Instant} {d : Descriptor} {p : Cycle.Prepared}
  {ds : List Descriptor}

/-- The record a cycle ends with has the keys it found and that of the
cycle's route. -/
theorem recordAfter_isAbout (hrecords : w.RecordsAbout ds)
    (hp : w.prepared settings now d = .ok p) (hd : ∃ d' ∈ ds, d'.reference = d.reference)
    (hnow : now.Proper) : (w.recordAfter settings now d p).IsAbout ds := by
  have hfound : ∀ e ∈ (p.found d.group).synced.entries, ∃ d' ∈ ds, d'.reference = e.1 := by
    cases hget : w.statuses.get? d.group with
    | some status => exact found_eq hp hget ▸ (hrecords d.group status hget).keys
    | none =>
      intro e he
      rw [Cycle.Prepared.found, persisted_eq hp, hget] at he
      exact absurd he List.not_mem_nil
  refine ⟨fun e he => ?_, fun t ht => ?_⟩
  · have hnoted : e ∈ SortedMap.place d.reference
        ((w.distributionSync settings p).1.failure.isNone &&
          (w.aliasSync settings d p).1.failures.isEmpty) (p.found d.group).synced.entries := by
      unfold recordAfter at he
      dsimp only at he
      split at he
      · exact (List.mem_filter.1 he).1
      · exact he
    rcases SortedMap.mem_place hnoted with rfl | hmem
    · exact hd
    · exact hfound e hmem
  · obtain rfl : now = t := Option.some.inj ht
    exact hnow

theorem RecordsAbout.converged (hrecords : w.RecordsAbout ds)
    (hstatuses : w.statuses.FiledBy (·.group)) (hp : w.prepared settings now d = .ok p)
    (hd : ∃ d' ∈ ds, d'.reference = d.reference) (hnow : now.Proper) :
    (w.converged settings now d p).RecordsAbout ds := by
  intro group s hget
  replace hget : (w.recorded settings now d p).2.get? group = some s := hget
  rw [recorded_eq hstatuses hp] at hget
  dsimp only at hget
  split at hget
  · exact hrecords group s (SortedMap.get?_erase_eq_some hget).2
  · rcases SortedMap.get?_insert_eq_some hget with ⟨-, rfl⟩ | hold
    · exact recordAfter_isAbout hrecords hp hd hnow
    · exact hrecords group s hold

/-- Cycles about some descriptors leave records about them. -/
theorem RecordsAbout.after (hrecords : w.RecordsAbout ds) (hsound : w.Sound) {next : Happening}
    (h : next.Concerns ds) : (w.after next).RecordsAbout ds := by
  cases next with
  | cycle settings now d =>
    rcases after_cycle w settings now d with ⟨events, heq⟩ | ⟨p, events, hp, heq⟩
    · rw [heq]
      exact hrecords
    · rw [heq]
      exact hrecords.converged hsound.statuses hp h.1 h.2
  | statusLost group =>
    exact fun other s hget => hrecords other s (SortedMap.get?_erase_eq_some hget).2
  | store d => exact hrecords
  | withdraw route => exact hrecords
  | failures operations names => exact hrecords

theorem recordsAbout_through (certificates : List Certificate) (records : List RecordSet)
    {history : List Happening} (h : ∀ next ∈ history, next.Concerns ds) :
    ((seeded certificates records).through history).RecordsAbout ds := by
  have hstart : (seeded certificates records).Sound ∧ (seeded certificates records).RecordsAbout ds :=
    ⟨sound_seeded certificates records, fun _ _ hget => nomatch hget⟩
  exact (through_induction (P := fun w => w.Sound ∧ w.RecordsAbout ds)
    (fun _ next hnext hw => ⟨hw.1.after next, hw.2.after hw.1 hnext⟩) h hstart).2

end World

namespace RouteFile

theorem nameable_iff_wellFormed {f : RouteFile} {ds : List Descriptor}
    (h : f.descriptors = .ok ds) : f.Nameable ↔ ∀ d ∈ ds, d.reference.WellFormed := by
  rw [Nameable, ← map_reference h]
  simp

/-- **What is accepted persists exactly if it is nameable.** For an
accepted file, being nameable, every reference being read back from its
written form, and every status record about the descriptors being decoded
from what it is encoded as are the same, and no two references are then
written alike. The records that cycles leave are such records. That the
descriptors are valid adds nothing. -/
theorem nameable_iff {f : RouteFile} {ds : List Descriptor} (h : f.descriptors = .ok ds)
    {layout : Document → String} (hlayout : layout ∈ [Json.compact, Json.pretty]) :
    (f.Nameable ↔ ∀ d ∈ ds, Reference.ofText? d.reference.text = some d.reference) ∧
    (f.Nameable ↔ ∀ s : StatusRecord, s.IsAbout ds →
      Stored.statusRecord.decode (Stored.statusRecord.encode layout s) = some s) ∧
    (f.Nameable → ∀ d ∈ ds, ∀ d' ∈ ds, d.reference.text = d'.reference.text →
      d.reference = d'.reference) ∧
    ∀ (certificates : List Certificate) (records : List RecordSet) (history : List Happening),
      (∀ next ∈ history, next.Concerns ds) → ∀ group s,
        ((World.seeded certificates records).through history).statuses.get? group = some s →
          s.IsAbout ds := by
  rw [nameable_iff_wellFormed h]
  refine ⟨?_, ⟨fun hnames s hs => ?_, fun hrecords d hd => ?_⟩, fun hnames d hd d' hd' htext => ?_,
    fun certificates records _ hhistory => World.recordsAbout_through certificates records hhistory⟩
  · simp only [Reference.ofText?_text_iff]
  · rw [StatusRecord.decode_encode_iff hlayout]
    refine ⟨fun e he => ?_, hs.moment⟩
    obtain ⟨d, hd, href⟩ := hs.keys e he
    exact href ▸ hnames d hd
  · -- The record of a first cycle about the route has its key and no other.
    let first := (StatusRecord.new d.group).recordSync d.reference true
    have hentries : first.synced.entries = [(d.reference, true)] := rfl
    have habout : first.IsAbout ds := by
      refine ⟨fun e he => ⟨d, hd, ?_⟩, fun t ht => nomatch ht⟩
      rw [hentries] at he
      rw [List.mem_singleton.1 he]
    have hstorable := (StatusRecord.decode_encode_iff hlayout).1 (hrecords first habout)
    exact hstorable.keys (d.reference, true) (hentries ▸ List.mem_cons_self)
  · exact (hnames d hd).text_inj (hnames d' hd') htext

/-- A file with two routes of one group, the second still without an
origin. -/
def pair (r r' : Reference) : RouteFile :=
  let manifest (r : Reference) (host : Option String) : Manifest := {
    scope := r.scope, name := r.name, group := "public", originHost := host,
    paths := [⟨"/", .subtree⟩], viewerFunctions := [], edgeFunctions := [],
    originRequestPolicy := none, cachePolicy := none, responseTimeout := none,
    alternateDomains := [], webAcl := none, tags := .empty, removed := false,
    finalizer := .released }
  ⟨[manifest r (some "web.internal"), manifest r' none], []⟩

/-- A name may hold slashes. -/
theorem nameable_iff_nested :
    ∃ ds, (pair ⟨"a", "b/c"⟩ ⟨"b", "c"⟩).descriptors = .ok ds ∧
      (∀ d ∈ ds, Reference.ofText? d.reference.text = some d.reference) ∧
      ∀ s : StatusRecord, s.IsAbout ds →
        Stored.statusRecord.decode (Stored.statusRecord.encode Json.pretty s) = some s := by
  have haccepted : (pair ⟨"a", "b/c"⟩ ⟨"b", "c"⟩).descriptors = .ok _ := rfl
  have hlayout : Json.pretty ∈ [Json.compact, Json.pretty] := by simp
  have hnameable : (pair ⟨"a", "b/c"⟩ ⟨"b", "c"⟩).Nameable := by
    unfold Nameable
    decide
  obtain ⟨htexts, hrecords, -⟩ := nameable_iff haccepted hlayout
  exact ⟨_, haccepted, htexts.1 hnameable, hrecords.1 hnameable⟩

/-- Two routes that are different, accepted and valid, and written alike:
after a cycle about each of them, what is stored of the record knows the
second route only. -/
theorem accepted_and_merged :
    ∃ d d' : Descriptor, (pair ⟨"a/b", "c"⟩ ⟨"a", "b/c"⟩).descriptors = .ok [d, d'] ∧
      d.validate = .ok () ∧ d'.validate = .ok () ∧ d.reference ≠ d'.reference ∧
      d.reference.text = "a/b/c" ∧ d'.reference.text = "a/b/c" ∧
      Reference.ofText? d.reference.text = some d'.reference ∧
      ∃ written merged : StatusRecord,
        ((World.seeded [] []).through [.store d, .cycle .default .someNoon d, .store d',
          .cycle .default .someNoon d']).statuses.get? "public" = some written ∧
        written.synced.entries = [(d'.reference, true), (d.reference, true)] ∧
        Stored.statusRecord.decode (Stored.statusRecord.encode Json.compact written) =
          some merged ∧
        merged.synced.entries = [(d'.reference, true)] := by
  let written : StatusRecord := {
    group := "public", distributionId := some "E000000000001",
    arn := some "arn:aws:cloudfront::000000000000:distribution/E000000000001",
    address := some "e000000000001.cdn.example.net",
    synced := .ofList [(⟨"a/b", "c"⟩, true), (⟨"a", "b/c"⟩, true)], aliases := .empty,
    lastReconciled := some .someNoon }
  refine ⟨_, _, rfl, rfl, rfl, by decide, rfl, rfl, by decide +kernel, written,
    { written with synced := .ofList [(⟨"a", "b/c"⟩, true)] }, ?_, rfl, ?_, rfl⟩
  · decide +kernel
  · decide +kernel

end RouteFile

end RouteConvergence
