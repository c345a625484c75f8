/-
RouteConvergence.Proofs.StoredValues — values survive being stored as JSON.

A text that is read as a value need not look like what the value is
written as: fields may be missing, given in another order or by position,
keys may be repeated, moments may carry an offset, and unknown fields of
an open record are dropped. The value is the same again after it was
written and read, for every type that is stored (`Stored`), on one line
and over several.

* `Descriptor.rereads`, `Manifest.rereads`, … — one lemma for each type of
  record, from those of its fields: the fields read before, the slots of
  the written record, and each of them read again.
* `StatusRecord.Storable` — the status records that are ever read, which
  are those that are read again.
* `Stored.decode_encode` — the round trip through texts.
-/
import RouteConvergence.Codec.Dns
import RouteConvergence.Codec.Settings
import RouteConvergence.Codec.Status
import RouteConvergence.Proofs.MomentTexts
import RouteConvergence.Proofs.ReferenceTexts
import RouteConvergence.Proofs.TreeReading
import RouteConvergence.Source.RouteFile

namespace RouteConvergence

open Data

/-! ## Parts that may be missing -/

theorem Data.Document.optionalText_eq : optionalText = Model.optionalDocument .text := by
  funext o
  cases o <;> rfl

theorem Data.Document.optionalNat_eq :
    optionalNat = Model.optionalDocument fun n : Nat => .number n := by
  funext o
  cases o <;> rfl

/-! ## References and moments -/

theorem Reference.rereads : Rereads ofTree? document := by
  intro t r h
  obtain ⟨s, -, hs⟩ := Option.bind_eq_some_iff.1 h
  exact (wellFormed_of_ofText? hs).ofText?_text

namespace Instant

theorem proper_of_ofTree? {tree : Tree} {t : Instant} (h : ofTree? tree = some t) : t.Proper := by
  obtain ⟨s, -, hs⟩ := Option.bind_eq_some_iff.1 h
  exact proper_of_ofText? hs

theorem Proper.ofTree?_document {t : Instant} (h : t.Proper) :
    ofTree? t.document.tree = some t := by
  rw [ofTree?, document, Document.tree, Tree.asText, Option.bind_some, ofText?_text h]

theorem rereads : Rereads ofTree? document := fun _ _ h =>
  (proper_of_ofTree? h).ofTree?_document

theorem optionalDocument_eq : optionalDocument = Model.optionalDocument document := by
  funext o
  cases o <;> rfl

theorem document_ne_null (t : Instant) : t.document ≠ .null := by
  simp [document]

end Instant

/-! ## Descriptors -/

theorem FunctionAssociation.rereads : Rereads ofTree? document := by
  refine Rereads.record (fun _ => rfl) (by decide) fun {slot f} h {written} hgiven => ?_
  simp only [↓bind_eq_some, Option.pure_def, Option.some.injEq] at h
  obtain ⟨kind, hkind, event, hevent, arn, harn, body, hbody, rfl⟩ := h
  simp only [List.forall_mem_cons] at hgiven
  simp [hgiven, Rereads.word.required hkind, Rereads.word.required hevent,
    Rereads.text.required harn, Rereads.bool.orElse rfl hbody]

theorem PathSpec.rereads : Rereads ofTree? document := by
  refine Rereads.record (fun _ => rfl) (by decide) fun {slot p} h {written} hgiven => ?_
  simp only [↓bind_eq_some, Option.pure_def, Option.some.injEq] at h
  obtain ⟨path, hpath, kind, hkind, rfl⟩ := h
  simp only [List.forall_mem_cons] at hgiven
  simp [hgiven, Rereads.text.required hpath, Rereads.word.required hkind]

theorem Descriptor.rereads : Rereads ofTree? document := by
  refine Rereads.record (fun _ => rfl) (by decide) fun {slot d} h {written} hgiven => ?_
  simp only [↓bind_eq_some, Option.pure_def, Option.some.injEq] at h
  obtain ⟨reference, hreference, group, hgroup, host, hhost, paths, hpaths, functions, hfunctions,
    policy, hpolicy, cache, hcache, timeout, htimeout, domains, hdomains, acl, hacl, tags, htags,
    removed, hremoved, provisioned, hprovisioned, finalizer, hfinalizer, rfl⟩ := h
  simp only [List.forall_mem_cons, Document.optionalText_eq, Document.optionalNat_eq] at hgiven
  simp [hgiven, Reference.rereads.required hreference, Rereads.text.required hgroup,
    Rereads.text.required hhost, PathSpec.rereads.list.required hpaths,
    FunctionAssociation.rereads.list.required hfunctions, Rereads.text.optional (by simp) hpolicy,
    Rereads.text.optional (by simp) hcache, Rereads.seconds.optional (by simp) htimeout,
    Rereads.texts.required hdomains, Rereads.text.optional (by simp) hacl,
    Rereads.textMap.required htags, Rereads.bool.required hremoved,
    Rereads.bool.required hprovisioned, Rereads.word.required hfinalizer]

/-! ## Sources -/

theorem ManifestPath.rereads : Rereads ofTree? document := by
  refine Rereads.record (fun _ => rfl) (by decide) fun {slot p} h {written} hgiven => ?_
  simp only [↓bind_eq_some, Option.pure_def, Option.some.injEq] at h
  obtain ⟨path, hpath, kind, hkind, rfl⟩ := h
  simp only [List.forall_mem_cons] at hgiven
  simp [hgiven, Rereads.text.required hpath, Rereads.word.orElse rfl hkind]

theorem ManifestFunction.rereads : Rereads ofTree? document := by
  refine Rereads.record (fun _ => rfl) (by decide) fun {slot f} h {written} hgiven => ?_
  simp only [↓bind_eq_some, Option.pure_def, Option.some.injEq] at h
  obtain ⟨event, hevent, arn, harn, body, hbody, rfl⟩ := h
  simp only [List.forall_mem_cons] at hgiven
  simp [hgiven, Rereads.word.required hevent, Rereads.text.required harn,
    Rereads.bool.orElse rfl hbody]

theorem Manifest.rereads : Rereads ofTree? document := by
  refine Rereads.record (fun _ => rfl) (by decide) fun {slot m} h {written} hgiven => ?_
  simp only [↓bind_eq_some, Option.pure_def, Option.some.injEq] at h
  obtain ⟨scope, hscope, name, hname, group, hgroup, host, hhost, paths, hpaths, viewer, hviewer,
    edge, hedge, policy, hpolicy, cache, hcache, timeout, htimeout, domains, hdomains, acl, hacl,
    tags, htags, removed, hremoved, finalizer, hfinalizer, rfl⟩ := h
  simp only [List.forall_mem_cons, Document.optionalText_eq, Document.optionalNat_eq] at hgiven
  simp [hgiven, Rereads.text.orElse rfl hscope, Rereads.text.required hname,
    Rereads.text.required hgroup, Rereads.text.optionalOrAbsent (by simp) hhost,
    ManifestPath.rereads.list.orElse rfl hpaths, ManifestFunction.rereads.list.orElse rfl hviewer,
    ManifestFunction.rereads.list.orElse rfl hedge, Rereads.text.optionalOrAbsent (by simp) hpolicy,
    Rereads.text.optionalOrAbsent (by simp) hcache,
    Rereads.seconds.optionalOrAbsent (by simp) htimeout, Rereads.texts.orElse rfl hdomains,
    Rereads.text.optionalOrAbsent (by simp) hacl, Rereads.textMap.orElse rfl htags,
    Rereads.bool.orElse rfl hremoved, Rereads.word.orElse rfl hfinalizer]

theorem RulePath.rereads : Rereads ofTree? document := by
  refine Rereads.record (fun _ => rfl) (by decide) fun {slot p} h {written} hgiven => ?_
  simp only [↓bind_eq_some, Option.pure_def, Option.some.injEq] at h
  obtain ⟨path, hpath, type, htype, rfl⟩ := h
  simp only [List.forall_mem_cons] at hgiven
  simp [hgiven, Rereads.text.required hpath, Rereads.word.orElse rfl htype]

theorem AnnotatedRoute.rereads : Rereads ofTree? document := by
  refine Rereads.record (fun _ => rfl) (by decide) fun {slot r} h {written} hgiven => ?_
  simp only [↓bind_eq_some, Option.pure_def, Option.some.injEq] at h
  obtain ⟨scope, hscope, name, hname, annotations, hannotations, paths, hpaths, balancer, hbalancer,
    deletion, hdeletion, finalizers, hfinalizers, rfl⟩ := h
  simp only [List.forall_mem_cons, Document.optionalText_eq] at hgiven
  simp [hgiven, Rereads.text.orElse rfl hscope, Rereads.text.required hname,
    Rereads.textMap.orElse rfl hannotations, RulePath.rereads.list.orElse rfl hpaths,
    Rereads.text.optionalOrAbsent (by simp) hbalancer, Rereads.bool.orElse rfl hdeletion,
    Rereads.texts.orElse rfl hfinalizers]

theorem RouteFile.rereads : Rereads ofTree? document := by
  refine Rereads.record (fun _ => rfl) (by decide) fun {slot f} h {written} hgiven => ?_
  simp only [↓bind_eq_some, Option.pure_def, Option.some.injEq] at h
  obtain ⟨routes, hroutes, annotated, hannotated, rfl⟩ := h
  simp only [List.forall_mem_cons] at hgiven
  simp [hgiven, Manifest.rereads.list.orElse rfl hroutes,
    AnnotatedRoute.rereads.list.orElse rfl hannotated]

/-! ## Distributions -/

theorem Certificate.rereads : Rereads ofTree? document := by
  refine Rereads.record (fun _ => rfl) (by decide) fun {slot c} h {written} hgiven => ?_
  simp only [↓bind_eq_some, Option.pure_def, Option.some.injEq] at h
  obtain ⟨arn, harn, domain, hdomain, names, hnames, status, hstatus, expiry, hexpiry, rfl⟩ := h
  simp only [List.forall_mem_cons, Instant.optionalDocument_eq] at hgiven
  simp [hgiven, Rereads.text.required harn, Rereads.text.required hdomain,
    Rereads.texts.required hnames, Rereads.word.required hstatus,
    Instant.rereads.optional Instant.document_ne_null hexpiry]

theorem Identity.rereads : Rereads ofTree? document := by
  refine Rereads.record (fun _ => rfl) (by decide) fun {slot i} h {written} hgiven => ?_
  simp only [↓bind_eq_some, Option.pure_def, Option.some.injEq] at h
  obtain ⟨id, hid, arn, harn, address, haddress, rfl⟩ := h
  simp only [List.forall_mem_cons, Document.optionalText_eq] at hgiven
  simp [hgiven, Rereads.text.required hid, Rereads.text.required harn,
    Rereads.text.optional (by simp) haddress]

theorem Behavior.rereads : Rereads ofTree? document := by
  refine Rereads.record (fun _ => rfl) (by decide) fun {slot b} h {written} hgiven => ?_
  simp only [↓bind_eq_some, Option.pure_def, Option.some.injEq] at h
  obtain ⟨pattern, hpattern, target, htarget, functions, hfunctions, policy, hpolicy, cache, hcache,
    rfl⟩ := h
  simp only [List.forall_mem_cons, Document.optionalText_eq] at hgiven
  simp [hgiven, Rereads.text.required hpattern, Rereads.text.required htarget,
    FunctionAssociation.rereads.list.required hfunctions, Rereads.text.optional (by simp) hpolicy,
    Rereads.text.optional (by simp) hcache]

theorem Origin.rereads : Rereads ofTree? document := by
  refine Rereads.record (fun _ => rfl) (by decide) fun {slot o} h {written} hgiven => ?_
  simp only [↓bind_eq_some, Option.pure_def, Option.some.injEq] at h
  obtain ⟨host, hhost, behaviors, hbehaviors, timeout, htimeout, rfl⟩ := h
  simp only [List.forall_mem_cons, Document.optionalNat_eq] at hgiven
  simp [hgiven, Rereads.text.required hhost, Behavior.rereads.list.required hbehaviors,
    Rereads.seconds.optional (by simp) htimeout]

theorem TlsSection.rereads : Rereads ofTree? document := by
  refine Rereads.record (fun _ => rfl) (by decide) fun {slot s} h {written} hgiven => ?_
  simp only [↓bind_eq_some, Option.pure_def, Option.some.injEq] at h
  obtain ⟨arn, harn, policy, hpolicy, support, hsupport, rfl⟩ := h
  simp only [List.forall_mem_cons] at hgiven
  simp [hgiven, Rereads.text.required harn, Rereads.text.required hpolicy,
    Rereads.text.required hsupport]

theorem LogTarget.rereads : Rereads ofTree? document := by
  refine Rereads.record (fun _ => rfl) (by decide) fun {slot l} h {written} hgiven => ?_
  simp only [↓bind_eq_some, Option.pure_def, Option.some.injEq] at h
  obtain ⟨bucket, hbucket, start, hstart, rfl⟩ := h
  simp only [List.forall_mem_cons] at hgiven
  simp [hgiven, Rereads.text.required hbucket, Rereads.text.required hstart]

theorem Model.rereads : Rereads ofTree? document := by
  refine Rereads.record (fun _ => rfl) (by decide) fun {slot m} h {written} hgiven => ?_
  simp only [↓bind_eq_some, Option.pure_def, Option.some.injEq] at h
  obtain ⟨group, hgroup, description, hdescription, origin, horigin, origins, horigins, domains,
    hdomains, tls, htls, acl, hacl, tags, htags, logging, hlogging, ipv6, hipv6, identity,
    hidentity, rfl⟩ := h
  simp only [List.forall_mem_cons, Document.optionalText_eq] at hgiven
  simp [hgiven, Rereads.text.required hgroup, Rereads.text.required hdescription,
    Origin.rereads.required horigin, Origin.rereads.list.required horigins,
    Rereads.texts.required hdomains,
    TlsSection.rereads.optional (by simp [TlsSection.document]) htls,
    Rereads.text.optional (by simp) hacl, Rereads.textMap.required htags,
    LogTarget.rereads.optional (by simp [LogTarget.document]) hlogging, Rereads.bool.required hipv6,
    Identity.rereads.optional (by simp [Identity.document]) hidentity]

/-! ## Names -/

theorem RecordType.rereads : Rereads ofTree? fun type => .text type.word := Rereads.word

theorem RecordSet.rereads : Rereads ofTree? document := by
  refine Rereads.record (fun _ => rfl) (by decide) fun {slot r} h {written} hgiven => ?_
  simp only [↓bind_eq_some, Option.pure_def, Option.some.injEq] at h
  obtain ⟨name, hname, type, htype, target, htarget, values, hvalues, rfl⟩ := h
  simp only [List.forall_mem_cons, Document.optionalText_eq] at hgiven
  simp [hgiven, Rereads.text.required hname, RecordType.rereads.required htype,
    Rereads.text.optional (by simp) htarget, Rereads.texts.required hvalues]

theorem Change.rereads : Rereads ofTree? document := by
  refine Rereads.record (fun _ => rfl) (by decide) fun {slot c} h {written} hgiven => ?_
  simp only [↓bind_eq_some, Option.pure_def, Option.some.injEq] at h
  obtain ⟨action, haction, record, hrecord, rfl⟩ := h
  simp only [List.forall_mem_cons] at hgiven
  simp [hgiven, Rereads.word.required haction, RecordSet.rereads.required hrecord]

theorem Batch.rereads : Rereads ofTree? document := Change.rereads.list

theorem AliasEntry.rereads : Rereads ofTree? document := by
  refine Rereads.record (fun _ => rfl) (by decide) fun {slot e} h {written} hgiven => ?_
  simp only [↓bind_eq_some, Option.pure_def, Option.some.injEq] at h
  obtain ⟨domain, hdomain, types, htypes, rfl⟩ := h
  simp only [List.forall_mem_cons] at hgiven
  simp [hgiven, Rereads.text.required hdomain, RecordType.rereads.set.required htypes]

theorem AliasSet.rereads : Rereads ofTree? document := by
  refine Rereads.record (fun _ => rfl) (by decide) fun {slot s} h {written} hgiven => ?_
  simp only [↓bind_eq_some, Option.pure_def, Option.some.injEq] at h
  obtain ⟨target, htarget, entries, hentries, rfl⟩ := h
  simp only [List.forall_mem_cons] at hgiven
  simp [hgiven, Rereads.text.required htarget, AliasEntry.rereads.list.required hentries]

/-! ## Bookkeeping -/

namespace StatusRecord

/-- A record that can be read back: its keys are well-formed, and its last
cycle was at a moment of the calendar. -/
structure Storable (s : StatusRecord) : Prop where
  keys : ∀ e ∈ s.synced.entries, e.1.WellFormed
  moment : ∀ t, s.lastReconciled = some t → t.Proper

/-- Only storable records are ever read. -/
theorem storable_of_ofTree? {t : Tree} {s : StatusRecord} (h : ofTree? t = some s) :
    s.Storable := by
  simp only [ofTree?, ↓bind_eq_some, Option.pure_def, Option.some.injEq] at h
  obtain ⟨slot, -, group, -, id, -, arn, -, address, -, synced, hsynced, aliases, -, reconciled,
    hreconciled, rfl⟩ := h
  constructor
  · intro e he
    rcases Tree.exists_of_orElse hsynced with rfl | ⟨t, ht⟩
    · exact absurd he List.not_mem_nil
    · obtain ⟨text, htext⟩ := (Tree.exists_of_asMap ht e he).1
      exact Reference.wellFormed_of_ofText? htext
  · intro moment hmoment
    dsimp only at hmoment
    subst hmoment
    obtain ⟨t, ht⟩ := Tree.exists_of_optional hreconciled
    exact Instant.proper_of_ofTree? ht

/-- A storable record is read from what it is written as. -/
theorem Storable.ofTree?_document {s : StatusRecord} (h : s.Storable) :
    ofTree? s.document.tree = some s := by
  obtain ⟨written, hslots, hgiven⟩ :
      ∃ written, s.document.tree.slots fieldNames false = some written ∧ _ :=
    Tree.slots_record false rfl (by decide)
  have htexts : ∀ o : Option String,
      (Model.optionalDocument Document.text o).tree.asOption Tree.asText = some o :=
    fun o => Tree.asOption_tree (by simp) fun _ _ => rfl
  have hsynced : (Document.record (s.synced.entries.map fun e => (e.1.text, .bool e.2))).tree.asMap
      Reference.ofText? Tree.asBool = some s.synced :=
    Tree.asMap_tree (fun e he => (h.keys e he).ofText?_text) fun _ _ => rfl
  have haliases : (Document.texts s.aliases.toList).tree.asSet Tree.asText = some s.aliases :=
    Tree.asSet_tree fun _ _ => rfl
  have hmoment : (Model.optionalDocument Instant.document s.lastReconciled).tree.asOption
      Instant.ofTree? = some s.lastReconciled :=
    Tree.asOption_tree Instant.document_ne_null fun t ht => (h.moment t ht).ofTree?_document
  have hgroup : (Document.text s.group).tree.asText = some s.group := rfl
  simp only [List.forall_mem_cons, Document.optionalText_eq, Instant.optionalDocument_eq] at hgiven
  simp [ofTree?, hslots, hgiven, Slot.required, Slot.optional, Slot.orElse, htexts, hsynced,
    haliases, hmoment, hgroup]

theorem rereads : Rereads ofTree? document := fun _ _ h =>
  (storable_of_ofTree? h).ofTree?_document

end StatusRecord

theorem EventTarget.rereads : Rereads ofTree? document := by
  intro t target h
  unfold ofTree? at h
  split at h
  · obtain ⟨reference, hreference, rfl⟩ := Option.map_eq_some_iff.1 h
    exact congrArg (Option.map EventTarget.route) (Reference.rereads hreference)
  · obtain ⟨group, -, rfl⟩ := Option.map_eq_some_iff.1 h
    rfl
  · simp at h

theorem Event.rereads : Rereads ofTree? document := by
  refine Rereads.record (fun _ => rfl) (by decide) fun {slot e} h {written} hgiven => ?_
  simp only [↓bind_eq_some, Option.pure_def, Option.some.injEq] at h
  obtain ⟨target, htarget, kind, hkind, reason, hreason, message, hmessage, rfl⟩ := h
  simp only [List.forall_mem_cons] at hgiven
  simp [hgiven, EventTarget.rereads.required htarget, Rereads.word.required hkind,
    Rereads.text.required hreason, Rereads.text.required hmessage]

/-! ## Settings -/

theorem TlsSettings.rereads : Rereads ofTree? document := by
  refine Rereads.record (fun _ => rfl) (by decide) fun {slot s} h {written} hgiven => ?_
  simp only [↓bind_eq_some, Option.pure_def, Option.some.injEq] at h
  obtain ⟨enabled, henabled, policy, hpolicy, support, hsupport, rfl⟩ := h
  simp only [List.forall_mem_cons] at hgiven
  simp [hgiven, Rereads.bool.orElse rfl henabled, Rereads.text.orElse rfl hpolicy,
    Rereads.text.orElse rfl hsupport]

theorem LogSettings.rereads : Rereads ofTree? document := by
  refine Rereads.record (fun _ => rfl) (by decide) fun {slot s} h {written} hgiven => ?_
  simp only [↓bind_eq_some, Option.pure_def, Option.some.injEq] at h
  obtain ⟨enabled, henabled, bucket, hbucket, start, hstart, rfl⟩ := h
  simp only [List.forall_mem_cons] at hgiven
  simp [hgiven, Rereads.bool.orElse rfl henabled, Rereads.text.orElse rfl hbucket,
    Rereads.text.orElse rfl hstart]

theorem AliasSettings.rereads : Rereads ofTree? document := by
  refine Rereads.record (fun _ => rfl) (by decide) fun {slot s} h {written} hgiven => ?_
  simp only [↓bind_eq_some, Option.pure_def, Option.some.injEq] at h
  obtain ⟨enabled, henabled, token, htoken, rfl⟩ := h
  simp only [List.forall_mem_cons] at hgiven
  simp [hgiven, Rereads.bool.orElse rfl henabled, Rereads.text.orElse rfl htoken]

theorem Settings.rereads : Rereads ofTree? document := by
  refine Rereads.record (fun _ => rfl) (by decide) fun {slot s} h {written} hgiven => ?_
  simp only [↓bind_eq_some, Option.pure_def, Option.some.injEq] at h
  obtain ⟨tls, htls, logging, hlogging, ipv6, hipv6, tags, htags, description, hdescription, host,
    hhost, aliasing, haliasing, creation, hcreation, deletion, hdeletion, managed, hmanaged, key,
    hkey, rfl⟩ := h
  simp only [List.forall_mem_cons] at hgiven
  simp [hgiven, TlsSettings.rereads.orElse rfl htls, LogSettings.rereads.orElse rfl hlogging,
    Rereads.bool.orElse rfl hipv6, Rereads.textMap.orElse rfl htags,
    Rereads.text.orElse rfl hdescription, Rereads.text.orElse rfl hhost,
    AliasSettings.rereads.orElse rfl haliasing, Rereads.bool.orElse rfl hcreation,
    Rereads.bool.orElse rfl hdeletion, Rereads.text.orElse rfl hmanaged,
    Rereads.text.orElse rfl hkey]

/-! ## Stored types -/

/-- The types whose values are stored as JSON. -/
inductive Stored
  | descriptor
  | manifest
  | annotatedRoute
  | routeFile
  | certificate
  | model
  | statusRecord
  | aliasSet
  | batch
  | event
  | settings
  | reference
deriving DecidableEq, Repr

namespace Stored

/-- The values of a type. -/
abbrev Value : Stored → Type
  | descriptor => Descriptor
  | manifest => Manifest
  | annotatedRoute => AnnotatedRoute
  | routeFile => RouteFile
  | certificate => Certificate
  | model => Model
  | statusRecord => StatusRecord
  | aliasSet => AliasSet
  | batch => Batch
  | event => Event
  | settings => Settings
  | reference => Reference

/-- What a value is written as. -/
def document : (type : Stored) → type.Value → Document
  | descriptor => Descriptor.document
  | manifest => Manifest.document
  | annotatedRoute => AnnotatedRoute.document
  | routeFile => RouteFile.document
  | certificate => Certificate.document
  | model => Model.document
  | statusRecord => StatusRecord.document
  | aliasSet => AliasSet.document
  | batch => Batch.document
  | event => Event.document
  | settings => Settings.document
  | reference => Reference.document

/-- The value a tree stands for. -/
def ofTree? : (type : Stored) → Tree → Option type.Value
  | descriptor => Descriptor.ofTree?
  | manifest => Manifest.ofTree?
  | annotatedRoute => AnnotatedRoute.ofTree?
  | routeFile => RouteFile.ofTree?
  | certificate => Certificate.ofTree?
  | model => Model.ofTree?
  | statusRecord => StatusRecord.ofTree?
  | aliasSet => AliasSet.ofTree?
  | batch => Batch.ofTree?
  | event => Event.ofTree?
  | settings => Settings.ofTree?
  | reference => Reference.ofTree?

/-- The value a JSON text decodes to. -/
def decode (type : Stored) (text : String) : Option type.Value :=
  (Json.read? text).bind type.ofTree?

/-- A value as a JSON text, on one line or over several. -/
def encode (type : Stored) (layout : Document → String) (v : type.Value) : String :=
  layout (type.document v)

theorem rereads : ∀ type : Stored, Rereads type.ofTree? type.document
  | descriptor => Descriptor.rereads
  | manifest => Manifest.rereads
  | annotatedRoute => AnnotatedRoute.rereads
  | routeFile => RouteFile.rereads
  | certificate => Certificate.rereads
  | model => Model.rereads
  | statusRecord => StatusRecord.rereads
  | aliasSet => AliasSet.rereads
  | batch => Batch.rereads
  | event => Event.rereads
  | settings => Settings.rereads
  | reference => Reference.rereads

/-- What a written text decodes to is what the tree of the document is
read as. -/
theorem decode_encode_eq (type : Stored) (v : type.Value) {layout : Document → String}
    (h : layout ∈ [Json.compact, Json.pretty]) :
    type.decode (type.encode layout v) = type.ofTree? (type.document v).tree := by
  have hread : Json.read? (layout (type.document v)) = some (type.document v).tree := by
    rcases List.mem_pair.1 h with rfl | rfl
    · exact Json.read?_compact _
    · exact Json.read?_pretty _
  rw [decode, encode, hread, Option.bind_some]

/-- **Whatever a text decodes to is decoded again from the text it is
encoded as.** This holds of moments in any year, and of a value whose text
had its fields in another form. -/
theorem decode_encode (type : Stored) {text : String} {v : type.Value}
    (h : type.decode text = some v) :
    type.decode (type.encode Json.compact v) = some v ∧
      type.decode (type.encode Json.pretty v) = some v := by
  obtain ⟨t, -, ht⟩ := Option.bind_eq_some_iff.1 h
  have hagain := type.rereads ht
  exact ⟨by rw [decode_encode_eq type v (by simp), hagain],
    by rw [decode_encode_eq type v (by simp), hagain]⟩

/-- A status record with a repeated key, a missing field, an escaped
letter and a leap second at an offset, which lies in the month before. -/
theorem decode_encode_offset :
    let text := "\x7b\"address\":null,\"descriptors\":\x7b\"b/c\":true,\"a/b/\":true,\"b/c\":false\x7d," ++
      "\"group\":\"\\u0041\",\"arn\":\"\",\"distribution_id\":null," ++
      "\"last_reconciled_at\":\"2024-03-01t00:59:60.5+01:00\"\x7d"
    let record : StatusRecord := {
      group := "A", distributionId := none, arn := some "", address := none,
      synced := .ofList [(⟨"a", "b/"⟩, true), (⟨"b", "c"⟩, false)], aliases := .empty,
      lastReconciled := some ⟨⟨2024, 2, 29⟩, 86399, 1500000000⟩ }
    statusRecord.decode text = some record ∧
      statusRecord.decode (statusRecord.encode Json.compact record) = some record ∧
      statusRecord.decode (statusRecord.encode Json.pretty record) = some record := by
  intro text record
  have h : statusRecord.decode text = some record := by decide +kernel
  exact ⟨h, decode_encode statusRecord h⟩

end Stored

end RouteConvergence
