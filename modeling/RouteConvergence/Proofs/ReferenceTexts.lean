/-
RouteConvergence.Proofs.ReferenceTexts — which references survive being
written.

A reference is written with a slash between its two parts and read by
cutting at the first slash. So it is read back exactly if its parts are
not empty and its scope holds no slash (`Reference.WellFormed`), and what
is read always is of this kind. Nothing keeps a source from naming other
references, and then two of them may be written alike.
-/
import RouteConvergence.Proofs.CutTexts
import RouteConvergence.Reference

namespace RouteConvergence

/-! ## References and their written forms -/

namespace Reference

/-- A reference whose written form can be cut only where it was put
together. -/
structure WellFormed (r : Reference) : Prop where
  scope_ne : r.scope ≠ ""
  no_slash : '/' ∉ r.scope.toList
  name_ne : r.name ≠ ""

instance (r : Reference) : Decidable r.WellFormed :=
  decidable_of_iff (r.scope ≠ "" ∧ '/' ∉ r.scope.toList ∧ r.name ≠ "")
    ⟨fun h => ⟨h.1, h.2.1, h.2.2⟩, fun h => ⟨h.scope_ne, h.no_slash, h.name_ne⟩⟩

/-- What is read from a text is well-formed. -/
theorem wellFormed_of_ofText? {s : String} {r : Reference} (h : ofText? s = some r) :
    r.WellFormed := by
  unfold ofText? at h
  split at h
  · next scope name hcut =>
    obtain ⟨⟨before, after⟩, hsplit, hparts⟩ := Option.map_eq_some_iff.1 hcut
    obtain ⟨rfl, rfl⟩ := Prod.mk.inj hparts
    split at h
    · simp at h
    · next hne =>
      obtain rfl := Option.some.inj h
      simp only [Bool.or_eq_true, String.isEmpty_iff, not_or] at hne
      exact ⟨hne.1, by simpa using (Text.splitFirst_eq_some_iff.1 hsplit).2, hne.2⟩
  · simp at h

/-- A well-formed reference is read back from its written form. -/
theorem WellFormed.ofText?_text {r : Reference} (h : r.WellFormed) : ofText? r.text = some r := by
  have hcut : Text.splitOnce '/' r.text = some (r.scope, r.name) := by
    have hlist : r.text.toList = r.scope.toList ++ '/' :: r.name.toList := by
      simp [text]
    rw [Text.splitOnce, hlist, Text.splitFirst_eq_some_iff.2 ⟨rfl, h.no_slash⟩]
    simp
  rw [ofText?, hcut]
  simp [h.scope_ne, h.name_ne]

/-- **A reference is read back from its written form exactly if it is
well-formed.** -/
theorem ofText?_text_iff {r : Reference} : ofText? r.text = some r ↔ r.WellFormed :=
  ⟨wellFormed_of_ofText?, WellFormed.ofText?_text⟩

/-- Well-formed references are told apart by their written forms. -/
theorem WellFormed.text_inj {r r' : Reference} (h : r.WellFormed) (h' : r'.WellFormed)
    (htext : r.text = r'.text) : r = r' :=
  Option.some.inj (by rw [← h.ofText?_text, htext, h'.ofText?_text])

end Reference

end RouteConvergence
