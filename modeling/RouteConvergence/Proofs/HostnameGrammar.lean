/-
RouteConvergence.Proofs.HostnameGrammar — the labels of a host name.

A host name is judged by one expression and a bound on its bytes. What
passes can be told without the expression, by cutting the name at its dots
(`Hostname.WellFormed`): after a wildcard label that may lead there are at
least two labels, each with one to sixty-three letters, digits and
hyphens, none of them beginning or ending with a hyphen, and the last has
two characters or more and begins with a letter.

The expression takes its labels one after the other, each but the last
with the dot behind it, so a text it accepts is put together from labels
(`Hostname.matches_unmarked_iff`). No label holds a dot, and so these are
the pieces between the dots.
-/
import RouteConvergence.Hostname
import RouteConvergence.Proofs.CutTexts
import RouteConvergence.Proofs.RegularTexts

namespace RouteConvergence.Hostname

open Text (Regular isFoldedLetter isDigit splitChars)
open Text.Regular

/-! ## The grammar -/

/-- A label of a host name. -/
structure IsLabel (label : List Char) : Prop where
  nonempty : 1 ≤ label.length
  short : label.length ≤ 63
  chars : ∀ c ∈ label, isInnerChar c = true
  first : ∀ c, label.head? = some c → isWordChar c = true
  last : ∀ c, label.getLast? = some c → isWordChar c = true

/-- A label that may stand last. -/
structure IsTop (label : List Char) : Prop extends IsLabel label where
  long : 2 ≤ label.length
  letter : ∀ c, label.head? = some c → isFoldedLetter c = true

/-- The characters of a name without the wildcard label in front. -/
def withoutWildcard : List Char → List Char
  | '*' :: '.' :: rest => rest
  | cs => cs

/-- The labels of a name, without the wildcard label in front. -/
def labels (host : String) : List (List Char) := splitChars '.' (withoutWildcard host.toList)

/-- What a host name has to look like. -/
structure WellFormed (host : String) : Prop where
  bytes : host.utf8ByteSize ≤ 253
  several : 2 ≤ (labels host).length
  labels : ∀ label ∈ labels host, IsLabel label
  top : ∀ label, (Hostname.labels host).getLast? = some label → IsTop label

/-! ## Characters -/

variable {c : Char} {s label : List Char}

theorem isWordChar_of_isFoldedLetter (h : isFoldedLetter c = true) : isWordChar c = true := by
  simp [isWordChar, h]

theorem isInnerChar_of_isWordChar (h : isWordChar c = true) : isInnerChar c = true := by
  simp [isInnerChar, h]

theorem isInnerChar_ne_dot (h : isInnerChar c = true) : c ≠ '.' := by
  rintro rfl
  exact absurd h (by decide)

theorem IsLabel.no_dot (h : IsLabel label) : '.' ∉ label := by
  intro hdot
  exact isInnerChar_ne_dot (h.chars '.' hdot) rfl

/-! ## One label -/

theorem matches_only_iff : Matches (only c) s ↔ s = [c] := by
  simp [only, matches_one_iff]

theorem matches_labelTail_iff :
    Matches labelTail s ↔ ∃ inner last, s = inner ++ [last] ∧ inner.length ≤ 61 ∧
      (∀ c ∈ inner, isInnerChar c = true) ∧ isWordChar last = true := by
  rw [labelTail, matches_next_iff]
  constructor
  · rintro ⟨inner, v, rfl, hinner, hv⟩
    obtain ⟨last, rfl, hlast⟩ := matches_one_iff.1 hv
    obtain ⟨hlength, hchars⟩ := matches_upTo_one_iff.1 hinner
    exact ⟨inner, last, rfl, hlength, hchars, hlast⟩
  · rintro ⟨inner, last, rfl, hlength, hchars, hlast⟩
    exact ⟨inner, [last], rfl, matches_upTo_one_iff.2 ⟨hlength, hchars⟩, .one hlast⟩

/-- A label is one letter or digit, with a tail if there is more. -/
theorem isLabel_cons_iff :
    IsLabel (c :: s) ↔ isWordChar c = true ∧ (s = [] ∨ Matches labelTail s) := by
  constructor
  · intro h
    refine ⟨h.first c rfl, ?_⟩
    rcases List.eq_nil_or_concat' s with rfl | ⟨inner, last, rfl⟩
    · exact Or.inl rfl
    · have hshort := h.short
      have hchars := h.chars
      simp only [List.length_cons, List.length_append, List.length_nil] at hshort
      refine Or.inr (matches_labelTail_iff.2 ⟨inner, last, rfl, by omega, fun d hd => ?_, ?_⟩)
      · exact hchars d (by simp [hd])
      · exact h.last last (by rw [← List.cons_append, List.getLast?_concat])
  · rintro ⟨hc, hs⟩
    have hinner := isInnerChar_of_isWordChar hc
    rcases hs with rfl | hs
    · exact ⟨by simp, by simp, by simpa using hinner, by simpa using hc, by simpa using hc⟩
    · obtain ⟨inner, last, rfl, hlength, hchars, hlast⟩ := matches_labelTail_iff.1 hs
      refine ⟨by simp, by simp; omega, ?_, by simpa using hc, ?_⟩
      · simpa [hinner, or_imp, forall_and, isInnerChar_of_isWordChar hlast] using hchars
      · intro d hd
        rw [← List.cons_append, List.getLast?_concat] at hd
        exact Option.some.inj hd ▸ hlast

/-- A label that may stand last is a letter with a tail. -/
theorem isTop_cons_iff : IsTop (c :: s) ↔ isFoldedLetter c = true ∧ Matches labelTail s := by
  constructor
  · intro h
    have hlong := h.long
    refine ⟨h.letter c rfl, (isLabel_cons_iff.1 h.toIsLabel).2.resolve_left ?_⟩
    rintro rfl
    simp at hlong
  · rintro ⟨hc, hs⟩
    have hlabel : IsLabel (c :: s) :=
      isLabel_cons_iff.2 ⟨isWordChar_of_isFoldedLetter hc, Or.inr hs⟩
    obtain ⟨inner, last, rfl, -⟩ := matches_labelTail_iff.1 hs
    exact ⟨hlabel, by simp, by simpa using hc⟩

theorem matches_dottedLabel_iff :
    Matches dottedLabel s ↔ ∃ label, s = label ++ ['.'] ∧ IsLabel label := by
  rw [dottedLabel, matches_next_iff]
  constructor
  · rintro ⟨u, v, rfl, hu, hv⟩
    obtain ⟨c, rfl, hc⟩ := matches_one_iff.1 hu
    obtain ⟨tail, dot, rfl, htail, hdot⟩ := matches_next_iff.1 hv
    rw [matches_only_iff.1 hdot]
    exact ⟨c :: tail, rfl, isLabel_cons_iff.2 ⟨hc, matches_opt_iff.1 htail⟩⟩
  · rintro ⟨label, rfl, hlabel⟩
    cases label with
    | nil => exact absurd hlabel.nonempty (by simp)
    | cons c tail =>
      obtain ⟨hc, htail⟩ := isLabel_cons_iff.1 hlabel
      exact ⟨[c], tail ++ ['.'], rfl, .one hc,
        .next (matches_opt_iff.2 htail) (matches_only_iff.2 rfl)⟩

/-! ## All labels -/

/-- The expression of host names that no wildcard label leads. -/
def unmarked : Regular := .next (.many dottedLabel) (.next (.one isFoldedLetter) labelTail)

theorem matches_top_iff : Matches (.next (.one isFoldedLetter) labelTail) s ↔ IsTop s := by
  rw [matches_next_iff]
  constructor
  · rintro ⟨u, v, rfl, hu, hv⟩
    obtain ⟨c, rfl, hc⟩ := matches_one_iff.1 hu
    exact isTop_cons_iff.2 ⟨hc, hv⟩
  · intro h
    cases s with
    | nil => exact absurd h.nonempty (by simp)
    | cons c tail =>
      obtain ⟨hc, htail⟩ := isTop_cons_iff.1 h
      exact ⟨[c], tail, rfl, .one hc, htail⟩

/-- A row of labels with their dots. -/
theorem matches_row_iff :
    Matches (.many dottedLabel) s ↔ ∃ front, front ≠ [] ∧ s = front.flatMap (· ++ ['.']) ∧
      ∀ label ∈ front, IsLabel label := by
  have hmap : ∀ parts : List (List Char), (∀ part ∈ parts, Matches dottedLabel part) →
      ∃ front : List (List Char), parts = front.map (· ++ ['.']) ∧
        ∀ label ∈ front, IsLabel label := by
    intro parts hparts
    induction parts with
    | nil => exact ⟨[], rfl, by simp⟩
    | cons part parts ih =>
      obtain ⟨hpart, hmore⟩ := List.forall_mem_cons.1 hparts
      obtain ⟨label, rfl, hlabel⟩ := matches_dottedLabel_iff.1 hpart
      obtain ⟨front, rfl, hfront⟩ := ih hmore
      exact ⟨label :: front, rfl, by simpa using ⟨hlabel, hfront⟩⟩
  rw [matches_many_iff_flatten]
  constructor
  · rintro ⟨parts, hne, rfl, hparts⟩
    obtain ⟨front, rfl, hfront⟩ := hmap parts hparts
    exact ⟨front, by simpa using hne, by simp [List.flatMap], hfront⟩
  · rintro ⟨front, hne, rfl, hfront⟩
    refine ⟨front.map (· ++ ['.']), by simpa using hne, by simp [List.flatMap], ?_⟩
    intro part hpart
    obtain ⟨label, hlabel, rfl⟩ := List.mem_map.1 hpart
    exact matches_dottedLabel_iff.2 ⟨label, rfl, hfront label hlabel⟩

/-- What the expression takes is put together from labels. -/
theorem matches_unmarked_iff :
    Matches unmarked s ↔ ∃ front top, front ≠ [] ∧ s = front.flatMap (· ++ ['.']) ++ top ∧
      (∀ label ∈ front, IsLabel label) ∧ IsTop top := by
  rw [unmarked, matches_next_iff]
  constructor
  · rintro ⟨row, top, rfl, hrow, htop⟩
    obtain ⟨front, hne, rfl, hfront⟩ := matches_row_iff.1 hrow
    exact ⟨front, top, hne, rfl, hfront, matches_top_iff.1 htop⟩
  · rintro ⟨front, top, hne, rfl, hfront, htop⟩
    exact ⟨_, top, rfl, matches_row_iff.2 ⟨front, hne, rfl, hfront⟩, matches_top_iff.2 htop⟩

/-- The labels of what the expression takes are the pieces between the dots. -/
theorem matches_unmarked_iff_labels :
    Matches unmarked s ↔ 2 ≤ (splitChars '.' s).length ∧
      (∀ label ∈ splitChars '.' s, IsLabel label) ∧
        ∀ label, (splitChars '.' s).getLast? = some label → IsTop label := by
  rw [matches_unmarked_iff]
  constructor
  · rintro ⟨front, top, hne, rfl, hfront, htop⟩
    have hlabels : ∀ label ∈ front ++ [top], IsLabel label := by
      simpa [or_imp, forall_and] using ⟨hfront, htop.toIsLabel⟩
    rw [Text.splitChars_flatMap fun label hlabel => (hlabels label hlabel).no_dot]
    have hlength := List.length_pos_of_ne_nil hne
    exact ⟨by simp; omega, hlabels, by simpa using htop⟩
  · rintro ⟨hlength, hlabels, htop⟩
    rcases List.eq_nil_or_concat' (splitChars '.' s) with hnone | ⟨front, top, hpieces⟩
    · simp [hnone] at hlength
    · rw [hpieces] at hlength hlabels htop
      refine ⟨front, top, ?_, (Text.splitChars_eq_iff.1 hpieces).1,
        fun label hlabel => hlabels label (by simp [hlabel]), htop top (by simp)⟩
      rintro rfl
      simp at hlength

/-- No label begins with a star. -/
theorem not_matches_unmarked_star : ¬ Matches unmarked ('*' :: s) := by
  intro h
  obtain ⟨front, top, hne, hs, hfront, -⟩ := matches_unmarked_iff.1 h
  cases front with
  | nil => exact hne rfl
  | cons label front =>
    have hlabel := hfront label List.mem_cons_self
    cases label with
    | nil => exact absurd hlabel.nonempty (by simp)
    | cons c tail =>
      obtain rfl : '*' = c := by simpa using congrArg List.head? hs
      exact absurd (hlabel.first '*' rfl) (by decide)

theorem matches_mark_iff : Matches (.next (only '*') (only '.')) s ↔ s = ['*', '.'] := by
  rw [matches_next_iff]
  constructor
  · rintro ⟨star, dot, rfl, hstar, hdot⟩
    rw [matches_only_iff.1 hstar, matches_only_iff.1 hdot]
    rfl
  · rintro rfl
    exact ⟨['*'], ['.'], rfl, matches_only_iff.2 rfl, matches_only_iff.2 rfl⟩

/-- A wildcard label is one only in front of others. -/
theorem matches_expression_iff :
    Matches expression s ↔ Matches unmarked (withoutWildcard s) := by
  have hexpression : Matches expression s ↔
      Matches unmarked s ∨ ∃ rest, s = '*' :: '.' :: rest ∧ Matches unmarked rest := by
    rw [show expression = .next (.opt (.next (only '*') (only '.'))) unmarked from rfl,
      matches_next_iff]
    simp only [matches_opt_iff, matches_mark_iff]
    constructor
    · rintro ⟨u, rest, rfl, rfl | rfl, hrest⟩
      · exact Or.inl hrest
      · exact Or.inr ⟨rest, rfl, hrest⟩
    · rintro (h | ⟨rest, rfl, hrest⟩)
      · exact ⟨[], s, rfl, Or.inl rfl, h⟩
      · exact ⟨['*', '.'], rest, rfl, Or.inr rfl, hrest⟩
  rw [hexpression]
  unfold withoutWildcard
  split
  · next rest => simp [not_matches_unmarked_star]
  · next cs hnot =>
    constructor
    · rintro (h | ⟨rest, rfl, -⟩)
      · exact h
      · exact absurd rfl (hnot rest)
    · exact Or.inl

/-- **A text is a host name exactly if it is well formed**: it has at most
253 bytes, and without a wildcard label in front it is two labels or more
between dots, the last of them one that may stand last. -/
theorem isValid_iff_wellFormed (host : String) : isValid host = true ↔ WellFormed host := by
  rw [isValid, Bool.and_eq_true, decide_eq_true_iff, accepts_iff, matches_expression_iff,
    matches_unmarked_iff_labels]
  constructor
  · rintro ⟨hbytes, hseveral, hlabels, htop⟩
    exact ⟨hbytes, hseveral, hlabels, htop⟩
  · intro h
    exact ⟨h.bytes, h.several, h.labels, h.top⟩

/-- A wildcard label does not count as one of the two, nor does it stand
further behind; only the last label has to begin with a letter. -/
example : ["1.io", "*.io", "*.1.io", "a.*.io", "io.1a", "\u017f.i\u212a"].map isValid =
    [true, false, true, false, false, true] := by
  decide +kernel

end RouteConvergence.Hostname
