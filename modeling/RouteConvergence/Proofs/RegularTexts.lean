/-
RouteConvergence.Proofs.RegularTexts — an expression accepts the texts it
stands for.

What an expression stands for is a relation, and what it accepts is found
by reading one character after the other. The two agree
(`Regular.accepts_iff`) because of one step: what is left of an expression
after a character stands for the texts that the expression takes with the
character in front (`Regular.matches_after_iff`). The step is by induction
on the expression. Repetitions are the hard case, since a part of one may
be empty: the part the character belongs to is then found further behind,
and what stands before it can be left out
(`matches_upTo_cons`, `matches_many_cons`).
-/
import RouteConvergence.Text.Regular

namespace RouteConvergence.Text.Regular

variable {a b : Regular} {p : Char → Bool} {c : Char} {n : Nat} {s : List Char}

/-! ## One rule for each constructor, read backwards -/

@[simp] theorem not_matches_never : ¬ Matches never s := by
  intro h
  cases h

@[simp] theorem matches_blank_iff : Matches blank s ↔ s = [] := by
  constructor
  · intro h
    cases h
    rfl
  · rintro rfl
    exact .blank

theorem matches_one_iff : Matches (one p) s ↔ ∃ c, s = [c] ∧ p c = true := by
  constructor
  · intro h
    cases h with
    | one hc => exact ⟨_, rfl, hc⟩
  · rintro ⟨c, rfl, hc⟩
    exact .one hc

@[simp] theorem matches_one_cons : Matches (one p) (c :: s) ↔ p c = true ∧ s = [] := by
  constructor
  · intro h
    cases h with
    | one hc => exact ⟨hc, rfl⟩
  · rintro ⟨hc, rfl⟩
    exact .one hc

@[simp] theorem matches_either_iff : Matches (either a b) s ↔ Matches a s ∨ Matches b s := by
  constructor
  · intro h
    cases h with
    | left h => exact Or.inl h
    | right h => exact Or.inr h
  · rintro (h | h)
    · exact .left h
    · exact .right h

theorem matches_next_iff :
    Matches (next a b) s ↔ ∃ u v, s = u ++ v ∧ Matches a u ∧ Matches b v := by
  constructor
  · intro h
    cases h with
    | next ha hb => exact ⟨_, _, rfl, ha, hb⟩
  · rintro ⟨u, v, rfl, ha, hb⟩
    exact .next ha hb

@[simp] theorem matches_next_nil : Matches (next a b) [] ↔ Matches a [] ∧ Matches b [] := by
  rw [matches_next_iff]
  constructor
  · rintro ⟨u, v, huv, ha, hb⟩
    obtain ⟨rfl, rfl⟩ := List.nil_eq_append_iff.1 huv
    exact ⟨ha, hb⟩
  · rintro ⟨ha, hb⟩
    exact ⟨[], [], rfl, ha, hb⟩

theorem matches_opt_iff : Matches (opt a) s ↔ s = [] ∨ Matches a s := by
  simp [opt]

@[simp] theorem matches_upTo_zero_iff : Matches (upTo 0 a) s ↔ s = [] := by
  constructor
  · intro h
    cases h
    rfl
  · rintro rfl
    exact .upToNone

theorem matches_upTo_succ_iff :
    Matches (upTo (n + 1) a) s ↔
      s = [] ∨ ∃ u v, s = u ++ v ∧ Matches a u ∧ Matches (upTo n a) v := by
  constructor
  · intro h
    cases h with
    | upToNone => exact Or.inl rfl
    | upToSome ha hrest => exact Or.inr ⟨_, _, rfl, ha, hrest⟩
  · rintro (rfl | ⟨u, v, rfl, ha, hrest⟩)
    · exact .upToNone
    · exact .upToSome ha hrest

/-- One or more in a row are one, and then more or nothing. -/
theorem matches_many_iff : Matches (many a) s ↔ Matches (next a (opt (many a))) s := by
  rw [matches_next_iff]
  constructor
  · intro h
    cases h with
    | manyOne ha => exact ⟨s, [], by simp, ha, matches_opt_iff.2 (Or.inl rfl)⟩
    | manyMore ha hrest => exact ⟨_, _, rfl, ha, matches_opt_iff.2 (Or.inr hrest)⟩
  · rintro ⟨u, v, rfl, ha, hrest⟩
    rcases matches_opt_iff.1 hrest with rfl | hrest
    · rw [List.append_nil]
      exact .manyOne ha
    · exact .manyMore ha hrest

/-! ## Repetitions that begin with a character -/

/-- A part that is not used up does no harm. -/
theorem Matches.upTo_succ (h : Matches (upTo n a) s) : Matches (upTo (n + 1) a) s := by
  induction n generalizing s with
  | zero =>
    rw [matches_upTo_zero_iff.1 h]
    exact .upToNone
  | succ n ih =>
    rcases matches_upTo_succ_iff.1 h with rfl | ⟨u, v, rfl, ha, hrest⟩
    · exact .upToNone
    · exact .upToSome ha (ih hrest)

theorem matches_upTo_cons :
    Matches (upTo (n + 1) a) (c :: s) ↔
      ∃ u v, s = u ++ v ∧ Matches a (c :: u) ∧ Matches (upTo n a) v := by
  constructor
  · intro h
    induction n with
    | zero =>
      obtain ⟨u, v, huv, ha, hrest⟩ := (matches_upTo_succ_iff.1 h).resolve_left (by simp)
      obtain rfl := matches_upTo_zero_iff.1 hrest
      rw [List.append_nil] at huv
      exact ⟨s, [], by simp, huv ▸ ha, .upToNone⟩
    | succ n ih =>
      obtain ⟨u, v, huv, ha, hrest⟩ := (matches_upTo_succ_iff.1 h).resolve_left (by simp)
      cases u with
      | nil =>
        -- The first part is empty, and the character belongs to a later one.
        rw [List.nil_append] at huv
        obtain ⟨u', v', rfl, ha', hrest'⟩ := ih (huv ▸ hrest)
        exact ⟨u', v', rfl, ha', hrest'.upTo_succ⟩
      | cons d u =>
        obtain ⟨rfl, rfl⟩ := List.cons.inj huv
        exact ⟨u, v, rfl, ha, hrest⟩
  · rintro ⟨u, v, rfl, ha, hrest⟩
    exact .upToSome ha hrest

theorem matches_many_cons :
    Matches (many a) (c :: s) ↔
      ∃ u v, s = u ++ v ∧ Matches a (c :: u) ∧ Matches (opt (many a)) v := by
  constructor
  · intro h
    generalize hr : many a = r at h
    generalize ht : c :: s = t at h
    induction h with
    | manyOne ha =>
      obtain rfl := many.inj hr
      exact ⟨s, [], by simp, ht ▸ ha, matches_opt_iff.2 (Or.inl rfl)⟩
    | @manyMore _ u v ha hrest _ ih =>
      obtain rfl := many.inj hr
      cases u with
      | nil => exact ih rfl ht
      | cons d u =>
        obtain ⟨rfl, rfl⟩ := List.cons.inj ht
        exact ⟨u, v, rfl, ha, matches_opt_iff.2 (Or.inr hrest)⟩
    | _ => cases hr
  · rintro ⟨u, v, rfl, ha, hrest⟩
    rw [matches_many_iff, matches_next_iff]
    exact ⟨c :: u, v, rfl, ha, hrest⟩

/-! ## Reading -/

/-- An expression allows the empty text exactly if it stands for it. -/
theorem allowsEmpty_iff : a.allowsEmpty = true ↔ Matches a [] := by
  induction a with
  | never => simp [allowsEmpty]
  | blank => simp [allowsEmpty]
  | one p => simp [allowsEmpty, matches_one_iff]
  | either a b iha ihb => simp [allowsEmpty, iha, ihb]
  | next a b iha ihb => simp [allowsEmpty, iha, ihb]
  | upTo n a _ => simp [allowsEmpty, Matches.upToNone]
  | many a ih =>
    rw [allowsEmpty, ih, matches_many_iff]
    simp [matches_opt_iff]

/-- A sum is shortened without loss. -/
theorem matches_sum_iff : Matches (sum a b) s ↔ Matches a s ∨ Matches b s := by
  unfold sum
  split <;> simp

/-- A product is shortened without loss. -/
theorem matches_product_iff :
    Matches (product a b) s ↔ ∃ u v, s = u ++ v ∧ Matches a u ∧ Matches b v := by
  unfold product
  split
  · simp
  · constructor
    · intro h
      exact ⟨[], s, rfl, .blank, h⟩
    · rintro ⟨u, v, rfl, hu, hv⟩
      rw [matches_blank_iff.1 hu]
      exact hv
  · exact matches_next_iff

/-- **What is left after a character** stands for the texts that the
expression takes with the character in front. -/
theorem matches_after_iff : Matches (after c a) s ↔ Matches a (c :: s) := by
  induction a generalizing s with
  | never => simp [after]
  | blank => simp [after]
  | one p => by_cases hp : p c = true <;> simp [after, hp]
  | either a b iha ihb => simp [after, matches_sum_iff, iha, ihb]
  | next a b iha ihb =>
    -- The character belongs to the first factor, or to the second if the
    -- first is empty.
    have hsplit : Matches (next a b) (c :: s) ↔
        (∃ u v, s = u ++ v ∧ Matches a (c :: u) ∧ Matches b v) ∨
          (Matches a [] ∧ Matches b (c :: s)) := by
      rw [matches_next_iff]
      constructor
      · rintro ⟨u, v, huv, ha, hb⟩
        cases u with
        | nil => exact Or.inr ⟨ha, by simpa [huv] using hb⟩
        | cons d u =>
          obtain ⟨rfl, rfl⟩ := List.cons.inj huv
          exact Or.inl ⟨u, v, rfl, ha, hb⟩
      · rintro (⟨u, v, rfl, ha, hb⟩ | ⟨ha, hb⟩)
        · exact ⟨c :: u, v, rfl, ha, hb⟩
        · exact ⟨[], c :: s, rfl, ha, hb⟩
    rw [hsplit, ← allowsEmpty_iff]
    cases hempty : a.allowsEmpty <;>
      simp [after, hempty, matches_sum_iff, matches_product_iff, iha, ihb]
  | upTo n a ih =>
    cases n with
    | zero => simp [after]
    | succ n => simp [after, matches_product_iff, matches_upTo_cons, ih]
  | many a ih => simp [after, matches_product_iff, matches_many_cons, ih]

theorem accepts_cons : a.accepts (c :: s) = (after c a).accepts s := rfl

/-- **An expression accepts exactly the texts it stands for.** -/
theorem accepts_iff : a.accepts s = true ↔ Matches a s := by
  induction s generalizing a with
  | nil => exact allowsEmpty_iff
  | cons c s ih => rw [accepts_cons, ih, matches_after_iff]

/-! ## Rows -/

/-- One or more in a row are the parts of a list. -/
theorem matches_many_iff_flatten :
    Matches (many a) s ↔
      ∃ parts : List (List Char), parts ≠ [] ∧ s = parts.flatten ∧
        ∀ part ∈ parts, Matches a part := by
  constructor
  · intro h
    generalize hr : many a = r at h
    induction h with
    | @manyOne _ u ha =>
      obtain rfl := many.inj hr
      exact ⟨[u], by simp, by simp, by simpa using ha⟩
    | @manyMore _ u v ha _ _ ih =>
      obtain rfl := many.inj hr
      obtain ⟨parts, -, rfl, hparts⟩ := ih rfl
      exact ⟨u :: parts, by simp, by simp, by simpa using ⟨ha, hparts⟩⟩
    | _ => cases hr
  · rintro ⟨parts, hne, rfl, hparts⟩
    induction parts with
    | nil => exact absurd rfl hne
    | cons part parts ih =>
      obtain ⟨hpart, hparts⟩ := List.forall_mem_cons.1 hparts
      rw [matches_many_iff, matches_next_iff]
      refine ⟨part, parts.flatten, by simp, hpart, matches_opt_iff.2 ?_⟩
      cases parts with
      | nil => exact Or.inl rfl
      | cons next parts => exact Or.inr (ih (by simp) hparts)

/-- Up to so many characters of a class. -/
theorem matches_upTo_one_iff :
    Matches (upTo n (one p)) s ↔ s.length ≤ n ∧ ∀ c ∈ s, p c = true := by
  induction n generalizing s with
  | zero =>
    rw [matches_upTo_zero_iff, Nat.le_zero, List.length_eq_zero_iff]
    constructor
    · rintro rfl
      simp
    · exact And.left
  | succ n ih =>
    cases s with
    | nil => simp [Matches.upToNone]
    | cons c s =>
      rw [matches_upTo_cons]
      constructor
      · rintro ⟨u, v, rfl, hc, hrest⟩
        obtain ⟨hp, rfl⟩ := matches_one_cons.1 hc
        obtain ⟨hlength, hclass⟩ := ih.1 hrest
        exact ⟨by simpa using hlength, by simpa [hp] using hclass⟩
      · rintro ⟨hlength, hclass⟩
        obtain ⟨hp, hclass⟩ := List.forall_mem_cons.1 hclass
        exact ⟨[], s, rfl, .one hp, ih.2 ⟨by simpa using hlength, hclass⟩⟩

/-! ## Characters that are not told apart -/

/-- Whether an expression takes the same of a character as of what a function
makes of it. -/
def Ignores (f : Char → Char) : Regular → Prop
  | never => True
  | blank => True
  | one p => ∀ c, p (f c) = p c
  | either a b => Ignores f a ∧ Ignores f b
  | next a b => Ignores f a ∧ Ignores f b
  | upTo _ a => Ignores f a
  | many a => Ignores f a

variable {f : Char → Char}

theorem Ignores.sum (ha : Ignores f a) (hb : Ignores f b) : Ignores f (sum a b) := by
  unfold Regular.sum
  split
  · exact hb
  · exact ha
  · exact ⟨ha, hb⟩

theorem Ignores.product (ha : Ignores f a) (hb : Ignores f b) : Ignores f (product a b) := by
  unfold Regular.product
  split
  · trivial
  · exact hb
  · exact ⟨ha, hb⟩

/-- What is left after a character ignores what the expression ignored. -/
theorem Ignores.after (h : Ignores f a) : Ignores f (after c a) := by
  induction a with
  | never => trivial
  | blank => trivial
  | one p =>
    rw [Regular.after]
    split <;> trivial
  | either a b iha ihb => exact (iha h.1).sum (ihb h.2)
  | next a b iha ihb =>
    rw [Regular.after]
    split
    · exact ((iha h.1).product h.2).sum (ihb h.2)
    · exact (iha h.1).product h.2
  | upTo n a ih =>
    cases n with
    | zero => trivial
    | succ n => exact (ih h).product h
  | many a ih => exact (ih h).product ⟨trivial, h⟩

theorem Ignores.after_eq (h : Ignores f a) : Regular.after (f c) a = Regular.after c a := by
  induction a with
  | never => rfl
  | blank => rfl
  | one p => rw [Regular.after, Regular.after, show p (f c) = p c from h c]
  | either a b iha ihb => rw [Regular.after, Regular.after, iha h.1, ihb h.2]
  | next a b iha ihb => rw [Regular.after, Regular.after, iha h.1, ihb h.2]
  | upTo n a ih =>
    cases n with
    | zero => rfl
    | succ n => rw [Regular.after, Regular.after, ih h]
  | many a ih => rw [Regular.after, Regular.after, ih h]

/-- An expression accepts a text whatever it ignores is changed into. -/
theorem Ignores.accepts_map (h : Ignores f a) : a.accepts (s.map f) = a.accepts s := by
  induction s generalizing a with
  | nil => rfl
  | cons c s ih => rw [List.map_cons, accepts_cons, accepts_cons, h.after_eq, ih h.after]

end RouteConvergence.Text.Regular
