/-
RouteConvergence.Proofs.DecimalDigits — numbers written in digits and read
back.

* `Text.digitsValue_natText`, `Text.digitsValue_natPadded` — the digits of
  a number have its value, with zeros in front of them or without.
* `Text.readNat?_natText` — so the number is read back.
* `Text.natText_digitsValue_iff`, `Text.intText_eq_iff` — digits are
  written again as they were read if they are written plainly: without a
  plus sign and without zeros in front.
* `Text.digitsValue_lt` — how large a number of so many digits can be.
-/
import Mathlib.Algebra.Group.Nat.Defs
import Mathlib.Data.List.Induction
import RouteConvergence.Proofs.Identifiers

namespace RouteConvergence.Text

theorem digitsValue_eq (cs : List Char) : digitsValue cs = Nat.ofDigitChars 10 cs 0 := rfl

/-! ## Without zeros in front -/

theorem toList_natText (n : Nat) : (natText n).toList = Nat.toDigits 10 n :=
  String.toList_ofList

/-- A number is written in digits only. -/
theorem isDigit_of_mem_natText {n : Nat} {c : Char} (h : c ∈ (natText n).toList) :
    isDigit c = true := by
  rw [toList_natText] at h
  exact Nat.isDigit_of_mem_toDigits (by omega) (by omega) h

theorem natText_ne_nil (n : Nat) : (natText n).toList ≠ [] := by
  rw [toList_natText]
  exact Nat.toDigits_ne_nil

theorem digitsValue_natText (n : Nat) : digitsValue (natText n).toList = n := by
  rw [toList_natText, digitsValue_eq, Nat.ofDigitChars_ten_toDigits]

/-- The digits of a number are read as that number. -/
@[simp] theorem readNat?_natText (n : Nat) : readNat? (natText n).toList = some n := by
  have hall : (natText n).toList.all isDigit = true :=
    List.all_eq_true.2 fun _ h => isDigit_of_mem_natText h
  have hempty : (natText n).toList.isEmpty = false := by simpa using natText_ne_nil n
  rw [readNat?, hall, hempty, digitsValue_natText]
  rfl

/-- Only the number zero is written with a zero in front. -/
theorem head?_natText {n : Nat} (hn : n ≠ 0) : (natText n).toList.head? ≠ some '0' := by
  have hdigit : ∀ d < 10, d ≠ 0 → d.digitChar ≠ '0' := by decide
  rw [toList_natText]
  induction n using Nat.strongRecOn with
  | ind n ih =>
    rw [Nat.toDigits_eq_if (by omega)]
    split
    · next hlt => simpa using hdigit n hlt hn
    · have hhead := ih (n / 10) (by omega) (by omega)
      obtain ⟨c, cs, hcs⟩ :=
        List.exists_cons_of_ne_nil (Nat.toDigits_ne_nil (b := 10) (n := n / 10))
      rw [hcs] at hhead ⊢
      exact hhead

/-! ## Read and written again -/

theorem digitsValue_concat (cs : List Char) (c : Char) :
    digitsValue (cs ++ [c]) = 10 * digitsValue cs + (c.toNat - 48) := by
  rw [digitsValue, List.foldl_append]
  rfl

theorem toNat_of_isDigit {c : Char} (h : isDigit c = true) : 48 ≤ c.toNat ∧ c.toNat ≤ 57 := by
  simp only [isDigit, Bool.and_eq_true, decide_eq_true_eq] at h
  exact h

theorem digitChar_of_isDigit {c : Char} (h : isDigit c = true) :
    (c.toNat - 48).digitChar = c := by
  have hc := toNat_of_isDigit h
  rw [← Char.toNat_inj, Nat.toNat_digitChar_of_lt_ten (by omega)]
  omega

/-- Digits without a zero in front are those of their value. -/
theorem toDigits_digitsValue {cs : List Char} (hdigits : ∀ c ∈ cs, isDigit c = true)
    (hne : cs ≠ []) (hhead : cs.head? ≠ some '0') : Nat.toDigits 10 (digitsValue cs) = cs := by
  -- by its last digit, as the digits are written
  induction cs using List.reverseRecOn with
  | nil => exact absurd rfl hne
  | append_singleton cs c ih =>
    have hlast := hdigits c (by simp)
    have hc := toNat_of_isDigit hlast
    rw [digitsValue_concat]
    cases cs with
    | nil =>
      show Nat.toDigits 10 (10 * 0 + (c.toNat - 48)) = [c]
      rw [Nat.toDigits_of_lt_base (by omega), Nat.mul_zero, Nat.zero_add,
        digitChar_of_isDigit hlast]
    | cons d cs =>
      have hinit := ih (fun e he => hdigits e (List.mem_append_left _ he)) (by simp) hhead
      have hpos : digitsValue (d :: cs) ≠ 0 := by
        intro hzero
        rw [hzero] at hinit
        exact hhead (by rw [← hinit]; rfl)
      rw [Nat.toDigits_eq_if (by omega), if_neg (by omega),
        show (10 * digitsValue (d :: cs) + (c.toNat - 48)) / 10 = digitsValue (d :: cs) by omega,
        show (10 * digitsValue (d :: cs) + (c.toNat - 48)) % 10 = c.toNat - 48 by omega, hinit,
        digitChar_of_isDigit hlast]

/-- Digits are written again as they were unless there is a zero in front. -/
theorem natText_digitsValue_iff {cs : List Char} (hdigits : ∀ c ∈ cs, isDigit c = true)
    (hne : cs ≠ []) :
    (natText (digitsValue cs)).toList = cs ↔ (cs.head? = some '0' → cs = ['0']) := by
  constructor
  · intro hsame hhead
    by_cases hzero : digitsValue cs = 0
    · rw [← hsame, hzero]
      rfl
    · have hwritten := head?_natText hzero
      rw [hsame] at hwritten
      exact absurd hhead hwritten
  · intro hplain
    by_cases hhead : cs.head? = some '0'
    · rw [hplain hhead]
      rfl
    · rw [toList_natText, toDigits_digitsValue hdigits hne hhead]

/-- A whole number is written plainly: no plus sign, no minus sign before zero,
and no zeros in front. -/
def Plain (cs : List Char) : Prop :=
  cs.head? ≠ some '+' ∧ (cs.head? = some '-' → cs.tail.head? ≠ some '0') ∧
    (cs.head? = some '0' → cs = ['0'])

instance (cs : List Char) : Decidable (Plain cs) := inferInstanceAs (Decidable (_ ∧ _ ∧ _))

theorem plain_minus {cs : List Char} : Plain ('-' :: cs) ↔ cs.head? ≠ some '0' := by
  simp [Plain]

theorem not_plain_plus (cs : List Char) : ¬ Plain ('+' :: cs) := by
  simp [Plain]

theorem plain_of_isDigit {cs : List Char} (hdigits : ∀ c ∈ cs, isDigit c = true) :
    Plain cs ↔ (cs.head? = some '0' → cs = ['0']) := by
  have hno (c : Char) (hc : isDigit c = false) : cs.head? ≠ some c := fun hhead => by
    simpa [hc] using hdigits c (List.mem_of_mem_head? hhead)
  simp [Plain, hno '+' rfl, hno '-' rfl]

theorem readNat?_eq_some {cs : List Char} {n : Nat} (h : readNat? cs = some n) :
    (∀ c ∈ cs, isDigit c = true) ∧ cs ≠ [] ∧ digitsValue cs = n := by
  simp only [readNat?, Option.ite_none_right_eq_some, Bool.and_eq_true, Bool.not_eq_true',
    List.isEmpty_eq_false_iff, List.all_eq_true, Option.some.injEq] at h
  exact ⟨h.1.2, h.1.1, h.2⟩

/-- A whole number is digits, with a sign in front or without. -/
theorem readInt?_eq_some {cs : List Char} {n : Int} (h : readInt? cs = some n) :
    (∃ ds m, cs = '-' :: ds ∧ readNat? ds = some m ∧ n = -(m : Int)) ∨
      (∃ ds m, cs = '+' :: ds ∧ readNat? ds = some m ∧ n = m) ∨
      ∃ m, readNat? cs = some m ∧ n = m := by
  fun_cases readInt? cs with
  | case1 ds =>
    cases hread : readNat? ds with
    | none => simp [readInt?, hread] at h
    | some m => exact .inl ⟨ds, m, rfl, hread, by simpa [readInt?, hread] using h.symm⟩
  | case2 ds =>
    obtain ⟨m, hread, hn⟩ := Option.map_eq_some_iff.1 h
    exact .inr (.inl ⟨ds, m, rfl, hread, hn.symm⟩)
  | case3 cs hminus hplus =>
    obtain ⟨m, hread, hn⟩ : ∃ m, readNat? cs = some m ∧ (m : Int) = n := by
      simpa [readInt?, Option.map_eq_some_iff] using h
    exact .inr (.inr ⟨m, hread, hn.symm⟩)

/-- Digits begin with no sign. -/
theorem natText_ne_cons {n : Nat} {c : Char} (hc : isDigit c = false) (cs : List Char) :
    (natText n).toList ≠ c :: cs := by
  intro h
  have hdigit : isDigit c = true := isDigit_of_mem_natText (n := n) (by simp [h])
  simp [hc] at hdigit

theorem toList_intText_neg {n : Nat} (hn : n ≠ 0) :
    (intText (-(n : Int))).toList = '-' :: (natText n).toList := by
  obtain ⟨m, rfl⟩ := Nat.exists_eq_succ_of_ne_zero hn
  show ("-" ++ natText (m + 1)).toList = _
  rw [String.toList_append]
  rfl

/-- **Read and written again**: a whole number keeps its text exactly if it is
written plainly. -/
theorem intText_eq_iff {s : String} {n : Int} (h : readInt? s.toList = some n) :
    intText n = s ↔ Plain s.toList := by
  rw [← String.toList_inj]
  generalize s.toList = cs at h
  obtain ⟨ds, m, rfl, hread, rfl⟩ | ⟨ds, m, rfl, hread, rfl⟩ | ⟨m, hread, rfl⟩ :=
    readInt?_eq_some h
  · obtain ⟨hdigits, hne, rfl⟩ := readNat?_eq_some hread
    rw [plain_minus]
    by_cases hzero : digitsValue ds = 0
    · -- the sign of zero is lost, and zero is written with zeros only
      rw [hzero]
      refine iff_of_false (natText_ne_cons (n := 0) rfl ds) fun hhead => hhead ?_
      rw [← toDigits_digitsValue hdigits hne hhead, hzero]
      rfl
    · rw [toList_intText_neg hzero, List.cons_inj_right, natText_digitsValue_iff hdigits hne]
      refine ⟨fun hplain hhead => hzero ?_, fun hhead h => absurd h hhead⟩
      rw [hplain hhead]
      rfl
  · exact iff_of_false (natText_ne_cons rfl ds) (not_plain_plus ds)
  · obtain ⟨hdigits, hne, rfl⟩ := readNat?_eq_some hread
    exact (natText_digitsValue_iff hdigits hne).trans (plain_of_isDigit hdigits).symm

/-! ## With zeros in front -/

theorem digitsValue_natPadded (width n : Nat) : digitsValue (natPadded width n).toList = n := by
  rw [natPadded, String.toList_ofList, digitsValue_eq, ofDigitChars_padded]

theorem natPadded_ne_nil (width n : Nat) : (natPadded width n).toList ≠ [] := by
  simp [natPadded, Nat.toDigits_ne_nil]

/-- A number that fits into so many digits is padded to just as many. -/
theorem length_natPadded {width n : Nat} (hwidth : 0 < width) (hn : n < 10 ^ width) :
    (natPadded width n).toList.length = width := by
  have hle := (Nat.length_toDigits_le_iff (b := 10) (by omega) hwidth).2 hn
  simp only [natPadded, String.toList_ofList, List.length_append, List.length_replicate]
  omega

/-! ## Bounds -/

/-- A number of so many digits is below that power of ten. -/
theorem digitsValue_lt : ∀ {cs : List Char}, (∀ c ∈ cs, isDigit c = true) →
    digitsValue cs < 10 ^ cs.length
  | [], _ => by decide
  | c :: cs, h => by
    have hcs := digitsValue_lt fun d hd => h d (List.mem_cons_of_mem _ hd)
    have hc := (toNat_of_isDigit (h c List.mem_cons_self)).2
    have hzero : '0'.toNat = 48 := rfl
    rw [digitsValue_eq, Nat.ofDigitChars_cons, Nat.ofDigitChars_eq_ofDigitChars_zero,
      ← digitsValue_eq, List.length_cons, Nat.pow_succ]
    have hdigit : 10 ^ cs.length * (10 * 0 + (c.toNat - '0'.toNat)) ≤ 10 ^ cs.length * 9 :=
      Nat.mul_le_mul_left _ (by omega)
    omega

end RouteConvergence.Text
