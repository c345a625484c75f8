/-
RouteConvergence.Proofs.LetterCase — small letters, and what does not
depend on them.

Making the letters of ASCII small moves the code points of `A` to `Z` and
no others (`Text.toNat_toLower`). Nothing is small twice, no blank and no
mark between labels comes or goes, and so trimming a text and making it
small can be done in either order (`Text.trim_lowerAscii`).
-/
import RouteConvergence.Proofs.CutTexts
import RouteConvergence.Text.Letter

namespace RouteConvergence.Text

/-! ## Characters -/

theorem toNat_toLower (c : Char) :
    c.toLower.toNat = if 65 ≤ c.toNat ∧ c.toNat ≤ 90 then c.toNat + 32 else c.toNat := by
  unfold Char.toLower
  split
  · next h =>
    have hcapital : 65 ≤ c.toNat ∧ c.toNat ≤ 90 := by simpa [UInt32.le_iff_toNat_le] using h
    have hbound : c.val.toNat ≤ 90 := hcapital.2
    rw [if_pos hcapital]
    show (c.val + _).toNat = _
    simp [UInt32.toNat_add]
    omega
  · next h =>
    have hother : ¬ (65 ≤ c.toNat ∧ c.toNat ≤ 90) := by
      simpa [UInt32.le_iff_toNat_le] using h
    rw [if_neg hother]

theorem toLower_eq_self {c : Char} (h : ¬ (65 ≤ c.toNat ∧ c.toNat ≤ 90)) : c.toLower = c := by
  rw [← Char.toNat_inj, toNat_toLower, if_neg h]

@[simp] theorem toLower_toLower (c : Char) : c.toLower.toLower = c.toLower := by
  refine toLower_eq_self ?_
  rw [toNat_toLower]
  split <;> omega

/-- What is no letter is no capital letter's small form either. -/
theorem toLower_eq_iff {c d : Char} (hd : d.toNat < 65) : c.toLower = d ↔ c = d := by
  rw [← Char.toNat_inj, ← Char.toNat_inj, toNat_toLower]
  split <;> omega

@[simp] theorem isBlank_toLower (c : Char) : isBlank c.toLower = isBlank c := by
  rw [Bool.eq_iff_iff]
  simp only [isBlank, blankRanges, toNat_toLower, List.any_cons, List.any_nil, Bool.or_false,
    Bool.or_eq_true, Bool.and_eq_true, decide_eq_true_eq]
  split <;> omega

/-! ## Texts -/

theorem toList_lowerAscii (s : String) : (lowerAscii s).toList = s.toList.map Char.toLower := by
  rw [lowerAscii, String.toList_ofList]

@[simp] theorem lowerAscii_lowerAscii (s : String) : lowerAscii (lowerAscii s) = lowerAscii s := by
  rw [← String.toList_inj]
  simp [toList_lowerAscii, Function.comp_def]

theorem lowerAscii_eq_empty {s : String} : lowerAscii s = "" ↔ s = "" := by
  rw [← String.toList_inj, ← String.toList_inj, toList_lowerAscii]
  exact List.map_eq_nil_iff

theorem sameIgnoringCase_iff {s t : String} :
    sameIgnoringCase s t = true ↔ lowerAscii s = lowerAscii t := by
  simp [sameIgnoringCase]

theorem trimChars_map_toLower (cs : List Char) :
    trimChars (cs.map Char.toLower) = (trimChars cs).map Char.toLower := by
  have hblank : isBlank ∘ Char.toLower = isBlank := funext isBlank_toLower
  simp only [trimChars, trimRight, trimLeft, List.dropWhile_map, hblank, ← List.map_reverse]

/-- **Case and blanks do not meet**: it makes no difference which is dealt with
first. -/
theorem trim_lowerAscii (s : String) : trim (lowerAscii s) = lowerAscii (trim s) := by
  rw [← String.toList_inj]
  simp only [trim, toList_lowerAscii, String.toList_ofList, trimChars_map_toLower]

end RouteConvergence.Text
