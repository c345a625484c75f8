/-
RouteConvergence.Proofs.Identifiers — the identities a distribution store
gives out.

An identity is made from a number. Two facts about it carry everything
that is said of distributions over a history:

* `DistributionStore.identityOf_inj` — different numbers give different
  identifiers, also beyond the twelve digits they are padded to.
* `Identity.ofArn?_identityOf` — the resource name of an identity gives
  its identifier away again, so that a lost record can be restored. The
  address is not part of a resource name and stays unknown.
-/
import RouteConvergence.World

namespace RouteConvergence

/-! ## Padded numbers -/

namespace Text

/-- The digits of a padded number still have its value. -/
theorem ofDigitChars_padded (width n : Nat) :
    Nat.ofDigitChars 10
      (List.replicate (width - (Nat.toDigits 10 n).length) '0' ++ Nat.toDigits 10 n) 0 = n := by
  rw [Nat.ofDigitChars_append, Nat.ofDigitChars_replicate_zero, Nat.mul_zero,
    Nat.ofDigitChars_ten_toDigits]

theorem natPadded_inj {width m n : Nat} (h : natPadded width m = natPadded width n) : m = n := by
  have hdigits := congrArg (fun s => Nat.ofDigitChars 10 s.toList 0) h
  simpa only [natPadded, String.toList_ofList, ofDigitChars_padded] using hdigits

/-- A padded number is written in digits only. -/
theorem isDigit_of_mem_natPadded {width n : Nat} {c : Char} (h : c ∈ (natPadded width n).toList) :
    c.isDigit = true := by
  rw [natPadded, String.toList_ofList] at h
  rcases List.mem_append.1 h with h | h
  · rw [List.eq_of_mem_replicate h]
    rfl
  · exact Nat.isDigit_of_mem_toDigits (by omega) (by omega) h

/-! ## Cutting at the last mark -/

theorem splitLast_eq_none {c : Char} {mark : List Char} :
    ∀ {cs : List Char}, c ∉ cs → splitLast (c :: mark) cs = none
  | [], _ => rfl
  | d :: cs, h => by
    rw [List.mem_cons, not_or] at h
    have hstarts : (c :: mark).isPrefixOf (d :: cs) = false := by
      simp [List.isPrefixOf, h.1]
    rw [splitLast, splitLast_eq_none h.2]
    simp [hstarts]

/-- A text is cut at its last mark if the first character of the mark does
not come again. -/
theorem splitLast_append {c : Char} {mark rest : List Char} (hmark : c ∉ mark) (hrest : c ∉ rest) :
    ∀ before : List Char,
      splitLast (c :: mark) (before ++ (c :: mark ++ rest)) = some (before, rest)
  | [] => by
    have hnone : splitLast (c :: mark) (mark ++ rest) = none :=
      splitLast_eq_none (by simp [hmark, hrest])
    have hstarts : (c :: mark).isPrefixOf (c :: (mark ++ rest)) = true := by
      rw [List.isPrefixOf_iff_prefix]
      exact ⟨rest, rfl⟩
    show splitLast (c :: mark) (c :: (mark ++ rest)) = _
    rw [splitLast, hnone]
    simp [hstarts]
  | d :: before => by
    rw [List.cons_append, splitLast, splitLast_append hmark hrest before]

end Text

/-! ## Identities -/

namespace DistributionStore

/-- Different numbers give different identifiers. -/
theorem identityOf_inj {m n : Nat} (h : (identityOf m).id = (identityOf n).id) : m = n := by
  have hlist := congrArg String.toList h
  simp only [identityOf, String.toList_append] at hlist
  exact Text.natPadded_inj (String.toList_inj.1 (List.append_cancel_left hlist))

/-- Every identity given out says where its distribution is served. -/
theorem identityOf_address (n : Nat) : ∃ address, (identityOf n).address = some address :=
  ⟨_, rfl⟩

end DistributionStore

/-- The resource name of an identity gives its identifier away. -/
theorem Identity.ofArn?_identityOf (n : Nat) :
    Identity.ofArn? (DistributionStore.identityOf n).arn =
      some ⟨(DistributionStore.identityOf n).id, (DistributionStore.identityOf n).arn, none⟩ := by
  let id := "E" ++ Text.natPadded 12 n
  have hcolon : ':' ∉ id.toList := by
    intro hmem
    rw [String.toList_append] at hmem
    rcases List.mem_append.1 hmem with hmem | hmem
    · simp at hmem
    · exact absurd (Text.isDigit_of_mem_natPadded hmem) (by decide)
  have hcut : Text.splitLast Identity.arnMark.toList (DistributionStore.identityOf n).arn.toList =
      some ("arn:aws:cloudfront::000000000000".toList, id.toList) := by
    have hname : (DistributionStore.identityOf n).arn.toList =
        "arn:aws:cloudfront::000000000000".toList ++ (Identity.arnMark.toList ++ id.toList) := by
      show ("arn:aws:cloudfront::000000000000:distribution/" ++ id).toList = _
      rw [String.toList_append, ← List.append_assoc]
      rfl
    rw [hname]
    exact Text.splitLast_append (by decide) hcolon _
  have hid : id.toList.isEmpty = false := by
    simp [id, String.toList_append]
  rw [Identity.ofArn?, hcut]
  show (if id.toList.isEmpty then none else _) = _
  rw [hid, String.ofList_toList]
  rfl

end RouteConvergence
