/-
RouteConvergence.Proofs.CutTexts — the pieces of a text, and the blanks
around it.

A text cut once is put together again in one way, with no separator in the
first part (`Text.splitFirst_eq_some_iff`). A text cut at every separator
is its pieces again once they are put together with the separator behind
each but the last, and there is no other way to have it from pieces
without separators (`Text.splitChars_eq_iff`). So whatever is known of a
text's shape is known of its pieces, and pieces that were joined are cut
apart again (`Text.splitOn_joinWith`).

Trimming leaves a text alone that has nothing to trim
(`Text.trim_of_no_blank`), a trimmed text among them (`Text.trim_trim`), and
takes away what blanks stand around it and nothing else
(`Text.exists_trimChars`, `Text.trimChars_blank_append`).
-/
import Mathlib.Data.List.DropRight
import RouteConvergence.Text.Blank
import RouteConvergence.Text.Pieces

namespace RouteConvergence.Text

variable {sep : Char} {cs piece rest last : List Char} {front : List (List Char)}

/-! ## Cutting once -/

/-- **A text is cut once** before its first separator. -/
theorem splitFirst_eq_some_iff {before after : List Char} :
    splitFirst sep cs = some (before, after) ↔ cs = before ++ sep :: after ∧ sep ∉ before := by
  induction cs generalizing before with
  | nil => simp [splitFirst]
  | cons c cs ih =>
    rw [splitFirst]
    cases before with
    | nil =>
      split
      · next hc => simp [hc]
      · next hc => simp [hc]
    | cons d before =>
      split
      · next hc =>
        simp only [Option.some.injEq, Prod.mk.injEq, List.nil_eq, reduceCtorEq, false_and,
          List.cons_append, List.cons.injEq, List.mem_cons, not_or, false_iff, not_and, hc]
        exact fun hcut hne _ => hne hcut.1
      · next hc =>
        simp only [Option.map_eq_some_iff, Prod.exists, Prod.mk.injEq, List.cons.injEq,
          List.cons_append, List.mem_cons, not_or]
        constructor
        · rintro ⟨front, back, hcut, ⟨rfl, rfl⟩, rfl⟩
          obtain ⟨rfl, hfree⟩ := ih.1 hcut
          exact ⟨⟨rfl, rfl⟩, Ne.symm hc, hfree⟩
        · rintro ⟨⟨rfl, rfl⟩, -, hfree⟩
          exact ⟨before, after, ih.2 ⟨rfl, hfree⟩, ⟨rfl, rfl⟩, rfl⟩

theorem splitOnce_eq_some_iff {s before after : String} :
    splitOnce sep s = some (before, after) ↔
      s.toList = before.toList ++ sep :: after.toList ∧ sep ∉ before.toList := by
  rw [← splitFirst_eq_some_iff, splitOnce, Option.map_eq_some_iff]
  constructor
  · rintro ⟨⟨front, back⟩, hcut, hparts⟩
    obtain ⟨rfl, rfl⟩ := Prod.mk.inj hparts
    simpa using hcut
  · intro hcut
    exact ⟨_, hcut, by simp⟩

/-- A text is not cut only if there is no separator. -/
theorem splitOnce_eq_none_iff {s : String} : splitOnce sep s = none ↔ sep ∉ s.toList := by
  constructor
  · intro hnone hsep
    obtain ⟨before, after, hcut, hfree⟩ := List.eq_append_cons_of_mem hsep
    have hsome : splitOnce sep s = some (String.ofList before, String.ofList after) :=
      splitOnce_eq_some_iff.2 (by simpa using ⟨hcut, hfree⟩)
    rw [hnone] at hsome
    cases hsome
  · intro hfree
    rw [Option.eq_none_iff_forall_ne_some]
    rintro ⟨before, after⟩ hcut
    obtain ⟨htext, -⟩ := splitOnce_eq_some_iff.1 hcut
    rw [htext] at hfree
    simp at hfree

/-- What follows a given beginning. -/
theorem dropStart?_eq_some_iff {start s after : String} :
    dropStart? start s = some after ↔ s.toList = start.toList ++ after.toList := by
  rw [dropStart?]
  split
  · next hstart =>
    obtain ⟨more, hmore⟩ := List.isPrefixOf_iff_prefix.1 hstart
    simp [← hmore, ← String.toList_inj]
  · next hstart =>
    simp only [reduceCtorEq, false_iff]
    exact fun hs => hstart (List.isPrefixOf_iff_prefix.2 ⟨_, hs.symm⟩)

/-! ## Cutting at every separator -/

theorem splitChars_of_not_mem (h : sep ∉ cs) : splitChars sep cs = [cs] := by
  induction cs with
  | nil => rfl
  | cons c cs ih =>
    rw [List.mem_cons, not_or] at h
    simp [splitChars, Ne.symm h.1, ih h.2]

theorem splitChars_append (h : sep ∉ piece) :
    splitChars sep (piece ++ sep :: rest) = piece :: splitChars sep rest := by
  induction piece with
  | nil => simp [splitChars]
  | cons c piece ih =>
    rw [List.mem_cons, not_or] at h
    simp [splitChars, Ne.symm h.1, ih h.2]

/-- Pieces put together are cut apart again. -/
theorem splitChars_flatMap (h : ∀ piece ∈ front ++ [last], sep ∉ piece) :
    splitChars sep (front.flatMap (· ++ [sep]) ++ last) = front ++ [last] := by
  induction front with
  | nil => exact splitChars_of_not_mem (h last (by simp))
  | cons piece front ih =>
    have hpiece : sep ∉ piece := h piece (by simp)
    simp [splitChars_append hpiece, ih fun p hp => h p (List.mem_cons_of_mem _ hp)]

/-- Every text is put together from pieces. -/
theorem exists_pieces (sep : Char) (cs : List Char) :
    ∃ front last, cs = front.flatMap (· ++ [sep]) ++ last ∧
      ∀ piece ∈ front ++ [last], sep ∉ piece := by
  induction cs with
  | nil => exact ⟨[], [], by simp, by simp⟩
  | cons c cs ih =>
    obtain ⟨front, last, rfl, hfree⟩ := ih
    by_cases hc : c = sep
    · exact ⟨[] :: front, last, by simp [hc], by simpa using hfree⟩
    · -- The character goes in front of the first piece.
      cases front with
      | nil => exact ⟨[], c :: last, by simp, by simpa [Ne.symm hc] using hfree⟩
      | cons piece front =>
        refine ⟨(c :: piece) :: front, last, by simp, ?_⟩
        simpa [Ne.symm hc] using hfree

/-- **The pieces of a text** are the pieces without separators that it is put
together from. -/
theorem splitChars_eq_iff :
    splitChars sep cs = front ++ [last] ↔
      cs = front.flatMap (· ++ [sep]) ++ last ∧ ∀ piece ∈ front ++ [last], sep ∉ piece := by
  constructor
  · intro h
    obtain ⟨front', last', rfl, hfree⟩ := exists_pieces sep cs
    rw [splitChars_flatMap hfree] at h
    obtain ⟨rfl, hlast⟩ := List.append_inj' h rfl
    obtain rfl := List.singleton_inj.1 hlast
    exact ⟨rfl, hfree⟩
  · rintro ⟨rfl, hfree⟩
    exact splitChars_flatMap hfree

/-- No character is lost by cutting but the separators. -/
theorem mem_splitChars (sep : Char) {c : Char} (hc : c ∈ cs) :
    c = sep ∨ ∃ piece ∈ splitChars sep cs, c ∈ piece := by
  obtain ⟨front, last, rfl, hfree⟩ := exists_pieces sep cs
  rw [splitChars_flatMap hfree]
  simp only [List.mem_append, List.mem_flatMap, List.mem_singleton] at hc
  rcases hc with ⟨piece, hpiece, hc | hc⟩ | hc
  · exact Or.inr ⟨piece, by simp [hpiece], hc⟩
  · exact Or.inl hc
  · exact Or.inr ⟨last, by simp, hc⟩

theorem joinWith_cons (sep s : String) {ts : List String} (hts : ts ≠ []) :
    joinWith sep (s :: ts) = s ++ sep ++ joinWith sep ts := by
  cases ts with
  | nil => exact absurd rfl hts
  | cons t ts => rfl

theorem toList_joinWith (sep : Char) (front : List String) (last : String) :
    (joinWith (String.singleton sep) (front ++ [last])).toList =
      (front.map String.toList).flatMap (· ++ [sep]) ++ last.toList := by
  induction front with
  | nil => rfl
  | cons piece front ih =>
    rw [List.cons_append, joinWith_cons _ _ (by simp), String.toList_append, ih]
    simp

/-- **Pieces that were joined** are cut apart again. -/
theorem splitOn_joinWith {pieces : List String} (hne : pieces ≠ [])
    (h : ∀ piece ∈ pieces, sep ∉ piece.toList) :
    splitOn sep (joinWith (String.singleton sep) pieces) = pieces := by
  obtain ⟨front, last, rfl⟩ := (List.eq_nil_or_concat' pieces).resolve_left hne
  have hfree : ∀ piece ∈ front.map String.toList ++ [last.toList], sep ∉ piece := by
    intro piece hpiece
    rw [← List.map_singleton, ← List.map_append, List.mem_map] at hpiece
    obtain ⟨text, htext, rfl⟩ := hpiece
    exact h text htext
  rw [splitOn, toList_joinWith, splitChars_flatMap hfree]
  simp [Function.comp_def]

/-! ## Trimming -/

/-- Characters are trimmed to nothing exactly if all of them are blank. -/
theorem trimChars_eq_nil_iff : trimChars cs = [] ↔ ∀ c ∈ cs, isBlank c = true := by
  have hright : ∀ ds : List Char, trimRight ds = [] ↔ ∀ c ∈ ds, isBlank c = true := by
    intro ds
    simp [trimRight, List.dropWhile_eq_nil_iff]
  rw [trimChars, hright, trimLeft]
  constructor
  · intro h c hc
    rw [← List.takeWhile_append_dropWhile (p := isBlank) (l := cs)] at hc
    rcases List.mem_append.1 hc with hfront | hrest
    · exact List.mem_takeWhile_imp hfront
    · exact h c hrest
  · exact fun h c hc => h c ((List.dropWhile_sublist isBlank).subset hc)

theorem trim_eq_empty_iff {s : String} : trim s = "" ↔ ∀ c ∈ s.toList, isBlank c = true := by
  rw [← trimChars_eq_nil_iff, ← String.toList_inj, trim, String.toList_ofList]
  rfl

/-- Blanks in front are trimmed. -/
theorem trimChars_blank_append {blanks : List Char} (h : ∀ c ∈ blanks, isBlank c = true)
    (cs : List Char) : trimChars (blanks ++ cs) = trimChars cs := by
  rw [trimChars, trimLeft, List.dropWhile_append_of_pos h, trimChars, trimLeft]

/-- Blanks at the end are trimmed. -/
theorem trimChars_append_blank {blanks : List Char} (h : ∀ c ∈ blanks, isBlank c = true)
    (cs : List Char) : trimChars (cs ++ blanks) = trimChars cs := by
  have hright : ∀ ds : List Char, trimRight (ds ++ blanks) = trimRight ds := by
    intro ds
    rw [trimRight, List.reverse_append,
      List.dropWhile_append_of_pos fun c hc => h c (List.mem_reverse.1 hc), trimRight]
  rw [trimChars, trimLeft, List.dropWhile_append]
  split
  · next hnothing =>
    rw [List.isEmpty_iff] at hnothing
    rw [List.dropWhile_eq_nil_iff.2 h, trimChars, trimLeft, hnothing]
  · rw [hright, trimChars, trimLeft]

/-- What is trimmed are blanks around what is left. -/
theorem exists_trimChars (cs : List Char) : ∃ front back, cs = front ++ trimChars cs ++ back ∧
    (∀ c ∈ front, isBlank c = true) ∧ ∀ c ∈ back, isBlank c = true := by
  refine ⟨cs.takeWhile isBlank, (trimLeft cs).rtakeWhile isBlank, ?_,
    fun c hc => List.mem_takeWhile_imp hc, fun c hc => List.mem_rtakeWhile_imp hc⟩
  have hright : trimRight (trimLeft cs) ++ (trimLeft cs).rtakeWhile isBlank = trimLeft cs :=
    List.rdropWhile_append_rtakeWhile
  rw [trimChars, List.append_assoc, hright, trimLeft, List.takeWhile_append_dropWhile]

/-- No character is lost by trimming but blanks. -/
theorem mem_trimChars_iff {c : Char} (hc : isBlank c = false) : c ∈ trimChars cs ↔ c ∈ cs := by
  obtain ⟨front, back, hcs, hfront, hback⟩ := exists_trimChars cs
  have hnot : ∀ {ds : List Char}, (∀ d ∈ ds, isBlank d = true) → c ∉ ds := by
    intro ds h hmem
    rw [h c hmem] at hc
    cases hc
  have hsplit : c ∈ cs ↔ c ∈ front ++ trimChars cs ++ back := by rw [← hcs]
  rw [hsplit, List.mem_append, List.mem_append]
  exact ⟨fun h => Or.inl (Or.inr h),
    fun h => (h.resolve_right (hnot hback)).resolve_left (hnot hfront)⟩

/-- Nothing is trimmed where no character is blank. -/
theorem trimLeft_of_no_blank (h : ∀ c ∈ cs, isBlank c = false) : trimLeft cs = cs := by
  cases cs with
  | nil => rfl
  | cons c cs => simp [trimLeft, h c List.mem_cons_self]

theorem trim_of_no_blank {s : String} (h : ∀ c ∈ s.toList, isBlank c = false) : trim s = s := by
  have hreverse : trimLeft s.toList.reverse = s.toList.reverse :=
    trimLeft_of_no_blank fun c hc => h c (List.mem_reverse.1 hc)
  rw [trim, trimChars, trimLeft_of_no_blank h, trimRight, ← trimLeft, hreverse,
    List.reverse_reverse, String.ofList_toList]

/-- Blanks at the end are trimmed without new ones coming to the front. -/
theorem trimLeft_trimRight (h : trimLeft cs = cs) : trimLeft (trimRight cs) = trimRight cs := by
  have hfront : ∀ hcs : 0 < cs.length, ¬ isBlank cs[0] = true := List.dropWhile_eq_self_iff.1 h
  have hkept : trimRight cs <+: cs := List.rdropWhile_prefix isBlank cs
  refine List.dropWhile_eq_self_iff.2 fun hright => ?_
  rw [hkept.getElem hright]
  exact hfront (Nat.lt_of_lt_of_le hright hkept.length_le)

/-- Trimmed text has nothing left to trim. -/
theorem trim_trim (s : String) : trim (trim s) = trim s := by
  have hleft : trimLeft (trimLeft s.toList) = trimLeft s.toList :=
    List.dropWhile_idempotent isBlank _
  have hright : trimRight (trimRight (trimLeft s.toList)) = trimRight (trimLeft s.toList) :=
    List.rdropWhile_idempotent isBlank _
  rw [trim, trim, String.toList_ofList, trimChars, trimChars, trimLeft_trimRight hleft, hright]

end RouteConvergence.Text
