/-
RouteConvergence.Proofs.MomentTexts — moments survive being written and
read.

Reading brings any offset to universal time and accepts more forms than
are ever written. What it gives is a moment of the calendar
(`Instant.Proper`), and every such moment is read back from the one form
it is written in, whatever its year.

* `Instant.proper_of_ofText?` — what is read is proper.
* `Instant.ofText?_text` — what is proper is read back.
-/
import RouteConvergence.Instant.Rfc3339
import RouteConvergence.Proofs.DecimalDigits

namespace RouteConvergence

/-- No month is longer than thirty-one days. -/
theorem Date.daysInMonth_le (year : Int) (month : Nat) : daysInMonth year month ≤ 31 := by
  unfold daysInMonth
  split <;> (try split) <;> decide

namespace Instant

/-- A moment that clocks can show. A fraction of a second or more stands
for a leap second, which only the last second of a minute has. -/
structure Proper (t : Instant) : Prop where
  date : t.date.isValid = true
  second : t.second < 86400
  nano : t.nano < 2 * second1
  leap : second1 ≤ t.nano → t.second % 60 = 59

/-! ## Characters -/

/-- A digit is no blank. -/
theorem isBlank_of_isDigit {c : Char} (hc : Text.isDigit c = true) : Text.isBlank c = false := by
  simp only [Text.isDigit, Bool.and_eq_true, decide_eq_true_eq] at hc
  have hlow : 48 ≤ c.toNat := hc.1
  have hhigh : c.toNat ≤ 57 := hc.2
  simp [Text.isBlank, Text.blankRanges]
  omega

theorem trimLeft_cons {c : Char} (hc : Text.isBlank c = false) (cs : List Char) :
    Text.trimLeft (c :: cs) = c :: cs :=
  List.dropWhile_cons_of_neg (by simp [hc])

/-- There is nothing to trim in front of digits. -/
theorem trimLeft_digits {ds : List Char} (hne : ds ≠ []) (hds : ∀ c ∈ ds, Text.isDigit c = true)
    (rest : List Char) : Text.trimLeft (ds ++ rest) = ds ++ rest := by
  cases ds with
  | nil => exact absurd rfl hne
  | cons d ds => exact trimLeft_cons (isBlank_of_isDigit (hds d List.mem_cons_self)) _

/-! ## Numbers -/

/-- Whether a run of digits ends in front of some characters. -/
def EndsDigits (cs : List Char) : Prop := ∀ c ∈ cs.head?, Text.isDigit c = false

theorem EndsDigits.takeWhile {cs : List Char} (h : EndsDigits cs) (k : Nat) :
    (cs.take k).takeWhile Text.isDigit = [] := by
  cases cs with
  | nil => simp
  | cons c cs =>
    cases k with
    | zero => simp
    | succ k => simp [h c (by simp)]

/-- The digits in front are all found if they end there, or are as many as
may be read. -/
theorem takeWhile_digits {most : Nat} {ds rest : List Char}
    (hds : ∀ c ∈ ds, Text.isDigit c = true) (hlength : ds.length ≤ most)
    (hend : ds.length = most ∨ EndsDigits rest) :
    ((ds ++ rest).take most).takeWhile Text.isDigit = ds := by
  rw [List.take_append, List.take_of_length_le hlength, List.takeWhile_append_of_pos hds]
  rcases hend with hfull | hrest
  · simp [hfull]
  · rw [hrest.takeWhile, List.append_nil]

/-- Digits are read up to where they end, or up to as many as may be read. -/
theorem readNumber_digits {most : Nat} {ds rest : List Char} (hne : ds ≠ [])
    (hds : ∀ c ∈ ds, Text.isDigit c = true) (hlength : ds.length ≤ most)
    (hend : ds.length = most ∨ EndsDigits rest) :
    readNumber most (ds ++ rest) = some (Text.digitsValue ds, rest) := by
  have hempty : ds.isEmpty = false := by simpa using hne
  rw [readNumber, takeWhile_digits hds hlength hend, hempty, List.drop_left]
  rfl

theorem isDigit_natPadded {width n : Nat} :
    ∀ c ∈ (Text.natPadded width n).toList, Text.isDigit c = true :=
  fun _ hc => Text.isDigit_of_mem_natPadded hc

/-- A field of two digits is read back whatever follows. -/
theorem readField_natPadded {n : Nat} (hn : n < 100) (rest : List Char) :
    readField ((Text.natPadded 2 n).toList ++ rest) = some (n, rest) := by
  have hlength : (Text.natPadded 2 n).toList.length = 2 := Text.length_natPadded (by omega) hn
  rw [readField, trimLeft_digits (Text.natPadded_ne_nil 2 n) isDigit_natPadded,
    readNumber_digits (Text.natPadded_ne_nil 2 n) isDigit_natPadded (by omega) (.inl hlength),
    Text.digitsValue_natPadded]

theorem readMark_cons {c : Char} (hc : Text.isBlank c = false) (rest : List Char) :
    readMark c (c :: rest) = some rest := by
  simp [readMark, trimLeft_cons hc]

/-! ## Dates -/

/-- A number of any length is read up to a character that is no digit. -/
theorem readLongNumber_natPadded (width n : Nat) {rest : List Char} (hrest : EndsDigits rest) :
    readLongNumber ((Text.natPadded width n).toList ++ rest) = some (n, rest) := by
  rw [readLongNumber, readNumber_digits (Text.natPadded_ne_nil width n) isDigit_natPadded
    (by simp) (.inr hrest), Text.digitsValue_natPadded]

/-- A year is read back with the dash behind it left over. -/
theorem readYear_yearText (year : Int) (rest : List Char) :
    readYear ((yearText year).toList ++ '-' :: rest) = some (year, '-' :: rest) := by
  have hrest : EndsDigits ('-' :: rest) := fun c hc => by
    obtain rfl : '-' = c := by simpa using hc
    decide
  unfold yearText
  split
  · next hyear =>
    have hlength : (Text.natPadded 4 year.toNat).toList.length = 4 :=
      Text.length_natPadded (by omega) (by omega)
    have hread : readNumber 4 ((Text.natPadded 4 year.toNat).toList ++ '-' :: rest) = _ :=
      readNumber_digits (Text.natPadded_ne_nil 4 year.toNat) isDigit_natPadded (by omega)
        (.inl hlength)
    have hdigits : ∀ c ∈ (Text.natPadded 4 year.toNat).toList, Text.isDigit c = true :=
      isDigit_natPadded
    rw [Text.digitsValue_natPadded] at hread
    obtain ⟨d, ds, hds⟩ := List.exists_cons_of_ne_nil (Text.natPadded_ne_nil 4 year.toNat)
    rw [hds] at hread hdigits ⊢
    have hd : d ≠ '-' ∧ d ≠ '+' := by
      constructor <;> (rintro rfl; exact absurd (hdigits _ List.mem_cons_self) (by decide))
    rw [readYear, List.cons_append,
      trimLeft_cons (isBlank_of_isDigit (hdigits d List.mem_cons_self))]
    rw [List.cons_append] at hread
    simp [hd, hread]
    omega
  · next hyear =>
    have hread := readLongNumber_natPadded 4 year.natAbs hrest
    split
    · have hcast : -(year.natAbs : Int) = year := by omega
      simpa [readYear, trimLeft_cons (c := '-') rfl, hread] using hcast
    · have hcast : (year.natAbs : Int) = year := by omega
      simpa [readYear, trimLeft_cons (c := '+') rfl, hread] using hcast

/-- A date is read back whatever follows. -/
theorem readDate_text {d : Date} (hd : d.isValid = true) (rest : List Char) :
    readDate ((yearText d.year).toList ++ '-' :: ((Text.natPadded 2 d.month).toList ++
      '-' :: ((Text.natPadded 2 d.day).toList ++ rest))) = some (d, rest) := by
  have hmonth : d.month < 100 := by
    simp only [Date.isValid, Bool.and_eq_true, decide_eq_true_eq] at hd
    omega
  have hday : d.day < 100 := by
    have hle := Date.daysInMonth_le d.year d.month
    simp only [Date.isValid, Bool.and_eq_true, decide_eq_true_eq] at hd
    omega
  simp [readDate, readYear_yearText, readMark_cons (c := '-') rfl, readField_natPadded hmonth,
    readField_natPadded hday]

/-! ## Times of day -/

theorem endsDigits_zulu : EndsDigits ['Z'] := fun c hc => by
  obtain rfl : 'Z' = c := by simpa using hc
  decide

/-- The digits of a fraction count as many nanoseconds as their place
says. -/
theorem readFraction_natPadded {width n : Nat} (hwidth : 0 < width) (hmost : width ≤ 9)
    (hn : n < 10 ^ width) :
    readFraction (("." ++ Text.natPadded width n).toList ++ ['Z']) =
      some (n * 10 ^ (9 - width), ['Z']) := by
  have hlength := Text.length_natPadded hwidth hn
  have hempty : (Text.natPadded width n).toList.isEmpty = false := by
    simpa using Text.natPadded_ne_nil width n
  have hstart : ("." ++ Text.natPadded width n).toList ++ ['Z'] =
      '.' :: ((Text.natPadded width n).toList ++ ['Z']) := by
    simp
  rw [hstart, readFraction, takeWhile_digits isDigit_natPadded (by omega) (.inr endsDigits_zulu),
    hempty, Text.digitsValue_natPadded, hlength, List.drop_left' hlength]
  rfl

/-- A fraction of a second is read back up to the mark of universal time. -/
theorem readFraction_fractionText {nano : Nat} (hnano : nano < second1) :
    readFraction ((fractionText nano).toList ++ ['Z']) = some (nano, ['Z']) := by
  have hbound : nano < 1000000000 := hnano
  unfold fractionText
  split
  · next hzero =>
    subst hzero
    rfl
  split
  · next hmillis =>
    rw [readFraction_natPadded (by omega) (by omega) (by omega)]
    have hvalue : nano / 1000000 * 10 ^ (9 - 3) = nano := by omega
    rw [hvalue]
  split
  · next hmicros =>
    rw [readFraction_natPadded (by omega) (by omega) (by omega)]
    have hvalue : nano / 1000 * 10 ^ (9 - 6) = nano := by omega
    rw [hvalue]
  · rw [readFraction_natPadded (by omega) (by omega) (by omega)]
    simp

/-- A time of day is read back up to the mark of universal time. -/
theorem readTime_text {hour minute second nano : Nat} (hhour : hour ≤ 23) (hminute : minute ≤ 59)
    (hsecond : second ≤ 60) (hnano : nano < second1) :
    readTime ((Text.natPadded 2 hour).toList ++ ':' :: ((Text.natPadded 2 minute).toList ++
        ':' :: ((Text.natPadded 2 second).toList ++ ((fractionText nano).toList ++ ['Z'])))) =
      some ((hour * 3600 + minute * 60 + (if second = 60 then 59 else second),
        nano + if second = 60 then second1 else 0), ['Z']) := by
  simp [readTime, readMark_cons (c := ':') rfl, readField_natPadded (show hour < 100 by omega),
    readField_natPadded (show minute < 100 by omega),
    readField_natPadded (show second < 100 by omega), readFraction_fractionText hnano, hhour,
    hminute, hsecond]

/-! ## Moments -/

theorem toList_text (t : Instant) : t.text.toList =
    (yearText t.date.year).toList ++ '-' :: ((Text.natPadded 2 t.date.month).toList ++
      '-' :: ((Text.natPadded 2 t.date.day).toList ++ 'T' ::
        ((Text.natPadded 2 (t.second / 3600)).toList ++ ':' ::
          ((Text.natPadded 2 (t.second / 60 % 60)).toList ++ ':' ::
            ((Text.natPadded 2 (t.second % 60 + if second1 ≤ t.nano then 1 else 0)).toList ++
              ((fractionText (if second1 ≤ t.nano then t.nano - second1 else t.nano)).toList ++
                ['Z'])))))) := by
  simp [text]

/-- The time of day of a moment is read back; a leap second is the second
numbered 60. -/
theorem readTime_shown {t : Instant} (h : t.Proper) :
    readTime ((Text.natPadded 2 (t.second / 3600)).toList ++ ':' ::
      ((Text.natPadded 2 (t.second / 60 % 60)).toList ++ ':' ::
        ((Text.natPadded 2 (t.second % 60 + if second1 ≤ t.nano then 1 else 0)).toList ++
          ((fractionText (if second1 ≤ t.nano then t.nano - second1 else t.nano)).toList ++
            ['Z'])))) = some ((t.second, t.nano), ['Z']) := by
  have hsecond := h.second
  have hnano := h.nano
  have hhour : t.second / 3600 ≤ 23 := by omega
  have hminute : t.second / 60 % 60 ≤ 59 := by omega
  have hclock : t.second / 3600 * 3600 + t.second / 60 % 60 * 60 + t.second % 60 = t.second := by
    omega
  by_cases hleap : second1 ≤ t.nano
  · have hlast := h.leap hleap
    have hsum : t.nano - second1 + second1 = t.nano := by omega
    rw [hlast] at hclock
    rw [if_pos hleap, if_pos hleap, hlast,
      readTime_text hhour hminute (by omega) (by omega), if_pos rfl, if_pos rfl, hclock, hsum]
  · have hordinary : ¬ t.second % 60 = 60 := by omega
    rw [if_neg hleap, if_neg hleap, Nat.add_zero,
      readTime_text hhour hminute (by omega) (by omega), if_neg hordinary, if_neg hordinary,
      hclock, Nat.add_zero]

/-- Universal time is not ahead of itself. -/
theorem ofLocal_zero {date : Date} {second : Nat} (nano : Nat) (hsecond : second < 86400) :
    ofLocal date second nano 0 = ⟨date, second, nano⟩ := by
  have hlow : ¬ (second : Int) < 0 := by omega
  have hhigh : ¬ 86400 ≤ (second : Int) := by omega
  simp [ofLocal, hlow, hhigh]

/-- **A moment of the calendar is read back from its written form.** -/
theorem ofText?_text {t : Instant} (h : t.Proper) : ofText? t.text = some t := by
  have hzulu : readOffset (Text.trimLeft ['Z']) = some (0, []) := rfl
  have hlocal : ofLocal t.date t.second t.nano 0 = t := ofLocal_zero t.nano h.second
  have hend : Text.trimLeft [] = [] := rfl
  simp [ofText?, toList_text, readDate_text h.date, readSeparator, readTime_shown h, hzulu, hlocal,
    h.date, hend]

/-! ## Moments that were read -/

/-- A fraction is less than a second. -/
theorem readFraction_lt {cs rest : List Char} {nano : Nat}
    (h : readFraction cs = some (nano, rest)) : nano < second1 := by
  unfold readFraction at h
  split at h
  · next tail =>
    generalize hdigits : (tail.take 9).takeWhile Text.isDigit = digits at h
    have hall : ∀ c ∈ digits, Text.isDigit c = true :=
      List.all_eq_true.1 (hdigits ▸ List.all_takeWhile)
    have hlength : digits.length ≤ 9 := by
      have hwhile := (List.takeWhile_sublist Text.isDigit (l := tail.take 9)).length_le
      rw [hdigits] at hwhile
      exact Nat.le_trans hwhile (List.length_take_le 9 tail)
    dsimp only at h
    split at h
    · simp at h
    · obtain ⟨rfl, -⟩ : Text.digitsValue digits * 10 ^ (9 - digits.length) = nano ∧ _ := by
        simpa using h
      calc Text.digitsValue digits * 10 ^ (9 - digits.length)
          < 10 ^ digits.length * 10 ^ (9 - digits.length) :=
            Nat.mul_lt_mul_of_pos_right (Text.digitsValue_lt hall) (Nat.pow_pos (by omega))
        _ = 10 ^ 9 := by rw [← Nat.pow_add, Nat.add_sub_cancel' hlength]
  · obtain ⟨rfl, -⟩ : 0 = nano ∧ _ := by simpa using h
    decide

/-- What is read as a time of day is one. -/
theorem readTime_proper {cs rest : List Char} {second nano : Nat}
    (h : readTime cs = some ((second, nano), rest)) :
    second < 86400 ∧ nano < 2 * second1 ∧ (second1 ≤ nano → second % 60 = 59) := by
  simp only [readTime, Option.bind_eq_bind, Option.bind_eq_some_iff] at h
  obtain ⟨⟨hour, _⟩, -, _, -, ⟨minute, _⟩, -, _, -, ⟨shown, _⟩, -, ⟨fraction, _⟩, hfraction, h⟩ := h
  have hbound := readFraction_lt hfraction
  split at h
  · next hclock =>
    simp only [Option.pure_def, Option.some.injEq, Prod.mk.injEq] at h
    obtain ⟨⟨rfl, rfl⟩, -⟩ := h
    dsimp only at hclock ⊢
    by_cases hleap : shown = 60 <;> simp only [hleap, if_true, if_false] <;> omega
  · simp at h

/-- The hours and minutes of an offset are whole minutes. -/
theorem readOffsetAmount_dvd {cs rest : List Char} {amount : Int}
    (h : readOffsetAmount cs = some (amount, rest)) : 60 ∣ amount := by
  unfold readOffsetAmount at h
  split at h
  · split at h
    · split at h
      · simp only [Option.some.injEq, Prod.mk.injEq] at h
        obtain ⟨rfl, -⟩ := h
        omega
      · simp at h
    · simp at h
  · simp at h

/-- Offsets are whole minutes. -/
theorem readOffset_dvd {cs rest : List Char} {offset : Int}
    (h : readOffset cs = some (offset, rest)) : 60 ∣ offset := by
  have hbehind : ∀ {tail : List Char},
      (readOffsetAmount tail).map (fun p => (-p.1, p.2)) = some (offset, rest) → 60 ∣ offset := by
    intro tail hmap
    obtain ⟨⟨amount, _⟩, hread, hneg⟩ := Option.map_eq_some_iff.1 hmap
    obtain ⟨rfl, -⟩ := Prod.mk.inj hneg
    exact (Int.dvd_neg).2 (readOffsetAmount_dvd hread)
  have hnone : ∀ {tail : List Char}, some ((0 : Int), tail) = some (offset, rest) → 60 ∣ offset := by
    intro tail hzero
    obtain ⟨rfl, -⟩ := Prod.mk.inj (Option.some.inj hzero)
    exact Int.dvd_zero 60
  unfold readOffset at h
  split at h
  · exact hnone h
  · split at h
    · exact hnone h
    · exact hnone h
    · exact readOffsetAmount_dvd h
    · exact hbehind h
    · exact hbehind h
    · simp at h

/-- A clock that is ahead by whole minutes shows the same second of its
minute. -/
theorem ofLocal_proper (date : Date) {second : Nat} (nano : Nat) {offset : Int}
    (hsecond : second < 86400) (hoffset : offset.natAbs < 86400) (hdvd : 60 ∣ offset) :
    (ofLocal date second nano offset).second < 86400 ∧
      (ofLocal date second nano offset).nano = nano ∧
      (ofLocal date second nano offset).second % 60 = second % 60 := by
  dsimp only [ofLocal]
  split
  · refine ⟨?_, rfl, ?_⟩ <;> dsimp only <;> omega
  · split <;> refine ⟨?_, rfl, ?_⟩ <;> dsimp only <;> omega

/-- **What is read is a moment of the calendar.** -/
theorem proper_of_ofText? {s : String} {t : Instant} (h : ofText? s = some t) : t.Proper := by
  simp only [ofText?, Option.bind_eq_bind, Option.bind_eq_some_iff] at h
  obtain ⟨⟨date, _⟩, -, _, -, ⟨⟨second, nano⟩, _⟩, htime, ⟨offset, _⟩, hoffset, h⟩ := h
  obtain ⟨hsecond, hnano, hleap⟩ := readTime_proper htime
  split at h
  · next hvalid =>
    obtain rfl := Option.some.inj h
    obtain ⟨-, hsmall, hdate, -⟩ := hvalid
    obtain ⟨hsecond', hnano', hminute⟩ :=
      ofLocal_proper date nano hsecond hsmall (readOffset_dvd hoffset)
    refine ⟨hdate, hsecond', ?_, fun hfraction => ?_⟩
    · rwa [hnano']
    · rw [hminute]
      exact hleap (by rwa [hnano'] at hfraction)
  · simp at h

end Instant

end RouteConvergence
