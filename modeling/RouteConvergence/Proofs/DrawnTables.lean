/-
RouteConvergence.Proofs.DrawnTables — which status records can be drawn as a
table.

A column has room for so many characters, but a text that is too long for it
is measured and cut by bytes. The cut is made at one place whatever
characters stand there, so a letter across that place leaves nothing to be
drawn, and not only for its own record.

* `Text.firstBytes_eq_some_iff` — a text is cut where one character ends and
  the next begins.
* `Text.ShownAs` — a text as a column shows it; `Text.exists_shownAs_iff` —
  which texts a column can show.
* `StatusTable.IsRow` — the row of a record.
* `StatusTable.drawn_iff` — which records have a table, and which table.
* `StatusTable.umlaut_undrawn` — a group whose name fits by its characters
  and cannot be drawn.
-/
import Mathlib.Data.List.Forall2
import RouteConvergence.Status.Table

namespace RouteConvergence

/-! ## Cutting by bytes -/

namespace Text

theorem utf8ByteSize_ofList_cons (c : Char) (cs : List Char) :
    (String.ofList (c :: cs)).utf8ByteSize = c.utf8Size + (String.ofList cs).utf8ByteSize := by
  rw [String.ofList_cons, String.utf8ByteSize_append, String.utf8ByteSize_singleton]

/-- A beginning is cut off by its size. -/
theorem firstBytes_append (front back : List Char) :
    firstBytes (String.ofList front).utf8ByteSize (front ++ back) = some front := by
  induction front with
  | nil => cases back <;> rfl
  | cons c front ih =>
    have hsize := utf8ByteSize_ofList_cons c front
    have hpos := c.utf8Size_pos
    obtain ⟨n, hn⟩ := Nat.exists_eq_succ_of_ne_zero
      (show (String.ofList (c :: front)).utf8ByteSize ≠ 0 by omega)
    have hrest : n + 1 - c.utf8Size = (String.ofList front).utf8ByteSize := by omega
    rw [hn, List.cons_append, firstBytes, if_pos (by omega), hrest, ih]
    rfl

/-- What is cut off is a beginning of that size. -/
theorem exists_append_of_firstBytes {n : Nat} {cs front : List Char}
    (h : firstBytes n cs = some front) :
    (∃ back, cs = front ++ back) ∧ (String.ofList front).utf8ByteSize = n := by
  fun_induction firstBytes n cs generalizing front with
  | case1 cs =>
    obtain rfl : [] = front := Option.some.inj h
    exact ⟨⟨cs, rfl⟩, rfl⟩
  | case2 n => cases h
  | case3 n c cs hfits ih =>
    obtain ⟨more, hmore, rfl⟩ := Option.map_eq_some_iff.1 h
    obtain ⟨⟨back, rfl⟩, hsize⟩ := ih hmore
    refine ⟨⟨back, rfl⟩, ?_⟩
    rw [utf8ByteSize_ofList_cons]
    omega
  | case4 n c cs hlong => cases h

/-- **A text is cut by bytes** only where one character ends and the next
begins. -/
theorem firstBytes_eq_some_iff {n : Nat} {cs front : List Char} :
    firstBytes n cs = some front ↔
      (∃ back, cs = front ++ back) ∧ (String.ofList front).utf8ByteSize = n := by
  refine ⟨exists_append_of_firstBytes, ?_⟩
  rintro ⟨⟨back, rfl⟩, rfl⟩
  exact firstBytes_append front back

/-! ## Texts in a column -/

/-- How a column of so many bytes shows a text: whole if it fits, and else a
beginning of it that leaves room for three dots. -/
inductive ShownAs (most : Nat) (s : String) : String → Prop
  | whole (hfits : s.utf8ByteSize ≤ most) : ShownAs most s s
  | cut {front back : String} (hlong : most < s.utf8ByteSize) (hsplit : s = front ++ back)
    (hsize : front.utf8ByteSize = most - 3) : ShownAs most s (front ++ "...")

theorem truncate_eq_some_iff {most : Nat} {s t : String} :
    truncate most s = some t ↔ ShownAs most s t := by
  rw [truncate]
  split
  · next hfits =>
    rw [Option.some.injEq]
    refine ⟨fun h => h ▸ .whole hfits, fun h => ?_⟩
    cases h with
    | whole => rfl
    | cut hlong => omega
  · next hlong =>
    rw [Option.map_eq_some_iff]
    constructor
    · rintro ⟨front, hfront, rfl⟩
      obtain ⟨⟨back, hback⟩, hsize⟩ := firstBytes_eq_some_iff.1 hfront
      have hsplit : s = String.ofList front ++ String.ofList back := by
        rw [← String.ofList_append, ← hback, String.ofList_toList]
      exact .cut (by omega) hsplit hsize
    · rintro (hfits | @⟨front, back, -, rfl, hsize⟩)
      · omega
      · refine ⟨front.toList, firstBytes_eq_some_iff.2 ⟨⟨back.toList, ?_⟩, ?_⟩, ?_⟩
        · exact String.toList_append
        · rw [String.ofList_toList, hsize]
        · rw [String.ofList_toList]

/-- A column can show a text that fits, and one that has a character end
where it is to be cut. -/
def Showable (most : Nat) (s : String) : Prop :=
  s.utf8ByteSize ≤ most ∨ (String.Pos.Raw.mk (most - 3)).IsValid s

theorem exists_shownAs_iff {most : Nat} {s : String} :
    (∃ t, ShownAs most s t) ↔ Showable most s := by
  rw [Showable, String.Pos.Raw.isValid_iff_exists_append]
  constructor
  · rintro ⟨t, hfits | @⟨front, back, hlong, hsplit, hsize⟩⟩
    · exact Or.inl hfits
    · exact Or.inr ⟨front, back, hsplit, congrArg String.Pos.Raw.mk hsize.symm⟩
  · rintro (hfits | ⟨front, back, hsplit, hsize⟩)
    · exact ⟨s, .whole hfits⟩
    · by_cases hfits : s.utf8ByteSize ≤ most
      · exact ⟨s, .whole hfits⟩
      · exact ⟨_, .cut (by omega) hsplit (congrArg String.Pos.Raw.byteIdx hsize).symm⟩

end Text

/-! ## The table -/

namespace StatusTable

open Text (ShownAs Showable)

/-- The row of a record: its texts as their columns show them. -/
def IsRow (s : StatusRecord) (row : String) : Prop :=
  ∃ group address, ShownAs groupWidth s.group group ∧
    ShownAs addressWidth (s.address.getD "-") address ∧
    row = line group (s.distributionId.getD "-") address (syncedText s)
      (Text.natText s.aliases.size)

theorem row_eq_some_iff {s : StatusRecord} {text : String} :
    row s = some text ↔ IsRow s text := by
  simp only [row, Option.bind_eq_bind, Option.bind_eq_some_iff, Option.pure_def, Option.some.injEq,
    Text.truncate_eq_some_iff, IsRow, eq_comm (a := text)]
  constructor
  · rintro ⟨group, hgroup, address, haddress, htext⟩
    exact ⟨group, address, hgroup, haddress, htext⟩
  · rintro ⟨group, address, hgroup, haddress, htext⟩
    exact ⟨group, hgroup, address, haddress, htext⟩

theorem exists_isRow_iff {s : StatusRecord} :
    (∃ text, IsRow s text) ↔
      Showable groupWidth s.group ∧ Showable addressWidth (s.address.getD "-") := by
  simp only [← Text.exists_shownAs_iff, IsRow]
  constructor
  · rintro ⟨_, group, address, hgroup, haddress, -⟩
    exact ⟨⟨group, hgroup⟩, address, haddress⟩
  · rintro ⟨⟨group, hgroup⟩, address, haddress⟩
    exact ⟨_, group, address, hgroup, haddress, rfl⟩

/-- Rows are drawn one by one. -/
theorem mapM_row_eq_some_iff {records : List StatusRecord} {rows : List String} :
    records.mapM row = some rows ↔ List.Forall₂ IsRow records rows := by
  induction records generalizing rows with
  | nil => simp [List.forall₂_nil_left_iff, eq_comm]
  | cons s records ih =>
    simp only [List.mapM_cons, Option.bind_eq_bind, Option.bind_eq_some_iff, Option.pure_def,
      Option.some.injEq, List.forall₂_cons_left_iff, row_eq_some_iff, ih, eq_comm (a := rows)]
    constructor
    · rintro ⟨text, htext, more, hmore, hrows⟩
      exact ⟨text, more, htext, hmore, hrows⟩
    · rintro ⟨text, more, htext, hmore, hrows⟩
      exact ⟨text, htext, more, hmore, hrows⟩

/-- **A table** is the heading, the rule and a row for each record. -/
theorem render_eq_some_iff {records : List StatusRecord} {table : String} :
    render records = some table ↔
      ∃ rows, List.Forall₂ IsRow records rows ∧ table = heading ++ rule ++ String.join rows := by
  simp only [render, Option.bind_eq_bind, Option.bind_eq_some_iff, Option.pure_def,
    Option.some.injEq, mapM_row_eq_some_iff, eq_comm (a := table)]

theorem exists_rows_iff {records : List StatusRecord} :
    (∃ rows, List.Forall₂ IsRow records rows) ↔ ∀ s ∈ records, ∃ text, IsRow s text := by
  induction records with
  | nil => simp
  | cons s records ih =>
    simp only [List.forall₂_cons_left_iff, List.forall_mem_cons, ← ih]
    constructor
    · rintro ⟨_, text, rows, htext, hrows, rfl⟩
      exact ⟨⟨text, htext⟩, rows, hrows⟩
    · rintro ⟨⟨text, htext⟩, rows, hrows⟩
      exact ⟨_, text, rows, htext, hrows, rfl⟩

/-- **Which records are drawn, and as what.** There is a table exactly if in
every record the group fits into twenty bytes or has a character end at the
seventeenth, and the address fits into thirty-six or has one at the
thirty-third. The table is then one heading, one rule and one row for each
record in order, with these two texts whole or cut there. -/
theorem drawn_iff (records : List StatusRecord) :
    ((∃ table, render records = some table) ↔ ∀ s ∈ records,
      Showable groupWidth s.group ∧ Showable addressWidth (s.address.getD "-")) ∧
    ∀ table, render records = some table →
      ∃ rows, List.Forall₂ IsRow records rows ∧ table = heading ++ rule ++ String.join rows := by
  refine ⟨?_, fun table h => render_eq_some_iff.1 h⟩
  simp only [render_eq_some_iff, ← exists_isRow_iff, ← exists_rows_iff]
  constructor
  · rintro ⟨_, rows, hrows, -⟩
    exact ⟨rows, hrows⟩
  · rintro ⟨rows, hrows⟩
    exact ⟨_, rows, hrows, rfl⟩

/-- A name with a byte for each character can be cut anywhere. -/
theorem drawn_iff_advertising :
    ∃ table row, render [.new "advertising-and-sales"] = some table ∧
      IsRow (.new "advertising-and-sales") row ∧ table = heading ++ rule ++ row := by
  obtain ⟨hdrawn, hrows⟩ := drawn_iff [.new "advertising-and-sales"]
  have hgroup : Showable groupWidth "advertising-and-sales" :=
    Or.inr (String.Pos.Raw.isValid_iff_exists_append.2 ⟨"advertising-and-s", "ales", rfl, rfl⟩)
  have haddress : Showable addressWidth "-" := Or.inl (by decide +kernel)
  obtain ⟨table, htable⟩ := hdrawn.2 (by simpa using ⟨hgroup, haddress⟩)
  obtain ⟨rows, hall, rfl⟩ := hrows table htable
  obtain ⟨row, more, hrow, hmore, rfl⟩ := List.forall₂_cons_left_iff.1 hall
  obtain rfl := List.forall₂_nil_left_iff.1 hmore
  exact ⟨_, row, htable, hrow, by simp [String.join]⟩

/-- The name of a group has twenty characters, as many as its column, but the
place of the cut is inside its `ä`, and no record is drawn beside it. -/
theorem umlaut_undrawn :
    "werbung-und-verkäufe".length = groupWidth ∧
      render [.new "public", .new "werbung-und-verkäufe"] = none ∧
      ¬ ∀ records, ∃ table, render records = some table := by
  have hnone : render [.new "public", .new "werbung-und-verkäufe"] = none := by decide +kernel
  refine ⟨by decide +kernel, hnone, fun htotal => ?_⟩
  obtain ⟨table, htable⟩ := htotal [.new "public", .new "werbung-und-verkäufe"]
  rw [hnone] at htable
  cases htable

end StatusTable

end RouteConvergence
