/-
RouteConvergence.Proofs.JsonLayouts — what is written as JSON is read back.

A document is written on one line or over several, and the two differ in
blanks only. `Json.Layout` says which texts are forms of a document when
blanks may stand between its parts; reading is shown to recover the
document from every such form, and both writers to produce one.

* `Document.tree` — what a document says once it is read.
* `Json.readValue_layout` — the reader stops exactly where a form ends.
  What follows must not go on with a number (`Json.Closes`).
* `Json.read?_layout` — a form by itself, blanks around it.
* `Json.read?_compact`, `Json.read?_pretty` — the two writers.
-/
import Mathlib.Data.List.DropRight
import Mathlib.Data.List.TakeDrop
import RouteConvergence.Json.Reader
import RouteConvergence.Json.Writer
import RouteConvergence.Proofs.CutTexts
import RouteConvergence.Proofs.DecimalDigits

namespace RouteConvergence

/-! ## Documents as trees -/

namespace Data.Document

mutual

/-- What a document says once it is read. -/
def tree : Document → Tree
  | .null => .null
  | .bool b => .bool b
  | .number n => .number (Text.intText n)
  | .text s => .text (some s)
  | .list items => .list true (trees items)
  | .record fields => .record (fieldTrees fields)
  | .variant name content => .record [(some name, tree content)]

/-- What the items of a list say. -/
def trees : List Document → List Tree
  | [] => []
  | d :: rest => tree d :: trees rest

/-- What the fields of a record say. -/
def fieldTrees : List (String × Document) → List (Option String × Tree)
  | [] => []
  | (name, d) :: rest => (some name, tree d) :: fieldTrees rest

end

theorem trees_eq_map : ∀ items : List Document, trees items = items.map tree
  | [] => rfl
  | d :: rest => by rw [trees, trees_eq_map rest, List.map_cons]

theorem fieldTrees_eq_map : ∀ fields : List (String × Document),
    fieldTrees fields = fields.map fun f => (some f.1, f.2.tree)
  | [] => rfl
  | (name, d) :: rest => by rw [fieldTrees, fieldTrees_eq_map rest, List.map_cons]

end Data.Document

namespace Json

open Data (Tree Document)

/-! ## Blanks -/

/-- Blanks and nothing else. -/
def Blank (cs : List Char) : Prop := ∀ c ∈ cs, isSpace c = true

theorem Blank.nil : Blank [] := fun _ h => absurd h List.not_mem_nil

theorem skipSpace_append {b : List Char} (hb : Blank b) (cs : List Char) :
    skipSpace (b ++ cs) = skipSpace cs := by
  induction b with
  | nil => rfl
  | cons c b ih =>
    have hc : isSpace c = true := hb c List.mem_cons_self
    rw [List.cons_append, skipSpace, List.dropWhile_cons_of_pos hc]
    exact ih fun d hd => hb d (List.mem_cons_of_mem _ hd)

theorem skipSpace_cons {c : Char} (hc : isSpace c = false) (cs : List Char) :
    skipSpace (c :: cs) = c :: cs :=
  List.dropWhile_cons_of_neg (by simp [hc])

theorem skipSpace_skipSpace (cs : List Char) : skipSpace (skipSpace cs) = skipSpace cs :=
  List.dropWhile_idempotent isSpace cs

/-- Blanks in front of a value do not matter. -/
theorem readValue_skipSpace (n : Nat) (cs : List Char) :
    readValue n (skipSpace cs) = readValue n cs := by
  cases n with
  | zero => rw [readValue, readValue]
  | succ n => rw [readValue, readValue, skipSpace_skipSpace]

/-! ## Texts -/

/-- A control character is written as the four digits of its number. -/
theorem controlEscape_eq : ∀ k < 0x20, ∃ a b,
    controlEscape (Char.ofNat k) = ['\\', 'u', '0', '0', a, b] ∧ hexUnit '0' '0' a b = some k := by
  intro k hk
  refine ⟨Nat.digitChar (k / 16), Nat.digitChar (k % 16), ?_⟩
  revert k
  decide

/-- A character is read back from what it is written as. -/
theorem readText_escapeChar (c : Char) (rest : List Char) :
    readText (escapeChar c ++ rest) = (readText rest).map (withChar c) := by
  by_cases hshort : c ∈ ['"', '\\', '\x08', '\x0c', '\n', '\r', '\t']
  · simp only [List.mem_cons, List.not_mem_nil, or_false] at hshort
    rcases hshort with rfl | rfl | rfl | rfl | rfl | rfl | rfl <;>
      simp [escapeChar, readText, unescape]
  · simp only [List.mem_cons, List.not_mem_nil, or_false, not_or] at hshort
    by_cases hcontrol : c.toNat < 0x20
    · obtain ⟨a, b, hwritten, hread⟩ := controlEscape_eq c.toNat hcontrol
      rw [Char.ofNat_toNat] at hwritten
      have hhigh : ¬ 0xD800 ≤ c.toNat := by omega
      have hlow : ¬ 0xDC00 ≤ c.toNat := by omega
      simp [escapeChar, hshort, hcontrol, hwritten, readText, hread, hhigh, hlow, Char.ofNat_toNat]
    · simp [escapeChar, hshort, hcontrol, readText]

/-- A text is read back up to its closing mark. -/
theorem readText_escaped (rest : List Char) : ∀ cs : List Char,
    readText (cs.flatMap escapeChar ++ '"' :: rest) = some (some cs, rest)
  | [] => by simp [readText]
  | c :: cs => by
    rw [List.flatMap_cons, List.append_assoc, readText_escapeChar, readText_escaped rest cs]
    rfl

theorem toList_textLiteral (s : String) :
    (textLiteral s).toList = '"' :: (s.toList.flatMap escapeChar ++ ['"']) := by
  simp [textLiteral]

theorem readText_textLiteral (s : String) (rest : List Char) :
    readText (s.toList.flatMap escapeChar ++ ['"'] ++ rest) = some (some s.toList, rest) := by
  rw [List.append_assoc]
  exact readText_escaped rest s.toList

/-! ## Numbers -/

/-- Whether a number ends in front of some characters: they are none, or
begin with a blank or with what may follow a value. -/
def Closes (cs : List Char) : Prop :=
  ∀ c ∈ cs.head?, isSpace c = true ∨ c = ',' ∨ c = ']' ∨ c = '\x7d'

theorem Closes.nil : Closes [] := fun _ h => by simp at h

theorem Closes.cons {c : Char} (hc : c = ',' ∨ c = ']' ∨ c = '\x7d') (cs : List Char) :
    Closes (c :: cs) := fun _ hd => by
  obtain rfl : c = _ := by simpa using hd
  exact Or.inr hc

theorem Closes.blank_append {b cs : List Char} (hb : Blank b) (hcs : Closes cs) :
    Closes (b ++ cs) := by
  cases b with
  | nil => exact hcs
  | cons c b =>
    intro d hd
    obtain rfl : c = d := by simpa using hd
    exact Or.inl (hb c List.mem_cons_self)

/-- What ends a number is no digit, no point and no letter. -/
theorem Closes.stops {c : Char} {cs : List Char} (h : Closes (c :: cs)) :
    Text.isDigit c = false ∧ c ≠ '.' ∧ c ≠ 'e' ∧ c ≠ 'E' := by
  have hc := h c (by simp)
  simp only [isSpace, Bool.or_eq_true, beq_iff_eq] at hc
  rcases hc with (((rfl | rfl) | rfl) | rfl) | rfl | rfl | rfl <;> decide

theorem readFraction_closes {cs : List Char} (h : Closes cs) : readFraction cs = some ([], cs) := by
  cases cs with
  | nil => rfl
  | cons c cs => simp [readFraction, h.stops]

theorem readExponent_closes {cs : List Char} (h : Closes cs) : readExponent cs = some ([], cs) := by
  cases cs with
  | nil => rfl
  | cons c cs => simp [readExponent, h.stops]

/-- Digits are read up to their end. -/
theorem readDigits_append {ds cs : List Char} (hne : ds ≠ [])
    (hds : ∀ c ∈ ds, Text.isDigit c = true) (h : Closes cs) :
    readDigits (ds ++ cs) = some (ds, cs) := by
  have htake : (ds ++ cs).takeWhile Text.isDigit = ds := by
    rw [List.takeWhile_append_of_pos hds]
    cases cs with
    | nil => simp
    | cons c cs => simp [h.stops]
  have hdrop : (ds ++ cs).dropWhile Text.isDigit = cs := by
    rw [List.dropWhile_append_of_pos hds]
    cases cs with
    | nil => rfl
    | cons c cs => simp [h.stops]
  rw [readDigits, List.span_eq_takeWhile_dropWhile, htake, hdrop]
  cases ds with
  | nil => exact absurd rfl hne
  | cons d ds => rfl

theorem readWhole_natText {n : Nat} {cs : List Char} (h : Closes cs) :
    readWhole ((Text.natText n).toList ++ cs) = some ((Text.natText n).toList, cs) := by
  by_cases hn : n = 0
  · subst hn
    rfl
  · have hzero := Text.head?_natText hn
    have hread := readDigits_append (Text.natText_ne_nil n)
      (fun _ hc => Text.isDigit_of_mem_natText hc) h
    obtain ⟨d, ds, hds⟩ := List.exists_cons_of_ne_nil (Text.natText_ne_nil n)
    rw [hds] at hzero hread ⊢
    have hd : d ≠ '0' := by simpa using hzero
    simpa [readWhole, hd] using hread

theorem readUnsigned_natText {n : Nat} {cs : List Char} (h : Closes cs) :
    readUnsigned ((Text.natText n).toList ++ cs) = some ((Text.natText n).toList, cs) := by
  simp [readUnsigned, readWhole_natText h, readFraction_closes h, readExponent_closes h]

/-- A whole number is read up to its end. -/
theorem readNumber_intText {k : Int} {cs : List Char} (h : Closes cs) :
    readNumber ((Text.intText k).toList ++ cs) = some ((Text.intText k).toList, cs) := by
  cases k with
  | ofNat n =>
    have hread : readUnsigned _ = _ := readUnsigned_natText (n := n) h
    have hdigit : ∀ c ∈ (Text.natText n).toList, Text.isDigit c = true :=
      fun _ hc => Text.isDigit_of_mem_natText hc
    obtain ⟨d, ds, hds⟩ := List.exists_cons_of_ne_nil (Text.natText_ne_nil n)
    rw [hds] at hread hdigit
    have hd : d ≠ '-' := by
      rintro rfl
      exact absurd (hdigit '-' List.mem_cons_self) (by decide)
    rw [Text.intText, hds]
    simpa [readNumber, hd] using hread
  | negSucc n => simp [Text.intText, readNumber, readUnsigned_natText h]

/-! ## Forms of a document -/

mutual

/-- The texts that are forms of a document, blanks between its parts
allowed. -/
inductive Layout : Document → List Char → Prop
  | null : Layout .null "null".toList
  | yes : Layout (.bool true) "true".toList
  | no : Layout (.bool false) "false".toList
  | number (k : Int) : Layout (.number k) (Text.intText k).toList
  | text (s : String) : Layout (.text s) (textLiteral s).toList
  | list {items : List Document} {cs : List Char} (h : Items items cs) :
    Layout (.list items) ('[' :: cs)
  | record {fields : List (String × Document)} {cs : List Char} (h : Fields fields cs) :
    Layout (.record fields) ('\x7b' :: cs)
  | variant {name : String} {content : Document} {cs : List Char} (h : Fields [(name, content)] cs) :
    Layout (.variant name content) ('\x7b' :: cs)

/-- The forms of the items of a list, the closing bracket included. -/
inductive Items : List Document → List Char → Prop
  | nil : Items [] [']']
  | last {d : Document} {b cs e : List Char} (hb : Blank b) (h : Layout d cs) (he : Blank e) :
    Items [d] (b ++ (cs ++ (e ++ [']'])))
  | cons {d : Document} {ds : List Document} {b cs e more : List Char} (hb : Blank b)
    (h : Layout d cs) (he : Blank e) (hds : ds ≠ []) (hmore : Items ds more) :
    Items (d :: ds) (b ++ (cs ++ (e ++ ',' :: more)))

/-- The forms of the fields of a record, the closing brace included. -/
inductive Fields : List (String × Document) → List Char → Prop
  | nil : Fields [] ['\x7d']
  | last {name : String} {d : Document} {b g cs e : List Char} (hb : Blank b) (hg : Blank g)
    (h : Layout d cs) (he : Blank e) :
    Fields [(name, d)] (b ++ ((textLiteral name).toList ++ ':' :: (g ++ (cs ++ (e ++ ['\x7d'])))))
  | cons {name : String} {d : Document} {fields : List (String × Document)}
    {b g cs e more : List Char} (hb : Blank b) (hg : Blank g) (h : Layout d cs) (he : Blank e)
    (hfields : fields ≠ []) (hmore : Fields fields more) :
    Fields ((name, d) :: fields)
      (b ++ ((textLiteral name).toList ++ ':' :: (g ++ (cs ++ (e ++ ',' :: more)))))

end

/-- What no number begins with: brackets and marks, and the letters of the
other scalars. -/
def otherStarts : List Char := [']', '"', '[', '\x7b', 'n', 't', 'f']

/-- A number begins like no other value. -/
theorem intText_head (k : Int) : ∃ c rest, (Text.intText k).toList = c :: rest ∧
    isSpace c = false ∧ c ∉ otherStarts := by
  cases k with
  | ofNat n =>
    obtain ⟨c, rest, hcs⟩ := List.exists_cons_of_ne_nil (Text.natText_ne_nil n)
    have hdigit : Text.isDigit c = true := Text.isDigit_of_mem_natText (n := n) (by simp [hcs])
    refine ⟨c, rest, hcs, Bool.eq_false_iff.2 fun hspace => ?_, fun hother => ?_⟩
    · simp only [isSpace, Bool.or_eq_true, beq_iff_eq] at hspace
      rcases hspace with ((rfl | rfl) | rfl) | rfl <;> exact absurd hdigit (by decide)
    · have hno : otherStarts.all (fun d => !Text.isDigit d) = true := rfl
      have hc := List.all_eq_true.1 hno c hother
      simp [hdigit] at hc
  | negSucc n =>
    exact ⟨'-', _, by rw [Text.intText, String.toList_append]; rfl, rfl, by decide⟩

/-- A form does not begin with a blank or with a bracket that closes. -/
theorem Layout.head {d : Document} {cs : List Char} (h : Layout d cs) :
    ∃ c rest, cs = c :: rest ∧ isSpace c = false ∧ c ≠ ']' := by
  cases h with
  | number k =>
    obtain ⟨c, rest, hcs, hspace, hother⟩ := intText_head k
    exact ⟨c, rest, hcs, hspace, fun h => hother (h ▸ List.mem_cons_self)⟩
  | text s => exact ⟨'"', _, toList_textLiteral s, rfl, by decide⟩
  | _ => exact ⟨_, _, rfl, rfl, by decide⟩

theorem Layout.length_pos {d : Document} {cs : List Char} (h : Layout d cs) : 0 < cs.length := by
  obtain ⟨c, rest, rfl, -⟩ := h.head
  exact Nat.succ_pos _

/-! ## Reading forms -/

/-- A number is read as the scalar it is. -/
theorem readValue_number (k : Int) {n : Nat} {rest : List Char} (hrest : Closes rest) :
    readValue (n + 1) ((Text.intText k).toList ++ rest) =
      some (.number (Text.intText k), rest) := by
  have hread := readNumber_intText (k := k) hrest
  obtain ⟨c, cs, hcs, hspace, hother⟩ := intText_head k
  simp only [otherStarts, List.mem_cons, List.not_mem_nil, or_false, not_or] at hother
  rw [hcs] at hread ⊢
  rw [List.cons_append] at hread ⊢
  rw [readValue, skipSpace_cons hspace]
  have hscalar : readScalar (c :: (cs ++ rest)) = some (.number (Text.intText k), rest) := by
    simp [readScalar, hread, hother, eq_comm (b := c), ← hcs]
  simp [hother, hscalar]

/-- A text is read up to its closing mark. -/
theorem readValue_textLiteral (s : String) (n : Nat) (rest : List Char) :
    readValue (n + 1) ((textLiteral s).toList ++ rest) = some (.text (some s), rest) := by
  have hskip : skipSpace ((textLiteral s).toList ++ rest) =
      '"' :: (s.toList.flatMap escapeChar ++ ['"'] ++ rest) := by
    rw [toList_textLiteral]
    rfl
  rw [readValue, hskip]
  simp only [readText_textLiteral, Option.map_some, String.ofList_toList]

/-- One item: a bracket behind it ends the list, a comma goes on with it. -/
theorem readItems_item {d : Document} {b cs e more : List Char} {c : Char} {n : Nat}
    {mayClose : Bool} (hb : Blank b) (h : Layout d cs) (he : Blank e)
    (hread : ∀ rest, Closes rest → readValue n (cs ++ rest) = some (d.tree, rest))
    (hc : c = ']' ∨ c = ',') :
    readItems (n + 1) mayClose (b ++ (cs ++ (e ++ c :: more))) =
      if c = ']' then some ([d.tree], more)
      else (readItems n false more).map fun p => (d.tree :: p.1, p.2) := by
  have hcloses : Closes (c :: more) := Closes.cons (hc.elim (.inr <| .inl ·) .inl) more
  have hitem := hread (e ++ c :: more) (hcloses.blank_append he)
  obtain ⟨start, r, rfl, hspace, hclose⟩ := h.head
  rw [List.cons_append] at hitem ⊢
  rw [readItems, skipSpace_append hb, skipSpace_cons hspace]
  rcases hc with rfl | rfl
  · simp [hclose, hitem, skipSpace_append he, skipSpace_cons (c := ']') rfl]
  · simp [hclose, hitem, skipSpace_append he, skipSpace_cons (c := ',') rfl]

/-- One field: a brace behind it ends the record, a comma goes on with it. -/
theorem readFields_field {name : String} {d : Document} {b g cs e more : List Char} {c : Char}
    {n : Nat} {mayClose : Bool} (hb : Blank b) (hg : Blank g) (he : Blank e)
    (hread : ∀ rest, Closes rest → readValue n (cs ++ rest) = some (d.tree, rest))
    (hc : c = '\x7d' ∨ c = ',') :
    readFields (n + 1) mayClose
        (b ++ ((textLiteral name).toList ++ ':' :: (g ++ (cs ++ (e ++ c :: more))))) =
      if c = '\x7d' then some ([(some name, d.tree)], more)
      else (readFields n false more).map fun p => ((some name, d.tree) :: p.1, p.2) := by
  have hcloses : Closes (c :: more) := Closes.cons (hc.elim (.inr <| .inr ·) .inl) more
  have hvalue : readValue n (g ++ (cs ++ (e ++ c :: more))) = some (d.tree, e ++ c :: more) := by
    rw [← readValue_skipSpace, skipSpace_append hg, readValue_skipSpace,
      hread _ (hcloses.blank_append he)]
  rw [readFields, skipSpace_append hb, toList_textLiteral, List.cons_append, skipSpace_cons rfl]
  rcases hc with rfl | rfl
  · simp [readText_escaped, skipSpace_cons (c := ':') rfl, hvalue, skipSpace_append he,
      skipSpace_cons (c := '\x7d') rfl]
  · simp [readText_escaped, skipSpace_cons (c := ':') rfl, hvalue, skipSpace_append he,
      skipSpace_cons (c := ',') rfl]

mutual

/-- **A form of a document is read as that document, and reading stops
where the form ends.** Every character adds two to the depth that is
enough: one for a value and one for the list or record it opens. -/
theorem readValue_layout : ∀ {d : Document} {cs : List Char}, Layout d cs →
    ∀ {n : Nat} (rest : List Char), 2 * cs.length ≤ n + 1 → Closes rest →
      readValue (n + 1) (cs ++ rest) = some (d.tree, rest)
  | _, _, .null, _, _, _, _ => rfl
  | _, _, .yes, _, _, _, _ => rfl
  | _, _, .no, _, _, _, _ => rfl
  | _, _, .number k, _, _, _, hrest => readValue_number k hrest
  | _, _, .text s, n, rest, _, _ => readValue_textLiteral s n rest
  | _, _, .list h, n, rest, hn, _ => by
    have hread := readItems_layout h (n := n) true rest (by simp at hn; omega) fun _ => rfl
    rw [List.cons_append, readValue, skipSpace_cons rfl]
    simp [hread, Document.tree]
  | _, _, .record h, n, rest, hn, _ => by
    have hread := readFields_layout h (n := n) true rest (by simp at hn; omega) fun _ => rfl
    rw [List.cons_append, readValue, skipSpace_cons rfl]
    simp [hread, Document.tree]
  | _, _, .variant h, n, rest, hn, _ => by
    have hread := readFields_layout h (n := n) true rest (by simp at hn; omega) fun _ => rfl
    rw [List.cons_append, readValue, skipSpace_cons rfl]
    simp [hread, Document.tree, Document.fieldTrees]

theorem readItems_layout : ∀ {items : List Document} {cs : List Char}, Items items cs →
    ∀ {n : Nat} (mayClose : Bool) (rest : List Char), 2 * cs.length ≤ n + 1 →
      (items = [] → mayClose = true) →
      readItems n mayClose (cs ++ rest) = some (Document.trees items, rest)
  | _, _, .nil, n, _, _, hn, hclose => by
    obtain ⟨n, rfl⟩ : ∃ m, n = m + 1 := ⟨n - 1, by simp at hn; omega⟩
    rw [hclose rfl, List.cons_append, readItems, skipSpace_cons rfl]
    rfl
  | _, _, .last hb h he, n, _, rest, hn, _ => by
    simp only [List.length_append, List.length_singleton] at hn
    obtain ⟨n, rfl⟩ : ∃ m, n = m + 2 := ⟨n - 2, by have := h.length_pos; omega⟩
    have hread := fun rest => readValue_layout h (n := n) rest (by omega)
    simp only [List.append_assoc, List.cons_append, List.nil_append]
    rw [readItems_item hb h he hread (.inl rfl), if_pos rfl]
    rfl
  | _, _, .cons hb h he hds hmore, n, _, rest, hn, _ => by
    simp only [List.length_append, List.length_cons] at hn
    obtain ⟨n, rfl⟩ : ∃ m, n = m + 2 := ⟨n - 2, by have := h.length_pos; omega⟩
    have hread := fun rest => readValue_layout h (n := n) rest (by omega)
    have hitems := readItems_layout hmore (n := n + 1) false rest (by omega)
      fun hnil => absurd hnil hds
    simp only [List.append_assoc, List.cons_append]
    rw [readItems_item hb h he hread (.inr rfl), if_neg (by decide), hitems]
    rfl

theorem readFields_layout : ∀ {fields : List (String × Document)} {cs : List Char},
    Fields fields cs → ∀ {n : Nat} (mayClose : Bool) (rest : List Char),
      2 * cs.length ≤ n + 1 → (fields = [] → mayClose = true) →
      readFields n mayClose (cs ++ rest) = some (Document.fieldTrees fields, rest)
  | _, _, .nil, n, _, _, hn, hclose => by
    obtain ⟨n, rfl⟩ : ∃ m, n = m + 1 := ⟨n - 1, by simp at hn; omega⟩
    rw [hclose rfl, List.cons_append, readFields, skipSpace_cons rfl]
    rfl
  | _, _, .last hb hg h he, n, _, rest, hn, _ => by
    simp only [List.length_append, List.length_cons] at hn
    obtain ⟨n, rfl⟩ : ∃ m, n = m + 2 := ⟨n - 2, by have := h.length_pos; omega⟩
    have hread := fun rest => readValue_layout h (n := n) rest (by omega)
    simp only [List.append_assoc, List.cons_append, List.nil_append]
    rw [readFields_field hb hg he hread (.inl rfl), if_pos rfl]
    rfl
  | _, _, .cons hb hg h he hfields hmore, n, _, rest, hn, _ => by
    simp only [List.length_append, List.length_cons] at hn
    obtain ⟨n, rfl⟩ : ∃ m, n = m + 2 := ⟨n - 2, by have := h.length_pos; omega⟩
    have hread := fun rest => readValue_layout h (n := n) rest (by omega)
    have hmore := readFields_layout hmore (n := n + 1) false rest (by omega)
      fun hnil => absurd hnil hfields
    simp only [List.append_assoc, List.cons_append]
    rw [readFields_field hb hg he hread (.inr rfl), if_neg (by decide), hmore]
    rfl

end

/-- **A form with blanks around it is read as its document.** -/
theorem read?_layout {d : Document} {cs b e : List Char} (hb : Blank b) (h : Layout d cs)
    (he : Blank e) : read? (String.ofList (b ++ (cs ++ e))) = some d.tree := by
  have hread := readValue_layout h (n := 2 * (b ++ (cs ++ e)).length + 1) e
    (by simp only [List.length_append]; omega)
    (by simpa using Closes.blank_append he Closes.nil)
  have hend : skipSpace e = [] := by
    simpa [skipSpace] using skipSpace_append he []
  rw [← readValue_skipSpace, ← skipSpace_append hb, readValue_skipSpace] at hread
  rw [read?, String.toList_ofList]
  simp only [hread, hend]
  rfl

/-! ## What is written is a form -/

/-- The forms of a field: its name, a colon, and its value. -/
def FieldLayout (f : String × Document) (cs : List Char) : Prop :=
  ∃ g v, Blank g ∧ Layout f.2 v ∧ cs = (textLiteral f.1).toList ++ ':' :: (g ++ v)

/-- Forms of items with commas and blanks between them. -/
theorem Items.joined {sep : String} {g e : List Char} (hsep : sep.toList = ',' :: g)
    (hg : Blank g) (he : Blank e) {ds : List Document} {ts : List String}
    (h : List.Forall₂ (fun d t => Layout d t.toList) ds ts) (hds : ds ≠ []) :
    ∀ {b : List Char}, Blank b →
      Items ds (b ++ ((Text.joinWith sep ts).toList ++ (e ++ [']']))) := by
  induction h with
  | nil => exact absurd rfl hds
  | @cons d t ds ts hd hrest ih =>
    intro b hb
    cases hrest with
    | nil => exact Items.last hb hd he
    | cons hd' hrest' =>
      rw [Text.joinWith_cons _ _ (List.cons_ne_nil _ _)]
      have hmore := Items.cons hb hd Blank.nil (List.cons_ne_nil _ _)
        (ih (List.cons_ne_nil _ _) hg)
      simpa [hsep] using hmore

/-- Forms of fields with commas and blanks between them. -/
theorem Fields.joined {sep : String} {g e : List Char} (hsep : sep.toList = ',' :: g)
    (hg : Blank g) (he : Blank e) {fields : List (String × Document)} {ts : List String}
    (h : List.Forall₂ (fun f t => FieldLayout f t.toList) fields ts) (hfields : fields ≠ []) :
    ∀ {b : List Char}, Blank b →
      Fields fields (b ++ ((Text.joinWith sep ts).toList ++ (e ++ ['\x7d']))) := by
  induction h with
  | nil => exact absurd rfl hfields
  | @cons f t fields ts hf hrest ih =>
    intro b hb
    obtain ⟨g', v, hg', hv, ht⟩ := hf
    cases hrest with
    | nil =>
      have hlast : Fields [(f.1, f.2)] _ := Fields.last hb hg' hv he
      simpa [Text.joinWith, ht] using hlast
    | cons hf' hrest' =>
      rw [Text.joinWith_cons _ _ (List.cons_ne_nil _ _)]
      have hmore : Fields ((f.1, f.2) :: _) _ :=
        Fields.cons hb hg' hv Blank.nil (List.cons_ne_nil _ _) (ih (List.cons_ne_nil _ _) hg)
      simpa [hsep, ht] using hmore

/-! ### On one line -/

/-- Items on one line, the closing bracket included. -/
theorem Items.oneLine {ds : List Document} {ts : List String}
    (h : List.Forall₂ (fun d t => Layout d t.toList) ds ts) :
    Items ds ((Text.joinWith "," ts).toList ++ [']']) := by
  by_cases hds : ds = []
  · subst hds
    cases h
    exact Items.nil
  · exact Items.joined (g := []) (e := []) rfl Blank.nil Blank.nil h hds Blank.nil

/-- Fields on one line, the closing brace included. -/
theorem Fields.oneLine {fields : List (String × Document)} {ts : List String}
    (h : List.Forall₂ (fun f t => FieldLayout f t.toList) fields ts) :
    Fields fields ((Text.joinWith "," ts).toList ++ ['\x7d']) := by
  by_cases hfields : fields = []
  · subst hfields
    cases h
    exact Fields.nil
  · exact Fields.joined (g := []) (e := []) rfl Blank.nil Blank.nil h hfields Blank.nil

mutual

/-- What is written on one line is a form. -/
theorem layout_compact : ∀ d : Document, Layout d (compact d).toList
  | .null => .null
  | .bool true => .yes
  | .bool false => .no
  | .number k => .number k
  | .text s => .text s
  | .list items => by
    simpa [compact] using Layout.list (Items.oneLine (layouts_compactItems items))
  | .record fields => by
    simpa [compact] using Layout.record (Fields.oneLine (layouts_compactFields fields))
  | .variant name content => by
    have hfield : FieldLayout (name, content) (textLiteral name ++ ":" ++ compact content).toList :=
      ⟨[], _, Blank.nil, layout_compact content, by simp⟩
    simpa [compact, Text.joinWith] using
      Layout.variant (Fields.oneLine (.cons hfield .nil))

theorem layouts_compactItems : ∀ items : List Document,
    List.Forall₂ (fun d t => Layout d t.toList) items (compactItems items)
  | [] => .nil
  | d :: rest => .cons (layout_compact d) (layouts_compactItems rest)

theorem layouts_compactFields : ∀ fields : List (String × Document),
    List.Forall₂ (fun f t => FieldLayout f t.toList) fields (compactFields fields)
  | [] => .nil
  | (name, d) :: rest =>
    .cons ⟨[], _, Blank.nil, layout_compact d, by simp⟩ (layouts_compactFields rest)

end

/-- **What is written on one line is read back.** -/
theorem read?_compact (d : Document) : read? (compact d) = some d.tree := by
  simpa using read?_layout Blank.nil (layout_compact d) Blank.nil

/-! ### On several lines -/

/-- The end of a line and the blanks in front of the next. -/
def lineBreak (level : Nat) : List Char := '\n' :: List.replicate (2 * level) ' '

theorem blank_lineBreak (level : Nat) : Blank (lineBreak level) := by
  intro c hc
  rcases List.mem_cons.1 hc with rfl | hc
  · rfl
  · rw [List.eq_of_mem_replicate hc]
    rfl

/-- Pieces that all begin in one way are joined by what stands between
them then. -/
theorem joinWith_map_append (sep start : String) : ∀ {ts : List String}, ts ≠ [] →
    Text.joinWith sep (ts.map (start ++ ·)) = start ++ Text.joinWith (sep ++ start) ts
  | [], h => absurd rfl h
  | [t], _ => rfl
  | t :: t' :: ts, _ => by
    rw [List.map_cons, Text.joinWith_cons _ _ (by simp),
      Text.joinWith_cons _ _ (List.cons_ne_nil _ _),
      joinWith_map_append sep start (List.cons_ne_nil t' ts)]
    simp only [String.append_assoc]

/-- Entries between brackets as one text. -/
theorem toList_bracketed {level : Nat} {opening closing : String} {ts : List String}
    (hts : ts ≠ []) :
    (bracketed level opening closing ts).toList = opening.toList ++ (lineBreak (level + 1) ++
      ((Text.joinWith (String.ofList (',' :: lineBreak (level + 1))) ts).toList ++
        (lineBreak level ++ closing.toList))) := by
  have hsep : ",\n" ++ indentation (level + 1) = String.ofList (',' :: lineBreak (level + 1)) :=
    String.toList_inj.1 (by simp [indentation, lineBreak])
  rw [bracketed, joinWith_map_append _ _ hts, ← hsep]
  · simp [indentation, lineBreak]
  · exact hts

/-- Items over several lines. -/
theorem Layout.listOver (level : Nat) {ds : List Document} {ts : List String}
    (h : List.Forall₂ (fun d t => Layout d t.toList) ds ts) :
    Layout (.list ds) (bracketed level "[" "]" ts).toList := by
  by_cases hds : ds = []
  · subst hds
    cases h
    simpa [bracketed] using Layout.list Items.nil
  · have hts : ts ≠ [] := by
      rintro rfl
      cases h
      exact hds rfl
    rw [toList_bracketed hts]
    exact Layout.list (Items.joined String.toList_ofList (blank_lineBreak _) (blank_lineBreak _) h
      hds (blank_lineBreak _))

/-- Fields over several lines. -/
theorem Fields.over (level : Nat) {fields : List (String × Document)} {ts : List String}
    (h : List.Forall₂ (fun f t => FieldLayout f t.toList) fields ts) :
    ∃ cs, (bracketed level "\x7b" "\x7d" ts).toList = '\x7b' :: cs ∧ Fields fields cs := by
  by_cases hfields : fields = []
  · subst hfields
    cases h
    exact ⟨['\x7d'], by simp [bracketed], Fields.nil⟩
  · have hts : ts ≠ [] := by
      rintro rfl
      cases h
      exact hfields rfl
    rw [toList_bracketed hts]
    exact ⟨_, rfl, Fields.joined String.toList_ofList (blank_lineBreak _) (blank_lineBreak _) h
      hfields (blank_lineBreak _)⟩

/-- A field over several lines: one blank follows the colon. -/
theorem fieldLayout_pretty {level : Nat} {name : String} {d : Document}
    (h : Layout d (prettyAt level d).toList) :
    FieldLayout (name, d) (textLiteral name ++ ": " ++ prettyAt level d).toList :=
  ⟨[' '], _, by simp [Blank, isSpace], h, by simp⟩

mutual

/-- What is written over several lines is a form. -/
theorem layout_prettyAt : ∀ (d : Document) (level : Nat), Layout d (prettyAt level d).toList
  | .null, _ => .null
  | .bool true, _ => .yes
  | .bool false, _ => .no
  | .number k, _ => .number k
  | .text s, _ => .text s
  | .list items, level => Layout.listOver level (layouts_prettyItems items (level + 1))
  | .record fields, level => by
    obtain ⟨cs, hcs, h⟩ := Fields.over level (layouts_prettyFields fields (level + 1))
    rw [prettyAt, hcs]
    exact Layout.record h
  | .variant name content, level => by
    obtain ⟨cs, hcs, h⟩ :=
      Fields.over level (.cons (fieldLayout_pretty (layout_prettyAt content (level + 1))) .nil)
    rw [prettyAt, hcs]
    exact Layout.variant h

theorem layouts_prettyItems : ∀ (items : List Document) (level : Nat),
    List.Forall₂ (fun d t => Layout d t.toList) items (prettyItems level items)
  | [], _ => .nil
  | d :: rest, level => .cons (layout_prettyAt d level) (layouts_prettyItems rest level)

theorem layouts_prettyFields : ∀ (fields : List (String × Document)) (level : Nat),
    List.Forall₂ (fun f t => FieldLayout f t.toList) fields (prettyFields level fields)
  | [], _ => .nil
  | (_, d) :: rest, level =>
    .cons (fieldLayout_pretty (layout_prettyAt d level)) (layouts_prettyFields rest level)

end

/-- **What is written over several lines is read back.** -/
theorem read?_pretty (d : Document) : read? (pretty d) = some d.tree := by
  simpa [pretty] using read?_layout Blank.nil (layout_prettyAt d 0) Blank.nil

end Json

end RouteConvergence
