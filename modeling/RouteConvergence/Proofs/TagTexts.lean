/-
RouteConvergence.Proofs.TagTexts — the grammar of a tags annotation.

A tags annotation is a list of `key=value` separated by commas, with white
space wherever it may stand. It is trimmed as a whole, then piece by piece,
then on both sides of the equals sign; none of this is to be seen in what
the annotation says about its text as written:

* `AnnotatedRoute.listItems_trimmed?` — trimming the whole text first makes
  no difference to the pieces.
* `TagText.Binds`, `TagText.NoTag` — what one piece says, told of the piece
  as written; `TagText.Binds.splitOnce_trim` — the same told of the trimmed
  piece.
* `AnnotatedRoute.tagsOf_binds`, `tagsOf_blank`, `tagsOf_noTag` — one step
  of the reader for each kind of piece; `tagsOf_refused` and
  `tagsOf_accepted` for all of them.
* `AnnotatedRoute.tags_grammar` — what a tags annotation is refused for, what
  it says otherwise, and that a written map is read back.
-/
import RouteConvergence.Proofs.SourceForms

namespace RouteConvergence

/-! ## White space -/

namespace Text

/-- A text of white space alone. -/
def Blank (s : String) : Prop := ∀ c ∈ s.toList, isBlank c = true

instance : DecidablePred Blank := fun s => List.decidableBAll _ s.toList

theorem trim_blank_append {front : String} (h : Blank front) (s : String) :
    trim (front ++ s) = trim s := by
  rw [trim, String.toList_append, trimChars_blank_append h, trim]

theorem trim_append_blank {back : String} (h : Blank back) (s : String) :
    trim (s ++ back) = trim s := by
  rw [trim, String.toList_append, trimChars_append_blank h, trim]

/-- A text is its trimmed form with white space around it. -/
theorem exists_padding (s : String) :
    ∃ front back, s = front ++ trim s ++ back ∧ Blank front ∧ Blank back := by
  obtain ⟨front, back, hcs, hfront, hback⟩ := exists_trimChars s.toList
  refine ⟨String.ofList front, String.ofList back, ?_, ?_, ?_⟩
  · rw [← String.toList_inj]
    simpa [trim] using hcs
  · simpa [Blank] using hfront
  · simpa [Blank] using hback

theorem mem_trim_iff {s : String} {c : Char} (hc : isBlank c = false) :
    c ∈ (trim s).toList ↔ c ∈ s.toList := by
  rw [trim, String.toList_ofList, mem_trimChars_iff hc]

variable {sep : Char}

theorem not_mem_of_blank (hsep : isBlank sep = false) {s : String} (h : Blank s) :
    sep ∉ s.toList := by
  intro hmem
  rw [h sep hmem] at hsep
  cases hsep

/-- White space around some characters makes no difference to their pieces once
these are trimmed. -/
theorem map_trimChars_splitChars (hsep : isBlank sep = false) {front back : List Char}
    (hfront : ∀ c ∈ front, isBlank c = true) (hback : ∀ c ∈ back, isBlank c = true)
    (cs : List Char) :
    (splitChars sep (front ++ cs ++ back)).map trimChars = (splitChars sep cs).map trimChars := by
  have hnot : ∀ {blanks : List Char}, (∀ c ∈ blanks, isBlank c = true) → sep ∉ blanks := by
    intro blanks h hmem
    rw [h sep hmem] at hsep
    cases hsep
  obtain ⟨pieces, last, rfl, hfree⟩ := exists_pieces sep cs
  rw [splitChars_flatMap hfree]
  have hlast : sep ∉ last := hfree last (by simp)
  -- The white space in front belongs to the first piece, and that at the end to the last one.
  cases pieces with
  | nil =>
    rw [List.flatMap_nil, List.nil_append,
      splitChars_of_not_mem (by simp [hnot hfront, hlast, hnot hback])]
    simp [trimChars_append_blank hback, trimChars_blank_append hfront]
  | cons piece pieces =>
    have hpieces : ∀ p ∈ (front ++ piece) :: pieces ++ [last ++ back], sep ∉ p := by
      intro p hp
      simp only [List.cons_append, List.mem_cons, List.mem_append, List.not_mem_nil, or_false] at hp
      rcases hp with rfl | hp | rfl
      · simpa [hnot hfront] using hfree piece (by simp)
      · exact hfree p (by simp [hp])
      · simpa [hnot hback] using hlast
    have hsplit := splitChars_flatMap hpieces
    simp only [List.flatMap_cons, List.append_assoc] at hsplit ⊢
    rw [hsplit]
    simp [trimChars_append_blank hback, trimChars_blank_append hfront]

/-- **White space around a text** makes no difference to its trimmed pieces. -/
theorem map_trim_splitOn_trim (hsep : isBlank sep = false) (s : String) :
    (splitOn sep (trim s)).map trim = (splitOn sep s).map trim := by
  have hpieces : ∀ t : String, (splitOn sep t).map trim =
      ((splitChars sep t.toList).map trimChars).map String.ofList := by
    intro t
    simp [splitOn, trim, Function.comp_def]
  obtain ⟨front, back, hs, hfront, hback⟩ := exists_trimChars s.toList
  have hsame := map_trimChars_splitChars hsep hfront hback (trimChars s.toList)
  rw [← hs] at hsame
  rw [hpieces, hpieces, hsame, trim, String.toList_ofList]

end Text

/-! ## What a piece says -/

namespace TagText

/-- A piece is no tag if there is something in it, but no equals sign. -/
def NoTag (piece : String) : Prop := Text.trim piece ≠ "" ∧ '=' ∉ piece.toList

instance : DecidablePred NoTag := fun _ => inferInstanceAs (Decidable (_ ∧ _))

/-- **A piece binds a key to a value**: they stand before and after its first
equals sign, and white space around them does not count. -/
def Binds (piece key value : String) : Prop :=
  ∃ before after : String, piece.toList = before.toList ++ '=' :: after.toList ∧
    '=' ∉ before.toList ∧ Text.trim before = key ∧ Text.trim after = value

/-- **Of the pieces that bind a key the last one counts.** -/
def BindsLast (pieces : List String) (key value : String) : Prop :=
  ∃ earlier piece later, pieces = earlier ++ piece :: later ∧ Binds piece key value ∧
    ∀ other ∈ later, ∀ value', ¬ Binds other key value'

variable {piece key value key' value' : String} {pieces : List String}

theorem binds_iff : Binds piece key value ↔ ∃ before after,
    Text.splitOnce '=' piece = some (before, after) ∧ Text.trim before = key ∧
      Text.trim after = value := by
  simp only [Binds, Text.splitOnce_eq_some_iff, and_assoc]

theorem Binds.unique (h : Binds piece key value) (h' : Binds piece key' value') :
    key = key' ∧ value = value' := by
  obtain ⟨before, after, hcut, rfl, rfl⟩ := binds_iff.1 h
  obtain ⟨before', after', hcut', rfl, rfl⟩ := binds_iff.1 h'
  cases hcut.symm.trans hcut'
  exact ⟨rfl, rfl⟩

theorem Binds.mem (h : Binds piece key value) : '=' ∈ piece.toList := by
  obtain ⟨before, after, hpiece, -⟩ := h
  rw [hpiece]
  simp

theorem Binds.not_noTag (h : Binds piece key value) : ¬ NoTag piece := fun hno => hno.2 h.mem

theorem Binds.trim_ne (h : Binds piece key value) : Text.trim piece ≠ "" := by
  intro hblank
  exact Text.not_mem_of_blank rfl (Text.trim_eq_empty_iff.1 hblank) h.mem

/-- A piece is blank, no tag, or binds a key. -/
theorem exists_binds (hthere : Text.trim piece ≠ "") (htag : ¬ NoTag piece) :
    ∃ key value, Binds piece key value := by
  have hmem : '=' ∈ piece.toList := by
    by_contra hfree
    exact htag ⟨hthere, hfree⟩
  cases hcut : Text.splitOnce '=' piece with
  | none => exact absurd hmem (Text.splitOnce_eq_none_iff.1 hcut)
  | some parts => exact ⟨_, _, binds_iff.2 ⟨parts.1, parts.2, hcut, rfl, rfl⟩⟩

/-- Every piece is a tag or blank, or there is a first one that is not. -/
theorem forall_not_noTag_or_first (pieces : List String) : (∀ p ∈ pieces, ¬ NoTag p) ∨
    ∃ earlier piece later, pieces = earlier ++ piece :: later ∧ (∀ p ∈ earlier, ¬ NoTag p) ∧
      NoTag piece := by
  cases hfind : pieces.find? fun p => decide (NoTag p) with
  | none => exact Or.inl fun p hp => by simpa using List.find?_eq_none.1 hfind p hp
  | some piece =>
    obtain ⟨hno, earlier, later, hpieces, hearlier⟩ := List.find?_eq_some_iff_append.1 hfind
    exact Or.inr ⟨earlier, piece, later, hpieces, fun p hp => by simpa using hearlier p hp,
      of_decide_eq_true hno⟩

/-- **A trimmed piece says what the piece says**: the white space that was
trimmed would have been trimmed from its parts. -/
theorem Binds.splitOnce_trim (h : Binds piece key value) : ∃ before after,
    Text.splitOnce '=' (Text.trim piece) = some (before, after) ∧ Text.trim before = key ∧
      Text.trim after = value := by
  obtain ⟨front, back, hpiece, hfront, hback⟩ := Text.exists_padding piece
  cases hcut : Text.splitOnce '=' (Text.trim piece) with
  | none =>
    rw [Text.splitOnce_eq_none_iff, Text.mem_trim_iff rfl] at hcut
    exact absurd h.mem hcut
  | some parts =>
    obtain ⟨before, after⟩ := parts
    obtain ⟨htext, hfree⟩ := Text.splitOnce_eq_some_iff.1 hcut
    have hwhole : Binds piece (Text.trim before) (Text.trim after) := by
      refine ⟨front ++ before, after ++ back, ?_, ?_, ?_, ?_⟩
      · rw [hpiece]
        simp [htext]
      · have hblank : '=' ∉ front.toList := Text.not_mem_of_blank rfl hfront
        simp [hfree, hblank]
      · exact Text.trim_blank_append hfront before
      · exact Text.trim_append_blank hback after
    obtain ⟨rfl, rfl⟩ := hwhole.unique h
    exact ⟨before, after, rfl, rfl, rfl⟩

theorem not_bindsLast_nil : ¬ BindsLast [] key value := by
  rintro ⟨earlier, piece, later, hpieces, -⟩
  simp at hpieces

theorem bindsLast_cons_iff : BindsLast (piece :: pieces) key value ↔
    BindsLast pieces key value ∨
      (Binds piece key value ∧ ∀ other ∈ pieces, ∀ value', ¬ Binds other key value') := by
  constructor
  · rintro ⟨earlier, last, later, hpieces, hbinds, hlater⟩
    cases earlier with
    | nil =>
      obtain ⟨rfl, rfl⟩ := List.cons.inj hpieces
      exact Or.inr ⟨hbinds, hlater⟩
    | cons first earlier =>
      obtain ⟨-, rfl⟩ := List.cons.inj hpieces
      exact Or.inl ⟨earlier, last, later, rfl, hbinds, hlater⟩
  · rintro (⟨earlier, last, later, rfl, hbinds, hlater⟩ | ⟨hbinds, hlater⟩)
    · exact ⟨piece :: earlier, last, later, rfl, hbinds, hlater⟩
    · exact ⟨[], piece, pieces, rfl, hbinds, hlater⟩

end TagText

/-! ## The reader -/

namespace AnnotatedRoute

open TagText

variable {piece key value : String} {pieces : List String}

/-- **Trimming the whole text first** makes no difference to its items. -/
theorem listItems_trimmed? (raw : String) :
    listItems (trimmed? raw) = (Text.splitOn ',' raw).filterMap trimmed? := by
  have hitems : ∀ ps : List String, ps.filterMap trimmed? =
      (ps.map Text.trim).filterMap fun t => if t.isEmpty then none else some t := by
    intro ps
    rw [List.filterMap_map]
    rfl
  have hsame : listItems (trimmed? raw) =
      (Text.splitOn ',' (Text.trim raw)).filterMap trimmed? := by
    cases hraw : trimmed? raw with
    | none =>
      rw [trimmed?_eq_none_iff.1 hraw]
      rfl
    | some text =>
      rw [(trimmed?_eq_some_iff.1 hraw).1]
      rfl
  rw [hsame, hitems, hitems, Text.map_trim_splitOn_trim rfl]

/-! ### One piece -/

theorem tagsOf_blank (route : Reference) (tags : SortedMap String String)
    (h : Text.trim piece = "") :
    tagsOf route tags ((piece :: pieces).filterMap trimmed?) =
      tagsOf route tags (pieces.filterMap trimmed?) := by
  rw [List.filterMap_cons_none (trimmed?_eq_none_iff.2 h)]

theorem tagsOf_noTag (route : Reference) (tags : SortedMap String String) (h : NoTag piece) :
    tagsOf route tags ((piece :: pieces).filterMap trimmed?) =
      .error (.tagWithoutValue route (Text.trim piece)) := by
  have hcut : Text.splitOnce '=' (Text.trim piece) = none := by
    rw [Text.splitOnce_eq_none_iff, Text.mem_trim_iff rfl]
    exact h.2
  rw [List.filterMap_cons_some (trimmed?_eq_some_iff.2 ⟨rfl, h.1⟩), tagsOf, hcut]

theorem tagsOf_binds (route : Reference) (tags : SortedMap String String)
    (h : Binds piece key value) :
    tagsOf route tags ((piece :: pieces).filterMap trimmed?) =
      tagsOf route (tags.insert key value) (pieces.filterMap trimmed?) := by
  obtain ⟨before, after, hcut, rfl, rfl⟩ := h.splitOnce_trim
  rw [List.filterMap_cons_some (trimmed?_eq_some_iff.2 ⟨rfl, h.trim_ne⟩), tagsOf, hcut]

/-! ### All pieces -/

/-- The first piece that is no tag is complained about. -/
theorem tagsOf_refused (route : Reference) {earlier later : List String}
    (hearlier : ∀ p ∈ earlier, ¬ NoTag p) (h : NoTag piece) (tags : SortedMap String String) :
    tagsOf route tags ((earlier ++ piece :: later).filterMap trimmed?) =
      .error (.tagWithoutValue route (Text.trim piece)) := by
  induction earlier generalizing tags with
  | nil => exact tagsOf_noTag route tags h
  | cons first earlier ih =>
    have hrest := ih fun p hp => hearlier p (List.mem_cons_of_mem _ hp)
    rw [List.cons_append]
    by_cases hblank : Text.trim first = ""
    · rw [tagsOf_blank route tags hblank, hrest]
    · obtain ⟨key, value, hbinds⟩ := exists_binds hblank (hearlier first List.mem_cons_self)
      rw [tagsOf_binds route tags hbinds, hrest]

/-- **Without such a piece** every key has what the last piece to bind it says,
and the other keys keep what they had. -/
theorem tagsOf_accepted (route : Reference) (h : ∀ p ∈ pieces, ¬ NoTag p)
    (tags : SortedMap String String) :
    ∃ read, tagsOf route tags (pieces.filterMap trimmed?) = .ok read ∧
      ∀ key value, read.get? key = some value ↔ BindsLast pieces key value ∨
        (tags.get? key = some value ∧ ∀ p ∈ pieces, ∀ value', ¬ Binds p key value') := by
  induction pieces generalizing tags with
  | nil => exact ⟨tags, rfl, fun key value => by simp [not_bindsLast_nil]⟩
  | cons piece pieces ih =>
    have hrest := ih fun p hp => h p (List.mem_cons_of_mem _ hp)
    by_cases hblank : Text.trim piece = ""
    · obtain ⟨read, hread, hget⟩ := hrest tags
      refine ⟨read, (tagsOf_blank route tags hblank).trans hread, fun key value => ?_⟩
      have hnot : ∀ value', ¬ Binds piece key value' := fun value' hb => hb.trim_ne hblank
      simp [hget, bindsLast_cons_iff, hnot]
    · obtain ⟨key, value, hbinds⟩ := exists_binds hblank (h piece List.mem_cons_self)
      obtain ⟨read, hread, hget⟩ := hrest (tags.insert key value)
      refine ⟨read, (tagsOf_binds route tags hbinds).trans hread, fun key' value' => ?_⟩
      rw [hget, bindsLast_cons_iff, or_assoc]
      refine or_congr_right ?_
      by_cases hkey : key' = key
      · subst hkey
        -- The piece overrides what was there, unless a later one overrides it.
        have hsame : ∀ v, Binds piece key' v ↔ v = value :=
          fun v => ⟨fun hb => (hb.unique hbinds).2, fun hv => hv ▸ hbinds⟩
        simp [hsame, eq_comm]
      · have hnot : ∀ v, ¬ Binds piece key' v := fun v hb => hkey (hb.unique hbinds).1
        rw [SortedMap.get?_insert_ne _ _ hkey]
        simp [hnot]

/-! ## The normal form -/

/-- An object with another tags annotation. -/
def withTags (r : AnnotatedRoute) (raw : String) : AnnotatedRoute :=
  { r with annotations := r.annotations.insert AnnotationKey.tags.text raw }

/-- An object without a tags annotation. -/
def withoutTags (r : AnnotatedRoute) : AnnotatedRoute :=
  { r with annotations := r.annotations.erase AnnotationKey.tags.text }

variable {r : AnnotatedRoute} {base : Descriptor}

theorem option?_withTags (raw : String) (key' : AnnotationKey) :
    (r.withTags raw).option? key' =
      if key' = .tags then trimmed? raw else r.withoutTags.option? key' := by
  unfold option? withTags withoutTags
  by_cases hkey : key' = .tags
  · subst hkey
    simp
  · have hne := mt AnnotationKey.text_inj.1 hkey
    rw [if_neg hkey, SortedMap.get?_insert_ne _ _ hne, SortedMap.get?_erase_ne _ hne]

/-- **The tags are the last annotation to be read**, and nothing else depends on
them. -/
theorem normalize_withTags (hbase : r.withoutTags.normalize = .ok base) (raw : String) :
    (r.withTags raw).normalize =
      match tagsOf r.reference .empty ((Text.splitOn ',' raw).filterMap trimmed?) with
      | .ok tags => .ok { base with tags := tags }
      | .error refusal => .error (.refused refusal) := by
  have hretired : (r.withTags raw).annotations.contains AnnotationKey.retiredEdgeFunction.text =
      r.withoutTags.annotations.contains AnnotationKey.retiredEdgeFunction.text := by
    have hne : AnnotationKey.retiredEdgeFunction.text ≠ AnnotationKey.tags.text := by decide
    rw [SortedMap.contains, withTags, SortedMap.get?_insert_ne _ _ hne, SortedMap.contains,
      withoutTags, SortedMap.get?_erase_ne _ hne]
  have hnone : r.withoutTags.option? .tags = none := by
    rw [option?, withoutTags, SortedMap.get?_erase_self]
    rfl
  rw [← listItems_trimmed?]
  unfold normalize at hbase ⊢
  rw [hretired]
  cases hthere : r.withoutTags.annotations.contains AnnotationKey.retiredEdgeFunction.text with
  | true =>
    rw [hthere] at hbase
    cases hbase
  | false =>
    rw [hthere] at hbase
    cases hgroup : r.withoutTags.option? .group with
    | none =>
      rw [hgroup] at hbase
      cases hbase
    | some group =>
      rw [hgroup] at hbase
      have hreference : (r.withTags raw).reference = r.reference := rfl
      have hreference' : r.withoutTags.reference = r.reference := rfl
      simp only [normalizeIn, hnone, hreference', Bool.false_eq_true, if_false] at hbase
      simp only [normalizeIn, option?_withTags, reduceCtorEq, if_false, if_true, hgroup, hreference,
        Bool.false_eq_true]
      cases htimeout : timeoutOf r.reference (r.withoutTags.option? .originResponseTimeout) with
      | error refusal =>
        rw [htimeout] at hbase
        cases hbase
      | ok timeout =>
        rw [htimeout] at hbase
        cases hfunctions : edgeFunctionsOf r.reference (r.withoutTags.option? .edgeFunctions) with
        | error refusal =>
          rw [hfunctions] at hbase
          cases hbase
        | ok functions =>
          rw [hfunctions] at hbase
          cases hbase
          cases tagsOf r.reference .empty (listItems (trimmed? raw)) <;> rfl

end AnnotatedRoute

/-! ## Written tags -/

/-- One tag as it is written, with white space wherever it may stand. -/
structure WrittenTag where
  key : String
  value : String
  beforeKey : String
  afterKey : String
  beforeValue : String
  afterValue : String
  blank : Text.Blank beforeKey ∧ Text.Blank afterKey ∧ Text.Blank beforeValue ∧
    Text.Blank afterValue

namespace WrittenTag

def entry (t : WrittenTag) : String × String := (t.key, t.value)

def text (t : WrittenTag) : String :=
  t.beforeKey ++ t.key ++ t.afterKey ++ "=" ++ (t.beforeValue ++ t.value ++ t.afterValue)

/-- A tag that can be written: neither part is padded, the key holds neither
mark, and the value no comma. -/
structure Writable (key value : String) : Prop where
  key_trimmed : Text.trim key = key
  value_trimmed : Text.trim value = value
  key_plain : ',' ∉ key.toList ∧ '=' ∉ key.toList
  value_plain : ',' ∉ value.toList

variable {t : WrittenTag} {key value : String}

open TagText

theorem comma_not_mem_text (h : Writable t.key t.value) : ',' ∉ t.text.toList := by
  obtain ⟨hbefore, hafter, hbefore', hafter'⟩ := t.blank
  have hnot : ∀ {s : String}, Text.Blank s → ',' ∉ s.toList := Text.not_mem_of_blank rfl
  simp [text, hnot hbefore, hnot hafter, hnot hbefore', hnot hafter', h.key_plain.1, h.value_plain]

/-- A written tag binds its key to its value, and nothing else. -/
theorem binds_text (h : Writable t.key t.value) : Binds t.text t.key t.value := by
  obtain ⟨hbefore, hafter, hbefore', hafter'⟩ := t.blank
  refine ⟨t.beforeKey ++ t.key ++ t.afterKey, t.beforeValue ++ t.value ++ t.afterValue, ?_, ?_,
    ?_, ?_⟩
  · simp [text]
  · have hnot : ∀ {s : String}, Text.Blank s → '=' ∉ s.toList := Text.not_mem_of_blank rfl
    simp [hnot hbefore, hnot hafter, h.key_plain.2]
  · rw [Text.trim_append_blank hafter, Text.trim_blank_append hbefore, h.key_trimmed]
  · rw [Text.trim_append_blank hafter', Text.trim_blank_append hbefore', h.value_trimmed]

/-- Where no key is written twice, the last piece to bind a key is the only
one. -/
theorem bindsLast_iff {written : List WrittenTag} (h : ∀ t ∈ written, Writable t.key t.value)
    (hkeys : (written.map (·.key)).Nodup) :
    BindsLast (written.map text) key value ↔ (key, value) ∈ written.map entry := by
  constructor
  · rintro ⟨earlier, piece, later, hpieces, hbinds, -⟩
    have hpiece : piece ∈ written.map text := by simp [hpieces]
    obtain ⟨t, ht, rfl⟩ := List.mem_map.1 hpiece
    obtain ⟨rfl, rfl⟩ := hbinds.unique (binds_text (h t ht))
    exact List.mem_map.2 ⟨t, ht, rfl⟩
  · intro hmem
    obtain ⟨t, ht, hentry⟩ := List.mem_map.1 hmem
    obtain ⟨rfl, rfl⟩ := Prod.mk.inj hentry
    obtain ⟨earlier, later, rfl⟩ := List.append_of_mem ht
    refine ⟨earlier.map text, t.text, later.map text, by simp, binds_text (h t ht), ?_⟩
    intro other hother value' hbinds
    obtain ⟨t', ht', rfl⟩ := List.mem_map.1 hother
    have hkey : t'.key = t.key :=
      ((binds_text (h t' (by simp [ht']))).unique hbinds).1
    rw [List.map_append, List.map_cons, List.nodup_append, List.nodup_cons] at hkeys
    exact hkeys.2.1.1 (List.mem_map.2 ⟨t', ht', hkey⟩)

end WrittenTag

/-! ## The grammar -/

namespace AnnotatedRoute

open TagText

/-- What comes of an object with some tags annotation, told by the pieces of the
annotation as they are written. -/
structure TagsRead (route : Reference) (base : Descriptor) (raw : String)
    (outcome : Outcome Descriptor) : Prop where
  refused_iff : (∃ failure, outcome = .error failure) ↔
    ∃ piece ∈ Text.splitOn ',' raw, NoTag piece
  /-- The first piece that is no tag is the one that is complained about. -/
  refusal : ∀ failure, outcome = .error failure → ∃ earlier piece later,
    Text.splitOn ',' raw = earlier ++ piece :: later ∧ (∀ p ∈ earlier, ¬ NoTag p) ∧
      NoTag piece ∧ failure = .refused (.tagWithoutValue route (Text.trim piece))
  accepted : ∀ d, outcome = .ok d → d = { base with tags := d.tags } ∧
    ∀ key value, d.tags.get? key = some value ↔ BindsLast (Text.splitOn ',' raw) key value

variable {r : AnnotatedRoute} {base : Descriptor}

theorem tagsRead (hbase : r.withoutTags.normalize = .ok base) (raw : String) :
    TagsRead r.reference base raw (r.withTags raw).normalize := by
  rw [normalize_withTags hbase]
  rcases forall_not_noTag_or_first (Text.splitOn ',' raw) with
    hnone | ⟨earlier, piece, later, hpieces, hearlier, hno⟩
  · obtain ⟨read, hread, hget⟩ := tagsOf_accepted r.reference hnone .empty
    rw [hread]
    refine ⟨⟨nofun, ?_⟩, nofun, ?_⟩
    · rintro ⟨piece, hpiece, hno⟩
      exact absurd hno (hnone piece hpiece)
    · intro d hd
      cases hd
      exact ⟨rfl, fun key value => by simp [hget]⟩
  · rw [hpieces, tagsOf_refused r.reference hearlier hno]
    refine ⟨⟨fun _ => ⟨piece, by simp [hpieces], hno⟩, fun _ => ⟨_, rfl⟩⟩, ?_, nofun⟩
    intro failure hfailure
    cases hfailure
    exact ⟨earlier, piece, later, hpieces, hearlier, hno, rfl⟩

/-- The pieces of some written tags are these tags; without tags there is one
blank piece. -/
theorem splitOn_written {written : List WrittenTag}
    (h : ∀ t ∈ written, WrittenTag.Writable t.key t.value) :
    Text.splitOn ',' (Text.joinWith "," (written.map (·.text))) =
      if written = [] then [""] else written.map (·.text) := by
  split
  · next hnil =>
    rw [hnil]
    rfl
  · next hsome =>
    refine Text.splitOn_joinWith (by simpa using hsome) fun piece hpiece => ?_
    obtain ⟨t, ht, rfl⟩ := List.mem_map.1 hpiece
    exact WrittenTag.comma_not_mem_text (h t ht)

/-- **Written tags are read back**, in whatever order they are written. -/
theorem normalize_written (hbase : r.withoutTags.normalize = .ok base)
    (tags : SortedMap String String) (written : List WrittenTag)
    (hwritable : ∀ key value, tags.get? key = some value → WrittenTag.Writable key value)
    (hentries : (written.map (·.entry)).Perm tags.entries) :
    (r.withTags (Text.joinWith "," (written.map (·.text)))).normalize =
      .ok { base with tags := tags } := by
  have hget : ∀ key value, tags.get? key = some value ↔
      (key, value) ∈ written.map (·.entry) := fun key value => by
    rw [hentries.mem_iff, SortedMap.get?_eq_some_iff]
  have hall : ∀ t ∈ written, WrittenTag.Writable t.key t.value := fun t ht =>
    hwritable _ _ ((hget _ _).2 (List.mem_map.2 ⟨t, ht, rfl⟩))
  have hkeys : (written.map (·.key)).Nodup := by
    have hperm : (written.map (·.key)).Perm tags.keys := by
      simpa [SortedMap.keys, Function.comp_def, WrittenTag.entry] using hentries.map (·.1)
    exact hperm.nodup_iff.2 tags.keys_nodup
  have hread := tagsRead hbase (Text.joinWith "," (written.map (·.text)))
  have hpieces := splitOn_written hall
  have hblank : ∀ {key value}, ¬ Binds "" key value := fun hb => hb.trim_ne rfl
  cases houtcome : (r.withTags (Text.joinWith "," (written.map (·.text)))).normalize with
  | error failure =>
    obtain ⟨piece, hpiece, hno⟩ := hread.refused_iff.1 ⟨failure, houtcome⟩
    rw [hpieces] at hpiece
    split at hpiece
    · rw [List.mem_singleton.1 hpiece] at hno
      exact absurd rfl hno.1
    · obtain ⟨t, ht, rfl⟩ := List.mem_map.1 hpiece
      exact absurd hno (WrittenTag.binds_text (hall t ht)).not_noTag
  | ok d =>
    obtain ⟨hd, hbinds⟩ := hread.accepted d houtcome
    have htags : d.tags = tags := by
      refine SortedMap.ext_get? fun key => Option.ext fun value => ?_
      rw [hbinds, hget, hpieces]
      split
      · next hnil => simp [hnil, bindsLast_cons_iff, not_bindsLast_nil, hblank]
      · exact WrittenTag.bindsLast_iff hall hkeys
    rw [hd, htags]

/-- **The grammar of a tags annotation.** Of an object whose other annotations are
in order, and for every text: it is refused exactly if some piece between
commas is not blank and holds no equals sign, and then for the first such
piece; otherwise its tags are what the pieces bind, the last one to bind a
key counting, and all else is as without tags. A map whose keys and values can
be written is read back from every way to write it. -/
theorem tags_grammar (r : AnnotatedRoute) (base : Descriptor)
    (hbase : r.withoutTags.normalize = .ok base) :
    (∀ raw, TagsRead r.reference base raw (r.withTags raw).normalize) ∧
      ∀ (tags : SortedMap String String) (written : List WrittenTag),
        (∀ key value, tags.get? key = some value → WrittenTag.Writable key value) →
        (written.map (·.entry)).Perm tags.entries →
        (r.withTags (Text.joinWith "," (written.map (·.text)))).normalize =
          .ok { base with tags := tags } :=
  ⟨tagsRead hbase, normalize_written hbase⟩

/-- A piece without an equals sign is complained about, and the tags `env` and
`team` are read back however they are written. -/
theorem tags_grammar_storefront :
    let storefront : AnnotatedRoute :=
      ⟨"shop", "web", .ofList [(AnnotationKey.group.text, "public")], [], none, false, []⟩
    let tags : SortedMap String String := .ofList [("env", "prod"), ("team", "a=b")]
    let written : List WrittenTag :=
      [⟨"team", "a=b", "\t", " ", " ", "", by decide +kernel⟩,
        ⟨"env", "prod", "\n", "", "", " ", by decide +kernel⟩]
    ∃ base, storefront.withoutTags.normalize = .ok base ∧
      (storefront.withTags "env=prod, ,team").normalize =
        .error (.refused (.tagWithoutValue ⟨"shop", "web"⟩ "team")) ∧
      (storefront.withTags (Text.joinWith "," (written.map (·.text)))).normalize =
        .ok { base with tags := tags } := by
  intro storefront tags written
  obtain ⟨base, hbase⟩ : ∃ base, storefront.withoutTags.normalize = .ok base :=
    Outcome.isOk_iff_exists.1 (by decide +kernel)
  obtain ⟨hread, hwritten⟩ := tags_grammar storefront base hbase
  obtain ⟨failure, hfailure⟩ :=
    (hread "env=prod, ,team").refused_iff.2 ⟨"team", by decide +kernel, by decide +kernel⟩
  obtain ⟨_, piece, _, hpieces, -, hno, rfl⟩ := (hread "env=prod, ,team").refusal failure hfailure
  have hteam : ∀ p ∈ Text.splitOn ',' "env=prod, ,team",
      TagText.NoTag p → Text.trim p = "team" := by decide +kernel
  rw [hteam piece (by simp [hpieces]) hno] at hfailure
  refine ⟨base, hbase, hfailure,
    hwritten tags written (fun key value hget => ?_) (by decide +kernel)⟩
  have hparts : ∀ e ∈ tags.entries, (Text.trim e.1 = e.1 ∧ Text.trim e.2 = e.2) ∧
      (',' ∉ e.1.toList ∧ '=' ∉ e.1.toList) ∧ ',' ∉ e.2.toList := by decide +kernel
  obtain ⟨⟨hkey, hvalue⟩, hplain, hplain'⟩ :=
    hparts _ ((SortedMap.get?_eq_some_iff tags key value).1 hget)
  exact ⟨hkey, hvalue, hplain, hplain'⟩

end AnnotatedRoute

end RouteConvergence
