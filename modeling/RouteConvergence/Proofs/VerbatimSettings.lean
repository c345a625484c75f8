/-
RouteConvergence.Proofs.VerbatimSettings — texts out of the environment,
and whether they arrive as they were written.

What a variable says is first read as a truth value or a number, and where
a setting is a text it is written out again. A text survives both, or is
`Verbatim`, if it is no value in another spelling: `TRUE`, `+5`, `007` and
`1e3` are.

* `TextSetting` — the settings that are texts, with their places and the
  variables that give them.
* `TextSetting.asText?_inside` — a setting is what stands at its place.
* `LayerValue.asText?_ofVariable_iff` — reading and writing give a text
  back if it is verbatim, and only then; `Verbatim.of_mem` — as it is if it
  has a character that no value has.
* `Settings.get_load_eq_iff` — so the loaded setting is the text of the
  variable exactly if that is verbatim.
-/
import Mathlib.Data.List.TakeDrop
import RouteConvergence.Proofs.DecimalDigits
import RouteConvergence.Proofs.LayerPlaces
import RouteConvergence.Proofs.LetterCase
import RouteConvergence.Settings.Load

namespace RouteConvergence

open Decimal (Binary64)

/-! ## The settings that are texts -/

/-- The settings that are texts. -/
inductive TextSetting
  | securityPolicy
  | supportMethod
  | bucket
  | keyStart
  | description
  | defaultHost
  | token
  | managedTagKey
  | groupTagKey
deriving DecidableEq, Repr

namespace TextSetting

/-- The keys that lead to a setting. -/
def keys : TextSetting → List String
  | securityPolicy => ["tls", "security_policy"]
  | supportMethod => ["tls", "ssl_support_method"]
  | bucket => ["logging", "bucket"]
  | keyStart => ["logging", "prefix"]
  | description => ["description_template"]
  | defaultHost => ["default_origin_host"]
  | token => ["alias", "ownership_token"]
  | managedTagKey => ["managed_tag_key"]
  | groupTagKey => ["group_tag_key"]

/-- The value of a setting. -/
def get (settings : Settings) : TextSetting → String
  | securityPolicy => settings.tls.securityPolicy
  | supportMethod => settings.tls.supportMethod
  | bucket => settings.logging.bucket
  | keyStart => settings.logging.keyStart
  | description => settings.description
  | defaultHost => settings.defaultHost
  | token => settings.aliasing.token
  | managedTagKey => settings.managedTagKey
  | groupTagKey => settings.groupTagKey

/-- The variable that gives a setting, in capital letters. -/
def variableName (setting : TextSetting) : String :=
  String.ofList ((settingMark ++ stepMark.intercalate setting.keys).toList.map Char.toUpper)

end TextSetting

/-- The steps into the settings that a variable's name stands for. -/
def settingRoute? (name : String) : Option (List LayerStep) :=
  (settingKey? name).map fun key => (LayerPath.ofKey key).route

theorem TextSetting.settingRoute?_variableName (setting : TextSetting) :
    settingRoute? setting.variableName = some (setting.keys.map .field) := by
  cases setting <;> decide +kernel

/-! ## Out of a layer -/

namespace LayerValue

theorem lookup_of_field {fields : List (String × LayerValue)} {key : String}
    (hnull : field fields key ≠ null) : fields.lookup key = some (field fields key) := by
  cases hfound : fields.lookup key with
  | none => simp [field, hfound] at hnull
  | some found => simp [field, hfound]

/-- What has something under a key is a table. -/
theorem eq_table_of_field {value : LayerValue} {key : String}
    (hnull : field value.fields key ≠ null) : value = table value.fields := by
  cases value with
  | table fields => rfl
  | _ => exact absurd rfl hnull

/-- What some fields hold under a key, if anything, is read as a text. -/
def HoldsText (fields : List (String × LayerValue)) (key text : String) : Prop :=
  field fields key ≠ null → (field fields key).asText? = some text

theorem holdsText_of_settingOr {fields : List (String × LayerValue)} {key fallback text : String}
    (h : settingOr fallback (·.asText?) (fields.lookup key) = some text) :
    HoldsText fields key text := by
  intro hnull
  rwa [lookup_of_field hnull] at h

/-- A section in which something stands is read as a table. -/
theorem read_of_settingOr {α : Type} {fields : List (String × LayerValue)}
    {key inner : String} {fallback result : α} {read : LayerValue → Option α}
    (h : settingOr fallback read (fields.lookup key) = some result)
    (hnull : field (field fields key).fields inner ≠ null) :
    read (.table (field fields key).fields) = some result := by
  have htable := eq_table_of_field hnull
  have houter : field fields key ≠ null := by
    intro h
    rw [h] at hnull
    exact hnull rfl
  rw [lookup_of_field houter] at h
  rw [← htable]
  exact h

end LayerValue

open LayerValue (HoldsText holdsText_of_settingOr read_of_settingOr)

theorem TlsSettings.holdsText_ofLayer? {fields : List (String × LayerValue)} {tls : TlsSettings}
    (h : ofLayer? (.table fields) = some tls) :
    HoldsText fields "security_policy" tls.securityPolicy ∧
      HoldsText fields "ssl_support_method" tls.supportMethod := by
  simp only [ofLayer?, LayerValue.section?, Option.bind_eq_bind, Option.bind_some,
    Option.bind_eq_some_iff, Option.pure_def, Option.some.injEq] at h
  obtain ⟨enabled, -, policy, hpolicy, method, hmethod, rfl⟩ := h
  exact ⟨holdsText_of_settingOr hpolicy, holdsText_of_settingOr hmethod⟩

theorem LogSettings.holdsText_ofLayer? {fields : List (String × LayerValue)}
    {logging : LogSettings} (h : ofLayer? (.table fields) = some logging) :
    HoldsText fields "bucket" logging.bucket ∧ HoldsText fields "prefix" logging.keyStart := by
  simp only [ofLayer?, LayerValue.section?, Option.bind_eq_bind, Option.bind_some,
    Option.bind_eq_some_iff, Option.pure_def, Option.some.injEq] at h
  obtain ⟨enabled, -, bucket, hbucket, start, hstart, rfl⟩ := h
  exact ⟨holdsText_of_settingOr hbucket, holdsText_of_settingOr hstart⟩

theorem AliasSettings.holdsText_ofLayer? {fields : List (String × LayerValue)}
    {aliasing : AliasSettings} (h : ofLayer? (.table fields) = some aliasing) :
    HoldsText fields "ownership_token" aliasing.token := by
  simp only [ofLayer?, LayerValue.section?, Option.bind_eq_bind, Option.bind_some,
    Option.bind_eq_some_iff, Option.pure_def, Option.some.injEq] at h
  obtain ⟨enabled, -, token, htoken, rfl⟩ := h
  exact holdsText_of_settingOr htoken

/-- **A setting is what stands at its place**, read as a text. -/
theorem TextSetting.asText?_inside {layer : List (String × LayerValue)} {settings : Settings}
    (hread : Settings.ofLayer? layer = some settings) (setting : TextSetting)
    (hnull : LayerValue.inside setting.keys (.table layer) ≠ .null) :
    (LayerValue.inside setting.keys (.table layer)).asText? = some (setting.get settings) := by
  simp only [Settings.ofLayer?, Option.bind_eq_bind, Option.bind_eq_some_iff, Option.pure_def,
    Option.some.injEq] at hread
  obtain ⟨tls, htls, logging, hlogging, ipv6, -, tags, -, description, hdescription, host, hhost,
    aliasing, haliasing, creation, -, deletion, -, managed, hmanaged, group, hgroup, rfl⟩ := hread
  cases setting with
  | securityPolicy =>
    exact (TlsSettings.holdsText_ofLayer? (read_of_settingOr htls hnull)).1 hnull
  | supportMethod =>
    exact (TlsSettings.holdsText_ofLayer? (read_of_settingOr htls hnull)).2 hnull
  | bucket =>
    exact (LogSettings.holdsText_ofLayer? (read_of_settingOr hlogging hnull)).1 hnull
  | keyStart =>
    exact (LogSettings.holdsText_ofLayer? (read_of_settingOr hlogging hnull)).2 hnull
  | description => exact holdsText_of_settingOr hdescription hnull
  | defaultHost => exact holdsText_of_settingOr hhost hnull
  | token => exact AliasSettings.holdsText_ofLayer? (read_of_settingOr haliasing hnull) hnull
  | managedTagKey => exact holdsText_of_settingOr hmanaged hnull
  | groupTagKey => exact holdsText_of_settingOr hgroup hnull

/-! ## Texts of variables -/

/-- The whole number of at most 64 bits that a text gives. -/
def Text.readWord? (text : String) : Option Int := (readInt? text.toList).filter fitsWord

/-- A text that its reading as a truth value or as a number leaves as it is:
truth values are in small letters, whole numbers are written plainly, and any
other number is written in the digits that its nearest binary number has. -/
structure Verbatim (text : String) : Prop where
  yes : Text.lowerAscii text = "true" → text = "true"
  no : Text.lowerAscii text = "false" → text = "false"
  whole : ∀ n ∈ Text.readWord? text, Text.Plain text.toList
  decimal : Text.readWord? text = none → ∀ x ∈ Binary64.ofText? text, x.text = text

instance Verbatim.decide (text : String) : Decidable (Verbatim text) :=
  decidable_of_iff ((Text.lowerAscii text = "true" → text = "true") ∧
      (Text.lowerAscii text = "false" → text = "false") ∧
      (∀ n ∈ Text.readWord? text, Text.Plain text.toList) ∧
      (Text.readWord? text = none → ∀ x ∈ Binary64.ofText? text, x.text = text))
    ⟨fun ⟨yes, no, whole, decimal⟩ => ⟨yes, no, whole, decimal⟩,
      fun ⟨yes, no, whole, decimal⟩ => ⟨yes, no, whole, decimal⟩⟩

/-- Of what is no truth value only the number counts. -/
theorem verbatim_iff_of_other {text : String} (hyes : Text.lowerAscii text ≠ "true")
    (hno : Text.lowerAscii text ≠ "false") :
    Verbatim text ↔ (∀ n ∈ Text.readWord? text, Text.Plain text.toList) ∧
      (Text.readWord? text = none → ∀ x ∈ Binary64.ofText? text, x.text = text) :=
  ⟨fun h => ⟨h.whole, h.decimal⟩,
    fun ⟨whole, decimal⟩ => ⟨fun h => absurd h hyes, fun h => absurd h hno, whole, decimal⟩⟩

namespace LayerValue

theorem ofVariable_ne_null (text : String) : ofVariable text ≠ null := by
  fun_cases ofVariable text <;> simp

/-- What a variable gives is no table, and so it replaces what was there. -/
theorem overlay_ofVariable (text : String) (below : LayerValue) :
    (ofVariable text).overlay below = ofVariable text := by
  fun_cases ofVariable text <;> rfl

/-- **Verbatim texts**, and no others, are given back. -/
theorem asText?_ofVariable_iff {text : String} :
    (ofVariable text).asText? = some text ↔ Verbatim text := by
  fun_cases ofVariable text with
  | case1 hyes =>
    rw [asText?, if_pos rfl, Option.some.injEq]
    refine ⟨fun h => ?_, fun h => (h.yes hyes).symm⟩
    subst h
    decide
  | case2 hno =>
    rw [asText?, if_neg Bool.false_ne_true, Option.some.injEq]
    refine ⟨fun h => ?_, fun h => (h.no hno).symm⟩
    subst h
    decide
  | case3 n hword hyes hno =>
    have hread : Text.readInt? text.toList = some n := (Option.filter_eq_some_iff.1 hword).1
    have hword : Text.readWord? text = some n := hword
    rw [asText?, Option.some.injEq, Text.intText_eq_iff hread, verbatim_iff_of_other hyes hno]
    simp [hword]
  | case4 hword x hnumber hyes hno =>
    have hword : Text.readWord? text = none := hword
    rw [asText?, Option.some.injEq, verbatim_iff_of_other hyes hno]
    simp [hword, hnumber]
  | case5 hword hnumber hyes hno =>
    have hword : Text.readWord? text = none := hword
    rw [asText?, verbatim_iff_of_other hyes hno]
    simp [hword, hnumber]

example : Verbatim "-1.5" ∧ ¬ Verbatim "1e3" ∧ ¬ Verbatim "007" ∧ ¬ Verbatim "TRUE" := by
  decide +kernel

end LayerValue

/-! ## Characters of values -/

/-- The letters of `true`, `false`, `infinity` and `nan`, and the `e` in front of
an exponent. -/
def valueLetters : List Char := "aefilnrstuy".toList

/-- A character of a number or of a truth value. -/
def isValueChar (c : Char) : Bool :=
  Text.isDigit c || c ∈ ['+', '-', '.'] || c.toLower ∈ valueLetters

theorem isValueChar_of_isDigit {c : Char} (h : Text.isDigit c = true) : isValueChar c = true := by
  simp [isValueChar, h]

theorem isValueChar_of_word {cs word : List Char} (h : cs.map Char.toLower = word)
    (hword : word.all valueLetters.contains = true) : ∀ c ∈ cs, isValueChar c = true := by
  subst h
  simp only [List.all_map, List.all_eq_true, Function.comp_apply, List.contains_iff_mem] at hword
  intro c hc
  simp [isValueChar, hword c hc]

theorem isValueChar_of_lowerAscii {text word : String} (h : Text.lowerAscii text = word)
    (hword : word.toList.all valueLetters.contains = true) :
    ∀ c ∈ text.toList, isValueChar c = true :=
  isValueChar_of_word (by rw [← Text.toList_lowerAscii, h]) hword

theorem isValueChar_of_readNat? {cs : List Char} {n : Nat} (h : Text.readNat? cs = some n) :
    ∀ c ∈ cs, isValueChar c = true := fun c hc =>
  isValueChar_of_isDigit ((Text.readNat?_eq_some h).1 c hc)

theorem isValueChar_of_readInt? {cs : List Char} {n : Int} (h : Text.readInt? cs = some n) :
    ∀ c ∈ cs, isValueChar c = true := by
  obtain ⟨ds, m, rfl, hread, -⟩ | ⟨ds, m, rfl, hread, -⟩ | ⟨m, hread, -⟩ :=
    Text.readInt?_eq_some h
  · exact List.forall_mem_cons.2 ⟨rfl, isValueChar_of_readNat? hread⟩
  · exact List.forall_mem_cons.2 ⟨rfl, isValueChar_of_readNat? hread⟩
  · exact isValueChar_of_readNat? hread

theorem isValueChar_of_readExponent {cs : List Char} {n : Int}
    (h : Binary64.readExponent cs = some n) : ∀ c ∈ cs, isValueChar c = true := by
  cases cs with
  | nil => simp
  | cons c cs =>
    simp only [Binary64.readExponent, Option.ite_none_right_eq_some] at h
    refine List.forall_mem_cons.2 ⟨?_, isValueChar_of_readInt? h.2⟩
    obtain rfl | rfl := h.1 <;> decide

theorem isValueChar_of_span {cs : List Char}
    (h : ∀ c ∈ (cs.span Text.isDigit).2, isValueChar c = true) :
    ∀ c ∈ cs, isValueChar c = true := by
  rw [List.span_eq_takeWhile_dropWhile] at h
  rw [← List.takeWhile_append_dropWhile (p := Text.isDigit) (l := cs)]
  refine List.forall_mem_append.2 ⟨fun c hc => ?_, h⟩
  exact isValueChar_of_isDigit (List.mem_takeWhile_imp hc)

theorem isValueChar_of_readDecimal {negative : Bool} {cs : List Char} {x : Binary64}
    (h : Binary64.readDecimal negative cs = some x) : ∀ c ∈ cs, isValueChar c = true := by
  refine isValueChar_of_span ?_
  simp only [Binary64.readDecimal] at h
  split at h
  · next rest hrest =>
    -- digits behind the point
    simp only [Option.ite_none_left_eq_some, Option.bind_eq_bind, Option.bind_eq_some_iff] at h
    obtain ⟨-, exponent, hexponent, -⟩ := h
    rw [hrest]
    exact List.forall_mem_cons.2
      ⟨rfl, isValueChar_of_span (isValueChar_of_readExponent hexponent)⟩
  · simp only [Option.ite_none_left_eq_some, Option.bind_eq_bind, Option.bind_eq_some_iff] at h
    obtain ⟨-, exponent, hexponent, -⟩ := h
    exact isValueChar_of_readExponent hexponent

theorem isValueChar_of_readUnsigned {negative : Bool} {cs : List Char} {x : Binary64}
    (h : Binary64.readUnsigned negative cs = some x) : ∀ c ∈ cs, isValueChar c = true := by
  simp only [Binary64.readUnsigned, ← String.toList_inj, String.toList_ofList] at h
  split at h
  · next hword =>
    obtain hword | hword := hword
    · exact isValueChar_of_word hword (by decide)
    · exact isValueChar_of_word hword (by decide)
  · split at h
    · next hword => exact isValueChar_of_word hword (by decide)
    · exact isValueChar_of_readDecimal h

theorem isValueChar_of_ofText? {text : String} {x : Binary64}
    (h : Binary64.ofText? text = some x) : ∀ c ∈ text.toList, isValueChar c = true := by
  unfold Binary64.ofText? at h
  split at h
  · next cs hcs =>
    rw [hcs]
    exact List.forall_mem_cons.2 ⟨rfl, isValueChar_of_readUnsigned h⟩
  · next cs hcs =>
    rw [hcs]
    exact List.forall_mem_cons.2 ⟨rfl, isValueChar_of_readUnsigned h⟩
  · exact isValueChar_of_readUnsigned h

/-- **Other characters**: a text that has one is verbatim. -/
theorem Verbatim.of_mem {text : String} {c : Char} (hmem : c ∈ text.toList)
    (hc : isValueChar c = false) : Verbatim text := by
  have hother : ¬ ∀ d ∈ text.toList, isValueChar d = true := fun hall =>
    Bool.false_ne_true (hc.symm.trans (hall c hmem))
  refine ⟨fun h => ?_, fun h => ?_, fun n hn => ?_, fun _ x hx => ?_⟩
  · exact absurd (isValueChar_of_lowerAscii h (by decide)) hother
  · exact absurd (isValueChar_of_lowerAscii h (by decide)) hother
  · exact absurd (isValueChar_of_readInt? (Option.filter_eq_some_iff.1 hn).1) hother
  · exact absurd (isValueChar_of_ofText? hx) hother

/-! ## Out of the environment -/

/-- The environment gives a setting a text: the last variable that concerns it
has this text, and those behind it lead elsewhere. -/
def Environment.Gives (environment : Environment) (setting : TextSetting) (text : String) :
    Prop :=
  ∃ before name after, environment = before ++ (name, text) :: after ∧
    settingRoute? name = some (setting.keys.map .field) ∧
    ∀ other ∈ after, ∀ route ∈ settingRoute? other.1, LayerValue.Diverge setting.keys route

/-- What stands at the place of a given setting, whatever was there before. -/
theorem Environment.Gives.inside {environment : Environment} {setting : TextSetting}
    {text : String} (h : environment.Gives setting text) (below : List (String × LayerValue)) :
    LayerValue.inside setting.keys (.table (layOver environment.layer below)) =
      .ofVariable text := by
  obtain ⟨before, name, after, rfl, hname, hafter⟩ := h
  obtain ⟨key, hkey, hroute⟩ := Option.map_eq_some_iff.1 hname
  have hlayer : Environment.layer (before ++ (name, text) :: after) =
      Environment.layer before ++ (key, .ofVariable text) :: Environment.layer after := by
    simp [Environment.layer, List.filterMap_append, hkey]
  have hbeside : ∀ f ∈ Environment.layer after,
      LayerValue.Diverge setting.keys (LayerPath.ofKey f.1).route := by
    intro f hf
    obtain ⟨other, hother, hf⟩ := List.mem_filterMap.1 hf
    obtain ⟨k, hk, rfl⟩ := Option.map_eq_some_iff.1 hf
    exact hafter other hother _ (by simp [settingRoute?, hk])
  rw [hlayer, LayerValue.inside_layOver _ hroute hbeside, LayerValue.overlay_ofVariable]

namespace Settings

theorem layOver_of_layer? {file : Option (String × String)} {environment : Environment}
    {layer : List (String × LayerValue)} (h : layer? file environment = some layer) :
    ∃ below, layer = layOver environment.layer below := by
  cases file with
  | none => exact ⟨[], (Option.some.inj h).symm⟩
  | some named =>
    obtain ⟨below, -, h⟩ := Option.bind_eq_some_iff.1 h
    exact ⟨below, (Option.some.inj h).symm⟩

/-- Loaded settings are those of the layer of the environment over some other. -/
theorem ofLayer?_of_load {file : Option (String × Option String)} {environment : Environment}
    {settings : Settings} (h : load file environment = .ok settings) :
    ∃ below, ofLayer? (layOver environment.layer below) = some settings := by
  unfold load at h
  split at h
  · cases h
  · dsimp only at h
    split at h
    · cases h
    · next read hread =>
      obtain ⟨layer, hlayer, hof⟩ := Option.bind_eq_some_iff.1 hread
      obtain ⟨below, rfl⟩ := layOver_of_layer? hlayer
      cases hvalid : read.validate with
      | error failure => simp [hvalid, Except.map] at h
      | ok =>
        obtain rfl : read = settings := by simpa [hvalid, Except.map] using h
        exact ⟨below, hof⟩

/-- Without a file, usable settings of the environment are loaded. -/
theorem load_none {environment : Environment} {settings : Settings}
    (hread : (layer? none environment).bind ofLayer? = some settings)
    (husable : settings.refusal? = none) : load none environment = .ok settings := by
  have hvalid : settings.validate = .ok () := by rw [validate, husable]
  simp only [load, Option.bind_none, hread, hvalid]
  rfl

/-- **A setting from the environment arrives as it is written** exactly if its
text is verbatim, whatever the file and the other variables say. -/
theorem get_load_eq_iff {file : Option (String × Option String)} {environment : Environment}
    {settings : Settings} {setting : TextSetting} {text : String}
    (hload : load file environment = .ok settings) (hgiven : environment.Gives setting text) :
    setting.get settings = text ↔ Verbatim text := by
  obtain ⟨below, hread⟩ := ofLayer?_of_load hload
  have hplace := hgiven.inside below
  have htext := TextSetting.asText?_inside hread setting
    (by rw [hplace]; exact LayerValue.ofVariable_ne_null text)
  rw [hplace] at htext
  rw [← LayerValue.asText?_ofVariable_iff, htext, Option.some.injEq]

/-- The environment of an engine that claims names for production. -/
def production : Environment :=
  [(TextSetting.token.variableName, "heritage=edgeplane,owner=prod"),
    ("EDGEPLANE__ALIAS__ENABLED", "true")]

theorem get_load_eq_iff_production :
    ∃ settings, load none production = .ok settings ∧
      production.Gives .token "heritage=edgeplane,owner=prod" ∧
      (TextSetting.token.get settings = "heritage=edgeplane,owner=prod" ↔
        Verbatim "heritage=edgeplane,owner=prod") ∧
      Verbatim "heritage=edgeplane,owner=prod" := by
  have hload : load none production =
      .ok { default with aliasing := ⟨true, "heritage=edgeplane,owner=prod"⟩ } :=
    load_none (by decide +kernel) (by decide +kernel)
  have hgiven : production.Gives .token "heritage=edgeplane,owner=prod" :=
    ⟨[], _, _, rfl, TextSetting.token.settingRoute?_variableName, by decide +kernel⟩
  exact ⟨_, hload, hgiven, get_load_eq_iff hload hgiven,
    Verbatim.of_mem (c := '=') (by decide) (by decide)⟩

/-- A token of digits loses the zeros in front, and with it the engine loses every
name that it has claimed. -/
theorem token_changed :
    Environment.Gives [(TextSetting.token.variableName, "007")] .token "007" ∧
      load none [(TextSetting.token.variableName, "007")] =
        .ok { default with aliasing := ⟨false, "7"⟩ } :=
  ⟨⟨[], _, _, rfl, TextSetting.token.settingRoute?_variableName, by decide⟩,
    load_none (by decide +kernel) (by decide +kernel)⟩

end Settings

end RouteConvergence
