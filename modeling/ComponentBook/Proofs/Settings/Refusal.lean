import ComponentBook.Proofs.Disk.Place
import ComponentBook.Proofs.Number.Written
import ComponentBook.Settings.Loading

/-! # Which settings are refused

A document is **refused** when it is something other than a mapping, or when its language or its way to combine
properties is a word that the program does not know. Reading settings is exact when these documents, and no
others, end in an error of the settings, and every other document gives settings
(**`Settings.IsExact`**). The values are read one after another, so an outcome is exact when the first value
that decides does what the document deserves (`isExact_filledSetting`, `isExact_readWord`,
`isExact_numberSetting`, **`isExact_ofMapping_iff`**). Exactly the documents that count as nothing without being
nothing, and the whole numbers that have too many digits or are too large where they are read, make the
difference, in any document, whatever text it has been read from (**`isExact_ofDocument_iff`**). For a file it
is also asked whether the text is blank (**`loadSettings_isExact_iff`**). -/

namespace ComponentBook

open Yaml (Value Document)

deriving instance DecidableEq for Value, Yaml.Collection, Document

namespace Settings

/-! ## What a document says -/

/-- The value of a setting. -/
def member (d : Document) (name : String) : Option Value := d.get? d.top name.toList

/-- The value of a setting in a group of settings. -/
def memberOf (d : Document) (group name : String) : Option Value :=
  (member d group).bind fun g => d.get? g name.toList

/-- The document is a mapping. -/
def IsMapping (d : Document) : Prop := ∃ entries, d.collection? d.top = some (.mapping entries)

/-- A setting is a text, which is not empty, or a number, and none of the words, whatever the case of its
letters. -/
def IsNoneOf (words : List Text) : Option Value → Prop
  | some (.text t) => t ≠ [] ∧ t.lower ∉ words
  | some (.integer _) | some (.decimal _) => True
  | _ => False

instance (words : List Text) : (v : Option Value) → Decidable (IsNoneOf words v)
  | some (.text t) => inferInstanceAs (Decidable (t ≠ [] ∧ t.lower ∉ words))
  | some (.integer _) | some (.decimal _) => .isTrue trivial
  | none | some .null | some (.boolean _) | some (.moment _) | some (.bytes _) | some (.collection _) =>
    .isFalse id

/-- The words for the languages. -/
def localeWords : List Text := ["en".toList, "zh".toList]

/-- The words for the ways to combine properties. -/
def mergeWords : List Text := ["dedupe".toList, "concat".toList, "first".toList]

/-- The language is not known. -/
def HasUnknownLocale (d : Document) : Prop := IsNoneOf localeWords (member d "locale")

/-- The way to combine properties is not known. -/
def HasUnknownMerge (d : Document) : Prop := IsNoneOf mergeWords (memberOf d "props" "merge")

/-- The document cannot be used as settings: it is something, but no mapping, or it asks for what the program
does not know. -/
def IsRefused (d : Document) : Prop :=
  d.top ≠ .null ∧ ¬ IsMapping d ∨ HasUnknownLocale d ∨ HasUnknownMerge d

/-- The outcome of reading settings is an error of the settings exactly when they are refused, there are
settings in every other case, and there is no error of any other kind. -/
structure IsExact (refused : Prop) (outcome : Except Failure Settings) : Prop where
  refused_iff : (∃ e, outcome = .error (.settings e)) ↔ refused
  given : ¬ refused → ∃ s, outcome = .ok s
  noOther : ∀ f, outcome = .error f → ∃ e, f = .settings e

/-- A whole number with more digits than a number is written with. -/
def IsTooLong : Option Value → Prop
  | some (.integer n) => 10 ^ writtenDigitLimit ≤ n.natAbs
  | _ => False

/-- A whole number that is near to no double. -/
def IsTooLarge : Option Value → Prop
  | some (.integer n) => 2 ^ 1024 - 2 ^ 970 ≤ n.natAbs
  | _ => False

instance : (v : Option Value) → Decidable (IsTooLong v)
  | some (.integer n) => inferInstanceAs (Decidable (10 ^ writtenDigitLimit ≤ n.natAbs))
  | none | some .null | some (.boolean _) | some (.decimal _) | some (.text _) | some (.moment _)
  | some (.bytes _) | some (.collection _) => .isFalse id

/-- The settings that are read as texts before anything else can be refused. -/
def leadingTexts : List String :=
  ["components_dir", "output_dir", "extension", "index_file", "templates_dir", "locale"]

/-- The whole numbers of a document are small enough where they are read; behind an unknown word nothing is
read. -/
structure NumbersFit (d : Document) : Prop where
  texts : ∀ name ∈ leadingTexts, ¬ IsTooLong (member d name)
  merge : ¬ HasUnknownLocale d → ¬ IsTooLong (memberOf d "props" "merge")
  interval : ¬ HasUnknownLocale d → ¬ HasUnknownMerge d → ¬ IsTooLarge (memberOf d "watch" "interval")
  host : ¬ HasUnknownLocale d → ¬ HasUnknownMerge d → ¬ IsTooLong (memberOf d "service" "host")

variable {d : Document} {v : Option Value} {words : List Text} {refused P : Prop}

/-! ## Outcomes -/

theorem isExact_ok {s : Settings} : IsExact refused (.ok s) ↔ ¬ refused where
  mp h hrefused := nomatch (h.refused_iff.2 hrefused).choose_spec
  mpr h := ⟨iff_of_false nofun h, fun _ => ⟨s, rfl⟩, nofun⟩

theorem isExact_settings {e : SettingsError} : IsExact refused (.error (.settings e)) ↔ refused where
  mp h := h.refused_iff.1 ⟨e, rfl⟩
  mpr h := ⟨iff_of_true ⟨e, rfl⟩ h, fun hnot => absurd h hnot, fun _ hf => ⟨e, (Except.error.inj hf).symm⟩⟩

theorem not_isExact_value {f : Yaml.Fault} : ¬ IsExact refused (.error (.value f)) :=
  fun h => nomatch (h.noOther _ rfl).choose_spec

/-! ## Single values -/

theorem writtenDigitLimit_lt_iff {n : Int} :
    writtenDigitLimit < (Text.decimal n.natAbs).length ↔ 10 ^ writtenDigitLimit ≤ n.natAbs := by
  rw [← Nat.not_le, Text.length_decimal_le_iff (by decide), Nat.not_lt]

/-- A number that is too long is not read as a text. -/
theorem filledSetting_of_isTooLong (h : IsTooLong v) :
    filledSetting v = .error (.value (.tooLongToWrite writtenDigitLimit)) := by
  match v, h with
  | some (.integer n), h =>
    rw [filledSetting, textSetting, if_pos (writtenDigitLimit_lt_iff.2 h)]
    rfl

/-- None of the words starts like a number. -/
def AreWords (words : List Text) : Prop := ∀ c ∈ Text.numberStarts, ∀ word ∈ words, word.head? ≠ some c

instance (words : List Text) : Decidable (AreWords words) :=
  inferInstanceAs (Decidable (∀ c ∈ Text.numberStarts, ∀ word ∈ words, word.head? ≠ some c))

/-- A text that starts like a number is none of the words. -/
theorem lower_not_mem_words (hwords : AreWords words) {t : Text}
    (h : ∃ c u, t = c :: u ∧ c ∈ Text.numberStarts) : t.lower ∉ words := by
  obtain ⟨c, u, rfl, hc⟩ := h
  exact fun hmem => hwords c hc _ hmem (Text.head?_lower hc)

/-- Any other setting is read, and the text that it gives is one of the words unless the setting is none of
them. -/
theorem exists_filledSetting (hwords : AreWords words) (h : ¬ IsTooLong v) :
    ∃ filled, filledSetting v = .ok filled ∧ (IsNoneOf words v ↔ ∃ t, filled = some t ∧ t.lower ∉ words) := by
  -- the text of a number is not empty, so it is kept, and is none of the words
  have hnumber {t : Text} (ht : ∃ c u, t = c :: u ∧ c ∈ Text.numberStarts) :
      (some t).filter (!·.isEmpty) = some t ∧ (True ↔ ∃ u, some t = some u ∧ u.lower ∉ words) := by
    have hnot := lower_not_mem_words hwords ht
    obtain ⟨c, u, rfl, -⟩ := ht
    exact ⟨rfl, fun _ => ⟨_, rfl, hnot⟩, fun _ => trivial⟩
  have hnothing : False ↔ ∃ t, (none : Option Text) = some t ∧ t.lower ∉ words := iff_of_false id nofun
  match v, h with
  | some (.integer n), h =>
    obtain ⟨hkept, hnone⟩ := hnumber (Text.exists_head_signedDecimal n)
    refine ⟨_, ?_, hnone⟩
    rw [filledSetting, textSetting, if_neg (mt writtenDigitLimit_lt_iff.1 h)]
    exact congrArg Except.ok hkept
  | some (.decimal x), _ =>
    obtain ⟨hkept, hnone⟩ := hnumber (Double.exists_head_text x)
    exact ⟨_, congrArg Except.ok hkept, hnone⟩
  | some (.text []), _ => exact ⟨none, rfl, iff_of_false (fun h => h.1 rfl) nofun⟩
  | some (.text (c :: t)), _ =>
    refine ⟨some (c :: t), rfl, fun h => ⟨_, rfl, h.2⟩, ?_⟩
    rintro ⟨u, hu, hnot⟩
    exact ⟨List.cons_ne_nil c t, Option.some.inj hu ▸ hnot⟩
  | none, _ => exact ⟨none, rfl, hnothing⟩
  | some .null, _ => exact ⟨none, rfl, hnothing⟩
  | some (.boolean _), _ => exact ⟨none, rfl, hnothing⟩
  | some (.moment _), _ => exact ⟨none, rfl, hnothing⟩
  | some (.bytes _), _ => exact ⟨none, rfl, hnothing⟩
  | some (.collection _), _ => exact ⟨none, rfl, hnothing⟩

theorem exists_numberSetting (h : ¬ IsTooLarge v) : ∃ number, numberSetting v = .ok number := by
  match v, h with
  | some (.integer n), h =>
    obtain ⟨x, hx⟩ := Option.ne_none_iff_exists'.1 (mt Double.ofInt?_eq_none_iff.1 h)
    refine ⟨some x, ?_⟩
    rw [numberSetting, hx]
  | some (.decimal x), _ => exact ⟨some x, rfl⟩
  | some (.text t), _ => exact ⟨_, rfl⟩
  | none, _ => exact ⟨none, rfl⟩
  | some .null, _ => exact ⟨none, rfl⟩
  | some (.boolean _), _ => exact ⟨none, rfl⟩
  | some (.moment _), _ => exact ⟨none, rfl⟩
  | some (.bytes _), _ => exact ⟨none, rfl⟩
  | some (.collection _), _ => exact ⟨none, rfl⟩

theorem numberSetting_of_isTooLarge (h : IsTooLarge v) : numberSetting v = .error (.value .tooLarge) := by
  match v, h with
  | some (.integer n), h => rw [numberSetting, Double.ofInt?_eq_none_iff.2 h]

/-! ## One value after another -/

/-- Reading a text first. -/
theorem isExact_filledSetting {rest : Option Text → Except Failure Settings}
    (hrest : ∀ filled, IsExact refused (rest filled) ↔ P) :
    IsExact refused (filledSetting v >>= rest) ↔ ¬ IsTooLong v ∧ P := by
  by_cases hlong : IsTooLong v
  · rw [filledSetting_of_isTooLong hlong]
    exact iff_of_false not_isExact_value fun h => h.1 hlong
  · have hwords : AreWords [] := by decide
    obtain ⟨filled, hfilled, -⟩ := exists_filledSetting hwords hlong
    rw [hfilled, and_iff_right hlong]
    exact hrest filled

/-- What a text stands for that should be one of some words. -/
def readWord {α : Type} (find? : Text → Option α) (unknown : Text → SettingsError) :
    Option Text → Except Failure (Option α)
  | none => .ok none
  | some t => (find? t.lower).elim (.error (.settings (unknown t.lower))) fun a => .ok (some a)

/-- Reading one of some words first. -/
theorem isExact_readWord {α : Type} {find? : Text → Option α} {unknown : Text → SettingsError}
    {rest : Option α → Except Failure Settings} (hwords : AreWords words)
    (hfind : ∀ t, find? t = none ↔ t ∉ words) (hrest : ∀ a, IsExact refused (rest a) ↔ P) :
    IsExact refused (filledSetting v >>= fun filled => readWord find? unknown filled >>= rest) ↔
      ¬ IsTooLong v ∧ (IsNoneOf words v → refused) ∧ (¬ IsNoneOf words v → P) := by
  by_cases hlong : IsTooLong v
  · rw [filledSetting_of_isTooLong hlong]
    exact iff_of_false not_isExact_value fun h => h.1 hlong
  obtain ⟨filled, hfilled, hnone⟩ := exists_filledSetting hwords hlong
  rw [hfilled, and_iff_right hlong]
  change IsExact refused (readWord find? unknown filled >>= rest) ↔ _
  by_cases hv : IsNoneOf words v
  · obtain ⟨t, rfl, ht⟩ := hnone.1 hv
    have hread : IsExact refused (readWord find? unknown (some t) >>= rest) ↔ refused := by
      rw [readWord, (hfind t.lower).2 ht]
      exact isExact_settings
    rw [hread]
    exact ⟨fun h => ⟨fun _ => h, fun hnot => absurd hv hnot⟩, fun h => h.1 hv⟩
  · have hread : IsExact refused (readWord find? unknown filled >>= rest) ↔ P := by
      cases filled with
      | none => exact hrest none
      | some t =>
        have ht : t.lower ∈ words := not_not.1 fun ht => hv (hnone.2 ⟨t, rfl, ht⟩)
        obtain ⟨a, ha⟩ := Option.ne_none_iff_exists'.1 (mt (hfind t.lower).1 (not_not.2 ht))
        rw [readWord, ha]
        exact hrest (some a)
    rw [hread]
    exact ⟨fun h => ⟨fun hnot => absurd hnot hv, fun _ => h⟩, fun h => h.2 hv⟩

theorem localeSetting_eq (v : Option Value) :
    localeSetting v =
      filledSetting v >>= readWord (fun code => Locale.all.find? fun l => l.code = code) .unknownLocale := by
  rw [localeSetting]
  congr 1
  funext filled
  cases filled with
  | none => rfl
  | some t =>
    rw [readWord]
    dsimp only
    cases Locale.all.find? fun l => l.code = t.lower <;> rfl

theorem mergeSetting_eq (v : Option Value) :
    mergeSetting v = filledSetting v >>= readWord MergePolicy.ofCode? .unknownMerge := by
  rw [mergeSetting]
  congr 1
  funext filled
  cases filled with
  | none => rfl
  | some t =>
    rw [readWord]
    dsimp only
    cases MergePolicy.ofCode? t.lower <;> rfl

/-- Reading the language first. -/
theorem isExact_localeSetting {rest : Option Locale → Except Failure Settings}
    (hrest : ∀ locale, IsExact refused (rest locale) ↔ P) :
    IsExact refused (localeSetting v >>= rest) ↔
      ¬ IsTooLong v ∧ (IsNoneOf localeWords v → refused) ∧ (¬ IsNoneOf localeWords v → P) := by
  rw [localeSetting_eq, bind_assoc]
  refine isExact_readWord (by decide) (fun t => ?_) hrest
  rw [show localeWords = Locale.all.map (·.code) from rfl]
  simp

/-- Reading the way to combine properties first. -/
theorem isExact_mergeSetting {rest : Option MergePolicy → Except Failure Settings}
    (hrest : ∀ policy, IsExact refused (rest policy) ↔ P) :
    IsExact refused (mergeSetting v >>= rest) ↔
      ¬ IsTooLong v ∧ (IsNoneOf mergeWords v → refused) ∧ (¬ IsNoneOf mergeWords v → P) := by
  rw [mergeSetting_eq, bind_assoc]
  refine isExact_readWord (by decide) (fun t => ?_) hrest
  rw [show mergeWords = MergePolicy.all.map (·.code) from rfl, MergePolicy.ofCode?]
  simp

/-- Reading the seconds first. -/
theorem isExact_numberSetting {rest : Option Double → Except Failure Settings}
    (hrest : ∀ number, IsExact refused (rest number) ↔ P) :
    IsExact refused (numberSetting v >>= rest) ↔ ¬ IsTooLarge v ∧ P := by
  by_cases hlarge : IsTooLarge v
  · rw [numberSetting_of_isTooLarge hlarge]
    exact iff_of_false not_isExact_value fun h => h.1 hlarge
  · obtain ⟨number, hnumber⟩ := exists_numberSetting hlarge
    rw [hnumber, and_iff_right hlarge]
    exact hrest number

/-! ## Whole documents -/

/-- **Settings are read exactly from a mapping** when the numbers in it fit. -/
theorem isExact_ofMapping_iff (root : Path) (h : IsMapping d) :
    IsExact (IsRefused d) (Settings.ofMapping root d) ↔ NumbersFit d := by
  have hrefused : IsRefused d ↔ HasUnknownLocale d ∨ HasUnknownMerge d :=
    or_iff_right fun hno => hno.2 h
  -- the settings are read one behind the other, and the first that is refused ends the reading
  have hread : IsExact (IsRefused d) (Settings.ofMapping root d) ↔
      ¬ IsTooLong (member d "components_dir") ∧ ¬ IsTooLong (member d "output_dir") ∧
        ¬ IsTooLong (member d "extension") ∧ ¬ IsTooLong (member d "index_file") ∧
        ¬ IsTooLong (member d "templates_dir") ∧ ¬ IsTooLong (member d "locale") ∧
        (HasUnknownLocale d → IsRefused d) ∧ (¬ HasUnknownLocale d →
          ¬ IsTooLong (memberOf d "props" "merge") ∧
          (HasUnknownMerge d → IsRefused d) ∧ (¬ HasUnknownMerge d →
            ¬ IsTooLarge (memberOf d "watch" "interval") ∧ ¬ IsTooLong (memberOf d "service" "host") ∧
            ¬ IsRefused d)) :=
    isExact_filledSetting fun _ => isExact_filledSetting fun _ => isExact_filledSetting fun _ =>
    isExact_filledSetting fun _ => isExact_filledSetting fun _ => isExact_localeSetting fun _ =>
    isExact_mergeSetting fun _ => isExact_numberSetting fun _ => isExact_filledSetting fun _ => isExact_ok
  rw [hread, hrefused]
  constructor
  · rintro ⟨hcomponents, hpages, hextension, hindex, htemplates, hlocale, -, hknown⟩
    refine ⟨?_, fun hl => (hknown hl).1, fun hl hm => ((hknown hl).2.2 hm).1,
      fun hl hm => ((hknown hl).2.2 hm).2.1⟩
    simp [leadingTexts, hcomponents, hpages, hextension, hindex, htemplates, hlocale]
  · intro hfit
    have htexts := hfit.texts
    simp only [leadingTexts, List.forall_mem_cons] at htexts
    obtain ⟨hcomponents, hpages, hextension, hindex, htemplates, hlocale, -⟩ := htexts
    exact ⟨hcomponents, hpages, hextension, hindex, htemplates, hlocale, .inl, fun hl =>
      ⟨hfit.merge hl, .inr, fun hm => ⟨hfit.interval hl hm, hfit.host hl hm, not_or.2 ⟨hl, hm⟩⟩⟩⟩

/-- A setting of a document that is no mapping has no value. -/
theorem member_of_not_isMapping (h : ¬ IsMapping d) (name : String) : member d name = none := by
  rw [member, Document.get?]
  split
  · next entries hentries => exact absurd ⟨entries, hentries⟩ h
  · rfl

/-- A mapping that counts as nothing has no entries, so that no setting has a value. -/
theorem member_of_isVoid (h : d.isVoid d.top = true) (name : String) : member d name = none := by
  by_cases hmapping : IsMapping d
  · obtain ⟨entries, hentries⟩ := hmapping
    have hempty : entries = [] := by
      cases htop : d.top with
      | collection n =>
        rw [htop] at h hentries
        rw [Document.isVoid, hentries] at h
        exact List.isEmpty_iff.1 h
      | _ =>
        rw [htop] at hentries
        cases hentries
    rw [member, Document.get?, hentries, hempty]
    rfl
  · exact member_of_not_isMapping hmapping name

/-- Where no setting has a value, there are no numbers that are read. -/
theorem numbersFit_of_member (h : ∀ name, member d name = none) : NumbersFit d := by
  have hmemberOf (group name : String) : memberOf d group name = none := by rw [memberOf, h]; rfl
  exact ⟨fun name _ => h name ▸ id, fun _ => hmemberOf _ _ ▸ id, fun _ _ => hmemberOf _ _ ▸ id,
    fun _ _ => hmemberOf _ _ ▸ id⟩

/-- Any document is read exactly when it is not refused although it counts as nothing, and the numbers in it
fit. -/
theorem isExact_ofDocument_iff (root : Path) :
    IsExact (IsRefused d) (Settings.ofDocument root d) ↔
      (d.isVoid d.top = true → ¬ IsRefused d) ∧ NumbersFit d := by
  rw [Settings.ofDocument]
  by_cases hvoid : d.isVoid d.top = true
  · rw [if_pos hvoid, isExact_ok]
    exact ⟨fun h => ⟨fun _ => h, numbersFit_of_member (member_of_isVoid hvoid)⟩, fun h => h.1 hvoid⟩
  rw [if_neg hvoid]
  refine Iff.trans ?_ (and_iff_right fun h => absurd h hvoid).symm
  by_cases hmapping : IsMapping d
  · obtain ⟨entries, hentries⟩ := hmapping
    rw [hentries]
    exact isExact_ofMapping_iff root ⟨entries, hentries⟩
  · -- what is something else than a mapping is refused, and so it should be
    have htop : d.top ≠ .null := fun h => hvoid (by rw [h]; rfl)
    have hfit := numbersFit_of_member (member_of_not_isMapping hmapping)
    split
    · next entries hentries => exact absurd ⟨entries, hentries⟩ hmapping
    · exact iff_of_true (isExact_settings.2 (.inl ⟨htop, hmapping⟩)) hfit

/-- Settings are read from a file that can be read. -/
theorem loadSettings_of_read {disk : Disk} {p file : Path} {t : Text} (hfile : settingsFile disk p = .ok file)
    (hread : disk.read file = .ok t) : loadSettings disk p = Settings.ofText file.parent t := by
  rw [loadSettings, hfile]
  change (do
    if ← (disk.exists? file).mapError Failure.disk then
      Settings.ofText file.parent (← (disk.read file).mapError Failure.disk)
    else return Settings.standard file.parent) = _
  rw [Disk.exists?_of_read hread, hread]
  rfl

end Settings

open Settings in
/-- **Settings are read exactly** from a file when no refused document in it counts as nothing, because its text
is blank or its value is void, and the numbers in it fit. -/
theorem loadSettings_isExact_iff {disk : Disk} {p file : Path} {t : Text} {d : Document}
    (hfile : settingsFile disk p = .ok file) (hread : disk.read file = .ok t)
    (hdoc : Document.ofText t = .ok d) :
    IsExact (IsRefused d) (loadSettings disk p) ↔
      (t.allBlank = true ∨ d.isVoid d.top = true → ¬ IsRefused d) ∧ (t.allBlank = false → NumbersFit d) := by
  rw [loadSettings_of_read hfile hread, Settings.ofText]
  cases hblank : t.allBlank with
  | true =>
    rw [if_pos rfl, isExact_ok]
    exact ⟨fun h => ⟨fun _ => h, nofun⟩, fun h => h.1 (.inl rfl)⟩
  | false =>
    rw [if_neg Bool.false_ne_true, hdoc]
    simpa using isExact_ofDocument_iff file.parent

namespace Settings

/-- A disk with a file of settings and nothing else. -/
def settingsDisk (t : String) : Disk where
  entries := [([settingsName], .file { content := .text t.toList, modified := 0 })]

/-- The path of that file. -/
def settingsPath : Path := { slashes := 1, names := [settingsName] }

/-- Settings with a known language and an unknown way to combine properties. -/
def refusedText : String := "locale: ZH\nprops:\n  merge: newest\nservice:\n  host: local\n"

/-- The document that these settings make. -/
def refusedDocument : Document where
  top := .collection 0
  collections := [
    (8, .mapping [(.text "host".toList, .text "local".toList)]),
    (4, .mapping [(.text "merge".toList, .text "newest".toList)]),
    (0, .mapping [(.text "locale".toList, .text "ZH".toList), (.text "props".toList, .collection 4),
      (.text "service".toList, .collection 8)])]

theorem numbersFit_refusedDocument : NumbersFit refusedDocument where
  texts := by decide +kernel
  merge _ := by decide +kernel
  interval _ _ := by
    rw [show memberOf refusedDocument "watch" "interval" = none by decide +kernel]
    exact id
  host _ _ := by decide +kernel

theorem isExact_refusedText :
    IsExact (IsRefused refusedDocument) (loadSettings (settingsDisk refusedText) settingsPath) := by
  have hfile : settingsFile (settingsDisk refusedText) settingsPath = .ok settingsPath := by decide +kernel
  have hread : (settingsDisk refusedText).read settingsPath = .ok refusedText.toList := by decide +kernel
  have hdoc : Document.ofText refusedText.toList = .ok refusedDocument := by decide +kernel
  have hblank : Text.allBlank refusedText.toList = false := by decide +kernel
  have hvoid : refusedDocument.isVoid refusedDocument.top = false := by decide +kernel
  refine (loadSettings_isExact_iff hfile hread hdoc).2 ⟨fun h => ?_, fun _ => numbersFit_refusedDocument⟩
  rw [hblank, hvoid] at h
  exact absurd h (by decide)

/-- A document that is false counts as no settings, although it is not a mapping. -/
theorem not_isExact_false :
    Document.ofText "false\n".toList = .ok { top := .boolean false } ∧
      ¬ IsExact (IsRefused { top := .boolean false }) (loadSettings (settingsDisk "false\n") settingsPath) := by
  have hfile : settingsFile (settingsDisk "false\n") settingsPath = .ok settingsPath := by decide +kernel
  have hread : (settingsDisk "false\n").read settingsPath = .ok "false\n".toList := by decide +kernel
  have hdoc : Document.ofText "false\n".toList = .ok { top := .boolean false } := by decide +kernel
  have hrefused : IsRefused { top := .boolean false } := .inl ⟨nofun, nofun⟩
  refine ⟨hdoc, fun h => ?_⟩
  rw [loadSettings_of_read hfile hread, Settings.ofText, if_neg (by decide +kernel), hdoc] at h
  exact isExact_ok.1 h hrefused

end Settings

end ComponentBook
