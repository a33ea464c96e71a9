import ComponentBook.Property.Extraction
import ComponentBook.Proofs.Component.UsageReading
import ComponentBook.Proofs.Property.EntryReading

/-! # The defaults of a script and the example of its component

An entry of a declaration object gives a default by a key `default` in its object, and is required when its
key `required` gives `true` (**`EntryGives`**). What is extracted of an entry says the same: it is required
when the entry is (`required_iff`), and its default is the expression that the entry gives, without the quotes
of a literal (`default_eq_some_iff`). The example of the component leaves out the optional entries with a
default, but not those whose default is a literal with nothing between its quotes
(**`exists_mentioned`**). -/

namespace ComponentBook.ObjectDeclaration

open Markup Script Text

variable {body definition e name part script value : Text} {key : Key} {locale : Locale} {p : Property}

/-! ## What an entry gives -/

/-- The parts of a text between its commas, those in brackets, literals and comments left aside. -/
def commaParts (t : Text) : List Text := partsTopLevel (· == ',') 0 (lexemes t)

/-- A part of an entry's object gives a value for a key: behind blank characters and comments stands the word
of the key, and then a colon and the value, or a method from its parenthesis on. -/
def Gives (key : Key) (part value : Text) : Prop :=
  ∃ behind t : Text, (leadingComments part).2 = key.word ++ behind ∧ behind.head?.any isWord = false ∧
    (stripLeft behind = ':' :: t ∨ stripLeft behind = t ∧ t.head? = some '(') ∧ strip t = value

/-- The first part of an entry's object with the key gives the value. -/
def FirstGives (key : Key) (definition value : Text) : Prop :=
  ∃ front part later, commaParts definition = front ++ part :: later ∧ Gives key part value ∧
    ∀ other ∈ front, ∀ v, ¬ Gives key other v

/-- The text in the braces of a value that is an object; without a closing brace it is all that follows. -/
def definition? (value : Text) : Option Text :=
  match value with
  | '{' :: t => some (((balancedBlock? ('{' :: t)).map Prod.fst).getD t)
  | _ => none

theorem definition?_brace (t : Text) :
    definition? ('{' :: t) = some (((balancedBlock? ('{' :: t)).map Prod.fst).getD t) := rfl

theorem definition?_of_ne_brace {c : Char} (h : c ≠ '{') (t : Text) : definition? (c :: t) = none := by
  unfold definition?
  split
  · next he => exact absurd (List.cons.inj he).1 h
  · rfl

/-- A part of a declaration object is an entry whose object gives a value for a key. -/
def EntryGives (key : Key) (part value : Text) : Prop :=
  ∃ name object definition, entryAt? (leadingComments part).2 = some (name, object) ∧
    definition? object.strip = some definition ∧ FirstGives key definition value ∧ value ≠ []

theorem boundary_word (key : Key) (o : Option Char) :
    boundary key.word.getLast? o = true ↔ o.any isWord = false := by
  have hword : key.word.getLast?.any isWord = true := by cases key <;> decide
  rw [boundary, hword]
  cases o.any isWord <;> decide

theorem gives_iff : Gives key part value ↔ valueIn? key part = some value := by
  rw [valueIn?, keyValue?_eq_some_iff]
  simp only [boundary_word]
  rfl

theorem firstGives_iff : FirstGives key definition value ↔ valueOf? key definition = some value := by
  rw [valueOf?_eq, List.findSome?_eq_some_iff]
  simp only [FirstGives, gives_iff, commaParts, Option.eq_none_iff_forall_ne_some]

/-! ## What is extracted of an entry -/

theorem snd_readDefinition (definition : Text) : (readDefinition definition).2 =
    (((valueOf? .default definition).filter (· ≠ [])).map unquote,
      valueOf? .required definition == some "true".toList) := by
  rw [readDefinition]
  rcases valueOf? .default definition with _ | _ | ⟨c, t⟩ <;> rfl

/-- Only a value that is an object gives a default or a required mark. -/
theorem snd_readValue (value : Text) : (readValue value).2 =
    ((definition? value).bind fun d => ((valueOf? .default d).filter (· ≠ [])).map unquote,
      (definition? value).any fun d => valueOf? .required d == some "true".toList) := by
  unfold readValue
  split
  · rfl
  · next t =>
    rw [definition?_brace]
    cases balancedBlock? ('{' :: t) with
    | none => exact snd_readDefinition t
    | some block => exact snd_readDefinition block.1
  · next c t hbrace =>
    rw [definition?_of_ne_brace hbrace]
    rfl

/-- What is extracted of a part is read from its name and its value. -/
theorem exists_of_property? (h : property? part = some p) : ∃ value,
    entryAt? (leadingComments part).2 = some (p.name, value) ∧
      (p.default, p.required) = (readValue value.strip).2 := by
  rw [property?] at h
  simp only [Option.bind_eq_bind, Option.bind_eq_some_iff] at h
  obtain ⟨⟨name, value⟩, hentry, he⟩ := h
  obtain rfl := Option.some.inj he
  exact ⟨value, hentry, rfl⟩

theorem entryGives_iff (h : entryAt? (leadingComments part).2 = some (name, value)) {key : Key} {v : Text} :
    EntryGives key part v ↔ v ≠ [] ∧ ∃ definition, definition? value.strip = some definition ∧
      valueOf? key definition = some v := by
  constructor
  · rintro ⟨name', value', definition, hentry, hdefinition, hgives, hne⟩
    obtain ⟨rfl, rfl⟩ := Prod.mk.inj (Option.some.inj (h.symm.trans hentry))
    exact ⟨hne, definition, hdefinition, firstGives_iff.1 hgives⟩
  · rintro ⟨hne, definition, hdefinition, hgives⟩
    exact ⟨name, value, definition, h, hdefinition, firstGives_iff.2 hgives, hne⟩

/-- A property is required when its entry is. -/
theorem required_iff (h : property? part = some p) : p.required = true ↔ EntryGives .required part "true" := by
  obtain ⟨value, hentry, hread⟩ := exists_of_property? h
  rw [snd_readValue] at hread
  rw [entryGives_iff hentry, (Prod.mk.inj hread).2, Option.any_eq_true]
  simp

/-- A property has a default when its entry gives one: the expression without the quotes of a literal. -/
theorem default_eq_some_iff (h : property? part = some p) {d : Text} :
    p.default = some d ↔ ∃ e, EntryGives .default part e ∧ unquote e = d := by
  obtain ⟨value, hentry, hread⟩ := exists_of_property? h
  rw [snd_readValue] at hread
  rw [(Prod.mk.inj hread).1]
  simp only [entryGives_iff hentry, Option.bind_eq_some_iff, Option.map_eq_some_iff, Option.filter_eq_some_iff]
  constructor
  · rintro ⟨definition, hdefinition, e, ⟨hvalue, hne⟩, rfl⟩
    exact ⟨e, ⟨by simpa using hne, definition, hdefinition, hvalue⟩, rfl⟩
  · rintro ⟨e, ⟨hne, definition, hdefinition, hvalue⟩, rfl⟩
    exact ⟨definition, hdefinition, e, ⟨hvalue, by simpa using hne⟩, rfl⟩

/-- Nothing is left of a literal with nothing between its quotes, and of no other expression. -/
theorem unquote_eq_nil_iff (hne : e ≠ []) (htrim : e.strip = e) :
    unquote e = [] ↔ ∃ quote, isQuote quote = true ∧ e = [quote, quote] := by
  rw [unquote, htrim]
  rcases e with _ | ⟨c, _ | ⟨d, t⟩⟩
  · exact absurd rfl hne
  · simp
  · show (if isQuote c && (d :: t).getLast? = some c then (d :: t).dropLast else c :: d :: t) = [] ↔ _
    constructor
    · intro h
      split_ifs at h with hquotes
      rw [Bool.and_eq_true, decide_eq_true_eq] at hquotes
      obtain ⟨front, hfront⟩ := List.getLast?_eq_some_iff.1 hquotes.2
      rw [hfront, List.dropLast_concat] at h
      exact ⟨c, hquotes.1, by rw [hfront, h, List.nil_append]⟩
    · rintro ⟨quote, hquote, he⟩
      obtain ⟨rfl, ht⟩ := List.cons.inj he
      rw [ht, hquote, if_pos (by simp)]
      rfl

/-! ## Names -/

theorem isPropertyName_of_property? (h : property? part = some p) : IsPropertyName p.name := by
  obtain ⟨value, hentry, -⟩ := exists_of_property? h
  obtain ⟨quote, x, y, -, hstart, hname, -, -⟩ := entryAt?_eq_some_iff.1 hentry
  refine ⟨fun hnil => ?_, fun c hc => ?_⟩
  · rw [hnil] at hstart hname
    cases hrest : quote.toList ++ x with
    | nil =>
      rw [List.nil_append, hrest] at hstart
      cases hstart
    | cons c t =>
      rw [List.nil_append, hrest] at hstart hname
      have hc : isIdentifierChar c = true := isIdentifierChar_of_isIdentifierStart hstart
      rw [List.takeWhile_cons_of_pos (by rw [hc, Bool.true_or])] at hname
      cases hname
  · rw [← hname] at hc
    exact List.mem_takeWhile_imp (p := fun c => isIdentifierChar c || c = '-') hc

/-! ## What an example mentions -/

/-- The parts of a declaration object that are read as entries, each with what is extracted of it. -/
def entries (body : Text) : List (Text × Property) :=
  (commaParts body).filterMap fun part => (property? part).map fun p => (part, p)

theorem map_snd_entries (h : declarationObject? script = some body) :
    (entries body).map Prod.snd = objectProperties script := by
  rw [objectProperties_eq h, entries, List.map_filterMap]
  refine List.filterMap_congr fun part _ => ?_
  rw [Option.map_map]
  exact Option.map_id'

theorem property?_of_mem_entries {entry : Text × Property} (h : entry ∈ entries body) :
    property? entry.1 = some entry.2 := by
  obtain ⟨part, -, he⟩ := List.mem_filterMap.1 h
  obtain ⟨p, hp, rfl⟩ := Option.map_eq_some_iff.1 he
  exact hp

theorem EntryGives.ne_nil (h : EntryGives key part e) : e ≠ [] := by
  obtain ⟨-, -, -, -, -, -, hne⟩ := h
  exact hne

theorem EntryGives.trimmed (h : EntryGives key part e) : e.strip = e := by
  obtain ⟨-, -, -, -, -, ⟨-, -, -, -, ⟨behind, t, -, -, -, rfl⟩, -⟩, -⟩ := h
  exact strip_strip t

/-- A property is mentioned when its entry is required, gives no default, or gives one with nothing between its
quotes. -/
theorem not_omissible_iff (h : property? part = some p) : (!p.omissible) = true ↔
    EntryGives .required part "true" ∨ (∀ e, ¬ EntryGives .default part e) ∨
      ∃ quote, isQuote quote = true ∧ EntryGives .default part [quote, quote] := by
  have hempty :
      p.default = some [] ↔ ∃ quote, isQuote quote = true ∧ EntryGives .default part [quote, quote] := by
    rw [default_eq_some_iff h]
    constructor
    · rintro ⟨e, hgives, hnil⟩
      obtain ⟨quote, hquote, rfl⟩ := (unquote_eq_nil_iff hgives.ne_nil hgives.trimmed).1 hnil
      exact ⟨quote, hquote, hgives⟩
    · rintro ⟨quote, hquote, hgives⟩
      exact ⟨_, hgives, (unquote_eq_nil_iff hgives.ne_nil hgives.trimmed).2 ⟨quote, hquote, rfl⟩⟩
  have hnone : p.default = none ↔ ∀ e, ¬ EntryGives .default part e := by
    rw [Option.eq_none_iff_forall_ne_some]
    simp only [ne_eq, default_eq_some_iff h, not_exists, not_and]
    exact ⟨fun hno e hgives => hno _ e hgives rfl, fun hno _ e hgives => absurd hgives (hno e)⟩
  rw [← hempty, ← hnone, ← required_iff h, Property.omissible]
  cases p.required <;> rcases p.default with _ | _ | _ <;> simp

theorem firstOfEachName_eq_self {seen : List Text} {ps : List Property} (hnames : (ps.map Property.name).Nodup)
    (hseen : ∀ p ∈ ps, p.name ∉ seen) : firstOfEachName seen ps = ps := by
  induction ps generalizing seen with
  | nil => rfl
  | cons p ps ih =>
    rw [List.map_cons, List.nodup_cons] at hnames
    rw [List.forall_mem_cons] at hseen
    rw [firstOfEachName, if_neg (by simpa using hseen.1), ih hnames.2]
    intro q hq hmem
    rcases List.mem_cons.1 hmem with hname | hmem
    · exact hnames.1 (hname ▸ List.mem_map_of_mem hq)
    · exact hseen.2 q hq hmem

/-- Without an interface the properties of a script are those of its declaration object, under every policy. -/
theorem scriptProperties_eq (policy : MergePolicy) (h : InterfaceDeclaration.interfaceProperties script = [])
    (hnames : ((objectProperties script).map Property.name).Nodup) :
    scriptProperties policy script = objectProperties script := by
  have hflat : [[], objectProperties script].flatten = objectProperties script := List.append_nil _
  rw [scriptProperties, h]
  cases policy with
  | dedupe =>
    rw [mergeProperties, hflat]
    exact firstOfEachName_eq_self hnames fun _ _ => List.not_mem_nil
  | concat => rw [mergeProperties, hflat]
  | first =>
    rw [mergeProperties]
    cases objectProperties script <;> rfl

/-- **The example of a component mentions** the properties of the entries that are required, give no default,
or give one with nothing between its quotes, in order, and no others. -/
theorem exists_mentioned (hbody : declarationObject? script = some body) (hlocale : locale ∈ Locale.all)
    (hname : IsElementName name) (hasSlot : Bool) :
    objectProperties script = (entries body).map Prod.snd ∧
    (∀ policy, InterfaceDeclaration.interfaceProperties script = [] →
      ((objectProperties script).map Property.name).Nodup →
        scriptProperties policy script = objectProperties script) ∧
    ∃ (opening : Tag) (kept : Text × Property → Bool),
      (placedTokens (usageExample locale name (objectProperties script) hasSlot)).head? =
        some ([], .tag opening) ∧
      (readAttributes opening.attrs).map Prod.fst =
        ((entries body).filter kept).map (fun entry => entry.2.name) ∧
      ∀ entry ∈ entries body, kept entry = true ↔
        EntryGives .required entry.1 "true" ∨ (∀ e, ¬ EntryGives .default entry.1 e) ∨
          ∃ quote, isQuote quote = true ∧ EntryGives .default entry.1 [quote, quote] := by
  have hentries := map_snd_entries hbody
  have hps : ∀ p ∈ objectProperties script, IsPropertyName p.name := by
    rw [← hentries, List.forall_mem_map]
    exact fun entry hentry => isPropertyName_of_property? (property?_of_mem_entries hentry)
  refine ⟨hentries.symm, fun policy => scriptProperties_eq policy,
    openingTag locale name (objectProperties script) hasSlot, fun entry => !entry.2.omissible, ?_, ?_, ?_⟩
  · rw [placedTokens_usageExample hlocale hname hps]
    rfl
  · rw [readAttributes_openingTag hlocale hps, usageAttributes, ← hentries, List.filter_map, List.map_map,
      List.map_map]
    rfl
  · exact fun entry hentry => not_omissible_iff (property?_of_mem_entries hentry)

/-- A script in which a default is a factory, one is a number, and one entry has none. -/
def listScript : Text :=
  "defineProps(\x7b items: \x7b default() \x7b return [] \x7d \x7d, rows: \x7b default: 3 \x7d, title: String \x7d)"

/-- The text of its declaration object. -/
def listBody : Text :=
  " items: \x7b default() \x7b return [] \x7d \x7d, rows: \x7b default: 3 \x7d, title: String "

theorem exists_mentioned_listScript : declarationObject? listScript = some listBody ∧
    ∃ (opening : Tag) (kept : Text × Property → Bool),
      (readAttributes opening.attrs).map Prod.fst =
        ((entries listBody).filter kept).map (fun entry => entry.2.name) ∧
      ∀ entry ∈ entries listBody, kept entry = true ↔
        EntryGives .required entry.1 "true" ∨ (∀ e, ¬ EntryGives .default entry.1 e) ∨
          ∃ quote, isQuote quote = true ∧ EntryGives .default entry.1 [quote, quote] := by
  have hbody : declarationObject? listScript = some listBody := by decide +kernel
  have hlocale : Locale.english ∈ Locale.all := List.mem_cons_self
  have hname : IsElementName "List" := ⟨by decide, by decide⟩
  obtain ⟨-, -, opening, kept, -, hnames, hkept⟩ := exists_mentioned hbody hlocale hname false
  exact ⟨hbody, opening, kept, hnames, hkept⟩

/-- A script in which a default has nothing between its quotes. -/
def labelScript : Text := "export default \x7b props: \x7b label: \x7b type: String, default: '' \x7d \x7d \x7d"

/-- An optional property whose default is an empty literal is mentioned. -/
theorem mentioned_label :
    ∃ body part, declarationObject? labelScript = some body ∧ commaParts body = [part] ∧
      EntryGives .default part "''" ∧ ¬ EntryGives .required part "true" ∧
      usageExample .english "X" (objectProperties labelScript) false = "<X label=\"label content\" />".toList := by
  have hproperty : property? " label: \x7b type: String, default: '' \x7d " =
      some ⟨"label", "String", false, some "", "", "options"⟩ := by decide +kernel
  have hgives : EntryGives .default " label: \x7b type: String, default: '' \x7d " "''" :=
    ⟨"label", "\x7b type: String, default: '' \x7d ", " type: String, default: '' ", by decide +kernel,
      by decide +kernel, firstGives_iff.2 (by decide +kernel), by decide⟩
  refine ⟨" label: \x7b type: String, default: '' \x7d ", " label: \x7b type: String, default: '' \x7d ",
    by decide +kernel, by decide +kernel, hgives, ?_, by decide +kernel⟩
  rw [← required_iff hproperty]
  exact Bool.false_ne_true

end ComponentBook.ObjectDeclaration
