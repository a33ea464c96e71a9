import ComponentBook.Proofs.Markup.Forest

/-! # Spans that can be cut out

Whatever a template looks like, the spans of its children stand in it one behind another and none of them is
empty (**`inOrder_childSpans`**). The tags of a text stand so (`inOrder_tagsFrom`), and the open elements keep an
account of it (**`OpenElements.Tracks`**): the start of a child is known exactly while two elements or more are
open, so a child that is completed starts behind all spans before it. Every tag keeps the account
(**`OpenElements.Tracks.step`**), and so do all tags of a template (**`OpenElements.Tracks.inOrder`**).

Spans in order can be cut out in any order, from the last one to the first for instance (**`cutOut`**), and what
is between them stays (**`excerpt_cuts_childSpans`**). -/

namespace ComponentBook.Markup

open Text

variable {start stop low place offset : Nat} {s span : Span} {spans : List Span} {tag : Tag}
  {state : OpenElements} {t : Text}

/-! ## Spans in order -/

/-- Spans between two places that stand one behind another, none of them empty. -/
inductive InOrder (stop : Nat) : (start : Nat) → List Span → Prop where
  /-- No span at all. -/
  | nil {start : Nat} : start ≤ stop → InOrder stop start []
  /-- A span, and those behind it. -/
  | cons {start : Nat} {s : Span} {spans : List Span} : start ≤ s.start → s.start < s.stop →
      InOrder stop s.stop spans → InOrder stop start (s :: spans)

theorem InOrder.mono {start' : Nat} (h : InOrder stop start spans) (hle : start' ≤ start) :
    InOrder stop start' spans := by
  cases h with
  | nil hstop => exact .nil (hle.trans hstop)
  | cons hstart hspan hrest => exact .cons (hle.trans hstart) hspan hrest

theorem InOrder.le (h : InOrder stop start spans) : start ≤ stop := by
  induction h with
  | nil hstop => exact hstop
  | cons hstart hspan _ ih => exact hstart.trans (hspan.le.trans ih)

/-- Each of the spans lies between the two places. -/
theorem InOrder.of_mem (h : InOrder stop start spans) (hs : s ∈ spans) :
    start ≤ s.start ∧ s.start < s.stop ∧ s.stop ≤ stop := by
  induction h with
  | nil => cases hs
  | cons hstart hspan hrest ih =>
    rcases List.mem_cons.1 hs with rfl | hs
    · exact ⟨hstart, hspan, hrest.le⟩
    · obtain ⟨hlow, hinside⟩ := ih hs
      exact ⟨hstart.trans (hspan.le.trans hlow), hinside⟩

/-- A span ends where the next one starts, or in front of it. -/
theorem InOrder.pairwise (h : InOrder stop start spans) :
    spans.Pairwise fun a b => a.stop ≤ b.start := by
  induction h with
  | nil => exact .nil
  | cons _ _ hrest ih => exact .cons (fun b hb => (hrest.of_mem hb).1) ih

/-! ## The tags of a text -/

/-- The tags of a text stand one behind another. -/
theorem inOrder_tagsFrom (offset : Nat) (t : Text) :
    InOrder (offset + t.length) offset ((tagsFrom offset t).map Prod.fst) := by
  induction hn : t.length using Nat.strong_induction_on generalizing t offset with
  | _ n ih =>
    cases hfound : search (fun _ v => sizedToken? v) none t with
    | none =>
      rw [tagsFrom, occurrences_of_search_none hfound]
      exact .nil (Nat.le_add_right _ _)
    | some found =>
      obtain ⟨before, ⟨token, size⟩, r⟩ := found
      obtain ⟨u, rfl, htoken, -⟩ := exists_of_search hfound
      obtain ⟨v, hv, rfl⟩ := advances_sizedToken? htoken
      -- a token is as long as what is read of the text
      have hsize : size = v.length := by
        obtain ⟨⟨token', rest⟩, -, he⟩ := Option.map_eq_some_iff.1 htoken
        obtain ⟨hfound, rfl⟩ := Prod.mk.inj he
        rw [← (Prod.mk.inj hfound).2, List.length_append, Nat.add_sub_cancel]
      have hpos := List.length_pos_iff.2 hv
      simp only [List.length_append] at hn
      have hrest := ih r.length (by omega) (offset + before.length + size) r rfl
      have hend : offset + before.length + size + r.length = offset + n := by omega
      rw [hend, hsize] at hrest
      rw [tagsFrom, occurrences_of_search advances_sizedToken? hfound, hsize]
      cases token with
      | comment => exact hrest.mono (by omega)
      | tag tag => exact .cons (Nat.le_add_right _ _) (Nat.lt_add_of_pos_right hpos) hrest

/-! ## The open elements -/

/-- What is known of the open elements at a place behind the spans that are completed, the last of which ends at
`low`: the start of a child is kept exactly while two elements or more are open, and it lies between the two. -/
structure OpenElements.Tracks (state : OpenElements) (low place : Nat) : Prop where
  isSome_iff : state.childStart.isSome = true ↔ 2 ≤ state.names.length
  between : ∀ start, state.childStart = some start → low ≤ start ∧ start < place
  low_le : low ≤ place

theorem OpenElements.tracks_start : OpenElements.Tracks {} 0 0 :=
  ⟨by decide, nofun, Nat.le_refl 0⟩

/-- A tag that closes an element leaves fewer of them open. -/
theorem length_drop_dropWhile_lt {name : Text} {names : List Text} (h : name ∈ names) :
    ((names.dropWhile (· ≠ name)).drop 1).length < names.length := by
  have hle := (List.dropWhile_sublist (fun n => decide (n ≠ name)) (l := names)).length_le
  have hne : names.dropWhile (· ≠ name) ≠ [] := by
    intro hnil
    simpa using List.dropWhile_eq_nil_iff.1 hnil name h
  have hpos := List.length_pos_iff.2 hne
  rw [List.length_drop]
  omega

/-- The account goes on while nothing happens. -/
theorem OpenElements.Tracks.later {place' : Nat} (h : state.Tracks low place) (hle : place ≤ place') :
    state.Tracks low place' where
  isSome_iff := h.isSome_iff
  between start hsome := ⟨(h.between start hsome).1, (h.between start hsome).2.trans_le hle⟩
  low_le := h.low_le.trans hle

/-- While fewer than two elements are open, there is no child. -/
theorem OpenElements.tracks_of_lt {names : List Text} (hfew : names.length < 2) (hle : low ≤ place) :
    OpenElements.Tracks ⟨names, none⟩ low place where
  isSome_iff := by simpa using hfew
  between := nofun
  low_le := hle

theorem OpenElements.Tracks.childStart_eq_none (h : state.Tracks low place) (hfew : state.names.length < 2) :
    state.childStart = none := by
  rw [← Option.not_isSome_iff_eq_none, h.isSome_iff]
  exact Nat.not_le.2 hfew

/-- What a tag leaves behind: it completes nothing, or a span behind all those that are completed already, and the
account of the open elements goes on. -/
def OpenElements.TracksBehind (low place : Nat) (result : OpenElements × Option Span) : Prop :=
  (result.2 = none ∧ result.1.Tracks low place) ∨
    ∃ s, result.2 = some s ∧ low ≤ s.start ∧ s.start < s.stop ∧ result.1.Tracks s.stop place

/-- A closing tag completes a child when one element stays open of two or more. Without an element of its name it is
left aside. -/
theorem OpenElements.Tracks.step_closing (h : state.Tracks low place) (hstart : place ≤ span.start)
    (hspan : span.start < span.stop) (hclosing : tag.closing = true) :
    OpenElements.TracksBehind low span.stop (state.step span tag) := by
  have hlater := h.later (hstart.trans hspan.le)
  rw [OpenElements.step, if_pos hclosing]
  split
  · next hopen =>
    have hfewer := length_drop_dropWhile_lt (List.contains_iff_mem.1 hopen)
    dsimp only
    generalize (state.names.dropWhile (· ≠ tag.name)).drop 1 = names at hfewer ⊢
    rcases names with _ | ⟨outer, _ | ⟨inner, names⟩⟩
    · exact .inl ⟨rfl, OpenElements.tracks_of_lt Nat.two_pos hlater.low_le⟩
    · obtain ⟨start, hsome⟩ := Option.isSome_iff_exists.1 (h.isSome_iff.2 hfewer)
      obtain ⟨hle, hlt⟩ := hlater.between start hsome
      rw [hsome]
      exact .inr ⟨_, rfl, hle, hlt, OpenElements.tracks_of_lt Nat.one_lt_two le_rfl⟩
    · refine .inl ⟨rfl, ?_, hlater.between, hlater.low_le⟩
      simp only [h.isSome_iff, List.length_cons] at hfewer ⊢
      omega
  · exact .inl ⟨rfl, hlater⟩

/-- An element that closes itself is a child when one element is open, and then no child is open. -/
theorem OpenElements.Tracks.step_selfClosing (h : state.Tracks low place) (hstart : place ≤ span.start)
    (hspan : span.start < span.stop) (hclosing : ¬ tag.closing = true) (hself : tag.selfClosing = true) :
    OpenElements.TracksBehind low span.stop (state.step span tag) := by
  rw [OpenElements.step, if_neg hclosing, if_pos hself]
  by_cases hone : state.names.length = 1
  · rw [if_pos hone]
    have hnone := h.childStart_eq_none (hone ▸ Nat.one_lt_two)
    refine .inr ⟨span, rfl, h.low_le.trans hstart, hspan, h.isSome_iff, fun start hsome => ?_, le_rfl⟩
    rw [hnone] at hsome
    cases hsome
  · rw [if_neg hone]
    exact .inl ⟨rfl, h.later (hstart.trans hspan.le)⟩

/-- An opening tag completes nothing. It starts a child when one element is open. -/
theorem OpenElements.Tracks.step_opening (h : state.Tracks low place) (hstart : place ≤ span.start)
    (hspan : span.start < span.stop) (hclosing : ¬ tag.closing = true) (hself : ¬ tag.selfClosing = true) :
    OpenElements.TracksBehind low span.stop (state.step span tag) := by
  have hlater := h.later (hstart.trans hspan.le)
  rw [OpenElements.step, if_neg hclosing, if_neg hself]
  by_cases hone : state.names.length = 1
  · rw [if_pos hone]
    refine .inl ⟨rfl, by simp [hone], fun start hsome => ?_, hlater.low_le⟩
    obtain rfl := Option.some.inj hsome
    exact ⟨h.low_le.trans hstart, hspan⟩
  · rw [if_neg hone]
    refine .inl ⟨rfl, ?_, hlater.between, hlater.low_le⟩
    simp only [h.isSome_iff, List.length_cons]
    omega

/-- **What one tag does.** It completes nothing, or a span behind all those that are completed already, and the
account of the open elements goes on behind it. -/
theorem OpenElements.Tracks.step (h : state.Tracks low place) (hstart : place ≤ span.start)
    (hspan : span.start < span.stop) (tag : Tag) :
    OpenElements.TracksBehind low span.stop (state.step span tag) := by
  by_cases hclosing : tag.closing = true
  · exact h.step_closing hstart hspan hclosing
  · by_cases hself : tag.selfClosing = true
    · exact h.step_selfClosing hstart hspan hclosing hself
    · exact h.step_opening hstart hspan hclosing hself

/-- **What all tags do.** The spans that they complete are in order. -/
theorem OpenElements.Tracks.inOrder {tags : List (Span × Tag)} (h : state.Tracks low place)
    (htags : InOrder stop place (tags.map Prod.fst)) : InOrder stop low (completedSpans state tags) := by
  induction tags generalizing state low place with
  | nil => exact .nil (h.low_le.trans htags.le)
  | cons placed tags ih =>
    obtain ⟨span, tag⟩ := placed
    obtain ⟨hstart, hspan, hrest⟩ : place ≤ span.start ∧ span.start < span.stop ∧
        InOrder stop span.stop (tags.map Prod.fst) := by
      cases htags with
      | cons hstart hspan hrest => exact ⟨hstart, hspan, hrest⟩
    show InOrder stop low ((state.step span tag).2.toList ++ completedSpans (state.step span tag).1 tags)
    rcases h.step hstart hspan tag with ⟨hnone, hbehind⟩ | ⟨s, hsome, hle, hlt, hbehind⟩
    · rw [hnone]
      exact ih hbehind hrest
    · rw [hsome]
      exact .cons hle hlt (ih hbehind hrest)

theorem inOrder_childSpans (t : Text) : InOrder t.length 0 (childSpans t) := by
  have htags := inOrder_tagsFrom 0 t
  rw [Nat.zero_add, ← tags_eq] at htags
  exact OpenElements.tracks_start.inOrder htags

/-! ## Cutting spans out -/

/-- A text in which spans are replaced one after another, the last one first, each at its place. -/
def cutOut (placeholder : Text) (spans : List Span) (t : Text) : Text :=
  spans.foldr (fun s shown => shown.take s.start ++ placeholder ++ shown.drop s.stop) t

theorem cutOut_append (placeholder : Text) (front back : List Span) (t : Text) :
    cutOut placeholder (front ++ back) t = cutOut placeholder front (cutOut placeholder back t) :=
  List.foldr_append

/-- Spans in order cut a text into parts. -/
theorem InOrder.exists_parts (h : InOrder stop start spans) (hstop : stop = start + t.length) :
    ∃ ps : List Part, textOf ps = t ∧ spansOf start ps = spans := by
  induction h generalizing t with
  | nil => exact ⟨[⟨t, false⟩], List.append_nil t, rfl⟩
  | @cons start s spans hstart hspan hrest ih =>
    have hinside := hrest.le
    obtain ⟨a, b, rfl, ha⟩ : ∃ a b, t = a ++ b ∧ start + a.length = s.start :=
      ⟨_, _, (List.take_append_drop (s.start - start) t).symm, by rw [List.length_take]; omega⟩
    rw [List.length_append] at hstop
    obtain ⟨c, d, rfl, hc⟩ : ∃ c d, b = c ++ d ∧ s.start + c.length = s.stop :=
      ⟨_, _, (List.take_append_drop s.length b).symm, by rw [List.length_take, Span.length]; omega⟩
    rw [List.length_append] at hstop
    obtain ⟨ps, rfl, hps⟩ := ih (t := d) (by omega)
    refine ⟨⟨a, false⟩ :: ⟨c, true⟩ :: ps, rfl, ?_⟩
    rw [spansOf, spansOf, ha, hc, hps]
    rfl

/-- The large parts that may be left out can be cut out from the last one on: what is in front of a part is
still as it was. -/
theorem cutOut_textOf (limit : Int) (placeholder front : Text) (ps : List Part) :
    cutOut placeholder ((spansOf front.length ps).filter fun s => decide ((s.length : Int) > limit))
        (front ++ textOf ps) = front ++ ps.flatMap (Part.shown limit placeholder) := by
  induction ps generalizing front with
  | nil => rfl
  | cons p ps ih =>
    have hbehind := ih (front ++ p.text)
    rw [List.length_append, List.append_assoc, List.append_assoc] at hbehind
    rw [filter_spansOf_cons, cutOut_append, textOf_cons, hbehind, List.flatMap_cons, Part.shown]
    split
    · simp [cutOut]
    · rfl

/-- **Any template can be cut.** The spans of the children of a text are not empty, lie inside it and stand one
behind another. So an excerpt, for which the large ones are replaced from the last one on, shows the template
in parts: those that are children longer than the limit by the placeholder, and all others as they are. -/
theorem excerpt_cuts_childSpans :
    (∀ t : Text, (∀ s ∈ childSpans t, s.start < s.stop ∧ s.stop ≤ t.length) ∧
      (childSpans t).Pairwise fun a b => a.stop ≤ b.start) ∧
    ∀ limit : Int, ∀ placeholder template : Text,
      excerpt limit placeholder template =
        cutOut placeholder ((childSpans (strip template.dedent)).filter fun s => decide ((s.length : Int) > limit))
          (strip template.dedent) ∧
      ∃ ps : List Part, textOf ps = strip template.dedent ∧ spansOf 0 ps = childSpans (strip template.dedent) ∧
        excerpt limit placeholder template = ps.flatMap (Part.shown limit placeholder) := by
  refine ⟨fun t => ⟨fun s hs => ((inOrder_childSpans t).of_mem hs).2, (inOrder_childSpans t).pairwise⟩, ?_⟩
  intro limit placeholder template
  obtain ⟨ps, htext, hspans⟩ :=
    (inOrder_childSpans (strip template.dedent)).exists_parts (Nat.zero_add _).symm
  have hshown : excerpt limit placeholder template = ps.flatMap (Part.shown limit placeholder) := by
    rw [excerpt, ← hspans, ← htext, replaceSpans_textOf]
  refine ⟨?_, ps, htext, hspans, hshown⟩
  rw [hshown, ← hspans, ← htext]
  exact (cutOut_textOf limit placeholder [] ps).symm

/-- A template with closing tags in the wrong order and an element that is left open. -/
def tangledTemplate : Text := "<p><b>long <i>text</b></i></p><ul><li>open</ul>"

theorem excerpt_tangledTemplate : childSpans tangledTemplate = [⟨3, 22⟩] ∧ (3 < 22 ∧ 22 ≤ tangledTemplate.length) ∧
    excerpt 4 "..." tangledTemplate = "<p>...</i></p><ul><li>open</ul>" := by
  have hspans : childSpans tangledTemplate = [⟨3, 22⟩] := by decide +kernel
  have htext : strip tangledTemplate.dedent = tangledTemplate := by decide
  refine ⟨hspans, (excerpt_cuts_childSpans.1 tangledTemplate).1 ⟨3, 22⟩ (by rw [hspans]; decide), ?_⟩
  rw [(excerpt_cuts_childSpans.2 4 "..." tangledTemplate).1, htext, hspans]
  decide

end ComponentBook.Markup
