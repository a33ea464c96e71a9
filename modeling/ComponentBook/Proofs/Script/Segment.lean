import ComponentBook.Proofs.Script.Code

/-! # Where segments stand

The parts that a text is split into make up the text, with one character between each two of them
(**`Separated`**). So every segment stands in the text at its own place and ends in front of the next one.
Chunks of code with a separator between them are the segments of their join, each at the place at which it
starts there, the blank ones left out (**`splitTopLevel_join`**). -/

namespace ComponentBook.Script

open Text

variable {isSeparator : Char → Bool} {c : Char} {t : Text} {parts : List Text} {segment : Segment}

/-! ## The parts of a text -/

/-- Parts that make up a text, with one character between each two of them. -/
inductive Separated : List Text → Text → Prop where
  /-- The text is its only part. -/
  | last (part : Text) : Separated [part] part
  /-- The first part, a character and the other parts. -/
  | cons (part : Text) (c : Char) {parts : List Text} {t : Text} : Separated parts t →
      Separated (part :: parts) (part ++ c :: t)

/-- What stands in front of the text stands in front of its first part. -/
theorem Separated.prepend (h : Separated parts t) (s : Text) : Separated (prepend s parts) (s ++ t) := by
  cases h with
  | last => exact .last (s ++ t)
  | cons part c hrest =>
    rw [← List.append_assoc]
    exact .cons (s ++ part) c hrest

/-- The parts between the separators make up the text. -/
theorem separated_partsTopLevel (isSeparator : Char → Bool) (depth : Nat) (ls : List Lexeme) :
    Separated (partsTopLevel isSeparator depth ls) (textOf ls) := by
  induction ls generalizing depth with
  | nil => exact .last []
  | cons l ls ih =>
    rw [textOf_cons]
    by_cases hsep : l.separates isSeparator depth = true
    · -- only a single character separates
      rw [partsTopLevel_separates hsep]
      obtain ⟨-, -, c, rfl, -⟩ := Lexeme.separates_iff.1 hsep
      exact .cons [] c (ih depth)
    · rw [partsTopLevel_cons (by simpa using hsep)]
      exact (ih (l.depthAfter depth)).prepend l.text

/-! ## Places -/

/-- A segment is what stands in a text at its place. -/
def Segment.StandsIn (segment : Segment) (t : Text) : Prop :=
  (t.drop segment.offset).take segment.text.length = segment.text

/-- A segment ends in front of the place of another one. -/
def Segment.EndsBefore (a b : Segment) : Prop := a.offset + a.text.length < b.offset

/-- Each part stands in the text at the place that is counted for it. -/
theorem Separated.standsIn (h : Separated parts t) (front : Text) :
    ∀ segment ∈ placeParts front.length parts, segment.StandsIn (front ++ t) := by
  induction h generalizing front with
  | last part =>
    intro segment hsegment
    obtain rfl := List.mem_singleton.1 hsegment
    simp [Segment.StandsIn]
  | @cons part c parts t _ ih =>
    intro segment hsegment
    rcases List.mem_cons.1 hsegment with rfl | hlater
    · simp [Segment.StandsIn]
    · -- the part and the character behind it join what stands in front
      have hfront : (front ++ (part ++ [c])).length = front.length + part.length + 1 := by
        simp only [List.length_append, List.length_singleton]
        omega
      rw [← hfront] at hlater
      have hin := ih (front ++ (part ++ [c])) segment hlater
      rwa [List.append_assoc, List.append_assoc, List.singleton_append] at hin

theorem le_offset_of_mem_placeParts {offset : Nat} (h : segment ∈ placeParts offset parts) :
    offset ≤ segment.offset := by
  induction parts generalizing offset with
  | nil => cases h
  | cons part parts ih =>
    rcases List.mem_cons.1 h with rfl | hlater
    · exact Nat.le_refl offset
    · have hle := ih hlater
      omega

/-- The places that are counted for the parts are in order. -/
theorem pairwise_placeParts (offset : Nat) (parts : List Text) :
    (placeParts offset parts).Pairwise Segment.EndsBefore := by
  induction parts generalizing offset with
  | nil => exact .nil
  | cons part parts ih =>
    refine .cons ?_ (ih _)
    intro segment hsegment
    have hle := le_offset_of_mem_placeParts hsegment
    show offset + part.length < segment.offset
    omega

/-- Every segment of a text is what stands there at its place. -/
theorem standsIn_of_mem_splitTopLevel (h : segment ∈ splitTopLevel isSeparator t) : segment.StandsIn t := by
  have hin := (separated_partsTopLevel isSeparator 0 (lexemes t)).standsIn [] segment (List.mem_filter.1 h).1
  rwa [List.nil_append, textOf_lexemes] at hin

theorem infix_of_mem_splitTopLevel (h : segment ∈ splitTopLevel isSeparator t) : segment.text <:+: t := by
  rw [← standsIn_of_mem_splitTopLevel h]
  exact (List.take_prefix _ _).isInfix.trans (List.drop_suffix _ _).isInfix

/-- A segment ends inside the text. -/
theorem le_of_mem_splitTopLevel (h : segment ∈ splitTopLevel isSeparator t) :
    segment.offset + segment.text.length ≤ t.length := by
  have hfilled : segment.text ≠ [] := by
    intro hnil
    have hblank := (List.mem_filter.1 h).2
    rw [hnil] at hblank
    cases hblank
  have hpos := List.length_pos_iff.2 hfilled
  have hlength := congrArg List.length (standsIn_of_mem_splitTopLevel h)
  rw [List.length_take, List.length_drop] at hlength
  omega

/-! ## Chunks and their join -/

/-- The place at which a chunk starts when a character is put between the chunks: behind those in front of
it, each with that character. -/
def startOf (c : Char) (chunks : List Text) (k : Nat) : Nat :=
  ((chunks.take k).flatMap fun chunk => chunk ++ [c]).length

theorem startOf_succ (c : Char) (chunk : Text) (chunks : List Text) (k : Nat) :
    startOf c (chunk :: chunks) (k + 1) = chunk.length + 1 + startOf c chunks k := by
  rw [startOf, List.take_succ_cons, List.flatMap_cons, List.length_append, List.length_append,
    List.length_singleton]
  rfl

/-- Chunks with the places at which they start. -/
def segmentsOf (c : Char) (chunks : List Text) : List Segment :=
  chunks.zipIdx.map fun chunk => ⟨startOf c chunks chunk.2, chunk.1⟩

theorem placeParts_eq (c : Char) (offset : Nat) (parts : List Text) : placeParts offset parts =
    parts.zipIdx.map fun part => ⟨offset + startOf c parts part.2, part.1⟩ := by
  induction parts generalizing offset with
  | nil => rfl
  | cons part parts ih =>
    rw [placeParts, ih, List.zipIdx_cons', List.map_cons, List.map_map]
    congr 1
    apply List.map_congr_left
    intro next _
    simp only [Function.comp_apply, Prod.map_fst, Prod.map_snd, id_eq, startOf_succ]
    congr 1
    omega

/-- **Splitting undoes joining.** -/
theorem splitTopLevel_join (hc : c = ',' ∨ c = ';') :
    (∀ chunks : List Text, (∀ chunk ∈ chunks, Code true (· == c) chunk) →
      splitTopLevel (· == c) (join [c] chunks) =
        (segmentsOf c chunks).filter fun segment => !segment.text.allBlank) ∧
    ∀ t : Text, (∀ segment ∈ splitTopLevel (· == c) t, segment.StandsIn t) ∧
      (splitTopLevel (· == c) t).Pairwise Segment.EndsBefore := by
  have hseparator : IsSeparator (· == c) c := by
    apply isSeparator_of_inert
    rcases hc with rfl | rfl <;> decide
  refine ⟨fun chunks hchunks => ?_, fun t => ⟨fun segment h => standsIn_of_mem_splitTopLevel h, ?_⟩⟩
  · rw [splitTopLevel]
    by_cases hne : chunks = []
    · rw [hne, join_nil, lexemes]
      rfl
    · rw [partsTopLevel_join hseparator hne hchunks, placeParts_eq c]
      simp only [Nat.zero_add, segmentsOf]
  · exact (pairwise_placeParts 0 _).filter _

/-- Separators in a bracket, in a string and in a comment, and a blank chunk. -/
def sampleChunks : List Text := ["f(1, 2)", " ", "'a, b'", "c // d, e\n"]

theorem code_sampleChunks : ∀ chunk ∈ sampleChunks, Code true (· == ',') chunk := by
  intro chunk hchunk
  simp only [sampleChunks, List.mem_cons, List.not_mem_nil, or_false] at hchunk
  rcases hchunk with rfl | rfl | rfl | rfl
  · have hinside : Code true (fun _ => false) "1, 2" := .of_inert (by decide)
    have hbracket : Code true (· == ',') "(1, 2)" := .block .round hinside .nil
    exact hbracket.inert_append (a := "f") (by decide)
  · exact .of_inert (by decide)
  · exact .literal (by decide) (LiteralTail.of_plain (t := "a, b") (by decide)) .nil
  · have hbehind : Code true (· == ',') "\n" := .of_inert (by decide)
    have hcomment : Code true (· == ',') ('/' :: '/' :: (" d, e".toList ++ '\n' :: [])) :=
      .lineComment rfl (by decide) hbehind
    exact hcomment.inert_append (a := "c ") (by decide)

theorem splitTopLevel_sampleChunks :
    (∀ chunk ∈ sampleChunks, Code true (· == ',') chunk) ∧
      splitTopLevel (· == ',') (join [','] sampleChunks) =
        [⟨0, "f(1, 2)"⟩, ⟨10, "'a, b'"⟩, ⟨17, "c // d, e\n"⟩] := by
  refine ⟨code_sampleChunks, ?_⟩
  rw [(splitTopLevel_join (.inl rfl)).1 sampleChunks code_sampleChunks]
  decide

end ComponentBook.Script
