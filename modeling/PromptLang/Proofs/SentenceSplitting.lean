import Mathlib.Data.List.Forall2
import Mathlib.Data.List.TakeWhile
import PromptLang.Strategy.Question

/-! The questions of a text. They are the trimmed pieces between its stops, but for blanks and labels; each of them is one sentence on
one line, so a text that holds one question a line splits into these lines again. -/

namespace PromptLang

open Text

section Trimming

structure Bare (s : List Char) : Prop where
  first : ∀ c, s.head? = some c → isSpace c = false
  last : ∀ c, s.getLast? = some c → isSpace c = false

/-- What is left of a piece when only white space is taken off, and all of it at the ends. -/
structure Trimmed (piece core : List Char) : Prop where
  around : ∃ left right, piece = left ++ core ++ right ∧ (∀ c ∈ left, isSpace c) ∧ ∀ c ∈ right, isSpace c
  bare : Bare core

theorem isSpace_head_dropWhile {s : List Char} {c : Char} (h : (s.dropWhile isSpace).head? = some c) : isSpace c = false := by
  have hhead := List.head?_dropWhile_not isSpace s
  rwa [h] at hhead

theorem dropWhile_blank {left s : List Char} (hleft : ∀ c ∈ left, isSpace c) (hs : ∀ c, s.head? = some c → isSpace c = false) :
    (left ++ s).dropWhile isSpace = s := by
  rw [List.dropWhile_append_of_pos hleft]
  cases s with
  | nil => rfl
  | cons c rest => exact List.dropWhile_cons_of_neg (by simp [hs c rfl])

theorem trimmed_trimChars (piece : List Char) : Trimmed piece (trimChars piece) := by
  have hleft : piece.takeWhile isSpace ++ piece.dropWhile isSpace = piece := List.takeWhile_append_dropWhile
  generalize hrest : piece.dropWhile isSpace = rest at hleft
  have hright : trimChars piece ++ (rest.reverse.takeWhile isSpace).reverse = rest := by
    rw [trimChars, hrest, ← List.reverse_append, List.takeWhile_append_dropWhile, List.reverse_reverse]
  refine ⟨⟨piece.takeWhile isSpace, (rest.reverse.takeWhile isSpace).reverse, ?_, ?_, ?_⟩, ?_, ?_⟩
  · rw [List.append_assoc, hright, hleft]
  · intro c hc
    exact List.mem_takeWhile_imp hc
  · intro c hc
    exact List.mem_takeWhile_imp (List.mem_reverse.1 hc)
  · intro c hc
    apply isSpace_head_dropWhile
    rw [hrest, ← hright, List.head?_append, hc, Option.some_or]
  · intro c hc
    rw [trimChars, List.getLast?_reverse] at hc
    exact isSpace_head_dropWhile hc

theorem Trimmed.eq_trimChars {piece core : List Char} (h : Trimmed piece core) : core = trimChars piece := by
  obtain ⟨⟨left, right, rfl, hleft, hright⟩, hbare⟩ := h
  by_cases hcore : core = []
  · subst hcore
    have hblank : ∀ c ∈ left ++ [] ++ right, isSpace c := by simpa [or_imp, forall_and] using ⟨hleft, hright⟩
    rw [trimChars, List.dropWhile_eq_nil_iff.2 hblank]
    rfl
  · have hfront : ∀ c, (core ++ right).head? = some c → isSpace c = false := by
      rw [List.head?_append_of_ne_nil _ hcore]
      exact hbare.first
    have hback : ∀ c, core.reverse.head? = some c → isSpace c = false := by
      rw [List.head?_reverse]
      exact hbare.last
    have hright' : ∀ c ∈ right.reverse, isSpace c := fun c hc => hright c (List.mem_reverse.1 hc)
    rw [trimChars, List.append_assoc, dropWhile_blank hleft hfront, List.reverse_append, dropWhile_blank hright' hback,
      List.reverse_reverse]

theorem Bare.trimChars_eq {s : List Char} (h : Bare s) : trimChars s = s := by
  have htrimmed : Trimmed s s := ⟨⟨[], [], by simp, by simp, by simp⟩, h⟩
  exact htrimmed.eq_trimChars.symm

theorem trimChars_concat {c : Char} (h : isSpace c = true) (s : List Char) : trimChars (s ++ [c]) = trimChars s := by
  obtain ⟨⟨left, right, hs, hleft, hright⟩, hbare⟩ := trimmed_trimChars s
  have htrimmed : Trimmed (s ++ [c]) (trimChars s) := by
    refine ⟨⟨left, right ++ [c], ?_, hleft, ?_⟩, hbare⟩
    · rw [← List.append_assoc, ← hs]
    · simpa [or_imp, forall_and] using ⟨hright, h⟩
  exact htrimmed.eq_trimChars.symm

theorem forall₂_trimmed (pieces : List (List Char)) : List.Forall₂ Trimmed pieces (pieces.map trimChars) :=
  List.forall₂_map_right_iff.2 (List.forall₂_same.2 fun piece _ => trimmed_trimChars piece)

theorem eq_map_of_forall₂_trimmed {pieces cores : List (List Char)} (h : List.Forall₂ Trimmed pieces cores) :
    cores = pieces.map trimChars := by
  induction h with
  | nil => rfl
  | cons hcore _ ih => rw [List.map_cons, ← hcore.eq_trimChars, ← ih]

end Trimming

section Cutting

def sentenceEnds : List Char := ['?', '.', '!']

/-- The characters that end a piece. -/
def stops : List Char := '\n' :: sentenceEnds

/-- The pieces of a text that is cut after each stop and nowhere else. -/
inductive Cut : List Char → List (List Char) → Prop where
  | last {rest : List Char} : (∀ c ∈ rest, c ∉ stops) → Cut rest [rest]
  | piece {front text : List Char} {stop : Char} {pieces : List (List Char)} : (∀ c ∈ front, c ∉ stops) → stop ∈ stops →
      Cut text pieces → Cut (front ++ stop :: text) ((front ++ [stop]) :: pieces)

theorem isSentenceEnd_iff {c : Char} : isSentenceEnd c = true ↔ c ∈ sentenceEnds := by
  simp [isSentenceEnd, sentenceEnds, or_assoc]

theorem Cut.exists_cons {c : Char} (hc : c ∉ stops) {text : List Char} {pieces : List (List Char)} (h : Cut text pieces) :
    ∃ pieces', Cut (c :: text) pieces' := by
  cases h with
  | last hrest => exact ⟨_, .last (List.forall_mem_cons.2 ⟨hc, hrest⟩)⟩
  | piece hfront hstop hnext => exact ⟨_, .piece (List.forall_mem_cons.2 ⟨hc, hfront⟩) hstop hnext⟩

theorem exists_cut (text : List Char) : ∃ pieces, Cut text pieces := by
  induction text with
  | nil => exact ⟨_, .last (by simp)⟩
  | cons c rest ih =>
    obtain ⟨pieces, hpieces⟩ := ih
    by_cases hc : c ∈ stops
    · exact ⟨_, @Cut.piece [] rest c pieces (by simp) hc hpieces⟩
    · exact hpieces.exists_cons hc

theorem sentencePieces_cons_plain {c : Char} (hc : c ∉ stops) (text : List Char) :
    sentencePieces (c :: text) = consFirst c (sentencePieces text) := by
  obtain ⟨hline, hend⟩ := not_or.1 (mt List.mem_cons.2 hc)
  rw [sentencePieces, if_neg hline, if_neg (mt isSentenceEnd_iff.1 hend)]

theorem sentencePieces_plain {rest : List Char} (h : ∀ c ∈ rest, c ∉ stops) : sentencePieces rest = [rest] := by
  induction rest with
  | nil => rfl
  | cons c rest ih =>
    obtain ⟨hc, hrest⟩ := List.forall_mem_cons.1 h
    rw [sentencePieces_cons_plain hc, ih hrest]
    rfl

/-- A sentence end stays with its piece, a line break does not. -/
theorem sentencePieces_stop {front : List Char} (hfront : ∀ c ∈ front, c ∉ stops) {stop : Char} (hstop : stop ∈ stops)
    (text : List Char) :
    sentencePieces (front ++ stop :: text) = (if stop = '\n' then front else front ++ [stop]) :: sentencePieces text := by
  induction front with
  | nil =>
    rw [List.nil_append, sentencePieces]
    split
    · rfl
    · next hline =>
      have hend : stop ∈ sentenceEnds := (List.mem_cons.1 hstop).resolve_left hline
      rw [if_pos (isSentenceEnd_iff.2 hend)]
      rfl
  | cons c front ih =>
    obtain ⟨hc, hrest⟩ := List.forall_mem_cons.1 hfront
    rw [List.cons_append, sentencePieces_cons_plain hc, ih hrest]
    split <;> rfl

theorem Cut.map_trimChars {text : List Char} {pieces : List (List Char)} (h : Cut text pieces) :
    (sentencePieces text).map trimChars = pieces.map trimChars := by
  induction h with
  | last hrest => rw [sentencePieces_plain hrest]
  | piece hfront hstop _ ih =>
    rw [sentencePieces_stop hfront hstop, List.map_cons, List.map_cons, ih]
    -- the line break that a cut leaves at the end of its piece is white space
    split
    · next hline => rw [hline, trimChars_concat (by decide)]
    · rfl

theorem sentencePieces_ne_nil (text : List Char) : sentencePieces text ≠ [] := by
  obtain ⟨pieces, hcut⟩ := exists_cut text
  cases hcut with
  | last hrest => simp [sentencePieces_plain hrest]
  | piece hfront hstop _ => simp [sentencePieces_stop hfront hstop]

theorem sentencePieces_line (line text : List Char) :
    sentencePieces (line ++ '\n' :: text) = sentencePieces line ++ sentencePieces text := by
  induction line with
  | nil => rfl
  | cons c line ih =>
    simp only [List.cons_append, sentencePieces, ih, consFirst_append c (sentencePieces_ne_nil line)]
    split
    · rfl
    · split <;> rfl

end Cutting

section Sentences

/-- One line with at most one sentence end, which is its last character. -/
structure IsSentence (s : List Char) : Prop where
  oneLine : '\n' ∉ s
  oneEnd : ∀ before c after, s = before ++ c :: after → c ∈ sentenceEnds → after = []

theorem isSentence_nil : IsSentence [] := ⟨by simp, by simp⟩

theorem isSentence_singleton {c : Char} (h : c ≠ '\n') : IsSentence [c] := by
  refine ⟨by simpa using Ne.symm h, ?_⟩
  intro before d after hs _
  cases before with
  | nil =>
    cases hs
    rfl
  | cons b before => simp at hs

theorem IsSentence.cons {c : Char} {s : List Char} (hc : c ∉ stops) (h : IsSentence s) : IsSentence (c :: s) := by
  obtain ⟨hline, hend⟩ := not_or.1 (mt List.mem_cons.2 hc)
  refine ⟨?_, ?_⟩
  · intro hmem
    exact (List.mem_cons.1 hmem).elim (fun heq => hline heq.symm) h.oneLine
  · intro before d after hs hd
    cases before with
    | nil =>
      cases hs
      exact absurd hd hend
    | cons b before =>
      cases hs
      exact h.oneEnd before d after rfl hd

theorem IsSentence.middle {left s right : List Char} (h : IsSentence (left ++ s ++ right)) : IsSentence s := by
  refine ⟨fun hmem => h.oneLine (by simp [hmem]), ?_⟩
  intro before c after hs hc
  have hafter : after ++ right = [] := by
    apply h.oneEnd (left ++ before) c _ _ hc
    simp [hs]
  exact (List.append_eq_nil_iff.1 hafter).1

theorem IsSentence.append {front s : List Char} (hfront : ∀ c ∈ front, c ∉ stops) (h : IsSentence s) : IsSentence (front ++ s) := by
  induction front with
  | nil => exact h
  | cons c front ih =>
    obtain ⟨hc, hrest⟩ := List.forall_mem_cons.1 hfront
    exact (ih hrest).cons hc

theorem isSentence_plain {s : List Char} (h : ∀ c ∈ s, c ∉ stops) : IsSentence s := by
  simpa using isSentence_nil.append h

theorem isSentence_of_mem {piece text : List Char} (h : piece ∈ sentencePieces text) : IsSentence piece := by
  -- along a cut, as each of its pieces is a front without stops and the stop that ends it
  obtain ⟨pieces, hcut⟩ := exists_cut text
  induction hcut with
  | last hrest =>
    rw [sentencePieces_plain hrest] at h
    rw [List.mem_singleton.1 h]
    exact isSentence_plain hrest
  | piece hfront hstop _ ih =>
    rw [sentencePieces_stop hfront hstop] at h
    obtain rfl | hlater := List.mem_cons.1 h
    · split
      · exact isSentence_plain hfront
      · next hline => exact (isSentence_singleton hline).append hfront
    · exact ih hlater

/-- A sentence is its own piece; the empty piece behind its end is no question. -/
theorem IsSentence.sentencePieces_eq {s : List Char} (h : IsSentence s) : sentencePieces s = [s] ∨ sentencePieces s = [s, []] := by
  induction s with
  | nil => exact .inl rfl
  | cons c rest ih =>
    have hline : c ≠ '\n' := fun heq => h.oneLine (by simp [heq])
    by_cases hend : c ∈ sentenceEnds
    · have hrest : rest = [] := h.oneEnd [] c rest rfl hend
      rw [hrest, sentencePieces, if_neg hline, if_pos (isSentenceEnd_iff.2 hend)]
      exact .inr rfl
    · have hc : c ∉ stops := mt List.mem_cons.1 (not_or.2 ⟨hline, hend⟩)
      have hrest : IsSentence ([c] ++ rest ++ []) := by simpa using h
      rw [sentencePieces_cons_plain hc]
      obtain hpieces | hpieces := ih hrest.middle
      · exact .inl (by rw [hpieces, consFirst])
      · exact .inr (by rw [hpieces, consFirst])

end Sentences

section Questions

structure IsSegment (s : List Char) : Prop extends IsSentence s, Bare s where
  notEmpty : s ≠ []
  noLabel : s.getLast? ≠ some ':'

theorem isQuestion_iff {s : List Char} : isQuestion s = true ↔ s ≠ [] ∧ s.getLast? ≠ some ':' := by
  simp [isQuestion]

def questionsOf (text : List Char) : List (List Char) := ((sentencePieces text).map trimChars).filter isQuestion

theorem splitQuestions_eq (text : String) : splitQuestions text = (questionsOf text.toList).map String.ofList := rfl

theorem isSegment_of_mem {s text : List Char} (h : s ∈ questionsOf text) : IsSegment s := by
  obtain ⟨hs, hquestion⟩ := List.mem_filter.1 h
  obtain ⟨piece, hpiece, rfl⟩ := List.mem_map.1 hs
  obtain ⟨⟨left, right, heq, -, -⟩, hbare⟩ := trimmed_trimChars piece
  have hsentence := isSentence_of_mem hpiece
  rw [heq] at hsentence
  obtain ⟨hempty, hlabel⟩ := isQuestion_iff.1 hquestion
  exact ⟨hsentence.middle, hbare, hempty, hlabel⟩

theorem IsSegment.questionsOf_eq {s : List Char} (h : IsSegment s) : questionsOf s = [s] := by
  have htrim : trimChars s = s := h.toBare.trimChars_eq
  have hquestion : isQuestion s = true := isQuestion_iff.2 ⟨h.notEmpty, h.noLabel⟩
  have hbehind : isQuestion (trimChars []) = false := rfl
  obtain hpieces | hpieces := h.toIsSentence.sentencePieces_eq
  · simp [questionsOf, hpieces, htrim, hquestion]
  · simp [questionsOf, hpieces, htrim, hquestion, hbehind]

theorem questionsOf_lines (lines : List (List Char)) : questionsOf (['\n'].intercalate lines) = lines.flatMap questionsOf := by
  induction lines with
  | nil => rfl
  | cons line rest ih =>
    cases rest with
    | nil => simp
    | cons next rest =>
      rw [List.flatMap_cons, ← ih, List.intercalate_cons_cons, List.append_assoc, List.singleton_append, questionsOf,
        sentencePieces_line, List.map_append, List.filter_append]
      rfl

theorem questionsOf_segments {segments : List (List Char)} (h : ∀ s ∈ segments, IsSegment s) :
    questionsOf (['\n'].intercalate segments) = segments := by
  rw [questionsOf_lines]
  induction segments with
  | nil => rfl
  | cons s rest ih =>
    obtain ⟨hs, hrest⟩ := List.forall_mem_cons.1 h
    rw [List.flatMap_cons, hs.questionsOf_eq, ih hrest]
    rfl

/-- The trimmed pieces of a cut that are neither empty nor labels. -/
def Segments (text : List Char) (segments : List (List Char)) : Prop :=
  ∃ pieces cores, Cut text pieces ∧ List.Forall₂ Trimmed pieces cores ∧
    segments = cores.filter fun core => core ≠ [] ∧ core.getLast? ≠ some ':'

theorem segments_iff {text : List Char} {segments : List (List Char)} : Segments text segments ↔ segments = questionsOf text := by
  have hkept : (fun core : List Char => decide (core ≠ [] ∧ core.getLast? ≠ some ':')) = isQuestion := by
    funext core
    rw [Bool.eq_iff_iff, isQuestion_iff, decide_eq_true_iff]
  rw [Segments, hkept]
  constructor
  · rintro ⟨pieces, cores, hcut, hcores, rfl⟩
    rw [eq_map_of_forall₂_trimmed hcores, ← hcut.map_trimChars, questionsOf]
  · rintro rfl
    obtain ⟨pieces, hcut⟩ := exists_cut text
    exact ⟨pieces, pieces.map trimChars, hcut, forall₂_trimmed pieces, by rw [questionsOf, hcut.map_trimChars]⟩

/-- Every question is a segment, the questions are exactly the segments of the text, and joined by line breaks they are found again. -/
theorem questions_are_trimmed_pieces (text : String) :
    (∀ s ∈ splitQuestions text, IsSegment s.toList) ∧
      (∀ segments : List String, splitQuestions text = segments ↔ Segments text.toList (segments.map String.toList)) ∧
      splitQuestions ("\n".intercalate (splitQuestions text)) = splitQuestions text := by
  have hchars : (splitQuestions text).map String.toList = questionsOf text.toList := by
    simp [splitQuestions_eq, Function.comp_def]
  refine ⟨?_, ?_, ?_⟩
  · intro s hs
    have hmem : s.toList ∈ questionsOf text.toList := hchars ▸ List.mem_map_of_mem hs
    exact isSegment_of_mem hmem
  · intro segments
    rw [segments_iff, ← hchars, eq_comm]
    exact (List.map_injective_iff.2 fun _ _ => String.toList_inj.1).eq_iff.symm
  · have hsegments : questionsOf (['\n'].intercalate (questionsOf text.toList)) = questionsOf text.toList :=
      questionsOf_segments fun s hs => isSegment_of_mem hs
    rw [splitQuestions_eq, String.toList_intercalate, hchars]
    exact congrArg (List.map String.ofList) hsegments

/-- The label is dropped, and the question behind it is trimmed. -/
theorem question_behind_label :
    "Who?" ∈ splitQuestions "Note:\n  Who? Me" ∧ IsSegment "Who?".toList ∧
      splitQuestions ("\n".intercalate (splitQuestions "Note:\n  Who? Me")) = ["Who?", "Me"] := by
  have hsplit : splitQuestions "Note:\n  Who? Me" = ["Who?", "Me"] := by decide
  have hmem : "Who?" ∈ splitQuestions "Note:\n  Who? Me" := by simp [hsplit]
  obtain ⟨hsegment, -, hagain⟩ := questions_are_trimmed_pieces "Note:\n  Who? Me"
  exact ⟨hmem, hsegment _ hmem, hagain.trans hsplit⟩

end Questions

end PromptLang
