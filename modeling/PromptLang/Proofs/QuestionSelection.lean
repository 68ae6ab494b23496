import Mathlib.Data.List.Perm.Subperm
import PromptLang.Proofs.StrategyResults
import PromptLang.Proofs.TotalOrder

/-! Which questions are selected for an annotation: the most uncertain ones, or random ones. A question is told from others of the same text
and score by its position. -/

namespace PromptLang

/-- A selection takes each occurrence of a question at most once. -/
theorem subperm_selectQuestions {strategy : String} {questions selected : List ScoredQuestion} {w : Words}
    (h : selectQuestions strategy questions w = .ok selected) : selected.Subperm questions := by
  obtain ⟨choice, -, rfl⟩ := selectQuestions_eq_ok.1 h
  exact (List.take_sublist _ _).subperm.trans (choice.arrange_perm questions w).subperm

section Ranking

variable (questions : List ScoredQuestion)

/-- The question at `i` ranks above the one at `j`: it is more uncertain, or as uncertain and stands before it. -/
def Outranks (i j : Nat) : Prop :=
  ∃ p q, questions[i]? = some p ∧ questions[j]? = some q ∧
    (q.uncertainty < p.uncertainty ∨ q.uncertainty = p.uncertainty ∧ i < j)

def atLeastAsUncertain (p q : ScoredQuestion) : Bool := q.uncertainty ≤ p.uncertainty

/-- All questions from the most uncertain one on, with their positions. -/
def ranking : List (ScoredQuestion × Nat) := questions.zipIdx.mergeSort (List.zipIdxLE atLeastAsUncertain)

def rankedPositions : List Nat := (ranking questions).map Prod.snd

theorem map_fst_ranking : (ranking questions).map Prod.fst = questions.mergeSort atLeastAsUncertain := List.mergeSort_zipIdx

variable {questions}

theorem getElem?_of_mem_ranking {p : ScoredQuestion × Nat} (h : p ∈ ranking questions) : questions[p.2]? = some p.1 :=
  List.mem_zipIdx_iff_getElem?.1 (List.mem_mergeSort.1 h)

/-- Of two positions, the ranking has the one first that outranks the other. -/
theorem outranks_of_zipIdxLE {p q : ScoredQuestion × Nat} (hp : p ∈ ranking questions) (hq : q ∈ ranking questions)
    (hne : p.2 ≠ q.2) (hle : List.zipIdxLE atLeastAsUncertain p q = true) : Outranks questions p.2 q.2 := by
  refine ⟨p.1, q.1, getElem?_of_mem_ranking hp, getElem?_of_mem_ranking hq, ?_⟩
  unfold List.zipIdxLE atLeastAsUncertain at hle
  simp only [decide_eq_true_eq] at hle
  split at hle
  case isTrue hqp =>
    split at hle
    case isTrue hpq =>
      have hbefore := of_decide_eq_true hle
      exact .inr ⟨le_antisymm hqp hpq, by omega⟩
    case isFalse hpq => exact .inl (lt_of_not_ge hpq)
  case isFalse => exact absurd hle Bool.false_ne_true

variable (questions)

theorem rankedPositions_perm : (rankedPositions questions).Perm (List.range questions.length) := by
  have hperm := (List.mergeSort_perm questions.zipIdx (List.zipIdxLE atLeastAsUncertain)).map Prod.snd
  rwa [List.zipIdx_map_snd, ← List.range_eq_range'] at hperm

theorem nodup_rankedPositions : (rankedPositions questions).Nodup :=
  (rankedPositions_perm questions).nodup_iff.2 List.nodup_range

theorem map_rankedPositions :
    (rankedPositions questions).map (questions[·]?) = (questions.mergeSort atLeastAsUncertain).map some := by
  rw [← map_fst_ranking, rankedPositions, List.map_map, List.map_map]
  exact List.map_congr_left fun p hp => getElem?_of_mem_ranking hp

theorem pairwise_rankedPositions : (rankedPositions questions).Pairwise (Outranks questions) := by
  have hsorted : (ranking questions).Pairwise fun p q => List.zipIdxLE atLeastAsUncertain p q = true := by
    apply List.pairwise_mergeSort
    · apply List.zipIdxLE_trans
      intro p q r hpq hqr
      simp only [atLeastAsUncertain, decide_eq_true_eq] at *
      exact le_trans hqr hpq
    · apply List.zipIdxLE_total
      intro p q
      simp only [atLeastAsUncertain, Bool.or_eq_true, decide_eq_true_eq]
      exact le_total _ _
  have hdistinct := List.pairwise_map.1 (nodup_rankedPositions questions)
  refine List.pairwise_map.2 ((hsorted.and hdistinct).imp_of_mem ?_)
  intro p q hp hq ⟨hle, hne⟩
  exact outranks_of_zipIdxLE hp hq hne hle

end Ranking

/-- Questions at `chosen` positions, none of which is outranked by one that is left out. -/
structure MostUncertain (questions : List ScoredQuestion) (chosen : List Nat) (selected : List ScoredQuestion) : Prop where
  count : selected.length = min 5 questions.length
  at_chosen : selected.map some = chosen.map (questions[·]?)
  distinct : chosen.Nodup
  descending : chosen.Pairwise (Outranks questions)
  best : ∀ i ∈ chosen, ∀ j < questions.length, j ∉ chosen → Outranks questions i j

theorem mostUncertain_selectQuestions {questions selected : List ScoredQuestion} {w : Words}
    (h : selectQuestions "max_uncertainty" questions w = .ok selected) :
    MostUncertain questions ((rankedPositions questions).take 5) selected where
  count := length_selectQuestions h
  at_chosen := by
    obtain ⟨_, hchoice, rfl⟩ := selectQuestions_eq_ok.1 h
    cases hchoice
    rw [List.map_take (f := (questions[·]?)), map_rankedPositions, ← List.map_take]
    rfl
  distinct := (nodup_rankedPositions questions).sublist (List.take_sublist _ _)
  descending := (pairwise_rankedPositions questions).sublist (List.take_sublist _ _)
  best := by
    intro i hi j hj hleft
    have hranked : j ∈ rankedPositions questions := (rankedPositions_perm questions).mem_iff.2 (List.mem_range.2 hj)
    rw [← List.take_append_drop 5 (rankedPositions questions), List.mem_append] at hranked
    have hpairs := pairwise_rankedPositions questions
    rw [← List.take_append_drop 5 (rankedPositions questions), List.pairwise_append] at hpairs
    exact hpairs.2.2 i hi j (hranked.resolve_left hleft)

/-- Either way five questions are selected, or all where there are fewer. By uncertainty they are the first ones of the ranking, in which
scores go down and the document decides between equal scores; the order of scores is that of numbers wherever two numbers differ. At random
they are any of the questions, each taken once. -/
theorem selected_questions (questions : List ScoredQuestion) (w : Words) :
    (∃ selected chosen, selectQuestions "max_uncertainty" questions w = .ok selected ∧ MostUncertain questions chosen selected) ∧
    (∃ selected, selectQuestions "random" questions w = .ok selected ∧
      selected.length = min 5 questions.length ∧ selected.Subperm questions) ∧
    ∀ p q : ScoredQuestion, p.uncertainty.toFloat < q.uncertainty.toFloat → p.uncertainty < q.uncertainty := by
  obtain ⟨ranked, hranked⟩ := (selectQuestions_knows questions w).accepted "max_uncertainty" (by simp)
  obtain ⟨drawn, hdrawn⟩ := (selectQuestions_knows questions w).accepted "random" (by simp)
  refine ⟨⟨ranked, _, hranked, mostUncertain_selectQuestions hranked⟩, ⟨drawn, hdrawn, ?_, ?_⟩, ?_⟩
  · exact length_selectQuestions hdrawn
  · exact subperm_selectQuestions hdrawn
  · intro p q hlt
    exact Number.Binary64.lt_of_toFloat_lt hlt

end PromptLang
