import PromptLang.Proofs.Computation
import PromptLang.Proofs.FirstOccurrences
import PromptLang.Technique.Questions
import PromptLang.Technique.Sampling

/-! What the strategies give for names that are known. The names that a technique accepts before its first call are those that the
strategies know. Where there is at least one candidate there is a best one, a vote has a winner and a mean fails at most because a
result is no number. A selection of questions has a size that is known in advance, and representatives are the distinct picks of
the clusters. -/

namespace PromptLang

theorem mem_of_chooseStrategy {α : Type} {purpose : String} {table : List (String × α)} {name : String} {strategy : α}
    (h : chooseStrategy purpose table name = .ok strategy) : (name, strategy) ∈ table := by
  unfold chooseStrategy at h
  split at h
  · next other found hfind =>
    cases h
    have hname : other = name := by simpa using List.find?_some hfind
    exact hname ▸ List.mem_of_find?_eq_some hfind
  · cases h

/-- The names of a table are those that are known. -/
theorem chooseStrategy_of_mem {α : Type} (purpose : String) (table : List (String × α)) {name : String}
    (h : name ∈ table.map Prod.fst) : ∃ strategy, chooseStrategy purpose table name = .ok strategy := by
  unfold chooseStrategy
  cases hfind : table.find? (·.1 = name) with
  | some entry => exact ⟨entry.2, rfl⟩
  | none =>
    obtain ⟨entry, hentry, rfl⟩ := List.mem_map.1 h
    have hother := List.find?_eq_none.1 hfind entry hentry
    simp at hother

theorem chooseStrategy_of_notMem {α : Type} (purpose : String) {table : List (String × α)} {name : String}
    (h : name ∉ table.map Prod.fst) : chooseStrategy purpose table name = .error (.unknownStrategy purpose name) := by
  unfold chooseStrategy
  cases hfind : table.find? (·.1 = name) with
  | none => rfl
  | some entry =>
    have hname : entry.1 = name := by simpa using List.find?_some hfind
    exact absurd (List.mem_map.2 ⟨entry, List.mem_of_find?_eq_some hfind, hname⟩) h

/-- A strategy knows the names: each of them gives a result, and any other is refused. -/
structure Knows {α : Type} (strategy : String → Except Error α) (names : List String) : Prop where
  accepted : ∀ name ∈ names, ∃ a, strategy name = .ok a
  refused : ∀ name ∉ names, ∃ e, strategy name = .error e ∧ e.code = "unknown_strategy"

theorem knows_of_table {α β : Type} (purpose : String) (table : List (String × α)) {f : α → Except Error β}
    (hf : ∀ a, ∃ b, f a = .ok b) : Knows (fun name => chooseStrategy purpose table name >>= f) (table.map Prod.fst) where
  accepted name hname := by
    obtain ⟨a, ha⟩ := chooseStrategy_of_mem purpose table hname
    obtain ⟨b, hb⟩ := hf a
    exact ⟨b, bind_eq_ok.2 ⟨a, ha, hb⟩⟩
  refused name hname := ⟨_, by rw [chooseStrategy_of_notMem purpose hname]; rfl, rfl⟩

theorem mem_of_ensureStrategy {purpose : String} {known : List String} {name : String} {u : Unit}
    (h : ensureStrategy purpose known name = .ok u) : name ∈ known := by
  unfold ensureStrategy at h
  split at h
  · next hname => exact hname
  · cases h

section Best

variable {α β : Type} [LE α] [DecidableLE α]

theorem firstMaxFrom_lt {at_ next : Nat} (h : at_ < next) (best : α) (scores : List α) :
    firstMaxFrom at_ best next scores < next + scores.length := by
  induction scores generalizing at_ best next with
  | nil => exact h
  | cons score rest ih =>
    simp only [firstMaxFrom, List.length_cons]
    split
    · have hrest := ih (show at_ < next + 1 by omega) best
      omega
    · have hrest := ih (show next < next + 1 by omega) score
      omega

theorem exists_firstMax? {scores : List α} (h : scores ≠ []) : ∃ i, firstMax? scores = some i ∧ i < scores.length := by
  cases scores with
  | nil => exact absurd rfl h
  | cons score rest =>
    have hlt := firstMaxFrom_lt Nat.zero_lt_one score rest
    rw [Nat.add_comm] at hlt
    exact ⟨_, rfl, hlt⟩

theorem exists_bestBy? (score : β → α) {xs : List β} (h : xs ≠ []) : ∃ x, bestBy? score xs = some x := by
  obtain ⟨i, hi, hlt⟩ := exists_firstMax? (mt List.map_eq_nil_iff.1 h : xs.map score ≠ [])
  rw [List.length_map] at hlt
  exact ⟨xs[i], by rw [bestBy?, hi, Option.bind_some, List.getElem?_eq_getElem hlt]⟩

end Best

section FirstMaximum

variable {α β : Type} [LinearOrder α] {best score : α} {i : Nat} {done : List α}

/-- The best score stands at position `i`, after smaller ones only and with no larger one behind it. -/
def LeadsAt (scores : List α) (i : Nat) (best : α) : Prop :=
  ∃ before after, scores = before ++ best :: after ∧ before.length = i ∧ (∀ x ∈ before, x < best) ∧ ∀ x ∈ after, x ≤ best

theorem LeadsAt.le (h : LeadsAt done i best) {x : α} (hx : x ∈ done) : x ≤ best := by
  obtain ⟨before, after, rfl, -, hbefore, hafter⟩ := h
  rcases List.mem_append.1 hx with hx | hx
  · exact le_of_lt (hbefore x hx)
  · rcases List.mem_cons.1 hx with rfl | hx
    · exact le_refl x
    · exact hafter x hx

theorem LeadsAt.getElem? (h : LeadsAt done i best) : done[i]? = some best := by
  obtain ⟨before, after, rfl, rfl, -⟩ := h
  simp

theorem LeadsAt.lt_of_earlier (h : LeadsAt done i best) {j : Nat} {x : α} (hj : j < i) (hx : done[j]? = some x) : x < best := by
  obtain ⟨before, after, rfl, rfl, hbefore, -⟩ := h
  rw [List.getElem?_append_left hj] at hx
  exact hbefore x (List.mem_of_getElem? hx)

theorem LeadsAt.keep (h : LeadsAt done i best) (hscore : score ≤ best) : LeadsAt (done ++ [score]) i best := by
  obtain ⟨before, after, rfl, hi, hbefore, hafter⟩ := h
  refine ⟨before, after ++ [score], by simp, hi, hbefore, fun x hx => ?_⟩
  rcases List.mem_append.1 hx with hx | hx
  · exact hafter x hx
  · exact List.mem_singleton.1 hx ▸ hscore

theorem LeadsAt.displace (h : LeadsAt done i best) (hscore : best < score) :
    LeadsAt (done ++ [score]) done.length score :=
  ⟨done, [], rfl, rfl, fun _ hx => lt_of_le_of_lt (h.le hx) hscore, fun _ hx => absurd hx List.not_mem_nil⟩

theorem leadsAt_firstMaxFrom (h : LeadsAt done i best) (rest : List α) :
    ∃ top, LeadsAt (done ++ rest) (firstMaxFrom i best done.length rest) top := by
  induction rest generalizing done i best with
  | nil => exact ⟨best, by simpa [firstMaxFrom] using h⟩
  | cons score rest ih =>
    simp only [firstMaxFrom]
    split
    · next hle =>
      simpa using ih (h.keep hle)
    · next hlt =>
      simpa using ih (h.displace (lt_of_not_ge hlt))

theorem leadsAt_of_firstMax? {scores : List α} (h : firstMax? scores = some i) : ∃ top, LeadsAt scores i top := by
  cases scores with
  | nil => cases h
  | cons score rest =>
    cases h
    have hstart : LeadsAt [score] 0 score := ⟨[], [], rfl, rfl, by simp, by simp⟩
    exact leadsAt_firstMaxFrom hstart rest

theorem split_of_bestBy? {score : β → α} {xs : List β} {x : β} (h : bestBy? score xs = some x) :
    ∃ before after, xs = before ++ x :: after ∧ (∀ y ∈ before, score y < score x) ∧ ∀ y ∈ after, score y ≤ score x := by
  obtain ⟨i, hi, hx⟩ := Option.bind_eq_some_iff.1 h
  obtain ⟨top, before, after, hmap, hlength, hbefore, hafter⟩ := leadsAt_of_firstMax? hi
  obtain ⟨front, back, rfl, rfl, hback⟩ := List.map_eq_append_iff.1 hmap
  obtain ⟨z, tail, rfl, rfl, rfl⟩ := List.map_eq_cons_iff.1 hback
  rw [List.length_map] at hlength
  rw [← hlength, List.getElem?_append_right (Nat.le_refl _), Nat.sub_self] at hx
  cases hx
  exact ⟨front, tail, rfl, by simpa using hbefore, by simpa using hafter⟩

end FirstMaximum

theorem addVote_ne_nil (v : Value) (votes : List (Value × Nat)) : addVote v votes ≠ [] := by
  cases votes with
  | nil => simp [addVote]
  | cons vote rest =>
    simp only [addVote]
    split <;> simp

theorem tally_ne_nil {results : List Value} (h : results ≠ []) : tally results ≠ [] := by
  -- the last vote leaves a candidate, whatever was counted before it
  rw [← List.dropLast_append_getLast h, tally, List.foldl_append]
  exact addVote_ne_nil _ _

/-- A sum fails only where a result is no number. -/
theorem sumFrom_error {i : Nat} {sum : Float} {results : List Value} {e : Error} (h : sumFrom i sum results = .error e) :
    ∃ cause, e = .mismatch cause := by
  induction results generalizing i sum with
  | nil => cases h
  | cons v rest ih =>
    simp only [sumFrom] at h
    split at h
    · exact ih h
    · cases h
      exact ⟨_, rfl⟩

theorem Aggregation.combine_error (a : Aggregation) {results : List Value} (hresults : results ≠ []) {e : Error}
    (h : a.combine results = .error e) : ∃ cause, e = .mismatch cause := by
  cases a with
  | majorityVote =>
    obtain ⟨vote, hvote⟩ := exists_bestBy? Prod.snd (tally_ne_nil hresults)
    simp only [combine, majority?, hvote, Option.map_some] at h
    cases h
  | average =>
    simp only [combine, List.isEmpty_iff, hresults, if_false] at h
    cases hsum : sumFrom 0 0 results with
    | ok sum => rw [hsum] at h; cases h
    | error cause => rw [hsum] at h; cases h; exact sumFrom_error hsum

theorem selectMostConsistent_error {strategy : String} (hstrategy : strategy ∈ ["majority_vote", "average"]) {results : List Value}
    (hresults : results ≠ []) {e : Error} (h : selectMostConsistent strategy results = .error e) : ∃ cause, e = .mismatch cause := by
  obtain ⟨a, ha⟩ := chooseStrategy_of_mem "selfConsistency selection" Aggregation.table hstrategy
  rw [selectMostConsistent, Aggregation.ofName, ha] at h
  exact a.combine_error hresults h

theorem selectMostConsistent_unknown {strategy : String} (h : strategy ∉ ["majority_vote", "average"]) (results : List Value) :
    selectMostConsistent strategy results = .error (.unknownStrategy "selfConsistency selection" strategy) := by
  rw [selectMostConsistent, Aggregation.ofName, chooseStrategy_of_notMem _ h]
  rfl

theorem bestThought_knows {thoughts : List String} (h : thoughts ≠ []) : Knows (bestThought · thoughts) ["length", "keyword_match"] := by
  refine knows_of_table "treeOfThoughts evaluation" Scorer.table fun scorer => ?_
  obtain ⟨best, hbest⟩ := exists_bestBy? scorer.score h
  exact ⟨best, by rw [hbest]⟩

theorem Scorer.ofName?_eq_none_iff (name : String) : ofName? name = none ↔ name ∉ ["length", "keyword_match"] := by
  simp [ofName?, table, @eq_comm _ name]

section Selections

variable {α : Type}

theorem swap_perm (xs : List α) (i j : Nat) : (swap xs i j).Perm xs := by
  unfold swap
  split
  case h_1 a b ha hb =>
    obtain ⟨hi, rfl⟩ := List.getElem?_eq_some_iff.1 ha
    obtain ⟨hj, rfl⟩ := List.getElem?_eq_some_iff.1 hb
    exact List.set_set_perm hi hj
  case h_2 => exact .refl xs

theorem shuffleFrom_perm (n : Nat) (xs : List α) (w : Words) : (shuffleFrom n xs w).1.Perm xs := by
  induction n generalizing xs w with
  | zero => exact .refl xs
  | succ n ih => exact (ih _ _).trans (swap_perm xs _ _)

theorem shuffle_perm (xs : List α) (w : Words) : (shuffle xs w).1.Perm xs := shuffleFrom_perm _ xs w

theorem QuestionChoice.arrange_perm (choice : QuestionChoice) (questions : List ScoredQuestion) (w : Words) :
    (choice.arrange questions w).Perm questions := by
  cases choice with
  | maxUncertainty => exact List.mergeSort_perm questions _
  | random => exact shuffle_perm questions w

theorem selectQuestions_eq_ok {strategy : String} {questions selected : List ScoredQuestion} {w : Words} :
    selectQuestions strategy questions w = .ok selected ↔
      ∃ choice, QuestionChoice.ofName strategy = .ok choice ∧ selected = (choice.arrange questions w).take 5 := by
  refine bind_eq_ok.trans (exists_congr fun choice => and_congr_right fun _ => ?_)
  exact ⟨fun h => (Except.ok.inj h).symm, fun h => by rw [h]; rfl⟩

theorem selectQuestions_knows (questions : List ScoredQuestion) (w : Words) :
    Knows (selectQuestions · questions w) ["max_uncertainty", "random"] :=
  knows_of_table "activePrompting selection" QuestionChoice.table fun _ => ⟨_, rfl⟩

theorem length_selectQuestions {strategy : String} {questions selected : List ScoredQuestion} {w : Words}
    (h : selectQuestions strategy questions w = .ok selected) : selected.length = min 5 questions.length := by
  obtain ⟨choice, -, rfl⟩ := selectQuestions_eq_ok.1 h
  rw [List.length_take, (choice.arrange_perm questions w).length_eq]

theorem estimateUncertainty_knows (text : String) : Knows (estimateUncertainty · text) ["entropy", "length"] :=
  knows_of_table "activePrompting uncertainty estimation" Uncertainty.table fun _ => ⟨_, rfl⟩

theorem scoreQuestions_eq {estimation : String} {uncertainty : Uncertainty} (h : Uncertainty.ofName estimation = .ok uncertainty)
    (questions : List String) :
    scoreQuestions estimation questions = .ok (questions.map fun text => ⟨text, .ofFloat (uncertainty.estimate text)⟩) := by
  induction questions with
  | nil => rfl
  | cons text rest ih =>
    rw [scoreQuestions, estimateUncertainty, h, ih]
    rfl

theorem text_scoreQuestions {estimation : String} {questions : List String} {scored : List ScoredQuestion}
    (h : scoreQuestions estimation questions = .ok scored) : scored.map ScoredQuestion.text = questions := by
  induction questions generalizing scored with
  | nil =>
    cases h
    rfl
  | cons text rest ih =>
    obtain ⟨uncertainty, -, h⟩ := bind_eq_ok.1 h
    obtain ⟨others, hothers, h⟩ := bind_eq_ok.1 h
    cases h
    rw [List.map_cons, ih hothers]

theorem clusterQuestions_knows (text : String) : Knows (clusterQuestions · text) ["keyword", "length"] :=
  knows_of_table "autoCot clustering" ClusterRule.table fun _ => ⟨_, rfl⟩

theorem decomposeTask_knows (task : String) : Knows (decomposeTask · task) ["sequential", "parallel"] :=
  knows_of_table "art decomposition" Decomposition.table fun _ => ⟨_, rfl⟩

theorem length_decomposeTask {strategy task : String} {steps : List String} (h : decomposeTask strategy task = .ok steps) :
    steps.length = 5 := by
  obtain ⟨decomposition, -, h⟩ := bind_eq_ok.1 h
  cases h
  cases decomposition <;> rfl

/-- For a known rule the representatives are the distinct picks, also where there are no clusters. -/
theorem representatives_eq {rule : String} {r : Representation} (h : Representation.ofName rule = .ok r)
    (clusters : Clusters) (w : Words) :
    representatives rule clusters w = .ok (r.picks (clusters.map Prod.snd) w).eraseDups := by
  unfold representatives
  cases clusters with
  | nil => rfl
  | cons cluster rest => rw [h]; rfl

theorem representatives_knows {clusters : Clusters} (h : clusters ≠ []) (w : Words) :
    Knows (representatives · clusters w) ["longest", "random"] := by
  unfold representatives
  simp only [List.isEmpty_iff, h, if_false]
  exact knows_of_table "autoCot representative selection" Representation.table fun _ => ⟨_, rfl⟩

end Selections

end PromptLang
