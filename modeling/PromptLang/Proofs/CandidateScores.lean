import PromptLang.Proofs.NumberOrder
import PromptLang.Proofs.ThoughtTrees

/-! The choice of a candidate by scores that are floats. Among numbers the first of the greatest scores wins. A score that compares with nothing,
as a NaN does, displaces the best one and is displaced by the next one, so that all scores before it are forgotten. -/

namespace PromptLang

section Scan

variable {α β : Type} [LE α] [DecidableLE α] [LE β] [DecidableLE β]

theorem firstMaxFrom_map {P : α → Prop} {f : α → β} (hf : ∀ x y, P x → P y → (f x ≤ f y ↔ x ≤ y)) {best : α} (hbest : P best)
    {scores : List α} (hscores : ∀ x ∈ scores, P x) (at_ next : Nat) :
    firstMaxFrom at_ (f best) next (scores.map f) = firstMaxFrom at_ best next scores := by
  induction scores generalizing at_ best next with
  | nil => rfl
  | cons score rest ih =>
    obtain ⟨hscore, hrest⟩ := List.forall_mem_cons.1 hscores
    simp only [List.map_cons, firstMaxFrom, hf score best hscore hbest]
    rw [ih hbest hrest, ih hscore hrest]

theorem firstMax?_map {P : α → Prop} {f : α → β} (hf : ∀ x y, P x → P y → (f x ≤ f y ↔ x ≤ y)) {scores : List α}
    (hscores : ∀ x ∈ scores, P x) : firstMax? (scores.map f) = firstMax? scores := by
  cases scores with
  | nil => rfl
  | cons score rest =>
    obtain ⟨hscore, hrest⟩ := List.forall_mem_cons.1 hscores
    exact congrArg some (firstMaxFrom_map hf hscore hrest 0 1)

theorem firstMaxFrom_shift (k at_ next : Nat) (best : α) (scores : List α) :
    firstMaxFrom (k + at_) best (k + next) scores = k + firstMaxFrom at_ best next scores := by
  induction scores generalizing at_ best next with
  | nil => rfl
  | cons score rest ih =>
    simp only [firstMaxFrom, Nat.add_assoc, ih]
    split <;> rfl

/-- A score that is at most no score displaces whatever leads when it comes. -/
theorem firstMaxFrom_displaced {x : α} (hx : ∀ y, ¬ x ≤ y) (at_ next : Nat) (best : α) (front tail : List α) :
    firstMaxFrom at_ best next (front ++ x :: tail) = firstMaxFrom (next + front.length) x (next + front.length + 1) tail := by
  induction front generalizing at_ best next with
  | nil => exact if_neg (hx best)
  | cons score rest ih =>
    have hlength : next + 1 + rest.length = next + (score :: rest).length := by
      rw [List.length_cons]
      omega
    simp only [List.cons_append, firstMaxFrom, ih, hlength, ite_self]

/-- A score that compares with nothing is forgotten by the next one. -/
theorem firstMaxFrom_incomparable {x : α} (hx : ∀ y, ¬ y ≤ x) (pos : Nat) (tail : List α) :
    firstMaxFrom pos x (pos + 1) tail = (firstMax? tail).elim pos (pos + 1 + ·) := by
  cases tail with
  | nil => rfl
  | cons y rest =>
    have hshift := firstMaxFrom_shift (pos + 1) 0 1 y rest
    simp only [firstMaxFrom, if_neg (hx y)]
    exact hshift

theorem firstMax?_incomparable {x : α} (hx : ∀ y, ¬ x ≤ y ∧ ¬ y ≤ x) (front tail : List α) :
    firstMax? (front ++ x :: tail) = some ((firstMax? tail).elim front.length (front.length + 1 + ·)) := by
  have hdrop := firstMaxFrom_incomparable (fun y => (hx y).2) front.length tail
  cases front with
  | nil => exact congrArg some hdrop
  | cons score rest =>
    have hmeet := firstMaxFrom_displaced (fun y => (hx y).1) 0 1 score rest tail
    rw [Nat.add_comm 1 rest.length] at hmeet
    exact congrArg some (hmeet.trans hdrop)

end Scan

section Floats

variable {scores : List Float} {i : Nat}

theorem not_le_of_isNaN {x : Float} (hx : x.isNaN = true) (y : Float) : ¬ x ≤ y ∧ ¬ y ≤ x := by
  constructor
  · intro h
    rw [(Number.le_iff.1 h).1] at hx
    cases hx
  · intro h
    rw [(Number.le_iff.1 h).2.1] at hx
    cases hx

/-- No score is greater than the one at position `i`, and no earlier one equals it. -/
def FirstBest (scores : List Float) (i : Nat) : Prop :=
  ∃ best, scores[i]? = some best ∧ (∀ x ∈ scores, ¬ best < x) ∧ ∀ j x, j < i → scores[j]? = some x → (x == best) = false

theorem leadsAt_of_numbers (hnumbers : ∀ x ∈ scores, x.isNaN = false) (h : firstMax? scores = some i) :
    ∃ top, LeadsAt (scores.map Number.place) i top := by
  refine leadsAt_of_firstMax? ?_
  rw [← h]
  exact firstMax?_map (fun x y hx hy => by simp only [Number.le_iff, hx, hy, true_and]) hnumbers

theorem firstBest_of_numbers (hnumbers : ∀ x ∈ scores, x.isNaN = false) (h : firstMax? scores = some i) : FirstBest scores i := by
  obtain ⟨top, htop⟩ := leadsAt_of_numbers hnumbers h
  have hat := htop.getElem?
  rw [List.getElem?_map] at hat
  obtain ⟨best, hbest, rfl⟩ := Option.map_eq_some_iff.1 hat
  refine ⟨best, hbest, fun x hx hlt => ?_, fun j x hj hx => ?_⟩
  · have hle := htop.le (List.mem_map_of_mem hx)
    exact absurd (Number.lt_iff.1 hlt).2.2 (not_lt_of_ge hle)
  · have hlt := htop.lt_of_earlier hj (by rw [List.getElem?_map, hx]; rfl)
    refine Bool.eq_false_iff.2 fun heq => ?_
    exact absurd (Number.beq_iff.1 heq).2.2 (ne_of_lt hlt)

end Floats

section Candidates

variable {host : Host} {limit : Nat} {s : Settings} {body : String} {constraints : Constraints} {log log' : Log}

theorem readScore_eq_ok {function reply : String} {score : Float} :
    readScore function reply = .ok score ↔ Number.readTrimmed? reply = some score := by
  unfold readScore
  split
  · next x hx => simp [hx]
  · next hx => simp [hx]

theorem readScores_eq_ok {function : String} {replies : List String} {scores : List Float}
    (h : replies.mapM (readScore function) = .ok scores) : replies.map Number.readTrimmed? = scores.map some := by
  induction replies generalizing scores with
  | nil =>
    cases h
    rfl
  | cons reply rest ih =>
    rw [List.mapM_cons] at h
    obtain ⟨score, hscore, h⟩ := bind_eq_ok.1 h
    obtain ⟨others, hothers, h⟩ := bind_eq_ok.1 h
    cases h
    rw [List.map_cons, List.map_cons, readScore_eq_ok.1 hscore, ih hothers]

theorem bestByProvider_eq_ok {function : String} {candidates : List String} {best : Option String}
    (h : bestByProvider host limit constraints function candidates log = (.ok best, log')) :
    ∃ replies scores, generateAll host limit constraints (candidates.map (scorePrompt function)) log = (.ok replies, log') ∧
      replies.map Number.readTrimmed? = scores.map some ∧ best = (firstMax? scores).bind fun i => candidates[i]? := by
  obtain ⟨replies, log₁, hreplies, h⟩ := Run.bind_eq_ok.1 h
  obtain ⟨scores, hscores, h⟩ := Run.liftM_bind_eq_ok.1 h
  cases h
  exact ⟨replies, scores, hreplies, readScores_eq_ok hscores, rfl⟩

theorem runApe_eq_ok {result : Value} (h : runApe host s body log = (.ok result, log')) :
    ∃ pool function constraints candidates log₁ best,
      (s.count "candidatePool" = .ok pool ∧ s.text "scoreFunction" = .ok function ∧ s.env.constraints = .ok constraints) ∧
      generateAll host s.opts.maxConcurrentCalls constraints (List.replicate pool (compose s.env body)) log =
        (.ok candidates, log₁) ∧
      ((∃ scorer, Scorer.ofName? function = some scorer ∧ log₁ = log' ∧ best = bestBy? scorer.score candidates) ∨
        (Scorer.ofName? function = none ∧
          bestByProvider host s.opts.maxConcurrentCalls constraints function candidates log₁ = (.ok best, log'))) ∧
      result = .str (best.getD "") := by
  obtain ⟨pool, hpool, h⟩ := Run.liftM_bind_eq_ok.1 h
  obtain ⟨function, hfunction, h⟩ := Run.liftM_bind_eq_ok.1 h
  obtain ⟨constraints, hconstraints, h⟩ := Run.liftM_bind_eq_ok.1 h
  obtain ⟨candidates, log₁, hcandidates, h⟩ := Run.bind_eq_ok.1 h
  cases hscorer : Scorer.ofName? function with
  | some scorer =>
    rw [hscorer] at h
    cases h
    exact ⟨pool, function, constraints, candidates, log', _, ⟨hpool, hfunction, hconstraints⟩, hcandidates,
      .inl ⟨scorer, hscorer, rfl, rfl⟩, rfl⟩
  | none =>
    rw [hscorer] at h
    obtain ⟨best, log₂, hbest, h⟩ := Run.bind_eq_ok.1 h
    cases h
    exact ⟨pool, function, constraints, candidates, log₁, best, ⟨hpool, hfunction, hconstraints⟩, hcandidates,
      .inr ⟨hscorer, hbest⟩, rfl⟩

theorem exists_bestAnswer (score : String → Nat) {made : List Exchange} (h : made ≠ []) :
    ∃ before x after, made = before ++ x :: after ∧ bestBy? score (made.map Exchange.answer) = some x.answer ∧
      (∀ y ∈ before, score y.answer < score x.answer) ∧ ∀ y ∈ after, score y.answer ≤ score x.answer := by
  have hanswers : made.map Exchange.answer ≠ [] := mt List.map_eq_nil_iff.1 h
  obtain ⟨best, hbest⟩ := exists_bestBy? score hanswers
  obtain ⟨before, after, hsplit, hbefore, hafter⟩ := split_of_bestBy? hbest
  obtain ⟨front, back, rfl, rfl, hback⟩ := List.map_eq_append_iff.1 hsplit
  obtain ⟨x, tail, rfl, rfl, rfl⟩ := List.map_eq_cons_iff.1 hback
  exact ⟨front, x, tail, rfl, hbest, by simpa using hbefore, by simpa using hafter⟩

theorem mem_table_of_ofName? {function : String} {scorer : Scorer} (h : Scorer.ofName? function = some scorer) :
    (function, scorer) ∈ Scorer.table := by
  obtain ⟨entry, hfind, rfl⟩ := Option.map_eq_some_iff.1 h
  have hname : entry.1 = function := by simpa using List.find?_some hfind
  exact hname ▸ List.mem_of_find?_eq_some hfind

/-- Each draft is sent to be scored, and its score is read from the answer. -/
structure Scored (constraints : Constraints) (function : String) (drafts ratings : List Exchange) (scores : List Float) : Prop where
  calls : ratings.map Exchange.call = drafts.map fun draft =>
    ⟨"Score the following prompt using the '" ++ function ++ "' criterion. Reply with a single number only.\n\n" ++ draft.answer,
      constraints⟩
  read : ratings.map (fun rating => Number.readTrimmed? rating.answer) = scores.map some

theorem Scored.length {function : String} {drafts ratings : List Exchange} {scores : List Float}
    (h : Scored constraints function drafts ratings scores) : scores.length = drafts.length := by
  have hcalls := congrArg List.length h.calls
  have hread := congrArg List.length h.read
  simp only [List.length_map] at hcalls hread
  omega

theorem scored_of_bestByProvider {function : String} {drafts : List Exchange} {best : Option String} (hdrafts : drafts ≠ [])
    (h : bestByProvider host limit constraints function (drafts.map Exchange.answer) log = (.ok best, log')) :
    ∃ ratings scores i draft, Exchanged host ratings log log' ∧ Scored constraints function drafts ratings scores ∧
      firstMax? scores = some i ∧ drafts[i]? = some draft ∧ best = some draft.answer := by
  obtain ⟨replies, scores, hreplies, hscores, rfl⟩ := bestByProvider_eq_ok h
  obtain ⟨ratings, hratings, hcalls, rfl⟩ := exchanged_generateAll hreplies
  rw [List.map_map, List.map_map] at hcalls
  have hscored : Scored constraints function drafts ratings scores := ⟨hcalls, by simpa [Function.comp_def] using hscores⟩
  have hne : scores ≠ [] := by
    rw [← List.length_pos_iff, hscored.length]
    exact List.length_pos_iff.2 hdrafts
  obtain ⟨i, hi, hlt⟩ := exists_firstMax? hne
  rw [hscored.length] at hlt
  refine ⟨ratings, scores, i, drafts[i], hratings, hscored, hi, List.getElem?_eq_getElem hlt, ?_⟩
  rw [hi, Option.bind_some, List.getElem?_map, List.getElem?_eq_getElem hlt]
  rfl

end Candidates

/-- A scan ends without a position only where there are no scores. Among numbers it ends at the first of the greatest. A NaN is displaced by the
score behind it, whichever that is, so only the scores behind the last NaN count. The candidate that is kept stands at the position
where the scan of the scores ends. -/
theorem candidates_compete_behind_nan (scores : List Float) :
    (firstMax? scores = none ↔ scores = []) ∧
    (∀ i, firstMax? scores = some i → (∀ x ∈ scores, x.isNaN = false) → FirstBest scores i) ∧
    (∀ front x tail, scores = front ++ x :: tail → x.isNaN = true →
      firstMax? scores = some ((firstMax? tail).elim front.length (front.length + 1 + ·))) ∧
    ∀ (host : Host) (s : Settings) (body : String) (log log' : Log) (result : Value),
      runApe host s body log = (.ok result, log') →
      ∃ pool function constraints drafts,
        (s.count "candidatePool" = .ok pool ∧ s.text "scoreFunction" = .ok function ∧ s.env.constraints = .ok constraints) ∧
        drafts.map Exchange.call = List.replicate pool ⟨compose s.env body, constraints⟩ ∧
        (((function = "length" ∨ function = "keyword_match") ∧ Exchanged host drafts log log' ∧
            ∃ before best after, drafts = before ++ best :: after ∧ result = .str best.answer ∧
              (∀ x ∈ before, thoughtWorth function x.answer < thoughtWorth function best.answer) ∧
              ∀ x ∈ after, thoughtWorth function x.answer ≤ thoughtWorth function best.answer) ∨
          (function ∉ ["length", "keyword_match"] ∧
            ∃ ratings given i best, Exchanged host (drafts ++ ratings) log log' ∧
              Scored constraints function drafts ratings given ∧ firstMax? given = some i ∧ drafts[i]? = some best ∧
              result = .str best.answer ∧ ((∀ x ∈ given, x.isNaN = false) → FirstBest given i))) := by
  refine ⟨?_, fun i h hnumbers => firstBest_of_numbers hnumbers h, ?_, ?_⟩
  · cases scores <;> simp [firstMax?]
  · intro front x tail hsplit hx
    rw [hsplit]
    exact firstMax?_incomparable (not_le_of_isNaN hx) front tail
  · intro host s body log log' result h
    obtain ⟨pool, function, constraints, _, log₁, best, ⟨hpool, hsettings⟩, hcandidates, hchoice, rfl⟩ := runApe_eq_ok h
    obtain ⟨drafts, hmade, hcalls, rfl⟩ := exchanged_generateAll hcandidates
    rw [List.map_replicate] at hcalls
    have hdrafts : drafts ≠ [] := by
      rintro rfl
      have hlength := congrArg List.length hcalls
      have hpos := (Settings.count_bounds hpool).1
      simp at hlength
      omega
    refine ⟨pool, function, constraints, drafts, ⟨hpool, hsettings⟩, hcalls, ?_⟩
    rcases hchoice with ⟨scorer, hscorer, rfl, rfl⟩ | ⟨hscorer, hbest⟩
    · obtain ⟨hname, hworth⟩ := score_of_mem_table (mem_table_of_ofName? hscorer)
      obtain ⟨before, draft, after, hsplit, hbest, hbefore, hafter⟩ := exists_bestAnswer scorer.score hdrafts
      rw [hworth] at hbefore hafter
      exact .inl ⟨hname, hmade, before, draft, after, hsplit, by rw [hbest]; rfl, hbefore, hafter⟩
    · obtain ⟨ratings, given, i, draft, hratings, hscored, hi, hdraft, rfl⟩ := scored_of_bestByProvider hdrafts hbest
      exact .inr ⟨(Scorer.ofName?_eq_none_iff function).1 hscorer, ratings, given, i, draft, hmade.append hratings, hscored, hi,
        hdraft, rfl, fun hnumbers => firstBest_of_numbers hnumbers hi⟩

/-- Three drafts, and then a verdict on each. -/
def jury (verdicts : List String) : Host where
  provider earlier _ := .ok ((["alpha", "beta", "gamma"] ++ verdicts).getD earlier.length "")

def contest : Settings where
  opts := {}
  env := .empty
  method := .ape
  fields := [⟨"candidatePool", .num 3⟩, ⟨"scoreFunction", .str "clarity"⟩]

/-- Two of the three verdicts are the greatest, and the first of the two wins. Behind a NaN there is only one verdict. -/
theorem contest_beta_wins :
    FirstBest [2, 3, 3] 1 ∧ firstMax? [5, Number.nan, 3] = some 2 ∧
    ∃ (log' : Log) (drafts : List Exchange), runApe (jury ["2", " 3", "3.0"]) contest "Pick." {} = (.ok (.str "beta"), log') ∧
      drafts.map Exchange.call = List.replicate 3 ⟨compose contest.env "Pick.", {}⟩ := by
  obtain ⟨-, hnumbers, -, hrun⟩ := candidates_compete_behind_nan [2, 3, 3]
  obtain ⟨-, -, hnan, -⟩ := candidates_compete_behind_nan [5, Number.nan, 3]
  refine ⟨hnumbers 1 rfl (by decide), hnan [5] Number.nan [3] rfl rfl, ?_⟩
  obtain ⟨log', hbeta⟩ : ∃ log', runApe (jury ["2", " 3", "3.0"]) contest "Pick." {} = (.ok (.str "beta"), log') := ⟨_, rfl⟩
  obtain ⟨pool, function, constraints, drafts, ⟨hpool, -, hconstraints⟩, hcalls, -⟩ := hrun _ _ _ _ _ _ hbeta
  have hthree : contest.count "candidatePool" = .ok 3 := rfl
  have hnone : contest.env.constraints = .ok {} := rfl
  rw [hthree] at hpool
  rw [hnone] at hconstraints
  cases hpool
  cases hconstraints
  exact ⟨log', drafts, hbeta, hcalls⟩

/-- Between two numbers a NaN hides the first one: the third candidate is kept with a score of 3, though the first one has 5. -/
theorem contest_nan_hides_alpha :
    ["5", "nan", "3"].map Number.readTrimmed? = [some 5, some Number.nan, some 3] ∧
    firstMax? [5, Number.nan, 3] = some 2 ∧ (3 : Float) < 5 ∧ ¬ FirstBest [5, Number.nan, 3] 2 ∧
    ∃ log', runApe (jury ["5", "nan", "3"]) contest "Pick." {} = (.ok (.str "gamma"), log') := by
  refine ⟨rfl, rfl, by decide, ?_, _, rfl⟩
  rintro ⟨best, hbest, hgreatest, -⟩
  cases hbest
  exact hgreatest 5 (by simp) (by decide)

end PromptLang
