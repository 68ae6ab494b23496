import PromptLang.Proofs.StrategyResults

/-! Votes of texts. The tally lists each distinct text once, in the order of first votes and with the number of its votes. So the winner has
the most votes and comes first among those that have as many, and a text with more votes than any other wins in every order of the
votes. -/

namespace PromptLang

section Tally

variable {seen : List String} {v : String}

theorem str_same {a b : String} : (Value.str a).same (.str b) = true ↔ a = b := by
  simp [Value.same]

theorem addVote_of_notMem (h : v ∉ seen) (n : String → Nat) :
    addVote (.str v) (seen.map fun t => (.str t, n t)) = seen.map (fun t => (Value.str t, n t)) ++ [(.str v, 1)] := by
  induction seen with
  | nil => rfl
  | cons t rest ih =>
    obtain ⟨hne, hrest⟩ := not_or.1 (mt List.mem_cons.2 h)
    have hdiffer := mt str_same.1 (Ne.symm hne)
    simp only [List.map_cons, addVote, if_neg hdiffer, ih hrest, List.cons_append]

theorem addVote_of_mem (hdistinct : seen.Nodup) (h : v ∈ seen) (n : String → Nat) :
    addVote (.str v) (seen.map fun t => (.str t, n t)) = seen.map fun t => (.str t, n t + if v = t then 1 else 0) := by
  induction seen with
  | nil => cases h
  | cons t rest ih =>
    obtain ⟨hnew, hrest⟩ := List.nodup_cons.1 hdistinct
    by_cases heq : v = t
    · subst heq
      have hothers : ∀ u ∈ rest, (Value.str u, n u) = (.str u, n u + if v = u then 1 else 0) := by
        intro u hu
        have hne : v ≠ u := fun huv => hnew (huv ▸ hu)
        simp [hne]
      simp only [List.map_cons, addVote, Value.same, beq_self_eq_true, if_true]
      rw [List.map_congr_left hothers]
    · have hdiffer := mt str_same.1 (Ne.symm heq)
      have hmem : v ∈ rest := (List.mem_cons.1 h).resolve_left heq
      simp only [List.map_cons, addVote, if_neg hdiffer, ih hrest hmem, if_neg heq, Nat.add_zero]

theorem tally_eq (votes : List String) :
    tally (votes.map .str) = votes.eraseDups.map fun t => (.str t, votes.count t) := by
  -- votes are counted from the left, so the induction takes off the last one
  induction votes using List.reverseRecOn with
  | nil => rfl
  | append_singleton votes v ih =>
    have hstep : tally ((votes ++ [v]).map .str) = addVote (.str v) (tally (votes.map .str)) := by
      simp [tally]
    rw [hstep, ih, eraseDups_concat]
    split
    · next h =>
      rw [addVote_of_mem (nodup_eraseDups votes) (List.mem_eraseDups.2 h)]
      simp [List.count_singleton]
    · next h =>
      have hold : ∀ t ∈ votes.eraseDups, (Value.str t, votes.count t) = (.str t, (votes ++ [v]).count t) := by
        intro t ht
        have hne : v ≠ t := fun heq => h (heq ▸ List.mem_eraseDups.1 ht)
        simp [hne]
      rw [addVote_of_notMem (mt List.mem_eraseDups.1 h), List.map_append, List.map_congr_left hold]
      simp [List.count_eq_zero.2 h]

end Tally

/-- What the majority of the texts is. -/
def majorityOf (votes : List String) : Except Error Value := selectMostConsistent "majority_vote" (votes.map .str)

/-- No text has more votes, and none with as many was voted for before. -/
structure Wins (votes : List String) (winner : String) : Prop where
  mem : winner ∈ votes
  most (t : String) : votes.count t ≤ votes.count winner
  first : ∀ t ∈ votes, votes.count t = votes.count winner → votes.idxOf winner ≤ votes.idxOf t

theorem wins_of_bestBy? {votes : List String} {v : Value} {n : Nat} (h : bestBy? Prod.snd (tally (votes.map .str)) = some (v, n)) :
    ∃ winner, v = .str winner ∧ Wins votes winner := by
  rw [tally_eq] at h
  obtain ⟨before, after, hsplit, hbefore, hafter⟩ := split_of_bestBy? h
  obtain ⟨front, back, hdistinct, rfl, hback⟩ := List.map_eq_append_iff.1 hsplit
  obtain ⟨winner, rest, rfl, hwinner, rfl⟩ := List.map_eq_cons_iff.1 hback
  cases hwinner
  -- the split of the tally at its best entry is one of the distinct texts, which stand in the order of first votes
  have horder := pairwise_eraseDups votes
  rw [hdistinct] at horder
  obtain ⟨-, hlater, -⟩ := List.pairwise_append.1 horder
  have hfront : ∀ t ∈ front, votes.count t < votes.count winner := by simpa using hbefore
  have hrest : ∀ t ∈ rest, votes.count t ≤ votes.count winner := by simpa using hafter
  have hplace : ∀ t ∈ votes, t ∈ front ∨ t = winner ∨ t ∈ rest := by
    intro t ht
    have hmem := List.mem_eraseDups.2 ht
    rw [hdistinct] at hmem
    simpa using hmem
  refine ⟨winner, rfl, ⟨?_, ?_, ?_⟩⟩
  · have hmem : winner ∈ votes.eraseDups := by simp [hdistinct]
    exact List.mem_eraseDups.1 hmem
  · intro t
    by_cases ht : t ∈ votes
    · obtain hbefore | rfl | hafter := hplace t ht
      · exact Nat.le_of_lt (hfront t hbefore)
      · exact Nat.le_refl _
      · exact hrest t hafter
    · rw [List.count_eq_zero.2 ht]
      exact Nat.zero_le _
  · intro t ht hcount
    obtain hbefore | rfl | hafter := hplace t ht
    · have hlt := hfront t hbefore
      omega
    · exact Nat.le_refl _
    · exact Nat.le_of_lt (List.rel_of_pairwise_cons hlater hafter)

theorem majorityOf_wins {votes : List String} (h : votes ≠ []) : ∃ winner, majorityOf votes = .ok (.str winner) ∧ Wins votes winner := by
  have hvoted : tally (votes.map .str) ≠ [] := tally_ne_nil (by simpa using h)
  obtain ⟨⟨v, n⟩, hbest⟩ := exists_bestBy? Prod.snd hvoted
  obtain ⟨winner, rfl, hwins⟩ := wins_of_bestBy? hbest
  have hmajority : majority? (votes.map .str) = some (.str winner) := by simp [majority?, hbest]
  have hcombine : Aggregation.majorityVote.combine (votes.map .str) = .ok (.str winner) := by
    simp only [Aggregation.combine, hmajority]
  exact ⟨winner, hcombine, hwins⟩

/-- The winner depends on the order of the votes only between texts with as many votes. -/
theorem majority_has_most_votes (votes : List String) :
    (votes ≠ [] → ∃ winner, majorityOf votes = .ok (.str winner) ∧ Wins votes winner) ∧
      ∀ favourite ∈ votes, (∀ t ∈ votes, t ≠ favourite → votes.count t < votes.count favourite) →
        ∀ others : List String, others.Perm votes → majorityOf others = .ok (.str favourite) := by
  refine ⟨majorityOf_wins, ?_⟩
  intro favourite hmem hfewer others hperm
  have hothers : others ≠ [] := List.ne_nil_of_mem (hperm.mem_iff.2 hmem)
  obtain ⟨winner, hwinner, hwins⟩ := majorityOf_wins hothers
  have hsame : winner = favourite := by
    by_contra hne
    have hless := hfewer winner (hperm.mem_iff.1 hwins.mem) hne
    have hmore := hwins.most favourite
    rw [hperm.count_eq, hperm.count_eq] at hmore
    omega
  rw [hwinner, hsame]

/-- On a tie the first vote decides; with a majority no order changes the winner. -/
theorem polls_of_two_answers :
    (majorityOf ["no", "yes", "yes", "no"] = .ok (.str "no") ∧ Wins ["no", "yes", "yes", "no"] "no") ∧
      ((∀ t ∈ ["yes", "no", "yes"], t ≠ "yes" → ["yes", "no", "yes"].count t < ["yes", "no", "yes"].count "yes") ∧
        majorityOf ["no", "yes", "yes"] = .ok (.str "yes")) := by
  have htie : majorityOf ["no", "yes", "yes", "no"] = .ok (.str "no") := rfl
  obtain ⟨winner, hwinner, hwins⟩ := (majority_has_most_votes ["no", "yes", "yes", "no"]).1 (by decide)
  rw [htie] at hwinner
  cases hwinner
  have hfewer : ∀ t ∈ ["yes", "no", "yes"], t ≠ "yes" → ["yes", "no", "yes"].count t < ["yes", "no", "yes"].count "yes" := by decide
  have hperm : List.Perm ["no", "yes", "yes"] ["yes", "no", "yes"] := by decide
  exact ⟨⟨htie, hwins⟩, hfewer, (majority_has_most_votes ["yes", "no", "yes"]).2 "yes" (by decide) hfewer _ hperm⟩

end PromptLang
