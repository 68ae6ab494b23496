import PromptLang.Proofs.StrategyResults

/-! Representatives of clusters. Each cluster chooses one of its members, the first of its longest ones or a random one, and a question that
is chosen more than once is kept where it was chosen first. So no cluster that has members is left without a representative. A run
draws finitely many random words, so a cycle of these words stands for any stream. -/

namespace PromptLang

namespace Words

theorem take_lt (w : Words) : w.take.1 < word32 := (w.cycle[w.next % w.cycle.length]?.getD 0).toNat_lt

/-- The high half of `word · k` is below `k`. -/
theorem drawBelow_lt {k : Nat} (hk : 0 < k) (tries : Nat) (w : Words) : (drawBelow k tries w).1 < k := by
  induction tries generalizing w with
  | zero => exact hk
  | succ tries ih =>
    unfold drawBelow
    dsimp only
    split
    · exact Nat.div_lt_of_lt_mul (Nat.mul_lt_mul_of_pos_right w.take_lt hk)
    · exact ih w.take.2

theorem index_lt {k : Nat} (hk : 0 < k) (w : Words) : (w.index k).1 < k := drawBelow_lt hk _ w

end Words

theorem choose?_mem {α : Type} {xs : List α} (h : xs ≠ []) (w : Words) : ∃ x ∈ xs, (choose? xs w).1 = some x := by
  have hlt := w.index_lt (List.length_pos_iff.2 h)
  refine ⟨xs[(w.index xs.length).1], List.getElem_mem hlt, ?_⟩
  rw [choose?, if_neg (by simpa using h)]
  exact List.getElem?_eq_getElem hlt

/-- Longer than all members before it, and not shorter than those behind it. -/
def FirstLongest (members : List String) (e : String) : Prop :=
  ∃ before after, members = before ++ e :: after ∧ (∀ x ∈ before, x.length < e.length) ∧ ∀ x ∈ after, x.length ≤ e.length

namespace Representation

variable (r : Representation)

theorem pick_nil (w : Words) : (r.pick [] w).1 = none := by
  cases r <;> rfl

theorem pick_mem {members : List String} (h : members ≠ []) (w : Words) :
    ∃ e ∈ members, (r.pick members w).1 = some e ∧ (r = longest → FirstLongest members e) := by
  cases r with
  | longest =>
    obtain ⟨e, he⟩ := exists_bestBy? String.length h
    obtain ⟨before, after, rfl, hfirst⟩ := split_of_bestBy? he
    exact ⟨e, by simp, he, fun _ => ⟨before, after, rfl, hfirst⟩⟩
  | random =>
    obtain ⟨e, hmem, he⟩ := choose?_mem h w
    refine ⟨e, hmem, he, fun hlongest => ?_⟩
    cases hlongest

/-- What the clusters choose, one after the other. -/
def choices : List (List String) → Words → List (Option String)
  | [], _ => []
  | members :: rest, w => (r.pick members w).1 :: choices rest (r.pick members w).2

theorem picks_eq (clusters : List (List String)) (w : Words) : r.picks clusters w = (r.choices clusters w).flatMap Option.toList := by
  induction clusters generalizing w with
  | nil => rfl
  | cons members rest ih =>
    rw [choices, List.flatMap_cons, ← ih]
    rfl

theorem length_choices (clusters : List (List String)) (w : Words) : (r.choices clusters w).length = clusters.length := by
  induction clusters generalizing w with
  | nil => rfl
  | cons members rest ih => rw [choices, List.length_cons, List.length_cons, ih]

theorem getElem?_choices {clusters : List (List String)} {i : Nat} {members : List String} (h : clusters[i]? = some members)
    (w : Words) : ∃ w', (r.choices clusters w)[i]? = some (r.pick members w').1 := by
  induction clusters generalizing i w with
  | nil => cases h
  | cons first rest ih =>
    cases i with
    | zero =>
      cases h
      exact ⟨w, rfl⟩
    | succ i => exact ih h (r.pick first w).2

/-- The cluster with the number `i` chooses `e`. -/
def Chooses (clusters : Clusters) (w : Words) (i : Nat) (e : String) : Prop :=
  (r.choices (clusters.map Prod.snd) w)[i]? = some (some e)

variable {r} {clusters : Clusters} {w : Words} {i : Nat} {cluster : String × List String} {e : String}

theorem chooses_iff (h : clusters[i]? = some cluster) (w : Words) :
    ∃ w', ∀ e, r.Chooses clusters w i e ↔ (r.pick cluster.2 w').1 = some e := by
  have hmembers : (clusters.map Prod.snd)[i]? = some cluster.2 := by rw [List.getElem?_map, h, Option.map_some]
  obtain ⟨w', hw'⟩ := r.getElem?_choices hmembers w
  exact ⟨w', fun e => by rw [Chooses, hw', Option.some.injEq]⟩

theorem Chooses.mem (h : r.Chooses clusters w i e) : ∃ cluster ∈ clusters, e ∈ cluster.2 := by
  have hlt := (List.getElem?_eq_some_iff.1 h).1
  rw [length_choices, List.length_map] at hlt
  obtain ⟨w', hw'⟩ := r.chooses_iff (List.getElem?_eq_getElem hlt) w
  have hpick := (hw' e).1 h
  refine ⟨clusters[i], List.getElem_mem hlt, ?_⟩
  by_cases hne : clusters[i].2 = []
  · rw [hne, pick_nil] at hpick
    cases hpick
  · obtain ⟨e', hmem, he', -⟩ := r.pick_mem hne w'
    rw [hpick, Option.some.injEq] at he'
    exact he' ▸ hmem

theorem exists_chooses (h : clusters[i]? = some cluster) (hne : cluster.2 ≠ []) (w : Words) :
    ∃ e, r.Chooses clusters w i e ∧ e ∈ cluster.2 ∧ (r = longest → FirstLongest cluster.2 e) := by
  obtain ⟨w', hw'⟩ := r.chooses_iff h w
  obtain ⟨e, hmem, he, hfirst⟩ := r.pick_mem hne w'
  exact ⟨e, (hw' e).2 he, hmem, hfirst⟩

theorem ofName_of_mem_table {strategy : String} (h : (strategy, r) ∈ table) : ofName strategy = .ok r := by
  simp only [table, List.mem_cons, List.not_mem_nil, or_false, Prod.mk.injEq] at h
  rcases h with ⟨rfl, rfl⟩ | ⟨rfl, rfl⟩ <;> rfl

theorem length_distinct_le (r : Representation) (clusters : List (List String)) (w : Words) :
    ((r.choices clusters w).flatMap Option.toList).eraseDups.length ≤ clusters.length :=
  calc
    _ ≤ ((r.choices clusters w).flatMap Option.toList).length := by
      rw [length_eraseDups]
      exact List.toFinset_card_le _
    _ ≤ (r.choices clusters w).length := by
      have hmade := List.length_filterMap_le id (r.choices clusters w)
      rwa [List.filterMap_eq_flatMap_toList] at hmade
    _ = clusters.length := r.length_choices clusters w

end Representation

/-- The choices that are made are listed from cluster to cluster. -/
theorem listed_choices {α : Type} (choices : List (Option α)) :
    Listed (· < ·) (fun (i : Nat) a => choices[i]? = some (some a)) (choices.flatMap Option.toList) := by
  have hone : ∀ choice : Option α, Listed (fun _ _ : Unit => False) (fun _ a => choice = some a) choice.toList := by
    intro choice
    cases choice with
    | none => exact .nil _ (by simp)
    | some a => exact ⟨[((), a)], rfl, List.pairwise_singleton _ _, by simp [eq_comm]⟩
  have hnumber : ∀ s t : Nat × Unit, Prod.Lex (· < ·) (fun _ _ => False) s t → s.1 < t.1 := by
    intro s t hst
    simpa [Prod.lex_def] using hst
  refine ((Listed.flatMap hone).move hnumber).congr ?_
  intro i a
  simp

/-- Every cluster that has members is represented by one of them, with the longest members by the first of these. No representative
is listed twice, and they stand in the order of the clusters that chose them first. -/
theorem representatives_cover_clusters (strategy : String) (r : Representation) (hstrategy : (strategy, r) ∈ Representation.table)
    (clusters : Clusters) (w : Words) :
    ∃ result, representatives strategy clusters w = .ok result ∧ result.Nodup ∧ result.length ≤ clusters.length ∧
      (∀ e ∈ result, ∃ cluster ∈ clusters, e ∈ cluster.2) ∧
      (∀ cluster ∈ clusters, cluster.2 ≠ [] →
        ∃ e ∈ result, e ∈ cluster.2 ∧ (r = .longest → FirstLongest cluster.2 e)) ∧
      (∀ e, e ∈ result ↔ ∃ i, r.Chooses clusters w i e) ∧
      result.Pairwise fun a b => ∃ i, r.Chooses clusters w i a ∧ ∀ j, r.Chooses clusters w j b → i < j := by
  have hresult := representatives_eq (Representation.ofName_of_mem_table hstrategy) clusters w
  rw [r.picks_eq] at hresult
  have hlisted := listed_choices (r.choices (clusters.map Prod.snd) w)
  have hmem : ∀ e, e ∈ ((r.choices (clusters.map Prod.snd) w).flatMap Option.toList).eraseDups ↔
      ∃ i, r.Chooses clusters w i e := by
    intro e
    rw [List.mem_eraseDups, hlisted.mem_iff]
    rfl
  refine ⟨_, hresult, nodup_eraseDups _, ?_, ?_, ?_, hmem, hlisted.pairwise_eraseDups⟩
  · have hlength := r.length_distinct_le (clusters.map Prod.snd) w
    rwa [List.length_map] at hlength
  · intro e he
    obtain ⟨i, hi⟩ := (hmem e).1 he
    exact hi.mem
  · intro cluster hcluster hne
    obtain ⟨i, hi⟩ := List.getElem?_of_mem hcluster
    obtain ⟨e, hchosen, hmember⟩ := r.exists_chooses hi hne w
    exact ⟨e, (hmem e).2 ⟨i, hchosen⟩, hmember⟩

/-- Clusters that share questions, and one that is empty. -/
def sharedClusters : Clusters :=
  [("tides", ["Tides?", "Why tides?", "Two tides?"]), ("none", []), ("rows", ["Who rows?", "Tides?"]), ("why", ["Why tides?"])]

/-- Of two longest questions the first one is chosen, and the last cluster chooses it again. -/
theorem sharedClusters_represented :
    (("longest", .longest) ∈ Representation.table) ∧
      representatives "longest" sharedClusters {} = .ok ["Why tides?", "Who rows?"] ∧
      ∃ e ∈ ["Why tides?", "Who rows?"], e ∈ ["Who rows?", "Tides?"] ∧ FirstLongest ["Who rows?", "Tides?"] e := by
  have hrun : representatives "longest" sharedClusters {} = .ok ["Why tides?", "Who rows?"] := rfl
  have hname : ("longest", Representation.longest) ∈ Representation.table := by decide
  obtain ⟨result, hresult, -, -, -, hcover, -⟩ := representatives_cover_clusters "longest" .longest hname sharedClusters {}
  rw [hrun, Except.ok.injEq] at hresult
  subst hresult
  obtain ⟨e, he, hmem, hfirst⟩ := hcover ("rows", ["Who rows?", "Tides?"]) (by simp [sharedClusters]) (by simp)
  exact ⟨hname, hrun, e, he, hmem, hfirst rfl⟩

end PromptLang
