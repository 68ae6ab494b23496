import Mathlib.Data.List.Infix
import PromptLang.Proofs.ProviderWork

/-! The tree of thoughts. Its calls fall into levels, each level asks `breadth` times to go on from every answer of the level before it,
in order, and the result is the first of the best answers on the last level. Calls are kept together with their answers, so that it
can be said which answer a call goes on from. -/

namespace PromptLang

structure Exchange where
  call : Call
  answer : String

/-- Each answer is the one that the provider gives after the earlier calls and the calls before it. -/
def Answered (host : Host) (earlier : List Call) (made : List Exchange) : Prop :=
  ∀ k x, made[k]? = some x → host.provider (earlier ++ (made.take k).map Exchange.call) x.call = .ok x.answer

/-- Between the two logs stand exactly these exchanges. -/
structure Exchanged (host : Host) (made : List Exchange) (log log' : Log) : Prop where
  log_eq : log' = { log with calls := log.calls ++ made.map Exchange.call }
  answered : Answered host log.calls made

section Exchanges

variable {host : Host} {constraints : Constraints} {log log₁ log' : Log}

theorem Exchanged.nil (host : Host) (log : Log) : Exchanged host [] log log where
  log_eq := by simp
  answered := fun _ _ h => nomatch h

theorem Exchanged.append {made more : List Exchange} (h : Exchanged host made log log₁) (h' : Exchanged host more log₁ log') :
    Exchanged host (made ++ more) log log' := by
  obtain ⟨rfl, hmade⟩ := h
  obtain ⟨rfl, hmore⟩ := h'
  refine ⟨by simp, fun k x hx => ?_⟩
  rw [List.take_append]
  by_cases hk : k < made.length
  · rw [List.getElem?_append_left hk] at hx
    rw [show k - made.length = 0 by omega]
    simpa using hmade k x hx
  · have hle : made.length ≤ k := Nat.le_of_not_lt hk
    rw [List.getElem?_append_right hle] at hx
    rw [List.take_of_length_le hle]
    simpa using hmore _ x hx

theorem exchanged_generate {prompt answer : String} (h : generate host constraints prompt log = (.ok answer, log')) :
    Exchanged host [⟨⟨prompt, constraints⟩, answer⟩] log log' := by
  obtain ⟨hanswer, rfl⟩ := generate_eq_ok.1 h
  refine ⟨rfl, fun k x hx => ?_⟩
  cases k with
  | zero =>
    cases hx
    simpa using hanswer
  | succ k => cases hx

/-- The calls of a batch and their answers, in the order of the calls whatever the order of arrival. -/
theorem exchanged_generateAll {limit : Nat} {prompts answers : List String}
    (h : generateAll host limit constraints prompts log = (.ok answers, log')) :
    ∃ made, Exchanged host made log log' ∧ made.map Exchange.call = prompts.map (⟨·, constraints⟩) ∧
      made.map Exchange.answer = answers := by
  obtain ⟨hreplies, rfl⟩ := (generateAll_eq_ok ..).1 h
  have hlength : prompts.length = answers.length := by simpa using congrArg List.length hreplies
  let made := (prompts.zip answers).map fun pair => Exchange.mk ⟨pair.1, constraints⟩ pair.2
  have hcalls : made.map Exchange.call = prompts.map (⟨·, constraints⟩) := by
    rw [← List.map_fst_zip (Nat.le_of_eq hlength), List.map_map, List.map_map]
    rfl
  have hanswers : made.map Exchange.answer = answers := by
    refine (List.map_map ..).trans ?_
    exact List.map_snd_zip (Nat.le_of_eq hlength.symm)
  refine ⟨made, ⟨by rw [hcalls]; rfl, fun k x hx => ?_⟩, hcalls, hanswers⟩
  rw [List.map_take, hcalls, ← List.map_take]
  rw [List.getElem?_map] at hx
  obtain ⟨pair, hpair, rfl⟩ := Option.map_eq_some_iff.1 hx
  obtain ⟨hprompt, hanswer⟩ := List.getElem?_zip_eq_some.1 hpair
  have hreply := getElem?_replies host constraints log.calls prompts k
  rw [hreplies, List.getElem?_map, hanswer, hprompt] at hreply
  exact (Option.some.inj hreply).symm

end Exchanges

theorem getElem?_flatMap_replicate {α β : Type} (f : α → β) {breadth j : Nat} (h : j < breadth) (xs : List α) (i : Nat) :
    (xs.flatMap fun x => List.replicate breadth (f x))[i * breadth + j]? = xs[i]?.map f := by
  induction xs generalizing i with
  | nil => simp
  | cons x rest ih =>
    rw [List.flatMap_cons]
    cases i with
    | zero => simp [List.getElem?_append_left, h]
    | succ i =>
      have hpos : (i + 1) * breadth + j = breadth + (i * breadth + j) := by
        rw [Nat.add_mul, Nat.one_mul]
        omega
      rw [hpos, List.getElem?_append_right (by simp), List.length_replicate, Nat.add_sub_cancel_left, ih]
      rfl

/-- The next level asks `breadth` times to go on from each answer. -/
def Expands (constraints : Constraints) (context : String) (breadth : Nat) (level next : List Exchange) : Prop :=
  next.map Exchange.call = level.flatMap fun x =>
    List.replicate breadth ⟨context ++ "\n\nExpand on this thought: " ++ x.answer, constraints⟩

section Levels

variable {host : Host} {constraints : Constraints} {context : String} {breadth : Nat}

theorem Expands.length {level next : List Exchange} (h : Expands constraints context breadth level next) :
    next.length = level.length * breadth := by
  have hlength := congrArg List.length h
  simpa [List.length_flatMap] using hlength

theorem Expands.child {level next : List Exchange} (h : Expands constraints context breadth level next) {i j : Nat} {x : Exchange}
    (hx : level[i]? = some x) (hj : j < breadth) :
    ∃ y, next[i * breadth + j]? = some y ∧ y.call = ⟨context ++ "\n\nExpand on this thought: " ++ x.answer, constraints⟩ := by
  have hcall := getElem?_flatMap_replicate
    (fun x : Exchange => (⟨context ++ "\n\nExpand on this thought: " ++ x.answer, constraints⟩ : Call)) hj level i
  rw [← h, List.getElem?_map, hx] at hcall
  exact Option.map_eq_some_iff.1 hcall

/-- Expanding the answers of a level adds levels below it, and its result are the answers of the last one. -/
theorem exchanged_expandThoughts {limit n : Nat} {level : List Exchange} {log log' : Log} {leaves : List String}
    (h : expandThoughts host limit constraints context breadth n (level.map Exchange.answer) log = (.ok leaves, log')) :
    ∃ below last, below.length = n ∧ Exchanged host below.flatten log log' ∧
      (level :: below).IsChain (Expands constraints context breadth) ∧
      (level :: below).getLast? = some last ∧ leaves = last.map Exchange.answer := by
  induction n generalizing level log with
  | zero =>
    cases h
    exact ⟨[], level, rfl, .nil host log', .singleton level, rfl, rfl⟩
  | succ n ih =>
    obtain ⟨answers, log₁, hnext, h⟩ := Run.bind_eq_ok.1 h
    obtain ⟨next, hmade, hcalls, rfl⟩ := exchanged_generateAll hnext
    have hexpands : Expands constraints context breadth level next := by
      simpa [Expands, expansionPrompt, List.map_flatMap, List.flatMap_map] using hcalls
    obtain ⟨below, last, rfl, hbelow, hchain, hlast, rfl⟩ := ih h
    refine ⟨next :: below, last, rfl, hmade.append hbelow, .cons_cons hexpands hchain, ?_, rfl⟩
    rw [List.getLast?_cons_cons]
    exact hlast

theorem expands_of_isChain {levels : List (List Exchange)} (h : levels.IsChain (Expands constraints context breadth)) {l : Nat}
    {level next : List Exchange} (hlevel : levels[l]? = some level) (hnext : levels[l + 1]? = some next) :
    Expands constraints context breadth level next := by
  obtain ⟨_, rfl⟩ := List.getElem?_eq_some_iff.1 hlevel
  obtain ⟨hl, rfl⟩ := List.getElem?_eq_some_iff.1 hnext
  exact List.isChain_iff_getElem.1 h l hl

theorem length_of_isChain {first : List Exchange} {below : List (List Exchange)}
    (h : (first :: below).IsChain (Expands constraints context breadth)) {l : Nat} {level : List Exchange}
    (hlevel : (first :: below)[l]? = some level) : level.length = first.length * breadth ^ l := by
  induction l generalizing level with
  | zero =>
    cases hlevel
    simp
  | succ l ih =>
    obtain ⟨hl, -⟩ := List.getElem?_eq_some_iff.1 hlevel
    have habove : (first :: below)[l]? = some (first :: below)[l] := List.getElem?_eq_getElem _
    rw [(expands_of_isChain h habove hlevel).length, ih habove, pow_succ, mul_assoc]

end Levels

/-- A full tree below a prompt, level by level. -/
structure FullTree (constraints : Constraints) (prompt context : String) (breadth : Nat) (levels : List (List Exchange)) : Prop where
  size : ∀ l level, levels[l]? = some level → level.length = breadth ^ (l + 1)
  root : ∀ level, levels[0]? = some level → ∀ x ∈ level, x.call = ⟨prompt, constraints⟩
  child : ∀ l level next, levels[l]? = some level → levels[l + 1]? = some next →
    ∀ i x, level[i]? = some x → ∀ j < breadth,
      ∃ y, next[i * breadth + j]? = some y ∧ y.call = ⟨context ++ "\n\nExpand on this thought: " ++ x.answer, constraints⟩

theorem FullTree.of_isChain {constraints : Constraints} {prompt context : String} {breadth : Nat} {first : List Exchange}
    {below : List (List Exchange)} (hfirst : first.map Exchange.call = List.replicate breadth ⟨prompt, constraints⟩)
    (h : (first :: below).IsChain (Expands constraints context breadth)) :
    FullTree constraints prompt context breadth (first :: below) where
  size l level hlevel := by
    have hlength : first.length = breadth := by simpa using congrArg List.length hfirst
    rw [length_of_isChain h hlevel, hlength, pow_succ']
  root level hlevel x hx := by
    cases hlevel
    have hcall := List.mem_map_of_mem (f := Exchange.call) hx
    rw [hfirst] at hcall
    exact List.eq_of_mem_replicate hcall
  child l level next hlevel hnext i x hx j hj := (expands_of_isChain h hlevel hnext).child hx hj

/-- What a strategy looks at in a thought: how many characters it has, or how many salient keywords occur in it in any case. -/
def thoughtWorth (strategy thought : String) : Nat :=
  if strategy = "length" then thought.length
  else (["important", "crucial", "significant", "key"].filter fun word => word.toList <:+: (Text.lowercase thought).toList).length

theorem keywordScore_eq (text : String) :
    keywordScore text =
      (["important", "crucial", "significant", "key"].filter fun word => word.toList <:+: (Text.lowercase text).toList).length := by
  refine congrArg List.length (List.filter_congr fun word _ => Bool.eq_iff_iff.2 ?_)
  rw [Text.mentions, Text.contains_iff_infix, decide_eq_true_iff]

theorem score_of_mem_table {strategy : String} {scorer : Scorer} (h : (strategy, scorer) ∈ Scorer.table) :
    (strategy = "length" ∨ strategy = "keyword_match") ∧ scorer.score = thoughtWorth strategy := by
  simp only [Scorer.table, List.mem_cons, List.not_mem_nil, or_false, Prod.mk.injEq] at h
  rcases h with ⟨rfl, rfl⟩ | ⟨rfl, rfl⟩
  · exact ⟨.inl rfl, funext fun text => (if_pos rfl).symm⟩
  · exact ⟨.inr rfl, funext fun text => (keywordScore_eq text).trans (if_neg (by decide)).symm⟩

theorem bestThought_eq_ok {strategy : String} {thoughts : List String} {best : String}
    (h : bestThought strategy thoughts = .ok best) :
    (strategy = "length" ∨ strategy = "keyword_match") ∧ bestBy? (thoughtWorth strategy) thoughts = some best := by
  obtain ⟨scorer, hscorer, h⟩ := bind_eq_ok.1 h
  obtain ⟨hname, hworth⟩ := score_of_mem_table (mem_of_chooseStrategy hscorer)
  split at h
  · next hbest =>
    cases h
    exact ⟨hname, hworth ▸ hbest⟩
  · cases h

theorem runTreeOfThoughts_eq_ok {host : Host} {s : Settings} {body : String} {log log' : Log} {result : Value}
    (h : runTreeOfThoughts host s body log = (.ok result, log')) :
    ∃ breadth depth strategy constraints first leaves best log₁,
      (s.count "breadth" = .ok breadth ∧ s.count "depth" = .ok depth ∧ s.text "evaluationStrategy" = .ok strategy ∧
        s.env.constraints = .ok constraints) ∧
      generateAll host s.opts.maxConcurrentCalls constraints (List.replicate breadth (compose s.env body)) log = (.ok first, log₁) ∧
      expandThoughts host s.opts.maxConcurrentCalls constraints s.env.toJson.compact breadth (depth - 1) first log₁ =
        (.ok leaves, log') ∧
      bestThought strategy leaves = .ok best ∧ result = .str best := by
  obtain ⟨breadth, hbreadth, h⟩ := Run.liftM_bind_eq_ok.1 h
  obtain ⟨depth, hdepth, h⟩ := Run.liftM_bind_eq_ok.1 h
  obtain ⟨strategy, hstrategy, h⟩ := Run.liftM_bind_eq_ok.1 h
  obtain ⟨_, -, h⟩ := Run.liftM_bind_eq_ok.1 h
  split at h
  · cases h
  · obtain ⟨constraints, hconstraints, h⟩ := Run.liftM_bind_eq_ok.1 h
    obtain ⟨first, log₁, hfirst, h⟩ := Run.bind_eq_ok.1 h
    obtain ⟨leaves, log₂, hleaves, h⟩ := Run.bind_eq_ok.1 h
    obtain ⟨best, hbest, h⟩ := Run.liftM_bind_eq_ok.1 h
    cases h
    exact ⟨breadth, depth, strategy, constraints, first, leaves, best, log₁,
      ⟨hbreadth, hdepth, hstrategy, hconstraints⟩, hfirst, hleaves, hbest, rfl⟩

/-- A successful tree of thoughts is a full tree with as many levels as it is deep, and its calls are made one level after the other. Its
result is the first answer on the last level that no other answer there exceeds. -/
theorem treeOfThoughts_is_full (host : Host) (s : Settings) (body : String) (log log' : Log) (result : Value)
    (h : runTreeOfThoughts host s body log = (.ok result, log')) :
    ∃ breadth depth strategy constraints levels,
      (s.count "breadth" = .ok breadth ∧ s.count "depth" = .ok depth ∧ s.text "evaluationStrategy" = .ok strategy ∧
        s.env.constraints = .ok constraints) ∧
      (1 ≤ breadth ∧ 1 ≤ depth ∧ (strategy = "length" ∨ strategy = "keyword_match")) ∧
      log' = { log with calls := log.calls ++ levels.flatten.map Exchange.call } ∧ Answered host log.calls levels.flatten ∧
      levels.length = depth ∧ FullTree constraints (compose s.env body) s.env.toJson.compact breadth levels ∧
      ∃ before best after, levels.getLast? = some (before ++ best :: after) ∧ result = .str best.answer ∧
        (∀ x ∈ before, thoughtWorth strategy x.answer < thoughtWorth strategy best.answer) ∧
        ∀ x ∈ after, thoughtWorth strategy x.answer ≤ thoughtWorth strategy best.answer := by
  obtain ⟨breadth, depth, strategy, constraints, _, leaves, best, log₁,
    ⟨hbreadth, hdepth, hstrategy, hconstraints⟩, hfirst, hleaves, hchoice, rfl⟩ := runTreeOfThoughts_eq_ok h
  obtain ⟨hpos, -⟩ := Settings.count_bounds hbreadth
  obtain ⟨hdeep, -⟩ := Settings.count_bounds hdepth
  obtain ⟨hname, hbest⟩ := bestThought_eq_ok hchoice
  obtain ⟨first, hmade, hcalls, rfl⟩ := exchanged_generateAll hfirst
  obtain ⟨below, last, hlength, hbelow, hchain, hlast, rfl⟩ := exchanged_expandThoughts hleaves
  obtain ⟨hlog, hanswered⟩ := hmade.append hbelow
  refine ⟨breadth, depth, strategy, constraints, first :: below, ⟨hbreadth, hdepth, hstrategy, hconstraints⟩, ⟨hpos, hdeep, hname⟩,
    hlog, hanswered, ?_, .of_isChain (by simpa using hcalls) hchain, ?_⟩
  · rw [List.length_cons, hlength]
    omega
  · -- the best text among the leaves is the answer of one of the exchanges on the last level
    obtain ⟨before, after, hsplit, hbefore, hafter⟩ := split_of_bestBy? hbest
    obtain ⟨front, back, rfl, rfl, hback⟩ := List.map_eq_append_iff.1 hsplit
    obtain ⟨leaf, tail, rfl, rfl, rfl⟩ := List.map_eq_cons_iff.1 hback
    exact ⟨front, leaf, tail, hlast, rfl, by simpa using hbefore, by simpa using hafter⟩

/-- Answers in turn. Of the first two calls of a batch, the second one is answered first. -/
def muse : Host where
  provider earlier _ := .ok (["Rest.", "Walk.", "Eat.", "Sleep is KEY.", "Crucial: run.", "Swim."].getD earlier.length "")
  schedule _ := [.send, .send, .arrive 1, .arrive 0]

def dayPlan : Settings where
  opts := {}
  env := .withParams [("city", .str "Oslo")]
  method := .treeOfThoughts
  fields := [⟨"breadth", .num 2⟩, ⟨"depth", .num 2⟩, ⟨"evaluationStrategy", .str "keyword_match"⟩]

def dayContext : String :=
  "\x7b\"params\":\x7b\"city\":\"Oslo\"\x7d,\"meta\":\x7b\x7d,\"context\":\x7b\x7d,\"constraints\":\x7b\x7d," ++
    "\"output\":\x7b\x7d,\"hooks\":\x7b\x7d,\"techniques\":[]\x7d"

/-- Two of the four leaves have a keyword, and the first of them is kept. -/
theorem dayPlan_keeps_sleep : ∃ log' levels, runTreeOfThoughts muse dayPlan "Plan a day." {} = (.ok (.str "Sleep is KEY."), log') ∧
    log'.calls.map Call.prompt = ["Task:\nPlan a day.", "Task:\nPlan a day.",
      dayContext ++ "\n\nExpand on this thought: Rest.", dayContext ++ "\n\nExpand on this thought: Rest.",
      dayContext ++ "\n\nExpand on this thought: Walk.", dayContext ++ "\n\nExpand on this thought: Walk."] ∧
    log'.calls = levels.flatten.map Exchange.call ∧ levels.length = 2 ∧ FullTree {} "Task:\nPlan a day." dayContext 2 levels := by
  have hprompt : compose dayPlan.env "Plan a day." = "Task:\nPlan a day." := rfl
  have hcontext : dayPlan.env.toJson.compact = dayContext := rfl
  obtain ⟨log', hrun, hprompts⟩ : ∃ log', runTreeOfThoughts muse dayPlan "Plan a day." {} = (.ok (.str "Sleep is KEY."), log') ∧
      log'.calls.map Call.prompt = ["Task:\nPlan a day.", "Task:\nPlan a day.",
        dayContext ++ "\n\nExpand on this thought: Rest.", dayContext ++ "\n\nExpand on this thought: Rest.",
        dayContext ++ "\n\nExpand on this thought: Walk.", dayContext ++ "\n\nExpand on this thought: Walk."] := by
    simp only [runTreeOfThoughts, hprompt, hcontext]
    exact ⟨_, rfl, rfl⟩
  obtain ⟨breadth, depth, strategy, constraints, levels, ⟨hbreadth, hdepth, -, hconstraints⟩, -, hlog, -, rfl, htree, -⟩ :=
    treeOfThoughts_is_full _ _ _ _ _ _ hrun
  have hb : dayPlan.count "breadth" = .ok 2 := rfl
  have hd : dayPlan.count "depth" = .ok 2 := rfl
  have hc : dayPlan.env.constraints = .ok {} := rfl
  rw [hb] at hbreadth
  rw [hd] at hdepth
  rw [hc] at hconstraints
  cases hbreadth
  cases hconstraints
  rw [hprompt, hcontext] at htree
  exact ⟨log', levels, hrun, hprompts, congrArg Log.calls hlog, (Except.ok.inj hdepth).symm, htree⟩

end PromptLang
