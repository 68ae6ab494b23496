import Mathlib.Logic.Relation
import PromptLang.Proofs.Compositional
import PromptLang.Proofs.ProviderWork
import PromptLang.Proofs.UsedPrompts

/-! What one application of a technique costs. Whatever a technique driven by fields refuses, it refuses before the first call. When it
succeeds it has made exactly the planned calls, and techniques that hold blocks make only the calls of the prompts that their
blocks use. The limit of calls holds for the samples, for the tree of thoughts and for candidates that are scored without the
provider; elsewhere it holds only where the planned number happens to be within it. -/

namespace PromptLang

/-- A technique driven by fields refuses nothing once it has asked the host. The strategies check their names a second time, and those
that run on answers want at least one; both checks let pass whatever gets that far. -/
theorem refusals_precede_calls :
    (∀ (opts : Options) (host : Host) (resolve : Resolver) (method : Method) (fields : List Field) (body : String) (env : Env)
      (log log' : Log) (e : Error),
      (Technique.byFields method fields).apply opts host resolve body env log = (.error e, log') →
      e.code = "validation" ∨ e.code = "unknown_strategy" → log' = log) ∧
    (∀ (strategy : String) (results : List Value), results ≠ [] →
      (strategy ∈ ["majority_vote", "average"] →
        ∀ e, selectMostConsistent strategy results = .error e → e.code = "type_mismatch") ∧
      (strategy ∉ ["majority_vote", "average"] →
        ∃ e, selectMostConsistent strategy results = .error e ∧ e.code = "unknown_strategy")) ∧
    (∀ thoughts, thoughts ≠ [] → Knows (bestThought · thoughts) ["length", "keyword_match"]) ∧
    (∀ text, Knows (estimateUncertainty · text) ["entropy", "length"]) ∧
    (∀ questions w, Knows (selectQuestions · questions w) ["max_uncertainty", "random"]) ∧
    (∀ text, Knows (clusterQuestions · text) ["keyword", "length"]) ∧
    (∀ clusters w, clusters ≠ [] → Knows (representatives · clusters w) ["longest", "random"]) ∧
    (∀ rule w, representatives rule [] w = .ok []) ∧
    ∀ task, Knows (decomposeTask · task) ["sequential", "parallel"] := by
  refine ⟨?_, ?_, fun _ => bestThought_knows, estimateUncertainty_knows, selectQuestions_knows, clusterQuestions_knows,
    fun _ w h => representatives_knows h w, fun _ _ => rfl, decomposeTask_knows⟩
  · intro opts host resolve method fields body env log log' e hrun hcode
    rcases (method.apply_planned opts host fields body env).of_error hrun with hlog | ⟨hkeeps, -⟩
    · exact hlog
    · rw [e.isRefusal_iff.2 hcode] at hkeeps
      cases hkeeps
  · intro strategy results hresults
    refine ⟨fun hknown e h => ?_, fun hunknown => ⟨_, selectMostConsistent_unknown hunknown results, rfl⟩⟩
    obtain ⟨cause, rfl⟩ := selectMostConsistent_error hknown hresults h
    rfl

def unknownVote : List Field := [⟨"generations", .num 2⟩, ⟨"selectionStrategy", .str "loudest"⟩]

/-- The unknown strategy is refused before the two calls, as the vote itself refuses it, and one answer is enough for the others. -/
theorem unknownVote_refused :
    (∃ e log', (Technique.byFields .selfConsistency unknownVote).apply {} {} (fun name => .error (.unresolvedPrompt name)) "Vote."
      Env.empty {} = (.error e, log') ∧ e.code = "unknown_strategy" ∧ log' = {}) ∧
    (∀ e, selectMostConsistent "average" [.str "loud"] = .error e → e.code = "type_mismatch") ∧
    (∃ e, selectMostConsistent "loudest" [.str "loud"] = .error e ∧ e.code = "unknown_strategy") ∧
    (∃ best, bestThought "length" ["loud"] = .ok best) ∧
    (∃ e, bestThought "loudest" ["loud"] = .error e ∧ e.code = "unknown_strategy") ∧
    (∃ questions, representatives "longest" [("loud", ["Loud?"])] {} = .ok questions) ∧
    ∃ e, representatives "loudest" [("loud", ["Loud?"])] {} = .error e ∧ e.code = "unknown_strategy" := by
  obtain ⟨hrun, hselect, hbest, -, -, -, hpicks, -⟩ := refusals_precede_calls
  have hvote := hselect "average" [.str "loud"] (by simp)
  have hother := hselect "loudest" [.str "loud"] (by simp)
  have hthought := hbest ["loud"] (by simp)
  have hpick := hpicks [("loud", ["Loud?"])] {} (by simp)
  refine ⟨?_, hvote.1 (by simp), hother.2 (by simp), hthought.accepted _ (by simp), hthought.refused _ (by simp),
    hpick.accepted _ (by simp), hpick.refused _ (by simp)⟩
  obtain ⟨e, log', happly, hcode⟩ : ∃ e log', (Technique.byFields .selfConsistency unknownVote).apply {} {}
      (fun name => .error (.unresolvedPrompt name)) "Vote." Env.empty {} = (.error e, log') ∧ e.code = "unknown_strategy" :=
    ⟨_, _, rfl, rfl⟩
  exact ⟨e, log', happly, hcode, hrun _ _ _ _ _ _ _ _ _ _ happly (.inr hcode)⟩

section Blocks

def UseStep (resolve : Resolver) (names : List String) (log log' : Log) : Prop :=
  ∃ name ∈ names, ∃ run params, resolve name = .ok run ∧ (run params log).2 = log'

/-- The host is asked by runs of used prompts alone, one after the other. -/
def AsksByUse (resolve : Resolver) (names : List String) (α : Type) (x : Run α) : Prop :=
  ∀ log, Relation.ReflTransGen (UseStep resolve names) log (x log).2

variable (resolve : Resolver) (names : List String)

theorem asksByUse_compositional : Compositional (AsksByUse resolve names) where
  ofExcept _ _ := .refl
  bind := by
    intro α β x f hx hf log
    have hfirst := hx log
    rw [Run.bind_apply]
    rcases hrun : x log with ⟨_ | a, mid⟩
    · rw [hrun] at hfirst
      exact hfirst
    · rw [hrun] at hfirst
      exact hfirst.trans (hf a mid)

theorem asksByUse_only : (resolve.only names).Has (AsksByUse resolve names) where
  found := by
    intro name run hfound params log
    unfold Resolver.only at hfound
    split at hfound
    · next hname => exact .single ⟨name, hname, run, params, hfound, rfl⟩
    · cases hfound
  failed _ _ _ _ _ := .refl

end Blocks

/-- A successful application of a technique driven by fields makes exactly the planned calls. A technique that holds blocks makes the calls
of the prompts that its blocks use, and no others, whether it succeeds or not. -/
theorem technique_calls :
    (∀ (opts : Options) (host : Host) (resolve : Resolver) (method : Method) (fields : List Field) (body : String) (env : Env)
      (log log' : Log) (out : Value × Env),
      (Technique.byFields method fields).apply opts host resolve body env log = (.ok out, log') →
      ∃ made, log'.calls = log.calls ++ made ∧
        (Settings.mk opts env method fields).plannedCalls body method = .ok made.length) ∧
    ∀ (opts : Options) (host : Host) (resolve : Resolver) (t : Technique) (body : String) (env : Env) (log log' : Log)
      (result : Except Error (Value × Env)), t.kind ∈ Technique.blockKinds →
      t.apply opts host resolve body env log = (result, log') →
      Relation.ReflTransGen (UseStep resolve t.uses) log log' := by
  constructor
  · intro opts host resolve method fields body env log log' out hrun
    obtain ⟨made, hmade, hplan, -⟩ := (method.apply_planned opts host fields body env).of_ok hrun
    exact ⟨made, hmade, hplan⟩
  · intro opts host resolve t body env log log' result ht hrun
    have hagree := t.apply_agree opts host body env (Resolver.agree_only t.uses resolve)
    have hasks := Technique.apply_has_of_blocks (asksByUse_compositional resolve t.uses) (asksByUse_only resolve t.uses) ht
      opts host body env log
    rw [← hagree, hrun] at hasks
    exact hasks

def scoredCandidates : List Field := [⟨"candidatePool", .num 3⟩, ⟨"scoreFunction", .str "clarity"⟩]

def numberHost : Host where
  provider _ _ := .ok "1"

def onlyBrief : Resolver := fun name =>
  if name = "brief" then .ok fun _ => generate numberHost {} "Be brief." else .error (.unresolvedPrompt name)

def briefChain : Technique := .chainOfThought [("ask", [.use "brief" []]), ("think", [.text [.text "Think."]])]

/-- Candidates and their scores take six calls, and the chain takes the one call of the prompt that it uses. -/
theorem scoredCandidates_calls :
    (∃ out log' made, (Technique.byFields .ape scoredCandidates).apply {} numberHost onlyBrief "Pick." Env.empty {} = (.ok out, log') ∧
      log'.calls = made ∧ made.length = 6 ∧
      (Settings.mk {} Env.empty .ape scoredCandidates).plannedCalls "Pick." .ape = .ok made.length) ∧
    ∃ result log', briefChain.apply {} numberHost onlyBrief "" Env.empty {} = (result, log') ∧ log'.calls.length = 1 ∧
      Relation.ReflTransGen (UseStep onlyBrief ["brief"]) {} log' := by
  obtain ⟨hfields, hblocks⟩ := technique_calls
  constructor
  · obtain ⟨out, log', hrun, hcount⟩ : ∃ out log', (Technique.byFields .ape scoredCandidates).apply {} numberHost onlyBrief "Pick."
        Env.empty {} = (.ok out, log') ∧ log'.calls.length = 6 := ⟨_, _, rfl, rfl⟩
    obtain ⟨made, hmade, hplan⟩ := hfields _ _ _ _ _ _ _ _ _ _ hrun
    refine ⟨out, log', made, hrun, hmade, ?_, hplan⟩
    rw [← hcount, hmade]
    rfl
  · obtain ⟨result, log', hrun, hcount⟩ : ∃ result log', briefChain.apply {} numberHost onlyBrief "" Env.empty {} = (result, log') ∧
        log'.calls.length = 1 := ⟨_, _, rfl, rfl⟩
    exact ⟨result, log', hrun, hcount, hblocks _ _ _ _ _ _ _ _ _ (by decide) hrun⟩

/-- An application stays within the limit of calls where all its calls count, and where no more calls are planned than the limit allows. A
successful application of a larger plan goes beyond it. -/
theorem calls_within_limit (opts : Options) (host : Host) (resolve : Resolver) (method : Method) (fields : List Field)
    (body : String) (env : Env) (log log' : Log) (result : Except Error (Value × Env))
    (hrun : (Technique.byFields method fields).apply opts host resolve body env log = (result, log')) :
    ∃ made, log'.calls = log.calls ++ made ∧
      ((Settings.mk opts env method fields).IsCapped method → made.length ≤ opts.maxTechniqueCalls) ∧
      ∀ n, (Settings.mk opts env method fields).plannedCalls body method = .ok n →
        (n ≤ opts.maxTechniqueCalls → made.length ≤ opts.maxTechniqueCalls) ∧
        (opts.maxTechniqueCalls < n → ∀ out, result = .ok out → opts.maxTechniqueCalls < made.length) := by
  have hplanned := method.apply_planned opts host fields body env
  cases result with
  | ok out =>
    obtain ⟨made, hmade, hplan, hcapped⟩ := hplanned.of_ok hrun
    refine ⟨made, hmade, hcapped, fun n hn => ?_⟩
    cases hplan.symm.trans hn
    exact ⟨id, fun hlarge _ _ => hlarge⟩
  | error e =>
    -- where a larger plan fails, the number of calls is left open
    rcases hplanned.of_error hrun with rfl | ⟨-, n, made, ⟨hplan, hcapped⟩, hmade, hle⟩
    · refine ⟨[], (List.append_nil _).symm, fun _ => Nat.zero_le _, fun n _ => ?_⟩
      exact ⟨fun _ => Nat.zero_le _, fun _ out hout => nomatch hout⟩
    · refine ⟨made, hmade, fun h => Nat.le_trans hle (hcapped h), fun m hm => ?_⟩
      cases hplan.symm.trans hm
      exact ⟨Nat.le_trans hle, fun _ out hout => nomatch hout⟩

def smallTree : List Field := [⟨"breadth", .num 2⟩, ⟨"depth", .num 2⟩, ⟨"evaluationStrategy", .str "length"⟩]

theorem smallTree_within_limit : ∃ out log' made,
    (Technique.byFields .treeOfThoughts smallTree).apply { maxTechniqueCalls := 6 } numberHost onlyBrief "Plan." Env.empty {} =
      (.ok out, log') ∧ log'.calls = made ∧ made.length ≤ 6 := by
  obtain ⟨out, log', hrun⟩ : ∃ out log', (Technique.byFields .treeOfThoughts smallTree).apply { maxTechniqueCalls := 6 } numberHost
      onlyBrief "Plan." Env.empty {} = (.ok out, log') := ⟨_, _, rfl⟩
  obtain ⟨made, hmade, hcapped, -⟩ := calls_within_limit _ _ _ _ _ _ _ _ _ _ hrun
  exact ⟨out, log', made, hrun, hmade, hcapped trivial⟩

/-- Candidates that the provider scores are counted once and asked for twice: with a limit of three calls there are six. -/
theorem scoredCandidates_beyond_limit : ∃ out log',
    (Technique.byFields .ape scoredCandidates).apply { maxTechniqueCalls := 3 } numberHost onlyBrief "Pick." Env.empty {} =
      (.ok out, log') ∧ ¬ log'.calls.length ≤ 3 :=
  ⟨_, _, rfl, by decide⟩

end PromptLang
