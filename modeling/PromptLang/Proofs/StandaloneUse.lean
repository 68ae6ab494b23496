import PromptLang.Proofs.Parametric

/-! The use of a prompt is a run of its own. Below the limit of nested uses, it makes the calls of the prompt as the first one of the same
program, with as many levels of uses as are left, and its text is that of the outcome. The interpreter counts the levels that are
left, so the two runs differ only in the limit that a failure reports, and no success depends on it. -/

namespace PromptLang

namespace Run

variable {α β : Type} {x y : Run α}

/-- The same log in every case, and the same results of successes. -/
def Matches (x y : Run α) : Prop := ∀ log, (x log).2 = (y log).2 ∧ ∀ a, (x log).1 = .ok a ↔ (y log).1 = .ok a

theorem Matches.refl (x : Run α) : Matches x x := fun _ => ⟨rfl, fun _ => Iff.rfl⟩

theorem Matches.eq_ok_iff (h : Matches x y) {log log' : Log} {a : α} : x log = (.ok a, log') ↔ y log = (.ok a, log') := by
  obtain ⟨hlog, hresult⟩ := h log
  rw [Prod.ext_iff, Prod.ext_iff, hresult a, hlog]

theorem matches_congruence : Congruence fun α => Matches (α := α) where
  ofExcept h _ := ⟨rfl, fun a => ⟨h.keeps a, h.kept a⟩⟩
  bind := by
    intro α β x y f g hx hf log
    obtain ⟨hlog, hresult⟩ := hx log
    rw [bind_apply, bind_apply]
    rcases hrun : x log with ⟨e | a, log₁⟩
    · -- both first parts fail, with errors that need not be the same
      rcases hrun' : y log with ⟨e' | b, log₂⟩
      · rw [hrun, hrun'] at hlog
        exact ⟨hlog, fun c => by simp⟩
      · rw [hrun, hrun'] at hresult
        cases (hresult b).2 rfl
    · rw [hrun] at hresult
      have hsame : y log = (.ok a, log₁) := Prod.ext ((hresult a).1 rfl) (by rw [← hlog, hrun])
      rw [hsame]
      exact hf a log₁

theorem log_bind_pure (x : Run α) (f : α → β) (log : Log) : ((x >>= fun a => pure (f a)) log).2 = (x log).2 := by
  rw [bind_apply]
  rcases x log with ⟨_ | a, log₁⟩ <;> rfl

end Run

variable (opts : Options) (host : Host)

/-- With the same levels left, the limit of nested uses does not matter to what is asked, nor to a success. -/
theorem runPrompt_matches (lookup : String → Option Prompt) (limit levels : Nat) (prompt : Prompt) (params : Entries Value) :
    Run.Matches (runPrompt opts host lookup levels prompt params)
      (runPrompt { opts with maxUseDepth := limit } host lookup levels prompt params) := by
  have hfails (e e' : Error) (α : Type) : Run.Matches (Run.fail e : Run α) (Run.fail e') := fun _ =>
    ⟨rfl, fun _ => by simp [Run.fail]⟩
  exact runPrompt_related Run.matches_congruence (.of_limit opts limit) ⟨fun _ _ _ => .refl _, fun _ _ _ => .refl _, fun _ => .refl _⟩
    lookup (fun _ => hfails _ _) (fun _ => hfails _ _) levels prompt params

variable (registry : Registry) (program : Program)

/-- Runs a prompt as the first one of a program. -/
def runAsRoot (prompt : Prompt) (params : Entries Value) : Run Outcome :=
  runPrompt opts host (lookupPrompt program registry) opts.maxUseDepth prompt params

theorem execute_eq_runAsRoot {prompt : Prompt} (h : program.entry? = some prompt) (params : Entries Value) :
    execute opts host registry program params = runAsRoot opts host registry program prompt params := by
  simp only [execute, h, runAsRoot]

/-- Executes a use in a prompt that is nested `depth` uses deep. -/
def useAt (depth : Nat) (name : String) (args : List (String × Expr)) (env : Env) : Run (String × Env) :=
  (Stmt.use name args).run opts (usesAt opts host (lookupPrompt program registry) (opts.maxUseDepth - depth)) env

theorem useAt_eq {depth levels : Nat} (hlevels : opts.maxUseDepth - depth = levels + 1) {name : String} {prompt : Prompt}
    (hfound : lookupPrompt program registry name = some prompt) {args : List (String × Expr)} {env : Env}
    {values : List (String × Value)} (hargs : Expr.evalMembers opts (callHookAt opts 1) env args = .ok values) :
    useAt opts host registry program depth name args env =
      runPrompt opts host (lookupPrompt program registry) levels prompt (Entries.ofList values) >>=
        fun outcome => pure (outcome.output.text, env) := by
  simp only [useAt, Stmt.run, hlevels, usesAt, nested, hfound, hargs]
  exact bind_assoc (m := Run) _ _ _

/-- Below the limit, a use succeeds with a text exactly if the prompt that it finds, run as the first one of the program with the limit
lowered to the levels that are left, succeeds with an output of that text. Both ask the host the same, also where they fail, and the
environment stays as it is. -/
theorem use_is_standalone_run {depth : Nat} (hdepth : depth < opts.maxUseDepth) {name : String} {prompt : Prompt}
    (hfound : lookupPrompt program registry name = some prompt) {args : List (String × Expr)} {env : Env}
    {values : List (String × Value)} (hargs : Expr.evalMembers opts (callHookAt opts 1) env args = .ok values) (log : Log) :
    (∀ text env' log', useAt opts host registry program depth name args env log = (.ok (text, env'), log') ↔
      env' = env ∧ ∃ outcome, runAsRoot { opts with maxUseDepth := opts.maxUseDepth - (depth + 1) } host registry program prompt
        (Entries.ofList values) log = (.ok outcome, log') ∧ outcome.output.text = text) ∧
    (useAt opts host registry program depth name args env log).2 =
      (runAsRoot { opts with maxUseDepth := opts.maxUseDepth - (depth + 1) } host registry program prompt
        (Entries.ofList values) log).2 := by
  have hlevels : opts.maxUseDepth - depth = opts.maxUseDepth - (depth + 1) + 1 := by omega
  have hmatch := runPrompt_matches opts host (lookupPrompt program registry) (opts.maxUseDepth - (depth + 1))
    (opts.maxUseDepth - (depth + 1)) prompt (Entries.ofList values)
  rw [useAt_eq opts host registry program hlevels hfound hargs]
  refine ⟨fun text env' log' => ?_, ?_⟩
  · rw [Run.bind_eq_ok]
    constructor
    · rintro ⟨outcome, log₁, hrun, hrest⟩
      cases hrest
      exact ⟨rfl, outcome, hmatch.eq_ok_iff.1 hrun, rfl⟩
    · rintro ⟨rfl, outcome, hrun, rfl⟩
      exact ⟨outcome, log', hmatch.eq_ok_iff.2 hrun, rfl⟩
  · rw [Run.log_bind_pure]
    exact (hmatch log).1

def reportProgram : Program where
  prompts := [
    ⟨"report", [.body [.use "summary" [("topic", .str "tea")]]]⟩,
    ⟨"summary", [.body [.use "note" [], .text [.text " on ", .hole (.ident "topic")]]]⟩,
    ⟨"note", [.body [.text [.text "A note"]]]⟩]

/-- The summary as the report uses it, and alone with one level of uses less. -/
theorem reportProgram_summary_alone : ∃ summary text log',
    lookupPrompt reportProgram {} "summary" = some summary ∧
    useAt { maxUseDepth := 2 } {} {} reportProgram 0 "summary" [("topic", .str "tea")] (Env.withParams []) {} =
      (.ok (text, Env.withParams []), log') ∧ log'.calls.length = 2 ∧
    ∃ outcome, runAsRoot { maxUseDepth := 1 } {} {} reportProgram summary [("topic", .str "tea")] {} = (.ok outcome, log') ∧
      outcome.output.text = text := by
  obtain ⟨summary, hfound⟩ : ∃ summary, lookupPrompt reportProgram {} "summary" = some summary := ⟨_, rfl⟩
  have hnote := usesAt_of_sorted { maxUseDepth := 2 } {} (show lookupPrompt reportProgram {} "note" = some _ from rfl) (by decide) 0
  have hsummary := usesAt_of_sorted { maxUseDepth := 2 } {} (show lookupPrompt reportProgram {} "summary" = some _ from rfl) (by decide) 1
  obtain ⟨text, log', huse, hcalls⟩ : ∃ text log',
      useAt { maxUseDepth := 2 } {} {} reportProgram 0 "summary" [("topic", .str "tea")] (Env.withParams []) {} =
        (.ok (text, Env.withParams []), log') ∧ log'.calls.length = 2 := by
    simp only [useAt, Stmt.run, Nat.sub_zero]
    rw [hsummary]
    simp only [runInOrder, Section.run, Stmt.runBlock, Stmt.run]
    rw [show (1 : Nat) = 0 + 1 from rfl, hnote]
    exact ⟨_, _, rfl, rfl⟩
  obtain ⟨hiff, -⟩ := use_is_standalone_run { maxUseDepth := 2 } {} {} reportProgram (show 0 < 2 by decide) hfound
    (show Expr.evalMembers _ _ (Env.withParams []) [("topic", .str "tea")] = .ok [("topic", .str "tea")] from rfl) {}
  exact ⟨summary, text, log', hfound, huse, hcalls, ((hiff _ _ _).1 huse).2⟩

end PromptLang
