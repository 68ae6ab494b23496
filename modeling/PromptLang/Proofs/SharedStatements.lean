import PromptLang.Proofs.BlockScoping

/-! Bodies and hooks run statements by two interpreters: one produces text and may ask the host, the other may return early. On the
statements that both know, which are assignments, expressions, conditionals and loops, the two agree. They fail with the same error,
or they end in the same environment, where the hook has not returned and the body has neither produced text nor asked anything. -/

namespace PromptLang

mutual

/-- Assignments and expressions, and conditionals and loops that hold nothing else at any depth. -/
def Stmt.isShared : Stmt → Bool
  | .assign .. | .expr _ => true
  | .ifThen _ yes => Stmt.allShared yes
  | .ifElse _ yes no => Stmt.allShared yes && Stmt.allShared no
  | .forEach _ _ body => Stmt.allShared body
  | .text _ | .code .. | .image .. | .use .. | .ret _ => false
termination_by structural s => s

def Stmt.allShared : List Stmt → Bool
  | [] => true
  | s :: rest => s.isShared && Stmt.allShared rest
termination_by structural ss => ss

end

/-- The same failure, or the same environment without a returned value, without a text and without a question. -/
def Mirrors (x : Except Error HookResult) (y : Run (String × Env)) : Prop :=
  (∃ e, x = .error e ∧ y = Run.fail e) ∨ ∃ env, x = .ok (env, none) ∧ y = pure ("", env)

namespace Mirrors

theorem ends (env : Env) : Mirrors (.ok (env, none)) (pure ("", env)) := .inr ⟨env, rfl, rfl⟩

theorem evaluated {α : Type} (x : Except Error α) {f : α → Except Error HookResult} {g : α → Run (String × Env)}
    (h : ∀ a, Mirrors (f a) (g a)) : Mirrors (x >>= f) (liftM x >>= g) := by
  cases x with
  | error e => exact .inl ⟨e, rfl, rfl⟩
  | ok a => exact h a

end Mirrors

/-- Turn by turn the two loops are in the same environment, since a turn that does not return goes on with the next one. -/
theorem hookLoop_mirrors {body : Env → Except Error HookResult} {body' : Env → Run (String × Env)}
    (hbody : ∀ env, Mirrors (body env) (body' env)) (binding : String) (items : List Value) (env : Env) :
    Mirrors (hookLoop body binding items env) (bodyLoop body' binding items env) := by
  induction items generalizing env with
  | nil => exact .ends env
  | cons item rest ih =>
    simp only [hookLoop, bodyLoop]
    rcases hbody (env.extend binding item) with ⟨e, hturn, hturn'⟩ | ⟨inner, hturn, hturn'⟩
    · rw [hturn, hturn']
      exact .inl ⟨e, rfl, rfl⟩
    · rw [hturn, hturn', pure_bind]
      rcases ih inner.parent with ⟨e, hrest, hrest'⟩ | ⟨env', hrest, hrest'⟩
      · exact .inl ⟨e, hrest, by rw [hrest']; rfl⟩
      · exact .inr ⟨env', hrest, by rw [hrest']; rfl⟩

section Statements

variable (opts : Options) (resolve : Resolver) (hook : String)

mutual

theorem Stmt.run_mirrors : ∀ (s : Stmt) (env : Env), s.isShared = true →
    Mirrors (s.runInHook opts (callHookAt opts 1) hook env) (s.run opts resolve env)
  | .assign target value, env, _ => by
    simp only [Stmt.runInHook, Stmt.run]
    exact .evaluated _ fun v => .evaluated _ fun env => .ends env
  | .expr e, env, _ => by
    simp only [Stmt.runInHook, Stmt.run]
    exact .evaluated _ fun _ => .ends env
  | .ifThen condition yes, env, h => by
    simp only [Stmt.runInHook, Stmt.run]
    refine .evaluated _ fun c => ?_
    split
    · exact Stmt.runBlock_mirrors yes env h
    · exact .ends env
  | .ifElse condition yes no, env, h => by
    obtain ⟨hyes, hno⟩ := Bool.and_eq_true_iff.1 h
    simp only [Stmt.runInHook, Stmt.run]
    refine .evaluated _ fun c => ?_
    split
    · exact Stmt.runBlock_mirrors yes env hyes
    · exact Stmt.runBlock_mirrors no env hno
  | .forEach binding iterable body, env, h => by
    simp only [Stmt.runInHook, Stmt.run]
    refine .evaluated _ fun v => .evaluated _ fun items => ?_
    exact hookLoop_mirrors (fun env => Stmt.runBlock_mirrors body env h) binding items env
  | .text _, _, h | .code .., _, h | .image .., _, h | .use .., _, h | .ret _, _, h => nomatch h

theorem Stmt.runBlock_mirrors : ∀ (ss : List Stmt) (env : Env), Stmt.allShared ss = true →
    Mirrors (Stmt.runBlockInHook opts (callHookAt opts 1) hook ss env) (Stmt.runBlock opts resolve ss env)
  | [], env, _ => .ends env
  | s :: rest, env, h => by
    obtain ⟨hs, hrest⟩ := Bool.and_eq_true_iff.1 h
    simp only [Stmt.runBlockInHook, Stmt.runBlock]
    rcases Stmt.run_mirrors s env hs with ⟨e, hfirst, hfirst'⟩ | ⟨mid, hfirst, hfirst'⟩
    · rw [hfirst, hfirst']
      exact .inl ⟨e, rfl, rfl⟩
    · rw [hfirst, hfirst', pure_bind]
      rcases Stmt.runBlock_mirrors rest mid hrest with ⟨e, hx, hy⟩ | ⟨env', hx, hy⟩
      · exact .inl ⟨e, hx, by rw [hy]; rfl⟩
      · exact .inr ⟨env', hx, by rw [hy]; rfl⟩

end

end Statements

/-- A block of shared statements runs alike in a hook and in a body, whatever the hook, the prompts that can be used and the host. -/
theorem hooks_and_bodies_agree (opts : Options) (resolve : Resolver) (hook : String) (block : Block) (env : Env) (log : Log)
    (h : Stmt.allShared block = true) :
    (∃ e, Stmt.runBlockInHook opts (callHookAt opts 1) hook block env = .error e ∧
      Stmt.runBlock opts resolve block env log = (.error e, log)) ∨
    ∃ env', Stmt.runBlockInHook opts (callHookAt opts 1) hook block env = .ok (env', none) ∧
      Stmt.runBlock opts resolve block env log = (.ok ("", env'), log) := by
  rcases Stmt.runBlock_mirrors opts resolve hook block env h with ⟨e, hhook, hbody⟩ | ⟨env', hhook, hbody⟩
  · exact .inl ⟨e, hhook, congrFun hbody log⟩
  · exact .inr ⟨env', hhook, congrFun hbody log⟩

def joinItems (last : Stmt) : Block := [
  .assign (.ident "joined") (.str ""),
  .forEach "x" (.array [.str "a", .null, .str "b"]) [
    .ifElse (.ident "x") [.assign (.ident "joined") (.binary .add (.ident "joined") (.ident "x"))] [.expr (.ident "x")]],
  last]

/-- Both interpreters join the same text, and both refuse a loop over a text. -/
theorem joinItems_agrees :
    (∃ env', Stmt.runBlockInHook {} (callHookAt {} 1) "h" (joinItems (.expr .null)) Env.empty = .ok (env', none) ∧
      Stmt.runBlock {} noPrompts (joinItems (.expr .null)) Env.empty {} = (.ok ("", env'), {}) ∧
      env'.local? "joined" = some (.str "ab")) ∧
    ∃ e, Stmt.runBlockInHook {} (callHookAt {} 1) "h" (joinItems (.forEach "y" (.str "ab") [])) Env.empty = .error e ∧
      Stmt.runBlock {} noPrompts (joinItems (.forEach "y" (.str "ab") [])) Env.empty {} = (.error e, {}) := by
  constructor
  · obtain ⟨env', hrun, hjoined⟩ : ∃ env', Stmt.runBlockInHook {} (callHookAt {} 1) "h" (joinItems (.expr .null)) Env.empty =
        .ok (env', none) ∧ env'.local? "joined" = some (.str "ab") := ⟨_, rfl, rfl⟩
    rcases hooks_and_bodies_agree {} noPrompts "h" (joinItems (.expr .null)) Env.empty {} (by decide) with
      ⟨e, hhook, -⟩ | ⟨env'', hhook, hbody⟩
    · rw [hrun] at hhook
      cases hhook
    · rw [hrun] at hhook
      cases hhook
      exact ⟨env', hrun, hbody, hjoined⟩
  · obtain ⟨e, hrun⟩ : ∃ e, Stmt.runBlockInHook {} (callHookAt {} 1) "h" (joinItems (.forEach "y" (.str "ab") [])) Env.empty =
        .error e := ⟨_, rfl⟩
    rcases hooks_and_bodies_agree {} noPrompts "h" (joinItems (.forEach "y" (.str "ab") [])) Env.empty {} (by decide) with
      ⟨e', hhook, hbody⟩ | ⟨env', hhook, -⟩
    · exact ⟨e', hhook, hbody⟩
    · rw [hrun] at hhook
      cases hhook

end PromptLang
