import PromptLang.Interpreter.Prompt
import PromptLang.Proofs.Batches

/-! Relaxing the limits never changes a run that succeeds: its outcome, the provider calls and the questions stay as they are. A limit is
read in four places only (a hook call, a round of ReAct, a count of a technique, the use of a prompt), and each of them fails when the
limit is reached. So it suffices that every construct keeps the successes of its parts. -/

namespace PromptLang

/-- The same choices with limits that are not tighter. Two limits are not among them. That of nested uses is read once, when the first
prompt starts, and below that only the levels that are left count. That of concurrent calls does not matter to a success. -/
structure Options.Relaxed (o o' : Options) : Prop where
  hookDepth : o.maxHookDepth ≤ o'.maxHookDepth
  reactIterations : o.maxReactIterations ≤ o'.maxReactIterations
  techniqueCalls : o.maxTechniqueCalls ≤ o'.maxTechniqueCalls
  strict : o'.strictIdentifiers = true → o.strictIdentifiers = true
  order : o'.resolutionOrder = o.resolutionOrder
  words : o'.randomWords = o.randomWords

variable {o o' : Options}

theorem resolveIdent_keeps (h : o.Relaxed o') (env : Env) (name : String) :
    Keeps (resolveIdent o env name) (resolveIdent o' env name) := by
  unfold resolveIdent
  rw [h.order]
  cases env.resolve? name o.resolutionOrder with
  | some v => exact Keeps.refl _
  | none =>
    cases hs : o'.strictIdentifiers with
    | true => rw [h.strict hs]; exact Keeps.of_error _ _
    | false =>
      cases o.strictIdentifiers with
      | true => exact Keeps.of_error _ _
      | false => exact Keeps.refl _

def CallsKeep (c c' : Caller) : Prop := ∀ hook args, Keeps (c hook args) (c' hook args)

section Evaluation

variable {c c' : Caller}

mutual

theorem Expr.eval_keeps (h : o.Relaxed o') (hc : CallsKeep c c') (env : Env) :
    ∀ e : Expr, Keeps (e.eval o c env) (e.eval o' c' env)
  | .ident name => resolveIdent_keeps h env name
  | .str _ => .refl _
  | .num _ => .refl _
  | .bool _ => .refl _
  | .null => .refl _
  | .array items => by
    simp only [Expr.eval]
    exact (Expr.evalList_keeps h hc env items).bind fun _ => .refl _
  | .object members => by
    simp only [Expr.eval]
    exact (Expr.evalMembers_keeps h hc env members).bind fun _ => .refl _
  | .binary op left right => by
    simp only [Expr.eval]
    refine (Expr.eval_keeps h hc env left).bind fun l => ?_
    exact (Expr.eval_keeps h hc env right).bind fun r => .refl _
  | .logical op left right => by
    simp only [Expr.eval]
    refine (Expr.eval_keeps h hc env left).bind fun l => ?_
    split
    · exact .refl _
    · exact Expr.eval_keeps h hc env right
  | .unary op operand => by
    simp only [Expr.eval]
    exact (Expr.eval_keeps h hc env operand).bind fun _ => .refl _
  | .member target name => by
    simp only [Expr.eval]
    exact (Expr.eval_keeps h hc env target).bind fun _ => .refl _
  | .index target key => by
    simp only [Expr.eval]
    refine (Expr.eval_keeps h hc env target).bind fun v => ?_
    exact (Expr.eval_keeps h hc env key).bind fun _ => .refl _
  | .call callee args => by
    simp only [Expr.eval]
    refine (Expr.eval_keeps h hc env callee).bind fun f => ?_
    cases f with
    | function hook => exact (Expr.evalList_keeps h hc env args).bind fun vs => hc hook vs
    | _ => exact .refl _

theorem Expr.evalList_keeps (h : o.Relaxed o') (hc : CallsKeep c c') (env : Env) :
    ∀ es : List Expr, Keeps (Expr.evalList o c env es) (Expr.evalList o' c' env es)
  | [] => .refl _
  | e :: es => by
    simp only [Expr.evalList]
    refine (Expr.eval_keeps h hc env e).bind fun v => ?_
    exact (Expr.evalList_keeps h hc env es).bind fun _ => .refl _

theorem Expr.evalMembers_keeps (h : o.Relaxed o') (hc : CallsKeep c c') (env : Env) :
    ∀ es : List (String × Expr), Keeps (Expr.evalMembers o c env es) (Expr.evalMembers o' c' env es)
  | [] => .refl _
  | (key, e) :: es => by
    simp only [Expr.evalMembers]
    refine (Expr.eval_keeps h hc env e).bind fun v => ?_
    exact (Expr.evalMembers_keeps h hc env es).bind fun _ => .refl _

end

theorem Template.render_keeps (h : o.Relaxed o') (hc : CallsKeep c c') (env : Env) (t : Template) :
    Keeps (t.render o c env) (t.render o' c' env) := by
  induction t with
  | nil => exact .refl _
  | cons segment rest ih =>
    cases segment with
    | text s => exact ih.bind fun _ => .refl _
    | hole e => exact (Expr.eval_keeps h hc env e).bind fun _ => ih.bind fun _ => .refl _

theorem Expr.targetPath_keeps (h : o.Relaxed o') (hc : CallsKeep c c') (env : Env) (whole : Expr) :
    ∀ e : Expr, Keeps (Expr.targetPath o c env whole e) (Expr.targetPath o' c' env whole e)
  | .ident _ => .refl _
  | .member target name => by
    simp only [Expr.targetPath]
    exact (Expr.targetPath_keeps h hc env whole target).bind fun _ => .refl _
  | .index target key => by
    simp only [Expr.targetPath]
    refine (Expr.eval_keeps h hc env key).bind fun k => Keeps.bind (.refl _) fun step => ?_
    exact (Expr.targetPath_keeps h hc env whole target).bind fun _ => .refl _
  | .str _ | .num _ | .bool _ | .null | .array _ | .object _ | .binary .. | .logical .. | .unary .. | .call .. => .refl _

theorem assignTarget_keeps (h : o.Relaxed o') (hc : CallsKeep c c') (env : Env) (target : Expr) (value : Value) :
    Keeps (assignTarget o c env target value) (assignTarget o' c' env target value) :=
  (Expr.targetPath_keeps h hc env target target).bind fun _ => .refl _

theorem hookLoop_keeps {body body' : Env → Except Error HookResult} (hb : ∀ env, Keeps (body env) (body' env))
    (binding : String) (items : List Value) (env : Env) :
    Keeps (hookLoop body binding items env) (hookLoop body' binding items env) := by
  induction items generalizing env with
  | nil => exact .refl _
  | cons item rest ih =>
    simp only [hookLoop]
    refine (hb _).bind fun turn => ?_
    obtain ⟨inner, _ | v⟩ := turn
    · exact ih _
    · exact .refl _

mutual

theorem Stmt.runInHook_keeps (h : o.Relaxed o') (hc : CallsKeep c c') (hook : String) :
    ∀ (s : Stmt) (env : Env), Keeps (s.runInHook o c hook env) (s.runInHook o' c' hook env)
  | .assign target value, env => by
    simp only [Stmt.runInHook]
    refine (Expr.eval_keeps h hc env value).bind fun v => ?_
    exact (assignTarget_keeps h hc env target v).bind fun _ => .refl _
  | .ret value, env => by
    simp only [Stmt.runInHook]
    exact (Expr.eval_keeps h hc env value).bind fun _ => .refl _
  | .expr e, env => by
    simp only [Stmt.runInHook]
    exact (Expr.eval_keeps h hc env e).bind fun _ => .refl _
  | .ifThen condition yes, env => by
    simp only [Stmt.runInHook]
    refine (Expr.eval_keeps h hc env condition).bind fun v => ?_
    split
    · exact Stmt.runBlockInHook_keeps h hc hook yes env
    · exact .refl _
  | .ifElse condition yes no, env => by
    simp only [Stmt.runInHook]
    refine (Expr.eval_keeps h hc env condition).bind fun v => ?_
    split
    · exact Stmt.runBlockInHook_keeps h hc hook yes env
    · exact Stmt.runBlockInHook_keeps h hc hook no env
  | .forEach binding iterable body, env => by
    simp only [Stmt.runInHook]
    refine (Expr.eval_keeps h hc env iterable).bind fun v => Keeps.bind (.refl _) fun items => ?_
    exact hookLoop_keeps (fun env => Stmt.runBlockInHook_keeps h hc hook body env) binding items env
  | .text _, _ => .refl _
  | .code .., _ => .refl _
  | .image .., _ => .refl _
  | .use .., _ => .refl _

theorem Stmt.runBlockInHook_keeps (h : o.Relaxed o') (hc : CallsKeep c c') (hook : String) :
    ∀ (ss : List Stmt) (env : Env),
      Keeps (Stmt.runBlockInHook o c hook ss env) (Stmt.runBlockInHook o' c' hook ss env)
  | [], _ => .refl _
  | s :: rest, env => by
    simp only [Stmt.runBlockInHook]
    refine (Stmt.runInHook_keeps h hc hook s env).bind fun turn => ?_
    obtain ⟨env, _ | v⟩ := turn
    · exact Stmt.runBlockInHook_keeps h hc hook rest env
    · exact .refl _

end

end Evaluation

/-- More levels of hook calls keep the successes of fewer. -/
theorem callHook_keeps (h : o.Relaxed o') {levels levels' : Nat} (hl : levels ≤ levels') :
    CallsKeep (callHook o levels) (callHook o' levels') := by
  induction levels generalizing levels' with
  | zero => exact fun hook args => .of_error _ _
  | succ n ih =>
    obtain ⟨m, rfl⟩ : ∃ m, levels' = m + 1 := ⟨levels' - 1, by omega⟩
    intro hook args
    simp only [callHook]
    split
    · exact .of_error _ _
    · exact (Stmt.runBlockInHook_keeps h (ih (by omega)) hook.name hook.body _).bind fun _ => .refl _

theorem callHookAt_keeps (h : o.Relaxed o') (depth : Nat) : CallsKeep (callHookAt o depth) (callHookAt o' depth) :=
  callHook_keeps h (by have := h.hookDepth; omega)

theorem evaluate_keeps (h : o.Relaxed o') (env : Env) (e : Expr) : Keeps (evaluate o env e) (evaluate o' env e) :=
  Expr.eval_keeps h (callHookAt_keeps h 1) env e

theorem renderTemplate_keeps (h : o.Relaxed o') (env : Env) (t : Template) :
    Keeps (renderTemplate o env t) (renderTemplate o' env t) :=
  Template.render_keeps h (callHookAt_keeps h 1) env t

def UsesKeep (r r' : Resolver) : Prop :=
  ∀ name run, r name = .ok run → ∃ run', r' name = .ok run' ∧ ∀ params, Run.Keeps (run params) (run' params)

section Blocks

variable {r r' : Resolver}

theorem bodyLoop_keeps {body body' : Env → Run (String × Env)} (hb : ∀ env, Run.Keeps (body env) (body' env))
    (binding : String) (items : List Value) (env : Env) :
    Run.Keeps (bodyLoop body binding items env) (bodyLoop body' binding items env) := by
  induction items generalizing env with
  | nil => exact .refl _
  | cons item rest ih => exact (hb _).bind fun turn => (ih turn.2.parent).bind fun _ => .refl _

theorem Stmt.use_keeps (h : o.Relaxed o') (hr : UsesKeep r r') (prompt : String) (args : List (String × Expr))
    (env : Env) : Run.Keeps ((Stmt.use prompt args).run o r env) ((Stmt.use prompt args).run o' r' env) := by
  intro log out log' hrun
  simp only [Stmt.run, Run.liftM_eq] at hrun ⊢
  obtain ⟨run, log₁, hfound, hrest⟩ := Run.bind_eq_ok.1 hrun
  obtain ⟨hname, rfl⟩ := Run.ofExcept_eq_ok.1 hfound
  obtain ⟨run', hname', hkeeps⟩ := hr prompt run hname
  refine Run.bind_eq_ok.2 ⟨run', log, Run.ofExcept_eq_ok.2 ⟨hname', rfl⟩, ?_⟩
  have hargs := Run.Keeps.ofExcept (Expr.evalMembers_keeps h (callHookAt_keeps h 1) env args)
  exact hargs.bind (fun params => (hkeeps _).bind fun _ => .refl _) _ _ _ hrest

mutual

theorem Stmt.run_keeps (h : o.Relaxed o') (hr : UsesKeep r r') :
    ∀ (s : Stmt) (env : Env), Run.Keeps (s.run o r env) (s.run o' r' env)
  | .text template, env => by
    simp only [Stmt.run]
    exact (Run.Keeps.ofExcept (renderTemplate_keeps h env template)).bind fun _ => .refl _
  | .code language content, env => by
    simp only [Stmt.run]
    exact (Run.Keeps.ofExcept (renderTemplate_keeps h env content)).bind fun _ => .refl _
  | .image source alt, env => by
    simp only [Stmt.run]
    refine (Run.Keeps.ofExcept (evaluate_keeps h env source)).bind fun src => ?_
    exact (Run.Keeps.ofExcept (evaluate_keeps h env alt)).bind fun _ => .refl _
  | .ifThen condition yes, env => by
    simp only [Stmt.run]
    refine (Run.Keeps.ofExcept (evaluate_keeps h env condition)).bind fun v => ?_
    split
    · exact Stmt.runBlock_keeps h hr yes env
    · exact .refl _
  | .ifElse condition yes no, env => by
    simp only [Stmt.run]
    refine (Run.Keeps.ofExcept (evaluate_keeps h env condition)).bind fun v => ?_
    split
    · exact Stmt.runBlock_keeps h hr yes env
    · exact Stmt.runBlock_keeps h hr no env
  | .forEach binding iterable body, env => by
    simp only [Stmt.run]
    refine (Run.Keeps.ofExcept (evaluate_keeps h env iterable)).bind fun v => Run.Keeps.bind (.refl _) fun items => ?_
    exact bodyLoop_keeps (fun env => Stmt.runBlock_keeps h hr body env) binding items env
  | .use prompt args, env => Stmt.use_keeps h hr prompt args env
  | .assign target value, env => by
    simp only [Stmt.run]
    refine (Run.Keeps.ofExcept (evaluate_keeps h env value)).bind fun v => ?_
    exact (Run.Keeps.ofExcept (assignTarget_keeps h (callHookAt_keeps h 1) env target v)).bind fun _ => .refl _
  | .expr e, env => by
    simp only [Stmt.run]
    exact (Run.Keeps.ofExcept (evaluate_keeps h env e)).bind fun _ => .refl _
  | .ret _, _ => .refl _

theorem Stmt.runBlock_keeps (h : o.Relaxed o') (hr : UsesKeep r r') :
    ∀ (ss : List Stmt) (env : Env), Run.Keeps (Stmt.runBlock o r ss env) (Stmt.runBlock o' r' ss env)
  | [], _ => .refl _
  | s :: rest, env => by
    simp only [Stmt.runBlock]
    refine (Stmt.run_keeps h hr s env).bind fun ⟨_, env⟩ => ?_
    exact (Stmt.runBlock_keeps h hr rest env).bind fun _ => .refl _

end

theorem blockText_keeps (h : o.Relaxed o') (hr : UsesKeep r r') (block : Block) (env : Env) :
    Run.Keeps (blockText o r block env) (blockText o' r' block env) :=
  (Stmt.runBlock_keeps h hr block env).bind fun _ => .refl _

theorem chainSteps_keeps (h : o.Relaxed o') (hr : UsesKeep r r') (env : Env) (steps : List (String × Block)) :
    Run.Keeps (chainSteps o r env steps) (chainSteps o' r' env steps) := by
  induction steps with
  | nil => exact .refl _
  | cons step rest ih => exact (blockText_keeps h hr step.2 _).bind fun _ => ih.bind fun _ => .refl _

theorem examplePairs_keeps (h : o.Relaxed o') (hr : UsesKeep r r') (env : Env) (examples : List (Block × Block)) :
    Run.Keeps (examplePairs o r env examples) (examplePairs o' r' env examples) := by
  induction examples with
  | nil => exact .refl _
  | cons pair rest ih =>
    refine (blockText_keeps h hr pair.1 _).bind fun _ => ?_
    exact (blockText_keeps h hr pair.2 _).bind fun _ => ih.bind fun _ => .refl _

theorem runReWOO_keeps (h : o.Relaxed o') (hr : UsesKeep r r') (planner worker solver : Block) (env : Env) :
    Run.Keeps (runReWOO o r planner worker solver env) (runReWOO o' r' planner worker solver env) := by
  refine (blockText_keeps h hr planner _).bind fun plan => ?_
  refine (blockText_keeps h hr worker _).bind fun work => ?_
  exact (blockText_keeps h hr solver _).bind fun _ => .refl _

theorem reActRound_keeps (h : o.Relaxed o') (hr : UsesKeep r r') (observation thought action : Block) (base : Env) :
    Run.Keeps (reActRound o r observation thought action base) (reActRound o' r' observation thought action base) := by
  refine (blockText_keeps h hr observation _).bind fun seen => ?_
  refine (blockText_keeps h hr thought _).bind fun idea => ?_
  exact (blockText_keeps h hr action _).bind fun _ => .refl _

/-- A loop that ends within `n` rounds ends in the same way when more rounds are left. -/
theorem reActLoop_keeps (h : o.Relaxed o') (hr : UsesKeep r r') (observation thought action : Block) {n n' : Nat}
    (hn : n ≤ n') (base : Env) :
    Run.Keeps (reActLoop o r observation thought action n base) (reActLoop o' r' observation thought action n' base) := by
  induction n generalizing n' base with
  | zero => exact .of_fail _ _
  | succ n ih =>
    obtain ⟨m, rfl⟩ : ∃ m, n' = m + 1 := ⟨n' - 1, by omega⟩
    simp only [reActLoop]
    refine (reActRound_keeps h hr observation thought action base).bind fun round => ?_
    split
    · exact .refl _
    · exact (ih (by omega) _).bind fun _ => .refl _

theorem runReAct_keeps (h : o.Relaxed o') (hr : UsesKeep r r') (observation thought action : Block) (env : Env) :
    Run.Keeps (runReAct o r observation thought action env) (runReAct o' r' observation thought action env) :=
  (reActLoop_keeps h hr observation thought action h.reactIterations env.child).bind fun _ => .refl _

end Blocks

section Fields

variable {s : Settings}

theorem Settings.value_keeps (h : s.opts.Relaxed o') (name : String) :
    Keeps (s.value name) ({ s with opts := o' }.value name) := by
  unfold Settings.value
  cases findField? name s.fields with
  | some e => exact evaluate_keeps h s.env e
  | none => exact .of_error _ _

theorem Settings.text_keeps (h : s.opts.Relaxed o') (name : String) :
    Keeps (s.text name) ({ s with opts := o' }.text name) :=
  (Settings.value_keeps h name).map Value.text

theorem Settings.count_keeps (h : s.opts.Relaxed o') (name : String) :
    Keeps (s.count name) ({ s with opts := o' }.count name) := by
  refine (Settings.value_keeps h name).bind fun v => ?_
  split
  · split
    · rename_i n hn
      rw [if_pos (Nat.le_trans hn h.techniqueCalls)]
      exact .refl _
    · exact .of_error _ _
  · exact .of_error _ _

theorem Settings.object_keeps (h : s.opts.Relaxed o') (name : String) :
    Keeps (s.object name) ({ s with opts := o' }.object name) :=
  (Settings.value_keeps h name).bind fun _ => .refl _

variable (host : Host) (body : String)

theorem runSelfConsistency_keeps (h : s.opts.Relaxed o') :
    Run.Keeps (runSelfConsistency host s body) (runSelfConsistency host { s with opts := o' } body) := by
  refine (Run.Keeps.ofExcept (Settings.count_keeps h _)).bind fun generations => ?_
  refine (Run.Keeps.ofExcept (Settings.text_keeps h _)).bind fun strategy => ?_
  refine Run.Keeps.bind (.refl _) fun _ => Run.Keeps.bind (.refl _) fun constraints => ?_
  exact (generateAll_keeps host _ constraints _ _).bind fun _ => .refl _

theorem expandThoughts_keeps (limit limit' : Nat) (constraints : Constraints) (context : String) (breadth levels : Nat)
    (thoughts : List String) :
    Run.Keeps (expandThoughts host limit constraints context breadth levels thoughts)
      (expandThoughts host limit' constraints context breadth levels thoughts) := by
  induction levels generalizing thoughts with
  | zero => exact .refl _
  | succ n ih => exact (generateAll_keeps host limit constraints _ limit').bind fun next => ih next

theorem runTreeOfThoughts_keeps (h : s.opts.Relaxed o') :
    Run.Keeps (runTreeOfThoughts host s body) (runTreeOfThoughts host { s with opts := o' } body) := by
  refine (Run.Keeps.ofExcept (Settings.count_keeps h _)).bind fun breadth => ?_
  refine (Run.Keeps.ofExcept (Settings.count_keeps h _)).bind fun depth => ?_
  refine (Run.Keeps.ofExcept (Settings.text_keeps h _)).bind fun strategy => Run.Keeps.bind (.refl _) fun _ => ?_
  cases hsize : treeSize? breadth depth with
  | none => exact .of_fail _ _
  | some size =>
    by_cases hle : size ≤ s.opts.maxTechniqueCalls
    · have hle' : size ≤ o'.maxTechniqueCalls := Nat.le_trans hle h.techniqueCalls
      simp only [Option.any_some, hle, hle', decide_true, Bool.not_true, Bool.false_eq_true, if_false]
      refine Run.Keeps.bind (.refl _) fun constraints => ?_
      refine (generateAll_keeps host _ constraints _ _).bind fun first => ?_
      exact (expandThoughts_keeps host _ _ constraints _ _ _ _).bind fun _ => .refl _
    · simp only [Option.any_some, hle]
      exact .of_fail _ _

theorem runActivePrompting_keeps (h : s.opts.Relaxed o') :
    Run.Keeps (runActivePrompting host s body) (runActivePrompting host { s with opts := o' } body) := by
  refine (Run.Keeps.ofExcept (Settings.text_keeps h _)).bind fun estimation => ?_
  refine (Run.Keeps.ofExcept (Settings.text_keeps h _)).bind fun selection => ?_
  refine (Run.Keeps.ofExcept (Settings.text_keeps h _)).bind fun process => ?_
  refine Run.Keeps.bind (.refl _) fun _ => Run.Keeps.bind (.refl _) fun _ => Run.Keeps.bind (.refl _) fun _ => ?_
  refine Run.Keeps.bind (.refl _) fun constraints => Run.Keeps.bind (.refl _) fun candidates => ?_
  simp only [h.words]
  refine Run.Keeps.bind (.refl _) fun selected => Run.Keeps.bind ?_ fun _ => .refl _
  unfold annotateQuestions
  split
  · exact generateAll_keeps host _ constraints _ _
  · exact .refl _

theorem runReflection_keeps (h : s.opts.Relaxed o') :
    Run.Keeps (runReflection host s) (runReflection host { s with opts := o' }) := by
  refine (Run.Keeps.ofExcept (Settings.text_keeps h _)).bind fun prompt => ?_
  exact (Run.Keeps.ofExcept (Settings.text_keeps h _)).bind fun buffer => .refl _

theorem runExpertPrompting_keeps (h : s.opts.Relaxed o') :
    Keeps (runExpertPrompting s) (runExpertPrompting { s with opts := o' }) := by
  refine (Settings.text_keeps h _).bind fun identity => ?_
  exact (Settings.text_keeps h _).bind fun _ => .refl _

theorem runApe_keeps (h : s.opts.Relaxed o') :
    Run.Keeps (runApe host s body) (runApe host { s with opts := o' } body) := by
  refine (Run.Keeps.ofExcept (Settings.count_keeps h _)).bind fun pool => ?_
  refine (Run.Keeps.ofExcept (Settings.text_keeps h _)).bind fun function => Run.Keeps.bind (.refl _) fun constraints => ?_
  refine (generateAll_keeps host _ constraints _ _).bind fun candidates => ?_
  split
  · exact .refl _
  · refine Run.Keeps.bind ?_ fun _ => .refl _
    exact (generateAll_keeps host _ constraints _ _).bind fun _ => .refl _

theorem runAutoCot_keeps (h : s.opts.Relaxed o') :
    Run.Keeps (runAutoCot host s body) (runAutoCot host { s with opts := o' } body) := by
  refine (Run.Keeps.ofExcept (Settings.text_keeps h _)).bind fun method => ?_
  refine (Run.Keeps.ofExcept (Settings.text_keeps h _)).bind fun selection => ?_
  refine Run.Keeps.bind (.refl _) fun _ => Run.Keeps.bind (.refl _) fun _ => Run.Keeps.bind (.refl _) fun constraints => ?_
  simp only [h.words]
  refine Run.Keeps.bind (.refl _) fun clusters => Run.Keeps.bind (.refl _) fun questions => ?_
  exact (generateAll_keeps host _ constraints _ _).bind fun _ => .refl _

theorem runArt_keeps (h : s.opts.Relaxed o') :
    Run.Keeps (runArt host s body) (runArt host { s with opts := o' } body) := by
  refine (Run.Keeps.ofExcept (Settings.object_keeps h _)).bind fun tasks => ?_
  refine (Run.Keeps.ofExcept (Settings.object_keeps h _)).bind fun tools => ?_
  refine (Run.Keeps.ofExcept (Settings.text_keeps h _)).bind fun strategy => ?_
  refine Run.Keeps.bind (.refl _) fun _ => Run.Keeps.bind (.refl _) fun constraints => ?_
  dsimp only
  split
  · exact .refl _
  · refine Run.Keeps.bind (.refl _) fun steps => ?_
    exact (generateAll_keeps host _ constraints _ _).bind fun _ => .refl _

end Fields

theorem keeping_keeps {x y : Run Value} (h : Run.Keeps x y) (env : Env) : Run.Keeps (keeping env x) (keeping env y) :=
  h.bind fun _ => .refl _

theorem Method.apply_keeps (h : o.Relaxed o') (host : Host) (method : Method) (fields : List Field) (body : String)
    (env : Env) : Run.Keeps (method.apply o host fields body env) (method.apply o' host fields body env) := by
  have hs : (Settings.mk o env method fields).opts.Relaxed o' := h
  cases method with
  | zeroShot => exact .ofExcept ((Settings.text_keeps hs _).bind fun _ => .refl _)
  | selfConsistency => exact keeping_keeps (runSelfConsistency_keeps host body hs) env
  | treeOfThoughts => exact keeping_keeps (runTreeOfThoughts_keeps host body hs) env
  | activePrompting => exact keeping_keeps (runActivePrompting_keeps host body hs) env
  | reflection => exact runReflection_keeps host hs
  | expertPrompting => exact keeping_keeps (.ofExcept (runExpertPrompting_keeps hs)) env
  | ape => exact keeping_keeps (runApe_keeps host body hs) env
  | autoCot => exact keeping_keeps (runAutoCot_keeps host body hs) env
  | art => exact keeping_keeps (runArt_keeps host body hs) env

section Prompts

variable {r r' : Resolver} (host : Host)

theorem Technique.apply_keeps (h : o.Relaxed o') (hr : UsesKeep r r') (body : String) (env : Env) (t : Technique) :
    Run.Keeps (t.apply o host r body env) (t.apply o' host r' body env) := by
  cases t with
  | chainOfThought steps => exact (chainSteps_keeps h hr env steps).bind fun _ => .refl _
  | fewShot examples => exact (examplePairs_keeps h hr env examples).bind fun _ => .refl _
  | reWOO planner worker solver => exact keeping_keeps (runReWOO_keeps h hr planner worker solver env) env
  | reAct observation thought action => exact keeping_keeps (runReAct_keeps h hr observation thought action env) env
  | byFields method fields => exact Method.apply_keeps h host method fields body env

theorem applyTechniques_keeps (h : o.Relaxed o') (hr : UsesKeep r r') (ts : List Technique) (p : Progress) :
    Run.Keeps (applyTechniques o host r ts p) (applyTechniques o' host r' ts p) := by
  induction ts generalizing p with
  | nil => exact .refl _
  | cons t rest ih => exact (Technique.apply_keeps host h hr p.body p.env t).bind fun _ => ih _

theorem populate_keeps (h : o.Relaxed o') (slot : String) (fields : List Field) (env : Env) :
    Keeps (populate o slot fields env) (populate o' slot fields env) := by
  induction fields generalizing env with
  | nil => exact .refl _
  | cons field rest ih => exact (evaluate_keeps h env field.value).bind fun _ => ih _

theorem ParamDecl.value_keeps (h : o.Relaxed o') (env : Env) (params : Entries Value) (d : ParamDecl) :
    Keeps (d.value o env params) (d.value o' env params) := by
  unfold ParamDecl.value
  split
  · exact .refl _
  · split
    · exact evaluate_keeps h env _
    · exact .of_error _ _

theorem bindDecls_keeps (h : o.Relaxed o') (env : Env) (decls : List ParamDecl) (params : Entries Value) :
    Keeps (bindDecls o env decls params) (bindDecls o' env decls params) := by
  induction decls generalizing params with
  | nil => exact .refl _
  | cons d rest ih =>
    refine (ParamDecl.value_keeps h env params d).bind fun v => ?_
    split
    · exact ih _
    · exact .of_error _ _

theorem preProcess_keeps (h : o.Relaxed o') (prompt : Prompt) (env : Env) :
    Keeps (preProcess o prompt env) (preProcess o' prompt env) := by
  unfold preProcess
  split
  · exact .refl _
  · exact (callHookAt_keeps h 1 _ _).bind fun _ => .refl _

theorem Progress.update_keeps (p : Progress) {x y : Except Error Env} (h : Keeps x y) :
    Run.Keeps (p.update x) (p.update y) :=
  (Run.Keeps.ofExcept h).bind fun _ => .refl _

theorem Section.run_keeps (h : o.Relaxed o') (hr : UsesKeep r r') (s : Section) (p : Progress) :
    Run.Keeps (s.run o host r p) (s.run o' host r' p) := by
  cases s with
  | metadata fields => exact p.update_keeps (populate_keeps h Slot.metadata fields p.env)
  | context fields => exact p.update_keeps (populate_keeps h Slot.context fields p.env)
  | params decls => exact p.update_keeps ((bindDecls_keeps h p.env decls _).bind fun _ => .refl _)
  | body block => exact (Stmt.runBlock_keeps h hr block p.env).bind fun _ => .refl _
  | constraints fields => exact p.update_keeps (populate_keeps h Slot.constraints fields p.env)
  | output fields => exact p.update_keeps (populate_keeps h Slot.output fields p.env)
  | hooks list => exact .refl _
  | technique list => exact applyTechniques_keeps host h hr list p

theorem preProcessIf_keeps (h : o.Relaxed o') (prompt : Prompt) (due : Bool) (p : Progress) :
    Run.Keeps (preProcessIf o prompt due p) (preProcessIf o' prompt due p) := by
  cases due with
  | false => exact .refl _
  | true => exact p.update_keeps (preProcess_keeps h prompt p.env)

theorem runInOrder_keeps (h : o.Relaxed o') (hr : UsesKeep r r') (prompt : Prompt) (pending : Bool)
    (sections : List Section) (p : Progress) :
    Run.Keeps (runInOrder o host r prompt pending sections p) (runInOrder o' host r' prompt pending sections p) := by
  induction sections generalizing pending p with
  | nil => exact preProcessIf_keeps h prompt pending p
  | cons s rest ih =>
    refine (preProcessIf_keeps h prompt _ p).bind fun p => ?_
    exact (Section.run_keeps host h hr s p).bind fun p => ih _ p

theorem finish_keeps (h : o.Relaxed o') (name : String) (p : Progress) :
    Run.Keeps (finish o host name p) (finish o' host name p) := by
  have hpost (response : Value) : Keeps (postProcess o p.env response) (postProcess o' p.env response) := by
    unfold postProcess
    split
    · exact callHookAt_keeps h 1 _ _
    · exact .refl _
  refine Run.Keeps.bind (.refl _) fun constraints => Run.Keeps.bind (.refl _) fun response => ?_
  exact (Run.Keeps.ofExcept (hpost _)).bind fun _ => .refl _

theorem runWith_keeps (h : o.Relaxed o') (hr : UsesKeep r r') (prompt : Prompt) (params : Entries Value) :
    Run.Keeps (runWith o host r prompt params) (runWith o' host r' prompt params) :=
  (runInOrder_keeps host h hr prompt true prompt.ordered _).bind fun p => finish_keeps host h prompt.name p

theorem nested_usesKeep (lookup : String → Option Prompt) {run run' : Prompt → Entries Value → Run Outcome}
    (h : ∀ prompt params, Run.Keeps (run prompt params) (run' prompt params)) :
    UsesKeep (nested lookup run) (nested lookup run') := by
  intro name found hfound
  unfold nested at hfound ⊢
  cases hl : lookup name with
  | none => rw [hl] at hfound; cases hfound
  | some prompt =>
    rw [hl] at hfound
    cases hfound
    exact ⟨_, rfl, fun params => (h prompt params).bind fun _ => .refl _⟩

/-- A run that needs no more than `levels` levels of uses is the same when more are left. -/
theorem runPrompt_keeps (h : o.Relaxed o') (lookup : String → Option Prompt) {levels levels' : Nat}
    (hl : levels ≤ levels') (prompt : Prompt) (params : Entries Value) :
    Run.Keeps (runPrompt o host lookup levels prompt params) (runPrompt o' host lookup levels' prompt params) := by
  induction levels generalizing levels' prompt params with
  | zero =>
    -- a use fails at once when no level is left, so what more levels find does not matter
    have hnone : ∀ r' : Resolver, UsesKeep (exhausted o) r' := fun _ _ _ hfound => by cases hfound
    cases levels' with
    | zero => exact runWith_keeps host h (hnone _) prompt params
    | succ m => exact runWith_keeps host h (hnone _) prompt params
  | succ n ih =>
    obtain ⟨m, rfl⟩ : ∃ m, levels' = m + 1 := ⟨levels' - 1, by omega⟩
    exact runWith_keeps host h (nested_usesKeep lookup fun p ps => ih (by omega) p ps) prompt params

end Prompts

/-- A successful execution stays as it is under relaxed limits, with the same calls in the same order. -/
theorem execute_of_relaxed (h : o.Relaxed o') (huse : o.maxUseDepth ≤ o'.maxUseDepth) (host : Host)
    (registry : Registry) (program : Program) (params : Entries Value) (log log' : Log) (outcome : Outcome)
    (hrun : execute o host registry program params log = (.ok outcome, log')) :
    execute o' host registry program params log = (.ok outcome, log') := by
  unfold execute at hrun ⊢
  cases hentry : program.entry? with
  | none => rw [hentry] at hrun; cases hrun
  | some prompt =>
    rw [hentry] at hrun
    exact runPrompt_keeps host h _ huse prompt params log outcome log' hrun

def briefProgram : Program where
  prompts := [
    ⟨"main", [.body [.use "brief" [], .text [.text "Go."]], .hooks [⟨"preProcess", "given", []⟩]]⟩,
    ⟨"brief", [.body [.text [.text "Be brief."]]]⟩]

/-- Just enough for `briefProgram`: one hook call and one nested use. -/
def briefOptions : Options :=
  { maxUseDepth := 1, maxReactIterations := 0, maxHookDepth := 1, maxTechniqueCalls := 0, strictIdentifiers := true }

theorem briefProgram_run : ∃ outcome log',
    execute briefOptions {} {} briefProgram [] {} = (.ok outcome, log') ∧ log'.calls.length = 2 := by
  have huse := usesAt_of_sorted briefOptions {} (show lookupPrompt briefProgram {} "brief" = some _ from rfl) (by decide) 0
  rw [execute_of_sorted _ _ _ (show briefProgram.entry? = some _ from rfl) (by decide)]
  simp only [runInOrder, Section.run, Stmt.runBlock, Stmt.run]
  rw [show briefOptions.maxUseDepth = 0 + 1 from rfl, huse]
  exact ⟨_, _, rfl, rfl⟩

theorem briefProgram_relaxed : ∃ outcome log',
    execute briefOptions {} {} briefProgram [] {} = (.ok outcome, log') ∧ log'.calls.length = 2 ∧
      execute {} {} {} briefProgram [] {} = (.ok outcome, log') := by
  obtain ⟨outcome, log', hrun, hcalls⟩ := briefProgram_run
  have hrelaxed : briefOptions.Relaxed {} :=
    ⟨by decide, by decide, by decide, by decide, rfl, rfl⟩
  exact ⟨outcome, log', hrun, hcalls, execute_of_relaxed hrelaxed (by decide) _ _ _ _ _ _ _ hrun⟩

end PromptLang
