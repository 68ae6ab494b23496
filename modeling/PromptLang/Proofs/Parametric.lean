import PromptLang.Proofs.LocalErrors
import PromptLang.Proofs.RelaxedLimits

/-! Relations between two runs of the interpreter that pass from the parts to the whole. The runs may differ in the host, in what their
uses find and in the limit of nested uses. A relation is a congruence when it holds between computations that ask nothing and
succeed alike, and between sequences whose parts are related. If the answers of the hosts and the uses of other prompts are related
by a congruence, then so are every block, technique, section and prompt: one walk through the interpreter serves all such relations. -/

namespace PromptLang

/-- Options that keep each other's successes: only the limit of nested uses may differ. -/
structure Options.Interchangeable (o o' : Options) : Prop where
  relaxed : o.Relaxed o'
  relaxed' : o'.Relaxed o
  concurrentCalls : o'.maxConcurrentCalls = o.maxConcurrentCalls

namespace Options.Interchangeable

variable {o o' : Options}

theorem of_limit (o : Options) (limit : Nat) : o.Interchangeable { o with maxUseDepth := limit } :=
  ⟨⟨Nat.le_refl _, Nat.le_refl _, Nat.le_refl _, id, rfl, rfl⟩, ⟨Nat.le_refl _, Nat.le_refl _, Nat.le_refl _, id, rfl, rfl⟩, rfl⟩

theorem refl (o : Options) : o.Interchangeable o := of_limit o o.maxUseDepth

theorem reactIterations (h : o.Interchangeable o') : o'.maxReactIterations = o.maxReactIterations :=
  Nat.le_antisymm h.relaxed'.reactIterations h.relaxed.reactIterations

theorem techniqueCalls (h : o.Interchangeable o') : o'.maxTechniqueCalls = o.maxTechniqueCalls :=
  Nat.le_antisymm h.relaxed'.techniqueCalls h.relaxed.techniqueCalls

end Options.Interchangeable

/-- Computations that succeed alike, and whose failures are local. -/
structure Alike {α : Type} (x y : Except Error α) : Prop where
  keeps : Keeps x y
  kept : Keeps y x
  isLocal : FailsLocally x

theorem FailsLocally.alike {α : Type} {x : Except Error α} (h : FailsLocally x) : Alike x x := ⟨.refl x, .refl x, h⟩

theorem Alike.bind {α β : Type} {x y : Except Error α} {f g : α → Except Error β} (hx : Alike x y)
    (hf : ∀ a, Alike (f a) (g a)) : Alike (x >>= f) (y >>= g) :=
  ⟨hx.keeps.bind fun a => (hf a).keeps, hx.kept.bind fun a => (hf a).kept, hx.isLocal.bind fun a => (hf a).isLocal⟩

section Evaluation

variable {o o' : Options} (h : o.Interchangeable o')
include h

theorem evaluate_alike (env : Env) (e : Expr) : Alike (evaluate o env e) (evaluate o' env e) :=
  ⟨evaluate_keeps h.relaxed env e, evaluate_keeps h.relaxed' env e, evaluate_local o env e⟩

theorem renderTemplate_alike (env : Env) (t : Template) : Alike (renderTemplate o env t) (renderTemplate o' env t) :=
  ⟨renderTemplate_keeps h.relaxed env t, renderTemplate_keeps h.relaxed' env t, renderTemplate_local o env t⟩

theorem callHookAt_alike (depth : Nat) (hook : Hook) (args : List Value) :
    Alike (callHookAt o depth hook args) (callHookAt o' depth hook args) :=
  ⟨callHookAt_keeps h.relaxed depth hook args, callHookAt_keeps h.relaxed' depth hook args, callHook_local o _ hook args⟩

theorem evalMembers_alike (env : Env) (args : List (String × Expr)) :
    Alike (Expr.evalMembers o (callHookAt o 1) env args) (Expr.evalMembers o' (callHookAt o' 1) env args) :=
  ⟨Expr.evalMembers_keeps h.relaxed (callHookAt_keeps h.relaxed 1) env args,
    Expr.evalMembers_keeps h.relaxed' (callHookAt_keeps h.relaxed' 1) env args,
    Expr.evalMembers_local (callHook_local o _) env args⟩

theorem assignTarget_alike (env : Env) (target : Expr) (v : Value) :
    Alike (assignTarget o (callHookAt o 1) env target v) (assignTarget o' (callHookAt o' 1) env target v) :=
  ⟨assignTarget_keeps h.relaxed (callHookAt_keeps h.relaxed 1) env target v,
    assignTarget_keeps h.relaxed' (callHookAt_keeps h.relaxed' 1) env target v,
    assignTarget_local (callHook_local o _) env target v⟩

theorem populate_alike (slot : String) (fields : List Field) (env : Env) :
    Alike (populate o slot fields env) (populate o' slot fields env) :=
  ⟨populate_keeps h.relaxed slot fields env, populate_keeps h.relaxed' slot fields env, populate_local o slot fields env⟩

theorem bindParams_alike (decls : List ParamDecl) (env : Env) : Alike (bindParams o decls env) (bindParams o' decls env) := by
  have hdecls : Alike (bindDecls o env decls env.params) (bindDecls o' env decls env.params) :=
    ⟨bindDecls_keeps h.relaxed env decls _, bindDecls_keeps h.relaxed' env decls _, bindDecls_local o env decls _⟩
  exact hdecls.bind fun _ => (failsLocally_pure _).alike

theorem preProcess_alike (prompt : Prompt) (env : Env) : Alike (preProcess o prompt env) (preProcess o' prompt env) :=
  ⟨preProcess_keeps h.relaxed prompt env, preProcess_keeps h.relaxed' prompt env, preProcess_local o prompt env⟩

theorem postProcess_alike (env : Env) (response : Value) : Alike (postProcess o env response) (postProcess o' env response) := by
  unfold postProcess
  split
  · exact callHookAt_alike h 1 _ _
  · exact (failsLocally_ok _).alike

end Evaluation

section Settings

variable {s : Settings} {o' : Options} (h : s.opts.Interchangeable o')
include h

theorem Settings.text_alike (name : String) : Alike (s.text name) ({ s with opts := o' }.text name) :=
  ⟨Settings.text_keeps h.relaxed name, Settings.text_keeps (s := { s with opts := o' }) h.relaxed' name, s.text_local name⟩

theorem Settings.count_alike (name : String) : Alike (s.count name) ({ s with opts := o' }.count name) :=
  ⟨Settings.count_keeps h.relaxed name, Settings.count_keeps (s := { s with opts := o' }) h.relaxed' name, s.count_local name⟩

theorem Settings.object_alike (name : String) : Alike (s.object name) ({ s with opts := o' }.object name) :=
  ⟨Settings.object_keeps h.relaxed name, Settings.object_keeps (s := { s with opts := o' }) h.relaxed' name, s.object_local name⟩

theorem runZeroShot_alike : Alike (runZeroShot s) (runZeroShot { s with opts := o' }) :=
  (Settings.text_alike h _).bind fun _ => (failsLocally_pure _).alike

theorem runExpertPrompting_alike : Alike (runExpertPrompting s) (runExpertPrompting { s with opts := o' }) := by
  refine (Settings.text_alike h _).bind fun identity => ?_
  exact (Settings.text_alike h _).bind fun _ => (failsLocally_pure _).alike

end Settings

/-- Holds where nothing is asked and is kept by sequences. -/
structure Congruence (R : ∀ α : Type, Run α → Run α → Prop) : Prop where
  ofExcept : ∀ {α : Type} {x y : Except Error α}, Alike x y → R α (Run.ofExcept x) (Run.ofExcept y)
  bind : ∀ {α β : Type} {x y : Run α} {f g : α → Run β}, R α x y → (∀ a, R β (f a) (g a)) → R β (x >>= f) (y >>= g)

/-- Calls with admitted constraints are related, alone and in batches of at most `limit` calls in flight, and so are questions. -/
structure Host.Related (host host' : Host) (limit : Nat) (admitted : Constraints → Prop) (R : ∀ α : Type, Run α → Run α → Prop) :
    Prop where
  generate : ∀ constraints, admitted constraints → ∀ prompt,
    R String (generate host constraints prompt) (generate host' constraints prompt)
  generateAll : ∀ constraints, admitted constraints → ∀ prompts,
    R (List String) (generateAll host limit constraints prompts) (generateAll host' limit constraints prompts)
  annotate : ∀ question, R String (annotate host question) (annotate host' question)

/-- Uses find related prompts under each name, or fail in related ways. -/
def Resolver.Related (r r' : Resolver) (R : ∀ α : Type, Run α → Run α → Prop) : Prop := ∀ name,
  (∃ run run', r name = .ok run ∧ r' name = .ok run' ∧ ∀ params, R String (run params) (run' params)) ∨
  ∃ e e', r name = .error e ∧ r' name = .error e' ∧ ∀ α : Type, R α (Run.fail e) (Run.fail e')

section

variable {R : ∀ α : Type, Run α → Run α → Prop}

namespace Congruence

variable (h : Congruence R) {α β : Type}
include h

theorem same {x : Except Error α} (hx : FailsLocally x) : R α (Run.ofExcept x) (Run.ofExcept x) := h.ofExcept hx.alike

theorem pure (a : α) : R α (Pure.pure a) (Pure.pure a) := h.same (failsLocally_ok a)

theorem fail {e : Error} (he : e.isLocal = true) : R α (Run.fail e) (Run.fail e) := h.same ((failsLocally_error e).2 he)

theorem bind_value {x : Except Error α} (hx : FailsLocally x) {f g : α → Run β} (hf : ∀ a, x = .ok a → R β (f a) (g a)) :
    R β (Run.ofExcept x >>= f) (Run.ofExcept x >>= g) := by
  cases x with
  | error e => exact h.fail (hx e rfl)
  | ok a => exact hf a rfl

end Congruence

theorem bodyLoop_related (h : Congruence R) {body body' : Env → Run (String × Env)} (hb : ∀ env, R _ (body env) (body' env))
    (binding : String) (items : List Value) (env : Env) :
    R _ (bodyLoop body binding items env) (bodyLoop body' binding items env) := by
  induction items generalizing env with
  | nil => exact h.pure _
  | cons item rest ih => exact h.bind (hb _) fun turn => h.bind (ih turn.2.parent) fun _ => h.pure _

theorem keeping_related (h : Congruence R) (env : Env) {x y : Run Value} (hx : R _ x y) : R _ (keeping env x) (keeping env y) :=
  h.bind hx fun _ => h.pure _

theorem Method.kind_notMem_blockKinds (method : Method) : method.kind ∉ Technique.blockKinds := by
  cases method <;> decide

section Blocks

variable {o o' : Options} {r r' : Resolver}

theorem use_related (h : Congruence R) (ho : o.Interchangeable o') (hr : r.Related r' R) (prompt : String)
    (args : List (String × Expr)) (env : Env) :
    R _ ((Stmt.use prompt args).run o r env) ((Stmt.use prompt args).run o' r' env) := by
  simp only [Stmt.run, Run.liftM_eq]
  rcases hr prompt with ⟨run, run', hfound, hfound', hrun⟩ | ⟨e, e', hfound, hfound', hfail⟩
  · rw [hfound, hfound']
    have hargs := h.ofExcept (evalMembers_alike ho env args)
    exact h.bind (x := Run.ofExcept (Expr.evalMembers o _ env args)) hargs fun params => h.bind (hrun _) fun _ => h.pure _
  · rw [hfound, hfound']
    exact hfail _

mutual

theorem Stmt.run_related (h : Congruence R) (ho : o.Interchangeable o') (hr : r.Related r' R) :
    ∀ (s : Stmt) (env : Env), R _ (s.run o r env) (s.run o' r' env)
  | .text template, env => by
    simp only [Stmt.run]
    exact h.bind (h.ofExcept (renderTemplate_alike ho env template)) fun _ => h.pure _
  | .code language content, env => by
    simp only [Stmt.run]
    exact h.bind (h.ofExcept (renderTemplate_alike ho env content)) fun _ => h.pure _
  | .image source alt, env => by
    simp only [Stmt.run]
    refine h.bind (h.ofExcept (evaluate_alike ho env source)) fun src => ?_
    exact h.bind (h.ofExcept (evaluate_alike ho env alt)) fun _ => h.pure _
  | .ifThen condition yes, env => by
    simp only [Stmt.run]
    refine h.bind (h.ofExcept (evaluate_alike ho env condition)) fun c => ?_
    split
    · exact Stmt.runBlock_related h ho hr yes env
    · exact h.pure _
  | .ifElse condition yes no, env => by
    simp only [Stmt.run]
    refine h.bind (h.ofExcept (evaluate_alike ho env condition)) fun c => ?_
    split
    · exact Stmt.runBlock_related h ho hr yes env
    · exact Stmt.runBlock_related h ho hr no env
  | .forEach binding iterable body, env => by
    simp only [Stmt.run]
    refine h.bind (h.ofExcept (evaluate_alike ho env iterable)) fun v => ?_
    refine h.bind (h.same (loopItems_local binding v)) fun items => ?_
    exact bodyLoop_related h (fun env => Stmt.runBlock_related h ho hr body env) binding items env
  | .use prompt args, env => use_related h ho hr prompt args env
  | .assign target value, env => by
    simp only [Stmt.run]
    refine h.bind (h.ofExcept (evaluate_alike ho env value)) fun v => ?_
    exact h.bind (h.ofExcept (assignTarget_alike ho env target v)) fun _ => h.pure _
  | .expr e, env => by
    simp only [Stmt.run]
    exact h.bind (h.ofExcept (evaluate_alike ho env e)) fun _ => h.pure _
  | .ret _, _ => h.fail rfl

theorem Stmt.runBlock_related (h : Congruence R) (ho : o.Interchangeable o') (hr : r.Related r' R) :
    ∀ (ss : List Stmt) (env : Env), R _ (Stmt.runBlock o r ss env) (Stmt.runBlock o' r' ss env)
  | [], _ => h.pure _
  | s :: rest, env => by
    simp only [Stmt.runBlock]
    refine h.bind (Stmt.run_related h ho hr s env) fun out => ?_
    exact h.bind (Stmt.runBlock_related h ho hr rest out.2) fun _ => h.pure _

end

variable (h : Congruence R) (ho : o.Interchangeable o') (hr : r.Related r' R)
include h ho hr

theorem blockText_related (block : Block) (env : Env) : R _ (blockText o r block env) (blockText o' r' block env) :=
  h.bind (Stmt.runBlock_related h ho hr block env) fun _ => h.pure _

theorem chainSteps_related (env : Env) (steps : List (String × Block)) :
    R _ (chainSteps o r env steps) (chainSteps o' r' env steps) := by
  induction steps with
  | nil => exact h.pure _
  | cons step rest ih => exact h.bind (blockText_related h ho hr step.2 _) fun _ => h.bind ih fun _ => h.pure _

theorem examplePairs_related (env : Env) (examples : List (Block × Block)) :
    R _ (examplePairs o r env examples) (examplePairs o' r' env examples) := by
  induction examples with
  | nil => exact h.pure _
  | cons pair rest ih =>
    refine h.bind (blockText_related h ho hr pair.1 _) fun _ => ?_
    exact h.bind (blockText_related h ho hr pair.2 _) fun _ => h.bind ih fun _ => h.pure _

theorem runReWOO_related (planner worker solver : Block) (env : Env) :
    R _ (runReWOO o r planner worker solver env) (runReWOO o' r' planner worker solver env) := by
  refine h.bind (blockText_related h ho hr planner _) fun plan => ?_
  refine h.bind (blockText_related h ho hr worker _) fun work => ?_
  exact h.bind (blockText_related h ho hr solver _) fun _ => h.pure _

theorem reActRound_related (observation thought action : Block) (base : Env) :
    R _ (reActRound o r observation thought action base) (reActRound o' r' observation thought action base) := by
  refine h.bind (blockText_related h ho hr observation _) fun seen => ?_
  refine h.bind (blockText_related h ho hr thought _) fun idea => ?_
  exact h.bind (blockText_related h ho hr action _) fun _ => h.pure _

theorem reActLoop_related (observation thought action : Block) (rounds : Nat) (base : Env) :
    R _ (reActLoop o r observation thought action rounds base) (reActLoop o' r' observation thought action rounds base) := by
  induction rounds generalizing base with
  | zero =>
    simp only [reActLoop, ho.reactIterations]
    exact h.fail rfl
  | succ n ih =>
    simp only [reActLoop]
    refine h.bind (reActRound_related h ho hr observation thought action base) fun round => ?_
    split
    · exact h.pure _
    · exact h.bind (ih _) fun _ => h.pure _

theorem runReAct_related (observation thought action : Block) (env : Env) :
    R _ (runReAct o r observation thought action env) (runReAct o' r' observation thought action env) := by
  simp only [runReAct, ho.reactIterations]
  exact h.bind (reActLoop_related h ho hr observation thought action _ _) fun _ => h.pure _

/-- Techniques that hold blocks ask through their blocks only, so the hosts need not be related. -/
theorem Technique.apply_related_of_blocks {t : Technique} (ht : t.kind ∈ Technique.blockKinds) (host host' : Host)
    (body : String) (env : Env) : R _ (t.apply o host r body env) (t.apply o' host' r' body env) := by
  cases t with
  | chainOfThought steps => exact h.bind (chainSteps_related h ho hr env steps) fun _ => h.pure _
  | fewShot examples => exact h.bind (examplePairs_related h ho hr env examples) fun _ => h.pure _
  | reWOO planner worker solver => exact keeping_related h env (runReWOO_related h ho hr planner worker solver env)
  | reAct observation thought action => exact keeping_related h env (runReAct_related h ho hr observation thought action env)
  | byFields method fields => exact absurd ht method.kind_notMem_blockKinds

end Blocks

section Fields

variable {admitted : Constraints → Prop} {limit : Nat} {host host' : Host} (h : Congruence R)
  (hh : host.Related host' limit admitted R)
include h hh

theorem annotateAll_related (questions : List String) : R _ (annotateAll host questions) (annotateAll host' questions) := by
  induction questions with
  | nil => exact h.pure _
  | cons question rest ih => exact h.bind (hh.annotate question) fun _ => h.bind ih fun _ => h.pure _

theorem expandThoughts_related {constraints : Constraints} (hc : admitted constraints) (context : String)
    (breadth levels : Nat) (thoughts : List String) :
    R _ (expandThoughts host limit constraints context breadth levels thoughts)
      (expandThoughts host' limit constraints context breadth levels thoughts) := by
  induction levels generalizing thoughts with
  | zero => exact h.pure _
  | succ n ih => exact h.bind (hh.generateAll constraints hc _) fun next => ih next

end Fields

section Methods

variable {admitted : Constraints → Prop} {host host' : Host} {s : Settings} {o' : Options} {body : String} (h : Congruence R)
  (hh : host.Related host' s.opts.maxConcurrentCalls admitted R) (ho : s.opts.Interchangeable o')
  (hc : ∀ c, s.env.constraints = .ok c → admitted c)
include h hh ho hc

theorem runSelfConsistency_related :
    R _ (runSelfConsistency host s body) (runSelfConsistency host' { s with opts := o' } body) := by
  refine h.bind (h.ofExcept (Settings.count_alike ho _)) fun generations => ?_
  refine h.bind (h.ofExcept (Settings.text_alike ho _)) fun strategy => ?_
  refine h.bind (h.same (ensureStrategy_local _ _ strategy)) fun _ => ?_
  refine h.bind_value s.env.constraints_local fun constraints hconstraints => ?_
  dsimp only
  rw [ho.concurrentCalls]
  refine h.bind (hh.generateAll constraints (hc _ hconstraints) _) fun answers => ?_
  exact h.same (selectMostConsistent_local strategy _)

theorem runTreeOfThoughts_related :
    R _ (runTreeOfThoughts host s body) (runTreeOfThoughts host' { s with opts := o' } body) := by
  refine h.bind (h.ofExcept (Settings.count_alike ho _)) fun breadth => ?_
  refine h.bind (h.ofExcept (Settings.count_alike ho _)) fun depth => ?_
  refine h.bind (h.ofExcept (Settings.text_alike ho _)) fun strategy => ?_
  refine h.bind (h.same (ensureStrategy_local _ _ strategy)) fun _ => ?_
  dsimp only
  rw [ho.techniqueCalls, ho.concurrentCalls]
  split
  · exact h.fail rfl
  · refine h.bind_value s.env.constraints_local fun constraints hconstraints => ?_
    refine h.bind (hh.generateAll constraints (hc _ hconstraints) _) fun first => ?_
    refine h.bind (expandThoughts_related h hh (hc _ hconstraints) _ _ _ _) fun leaves => ?_
    exact h.bind (h.same (bestThought_local strategy leaves)) fun _ => h.pure _

theorem runActivePrompting_related :
    R _ (runActivePrompting host s body) (runActivePrompting host' { s with opts := o' } body) := by
  refine h.bind (h.ofExcept (Settings.text_alike ho _)) fun estimation => ?_
  refine h.bind (h.ofExcept (Settings.text_alike ho _)) fun selection => ?_
  refine h.bind (h.ofExcept (Settings.text_alike ho _)) fun process => ?_
  refine h.bind (h.same (ensureStrategy_local _ _ estimation)) fun _ => ?_
  refine h.bind (h.same (ensureStrategy_local _ _ selection)) fun _ => ?_
  refine h.bind (h.same (ensureStrategy_local _ _ process)) fun _ => ?_
  refine h.bind_value s.env.constraints_local fun constraints hconstraints => ?_
  refine h.bind (h.same (scoreQuestions_local estimation _)) fun candidates => ?_
  simp only [ho.relaxed.words, ho.concurrentCalls]
  refine h.bind (h.same (selectQuestions_local selection candidates _)) fun selected => ?_
  refine h.bind ?_ fun notes => h.bind (hh.generate constraints (hc _ hconstraints) _) fun _ => h.pure _
  unfold annotateQuestions
  split
  · exact hh.generateAll constraints (hc _ hconstraints) _
  · exact annotateAll_related h hh _

theorem runReflection_related : R _ (runReflection host s) (runReflection host' { s with opts := o' }) := by
  refine h.bind (h.ofExcept (Settings.text_alike ho _)) fun prompt => ?_
  refine h.bind (h.ofExcept (Settings.text_alike ho _)) fun buffer => ?_
  split
  · exact h.fail rfl
  · refine h.bind_value s.env.constraints_local fun constraints hconstraints => ?_
    exact h.bind (hh.generate constraints (hc _ hconstraints) prompt) fun _ => h.pure _

theorem runApe_related :
    R _ (runApe host s body) (runApe host' { s with opts := o' } body) := by
  refine h.bind (h.ofExcept (Settings.count_alike ho _)) fun pool => ?_
  refine h.bind (h.ofExcept (Settings.text_alike ho _)) fun function => ?_
  refine h.bind_value s.env.constraints_local fun constraints hconstraints => ?_
  dsimp only
  rw [ho.concurrentCalls]
  refine h.bind (hh.generateAll constraints (hc _ hconstraints) _) fun candidates => ?_
  split
  · exact h.pure _
  · refine h.bind ?_ fun _ => h.pure _
    refine h.bind (hh.generateAll constraints (hc _ hconstraints) _) fun replies => ?_
    exact h.bind (h.same (readScores_local function replies)) fun _ => h.pure _

theorem runAutoCot_related :
    R _ (runAutoCot host s body) (runAutoCot host' { s with opts := o' } body) := by
  refine h.bind (h.ofExcept (Settings.text_alike ho _)) fun method => ?_
  refine h.bind (h.ofExcept (Settings.text_alike ho _)) fun selection => ?_
  refine h.bind (h.same (ensureStrategy_local _ _ method)) fun _ => ?_
  refine h.bind (h.same (ensureStrategy_local _ _ selection)) fun _ => ?_
  refine h.bind_value s.env.constraints_local fun constraints hconstraints => ?_
  refine h.bind (h.same (clusterQuestions_local method _)) fun clusters => ?_
  simp only [ho.relaxed.words, ho.concurrentCalls]
  refine h.bind (h.same (representatives_local selection clusters _)) fun questions => ?_
  exact h.bind (hh.generateAll constraints (hc _ hconstraints) _) fun _ => h.pure _

theorem runArt_related :
    R _ (runArt host s body) (runArt host' { s with opts := o' } body) := by
  refine h.bind (h.ofExcept (Settings.object_alike ho _)) fun tasks => ?_
  refine h.bind (h.ofExcept (Settings.object_alike ho _)) fun tools => ?_
  refine h.bind (h.ofExcept (Settings.text_alike ho _)) fun strategy => ?_
  refine h.bind (h.same (ensureStrategy_local _ _ strategy)) fun _ => ?_
  refine h.bind_value s.env.constraints_local fun constraints hconstraints => ?_
  dsimp only
  rw [ho.concurrentCalls]
  split
  · exact h.fail rfl
  · next task _ =>
    refine h.bind (h.same (decomposeTask_local strategy task)) fun steps => ?_
    exact h.bind (hh.generateAll constraints (hc _ hconstraints) _) fun _ => h.pure _

end Methods

theorem Method.apply_related {admitted : Constraints → Prop} {host host' : Host} {o o' : Options} (h : Congruence R)
    (ho : o.Interchangeable o') (hh : host.Related host' o.maxConcurrentCalls admitted R) {env : Env}
    (hc : ∀ c, env.constraints = .ok c → admitted c) (method : Method) (fields : List Field) (body : String) :
    R _ (method.apply o host fields body env) (method.apply o' host' fields body env) := by
  have hs : (Settings.mk o env method fields).opts.Interchangeable o' := ho
  cases method with
  | zeroShot => exact h.ofExcept (runZeroShot_alike hs)
  | selfConsistency => exact keeping_related h env (runSelfConsistency_related h hh hs hc)
  | treeOfThoughts => exact keeping_related h env (runTreeOfThoughts_related h hh hs hc)
  | activePrompting => exact keeping_related h env (runActivePrompting_related h hh hs hc)
  | reflection => exact runReflection_related h hh hs hc
  | expertPrompting => exact keeping_related h env (h.ofExcept (runExpertPrompting_alike hs))
  | ape => exact keeping_related h env (runApe_related h hh hs hc)
  | autoCot => exact keeping_related h env (runAutoCot_related h hh hs hc)
  | art => exact keeping_related h env (runArt_related h hh hs hc)

section Prompts

variable {o o' : Options} {host host' : Host} {r r' : Resolver} (h : Congruence R)
include h

theorem Progress.update_related (p : Progress) {x y : Except Error Env} (hx : Alike x y) : R _ (p.update x) (p.update y) :=
  h.bind (h.ofExcept hx) fun _ => h.pure _

variable (ho : o.Interchangeable o')
include ho

/-- Sections other than those of techniques ask through the body only, so the hosts need not be related. -/
theorem Section.run_related_of_ne (hr : r.Related r' R) {s : Section} (hs : s.kind ≠ .technique) (host host' : Host)
    (p : Progress) : R _ (s.run o host r p) (s.run o' host' r' p) := by
  cases s with
  | metadata fields => exact p.update_related h (populate_alike ho _ fields p.env)
  | context fields => exact p.update_related h (populate_alike ho _ fields p.env)
  | params decls => exact p.update_related h (bindParams_alike ho decls p.env)
  | body block => exact h.bind (Stmt.runBlock_related h ho hr block p.env) fun _ => h.pure _
  | constraints fields => exact p.update_related h (populate_alike ho _ fields p.env)
  | output fields => exact p.update_related h (populate_alike ho _ fields p.env)
  | hooks list => exact h.pure _
  | technique list => exact absurd rfl hs

theorem runInOrder_related (host host' : Host) (r r' : Resolver) (prompt : Prompt) {sections : List Section}
    (hsections : ∀ s ∈ sections, ∀ p, R _ (s.run o host r p) (s.run o' host' r' p)) (pending : Bool) (p : Progress) :
    R _ (runInOrder o host r prompt pending sections p) (runInOrder o' host' r' prompt pending sections p) := by
  have hpre (due : Bool) (p : Progress) : R _ (preProcessIf o prompt due p) (preProcessIf o' prompt due p) := by
    cases due with
    | false => exact h.pure _
    | true => exact p.update_related h (preProcess_alike ho prompt p.env)
  induction sections generalizing pending p with
  | nil => exact hpre pending p
  | cons s rest ih =>
    have hrest (t : Section) (ht : t ∈ rest) := hsections t (List.mem_cons_of_mem s ht)
    exact h.bind (hpre _ p) fun p => h.bind (hsections s List.mem_cons_self p) fun p => ih hrest _ p

variable (hh : host.Related host' o.maxConcurrentCalls (fun _ => True) R)
include hh

theorem finish_related (name : String) (p : Progress) : R _ (finish o host name p) (finish o' host' name p) := by
  refine h.bind (h.same p.env.constraints_local) fun constraints => ?_
  refine h.bind (hh.generate constraints trivial _) fun response => ?_
  refine h.bind (h.ofExcept (postProcess_alike ho p.env _)) fun processed => ?_
  exact h.bind (h.same (formatOutput_local processed _)) fun _ => h.pure _

variable (hr : r.Related r' R)
include hr

theorem Technique.apply_related (body : String) (env : Env) (t : Technique) :
    R _ (t.apply o host r body env) (t.apply o' host' r' body env) := by
  cases t with
  | byFields method fields => exact Method.apply_related h ho hh (fun _ _ => trivial) method fields body
  | _ => exact Technique.apply_related_of_blocks h ho hr (by simp [Technique.kind, Technique.blockKinds]) host host' body env

theorem applyTechniques_related (ts : List Technique) (p : Progress) :
    R _ (applyTechniques o host r ts p) (applyTechniques o' host' r' ts p) := by
  induction ts generalizing p with
  | nil => exact h.pure _
  | cons t rest ih => exact h.bind (Technique.apply_related h ho hh hr p.body p.env t) fun _ => ih _

theorem Section.run_related (s : Section) (p : Progress) : R _ (s.run o host r p) (s.run o' host' r' p) := by
  cases s with
  | technique list => exact applyTechniques_related h ho hh hr list p
  | _ => exact Section.run_related_of_ne h ho hr (by simp [Section.kind]) host host' p

theorem runWith_related (prompt : Prompt) (params : Entries Value) :
    R _ (runWith o host r prompt params) (runWith o' host' r' prompt params) := by
  have hsections (s : Section) (_ : s ∈ prompt.ordered) := Section.run_related h ho hh hr s
  exact h.bind (runInOrder_related h ho host host' r r' prompt hsections true _) fun p => finish_related h ho hh prompt.name p

omit hr in
/-- It suffices that the failures of uses are related: an unknown prompt, or no level left. -/
theorem runPrompt_related (lookup : String → Option Prompt)
    (hunresolved : ∀ name (α : Type), R α (Run.fail (.unresolvedPrompt name)) (Run.fail (.unresolvedPrompt name)))
    (hexhausted : ∀ name (α : Type), R α (Run.fail (.depthExceeded (.uses name) o.maxUseDepth))
      (Run.fail (.depthExceeded (.uses name) o'.maxUseDepth)))
    (levels : Nat) (prompt : Prompt) (params : Entries Value) :
    R _ (runPrompt o host lookup levels prompt params) (runPrompt o' host' lookup levels prompt params) := by
  induction levels generalizing prompt params with
  | zero =>
    refine runWith_related h ho hh (fun name => .inr ?_) prompt params
    exact ⟨_, _, rfl, rfl, hexhausted name⟩
  | succ n ih =>
    refine runWith_related h ho hh (fun name => ?_) prompt params
    unfold nested
    cases lookup name with
    | none => exact .inr ⟨_, _, rfl, rfl, hunresolved name⟩
    | some prompt => exact .inl ⟨_, _, rfl, rfl, fun params => h.bind (ih prompt params) fun _ => h.pure _⟩

end Prompts

end

end PromptLang
