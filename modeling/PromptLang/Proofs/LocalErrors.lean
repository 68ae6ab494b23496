import PromptLang.Interpreter.Prompt
import PromptLang.Proofs.Computation

/-! Where an error can come from. Evaluation, hooks, settings, strategies and formats ask neither the host nor another prompt, so their
errors never speak of a failed call, an unknown prompt or the nesting of uses: they are local. -/

namespace PromptLang

/-- Errors that arise without the host and without the use of another prompt. -/
def Error.isLocal : Error → Bool
  | .providerFailed _ | .unresolvedPrompt _ | .depthExceeded (.uses _) _ => false
  | _ => true

/-- If `x` fails, it fails with a local error. -/
def FailsLocally {α : Type} (x : Except Error α) : Prop := ∀ e, x = .error e → e.isLocal = true

variable {α β : Type}

@[simp] theorem failsLocally_ok (a : α) : FailsLocally (.ok a) := fun _ h => by cases h

@[simp] theorem failsLocally_pure (a : α) : FailsLocally (pure a) := failsLocally_ok a

@[simp] theorem failsLocally_error (e : Error) : FailsLocally (.error e : Except Error α) ↔ e.isLocal = true :=
  ⟨fun h => h e rfl, fun h _ he => by cases he; exact h⟩

@[simp] theorem failsLocally_map (x : Except Error α) (f : α → β) : FailsLocally (x.map f) ↔ FailsLocally x := by
  cases x with
  | error e => simp [Except.map]
  | ok a => simp [Except.map]

theorem FailsLocally.bind {x : Except Error α} {f : α → Except Error β} (hx : FailsLocally x)
    (hf : ∀ a, FailsLocally (f a)) : FailsLocally (x >>= f) := by
  cases x with
  | error e => exact fun e' h => by cases h; exact hx e rfl
  | ok a => exact hf a

theorem BinaryOp.apply_local (op : BinaryOp) (l r : Value) : FailsLocally (op.apply l r) := by
  have hnumbers (op : BinaryOp) (f : Float → Float → Except Error Float) (hf : ∀ x y, FailsLocally (f x y)) :
      FailsLocally (onNumbers op f l r) := by
    unfold onNumbers
    split
    · simpa using hf _ _
    · simp [unsupported, Error.isLocal]
  have hdivide (op : BinaryOp) (f : Float → Float → Float) (x y : Float) : FailsLocally (divide op f x y) := by
    unfold divide
    split <;> simp [Error.isLocal]
  have horder (op : BinaryOp) (f : Float → Float → Bool) (g : String → String → Bool) :
      FailsLocally (order op f g l r) := by
    unfold order
    split <;> simp [unsupported, Error.isLocal]
  cases op with
  | add =>
    unfold BinaryOp.apply addValues
    dsimp only
    split <;> simp [unsupported, Error.isLocal]
  | sub | mul => exact hnumbers _ _ fun x y => failsLocally_ok _
  | div | mod => exact hnumbers _ _ (hdivide _ _)
  | eq | ne => exact failsLocally_ok _
  | lt | gt | le | ge => exact horder _ _ _

theorem UnaryOp.apply_local (op : UnaryOp) (v : Value) : FailsLocally (op.apply v) := by
  unfold UnaryOp.apply
  split <;> simp [Error.isLocal]

theorem resolveIdent_local (opts : Options) (env : Env) (name : String) : FailsLocally (resolveIdent opts env name) := by
  unfold resolveIdent
  split
  · simp
  · split <;> simp [Error.isLocal]

def CallsLocally (call : Caller) : Prop := ∀ hook args, FailsLocally (call hook args)

section Evaluation

variable {opts : Options} {call : Caller}

mutual

theorem Expr.eval_local (hcall : CallsLocally call) (env : Env) :
    ∀ e : Expr, FailsLocally (e.eval opts call env)
  | .ident name => resolveIdent_local opts env name
  | .str _ | .num _ | .bool _ | .null => failsLocally_ok _
  | .array items => by
    simp only [Expr.eval]
    exact (Expr.evalList_local hcall env items).bind fun _ => failsLocally_pure _
  | .object members => by
    simp only [Expr.eval]
    exact (Expr.evalMembers_local hcall env members).bind fun _ => failsLocally_pure _
  | .binary op left right => by
    simp only [Expr.eval]
    exact (Expr.eval_local hcall env left).bind fun l => (Expr.eval_local hcall env right).bind fun r => op.apply_local l r
  | .logical op left right => by
    simp only [Expr.eval]
    refine (Expr.eval_local hcall env left).bind fun l => ?_
    split
    · exact failsLocally_pure _
    · exact Expr.eval_local hcall env right
  | .unary op operand => by
    simp only [Expr.eval]
    exact (Expr.eval_local hcall env operand).bind fun v => op.apply_local v
  | .member target name => by
    simp only [Expr.eval]
    exact (Expr.eval_local hcall env target).bind fun _ => failsLocally_pure _
  | .index target key => by
    simp only [Expr.eval]
    exact (Expr.eval_local hcall env target).bind fun _ => (Expr.eval_local hcall env key).bind fun _ => failsLocally_pure _
  | .call callee args => by
    simp only [Expr.eval]
    refine (Expr.eval_local hcall env callee).bind fun f => ?_
    split
    · exact (Expr.evalList_local hcall env args).bind fun vs => hcall _ vs
    · simp [Error.isLocal]

theorem Expr.evalList_local (hcall : CallsLocally call) (env : Env) :
    ∀ es : List Expr, FailsLocally (Expr.evalList opts call env es)
  | [] => failsLocally_ok _
  | e :: es => by
    simp only [Expr.evalList]
    exact (Expr.eval_local hcall env e).bind fun _ => (Expr.evalList_local hcall env es).bind fun _ => failsLocally_pure _

theorem Expr.evalMembers_local (hcall : CallsLocally call) (env : Env) :
    ∀ es : List (String × Expr), FailsLocally (Expr.evalMembers opts call env es)
  | [] => failsLocally_ok _
  | (_, e) :: es => by
    simp only [Expr.evalMembers]
    exact (Expr.eval_local hcall env e).bind fun _ => (Expr.evalMembers_local hcall env es).bind fun _ => failsLocally_pure _

end

theorem Template.render_local (hcall : CallsLocally call) (env : Env) (t : Template) :
    FailsLocally (t.render opts call env) := by
  induction t with
  | nil => exact failsLocally_ok _
  | cons segment rest ih =>
    cases segment with
    | text s => exact ih.bind fun _ => failsLocally_pure _
    | hole e => exact (Expr.eval_local hcall env e).bind fun _ => ih.bind fun _ => failsLocally_pure _

theorem stepOf_local (v : Value) : FailsLocally (stepOf v) := by
  unfold stepOf
  split
  · simp
  · split <;> simp [Error.isLocal]
  · simp [Error.isLocal]

theorem Expr.targetPath_local (hcall : CallsLocally call) (env : Env) (whole : Expr) :
    ∀ e : Expr, FailsLocally (Expr.targetPath opts call env whole e)
  | .ident _ => failsLocally_ok _
  | .member target name => by
    simp only [Expr.targetPath]
    exact (Expr.targetPath_local hcall env whole target).bind fun _ => failsLocally_pure _
  | .index target key => by
    simp only [Expr.targetPath]
    refine (Expr.eval_local hcall env key).bind fun k => (stepOf_local k).bind fun step => ?_
    exact (Expr.targetPath_local hcall env whole target).bind fun _ => failsLocally_pure _
  | .str _ | .num _ | .bool _ | .null | .array _ | .object _ | .binary .. | .logical .. | .unary .. | .call .. =>
    (failsLocally_error _).2 rfl

theorem Value.setPath_local (new : Value) (path : List Step) (v : Value) :
    ∀ e, (Value.setPath new path v).error? = some e → e.isLocal = true := by
  fun_induction Value.setPath new path v with
  | case1 => intro e h; cases h
  | case2 rest key members inner ih => exact ih
  | case3 rest i items item hitem inner ih => exact ih
  | case4 rest items hitem inner ih => exact ih
  | case5 => intro e h; cases h; rfl
  | case6 => intro e h; cases h; rfl

theorem assignTarget_local (hcall : CallsLocally call) (env : Env) (target : Expr) (value : Value) :
    FailsLocally (assignTarget opts call env target value) := by
  refine (Expr.targetPath_local hcall env target target).bind fun ⟨root, path⟩ => ?_
  dsimp only [Env.assignPath]
  split
  · exact failsLocally_ok _
  · split
    · exact failsLocally_ok _
    · next e he => exact (failsLocally_error e).2 (Value.setPath_local value path _ e he)

theorem loopItems_local (binding : String) (v : Value) : FailsLocally (loopItems binding v) := by
  unfold loopItems
  split <;> simp [Error.isLocal]

theorem hookLoop_local {body : Env → Except Error HookResult} (hb : ∀ env, FailsLocally (body env)) (binding : String)
    (items : List Value) (env : Env) : FailsLocally (hookLoop body binding items env) := by
  induction items generalizing env with
  | nil => exact failsLocally_ok _
  | cons item rest ih =>
    simp only [hookLoop]
    refine (hb _).bind fun ⟨inner, returned?⟩ => ?_
    cases returned? with
    | some v => exact failsLocally_pure _
    | none => exact ih _

mutual

theorem Stmt.runInHook_local (hcall : CallsLocally call) (hook : String) :
    ∀ (s : Stmt) (env : Env), FailsLocally (s.runInHook opts call hook env)
  | .assign target value, env => by
    simp only [Stmt.runInHook]
    refine (Expr.eval_local hcall env value).bind fun v => ?_
    exact (assignTarget_local hcall env target v).bind fun _ => failsLocally_pure _
  | .ret value, env => by
    simp only [Stmt.runInHook]
    exact (Expr.eval_local hcall env value).bind fun _ => failsLocally_pure _
  | .expr e, env => by
    simp only [Stmt.runInHook]
    exact (Expr.eval_local hcall env e).bind fun _ => failsLocally_pure _
  | .ifThen condition yes, env => by
    simp only [Stmt.runInHook]
    refine (Expr.eval_local hcall env condition).bind fun c => ?_
    split
    · exact Stmt.runBlockInHook_local hcall hook yes env
    · exact failsLocally_pure _
  | .ifElse condition yes no, env => by
    simp only [Stmt.runInHook]
    refine (Expr.eval_local hcall env condition).bind fun c => ?_
    split
    · exact Stmt.runBlockInHook_local hcall hook yes env
    · exact Stmt.runBlockInHook_local hcall hook no env
  | .forEach binding iterable body, env => by
    simp only [Stmt.runInHook]
    refine (Expr.eval_local hcall env iterable).bind fun v => (loopItems_local binding v).bind fun items => ?_
    exact hookLoop_local (fun env => Stmt.runBlockInHook_local hcall hook body env) binding items env
  | .text _, _ | .code .., _ | .image .., _ | .use .., _ => (failsLocally_error _).2 rfl

theorem Stmt.runBlockInHook_local (hcall : CallsLocally call) (hook : String) :
    ∀ (ss : List Stmt) (env : Env), FailsLocally (Stmt.runBlockInHook opts call hook ss env)
  | [], _ => failsLocally_ok _
  | s :: rest, env => by
    simp only [Stmt.runBlockInHook]
    refine (Stmt.runInHook_local hcall hook s env).bind fun ⟨env, returned?⟩ => ?_
    cases returned? with
    | some v => exact failsLocally_pure _
    | none => exact Stmt.runBlockInHook_local hcall hook rest env

end

end Evaluation

theorem callHook_local (opts : Options) (levels : Nat) : CallsLocally (callHook opts levels) := by
  induction levels with
  | zero => exact fun _ _ => (failsLocally_error _).2 rfl
  | succ levels ih =>
    intro hook args
    simp only [callHook]
    split
    · exact (failsLocally_error _).2 rfl
    · exact (Stmt.runBlockInHook_local ih hook.name hook.body _).bind fun _ => failsLocally_pure _

theorem evaluate_local (opts : Options) (env : Env) (e : Expr) : FailsLocally (evaluate opts env e) :=
  Expr.eval_local (callHook_local opts _) env e

theorem renderTemplate_local (opts : Options) (env : Env) (t : Template) : FailsLocally (renderTemplate opts env t) :=
  Template.render_local (callHook_local opts _) env t

namespace Constraints

theorem set_local (c : Constraints) (j : Json) (setting : Setting) : FailsLocally (c.set j setting) := by
  have hcount : FailsLocally (readCount j) := by
    unfold readCount
    split
    · simp
    · split
      · split <;> simp [Error.isLocal]
      · simp [Error.isLocal]
      · simp [wrongType, Error.isLocal]
    · simp [wrongType, Error.isLocal]
  have hnumber : FailsLocally (readNumber j) := by
    unfold readNumber
    split <;> simp [wrongType, Error.isLocal]
  have hstring : FailsLocally (readString j) := by
    unfold readString
    split <;> simp [wrongType, Error.isLocal]
  cases setting <;> simpa [set]

theorem setMembers_local (c : Constraints) (members : List (String × Json)) : FailsLocally (c.setMembers members) := by
  induction members generalizing c with
  | nil => exact failsLocally_ok _
  | cons kv rest ih =>
    obtain ⟨key, j⟩ := kv
    simp only [setMembers]
    cases Setting.ofKey? key with
    | some setting => exact (set_local c j setting).bind ih
    | none => exact ih c

theorem setItems_local (c : Constraints) (settings : List Setting) (items : List Json) :
    FailsLocally (c.setItems settings items) := by
  induction settings generalizing c items with
  | nil => exact failsLocally_ok _
  | cons setting rest ih =>
    cases items with
    | nil => exact failsLocally_ok _
    | cons j items => exact (set_local c j setting).bind fun c => ih c items

theorem ofValue?_local (v? : Option Value) : FailsLocally (ofValue? v?) := by
  unfold ofValue?
  split
  · simp
  · simp
  · unfold ofJson
    split
    · exact setMembers_local _ _
    · refine (setItems_local _ _ _).bind fun c => ?_
      split <;> simp [Error.isLocal]
    · simp [wrongType, Error.isLocal]

end Constraints

theorem Env.constraints_local (env : Env) : FailsLocally env.constraints := Constraints.ofValue?_local _

namespace Settings

variable (s : Settings) (name : String)

theorem value_local : FailsLocally (s.value name) := by
  unfold value
  split
  · exact evaluate_local s.opts s.env _
  · simp [Error.isLocal]

theorem text_local : FailsLocally (s.text name) := by
  simpa [text] using s.value_local name

theorem count_local : FailsLocally (s.count name) := by
  refine (s.value_local name).bind fun v => ?_
  split
  · split <;> simp [Error.isLocal]
  · simp [Error.isLocal]

theorem object_local : FailsLocally (s.object name) := by
  refine (s.value_local name).bind fun v => ?_
  split <;> simp [Error.isLocal]

end Settings

theorem ensureStrategy_local (purpose : String) (known : List String) (name : String) :
    FailsLocally (ensureStrategy purpose known name) := by
  unfold ensureStrategy
  split <;> simp [Error.isLocal]

theorem chooseStrategy_local (purpose : String) (table : List (String × α)) (name : String) :
    FailsLocally (chooseStrategy purpose table name) := by
  unfold chooseStrategy
  split <;> simp [Error.isLocal]

theorem sumFrom_local (i : Nat) (sum : Float) (results : List Value) : FailsLocally (sumFrom i sum results) := by
  induction results generalizing i sum with
  | nil => exact failsLocally_ok _
  | cons v rest ih =>
    simp only [sumFrom]
    split
    · exact ih _ _
    · simp [Error.isLocal]

theorem Aggregation.combine_local (a : Aggregation) (results : List Value) : FailsLocally (a.combine results) := by
  cases a with
  | majorityVote =>
    simp only [combine]
    split <;> simp [Error.isLocal]
  | average =>
    simp only [combine]
    split
    · simp [Error.isLocal]
    · simpa using sumFrom_local _ _ results

theorem selectMostConsistent_local (strategy : String) (results : List Value) :
    FailsLocally (selectMostConsistent strategy results) :=
  (chooseStrategy_local _ _ strategy).bind fun a => a.combine_local results

theorem bestThought_local (strategy : String) (thoughts : List String) : FailsLocally (bestThought strategy thoughts) := by
  refine (chooseStrategy_local _ _ strategy).bind fun scorer => ?_
  split <;> simp [Error.isLocal]

theorem readScores_local (function : String) (replies : List String) :
    FailsLocally (replies.mapM (readScore function)) := by
  induction replies with
  | nil => exact failsLocally_ok _
  | cons reply rest ih =>
    rw [List.mapM_cons]
    have hreply : FailsLocally (readScore function reply) := by
      unfold readScore
      split <;> simp [Error.isLocal]
    exact hreply.bind fun _ => ih.bind fun _ => failsLocally_pure _

theorem scoreQuestions_local (estimation : String) (questions : List String) :
    FailsLocally (scoreQuestions estimation questions) := by
  induction questions with
  | nil => exact failsLocally_ok _
  | cons text rest ih =>
    have hestimate : FailsLocally (estimateUncertainty estimation text) :=
      (chooseStrategy_local _ _ estimation).bind fun _ => failsLocally_pure _
    exact hestimate.bind fun _ => ih.bind fun _ => failsLocally_pure _

theorem selectQuestions_local (strategy : String) (questions : List ScoredQuestion) (w : Words) :
    FailsLocally (selectQuestions strategy questions w) :=
  (chooseStrategy_local _ _ strategy).bind fun _ => failsLocally_pure _

theorem clusterQuestions_local (method text : String) : FailsLocally (clusterQuestions method text) :=
  (chooseStrategy_local _ _ method).bind fun _ => failsLocally_pure _

theorem representatives_local (rule : String) (clusters : Clusters) (w : Words) :
    FailsLocally (representatives rule clusters w) := by
  unfold representatives
  split
  · simp
  · exact (chooseStrategy_local _ _ rule).bind fun _ => failsLocally_pure _

theorem decomposeTask_local (strategy task : String) : FailsLocally (decomposeTask strategy task) :=
  (chooseStrategy_local _ _ strategy).bind fun _ => failsLocally_pure _

theorem populate_local (opts : Options) (slot : String) (fields : List Field) (env : Env) :
    FailsLocally (populate opts slot fields env) := by
  induction fields generalizing env with
  | nil => exact failsLocally_ok _
  | cons field rest ih => exact (evaluate_local opts env field.value).bind fun _ => ih _

theorem bindDecls_local (opts : Options) (env : Env) (decls : List ParamDecl) (params : Entries Value) :
    FailsLocally (bindDecls opts env decls params) := by
  induction decls generalizing params with
  | nil => exact failsLocally_ok _
  | cons d rest ih =>
    have hvalue : FailsLocally (d.value opts env params) := by
      unfold ParamDecl.value
      split
      · simp
      · split
        · exact evaluate_local opts env _
        · simp [Error.isLocal]
    refine hvalue.bind fun v => ?_
    split
    · exact ih _
    · simp [Error.isLocal]

theorem preProcess_local (opts : Options) (prompt : Prompt) (env : Env) : FailsLocally (preProcess opts prompt env) := by
  unfold preProcess
  split
  · simp
  · refine (callHook_local opts _ _ _).bind fun v => ?_
    split <;> simp [Error.isLocal]

theorem formatOutput_local (response : Value) (output? : Option Value) : FailsLocally (formatOutput response output?) := by
  unfold formatOutput
  split
  · split
    · split <;> simp [Error.isLocal]
    · simp
  · simp

end PromptLang
