import PromptLang.Proofs.RelaxedLimits

/-! What an evaluation can see. It reads its environment through the identifiers that occur in the expression and through nothing else,
so two environments that agree on these give the same result, be it a value or an error. A hook that is called starts from its
argument alone: the same hook with the same argument gives the same result from any two environments, whatever further hooks it
calls, and how deep a call is nested matters only where it reaches the limit. -/

namespace PromptLang

mutual

def Expr.names : Expr → List String
  | .ident name => [name]
  | .str _ | .num _ | .bool _ | .null => []
  | .array items => Expr.namesIn items
  | .object members => Expr.namesInMembers members
  | .binary _ left right => left.names ++ right.names
  | .logical _ left right => left.names ++ right.names
  | .unary _ operand => operand.names
  | .member target _ => target.names
  | .index target key => target.names ++ key.names
  | .call callee args => callee.names ++ Expr.namesIn args
termination_by structural e => e

def Expr.namesIn : List Expr → List String
  | [] => []
  | e :: es => e.names ++ Expr.namesIn es
termination_by structural es => es

/-- Keys of members are no identifiers. -/
def Expr.namesInMembers : List (String × Expr) → List String
  | [] => []
  | (_, e) :: es => e.names ++ Expr.namesInMembers es
termination_by structural es => es

end

namespace Env

/-- Two environments give each of the names the same value, or none. -/
def Agree (order : List Scope) (names : List String) (env env' : Env) : Prop :=
  ∀ name ∈ names, env.resolve? name order = env'.resolve? name order

variable {order : List Scope} {names more : List String} {env env' : Env}

theorem Agree.left (h : Agree order (names ++ more) env env') : Agree order names env env' :=
  fun name hname => h name (List.mem_append_left more hname)

theorem Agree.right (h : Agree order (names ++ more) env env') : Agree order more env env' :=
  fun name hname => h name (List.mem_append_right names hname)

end Env

section Evaluation

variable {opts : Options} {env env' : Env} (call : Caller)

theorem resolveIdent_agree {name : String} (h : Env.Agree opts.resolutionOrder [name] env env') :
    resolveIdent opts env name = resolveIdent opts env' name := by
  simp only [resolveIdent, h name (List.mem_singleton_self name)]

mutual

/-- However hooks are called, the names of an expression are all that its value depends on. -/
theorem Expr.eval_agree : ∀ e : Expr, Env.Agree opts.resolutionOrder e.names env env' →
    e.eval opts call env = e.eval opts call env'
  | .ident name, h => by
    simp only [Expr.eval, resolveIdent_agree h]
  | .str _, _ | .num _, _ | .bool _, _ | .null, _ => by
    simp only [Expr.eval]
  | .array items, h => by
    simp only [Expr.eval, Expr.evalList_agree items h]
  | .object members, h => by
    simp only [Expr.eval, Expr.evalMembers_agree members h]
  | .binary op left right, h => by
    simp only [Expr.eval, Expr.eval_agree left h.left, Expr.eval_agree right h.right]
  | .logical op left right, h => by
    simp only [Expr.eval, Expr.eval_agree left h.left, Expr.eval_agree right h.right]
  | .unary op operand, h => by
    simp only [Expr.eval, Expr.eval_agree operand h]
  | .member target name, h => by
    simp only [Expr.eval, Expr.eval_agree target h]
  | .index target key, h => by
    simp only [Expr.eval, Expr.eval_agree target h.left, Expr.eval_agree key h.right]
  | .call callee args, h => by
    simp only [Expr.eval, Expr.eval_agree callee h.left, Expr.evalList_agree args h.right]

theorem Expr.evalList_agree : ∀ es : List Expr, Env.Agree opts.resolutionOrder (Expr.namesIn es) env env' →
    Expr.evalList opts call env es = Expr.evalList opts call env' es
  | [], _ => rfl
  | e :: es, h => by
    simp only [Expr.evalList, Expr.eval_agree e h.left, Expr.evalList_agree es h.right]

theorem Expr.evalMembers_agree : ∀ es : List (String × Expr),
    Env.Agree opts.resolutionOrder (Expr.namesInMembers es) env env' →
    Expr.evalMembers opts call env es = Expr.evalMembers opts call env' es
  | [], _ => rfl
  | (key, e) :: es, h => by
    simp only [Expr.evalMembers, Expr.eval_agree e h.left, Expr.evalMembers_agree es h.right]

end

theorem Expr.eval_call {callee : Expr} {args : List Expr} {hook : Hook} {given : List Value}
    (hcallee : callee.eval opts call env = .ok (.function hook)) (hargs : Expr.evalList opts call env args = .ok given) :
    (Expr.call callee args).eval opts call env = call hook given := by
  rw [Expr.eval, hcallee]
  change (Expr.evalList opts call env args >>= fun vs => call hook vs) = call hook given
  rw [hargs]
  rfl

end Evaluation

theorem callHookAt_of_shallower (opts : Options) {depth deeper : Nat} (h : depth ≤ deeper) :
    CallsKeep (callHookAt opts deeper) (callHookAt opts depth) :=
  callHook_keeps ⟨Nat.le_refl _, Nat.le_refl _, Nat.le_refl _, id, rfl, rfl⟩ (by omega)

/-- Two environments that agree on the identifiers of an expression give it the same value or the same error. A hook gives the same for
the same arguments from any two environments, and a call that succeeds gives the same value at every smaller depth of nesting. -/
theorem evaluation_sees_mentioned_names (opts : Options) :
    (∀ (e : Expr) (env env' : Env),
      (∀ name ∈ e.names, env.resolve? name opts.resolutionOrder = env'.resolve? name opts.resolutionOrder) →
      evaluate opts env e = evaluate opts env' e) ∧
    (∀ (depth : Nat) (env env' : Env) (callee callee' : Expr) (args args' : List Expr) (hook : Hook) (given : List Value),
      callee.eval opts (callHookAt opts depth) env = .ok (.function hook) →
      callee'.eval opts (callHookAt opts depth) env' = .ok (.function hook) →
      Expr.evalList opts (callHookAt opts depth) env args = .ok given →
      Expr.evalList opts (callHookAt opts depth) env' args' = .ok given →
      (Expr.call callee args).eval opts (callHookAt opts depth) env =
        (Expr.call callee' args').eval opts (callHookAt opts depth) env') ∧
    ∀ (depth deeper : Nat) (hook : Hook) (given : List Value) (v : Value), depth ≤ deeper →
      callHookAt opts deeper hook given = .ok v → callHookAt opts depth hook given = .ok v := by
  refine ⟨fun e env env' h => Expr.eval_agree _ e h, ?_, ?_⟩
  · intro depth env env' callee callee' args args' hook given hcallee hcallee' hargs hargs'
    rw [Expr.eval_call _ hcallee hargs, Expr.eval_call _ hcallee' hargs']
  · intro depth deeper hook given v hdepth hcall
    exact callHookAt_of_shallower opts hdepth hook given v hcall

section Sample

/-- Gives back its argument, and a secret that it cannot see. -/
def peek : Hook := ⟨"peek", "given", [.ret (.array [.ident "given", .ident "secret"])]⟩

/-- Hands the secret, which it cannot see either, to a hook in its argument. -/
def courier : Hook := ⟨"courier", "input", [.ret (.call (.member (.ident "input") "next") [.ident "secret"])]⟩

def courierCall : Expr := .call (.ident "courier") [.object [("next", .ident "peek")]]

def insider : Env :=
  ((Env.empty.extend "secret" (.str "key")).extend "peek" (.function peek)).extend "courier" (.function courier)

def outsider : Env :=
  (Env.withParams [("courier", .function courier), ("peek", .function peek)]).setSlotField Slot.context "secret" (.str "door")

/-- The call mentions both hooks but not the secret, so that it gives the same in both environments, although the secrets differ; and a
hook that one finds as a local binding and the other as a parameter answers both alike. -/
theorem courierCall_sees_no_secret :
    courierCall.names = ["courier", "peek"] ∧
    (∀ name ∈ courierCall.names, insider.resolve? name Scope.defaultOrder = outsider.resolve? name Scope.defaultOrder) ∧
    evaluate {} insider (.ident "secret") = .ok (.str "key") ∧ evaluate {} outsider (.ident "secret") = .ok (.str "door") ∧
    evaluate {} insider courierCall = .ok (.array [.null, .null]) ∧ evaluate {} insider courierCall = evaluate {} outsider courierCall ∧
    (Expr.call (.ident "peek") [.str "note"]).eval {} (callHookAt {} 2) insider =
      (Expr.call (.member (.ident "params") "peek") [.str "note"]).eval {} (callHookAt {} 2) outsider ∧
    callHookAt {} 1 peek [.str "note"] = .ok (.array [.str "note", .null]) := by
  have hagree : ∀ name ∈ courierCall.names,
      insider.resolve? name Scope.defaultOrder = outsider.resolve? name Scope.defaultOrder := by
    rw [show courierCall.names = ["courier", "peek"] from rfl]
    exact List.forall_mem_cons.2 ⟨rfl, List.forall_mem_cons.2 ⟨rfl, fun _ h => absurd h List.not_mem_nil⟩⟩
  obtain ⟨hnames, hcalls, hdepth⟩ := evaluation_sees_mentioned_names {}
  exact ⟨rfl, hagree, rfl, rfl, rfl, hnames _ _ _ hagree, hcalls 2 _ _ _ _ _ _ peek [.str "note"] rfl rfl rfl rfl,
    hdepth 1 2 peek _ _ (by decide) rfl⟩

end Sample

end PromptLang
