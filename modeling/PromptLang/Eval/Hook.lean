import PromptLang.Eval.Assign

/-! Running hooks. A hook sees only its argument, may assign, branch and loop, and answers the value of the first `return` it
meets. Calls nest up to a limit: the number of levels that are left is what the recursion runs on. -/

namespace PromptLang

/-- The environment after some statements, and the value if one of them returned. -/
abbrev HookResult := Env × Option Value

def loopItems (binding : String) : Value → Except Error (List Value)
  | .array items => .ok items
  | other => .error (.mismatch (.loop binding other.kind))

/-- Runs a loop body for each item in a child environment, until one returns. -/
def hookLoop (body : Env → Except Error HookResult) (binding : String) :
    List Value → Env → Except Error HookResult
  | [], env => .ok (env, none)
  | item :: rest, env => do
    let (inner, returned?) ← body (env.extend binding item)
    match returned? with
    | some v => return (inner.parent, some v)
    | none => hookLoop body binding rest inner.parent

mutual

def Stmt.runInHook (opts : Options) (call : Caller) (hook : String) : Stmt → Env → Except Error HookResult
  | .assign target value, env => do
    let v ← value.eval opts call env
    let env ← assignTarget opts call env target v
    return (env, none)
  | .ret value, env => do
    let v ← value.eval opts call env
    return (env, some v)
  | .expr e, env => do
    let _ ← e.eval opts call env
    return (env, none)
  | .ifThen condition yes, env => do
    let c ← condition.eval opts call env
    if c.isTruthy then Stmt.runBlockInHook opts call hook yes env else return (env, none)
  | .ifElse condition yes no, env => do
    let c ← condition.eval opts call env
    if c.isTruthy then Stmt.runBlockInHook opts call hook yes env
    else Stmt.runBlockInHook opts call hook no env
  | .forEach binding iterable body, env => do
    let v ← iterable.eval opts call env
    let items ← loopItems binding v
    hookLoop (fun env => Stmt.runBlockInHook opts call hook body env) binding items env
  | .text template, _ => .error (.invalid (.notInHook (.text template) hook))
  | .code language content, _ => .error (.invalid (.notInHook (.code language content) hook))
  | .image source alt, _ => .error (.invalid (.notInHook (.image source alt) hook))
  | .use prompt args, _ => .error (.invalid (.notInHook (.use prompt args) hook))
termination_by structural s => s

def Stmt.runBlockInHook (opts : Options) (call : Caller) (hook : String) :
    List Stmt → Env → Except Error HookResult
  | [], env => .ok (env, none)
  | s :: rest, env => do
    let (env, returned?) ← Stmt.runInHook opts call hook s env
    match returned? with
    | some v => return (env, some v)
    | none => Stmt.runBlockInHook opts call hook rest env
termination_by structural ss => ss

end

/-- Calls a hook with `levels` levels of calls left, this one included. A hook that does not return gives null. -/
def callHook (opts : Options) : Nat → Caller
  | 0, hook, _ => .error (.depthExceeded (.hookCalls hook.name) opts.maxHookDepth)
  | levels + 1, hook, args =>
    if 1 < args.length then .error (.invalid (.hookArity hook.name args.length))
    else do
      let env := Env.empty.extend hook.param (args.head?.getD .null)
      let (_, returned?) ← Stmt.runBlockInHook opts (callHook opts levels) hook.name hook.body env
      return returned?.getD .null

/-- Calls a hook as the call at a given depth of nesting, counted from 1. -/
def callHookAt (opts : Options) (depth : Nat) : Caller := callHook opts (opts.maxHookDepth + 1 - depth)

def evaluate (opts : Options) (env : Env) (e : Expr) : Except Error Value :=
  e.eval opts (callHookAt opts 1) env

def renderTemplate (opts : Options) (env : Env) (t : Template) : Except Error String :=
  t.render opts (callHookAt opts 1) env

end PromptLang
