import PromptLang.Eval.Hook
import PromptLang.Run

/-! Running blocks of statements for the text they produce. How a `use` finds another prompt and runs it is a parameter. -/

namespace PromptLang

/-- Finds a prompt by name; what is found runs on parameters and gives a text. -/
abbrev Resolver := String → Except Error (Entries Value → Run String)

/-- Runs a loop body for each item in a child environment and joins the texts. -/
def bodyLoop (body : Env → Run (String × Env)) (binding : String) : List Value → Env → Run (String × Env)
  | [], env => pure ("", env)
  | item :: rest, env => do
    let (text, inner) ← body (env.extend binding item)
    let (texts, env) ← bodyLoop body binding rest inner.parent
    return (text ++ texts, env)

mutual

def Stmt.run (opts : Options) (resolve : Resolver) : Stmt → Env → Run (String × Env)
  | .text template, env => do
    let text ← renderTemplate opts env template
    return (text, env)
  | .code language content, env => do
    let text ← renderTemplate opts env content
    return ("```" ++ language ++ "\n" ++ text ++ "\n```\n", env)
  | .image source alt, env => do
    let src ← evaluate opts env source
    let alt ← evaluate opts env alt
    return ("![" ++ alt.text ++ "](" ++ src.text ++ ")", env)
  | .ifThen condition yes, env => do
    let c ← evaluate opts env condition
    if c.isTruthy then Stmt.runBlock opts resolve yes env else return ("", env)
  | .ifElse condition yes no, env => do
    let c ← evaluate opts env condition
    if c.isTruthy then Stmt.runBlock opts resolve yes env else Stmt.runBlock opts resolve no env
  | .forEach binding iterable body, env => do
    let v ← evaluate opts env iterable
    let items ← loopItems binding v
    bodyLoop (fun env => Stmt.runBlock opts resolve body env) binding items env
  | .use prompt args, env => do
    let runPrompt ← resolve prompt
    let params ← Expr.evalMembers opts (callHookAt opts 1) env args
    let text ← runPrompt (Entries.ofList params)
    return (text, env)
  | .assign target value, env => do
    let v ← evaluate opts env value
    let env ← assignTarget opts (callHookAt opts 1) env target v
    return ("", env)
  | .expr e, env => do
    let _ ← evaluate opts env e
    return ("", env)
  | .ret _, _ => Run.fail (.invalid .returnOutsideHook)
termination_by structural s => s

def Stmt.runBlock (opts : Options) (resolve : Resolver) : List Stmt → Env → Run (String × Env)
  | [], env => pure ("", env)
  | s :: rest, env => do
    let (out, env) ← Stmt.run opts resolve s env
    let (more, env) ← Stmt.runBlock opts resolve rest env
    return (out ++ more, env)
termination_by structural ss => ss

end

/-- The text of a block run in an environment of its own, whose changes are dropped. -/
def blockText (opts : Options) (resolve : Resolver) (block : Block) (env : Env) : Run String := do
  let (out, _) ← Stmt.runBlock opts resolve block env
  return out

end PromptLang
