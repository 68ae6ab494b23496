import PromptLang.Eval.Operator
import PromptLang.Options

/-! Evaluation of expressions. Operands are evaluated from left to right. How a hook is called is a parameter, so that evaluation
follows the expression and the nesting of hook calls is bounded where calls are made. -/

namespace PromptLang

abbrev Caller := Hook → List Value → Except Error Value

def resolveIdent (opts : Options) (env : Env) (name : String) : Except Error Value :=
  match env.resolve? name opts.resolutionOrder with
  | some v => .ok v
  | none => if opts.strictIdentifiers then .error (.unresolvedIdentifier name) else .ok .null

mutual

def Expr.eval (opts : Options) (call : Caller) (env : Env) : Expr → Except Error Value
  | .ident name => resolveIdent opts env name
  | .str s => .ok (.str s)
  | .num x => .ok (.num x)
  | .bool b => .ok (.bool b)
  | .null => .ok .null
  | .array items => do
    let vs ← Expr.evalList opts call env items
    return .array vs
  | .object members => do
    let kvs ← Expr.evalMembers opts call env members
    return .object (Entries.ofList kvs)
  | .binary op left right => do
    let l ← left.eval opts call env
    let r ← right.eval opts call env
    op.apply l r
  | .logical op left right => do
    let l ← left.eval opts call env
    if op.decided l then return l else right.eval opts call env
  | .unary op operand => do
    let v ← operand.eval opts call env
    op.apply v
  | .member target name => do
    let v ← target.eval opts call env
    return v.member name
  | .index target key => do
    let v ← target.eval opts call env
    let k ← key.eval opts call env
    return v.index k
  | .call callee args => do
    let f ← callee.eval opts call env
    match f with
    | .function hook =>
      let vs ← Expr.evalList opts call env args
      call hook vs
    | other => .error (.notCallable (callee.root?.getD "expression") other.kind)
termination_by structural e => e

def Expr.evalList (opts : Options) (call : Caller) (env : Env) : List Expr → Except Error (List Value)
  | [] => .ok []
  | e :: es => do
    let v ← e.eval opts call env
    let vs ← Expr.evalList opts call env es
    return v :: vs
termination_by structural es => es

def Expr.evalMembers (opts : Options) (call : Caller) (env : Env) :
    List (String × Expr) → Except Error (List (String × Value))
  | [] => .ok []
  | (key, e) :: es => do
    let v ← e.eval opts call env
    let kvs ← Expr.evalMembers opts call env es
    return (key, v) :: kvs
termination_by structural es => es

end

/-- A template with its holes filled by the texts of their values. -/
def Template.render (opts : Options) (call : Caller) (env : Env) : Template → Except Error String
  | [] => .ok ""
  | .text s :: rest => do
    let t ← Template.render opts call env rest
    return s ++ t
  | .hole e :: rest => do
    let v ← e.eval opts call env
    let t ← Template.render opts call env rest
    return v.text ++ t

end PromptLang
