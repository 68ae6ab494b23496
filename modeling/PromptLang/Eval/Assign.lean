import PromptLang.Eval.Expr
import PromptLang.Value.Path

/-! Assignment to an identifier or to a chain of member accesses on one. Computed keys are evaluated from the last to the first. -/

namespace PromptLang

/-- Positions in paths are 64-bit words; a larger one is cut to the greatest of them. -/
def maxPosition : Nat := word64 - 1

def stepOf : Value → Except Error Step
  | .str name => .ok (.key name)
  | .num x =>
    match Value.position? x with
    | some i => .ok (.index (min i maxPosition))
    | none => .error (.mismatch (.noIndex .number))
  | other => .error (.mismatch (.noIndex other.kind))

/-- The root name of a target and the path below it. `whole` is the target that a failure reports. -/
def Expr.targetPath (opts : Options) (call : Caller) (env : Env) (whole : Expr) :
    Expr → Except Error (String × List Step)
  | .ident name => .ok (name, [])
  | .member target name => do
    let (root, path) ← Expr.targetPath opts call env whole target
    return (root, path ++ [.key name])
  | .index target key => do
    let k ← key.eval opts call env
    let step ← stepOf k
    let (root, path) ← Expr.targetPath opts call env whole target
    return (root, path ++ [step])
  | _ => .error (.invalid (.target whole))

/-- What a write below a name starts from: an absent or null value becomes an empty object. -/
def Env.writable (env : Env) (root : String) : Value :=
  match env.current? root with
  | none | some .null => .object []
  | some v => v

def Env.assignPath (env : Env) (root : String) (path : List Step) (value : Value) : Except Error Env :=
  if path.isEmpty then .ok (env.assign root value)
  else
    let written := Value.setPath value path (env.writable root)
    match written.error? with
    | none => .ok (env.assign root written.value)
    | some e => .error e

def assignTarget (opts : Options) (call : Caller) (env : Env) (target : Expr) (value : Value) :
    Except Error Env := do
  let (root, path) ← Expr.targetPath opts call env target target
  env.assignPath root path value

end PromptLang
