import PromptLang.Syntax.Operator
import PromptLang.Text.Basic

/-! Expressions. They read the environment and call hooks; there is no expression that writes. -/

namespace PromptLang

inductive Expr where
  | ident (name : String)
  | str (s : String)
  | num (x : Float)
  | bool (b : Bool)
  | null
  | array (items : List Expr)
  /-- Members in document order; of a repeated key the last value counts. -/
  | object (members : List (String × Expr))
  | binary (op : BinaryOp) (left right : Expr)
  | logical (op : LogicalOp) (left right : Expr)
  | unary (op : UnaryOp) (operand : Expr)
  /-- Member access, `target.name`. -/
  | member (target : Expr) (name : String)
  /-- Computed access, `target[key]`. -/
  | index (target key : Expr)
  | call (callee : Expr) (args : List Expr)
deriving Inhabited

namespace Expr

/-- The identifier at the root of a chain of member accesses. -/
def root? : Expr → Option String
  | ident name => some name
  | member target _ => root? target
  | index target _ => root? target
  | _ => none

/-- The chain `a.b.c` as an identifier followed by member accesses. -/
def path (dotted : String) : Expr :=
  match (Text.pieces (· = '.') dotted.toList).map String.ofList with
  | [] => ident ""
  | root :: names => names.foldl member (ident root)

def isComputed? : Expr → Option Bool
  | member .. => some false
  | index .. => some true
  | _ => none

end Expr

end PromptLang
