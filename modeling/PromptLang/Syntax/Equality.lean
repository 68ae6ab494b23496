import PromptLang.Syntax.Stmt

/-! Equality of expressions, statements and hooks: the same shape with equal leaves, where numbers are compared as numbers.
So `0` equals `-0`, and code that holds a NaN does not equal itself. -/

namespace PromptLang

mutual

def Expr.same : Expr → Expr → Bool
  | .ident a, .ident b => a == b
  | .str a, .str b => a == b
  | .num x, .num y => x == y
  | .bool a, .bool b => a == b
  | .null, .null => true
  | .array xs, .array ys => Expr.sameList xs ys
  | .object xs, .object ys => Expr.sameMembers xs ys
  | .binary op l r, .binary op' l' r' => op == op' && l.same l' && r.same r'
  | .logical op l r, .logical op' l' r' => op == op' && l.same l' && r.same r'
  | .unary op e, .unary op' e' => op == op' && e.same e'
  | .member e name, .member e' name' => e.same e' && name == name'
  | .index e key, .index e' key' => e.same e' && key.same key'
  | .call f args, .call f' args' => f.same f' && Expr.sameList args args'
  | _, _ => false
termination_by structural e => e

def Expr.sameList : List Expr → List Expr → Bool
  | [], [] => true
  | x :: xs, y :: ys => x.same y && Expr.sameList xs ys
  | _, _ => false
termination_by structural es => es

def Expr.sameMembers : List (String × Expr) → List (String × Expr) → Bool
  | [], [] => true
  | (k, x) :: xs, (k', y) :: ys => k == k' && x.same y && Expr.sameMembers xs ys
  | _, _ => false
termination_by structural es => es

end

def Segment.same : Segment → Segment → Bool
  | .text a, .text b => a == b
  | .hole a, .hole b => a.same b
  | _, _ => false

def Template.same : Template → Template → Bool
  | [], [] => true
  | a :: as, b :: bs => a.same b && Template.same as bs
  | _, _ => false

mutual

def Stmt.same : Stmt → Stmt → Bool
  | .text a, .text b => Template.same a b
  | .code lang a, .code lang' b => lang == lang' && Template.same a b
  | .image s a, .image s' a' => s.same s' && a.same a'
  | .ifThen c yes, .ifThen c' yes' => c.same c' && Stmt.sameBlock yes yes'
  | .ifElse c yes no, .ifElse c' yes' no' =>
    c.same c' && Stmt.sameBlock yes yes' && Stmt.sameBlock no no'
  | .forEach b e body, .forEach b' e' body' => b == b' && e.same e' && Stmt.sameBlock body body'
  | .use p args, .use p' args' => p == p' && Expr.sameMembers args args'
  | .assign t v, .assign t' v' => t.same t' && v.same v'
  | .ret e, .ret e' => e.same e'
  | .expr e, .expr e' => e.same e'
  | _, _ => false
termination_by structural s => s

def Stmt.sameBlock : List Stmt → List Stmt → Bool
  | [], [] => true
  | x :: xs, y :: ys => x.same y && Stmt.sameBlock xs ys
  | _, _ => false
termination_by structural ss => ss

end

def Hook.same (a b : Hook) : Bool :=
  a.name == b.name && a.param == b.param && Stmt.sameBlock a.body b.body

end PromptLang
