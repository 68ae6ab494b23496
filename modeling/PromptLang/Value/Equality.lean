import PromptLang.Syntax.Equality
import PromptLang.Value.Basic

/-! Equality of values, as `==` and vote counting use it. Objects are equal whatever the order of their members, hooks are equal
when their code is, and a NaN equals nothing. -/

namespace PromptLang.Value

mutual

def same : Value → Value → Bool
  | .str a, .str b => a == b
  | .num x, .num y => x == y
  | .bool a, .bool b => a == b
  | .null, .null => true
  | .array xs, .array ys => sameList xs ys
  | .object xs, .object ys => xs.length == ys.length && sameMembers xs ys
  | .function f, .function g => f.same g
  | _, _ => false
termination_by structural v => v

def sameList : List Value → List Value → Bool
  | [], [] => true
  | x :: xs, y :: ys => same x y && sameList xs ys
  | _, _ => false
termination_by structural vs => vs

def sameMembers : List (String × Value) → Entries Value → Bool
  | [], _ => true
  | (key, x) :: xs, ys =>
    (match ys.get? key with
      | some y => same x y
      | none => false) && sameMembers xs ys
termination_by structural ms => ms

end

end PromptLang.Value
