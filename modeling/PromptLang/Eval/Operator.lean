import PromptLang.Error
import PromptLang.Value.Equality
import PromptLang.Value.Text

/-! What the operators do with values. There is no conversion between kinds except that `+` joins a text with a number. -/

namespace PromptLang

def unsupported (op : BinaryOp) (left right : Value) : Error :=
  .mismatch (.operands op left.kind right.kind)

def addValues : Value → Value → Except Error Value
  | .num x, .num y => .ok (.num (x + y))
  | .str s, .str t => .ok (.str (s ++ t))
  | .str s, .num y => .ok (.str (s ++ Number.text y))
  | .num x, .str t => .ok (.str (Number.text x ++ t))
  | l, r => .error (unsupported .add l r)

def onNumbers (op : BinaryOp) (f : Float → Float → Except Error Float) : Value → Value → Except Error Value
  | .num x, .num y => (f x y).map .num
  | l, r => .error (unsupported op l r)

def divide (op : BinaryOp) (f : Float → Float → Float) (x y : Float) : Except Error Float :=
  if y == 0 then .error (.divisionByZero op) else .ok (f x y)

/-- Numbers and texts are ordered among themselves. A NaN is neither above nor below anything. -/
def order (op : BinaryOp) (onNums : Float → Float → Bool) (onTexts : String → String → Bool) :
    Value → Value → Except Error Value
  | .num x, .num y => .ok (.bool (onNums x y))
  | .str s, .str t => .ok (.bool (onTexts s t))
  | l, r => .error (unsupported op l r)

def BinaryOp.apply (op : BinaryOp) (l r : Value) : Except Error Value :=
  match op with
  | .add => addValues l r
  | .sub => onNumbers .sub (fun x y => .ok (x - y)) l r
  | .mul => onNumbers .mul (fun x y => .ok (x * y)) l r
  | .div => onNumbers .div (divide .div (· / ·)) l r
  | .mod => onNumbers .mod (divide .mod Number.remainder) l r
  | .eq => .ok (.bool (l.same r))
  | .ne => .ok (.bool (!l.same r))
  | .lt => order .lt (fun x y => x < y) (fun s t => s < t) l r
  | .gt => order .gt (fun x y => y < x) (fun s t => t < s) l r
  | .le => order .le (fun x y => x ≤ y) (fun s t => !(t < s)) l r
  | .ge => order .ge (fun x y => y ≤ x) (fun s t => !(s < t)) l r

/-- Does the left operand alone decide? -/
def LogicalOp.decided (op : LogicalOp) (left : Value) : Bool :=
  match op with
  | .and => !left.isTruthy
  | .or => left.isTruthy

def UnaryOp.apply : UnaryOp → Value → Except Error Value
  | .not, v => .ok (.bool (!v.isTruthy))
  | .neg, .num x => .ok (.num (-x))
  | .neg, v => .error (.mismatch (.negation v.kind))

end PromptLang
