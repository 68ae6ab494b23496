/-! The operators of the expression language, with their symbols and their names. -/

namespace PromptLang

inductive BinaryOp where
  | add | sub | mul | div | mod
  | eq | ne | lt | gt | le | ge
deriving DecidableEq, Repr

inductive LogicalOp where
  | and | or
deriving DecidableEq, Repr

inductive UnaryOp where
  | not | neg
deriving DecidableEq, Repr

namespace BinaryOp

def all : List BinaryOp := [add, sub, mul, div, mod, eq, ne, lt, gt, le, ge]

def symbol : BinaryOp → String
  | add => "+" | sub => "-" | mul => "*" | div => "/" | mod => "%"
  | eq => "==" | ne => "!=" | lt => "<" | gt => ">" | le => "<=" | ge => ">="

def name : BinaryOp → String
  | add => "Add" | sub => "Sub" | mul => "Mul" | div => "Div" | mod => "Mod"
  | eq => "Eq" | ne => "Ne" | lt => "Lt" | gt => "Gt" | le => "Le" | ge => "Ge"

def ofName? (s : String) : Option BinaryOp := all.find? (·.name = s)

/-- Equality and order, whose result is a truth value. -/
def isComparison : BinaryOp → Bool
  | eq | ne | lt | gt | le | ge => true
  | _ => false

def isArithmetic : BinaryOp → Bool
  | sub | mul | div | mod => true
  | _ => false

theorem ofName?_name (op : BinaryOp) : ofName? op.name = some op := by cases op <;> decide

end BinaryOp

namespace LogicalOp

def symbol : LogicalOp → String
  | and => "&&" | or => "||"

def name : LogicalOp → String
  | and => "And" | or => "Or"

def ofName? (s : String) : Option LogicalOp := [and, or].find? (·.name = s)

theorem ofName?_name (op : LogicalOp) : ofName? op.name = some op := by cases op <;> decide

end LogicalOp

namespace UnaryOp

def symbol : UnaryOp → String
  | not => "!" | neg => "-"

def name : UnaryOp → String
  | not => "Not" | neg => "Neg"

def ofName? (s : String) : Option UnaryOp := [not, neg].find? (·.name = s)

theorem ofName?_name (op : UnaryOp) : ofName? op.name = some op := by cases op <;> decide

end UnaryOp

end PromptLang
