import PromptLang.Syntax.Expr

/-! Statements. Bodies, technique blocks and hooks share them, though hooks may not use those that produce text. -/

namespace PromptLang

/-- A part of a template: literal text, or a hole filled by an expression. -/
inductive Segment where
  | text (s : String)
  | hole (e : Expr)
deriving Inhabited

abbrev Template := List Segment

inductive Stmt where
  | text (template : Template)
  | code (language : String) (content : Template)
  | image (source alt : Expr)
  | ifThen (condition : Expr) (yes : List Stmt)
  | ifElse (condition : Expr) (yes no : List Stmt)
  | forEach (binding : String) (iterable : Expr) (body : List Stmt)
  /-- Runs another prompt with the given parameters and takes its output as text. -/
  | use (prompt : String) (args : List (String × Expr))
  | assign (target value : Expr)
  | ret (value : Expr)
  | expr (e : Expr)
deriving Inhabited

abbrev Block := List Stmt

namespace Stmt

def describe : Stmt → String
  | text _ => "text block"
  | code .. => "code block"
  | image .. => "image block"
  | ifThen .. | ifElse .. => "if statement"
  | forEach .. => "for loop"
  | use .. => "use statement"
  | assign .. => "assignment"
  | ret _ => "return statement"
  | expr _ => "expression statement"

/-- Statements that only make sense where text is assembled. -/
def isBodyOnly : Stmt → Bool
  | text _ | code .. | image .. | use .. => true
  | _ => false

end Stmt

/-- A named block with one formal parameter. It carries nothing else: all it reads arrives through its argument. -/
structure Hook where
  name : String
  param : String
  body : Block
deriving Inhabited

end PromptLang
