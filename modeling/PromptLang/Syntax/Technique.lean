import PromptLang.Syntax.Stmt

/-! Reasoning techniques. Four of them hold blocks of statements; the others are driven by named settings. -/

namespace PromptLang

structure Field where
  name : String
  value : Expr
deriving Inhabited

/-- Techniques whose settings are fields. -/
inductive Method where
  | zeroShot | selfConsistency | treeOfThoughts | activePrompting | reflection
  | expertPrompting | ape | autoCot | art
deriving DecidableEq, Repr

inductive Technique where
  | chainOfThought (steps : List (String × Block))
  | fewShot (examples : List (Block × Block))
  | reWOO (planner worker solver : Block)
  | reAct (observation thought action : Block)
  | byFields (method : Method) (fields : List Field)
deriving Inhabited

namespace Method

def all : List Method :=
  [zeroShot, selfConsistency, treeOfThoughts, activePrompting, reflection, expertPrompting, ape, autoCot, art]

def kind : Method → String
  | zeroShot => "zeroShot"
  | selfConsistency => "selfConsistency"
  | treeOfThoughts => "treeOfThoughts"
  | activePrompting => "activePrompting"
  | reflection => "reflection"
  | expertPrompting => "expertPrompting"
  | ape => "ape"
  | autoCot => "autoCot"
  | art => "art"

def ofKind? (s : String) : Option Method := all.find? (·.kind = s)

theorem ofKind?_kind (m : Method) : ofKind? m.kind = some m := by cases m <;> decide

end Method

namespace Technique

def kind : Technique → String
  | chainOfThought _ => "chainOfThought"
  | fewShot _ => "fewShot"
  | reWOO .. => "reWOO"
  | reAct .. => "reAct"
  | byFields method _ => method.kind

/-- Kinds that hold blocks and take no fields. -/
def blockKinds : List String := ["chainOfThought", "fewShot", "reWOO", "reAct"]

end Technique

def findField? (name : String) (fields : List Field) : Option Expr :=
  (fields.reverse.find? (·.name = name)).map Field.value

end PromptLang
