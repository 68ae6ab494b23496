import PromptLang.Syntax.Technique

/-! Prompts and programs. A prompt is a list of sections of eight kinds, which run in the order of the kinds. -/

namespace PromptLang

inductive BaseType where
  | string | number | boolean | array | object
deriving DecidableEq, Repr

namespace BaseType

def word : BaseType → String
  | string => "string"
  | number => "number"
  | boolean => "boolean"
  | array => "array"
  | object => "object"

def name : BaseType → String
  | string => "String"
  | number => "Number"
  | boolean => "Boolean"
  | array => "Array"
  | object => "Object"

def ofName? (s : String) : Option BaseType :=
  [string, number, boolean, array, object].find? (·.name = s)

theorem ofName?_name (t : BaseType) : ofName? t.name = some t := by cases t <;> decide

end BaseType

/-- The declared type of a parameter, such as `string`, `number[]` or `object?`. -/
structure ParamType where
  base : BaseType
  isArray : Bool
  isOptional : Bool
deriving DecidableEq, Repr

def ParamType.text (t : ParamType) : String :=
  t.base.word ++ (if t.isArray then "[]" else "") ++ (if t.isOptional then "?" else "")

structure ParamDecl where
  name : String
  type : ParamType
  default? : Option Expr

inductive Section where
  | metadata (fields : List Field)
  | context (fields : List Field)
  | params (decls : List ParamDecl)
  | body (block : Block)
  | constraints (fields : List Field)
  | output (fields : List Field)
  | hooks (hooks : List Hook)
  | technique (techniques : List Technique)

/-- Listed in the order of execution. -/
inductive SectionKind where
  | metadata | context | params | body | constraints | output | hooks | technique
deriving DecidableEq, Repr

namespace SectionKind

def name : SectionKind → String
  | metadata => "meta"
  | context => "context"
  | params => "params"
  | body => "body"
  | constraints => "constraints"
  | output => "output"
  | hooks => "hooks"
  | technique => "technique"

def rank : SectionKind → Nat
  | metadata => 0
  | context => 1
  | params => 2
  | body => 3
  | constraints => 4
  | output => 5
  | hooks => 6
  | technique => 7

end SectionKind

def Section.kind : Section → SectionKind
  | .metadata _ => .metadata
  | .context _ => .context
  | .params _ => .params
  | .body _ => .body
  | .constraints _ => .constraints
  | .output _ => .output
  | .hooks _ => .hooks
  | .technique _ => .technique

def Section.rank (s : Section) : Nat := s.kind.rank

def Section.declaredHooks : Section → List Hook
  | .hooks list => list
  | _ => []

structure Prompt where
  name : String
  sections : List Section

namespace Prompt

/-- Sections in the order of execution; those of one kind keep their order. -/
def ordered (p : Prompt) : List Section := p.sections.mergeSort fun a b => a.rank ≤ b.rank

theorem ordered_of_sorted {p : Prompt} (h : p.sections.Pairwise fun a b => a.rank ≤ b.rank) : p.ordered = p.sections := by
  apply List.mergeSort_of_pairwise
  simpa using h

def allHooks (p : Prompt) : List Hook := p.sections.flatMap Section.declaredHooks

/-- The last hook of a name. -/
def hook? (p : Prompt) (name : String) : Option Hook := p.allHooks.reverse.find? (·.name = name)

end Prompt

structure Program where
  prompts : List Prompt

namespace Program

def entry? (p : Program) : Option Prompt := p.prompts.head?

def prompt? (p : Program) (name : String) : Option Prompt := p.prompts.reverse.find? (·.name = name)

end Program

end PromptLang
