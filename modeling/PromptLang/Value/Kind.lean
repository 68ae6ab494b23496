import PromptLang.Text.Quoted

/-! The kinds of values, and the steps by which a path goes into one. -/

namespace PromptLang

inductive ValueKind where
  | string | number | boolean | null | array | object | function
deriving DecidableEq, Repr

def ValueKind.name : ValueKind → String
  | string => "string"
  | number => "number"
  | boolean => "boolean"
  | null => "null"
  | array => "array"
  | object => "object"
  | function => "function"

/-- A step of a path: to the member of an object, or to an item of an array. -/
inductive Step where
  | key (name : String)
  | index (i : Nat)
deriving DecidableEq, Repr

def Step.text : Step → String
  | key name => "Key(" ++ Text.quoted name ++ ")"
  | index i => "Index(" ++ toString i ++ ")"

end PromptLang
