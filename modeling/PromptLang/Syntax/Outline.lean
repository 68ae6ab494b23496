import PromptLang.Syntax.Expr
import PromptLang.Number.Layout
import PromptLang.Text.Quoted

/-! Expressions spelled out node by node, as messages about misplaced expressions show them. -/

namespace PromptLang.Expr

def commaSeparated (parts : List String) : String := String.intercalate ", " parts

def node (name : String) (fields : List (String × String)) : String :=
  name ++ " \x7b " ++ commaSeparated (fields.map fun (field, text) => field ++ ": " ++ text) ++ " \x7d"

mutual

def outline : Expr → String
  | .ident name => "Identifier(" ++ Text.quoted name ++ ")"
  | .str s => "String(" ++ Text.quoted s ++ ")"
  | .num x => "Number(" ++ Number.Layout.source.write x ++ ")"
  | .bool b => "Boolean(" ++ toString b ++ ")"
  | .null => "Null"
  | .array items =>
    "Array(" ++ node "ExprArray" [("elements", "[" ++ commaSeparated (outlineList items) ++ "]")] ++ ")"
  | .object members =>
    "Object(" ++ node "ExprObject" [("properties", "[" ++ commaSeparated (outlineMembers members) ++ "]")] ++ ")"
  | .binary op l r =>
    "Binary(" ++ node "ExprBinary" [("op", op.name), ("lhs", outline l), ("rhs", outline r)] ++ ")"
  | .logical op l r =>
    "Logical(" ++ node "ExprLogical" [("op", op.name), ("lhs", outline l), ("rhs", outline r)] ++ ")"
  | .unary op e => "Unary(" ++ node "ExprUnary" [("op", op.name), ("operand", outline e)] ++ ")"
  | .member e name =>
    "Member(" ++ node "ExprMember"
      [("object", outline e), ("property", "Named(" ++ Text.quoted name ++ ")")] ++ ")"
  | .index e key =>
    "Member(" ++ node "ExprMember"
      [("object", outline e), ("property", "Computed(" ++ outline key ++ ")")] ++ ")"
  | .call f args =>
    "Call(" ++ node "ExprCall"
      [("callee", outline f), ("args", "[" ++ commaSeparated (outlineList args) ++ "]")] ++ ")"
termination_by structural e => e

def outlineList : List Expr → List String
  | [] => []
  | e :: es => outline e :: outlineList es
termination_by structural es => es

def outlineMembers : List (String × Expr) → List String
  | [] => []
  | (key, e) :: es =>
    node "ObjectProperty" [("key", Text.quoted key), ("value", outline e)] :: outlineMembers es
termination_by structural es => es

end

end PromptLang.Expr
