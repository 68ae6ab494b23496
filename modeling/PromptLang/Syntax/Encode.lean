import PromptLang.Syntax.Decode

/-! Programs as JSON trees, in the form that decoding reads: all record fields present, an absent part as null. -/

namespace PromptLang

open Json

mutual

def Expr.encode : Expr → Json
  | .ident name => tag "Identifier" (.string name)
  | .str s => tag "String" (.string s)
  | .num x => tag "Number" (ofFloat x)
  | .bool b => tag "Boolean" (.bool b)
  | .null => .string "Null"
  | .array items => tag "Array" (.object [("elements", .array (Expr.encodeList items))])
  | .object members => tag "Object" (.object [("properties", .array (Expr.encodeMembers members))])
  | .binary op l r =>
    tag "Binary" (.object [("op", .string op.name), ("lhs", l.encode), ("rhs", r.encode)])
  | .logical op l r =>
    tag "Logical" (.object [("op", .string op.name), ("lhs", l.encode), ("rhs", r.encode)])
  | .unary op e => tag "Unary" (.object [("op", .string op.name), ("operand", e.encode)])
  | .member e name =>
    tag "Member" (.object [("object", e.encode), ("property", tag "Named" (.string name))])
  | .index e key => tag "Member" (.object [("object", e.encode), ("property", tag "Computed" key.encode)])
  | .call f args => tag "Call" (.object [("callee", f.encode), ("args", .array (Expr.encodeList args))])
termination_by structural e => e

def Expr.encodeList : List Expr → List Json
  | [] => []
  | e :: es => e.encode :: Expr.encodeList es
termination_by structural es => es

def Expr.encodeMembers : List (String × Expr) → List Json
  | [] => []
  | (key, e) :: es => .object [("key", .string key), ("value", e.encode)] :: Expr.encodeMembers es
termination_by structural es => es

end

def encodeNamed (name : String) (value : Expr) : Json :=
  .object [("name", .string name), ("value", value.encode)]

def Segment.encode : Segment → Json
  | .text s => tag "Text" (.string s)
  | .hole e => tag "Interpolation" e.encode

def Template.encode (t : Template) : Json := .object [("parts", .array (t.map Segment.encode))]

mutual

def Stmt.encode : Stmt → Json
  | .text template => tag "Text" (.object [("template", Template.encode template)])
  | .code language content =>
    tag "Code" (.object [("language", .string language), ("content", Template.encode content)])
  | .image source alt => tag "Image" (.object [("src", source.encode), ("alt", alt.encode)])
  | .ifThen condition yes =>
    tag "If" (.object [("cond", condition.encode), ("then", .array (Stmt.encodeBlock yes)), ("elze", .null)])
  | .ifElse condition yes no =>
    tag "If" (.object [("cond", condition.encode), ("then", .array (Stmt.encodeBlock yes)),
      ("elze", .array (Stmt.encodeBlock no))])
  | .forEach binding iterable body =>
    tag "For" (.object [("binding", .string binding), ("iterable", iterable.encode),
      ("body", .array (Stmt.encodeBlock body))])
  | .use prompt args =>
    tag "Use" (.object [("prompt", .string prompt),
      ("args", .array (args.map fun (name, value) => encodeNamed name value))])
  | .assign target value => tag "Assign" (.object [("target", target.encode), ("value", value.encode)])
  | .ret value => tag "Return" (.object [("value", value.encode)])
  | .expr e => tag "Expr" e.encode
termination_by structural s => s

def Stmt.encodeBlock : List Stmt → List Json
  | [] => []
  | s :: ss => s.encode :: Stmt.encodeBlock ss
termination_by structural ss => ss

end

def Block.encode (b : Block) : Json := .array (Stmt.encodeBlock b)

def Field.encode (f : Field) : Json := encodeNamed f.name f.value

def encodeFields (fields : List Field) : Json := .array (fields.map Field.encode)

def ParamType.encode (t : ParamType) : Json :=
  .object [("base", .string t.base.name), ("array", .bool t.isArray), ("optional", .bool t.isOptional)]

def ParamDecl.encode (d : ParamDecl) : Json :=
  .object [("name", .string d.name), ("ty", d.type.encode),
    ("default", match d.default? with
      | some e => e.encode
      | none => .null)]

def Hook.encode (h : Hook) : Json :=
  .object [("name", .string h.name), ("param", .string h.param), ("body", Block.encode h.body)]

def Technique.encode : Technique → Json
  | .chainOfThought steps =>
    tag "ChainOfThought" (.array (steps.map fun (name, block) =>
      .object [("name", .string name), ("block", Block.encode block)]))
  | .fewShot examples =>
    tag "FewShot" (.array (examples.map fun (input, output) =>
      .object [("input", Block.encode input), ("output", Block.encode output)]))
  | .reWOO planner worker solver =>
    tag "ReWOO" (.object [("planner", Block.encode planner), ("worker", Block.encode worker),
      ("solver", Block.encode solver)])
  | .reAct observation thought action =>
    tag "ReAct" (.object [("observation", Block.encode observation), ("thought", Block.encode thought),
      ("action", Block.encode action)])
  | .byFields method fields => tag method.tag (.object [("fields", encodeFields fields)])

def Section.encode : Section → Json
  | .metadata fields => tag "Meta" (encodeFields fields)
  | .context fields => tag "Context" (encodeFields fields)
  | .params decls => tag "Params" (.array (decls.map ParamDecl.encode))
  | .body block => tag "Body" (Block.encode block)
  | .constraints fields => tag "Constraints" (encodeFields fields)
  | .output fields => tag "Output" (encodeFields fields)
  | .hooks list => tag "Hooks" (.array (list.map Hook.encode))
  | .technique list => tag "Technique" (.array (list.map Technique.encode))

def Prompt.encode (p : Prompt) : Json :=
  .object [("name", .string p.name), ("sections", .array (p.sections.map Section.encode))]

def Program.encode (p : Program) : Json := .object [("prompts", .array (p.prompts.map Prompt.encode))]

end PromptLang
