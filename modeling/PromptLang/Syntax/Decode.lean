import PromptLang.Json.Parts
import PromptLang.Syntax.Prompt

/-! Programs out of JSON trees. Nodes with alternatives are tagged values, the others records; unknown record fields are
skipped, and a null in the place of an optional part means that there is none. -/

namespace PromptLang

open Json

def Expr.decode? (j : Json) : Option Expr :=
  match j.tagged? with
  | some ("Null", none) => some .null
  | some ("Null", some ⟨.null, _⟩) => some .null
  | some ("Identifier", some ⟨.string name, _⟩) => some (.ident name)
  | some ("String", some ⟨.string s, _⟩) => some (.str s)
  | some ("Number", some ⟨.number x, _⟩) => some (.num x)
  | some ("Boolean", some ⟨.bool b, _⟩) => some (.bool b)
  | some ("Array", some ⟨body, _⟩) =>
    match body.parts? ["elements"] with
    | some [some ⟨elements, _⟩] => do
      let items ← elements.items?
      return .array (← items.mapM fun ⟨item, _⟩ => Expr.decode? item)
    | _ => none
  | some ("Object", some ⟨body, _⟩) =>
    match body.parts? ["properties"] with
    | some [some ⟨properties, _⟩] => do
      let items ← properties.items?
      let members ← items.mapM fun ⟨item, _⟩ =>
        match item.parts? ["key", "value"] with
        | some [some ⟨.string key, _⟩, some ⟨value, _⟩] => (Expr.decode? value).map fun e => (key, e)
        | _ => none
      return .object members
    | _ => none
  | some ("Binary", some ⟨body, _⟩) =>
    match body.parts? ["op", "lhs", "rhs"] with
    | some [some ⟨op, _⟩, some ⟨left, _⟩, some ⟨right, _⟩] => do
      let op ← op.bareTag? >>= BinaryOp.ofName?
      return .binary op (← Expr.decode? left) (← Expr.decode? right)
    | _ => none
  | some ("Logical", some ⟨body, _⟩) =>
    match body.parts? ["op", "lhs", "rhs"] with
    | some [some ⟨op, _⟩, some ⟨left, _⟩, some ⟨right, _⟩] => do
      let op ← op.bareTag? >>= LogicalOp.ofName?
      return .logical op (← Expr.decode? left) (← Expr.decode? right)
    | _ => none
  | some ("Unary", some ⟨body, _⟩) =>
    match body.parts? ["op", "operand"] with
    | some [some ⟨op, _⟩, some ⟨operand, _⟩] => do
      let op ← op.bareTag? >>= UnaryOp.ofName?
      return .unary op (← Expr.decode? operand)
    | _ => none
  | some ("Member", some ⟨body, _⟩) =>
    match body.parts? ["object", "property"] with
    | some [some ⟨target, _⟩, some ⟨property, _⟩] =>
      match property.tagged? with
      | some ("Named", some ⟨.string name, _⟩) => (Expr.decode? target).map fun e => .member e name
      | some ("Computed", some ⟨key, _⟩) => do
        return .index (← Expr.decode? target) (← Expr.decode? key)
      | _ => none
    | _ => none
  | some ("Call", some ⟨body, _⟩) =>
    match body.parts? ["callee", "args"] with
    | some [some ⟨callee, _⟩, some ⟨args, _⟩] => do
      let f ← Expr.decode? callee
      let items ← args.items?
      return .call f (← items.mapM fun ⟨item, _⟩ => Expr.decode? item)
    | _ => none
  | _ => none
termination_by sizeOf j

def decodeList? {α : Type} (decode? : Json → Option α) (j : Json) : Option (List α) := do
  let items ← j.items?
  items.mapM fun item => decode? item.1

def decodeNamed? (j : Json) : Option (String × Expr) :=
  match j.parts? ["name", "value"] with
  | some [some ⟨.string name, _⟩, some ⟨value, _⟩] => (Expr.decode? value).map fun e => (name, e)
  | _ => none

def Segment.decode? (j : Json) : Option Segment :=
  match j.tagged? with
  | some ("Text", some ⟨.string s, _⟩) => some (.text s)
  | some ("Interpolation", some ⟨e, _⟩) => (Expr.decode? e).map .hole
  | _ => none

def Template.decode? (j : Json) : Option Template :=
  match j.parts? ["parts"] with
  | some [some ⟨parts, _⟩] => decodeList? Segment.decode? parts
  | _ => none

def Stmt.decode? (j : Json) : Option Stmt :=
  match j.tagged? with
  | some ("Text", some ⟨body, _⟩) =>
    match body.parts? ["template"] with
    | some [some ⟨template, _⟩] => (Template.decode? template).map .text
    | _ => none
  | some ("Code", some ⟨body, _⟩) =>
    match body.parts? ["language", "content"] with
    | some [some ⟨.string language, _⟩, some ⟨content, _⟩] =>
      (Template.decode? content).map (.code language)
    | _ => none
  | some ("Image", some ⟨body, _⟩) =>
    match body.parts? ["src", "alt"] with
    | some [some ⟨source, _⟩, some ⟨alt, _⟩] => do
      return .image (← Expr.decode? source) (← Expr.decode? alt)
    | _ => none
  | some ("If", some ⟨body, _⟩) =>
    match body.parts? ["cond", "then", "elze"] with
    | some [some ⟨condition, _⟩, some ⟨yes, _⟩, no] => do
      let condition ← Expr.decode? condition
      let yes ← yes.items?
      let yes ← yes.mapM fun ⟨item, _⟩ => Stmt.decode? item
      match no with
      | none | some ⟨.null, _⟩ => return .ifThen condition yes
      | some ⟨no, _⟩ =>
        let no ← no.items?
        return .ifElse condition yes (← no.mapM fun ⟨item, _⟩ => Stmt.decode? item)
    | _ => none
  | some ("For", some ⟨body, _⟩) =>
    match body.parts? ["binding", "iterable", "body"] with
    | some [some ⟨.string binding, _⟩, some ⟨iterable, _⟩, some ⟨block, _⟩] => do
      let iterable ← Expr.decode? iterable
      let items ← block.items?
      return .forEach binding iterable (← items.mapM fun ⟨item, _⟩ => Stmt.decode? item)
    | _ => none
  | some ("Use", some ⟨body, _⟩) =>
    match body.parts? ["prompt", "args"] with
    | some [some ⟨.string prompt, _⟩, some ⟨args, _⟩] => (decodeList? decodeNamed? args).map (.use prompt)
    | _ => none
  | some ("Assign", some ⟨body, _⟩) =>
    match body.parts? ["target", "value"] with
    | some [some ⟨target, _⟩, some ⟨value, _⟩] => do
      return .assign (← Expr.decode? target) (← Expr.decode? value)
    | _ => none
  | some ("Return", some ⟨body, _⟩) =>
    match body.parts? ["value"] with
    | some [some ⟨value, _⟩] => (Expr.decode? value).map .ret
    | _ => none
  | some ("Expr", some ⟨e, _⟩) => (Expr.decode? e).map .expr
  | _ => none
termination_by sizeOf j

def Block.decode? (j : Json) : Option Block := decodeList? Stmt.decode? j

def Field.decode? (j : Json) : Option Field := (decodeNamed? j).map fun (name, value) => ⟨name, value⟩

def ParamType.decode? (j : Json) : Option ParamType :=
  match j.parts? ["base", "array", "optional"] with
  | some [some ⟨base, _⟩, some ⟨.bool isArray, _⟩, some ⟨.bool isOptional, _⟩] => do
    let base ← base.bareTag? >>= BaseType.ofName?
    return ⟨base, isArray, isOptional⟩
  | _ => none

def ParamDecl.decode? (j : Json) : Option ParamDecl :=
  match j.parts? ["name", "ty", "default"] with
  | some [some ⟨.string name, _⟩, some ⟨type, _⟩, value] => do
    let type ← ParamType.decode? type
    match value with
    | none | some ⟨.null, _⟩ => return ⟨name, type, none⟩
    | some ⟨value, _⟩ => return ⟨name, type, some (← Expr.decode? value)⟩
  | _ => none

def Hook.decode? (j : Json) : Option Hook :=
  match j.parts? ["name", "param", "body"] with
  | some [some ⟨.string name, _⟩, some ⟨.string param, _⟩, some ⟨body, _⟩] =>
    (Block.decode? body).map fun body => ⟨name, param, body⟩
  | _ => none

/-- The tag of a field-driven technique in program trees. -/
def Method.tag : Method → String
  | .zeroShot => "ZeroShot"
  | .selfConsistency => "SelfConsistency"
  | .treeOfThoughts => "TreeOfThoughts"
  | .activePrompting => "ActivePrompting"
  | .reflection => "Reflection"
  | .expertPrompting => "ExpertPrompting"
  | .ape => "APE"
  | .autoCot => "AutoCoT"
  | .art => "ART"

def Method.ofTag? (s : String) : Option Method := Method.all.find? (·.tag = s)

theorem Method.ofTag?_tag (m : Method) : Method.ofTag? m.tag = some m := by cases m <;> decide

def decodeFields? (j : Json) : Option (List Field) :=
  match j.parts? ["fields"] with
  | some [some ⟨fields, _⟩] => decodeList? Field.decode? fields
  | _ => none

def decodeStep? (j : Json) : Option (String × Block) :=
  match j.parts? ["name", "block"] with
  | some [some ⟨.string name, _⟩, some ⟨block, _⟩] => (Block.decode? block).map fun block => (name, block)
  | _ => none

def decodeExample? (j : Json) : Option (Block × Block) :=
  match j.parts? ["input", "output"] with
  | some [some ⟨input, _⟩, some ⟨output, _⟩] => do
    return (← Block.decode? input, ← Block.decode? output)
  | _ => none

def Technique.decode? (j : Json) : Option Technique :=
  match j.tagged? with
  | some ("ChainOfThought", some ⟨steps, _⟩) => (decodeList? decodeStep? steps).map .chainOfThought
  | some ("FewShot", some ⟨examples, _⟩) => (decodeList? decodeExample? examples).map .fewShot
  | some ("ReWOO", some ⟨body, _⟩) =>
    match body.parts? ["planner", "worker", "solver"] with
    | some [some ⟨planner, _⟩, some ⟨worker, _⟩, some ⟨solver, _⟩] => do
      return .reWOO (← Block.decode? planner) (← Block.decode? worker) (← Block.decode? solver)
    | _ => none
  | some ("ReAct", some ⟨body, _⟩) =>
    match body.parts? ["observation", "thought", "action"] with
    | some [some ⟨observation, _⟩, some ⟨thought, _⟩, some ⟨action, _⟩] => do
      return .reAct (← Block.decode? observation) (← Block.decode? thought) (← Block.decode? action)
    | _ => none
  | some (tag, some ⟨body, _⟩) => do
    let method ← Method.ofTag? tag
    return .byFields method (← decodeFields? body)
  | _ => none

def Section.decode? (j : Json) : Option Section :=
  match j.tagged? with
  | some ("Meta", some ⟨fields, _⟩) => (decodeList? Field.decode? fields).map .metadata
  | some ("Context", some ⟨fields, _⟩) => (decodeList? Field.decode? fields).map .context
  | some ("Params", some ⟨list, _⟩) => (decodeList? ParamDecl.decode? list).map .params
  | some ("Body", some ⟨block, _⟩) => (Block.decode? block).map .body
  | some ("Constraints", some ⟨fields, _⟩) => (decodeList? Field.decode? fields).map .constraints
  | some ("Output", some ⟨fields, _⟩) => (decodeList? Field.decode? fields).map .output
  | some ("Hooks", some ⟨list, _⟩) => (decodeList? Hook.decode? list).map .hooks
  | some ("Technique", some ⟨list, _⟩) => (decodeList? Technique.decode? list).map .technique
  | _ => none

def Prompt.decode? (j : Json) : Option Prompt :=
  match j.parts? ["name", "sections"] with
  | some [some ⟨.string name, _⟩, some ⟨sections, _⟩] =>
    (decodeList? Section.decode? sections).map fun sections => ⟨name, sections⟩
  | _ => none

def Program.decode? (j : Json) : Option Program :=
  match j.parts? ["prompts"] with
  | some [some ⟨prompts, _⟩] => (decodeList? Prompt.decode? prompts).map fun prompts => ⟨prompts⟩
  | _ => none

end PromptLang
