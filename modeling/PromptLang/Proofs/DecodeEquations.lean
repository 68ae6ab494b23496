import PromptLang.Syntax.Decode

/-! What decoding does at each node of a program tree. A node with a record takes the fields of the record one by one, so a decoder is
described by the fields that it asks for, whether the record is an object or an array. -/

namespace PromptLang

namespace Json

/-- The field of a record with the given names: by its name in an object, by its place in an array. -/
def field? (names : List String) (name : String) : Json → Option Json
  | .object ms => Entries.get? name ms
  | .array items => if items.length = names.length then items[names.idxOf name]? else none
  | _ => none

theorem memberPart?_val (name : String) (ms : List (String × Json)) :
    (memberPart? name ms).map Subtype.val = Entries.get? name ms := by
  induction ms with
  | nil => rfl
  | cons kv rest ih =>
    obtain ⟨k, v⟩ := kv
    by_cases h : k = name
    · simp [memberPart?, Entries.get?, h]
    · simp only [memberPart?, Entries.get?, if_neg h, ← ih, Option.map_map]
      rfl

theorem itemParts_val (items : List Json) : (itemParts items).map Subtype.val = items := by
  induction items with
  | nil => rfl
  | cons item rest ih =>
    simp only [itemParts, List.map_cons, List.map_map]
    exact congrArg (item :: ·) ih

theorem parts?_cases {names : List String} (hnames : names.Nodup) (j : Json) :
    (j.parts? names = none ∧ ∀ name, j.field? names name = none) ∨
    ∃ parts, j.parts? names = some parts ∧
      parts.map (Option.map Subtype.val) = names.map fun name => j.field? names name := by
  cases j with
  | object ms =>
    refine .inr ⟨_, rfl, ?_⟩
    rw [List.map_map]
    refine List.map_congr_left fun name _ => ?_
    simp only [Function.comp_apply, field?, ← memberPart?_val, Option.map_map]
    rfl
  | array items =>
    by_cases h : items.length = names.length
    · refine .inr ⟨_, by rw [parts?, if_pos h], ?_⟩
      have hvals : (itemParts items).map (fun part => some part.1) = items.map some := by
        conv => rhs; rw [← itemParts_val items, List.map_map]
        rfl
      rw [List.map_map]
      refine Eq.trans hvals (List.ext_getElem (by simpa using h) fun i hi hi' => ?_)
      simp [field?, h, List.Nodup.idxOf_getElem hnames]
    · exact .inl ⟨by rw [parts?, if_neg h], fun name => by rw [field?, if_neg h]⟩
  | null => exact .inl ⟨rfl, fun _ => rfl⟩
  | bool b => exact .inl ⟨rfl, fun _ => rfl⟩
  | number x => exact .inl ⟨rfl, fun _ => rfl⟩
  | string s => exact .inl ⟨rfl, fun _ => rfl⟩

section Fields

variable (j : Json) (x y z : String)

theorem parts?_one : (j.parts? [x] = none ∧ j.field? [x] x = none) ∨
    ∃ a, j.parts? [x] = some [a] ∧ a.map Subtype.val = j.field? [x] x := by
  rcases parts?_cases (List.pairwise_singleton _ x) j with ⟨h, hnone⟩ | ⟨parts, h, hparts⟩
  · exact .inl ⟨h, hnone x⟩
  · simp only [List.map_cons, List.map_nil, List.map_eq_cons_iff, List.map_eq_nil_iff] at hparts
    obtain ⟨a, _, rfl, ha, rfl⟩ := hparts
    exact .inr ⟨a, h, ha⟩

theorem parts?_two (hnames : [x, y].Nodup) :
    (j.parts? [x, y] = none ∧ j.field? [x, y] x = none ∧ j.field? [x, y] y = none) ∨
    ∃ a b, j.parts? [x, y] = some [a, b] ∧ a.map Subtype.val = j.field? [x, y] x ∧
      b.map Subtype.val = j.field? [x, y] y := by
  rcases parts?_cases hnames j with ⟨h, hnone⟩ | ⟨parts, h, hparts⟩
  · exact .inl ⟨h, hnone x, hnone y⟩
  · simp only [List.map_cons, List.map_nil, List.map_eq_cons_iff, List.map_eq_nil_iff] at hparts
    obtain ⟨a, _, rfl, ha, b, _, rfl, hb, rfl⟩ := hparts
    exact .inr ⟨a, b, h, ha, hb⟩

theorem parts?_three (hnames : [x, y, z].Nodup) :
    (j.parts? [x, y, z] = none ∧ j.field? [x, y, z] x = none ∧ j.field? [x, y, z] y = none ∧
      j.field? [x, y, z] z = none) ∨
    ∃ a b c, j.parts? [x, y, z] = some [a, b, c] ∧ a.map Subtype.val = j.field? [x, y, z] x ∧
      b.map Subtype.val = j.field? [x, y, z] y ∧ c.map Subtype.val = j.field? [x, y, z] z := by
  rcases parts?_cases hnames j with ⟨h, hnone⟩ | ⟨parts, h, hparts⟩
  · exact .inl ⟨h, hnone x, hnone y, hnone z⟩
  · simp only [List.map_cons, List.map_nil, List.map_eq_cons_iff, List.map_eq_nil_iff] at hparts
    obtain ⟨a, _, rfl, ha, b, _, rfl, hb, c, _, rfl, hc, rfl⟩ := hparts
    exact .inr ⟨a, b, c, h, ha, hb, hc⟩

end Fields

def text? : Json → Option String
  | .string s => some s
  | _ => none

def bool? : Json → Option Bool
  | .bool b => some b
  | _ => none

end Json

open Json

theorem decodeList?_array {α : Type} (decode? : Json → Option α) (items : List Json) :
    decodeList? decode? (.array items) = items.mapM decode? := by
  conv => rhs; rw [← itemParts_val items, List.mapM_map]
  show (List.map _ (itemParts items)).mapM _ = _
  rw [List.mapM_map]
  rfl

/-- A part that may be missing. A null in its place means that it is. -/
def decodeOptional? {α : Type} (decode? : Json → Option α) : Option Json → Option (Option α)
  | none => some none
  | some .null => some none
  | some j => (decode? j).map some

namespace Expr

theorem decode?_array (body : Json) : decode? (tag "Array" body) = (do
    let elements ← body.field? ["elements"] "elements"
    return .array (← decodeList? decode? elements)) := by
  rw [decode?]
  simp only [tag, tagged?]
  rcases body.parts?_one "elements" with ⟨h, ha⟩ | ⟨a, h, ha⟩
  · rw [h, ha]
    rfl
  · rw [h, ← ha]
    rcases a with _ | ⟨elements, _⟩
    · rfl
    · exact (Option.bind_assoc elements.items? _ _).symm

def decodeMember? (j : Json) : Option (String × Expr) := do
  let key ← j.field? ["key", "value"] "key"
  let value ← j.field? ["key", "value"] "value"
  return (← key.text?, ← decode? value)

theorem decodeMember?_eq (j : Json) : decodeMember? j =
    (match j.parts? ["key", "value"] with
      | some [some ⟨.string key, _⟩, some ⟨value, _⟩] => (decode? value).map fun e => (key, e)
      | _ => none) := by
  rw [decodeMember?]
  rcases j.parts?_two "key" "value" (by decide) with ⟨h, ha, hb⟩ | ⟨a, b, h, ha, hb⟩
  · rw [h, ha]
    rfl
  · rw [h, ← ha, ← hb]
    rcases a with _ | ⟨_ | _ | _ | _ | _ | _, _⟩ <;> cases b <;> try rfl
    exact (Option.map_eq_bind ..).symm

theorem decode?_object (body : Json) : decode? (tag "Object" body) = (do
    let properties ← body.field? ["properties"] "properties"
    return .object (← decodeList? decodeMember? properties)) := by
  rw [decode?]
  simp only [tag, tagged?]
  rcases body.parts?_one "properties" with ⟨h, ha⟩ | ⟨a, h, ha⟩
  · rw [h, ha]
    rfl
  · rw [h, ← ha]
    rcases a with _ | ⟨properties, _⟩
    · rfl
    · refine Eq.trans ?_ (Option.bind_assoc properties.items? _ _).symm
      refine congrArg properties.items?.bind (funext fun items => ?_)
      refine congrArg (fun members => Option.bind members fun members => some (Expr.object members)) ?_
      exact congrArg (fun f => List.mapM f items) (funext fun item => (decodeMember?_eq item.1).symm)

theorem decode?_binary (body : Json) : decode? (tag "Binary" body) = (do
    let op ← body.field? ["op", "lhs", "rhs"] "op"
    let left ← body.field? ["op", "lhs", "rhs"] "lhs"
    let right ← body.field? ["op", "lhs", "rhs"] "rhs"
    return .binary (← op.bareTag? >>= BinaryOp.ofName?) (← decode? left) (← decode? right)) := by
  rw [decode?]
  simp only [tag, tagged?]
  rcases body.parts?_three "op" "lhs" "rhs" (by decide) with ⟨h, ha, hb, hc⟩ | ⟨a, b, c, h, ha, hb, hc⟩
  · rw [h, ha]
    rfl
  · rw [h, ← ha, ← hb, ← hc]
    cases a <;> cases b <;> cases c <;> rfl

theorem decode?_logical (body : Json) : decode? (tag "Logical" body) = (do
    let op ← body.field? ["op", "lhs", "rhs"] "op"
    let left ← body.field? ["op", "lhs", "rhs"] "lhs"
    let right ← body.field? ["op", "lhs", "rhs"] "rhs"
    return .logical (← op.bareTag? >>= LogicalOp.ofName?) (← decode? left) (← decode? right)) := by
  rw [decode?]
  simp only [tag, tagged?]
  rcases body.parts?_three "op" "lhs" "rhs" (by decide) with ⟨h, ha, hb, hc⟩ | ⟨a, b, c, h, ha, hb, hc⟩
  · rw [h, ha]
    rfl
  · rw [h, ← ha, ← hb, ← hc]
    cases a <;> cases b <;> cases c <;> rfl

theorem decode?_unary (body : Json) : decode? (tag "Unary" body) = (do
    let op ← body.field? ["op", "operand"] "op"
    let operand ← body.field? ["op", "operand"] "operand"
    return .unary (← op.bareTag? >>= UnaryOp.ofName?) (← decode? operand)) := by
  rw [decode?]
  simp only [tag, tagged?]
  rcases body.parts?_two "op" "operand" (by decide) with ⟨h, ha, hb⟩ | ⟨a, b, h, ha, hb⟩
  · rw [h, ha]
    rfl
  · rw [h, ← ha, ← hb]
    cases a <;> cases b <;> rfl

theorem decode?_member (body : Json) : decode? (tag "Member" body) = (do
    let target ← body.field? ["object", "property"] "object"
    let property ← body.field? ["object", "property"] "property"
    match property.tagged? with
    | some ("Named", some ⟨.string name, _⟩) => (decode? target).map fun e => .member e name
    | some ("Computed", some ⟨key, _⟩) => return .index (← decode? target) (← decode? key)
    | _ => none) := by
  rw [decode?]
  simp only [tag, tagged?]
  rcases body.parts?_two "object" "property" (by decide) with ⟨h, ha, hb⟩ | ⟨a, b, h, ha, hb⟩
  · rw [h, ha]
    rfl
  · rw [h, ← ha, ← hb]
    cases a <;> cases b <;> rfl

theorem decode?_call (body : Json) : decode? (tag "Call" body) = (do
    let callee ← body.field? ["callee", "args"] "callee"
    let args ← body.field? ["callee", "args"] "args"
    return .call (← decode? callee) (← decodeList? decode? args)) := by
  rw [decode?]
  simp only [tag, tagged?]
  rcases body.parts?_two "callee" "args" (by decide) with ⟨h, ha, hb⟩ | ⟨a, b, h, ha, hb⟩
  · rw [h, ha]
    rfl
  · rw [h, ← ha, ← hb]
    rcases a with _ | ⟨callee, _⟩ <;> rcases b with _ | ⟨args, _⟩ <;> try rfl
    refine congrArg (decode? callee).bind (funext fun f => ?_)
    exact (Option.bind_assoc args.items? _ _).symm

end Expr

theorem decodeNamed?_eq (j : Json) : decodeNamed? j = (do
    let name ← j.field? ["name", "value"] "name"
    let value ← j.field? ["name", "value"] "value"
    return (← name.text?, ← Expr.decode? value)) := by
  rw [decodeNamed?]
  rcases j.parts?_two "name" "value" (by decide) with ⟨h, ha, hb⟩ | ⟨a, b, h, ha, hb⟩
  · rw [h, ha]
    rfl
  · rw [h, ← ha, ← hb]
    rcases a with _ | ⟨_ | _ | _ | _ | _ | _, _⟩ <;> cases b <;> try rfl
    exact Option.map_eq_bind ..

theorem Template.decode?_eq (j : Json) : Template.decode? j = (do
    let parts ← j.field? ["parts"] "parts"
    decodeList? Segment.decode? parts) := by
  rw [Template.decode?]
  rcases j.parts?_one "parts" with ⟨h, ha⟩ | ⟨a, h, ha⟩
  · rw [h, ha]
    rfl
  · rw [h, ← ha]
    cases a <;> rfl

namespace Stmt

theorem decode?_text (body : Json) : decode? (tag "Text" body) = (do
    let template ← body.field? ["template"] "template"
    return .text (← Template.decode? template)) := by
  rw [decode?]
  simp only [tag, tagged?]
  rcases body.parts?_one "template" with ⟨h, ha⟩ | ⟨a, h, ha⟩
  · rw [h, ha]
    rfl
  · rw [h, ← ha]
    cases a <;> try rfl
    exact Option.map_eq_bind ..

theorem decode?_code (body : Json) : decode? (tag "Code" body) = (do
    let language ← body.field? ["language", "content"] "language"
    let content ← body.field? ["language", "content"] "content"
    return .code (← language.text?) (← Template.decode? content)) := by
  rw [decode?]
  simp only [tag, tagged?]
  rcases body.parts?_two "language" "content" (by decide) with ⟨h, ha, hb⟩ | ⟨a, b, h, ha, hb⟩
  · rw [h, ha]
    rfl
  · rw [h, ← ha, ← hb]
    rcases a with _ | ⟨_ | _ | _ | _ | _ | _, _⟩ <;> cases b <;> try rfl
    exact Option.map_eq_bind ..

theorem decode?_image (body : Json) : decode? (tag "Image" body) = (do
    let source ← body.field? ["src", "alt"] "src"
    let alt ← body.field? ["src", "alt"] "alt"
    return .image (← Expr.decode? source) (← Expr.decode? alt)) := by
  rw [decode?]
  simp only [tag, tagged?]
  rcases body.parts?_two "src" "alt" (by decide) with ⟨h, ha, hb⟩ | ⟨a, b, h, ha, hb⟩
  · rw [h, ha]
    rfl
  · rw [h, ← ha, ← hb]
    cases a <;> cases b <;> rfl

def conditional (condition : Expr) (yes : Block) : Option Block → Stmt
  | none => .ifThen condition yes
  | some no => .ifElse condition yes no

theorem decode?_if (body : Json) : decode? (tag "If" body) = (do
    let condition ← body.field? ["cond", "then", "elze"] "cond"
    let yes ← body.field? ["cond", "then", "elze"] "then"
    let condition ← Expr.decode? condition
    let yes ← decodeList? decode? yes
    let no ← decodeOptional? (decodeList? decode?) (body.field? ["cond", "then", "elze"] "elze")
    return conditional condition yes no) := by
  rw [decode?]
  simp only [tag, tagged?]
  rcases body.parts?_three "cond" "then" "elze" (by decide) with ⟨h, ha, hb, hc⟩ | ⟨a, b, c, h, ha, hb, hc⟩
  · rw [h, ha]
    rfl
  · rw [h, ← ha, ← hb, ← hc]
    rcases a with _ | ⟨condition, _⟩ <;> rcases b with _ | ⟨yes, _⟩ <;> try rfl
    refine congrArg (Expr.decode? condition).bind (funext fun condition => ?_)
    refine Eq.trans ?_ (Option.bind_assoc yes.items? _ _).symm
    refine congrArg yes.items?.bind (funext fun items => ?_)
    refine congrArg (items.mapM fun item => decode? item.1).bind (funext fun yes => ?_)
    -- only a block in place of the other case is looked at
    rcases c with _ | ⟨_ | _ | _ | _ | items | _, _⟩ <;> try rfl
    simp [decodeOptional?, decodeList?, items?, conditional, Option.map_eq_bind, Option.bind_assoc]

theorem decode?_for (body : Json) : decode? (tag "For" body) = (do
    let binding ← body.field? ["binding", "iterable", "body"] "binding"
    let iterable ← body.field? ["binding", "iterable", "body"] "iterable"
    let block ← body.field? ["binding", "iterable", "body"] "body"
    return .forEach (← binding.text?) (← Expr.decode? iterable) (← decodeList? decode? block)) := by
  rw [decode?]
  simp only [tag, tagged?]
  rcases body.parts?_three "binding" "iterable" "body" (by decide) with
    ⟨h, ha, hb, hc⟩ | ⟨a, b, c, h, ha, hb, hc⟩
  · rw [h, ha]
    rfl
  · rw [h, ← ha, ← hb, ← hc]
    rcases a with _ | ⟨_ | _ | _ | _ | _ | _, _⟩ <;> rcases b with _ | ⟨iterable, _⟩ <;>
      rcases c with _ | ⟨block, _⟩ <;> try rfl
    refine congrArg (Expr.decode? iterable).bind (funext fun iterable => ?_)
    exact (Option.bind_assoc block.items? _ _).symm

theorem decode?_use (body : Json) : decode? (tag "Use" body) = (do
    let prompt ← body.field? ["prompt", "args"] "prompt"
    let args ← body.field? ["prompt", "args"] "args"
    return .use (← prompt.text?) (← decodeList? decodeNamed? args)) := by
  rw [decode?]
  simp only [tag, tagged?]
  rcases body.parts?_two "prompt" "args" (by decide) with ⟨h, ha, hb⟩ | ⟨a, b, h, ha, hb⟩
  · rw [h, ha]
    rfl
  · rw [h, ← ha, ← hb]
    rcases a with _ | ⟨_ | _ | _ | _ | _ | _, _⟩ <;> cases b <;> try rfl
    exact Option.map_eq_bind ..

theorem decode?_assign (body : Json) : decode? (tag "Assign" body) = (do
    let target ← body.field? ["target", "value"] "target"
    let value ← body.field? ["target", "value"] "value"
    return .assign (← Expr.decode? target) (← Expr.decode? value)) := by
  rw [decode?]
  simp only [tag, tagged?]
  rcases body.parts?_two "target" "value" (by decide) with ⟨h, ha, hb⟩ | ⟨a, b, h, ha, hb⟩
  · rw [h, ha]
    rfl
  · rw [h, ← ha, ← hb]
    cases a <;> cases b <;> rfl

theorem decode?_return (body : Json) : decode? (tag "Return" body) = (do
    let value ← body.field? ["value"] "value"
    return .ret (← Expr.decode? value)) := by
  rw [decode?]
  simp only [tag, tagged?]
  rcases body.parts?_one "value" with ⟨h, ha⟩ | ⟨a, h, ha⟩
  · rw [h, ha]
    rfl
  · rw [h, ← ha]
    cases a <;> try rfl
    exact Option.map_eq_bind ..

end Stmt

theorem ParamType.decode?_eq (j : Json) : ParamType.decode? j = (do
    let base ← j.field? ["base", "array", "optional"] "base"
    let isArray ← j.field? ["base", "array", "optional"] "array"
    let isOptional ← j.field? ["base", "array", "optional"] "optional"
    let isArray ← isArray.bool?
    let isOptional ← isOptional.bool?
    return ⟨← base.bareTag? >>= BaseType.ofName?, isArray, isOptional⟩) := by
  rw [ParamType.decode?]
  rcases j.parts?_three "base" "array" "optional" (by decide) with
    ⟨h, ha, hb, hc⟩ | ⟨a, b, c, h, ha, hb, hc⟩
  · rw [h, ha]
    rfl
  · rw [h, ← ha, ← hb, ← hc]
    cases a <;> rcases b with _ | ⟨_ | _ | _ | _ | _ | _, _⟩ <;>
      rcases c with _ | ⟨_ | _ | _ | _ | _ | _, _⟩ <;> rfl

theorem ParamDecl.decode?_eq (j : Json) : ParamDecl.decode? j = (do
    let name ← j.field? ["name", "ty", "default"] "name"
    let type ← j.field? ["name", "ty", "default"] "ty"
    let name ← name.text?
    let type ← ParamType.decode? type
    return ⟨name, type, ← decodeOptional? Expr.decode? (j.field? ["name", "ty", "default"] "default")⟩) := by
  rw [ParamDecl.decode?]
  rcases j.parts?_three "name" "ty" "default" (by decide) with
    ⟨h, ha, hb, hc⟩ | ⟨a, b, c, h, ha, hb, hc⟩
  · rw [h, ha]
    rfl
  · rw [h, ← ha, ← hb, ← hc]
    rcases a with _ | ⟨_ | _ | _ | _ | _ | _, _⟩ <;> rcases b with _ | ⟨type, _⟩ <;> try rfl
    refine congrArg (ParamType.decode? type).bind (funext fun type => ?_)
    rcases c with _ | ⟨_ | _ | _ | _ | _ | _, _⟩ <;> try rfl
    all_goals simp [decodeOptional?, Option.map_eq_bind, Option.bind_assoc]

theorem Hook.decode?_eq (j : Json) : Hook.decode? j = (do
    let name ← j.field? ["name", "param", "body"] "name"
    let param ← j.field? ["name", "param", "body"] "param"
    let body ← j.field? ["name", "param", "body"] "body"
    return ⟨← name.text?, ← param.text?, ← Block.decode? body⟩) := by
  rw [Hook.decode?]
  rcases j.parts?_three "name" "param" "body" (by decide) with
    ⟨h, ha, hb, hc⟩ | ⟨a, b, c, h, ha, hb, hc⟩
  · rw [h, ha]
    rfl
  · rw [h, ← ha, ← hb, ← hc]
    rcases a with _ | ⟨_ | _ | _ | _ | _ | _, _⟩ <;> rcases b with _ | ⟨_ | _ | _ | _ | _ | _, _⟩ <;>
      cases c <;> try rfl
    exact Option.map_eq_bind ..

theorem decodeFields?_eq (j : Json) : decodeFields? j = (do
    let fields ← j.field? ["fields"] "fields"
    decodeList? Field.decode? fields) := by
  rw [decodeFields?]
  rcases j.parts?_one "fields" with ⟨h, ha⟩ | ⟨a, h, ha⟩
  · rw [h, ha]
    rfl
  · rw [h, ← ha]
    cases a <;> rfl

theorem decodeStep?_eq (j : Json) : decodeStep? j = (do
    let name ← j.field? ["name", "block"] "name"
    let block ← j.field? ["name", "block"] "block"
    return (← name.text?, ← Block.decode? block)) := by
  rw [decodeStep?]
  rcases j.parts?_two "name" "block" (by decide) with ⟨h, ha, hb⟩ | ⟨a, b, h, ha, hb⟩
  · rw [h, ha]
    rfl
  · rw [h, ← ha, ← hb]
    rcases a with _ | ⟨_ | _ | _ | _ | _ | _, _⟩ <;> cases b <;> try rfl
    exact Option.map_eq_bind ..

theorem decodeExample?_eq (j : Json) : decodeExample? j = (do
    let input ← j.field? ["input", "output"] "input"
    let output ← j.field? ["input", "output"] "output"
    return (← Block.decode? input, ← Block.decode? output)) := by
  rw [decodeExample?]
  rcases j.parts?_two "input" "output" (by decide) with ⟨h, ha, hb⟩ | ⟨a, b, h, ha, hb⟩
  · rw [h, ha]
    rfl
  · rw [h, ← ha, ← hb]
    cases a <;> cases b <;> rfl

namespace Technique

theorem decode?_reWOO (body : Json) : decode? (tag "ReWOO" body) = (do
    let planner ← body.field? ["planner", "worker", "solver"] "planner"
    let worker ← body.field? ["planner", "worker", "solver"] "worker"
    let solver ← body.field? ["planner", "worker", "solver"] "solver"
    return .reWOO (← Block.decode? planner) (← Block.decode? worker) (← Block.decode? solver)) := by
  rw [decode?]
  simp only [tag, tagged?]
  rcases body.parts?_three "planner" "worker" "solver" (by decide) with
    ⟨h, ha, hb, hc⟩ | ⟨a, b, c, h, ha, hb, hc⟩
  · rw [h, ha]
    rfl
  · rw [h, ← ha, ← hb, ← hc]
    cases a <;> cases b <;> cases c <;> rfl

theorem decode?_reAct (body : Json) : decode? (tag "ReAct" body) = (do
    let observation ← body.field? ["observation", "thought", "action"] "observation"
    let thought ← body.field? ["observation", "thought", "action"] "thought"
    let action ← body.field? ["observation", "thought", "action"] "action"
    return .reAct (← Block.decode? observation) (← Block.decode? thought) (← Block.decode? action)) := by
  rw [decode?]
  simp only [tag, tagged?]
  rcases body.parts?_three "observation" "thought" "action" (by decide) with
    ⟨h, ha, hb, hc⟩ | ⟨a, b, c, h, ha, hb, hc⟩
  · rw [h, ha]
    rfl
  · rw [h, ← ha, ← hb, ← hc]
    cases a <;> cases b <;> cases c <;> rfl

theorem decode?_method (method : Method) (body : Json) :
    decode? (tag method.tag body) = (decodeFields? body).map (.byFields method) := by
  rw [Option.map_eq_bind]
  cases method <;> rfl

end Technique

theorem Prompt.decode?_eq (j : Json) : Prompt.decode? j = (do
    let name ← j.field? ["name", "sections"] "name"
    let sections ← j.field? ["name", "sections"] "sections"
    return ⟨← name.text?, ← decodeList? Section.decode? sections⟩) := by
  rw [Prompt.decode?]
  rcases j.parts?_two "name" "sections" (by decide) with ⟨h, ha, hb⟩ | ⟨a, b, h, ha, hb⟩
  · rw [h, ha]
    rfl
  · rw [h, ← ha, ← hb]
    rcases a with _ | ⟨_ | _ | _ | _ | _ | _, _⟩ <;> cases b <;> try rfl
    exact Option.map_eq_bind ..

theorem Program.decode?_eq (j : Json) : Program.decode? j = (do
    let prompts ← j.field? ["prompts"] "prompts"
    return ⟨← decodeList? Prompt.decode? prompts⟩) := by
  rw [Program.decode?]
  rcases j.parts?_one "prompts" with ⟨h, ha⟩ | ⟨a, h, ha⟩
  · rw [h, ha]
    rfl
  · rw [h, ← ha]
    cases a <;> try rfl
    exact Option.map_eq_bind ..

end PromptLang
