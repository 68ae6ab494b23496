import Mathlib.Logic.Relation
import PromptLang.Proofs.TreeEdits
import PromptLang.Syntax.Encode

/-! Programs and their trees. A program whose number literals are finite comes back from its tree, and so it does from every tree
that unknown fields and left out nulls make of it. -/

namespace PromptLang

open Json

mutual

/-- The number literals of an expression. -/
def Expr.literals : Expr → List Float
  | .num x => [x]
  | .array items => Expr.listLiterals items
  | .object members => Expr.memberLiterals members
  | .binary _ l r => l.literals ++ r.literals
  | .logical _ l r => l.literals ++ r.literals
  | .unary _ e => e.literals
  | .member e _ => e.literals
  | .index e key => e.literals ++ key.literals
  | .call f args => f.literals ++ Expr.listLiterals args
  | _ => []
termination_by structural e => e

def Expr.listLiterals : List Expr → List Float
  | [] => []
  | e :: es => e.literals ++ Expr.listLiterals es
termination_by structural es => es

def Expr.memberLiterals : List (String × Expr) → List Float
  | [] => []
  | (_, e) :: es => e.literals ++ Expr.memberLiterals es
termination_by structural es => es

end

def Segment.literals : Segment → List Float
  | .text _ => []
  | .hole e => e.literals

def Template.literals (t : Template) : List Float := t.flatMap Segment.literals

mutual

def Stmt.literals : Stmt → List Float
  | .text template => Template.literals template
  | .code _ content => Template.literals content
  | .image source alt => source.literals ++ alt.literals
  | .ifThen condition yes => condition.literals ++ Stmt.blockLiterals yes
  | .ifElse condition yes no => condition.literals ++ Stmt.blockLiterals yes ++ Stmt.blockLiterals no
  | .forEach _ iterable body => iterable.literals ++ Stmt.blockLiterals body
  | .use _ args => args.flatMap (·.2.literals)
  | .assign target value => target.literals ++ value.literals
  | .ret value => value.literals
  | .expr e => e.literals
termination_by structural s => s

def Stmt.blockLiterals : List Stmt → List Float
  | [] => []
  | s :: ss => s.literals ++ Stmt.blockLiterals ss
termination_by structural ss => ss

end

def Field.literals (f : Field) : List Float := f.value.literals

def ParamDecl.literals (d : ParamDecl) : List Float := d.default?.elim [] Expr.literals

def Technique.literals : Technique → List Float
  | .chainOfThought steps => steps.flatMap fun step => Stmt.blockLiterals step.2
  | .fewShot examples =>
    examples.flatMap fun pair => Stmt.blockLiterals pair.1 ++ Stmt.blockLiterals pair.2
  | .reWOO planner worker solver =>
    Stmt.blockLiterals planner ++ Stmt.blockLiterals worker ++ Stmt.blockLiterals solver
  | .reAct observation thought action =>
    Stmt.blockLiterals observation ++ Stmt.blockLiterals thought ++ Stmt.blockLiterals action
  | .byFields _ fields => fields.flatMap Field.literals

def Section.literals : Section → List Float
  | .metadata fields => fields.flatMap Field.literals
  | .context fields => fields.flatMap Field.literals
  | .params decls => decls.flatMap ParamDecl.literals
  | .body block => Stmt.blockLiterals block
  | .constraints fields => fields.flatMap Field.literals
  | .output fields => fields.flatMap Field.literals
  | .hooks list => list.flatMap fun h => Stmt.blockLiterals h.body
  | .technique list => list.flatMap Technique.literals

def Prompt.literals (p : Prompt) : List Float := p.sections.flatMap Section.literals

def Program.literals (p : Program) : List Float := p.prompts.flatMap Prompt.literals

def AllFinite (xs : List Float) : Prop := ∀ x ∈ xs, x.isFinite = true

@[simp] theorem allFinite_append {xs ys : List Float} : AllFinite (xs ++ ys) ↔ AllFinite xs ∧ AllFinite ys :=
  List.forall_mem_append

@[simp] theorem allFinite_flatMap {α : Type} {xs : List α} {f : α → List Float} :
    AllFinite (xs.flatMap f) ↔ ∀ x ∈ xs, AllFinite (f x) := by
  simp only [AllFinite, List.mem_flatMap]
  grind

theorem decodeList?_map {α : Type} {decode? : Json → Option α} {encode : α → Json} {xs : List α}
    (h : ∀ x ∈ xs, decode? (encode x) = some x) : decodeList? decode? (.array (xs.map encode)) = some xs := by
  rw [decodeList?_array, List.mapM_map]
  induction xs with
  | nil => rfl
  | cons x xs ih =>
    have hx : (decode? ∘ encode) x = some x := h x List.mem_cons_self
    rw [List.mapM_cons, hx, ih fun y hy => h y (List.mem_cons_of_mem x hy)]
    rfl

mutual

theorem Expr.decode?_encode : ∀ e : Expr, AllFinite e.literals → decode? e.encode = some e
  | .ident name, _ => by rw [encode, decode?]; rfl
  | .str s, _ => by rw [encode, decode?]; rfl
  | .num x, h => by
    have hx : x.isFinite = true := h x (by simp [literals])
    rw [encode, ofFloat, if_pos hx, decode?]
    rfl
  | .bool b, _ => by rw [encode, decode?]; rfl
  | .null, _ => by rw [encode, decode?]; rfl
  | .array items, h => by
    rw [literals] at h
    rw [encode, decode?_array]
    simp [field?, Entries.get?, decodeList?_array, Expr.mapM_encodeList items h]
  | .object members, h => by
    rw [literals] at h
    rw [encode, decode?_object]
    simp [field?, Entries.get?, decodeList?_array, Expr.mapM_encodeMembers members h]
  | .binary op l r, h => by
    rw [literals, allFinite_append] at h
    rw [encode, decode?_binary]
    simp [field?, Entries.get?, bareTag?, tagged?, BinaryOp.ofName?_name, Expr.decode?_encode l h.1,
      Expr.decode?_encode r h.2]
  | .logical op l r, h => by
    rw [literals, allFinite_append] at h
    rw [encode, decode?_logical]
    simp [field?, Entries.get?, bareTag?, tagged?, LogicalOp.ofName?_name, Expr.decode?_encode l h.1,
      Expr.decode?_encode r h.2]
  | .unary op e, h => by
    rw [literals] at h
    rw [encode, decode?_unary]
    simp [field?, Entries.get?, bareTag?, tagged?, UnaryOp.ofName?_name, Expr.decode?_encode e h]
  | .member e name, h => by
    rw [literals] at h
    rw [encode, decode?_member]
    simp [field?, Entries.get?, tagged?, tag, Expr.decode?_encode e h]
  | .index e key, h => by
    rw [literals, allFinite_append] at h
    rw [encode, decode?_member]
    simp [field?, Entries.get?, tagged?, tag, Expr.decode?_encode e h.1, Expr.decode?_encode key h.2]
  | .call f args, h => by
    rw [literals, allFinite_append] at h
    rw [encode, decode?_call]
    simp [field?, Entries.get?, decodeList?_array, Expr.decode?_encode f h.1, Expr.mapM_encodeList args h.2]
termination_by structural e => e

theorem Expr.mapM_encodeList : ∀ es : List Expr, AllFinite (listLiterals es) →
    (encodeList es).mapM decode? = some es
  | [], _ => rfl
  | e :: es, h => by
    rw [listLiterals, allFinite_append] at h
    rw [encodeList, List.mapM_cons, Expr.decode?_encode e h.1, Expr.mapM_encodeList es h.2]
    rfl
termination_by structural es => es

theorem Expr.mapM_encodeMembers : ∀ es : List (String × Expr), AllFinite (memberLiterals es) →
    (encodeMembers es).mapM decodeMember? = some es
  | [], _ => rfl
  | (key, e) :: es, h => by
    rw [memberLiterals, allFinite_append] at h
    have hmember : decodeMember? (.object [("key", .string key), ("value", e.encode)]) = some (key, e) := by
      simp [decodeMember?, field?, Entries.get?, text?, Expr.decode?_encode e h.1]
    rw [encodeMembers, List.mapM_cons, hmember, Expr.mapM_encodeMembers es h.2]
    rfl
termination_by structural es => es

end

theorem decodeNamed?_encode {name : String} {value : Expr} (h : AllFinite value.literals) :
    decodeNamed? (encodeNamed name value) = some (name, value) := by
  simp [decodeNamed?_eq, encodeNamed, field?, Entries.get?, text?, Expr.decode?_encode value h]

theorem Template.decode?_encode {t : Template} (h : AllFinite (Template.literals t)) :
    Template.decode? (Template.encode t) = some t := by
  rw [Template.literals, allFinite_flatMap] at h
  have hparts : decodeList? Segment.decode? (.array (t.map Segment.encode)) = some t := by
    refine decodeList?_map fun part hpart => ?_
    have hpart := h part hpart
    cases part with
    | text s => rfl
    | hole e => simp [Segment.encode, Segment.decode?, tag, tagged?, Expr.decode?_encode e hpart]
  simp [Template.decode?_eq, Template.encode, field?, Entries.get?, hparts]

mutual

theorem Stmt.decode?_encode : ∀ s : Stmt, AllFinite s.literals → decode? s.encode = some s
  | .text template, h => by
    rw [literals] at h
    rw [encode, decode?_text]
    simp [field?, Entries.get?, Template.decode?_encode h]
  | .code language content, h => by
    rw [literals] at h
    rw [encode, decode?_code]
    simp [field?, Entries.get?, text?, Template.decode?_encode h]
  | .image source alt, h => by
    rw [literals, allFinite_append] at h
    rw [encode, decode?_image]
    simp [field?, Entries.get?, Expr.decode?_encode source h.1, Expr.decode?_encode alt h.2]
  | .ifThen condition yes, h => by
    rw [literals, allFinite_append] at h
    rw [encode, decode?_if]
    simp [field?, Entries.get?, decodeList?_array, decodeOptional?, conditional,
      Expr.decode?_encode condition h.1, Stmt.mapM_encodeBlock yes h.2]
  | .ifElse condition yes no, h => by
    rw [literals, allFinite_append, allFinite_append] at h
    rw [encode, decode?_if]
    simp [field?, Entries.get?, decodeList?_array, decodeOptional?, conditional,
      Expr.decode?_encode condition h.1.1, Stmt.mapM_encodeBlock yes h.1.2, Stmt.mapM_encodeBlock no h.2]
  | .forEach binding iterable body, h => by
    rw [literals, allFinite_append] at h
    rw [encode, decode?_for]
    simp [field?, Entries.get?, text?, decodeList?_array, Expr.decode?_encode iterable h.1,
      Stmt.mapM_encodeBlock body h.2]
  | .use prompt args, h => by
    rw [literals, allFinite_flatMap] at h
    have hargs : decodeList? decodeNamed? (.array (args.map fun arg => encodeNamed arg.1 arg.2)) = some args :=
      decodeList?_map fun arg harg => decodeNamed?_encode (h arg harg)
    rw [encode, decode?_use]
    simp [field?, Entries.get?, text?, hargs]
  | .assign target value, h => by
    rw [literals, allFinite_append] at h
    rw [encode, decode?_assign]
    simp [field?, Entries.get?, Expr.decode?_encode target h.1, Expr.decode?_encode value h.2]
  | .ret value, h => by
    rw [literals] at h
    rw [encode, decode?_return]
    simp [field?, Entries.get?, Expr.decode?_encode value h]
  | .expr e, h => by
    rw [literals] at h
    simp [encode, decode?, tag, tagged?, Expr.decode?_encode e h]
termination_by structural s => s

theorem Stmt.mapM_encodeBlock : ∀ ss : List Stmt, AllFinite (blockLiterals ss) →
    (encodeBlock ss).mapM decode? = some ss
  | [], _ => rfl
  | s :: ss, h => by
    rw [blockLiterals, allFinite_append] at h
    rw [encodeBlock, List.mapM_cons, Stmt.decode?_encode s h.1, Stmt.mapM_encodeBlock ss h.2]
    rfl
termination_by structural ss => ss

end

theorem Block.decode?_encode {b : Block} (h : AllFinite (Stmt.blockLiterals b)) :
    Block.decode? (Block.encode b) = some b := by
  rw [Block.decode?, Block.encode, decodeList?_array, Stmt.mapM_encodeBlock b h]

theorem Field.decode?_encode {f : Field} (h : AllFinite f.literals) : decode? f.encode = some f := by
  simp [Field.decode?, Field.encode, decodeNamed?_encode h]

theorem decodeList?_encodeFields {fields : List Field} (h : AllFinite (fields.flatMap Field.literals)) :
    decodeList? Field.decode? (encodeFields fields) = some fields :=
  decodeList?_map fun f hf => Field.decode?_encode (allFinite_flatMap.1 h f hf)

theorem ParamType.decode?_encode (t : ParamType) : decode? t.encode = some t := by
  simp [ParamType.decode?_eq, ParamType.encode, field?, Entries.get?, bool?, bareTag?, tagged?,
    BaseType.ofName?_name]

theorem Expr.encode_ne_null (e : Expr) : e.encode ≠ .null := by
  cases e <;> simp [Expr.encode, tag]

theorem ParamDecl.decode?_encode {d : ParamDecl} (h : AllFinite d.literals) : decode? d.encode = some d := by
  obtain ⟨name, type, default?⟩ := d
  cases default? with
  | none =>
    simp [ParamDecl.decode?_eq, ParamDecl.encode, field?, Entries.get?, text?, decodeOptional?,
      ParamType.decode?_encode]
  | some e =>
    simp [ParamDecl.decode?_eq, ParamDecl.encode, field?, Entries.get?, text?,
      decodeOptional?_some e.encode_ne_null, ParamType.decode?_encode, Expr.decode?_encode e h]

theorem Hook.decode?_encode {hook : Hook} (h : AllFinite (Stmt.blockLiterals hook.body)) :
    decode? hook.encode = some hook := by
  simp [Hook.decode?_eq, Hook.encode, field?, Entries.get?, text?, Block.decode?_encode h]

theorem Technique.decode?_encode {t : Technique} (h : AllFinite t.literals) : decode? t.encode = some t := by
  cases t with
  | chainOfThought steps =>
    rw [literals, allFinite_flatMap] at h
    have hsteps : ∀ step ∈ steps, decodeStep?
        (.object [("name", .string step.1), ("block", Block.encode step.2)]) = some step := fun step hstep => by
      simp [decodeStep?_eq, field?, Entries.get?, text?, Block.decode?_encode (h step hstep)]
    exact congrArg (Option.map Technique.chainOfThought) (decodeList?_map hsteps)
  | fewShot examples =>
    rw [literals, allFinite_flatMap] at h
    have hexamples : ∀ pair ∈ examples, decodeExample?
        (.object [("input", Block.encode pair.1), ("output", Block.encode pair.2)]) = some pair := fun pair hpair => by
      have hpair := allFinite_append.1 (h pair hpair)
      simp [decodeExample?_eq, field?, Entries.get?, Block.decode?_encode hpair.1, Block.decode?_encode hpair.2]
    exact congrArg (Option.map Technique.fewShot) (decodeList?_map hexamples)
  | reWOO planner worker solver =>
    rw [literals, allFinite_append, allFinite_append] at h
    rw [encode, decode?_reWOO]
    simp [field?, Entries.get?, Block.decode?_encode h.1.1, Block.decode?_encode h.1.2, Block.decode?_encode h.2]
  | reAct observation thought action =>
    rw [literals, allFinite_append, allFinite_append] at h
    rw [encode, decode?_reAct]
    simp [field?, Entries.get?, Block.decode?_encode h.1.1, Block.decode?_encode h.1.2, Block.decode?_encode h.2]
  | byFields method fields =>
    rw [literals] at h
    rw [encode, decode?_method]
    simp [decodeFields?_eq, field?, Entries.get?, decodeList?_encodeFields h]

theorem Section.decode?_encode {s : Section} (h : AllFinite s.literals) : decode? s.encode = some s := by
  cases s with
  | metadata fields => exact congrArg (Option.map Section.metadata) (decodeList?_encodeFields h)
  | context fields => exact congrArg (Option.map Section.context) (decodeList?_encodeFields h)
  | params decls =>
    rw [literals, allFinite_flatMap] at h
    exact congrArg (Option.map Section.params) (decodeList?_map fun d hd => ParamDecl.decode?_encode (h d hd))
  | body block => exact congrArg (Option.map Section.body) (Block.decode?_encode h)
  | constraints fields => exact congrArg (Option.map Section.constraints) (decodeList?_encodeFields h)
  | output fields => exact congrArg (Option.map Section.output) (decodeList?_encodeFields h)
  | hooks list =>
    rw [literals, allFinite_flatMap] at h
    exact congrArg (Option.map Section.hooks) (decodeList?_map fun hook hhook => Hook.decode?_encode (h hook hhook))
  | technique list =>
    rw [literals, allFinite_flatMap] at h
    exact congrArg (Option.map Section.technique) (decodeList?_map fun t ht => Technique.decode?_encode (h t ht))

theorem Prompt.decode?_encode {p : Prompt} (h : AllFinite p.literals) : decode? p.encode = some p := by
  rw [literals, allFinite_flatMap] at h
  have hsections : decodeList? Section.decode? (.array (p.sections.map Section.encode)) = some p.sections :=
    decodeList?_map fun s hs => Section.decode?_encode (h s hs)
  simp [Prompt.decode?_eq, Prompt.encode, field?, Entries.get?, text?, hsections]

theorem Program.decode?_encode {p : Program} (h : AllFinite p.literals) : decode? p.encode = some p := by
  rw [literals, allFinite_flatMap] at h
  have hprompts : decodeList? Prompt.decode? (.array (p.prompts.map Prompt.encode)) = some p.prompts :=
    decodeList?_map fun p hp => Prompt.decode?_encode (h p hp)
  simp [Program.decode?_eq, Program.encode, field?, Entries.get?, hprompts]

theorem Program.decode?_edits {j j' : Json} (h : Relation.ReflTransGen (Edit Shape.program) j j') :
    decode? j' = decode? j := by
  induction h with
  | refl => rfl
  | tail _ hedit ih => rw [← Program.decode?_edit hedit, ih]

/-- A program with finite literals comes back from its tree, and no tree is decoded differently after edits. A default that is
missing and one that is null stay two things, as do an else that is missing and one without statements. -/
theorem programs_come_back_from_trees (program : Program) (hfinite : AllFinite program.literals) :
    Program.decode? program.encode = some program ∧
    (∀ j j', Relation.ReflTransGen (Edit Shape.program) j j' → Program.decode? j' = Program.decode? j) ∧
    (∀ name type, ∀ default? ∈ [none, some Expr.null],
      ParamDecl.decode? (ParamDecl.encode ⟨name, type, default?⟩) = some ⟨name, type, default?⟩) ∧
    (∀ condition yes, AllFinite condition.literals → AllFinite (Stmt.blockLiterals yes) →
      ∀ s ∈ [Stmt.ifThen condition yes, Stmt.ifElse condition yes []], Stmt.decode? s.encode = some s) := by
  refine ⟨Program.decode?_encode hfinite, fun j j' => Program.decode?_edits, ?_, ?_⟩
  · intro name type default? hdefault
    refine ParamDecl.decode?_encode ?_
    simp only [List.mem_cons, List.not_mem_nil, or_false] at hdefault
    rcases hdefault with rfl | rfl <;> exact List.forall_mem_nil _
  · intro condition yes hcondition hyes s hs
    refine Stmt.decode?_encode s ?_
    simp only [List.mem_cons, List.not_mem_nil, or_false] at hs
    rcases hs with rfl | rfl
    · rw [Stmt.literals, allFinite_append]
      exact ⟨hcondition, hyes⟩
    · rw [Stmt.literals, allFinite_append, allFinite_append]
      exact ⟨⟨hcondition, hyes⟩, List.forall_mem_nil _⟩

/-- A declaration without a default beside one whose default is null, and an if without an else beside one with an empty else. -/
def choices : Program :=
  ⟨[⟨"choices",
    [.params [⟨"tone", ⟨.string, false, true⟩, none⟩, ⟨"length", ⟨.number, false, true⟩, some .null⟩],
      .body [.ifThen (.num 1.5) [], .ifElse (.num 1.5) [] []]]⟩]⟩

/-- The tree of `choices`, with more fields at the top and with what stands for the missing default and the missing else. -/
def choicesTree (more default elze : List (String × Json)) : Json :=
  .object (more ++ [("prompts", .array [.object [("name", .string "choices"), ("sections", .array [
    tag "Params" (.array [
      .object ([("name", .string "tone"), ("ty", ParamType.encode ⟨.string, false, true⟩)] ++ default),
      .object [("name", .string "length"), ("ty", ParamType.encode ⟨.number, false, true⟩), ("default", .string "Null")]]),
    tag "Body" (.array [
      tag "If" (.object ([("cond", Expr.encode (.num 1.5)), ("then", .array [])] ++ elze)),
      Stmt.encode (.ifElse (.num 1.5) [] [])])])]])])

theorem choicesTree_default (more elze : List (String × Json)) :
    Edit Shape.program (choicesTree more [("default", .null)] elze) (choicesTree more [] elze) := by
  refine .field (s := .list .prompt) (by simp) more [] (.item [] [] ?_)
  refine .field (s := .list (.choice Shape.sections)) (by simp) [_] [] (.item [] [_] ?_)
  refine .content (s := .list .paramDecl) (by simp [Shape.sections]) (.item [] [_] ?_)
  exact .drop (by simp) (by decide)

theorem choicesTree_elze (more default : List (String × Json)) :
    Edit Shape.program (choicesTree more default [("elze", .null)]) (choicesTree more default []) := by
  refine .field (s := .list .prompt) (by simp) more [] (.item [] [] ?_)
  refine .field (s := .list (.choice Shape.sections)) (by simp) [_] [] (.item [_] [] ?_)
  refine .content (s := .block) (by simp [Shape.sections]) (.item [] [_] (.stmt ?_))
  refine .content (s := .record [("cond", .expr), ("then", .list .stmt), ("elze", .list .stmt)] ["elze"])
    (by simp [Shape.stmts]) ?_
  exact .drop (by simp) (by decide)

theorem choices_literals_finite : AllFinite choices.literals := by
  have hliterals : choices.literals = [1.5, 1.5] := rfl
  rw [hliterals]
  intro x hx
  simp only [List.mem_cons, List.not_mem_nil, or_false, or_self] at hx
  subst hx
  decide

theorem choices_come_back :
    AllFinite choices.literals ∧ Program.decode? (choicesTree [("version", .number 3)] [] []) = some choices := by
  have hback := programs_come_back_from_trees choices choices_literals_finite
  have hadd : Edit Shape.program (choicesTree [] [("default", .null)] [("elze", .null)])
      (choicesTree [("version", .number 3)] [("default", .null)] [("elze", .null)]) :=
    .add (by decide) [] _ _
  have hedits : Relation.ReflTransGen (Edit Shape.program) choices.encode
      (choicesTree [("version", .number 3)] [] []) :=
    .head hadd (.head (choicesTree_default ..) (.single (choicesTree_elze ..)))
  exact ⟨choices_literals_finite, (hback.2.1 _ _ hedits).trans hback.1⟩

end PromptLang
