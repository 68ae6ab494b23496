import PromptLang.Technique.Apply

/-! Running the sections of a prompt. First come metadata, context and parameters; then the hook `preProcess` may replace the parameters,
once; then the body, the remaining declarations and the techniques. -/

namespace PromptLang

structure TechniqueResult where
  kind : String
  result : Value

def TechniqueResult.toValue (r : TechniqueResult) : Value := .object [("kind", .str r.kind), ("result", r.result)]

def populate (opts : Options) (slot : String) : List Field → Env → Except Error Env
  | [], env => .ok env
  | field :: rest, env => do
    let v ← evaluate opts env field.value
    populate opts slot rest (env.setSlotField slot field.name v)

def BaseType.accepts : BaseType → Value → Bool
  | .string, .str _ => true
  | .number, .num _ => true
  | .boolean, .bool _ => true
  | .array, .array _ => true
  | .object, .object _ => true
  | _, _ => false

/-- Null is accepted where the type is optional, and an array type wants every item of its base. -/
def ParamType.accepts (t : ParamType) : Value → Bool
  | .null => t.isOptional
  | .array items => if t.isArray then items.all t.base.accepts else t.base.accepts (.array items)
  | v => !t.isArray && t.base.accepts v

/-- The value of a parameter: given, else its default in the environment as it is. -/
def ParamDecl.value (opts : Options) (env : Env) (params : Entries Value) (d : ParamDecl) : Except Error Value :=
  match params.get? d.name with
  | some v => .ok v
  | none =>
    match d.default? with
    | some e => evaluate opts env e
    | none => .error (.missingParameter d.name)

def bindDecls (opts : Options) (env : Env) : List ParamDecl → Entries Value → Except Error (Entries Value)
  | [], params => .ok params
  | d :: rest, params => do
    let v ← d.value opts env params
    if d.type.accepts v then bindDecls opts env rest (params.insert d.name v)
    else .error (.mismatch (.parameter d.name d.type v.kind))

def bindParams (opts : Options) (decls : List ParamDecl) (env : Env) : Except Error Env := do
  let params ← bindDecls opts env decls env.params
  return env.setSlot Slot.params (.object params)

/-- Runs the hook `preProcess`, if there is one, on the parameters. An object replaces them and null keeps them. -/
def preProcess (opts : Options) (prompt : Prompt) (env : Env) : Except Error Env :=
  match prompt.hook? "preProcess" with
  | none => .ok env
  | some hook => do
    let v ← callHookAt opts 1 hook [.object env.params]
    match v with
    | .object params => return env.setSlot Slot.params (.object params)
    | .null => return env
    | other => .error (.mismatch (.preProcess other.kind))

def registerHooks (hooks : List Hook) (env : Env) : Env :=
  hooks.foldl (fun env hook => env.setSlotField Slot.hooks hook.name (.function hook)) env

structure Progress where
  env : Env
  body : String := ""
  techniques : List TechniqueResult := []

def applyTechniques (opts : Options) (host : Host) (resolve : Resolver) : List Technique → Progress → Run Progress
  | [], p => pure p
  | t :: rest, p => do
    let (v, env) ← t.apply opts host resolve p.body p.env
    let result : TechniqueResult := ⟨t.kind, v⟩
    applyTechniques opts host resolve rest
      { p with env := env.pushSlotItem Slot.techniques result.toValue, techniques := p.techniques ++ [result] }

def Progress.update (p : Progress) (x : Except Error Env) : Run Progress := do
  let env ← x
  return { p with env := env }

def Section.run (opts : Options) (host : Host) (resolve : Resolver) (s : Section) (p : Progress) : Run Progress :=
  match s with
  | .metadata fields => p.update (populate opts Slot.metadata fields p.env)
  | .context fields => p.update (populate opts Slot.context fields p.env)
  | .params decls => p.update (bindParams opts decls p.env)
  | .body block => do
    let (text, env) ← Stmt.runBlock opts resolve block p.env
    return { p with env := env, body := p.body ++ text }
  | .constraints fields => p.update (populate opts Slot.constraints fields p.env)
  | .output fields => p.update (populate opts Slot.output fields p.env)
  | .hooks list => pure { p with env := registerHooks list p.env }
  | .technique list => applyTechniques opts host resolve list p

/-- Sections that come before the hook `preProcess`. -/
def Section.isEarly (s : Section) : Bool := s.rank ≤ SectionKind.params.rank

def preProcessIf (opts : Options) (prompt : Prompt) (due : Bool) (p : Progress) : Run Progress :=
  if due then p.update (preProcess opts prompt p.env) else pure p

/-- One pass over sections that stand in the order of execution. As long as the hook `preProcess` is pending, the first section that
is not early makes it run; it runs at the end if there is no such section. -/
def runInOrder (opts : Options) (host : Host) (resolve : Resolver) (prompt : Prompt) :
    Bool → List Section → Progress → Run Progress
  | pending, [], p => preProcessIf opts prompt pending p
  | pending, s :: rest, p => do
    let p ← preProcessIf opts prompt (pending && !s.isEarly) p
    let p ← s.run opts host resolve p
    runInOrder opts host resolve prompt (pending && s.isEarly) rest p

def runSections (opts : Options) (host : Host) (resolve : Resolver) (prompt : Prompt) (env : Env) : Run Progress :=
  runInOrder opts host resolve prompt true prompt.ordered { env := env }

end PromptLang
