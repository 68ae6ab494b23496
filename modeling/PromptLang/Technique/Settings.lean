import PromptLang.Compose
import PromptLang.Eval.Hook
import PromptLang.Run

/-! The settings of a field-driven technique. Each is evaluated when it is read; of a repeated field the last counts. -/

namespace PromptLang

/-- A technique of a kind with fields; kinds that hold blocks take none. -/
def Technique.ofFields (kind : String) (fields : List Field) : Except Error Technique :=
  match Method.ofKind? kind with
  | some method => .ok (.byFields method fields)
  | none =>
    if Technique.blockKinds.contains kind then .error (.invalid (.blockTechnique kind))
    else .error (.invalid .unknownTechnique)

/-- The fields of a technique and what is needed to evaluate them. -/
structure Settings where
  opts : Options
  env : Env
  method : Method
  fields : List Field

namespace Settings

def value (s : Settings) (name : String) : Except Error Value :=
  match findField? name s.fields with
  | some e => evaluate s.opts s.env e
  | none => .error (.invalid (.missingField s.method.kind name))

def text (s : Settings) (name : String) : Except Error String := (s.value name).map Value.text

/-- A count: a whole number from 1 up to the limit of calls for one technique. -/
def count (s : Settings) (name : String) : Except Error Nat := do
  let v ← s.value name
  match v.numeric?.bind Number.toInt? with
  | some (.ofNat (n + 1)) =>
    if n + 1 ≤ s.opts.maxTechniqueCalls then .ok (n + 1)
    else .error (.invalid (.aboveLimit s.method.kind name (n + 1) s.opts.maxTechniqueCalls))
  | _ => .error (.mismatch (.count s.method.kind name v.display))

def object (s : Settings) (name : String) : Except Error (Entries Value) := do
  let v ← s.value name
  match v with
  | .object members => .ok members
  | other => .error (.mismatch (.library s.method.kind name other.kind))

end Settings

/-- Refuses the name of a strategy that is not known, before anything is asked. -/
def ensureStrategy (purpose : String) (known : List String) (name : String) : Except Error Unit :=
  if name ∈ known then .ok () else .error (.unknownStrategy purpose name)

def Env.constraints (env : Env) : Except Error Constraints := Constraints.ofValue? (env.slot? Slot.constraints)

end PromptLang
