import PromptLang.Error
import PromptLang.Value.Json

/-! Generation settings for the provider, read from the constraints of a prompt. Unknown keys are skipped and null means absent; the
first setting of the wrong type is an error. An array gives the settings by position. -/

namespace PromptLang

structure Constraints where
  maxTokens : Option Nat := none
  temperature : Option Float := none
  topP : Option Float := none
  frequencyPenalty : Option Float := none
  presencePenalty : Option Float := none
  model : Option String := none

inductive Setting where
  | maxTokens | temperature | topP | frequencyPenalty | presencePenalty | model
deriving DecidableEq, Repr

namespace Setting

/-- In the order in which an array gives them. -/
def all : List Setting := [maxTokens, temperature, topP, frequencyPenalty, presencePenalty, model]

def key : Setting → String
  | maxTokens => "maxTokens"
  | temperature => "temperature"
  | topP => "topP"
  | frequencyPenalty => "frequencyPenalty"
  | presencePenalty => "presencePenalty"
  | model => "model"

def ofKey? (key : String) : Option Setting := all.find? (·.key = key)

end Setting

def Unexpected.ofJson : Json → Unexpected
  | .null => .null
  | .bool b => .boolean b
  | .number x =>
    match Number.smallInt? x with
    | some n => .integer n
    | none => .float x
  | .string s => .string s
  | .array _ => .sequence
  | .object _ => .map

namespace Constraints

def wrongType (j : Json) (expected : SettingType) : Error :=
  .invalid (.settingType (Unexpected.ofJson j) expected)

def readCount : Json → Except Error (Option Nat)
  | .null => .ok none
  | .number x =>
    match Number.smallInt? x with
    | some (.ofNat n) =>
      if n < word32 then .ok (some n) else .error (.invalid (.settingValue (.integer n) .count))
    | some n => .error (.invalid (.settingValue (.integer n) .count))
    | none => .error (wrongType (.number x) .count)
  | j => .error (wrongType j .count)

def readNumber : Json → Except Error (Option Float)
  | .null => .ok none
  | .number x => .ok (some x)
  | j => .error (wrongType j .number)

def readString : Json → Except Error (Option String)
  | .null => .ok none
  | .string s => .ok (some s)
  | j => .error (wrongType j .string)

def set (c : Constraints) (j : Json) : Setting → Except Error Constraints
  | .maxTokens => (readCount j).map fun v => { c with maxTokens := v }
  | .temperature => (readNumber j).map fun v => { c with temperature := v }
  | .topP => (readNumber j).map fun v => { c with topP := v }
  | .frequencyPenalty => (readNumber j).map fun v => { c with frequencyPenalty := v }
  | .presencePenalty => (readNumber j).map fun v => { c with presencePenalty := v }
  | .model => (readString j).map fun v => { c with model := v }

def setMembers (c : Constraints) : List (String × Json) → Except Error Constraints
  | [] => .ok c
  | (key, j) :: rest => do
    let c ← match Setting.ofKey? key with
      | some setting => c.set j setting
      | none => .ok c
    c.setMembers rest

/-- Takes items for the settings in turn. -/
def setItems (c : Constraints) : List Setting → List Json → Except Error Constraints
  | setting :: settings, j :: rest => do
    let c ← c.set j setting
    c.setItems settings rest
  | _, _ => .ok c

def ofJson : Json → Except Error Constraints
  | .object members => setMembers {} members
  | .array items => do
    let c ← setItems {} Setting.all items
    if Setting.all.length < items.length then .error (.invalid (.tooManySettings items.length)) else .ok c
  | j => .error (wrongType j .record)

/-- No value and null give no settings. -/
def ofValue? : Option Value → Except Error Constraints
  | none | some .null => .ok {}
  | some v => ofJson v.toJson

end Constraints

end PromptLang
