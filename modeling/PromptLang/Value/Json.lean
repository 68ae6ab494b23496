import PromptLang.Json.Printer
import PromptLang.Value.Basic

/-! Values as JSON and back. A hook has only its name to show, and floats without a JSON number become null, so these two are
lost; signed zeros fall together. -/

namespace PromptLang.Value

def hookLabel (hook : Hook) : String := "[hook " ++ hook.name ++ "]"

/-- A number with the sign of zero dropped. -/
def jsonNumber (x : Float) : Json := if x == 0 then .number 0 else Json.ofFloat x

mutual

def toJson : Value → Json
  | .str s => .string s
  | .num x => jsonNumber x
  | .bool b => .bool b
  | .null => .null
  | .array items => .array (toJsonList items)
  | .object members => .object (toJsonMembers members)
  | .function hook => .string (hookLabel hook)
termination_by structural v => v

def toJsonList : List Value → List Json
  | [] => []
  | v :: vs => toJson v :: toJsonList vs
termination_by structural vs => vs

def toJsonMembers : List (String × Value) → List (String × Json)
  | [] => []
  | (key, v) :: rest => (key, toJson v) :: toJsonMembers rest
termination_by structural ms => ms

end

mutual

def ofJson : Json → Value
  | .null => .null
  | .bool b => .bool b
  | .number x => .num x
  | .string s => .str s
  | .array items => .array (ofJsonList items)
  | .object members => .object (ofJsonMembers members)
termination_by structural j => j

def ofJsonList : List Json → List Value
  | [] => []
  | j :: js => ofJson j :: ofJsonList js
termination_by structural js => js

def ofJsonMembers : List (String × Json) → List (String × Value)
  | [] => []
  | (key, j) :: rest => (key, ofJson j) :: ofJsonMembers rest
termination_by structural ms => ms

end

end PromptLang.Value
