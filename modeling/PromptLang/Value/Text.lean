import PromptLang.Number.Reader
import PromptLang.Value.Json

/-! The number that a value spells, and its two texts: the one that is spliced into prompts, and the one that messages show. -/

namespace PromptLang.Value

def numeric? : Value → Option Float
  | .num x => some x
  | .str s => Number.readTrimmed? s
  | _ => none

/-- The text spliced into prompts: null is empty, containers are compact JSON. -/
def text : Value → String
  | .str s => s
  | .num x => Number.text x
  | .bool b => toString b
  | .null => ""
  | .function hook => hookLabel hook
  | container => container.toJson.compact

mutual

/-- The text in messages: texts in quotes, containers with their parts in the same form. -/
def display : Value → String
  | .str s => Text.quoted s
  | .num x => Number.text x
  | .bool b => toString b
  | .null => "null"
  | .array items => "[" ++ String.intercalate ", " (displayList items) ++ "]"
  | .object members => "\x7b" ++ String.intercalate ", " (displayMembers members) ++ "\x7d"
  | .function hook => hookLabel hook
termination_by structural v => v

def displayList : List Value → List String
  | [] => []
  | v :: vs => display v :: displayList vs
termination_by structural vs => vs

def displayMembers : List (String × Value) → List String
  | [] => []
  | (key, v) :: rest => (key ++ ": " ++ display v) :: displayMembers rest
termination_by structural ms => ms

end

end PromptLang.Value
