import PromptLang.Entries

/-! JSON trees. Objects keep the order in which their members were written. -/

namespace PromptLang

inductive Json where
  | null
  | bool (b : Bool)
  | number (x : Float)
  | string (s : String)
  | array (items : List Json)
  | object (members : List (String × Json))
deriving Inhabited

namespace Json

/-- A number, or null where JSON has no number for a float. -/
def ofFloat (x : Float) : Json := if x.isFinite then .number x else .null

def tag (name : String) (content : Json) : Json := .object [(name, content)]

def member? (name : String) : Json → Option Json
  | .object members => Entries.get? name members
  | _ => none

end Json

end PromptLang
