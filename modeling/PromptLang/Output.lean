import PromptLang.Error
import PromptLang.Json.Reader
import PromptLang.Value.Json

/-! The declared form of a prompt's output. With the format `json` a text is parsed; anything else passes unchanged. -/

namespace PromptLang

def outputDepth : Nat := 127

/-- The output section asks for JSON, whatever the case of the word. -/
def wantsJson (output? : Option Value) : Bool :=
  match output?.bind fun output => (output.member "format").string? with
  | some format => format.toList.map Char.toLower == ['j', 's', 'o', 'n']
  | none => false

def formatOutput (response : Value) (output? : Option Value) : Except Error Value :=
  if wantsJson output? then
    match response with
    | .str text =>
      match Json.read? outputDepth text with
      | some j => .ok (Value.ofJson j)
      | none => .error .outputFormat
    | other => .ok other
  else .ok response

end PromptLang
