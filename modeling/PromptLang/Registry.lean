import PromptLang.Entries
import PromptLang.Error
import PromptLang.Syntax.Prompt

/-! Prompts that programs can use by name. The last registration of a name wins. -/

namespace PromptLang

structure Registry where
  prompts : Entries Prompt := []

namespace Registry

def get? (r : Registry) (name : String) : Option Prompt := r.prompts.get? name

def contains (r : Registry) (name : String) : Bool := r.prompts.has name

def size (r : Registry) : Nat := r.prompts.length

def insert (r : Registry) (name : String) (prompt : Prompt) : Registry := ⟨r.prompts.insert name prompt⟩

def register (r : Registry) (name : String) (program : Program) : Except Error Registry :=
  match program.entry? with
  | some prompt => .ok (r.insert name prompt)
  | none => .error (.invalid .nothingToRegister)

def registerPrompt (r : Registry) (prompt : Prompt) : Registry := r.insert prompt.name prompt

def sorted (r : Registry) : List (String × Prompt) := r.prompts.mergeSort fun a b => !(b.1 < a.1)

end Registry

end PromptLang
