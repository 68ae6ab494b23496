import PromptLang.Env
import PromptLang.Value.Text

/-! The text sent to the provider. Its blocks have a fixed order and each stands only when there is something to show: context, examples,
instruction, chain of thought, and last the task itself. -/

namespace PromptLang

def contextBlock (env : Env) : String :=
  match env.slotObject? Slot.context with
  | none | some [] => ""
  | some members => "Context:\n" ++ (Value.toJson (.object members)).indented ++ "\n\n"

def exampleText (pair : Value) : String :=
  "Input: " ++ (pair.member "input").text ++ "\nOutput: " ++ (pair.member "output").text ++ "\n"

def examplesBlock (env : Env) : String :=
  match (env.slot? Slot.examples).bind Value.array? with
  | none => ""
  | some examples => "Examples:\n" ++ String.join (examples.map exampleText) ++ "\n"

def instructionBlock (env : Env) : String :=
  match env.slot? Slot.instruction with
  | none => ""
  | some instruction => "Instruction:\n" ++ instruction.text ++ "\n\n"

def chainBlock (env : Env) : String :=
  match (env.slot? Slot.chainOfThought).bind Value.array? with
  | none => ""
  | some steps => "Chain of Thought:\n" ++ String.intercalate "\n" (steps.map Value.text) ++ "\n\n"

/-- The prompt as it stands, with `body` as its task. -/
def compose (env : Env) (body : String) : String :=
  contextBlock env ++ examplesBlock env ++ instructionBlock env ++ chainBlock env ++ "Task:\n" ++ body

end PromptLang
