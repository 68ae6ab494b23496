import PromptLang.Technique.Blocks
import PromptLang.Technique.Questions
import PromptLang.Technique.Sampling

/-! Applying a technique: its result, and the environment with what the technique stores in its own slot. -/

namespace PromptLang

def runZeroShot (s : Settings) : Except Error (Value × Env) := do
  let instruction ← s.text "instruction"
  return (.str instruction, s.env.setSlot Slot.instruction (.str instruction))

/-- Asks for a reflection and stores it under a name that is not reserved. -/
def runReflection (host : Host) (s : Settings) : Run (Value × Env) := do
  let prompt ← s.text "reflectionPrompt"
  let buffer ← s.text "memoryBuffer"
  if Slot.isReserved buffer then Run.fail (.invalid (.reservedBuffer buffer))
  else
    let constraints ← s.env.constraints
    let answer ← generate host constraints prompt
    return (.str answer, s.env.setSlot buffer (.str answer))

def runExpertPrompting (s : Settings) : Except Error Value := do
  let identity ← s.text "expertIdentity"
  let description ← s.text "expertDescription"
  return .object [("identity", .str identity), ("description", .str description)]

def keeping (env : Env) (x : Run Value) : Run (Value × Env) := do
  let v ← x
  return (v, env)

def Method.apply (opts : Options) (host : Host) (method : Method) (fields : List Field) (body : String) (env : Env) :
    Run (Value × Env) :=
  let s : Settings := ⟨opts, env, method, fields⟩
  match method with
  | .zeroShot => Run.ofExcept (runZeroShot s)
  | .selfConsistency => keeping env (runSelfConsistency host s body)
  | .treeOfThoughts => keeping env (runTreeOfThoughts host s body)
  | .activePrompting => keeping env (runActivePrompting host s body)
  | .reflection => runReflection host s
  | .expertPrompting => keeping env (Run.ofExcept (runExpertPrompting s))
  | .ape => keeping env (runApe host s body)
  | .autoCot => keeping env (runAutoCot host s body)
  | .art => keeping env (runArt host s body)

def Technique.apply (opts : Options) (host : Host) (resolve : Resolver) (body : String) (env : Env) :
    Technique → Run (Value × Env)
  | .chainOfThought steps => runChainOfThought opts resolve steps env
  | .fewShot examples => runFewShot opts resolve examples env
  | .reWOO planner worker solver => keeping env (runReWOO opts resolve planner worker solver env)
  | .reAct observation thought action =>
    keeping env (runReAct opts resolve observation thought action env)
  | .byFields method fields => method.apply opts host fields body env

end PromptLang
