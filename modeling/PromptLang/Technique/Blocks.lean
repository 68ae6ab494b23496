import PromptLang.Interpreter.Block
import PromptLang.Text.Lowercase

/-! The techniques that hold blocks. A block runs in a child of the prompt's environment, and what it assigns is dropped. -/

namespace PromptLang

variable (opts : Options) (resolve : Resolver)

def chainSteps (env : Env) : List (String × Block) → Run (List Value)
  | [] => pure []
  | (name, block) :: rest => do
    let text ← blockText opts resolve block env.child
    let steps ← chainSteps env rest
    return .str ("Step: " ++ name ++ "\n" ++ text) :: steps

def runChainOfThought (steps : List (String × Block)) (env : Env) : Run (Value × Env) := do
  let texts ← chainSteps opts resolve env steps
  return (.array texts, env.setSlot Slot.chainOfThought (.array texts))

def examplePairs (env : Env) : List (Block × Block) → Run (List Value)
  | [] => pure []
  | (input, output) :: rest => do
    let input ← blockText opts resolve input env.child
    let output ← blockText opts resolve output env.child
    let pairs ← examplePairs env rest
    return .object [("input", .str input), ("output", .str output)] :: pairs

def runFewShot (examples : List (Block × Block)) (env : Env) : Run (Value × Env) := do
  let pairs ← examplePairs opts resolve env examples
  return (.array pairs, env.setSlot Slot.examples (.array pairs))

/-- Plan, work and solution, each block seeing the texts of those before it. -/
def runReWOO (planner worker solver : Block) (env : Env) : Run Value := do
  let plan ← blockText opts resolve planner env.child
  let work ← blockText opts resolve worker (env.extend "plan" (.str plan))
  let solution ← blockText opts resolve solver ((env.extend "plan" (.str plan)).bind "work" (.str work))
  return .object [("plan", .str plan), ("work", .str work), ("solution", .str solution)]

/-- The three texts of one round of a ReAct loop. -/
structure Round where
  observation : String
  thought : String
  action : String

namespace Round

def toValue (r : Round) : Value :=
  .object [("observation", .str r.observation), ("thought", .str r.thought), ("action", .str r.action)]

/-- An action that mentions the word in any case ends the loop. -/
def isFinal (r : Round) : Bool := Text.mentions (Text.lowercase r.action) "finish"

def bindIn (r : Round) (env : Env) : Env :=
  ((env.bind "observation" (.str r.observation)).bind "thought" (.str r.thought)).bind "action" (.str r.action)

end Round

/-- One round from a base environment: each block sees the texts of those before it. -/
def reActRound (observation thought action : Block) (base : Env) : Run Round := do
  let seen ← blockText opts resolve observation base.child
  let idea ← blockText opts resolve thought (base.extend "observation" (.str seen))
  let act ← blockText opts resolve action
    ((base.extend "observation" (.str seen)).bind "thought" (.str idea))
  return ⟨seen, idea, act⟩

/-- Rounds until one is final, at most `rounds` of them. -/
def reActLoop (observation thought action : Block) : Nat → Env → Run (List Value)
  | 0, _ => Run.fail (.depthExceeded .rounds opts.maxReactIterations)
  | rounds + 1, base => do
    let round ← reActRound opts resolve observation thought action base
    if round.isFinal then return [round.toValue]
    let later ← reActLoop observation thought action rounds (round.bindIn base)
    return round.toValue :: later

def runReAct (observation thought action : Block) (env : Env) : Run Value := do
  let rounds ← reActLoop opts resolve observation thought action opts.maxReactIterations env.child
  return .array rounds

end PromptLang
