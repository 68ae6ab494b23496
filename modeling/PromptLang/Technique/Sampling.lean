import PromptLang.Batch
import PromptLang.Strategy.ThoughtTree
import PromptLang.Strategy.Vote
import PromptLang.Technique.Settings

/-! Techniques that sample the provider several times and keep one answer. All settings are checked before the first call. -/

namespace PromptLang

/-- Several answers to the current prompt, put together by a vote or a mean. -/
def runSelfConsistency (host : Host) (s : Settings) (body : String) : Run Value := do
  let generations ← s.count "generations"
  let strategy ← s.text "selectionStrategy"
  ensureStrategy "selfConsistency selection" ["majority_vote", "average"] strategy
  let constraints ← s.env.constraints
  let answers ← generateAll host s.opts.maxConcurrentCalls constraints (List.replicate generations (compose s.env body))
  selectMostConsistent strategy (answers.map .str)

def expansionPrompt (context thought : String) : String :=
  context ++ "\n\nExpand on this thought: " ++ thought

/-- Expands every thought into `breadth` new ones, for a number of levels. -/
def expandThoughts (host : Host) (limit : Nat) (constraints : Constraints) (context : String) (breadth : Nat) :
    Nat → List String → Run (List String)
  | 0, thoughts => pure thoughts
  | levels + 1, thoughts => do
    let prompts := thoughts.flatMap fun thought => List.replicate breadth (expansionPrompt context thought)
    let next ← generateAll host limit constraints prompts
    expandThoughts host limit constraints context breadth levels next

/-- A full tree of thoughts below the current prompt, and its best leaf. -/
def runTreeOfThoughts (host : Host) (s : Settings) (body : String) : Run Value := do
  let breadth ← s.count "breadth"
  let depth ← s.count "depth"
  let strategy ← s.text "evaluationStrategy"
  ensureStrategy "treeOfThoughts evaluation" ["length", "keyword_match"] strategy
  let limit := s.opts.maxTechniqueCalls
  if !(treeSize? breadth depth).any (· ≤ limit) then
    Run.fail (.invalid (.treeTooLarge breadth depth limit))
  else
    let constraints ← s.env.constraints
    let first ← generateAll host s.opts.maxConcurrentCalls constraints (List.replicate breadth (compose s.env body))
    let leaves ← expandThoughts host s.opts.maxConcurrentCalls constraints s.env.toJson.compact breadth (depth - 1) first
    let best ← bestThought strategy leaves
    return .str best

def scorePrompt (function candidate : String) : String :=
  "Score the following prompt using the '" ++ function
    ++ "' criterion. Reply with a single number only.\n\n" ++ candidate

def readScore (function reply : String) : Except Error Float :=
  match Number.readTrimmed? reply with
  | some x => .ok x
  | none => .error (.mismatch (.score function reply))

def bestByProvider (host : Host) (limit : Nat) (constraints : Constraints) (function : String) (candidates : List String) :
    Run (Option String) := do
  let replies ← generateAll host limit constraints (candidates.map (scorePrompt function))
  let scores ← (replies.mapM (readScore function) : Except Error (List Float))
  return (firstMax? scores).bind fun i => candidates[i]?

/-- Candidates for the current prompt, of which the best-scored one is kept. -/
def runApe (host : Host) (s : Settings) (body : String) : Run Value := do
  let pool ← s.count "candidatePool"
  let function ← s.text "scoreFunction"
  let constraints ← s.env.constraints
  let candidates ← generateAll host s.opts.maxConcurrentCalls constraints (List.replicate pool (compose s.env body))
  match Scorer.ofName? function with
  | some scorer => return .str ((bestBy? scorer.score candidates).getD "")
  | none =>
    let best ← bestByProvider host s.opts.maxConcurrentCalls constraints function candidates
    return .str (best.getD "")

end PromptLang
