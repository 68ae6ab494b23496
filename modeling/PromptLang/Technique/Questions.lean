import PromptLang.Batch
import PromptLang.Strategy.Task
import PromptLang.Technique.Settings

/-! Techniques that work on the questions, clusters or tasks found in the current prompt. All settings are checked before the first call,
and every answer is reported with what it answers. -/

namespace PromptLang

def scoreQuestions (estimation : String) : List String → Except Error (List ScoredQuestion)
  | [] => .ok []
  | text :: rest => do
    let uncertainty ← estimateUncertainty estimation text
    let others ← scoreQuestions estimation rest
    return ⟨text, .ofFloat uncertainty⟩ :: others

/-- Annotates questions, by the provider or else by the annotator. -/
def annotateQuestions (host : Host) (limit : Nat) (constraints : Constraints) (process : String) (questions : List String) :
    Run (List String) :=
  if process = "auto" then generateAll host limit constraints questions else annotateAll host questions

def followUp (prompt : String) (annotated : List (String × String)) : String :=
  prompt ++ "\n\nAnnotated questions:\n"
    ++ String.intercalate "\n" (annotated.map fun (question, note) => question ++ ": " ++ note) ++ "\n"

/-- Annotates the questions that are worth it and asks again with the annotations attached. -/
def runActivePrompting (host : Host) (s : Settings) (body : String) : Run Value := do
  let estimation ← s.text "uncertaintyEstimation"
  let selection ← s.text "selectionStrategy"
  let process ← s.text "annotationProcess"
  ensureStrategy "activePrompting uncertainty estimation" ["entropy", "length"] estimation
  ensureStrategy "activePrompting selection" ["max_uncertainty", "random"] selection
  ensureStrategy "activePrompting annotation" ["auto", "human_in_the_loop"] process
  let constraints ← s.env.constraints
  let prompt := compose s.env body
  let candidates ← scoreQuestions estimation (splitQuestions prompt)
  let selected ← selectQuestions selection candidates s.opts.randomWords
  let notes ← annotateQuestions host s.opts.maxConcurrentCalls constraints process (selected.map ScoredQuestion.text)
  let response ← generate host constraints (followUp prompt ((selected.map ScoredQuestion.text).zip notes))
  let questions := (selected.zip notes).map fun (q, note) =>
    Value.object [("question", .str q.text), ("uncertainty", .num q.uncertainty.toFloat), ("annotation", .str note)]
  return .object [("questions", .array questions), ("response", .str response)]

def chainPrompt (question : String) : String := "Generate a chain of thought for: " ++ question

/-- A chain of thought for one question of each cluster. -/
def runAutoCot (host : Host) (s : Settings) (body : String) : Run Value := do
  let method ← s.text "clusteringMethod"
  let selection ← s.text "representativeSelection"
  ensureStrategy "autoCot clustering" ["keyword", "length"] method
  ensureStrategy "autoCot representative selection" ["longest", "random"] selection
  let constraints ← s.env.constraints
  let clusters ← clusterQuestions method (compose s.env body)
  let questions ← representatives selection clusters s.opts.randomWords
  let chains ← generateAll host s.opts.maxConcurrentCalls constraints (questions.map chainPrompt)
  return .array ((questions.zip chains).map fun (question, chain) =>
    .object [("question", .str question), ("chain", .str chain)])

/-- A task and its tools by the category of the prompt, run step by step. -/
def runArt (host : Host) (s : Settings) (body : String) : Run Value := do
  let tasks ← s.object "taskLibrary"
  let tools ← s.object "toolLibrary"
  let strategy ← s.text "decompositionStrategy"
  ensureStrategy "art decomposition" ["sequential", "parallel"] strategy
  let constraints ← s.env.constraints
  let category := classifyTask (compose s.env body)
  match selectTask? tasks category with
  | none => Run.fail (.invalid (.noTask category.name))
  | some task =>
    let steps ← decomposeTask strategy task
    let results ← generateAll host s.opts.maxConcurrentCalls constraints steps
    return .object [
      ("task", .str task),
      ("category", .str category.name),
      ("tools", .array ((selectTools tools category).map .str)),
      ("steps", .array ((steps.zip results).map fun (step, result) =>
        .object [("step", .str step), ("result", .str result)]))]

end PromptLang
