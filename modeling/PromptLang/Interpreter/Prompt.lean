import PromptLang.Interpreter.Section
import PromptLang.Output
import PromptLang.Registry

/-! Running a prompt from its parameters to its output: sections, composition, the provider call, the hook `postProcess` and the
declared output format. Uses nest up to a limit, and the number of levels that are left is what the recursion runs on. -/

namespace PromptLang

structure Outcome where
  promptName : String
  /-- The text sent to the provider. -/
  prompt : String
  body : String
  /-- The answer of the provider. -/
  response : String
  /-- The answer after the hook `postProcess` and output formatting. -/
  output : Value
  techniques : List TechniqueResult

def postProcess (opts : Options) (env : Env) (response : Value) : Except Error Value :=
  match env.slotMember? Slot.hooks "postProcess" with
  | some (.function hook) => callHookAt opts 1 hook [response]
  | _ => .ok response

/-- What follows the sections: the provider call with the composed text, the hook `postProcess` and the declared format. -/
def finish (opts : Options) (host : Host) (name : String) (p : Progress) : Run Outcome := do
  let composed := compose p.env p.body
  let constraints ← p.env.constraints
  let response ← generate host constraints composed
  let processed ← postProcess opts p.env (.str response)
  let output ← formatOutput processed (p.env.slot? Slot.output)
  return ⟨name, composed, p.body, response, output, p.techniques⟩

def runWith (opts : Options) (host : Host) (resolve : Resolver) (prompt : Prompt) (params : Entries Value) :
    Run Outcome := do
  let p ← runSections opts host resolve prompt (Env.withParams params)
  finish opts host prompt.name p

theorem runWith_of_sorted (opts : Options) (host : Host) (resolve : Resolver) {prompt : Prompt}
    (h : prompt.sections.Pairwise fun a b => a.rank ≤ b.rank) :
    runWith opts host resolve prompt = fun params =>
      runInOrder opts host resolve prompt true prompt.sections { env := Env.withParams params } >>=
        finish opts host prompt.name := by
  funext params
  simp only [runWith, runSections, Prompt.ordered_of_sorted h]

/-- Uses where no level is left. -/
def exhausted (opts : Options) : Resolver := fun name => .error (.depthExceeded (.uses name) opts.maxUseDepth)

def nested (lookup : String → Option Prompt) (run : Prompt → Entries Value → Run Outcome) : Resolver := fun name =>
  match lookup name with
  | none => .error (.unresolvedPrompt name)
  | some prompt => .ok fun params => do
    let outcome ← run prompt params
    return outcome.output.text

/-- Runs a prompt with `levels` levels of uses left; `lookup` finds prompts by name. -/
def runPrompt (opts : Options) (host : Host) (lookup : String → Option Prompt) :
    Nat → Prompt → Entries Value → Run Outcome
  | 0 => runWith opts host (exhausted opts)
  | levels + 1 => runWith opts host (nested lookup (runPrompt opts host lookup levels))

def usesAt (opts : Options) (host : Host) (lookup : String → Option Prompt) : Nat → Resolver
  | 0 => exhausted opts
  | levels + 1 => nested lookup (runPrompt opts host lookup levels)

theorem runPrompt_eq (opts : Options) (host : Host) (lookup : String → Option Prompt) (levels : Nat) :
    runPrompt opts host lookup levels = runWith opts host (usesAt opts host lookup levels) := by
  cases levels <;> rfl

theorem usesAt_of_sorted (opts : Options) (host : Host) {lookup : String → Option Prompt} {name : String} {prompt : Prompt}
    (hfound : lookup name = some prompt) (h : prompt.sections.Pairwise fun a b => a.rank ≤ b.rank) (levels : Nat) :
    usesAt opts host lookup (levels + 1) name = .ok fun params => do
      let p ← runInOrder opts host (usesAt opts host lookup levels) prompt true prompt.sections { env := Env.withParams params }
      let outcome ← finish opts host prompt.name p
      return outcome.output.text := by
  rw [usesAt, runPrompt_eq]
  simp only [nested, hfound, runWith_of_sorted _ _ _ h, bind_assoc]

/-- Prompts of the program come before registered ones. -/
def lookupPrompt (program : Program) (registry : Registry) (name : String) : Option Prompt :=
  (program.prompt? name).or (registry.get? name)

def execute (opts : Options) (host : Host) (registry : Registry) (program : Program) (params : Entries Value) :
    Run Outcome :=
  match program.entry? with
  | none => Run.fail (.invalid .noPrompts)
  | some prompt => runPrompt opts host (lookupPrompt program registry) opts.maxUseDepth prompt params

theorem execute_of_sorted (opts : Options) (host : Host) (registry : Registry) {program : Program} {prompt : Prompt}
    (hentry : program.entry? = some prompt) (h : prompt.sections.Pairwise fun a b => a.rank ≤ b.rank)
    (params : Entries Value) :
    execute opts host registry program params =
      runInOrder opts host (usesAt opts host (lookupPrompt program registry) opts.maxUseDepth) prompt true prompt.sections
        { env := Env.withParams params } >>= finish opts host prompt.name := by
  simp only [execute, hentry, runPrompt_eq, runWith_of_sorted _ _ _ h]

end PromptLang
