import PromptLang.Number.Reader
import PromptLang.Options

/-! Options from the variables of a process. A limit that is absent, malformed or zero keeps its default. -/

namespace PromptLang

/-- A 64-bit natural number: digits after an optional plus sign. -/
def word64? (cs : List Char) : Option Nat :=
  let digits := match cs with
    | '+' :: rest => rest
    | _ => cs
  if digits ≠ [] ∧ digits.all Char.isDigit ∧ Number.digitsValue digits < word64 then
    some (Number.digitsValue digits)
  else none

def limitOf (value? : Option String) (fallback : Nat) : Nat :=
  match value?.bind fun raw => word64? (Text.trimChars raw.toList) with
  | some (n + 1) => n + 1
  | _ => fallback

/-- Anything but blanks, `0` and the word for false is a yes. -/
def switchOf (value? : Option String) : Bool :=
  match value? with
  | none => false
  | some raw => ["", "0", "false", "FALSE", "False"].all (· ≠ Text.trim raw)

def Options.ofVariables (var : String → Option String) : Options :=
  let base : Options := {}
  { base with
    maxUseDepth := limitOf (var "NUDGE_MAX_USE_DEPTH") base.maxUseDepth
    maxReactIterations := limitOf (var "NUDGE_MAX_REACT_ITERATIONS") base.maxReactIterations
    maxHookDepth := limitOf (var "NUDGE_MAX_HOOK_DEPTH") base.maxHookDepth
    maxConcurrentCalls := limitOf (var "NUDGE_MAX_CONCURRENT_CALLS") base.maxConcurrentCalls
    maxTechniqueCalls := limitOf (var "NUDGE_MAX_TECHNIQUE_CALLS") base.maxTechniqueCalls
    strictIdentifiers := switchOf (var "NUDGE_STRICT_IDENTIFIERS") }

end PromptLang
