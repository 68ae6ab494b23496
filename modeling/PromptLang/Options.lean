import PromptLang.Env
import PromptLang.Strategy.Draw

/-! The limits and choices under which prompts run. -/

namespace PromptLang

structure Options where
  /-- Nesting limit of `use` statements. -/
  maxUseDepth : Nat := 16
  /-- Limit of the rounds of a ReAct loop. -/
  maxReactIterations : Nat := 10
  /-- Nesting limit of hook calls. -/
  maxHookDepth : Nat := 32
  /-- Provider calls that may be in flight together. Answers are taken in the order of the calls, whatever the limit. -/
  maxConcurrentCalls : Nat := 4
  /-- Limit of the provider calls that one technique may plan. -/
  maxTechniqueCalls : Nat := 256
  /-- An identifier without a value fails; otherwise it is null. -/
  strictIdentifiers : Bool := false
  resolutionOrder : List Scope := Scope.defaultOrder
  /-- Random words for the random selections. -/
  randomWords : Words := {}

end PromptLang
