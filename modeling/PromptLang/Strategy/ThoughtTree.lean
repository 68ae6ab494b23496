import PromptLang.Number.Binary
import PromptLang.Strategy.Basic

/-! Trees of thoughts: how many provider calls one needs, and which leaf is best. -/

namespace PromptLang

def fitting? (n : Nat) : Option Nat := if n < word64 then some n else none

/-- Adds `breadth ^ level` and the powers behind it to `total`, for a number of levels. A level is a 32-bit word, and every power and
every sum is a 64-bit word. -/
def addLevels (breadth : Nat) : Nat → Nat → Nat → Option Nat
  | 0, _, total => some total
  | levels + 1, level, total =>
    if level < word32 then do
      let power ← fitting? (Nat.pow breadth level)
      let total ← fitting? (total + power)
      addLevels breadth levels (level + 1) total
    else none

/-- The calls of a full tree, `breadth + breadth² + … + breadth ^ depth`. -/
def treeSize? (breadth depth : Nat) : Option Nat := addLevels breadth depth 1 0

/-- The best of the thoughts on the last level, by the strategy of a name. -/
def bestThought (strategy : String) (thoughts : List String) : Except Error String := do
  let scorer ← chooseStrategy "treeOfThoughts evaluation" Scorer.table strategy
  match bestBy? scorer.score thoughts with
  | some thought => .ok thought
  | none => .error (.invalid .noThoughts)

end PromptLang
