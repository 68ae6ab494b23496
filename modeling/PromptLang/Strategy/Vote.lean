import PromptLang.Strategy.Basic
import PromptLang.Value.Equality
import PromptLang.Value.Text

/-! One result out of several: the most frequent one, or the mean of numeric ones. -/

namespace PromptLang

inductive Aggregation where
  | majorityVote | average
deriving DecidableEq, Repr

/-- Counts a vote for the first candidate that equals it, or for a new one. -/
def addVote (v : Value) : List (Value × Nat) → List (Value × Nat)
  | [] => [(v, 1)]
  | (seen, n) :: rest => if seen.same v then (seen, n + 1) :: rest else (seen, n) :: addVote v rest

/-- The distinct results in the order of their first vote, with their counts. -/
def tally (results : List Value) : List (Value × Nat) := results.foldl (fun acc v => addVote v acc) []

def majority? (results : List Value) : Option Value := (bestBy? Prod.snd (tally results)).map Prod.fst

def sumFrom (i : Nat) (sum : Float) : List Value → Except Error Float
  | [] => .ok sum
  | v :: rest =>
    match v.numeric? with
    | some x => sumFrom (i + 1) (sum + x) rest
    | none => .error (.mismatch (.average i v.display))

namespace Aggregation

def table : List (String × Aggregation) := [("majority_vote", majorityVote), ("average", average)]

def ofName (name : String) : Except Error Aggregation :=
  chooseStrategy "selfConsistency selection" table name

def combine : Aggregation → List Value → Except Error Value
  | majorityVote, results =>
    match majority? results with
    | some v => .ok v
    | none => .error (.invalid (.noResults "majority_vote"))
  | average, results =>
    if results.isEmpty then .error (.invalid (.noResults "average"))
    else (sumFrom 0 0 results).map fun sum => .num (sum / Number.ofInt results.length)

end Aggregation

/-- The results put together by the strategy of a name. -/
def selectMostConsistent (strategy : String) (results : List Value) : Except Error Value := do
  (← Aggregation.ofName strategy).combine results

end PromptLang
