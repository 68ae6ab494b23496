import PromptLang.Number.Binary
import PromptLang.Number.TotalOrder
import PromptLang.Strategy.Basic
import PromptLang.Strategy.Draw

/-! Questions of a prompt: its sentence-like segments, how uncertain each of them is, and which are worth an annotation. -/

namespace PromptLang

def isSentenceEnd (c : Char) : Bool := c = '?' || c = '.' || c = '!'

/-- Cuts after each sentence end, and at each line break, which is dropped. -/
def sentencePieces : List Char → List (List Char)
  | [] => [[]]
  | c :: cs =>
    if c = '\n' then [] :: sentencePieces cs
    else if isSentenceEnd c then [c] :: sentencePieces cs
    else Text.consFirst c (sentencePieces cs)

/-- Pieces that count as questions: not empty, and not a label that ends in a colon. -/
def isQuestion (piece : List Char) : Bool := piece ≠ [] && piece.getLast? ≠ some ':'

def splitQuestions (text : String) : List String :=
  (((sentencePieces text.toList).map Text.trimChars).filter isQuestion).map String.ofList

inductive Uncertainty where
  | entropy | length
deriving DecidableEq, Repr

namespace Uncertainty

def table : List (String × Uncertainty) := [("entropy", entropy), ("length", length)]

def ofName (name : String) : Except Error Uncertainty :=
  chooseStrategy "activePrompting uncertainty estimation" table name

/-- Entropy is that of the share of distinct words. -/
def estimate : Uncertainty → String → Float
  | entropy, text =>
    let words := Text.tokens text
    if words.isEmpty then 0
    else
      let ratio := Number.ofInt words.eraseDups.length / Number.ofInt words.length
      (-ratio) * ratio.log2
  | length, text => Number.ofInt text.length

end Uncertainty

/-- How uncertain a text is, by the method of a name. -/
def estimateUncertainty (method text : String) : Except Error Float := do
  return (← Uncertainty.ofName method).estimate text

structure ScoredQuestion where
  text : String
  uncertainty : Number.Binary64

def maxSelected : Nat := 5

inductive QuestionChoice where
  | maxUncertainty | random
deriving DecidableEq, Repr

namespace QuestionChoice

def table : List (String × QuestionChoice) := [("max_uncertainty", maxUncertainty), ("random", random)]

def ofName (name : String) : Except Error QuestionChoice :=
  chooseStrategy "activePrompting selection" table name

/-- The most uncertain questions first, in document order where they are equally uncertain, or all in a random order. -/
def arrange (questions : List ScoredQuestion) (w : Words) : QuestionChoice → List ScoredQuestion
  | maxUncertainty => questions.mergeSort fun a b => b.uncertainty ≤ a.uncertainty
  | random => (shuffle questions w).1

end QuestionChoice

/-- The questions to annotate, by the strategy of a name. -/
def selectQuestions (strategy : String) (questions : List ScoredQuestion) (w : Words) : Except Error (List ScoredQuestion) := do
  return ((← QuestionChoice.ofName strategy).arrange questions w).take maxSelected

end PromptLang
