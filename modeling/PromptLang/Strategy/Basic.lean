import PromptLang.Error
import PromptLang.Text.Lowercase

/-! What strategies share. Programs choose them by name, and several of them keep the best of some scored texts, where a later score
displaces the best so far unless it is at most as large. -/

namespace PromptLang

/-- The strategy of a name in a table; `purpose` is what an unknown name is reported for. -/
def chooseStrategy {α : Type} (purpose : String) (table : List (String × α)) (name : String) : Except Error α :=
  match table.find? (·.1 = name) with
  | some (_, strategy) => .ok strategy
  | none => .error (.unknownStrategy purpose name)

section

variable {α β : Type} [LE α] [DecidableLE α]

/-- The position of the best score, when `best` at position `at_` leads and the rest starts at position `next`. -/
def firstMaxFrom (at_ : Nat) (best : α) (next : Nat) : List α → Nat
  | [] => at_
  | score :: rest =>
    if score ≤ best then firstMaxFrom at_ best (next + 1) rest else firstMaxFrom next score (next + 1) rest

def firstMax? : List α → Option Nat
  | [] => none
  | score :: rest => some (firstMaxFrom 0 score 1 rest)

/-- The first element with the best score. -/
def bestBy? (score : β → α) (xs : List β) : Option β :=
  (firstMax? (xs.map score)).bind fun i => xs[i]?

end

def salientKeywords : List String := ["important", "crucial", "significant", "key"]

def keywordScore (text : String) : Nat :=
  let small := Text.lowercase text
  (salientKeywords.filter (Text.mentions small)).length

/-- Scores that need no provider. -/
inductive Scorer where
  | length | keywordMatch
deriving DecidableEq, Repr

namespace Scorer

def table : List (String × Scorer) := [("length", length), ("keyword_match", keywordMatch)]

def ofName? (name : String) : Option Scorer := (table.find? (·.1 = name)).map Prod.snd

def score : Scorer → String → Nat
  | length, text => text.length
  | keywordMatch, text => keywordScore text

end Scorer

def localScore? (text function : String) : Option Nat := (Scorer.ofName? function).map (·.score text)

end PromptLang
