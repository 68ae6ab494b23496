import PromptLang.Entries
import PromptLang.Strategy.Question
import PromptLang.Text.Alphanumeric

/-! Clusters of questions, by shared words or by length, and one representative of each. -/

namespace PromptLang

abbrev Clusters := Entries (List String)

def Clusters.push (clusters : Clusters) (key question : String) : Clusters :=
  Entries.insert key ((Entries.get? key clusters).getD [] ++ [question]) clusters

def wordsOf (text : String) : List (List Char) := Text.words (fun c => !Text.isAlphanumeric c) text.toList

/-- Words of at least this many characters make a cluster. -/
def minKeyword : Nat := 4

/-- The keys that a question falls under: its longer words in lower case, each once. -/
def keywordsOf (question : String) : List String :=
  (((wordsOf question).filter fun word => minKeyword ≤ word.length).map fun word =>
    Text.lowercase (String.ofList word)).eraseDups

inductive ClusterRule where
  | keyword | length
deriving DecidableEq, Repr

namespace ClusterRule

def table : List (String × ClusterRule) := [("keyword", keyword), ("length", length)]

def ofName (name : String) : Except Error ClusterRule := chooseStrategy "autoCot clustering" table name

/-- A question is short if it is not longer than the mean. -/
def lengthKey (count total : Nat) (question : String) : String :=
  if question.length * count ≤ total then "short" else "long"

def totalLength (questions : List String) : Nat := questions.foldr (fun question total => question.length + total) 0

def keys (questions : List String) : ClusterRule → String → List String
  | keyword, question => keywordsOf question
  | length, question => [lengthKey questions.length (totalLength questions) question]

def cluster (rule : ClusterRule) (questions : List String) : Clusters :=
  questions.foldl (fun clusters question =>
    (rule.keys questions question).foldl (fun clusters key => clusters.push key question) clusters) []

end ClusterRule

/-- The questions of a text in clusters, by the method of a name. -/
def clusterQuestions (method text : String) : Except Error Clusters := do
  return (← ClusterRule.ofName method).cluster (splitQuestions text)

inductive Representation where
  | longest | random
deriving DecidableEq, Repr

namespace Representation

def table : List (String × Representation) := [("longest", longest), ("random", random)]

def ofName (name : String) : Except Error Representation :=
  chooseStrategy "autoCot representative selection" table name

def pick (r : Representation) (members : List String) (w : Words) : Option String × Words :=
  match r with
  | longest => (bestBy? String.length members, w)
  | random => choose? members w

def picks (r : Representation) : List (List String) → Words → List String
  | [], _ => []
  | members :: rest, w =>
    let (choice, w) := r.pick members w
    choice.toList ++ picks r rest w

end Representation

/-- One question per cluster, each question once. Without clusters there is nothing to pick and the rule is not looked at. -/
def representatives (rule : String) (clusters : Clusters) (w : Words) : Except Error (List String) :=
  if clusters.isEmpty then .ok []
  else do return ((← Representation.ofName rule).picks (clusters.map Prod.snd) w).eraseDups

end PromptLang
