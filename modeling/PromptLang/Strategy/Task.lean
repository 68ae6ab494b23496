import PromptLang.Strategy.Cluster
import PromptLang.Value.Text

/-! Tasks: the category of a prompt by its words, the matching entries of a library of tasks and of tools, and the steps that a task is
broken into. -/

namespace PromptLang

inductive Category where
  | math | writing | analysis | other
deriving DecidableEq, Repr

namespace Category

def name : Category → String
  | math => "math"
  | writing => "writing"
  | analysis => "analysis"
  | other => "default"

/-- Any other name is the default. -/
def ofName (s : String) : Category := ([math, writing, analysis].find? (·.name = s)).getD other

def keywords : Category → List String
  | math =>
    ["calculate", "compute", "solve", "equation", "math", "mathematics", "mathematical", "area", "sum", "number"]
  | writing => ["write", "essay", "story", "poem", "draft", "compose", "article"]
  | analysis => ["analyze", "analyse", "evaluate", "compare", "assess", "impact", "trend"]
  | other => []

def tools : Category → List String
  | math => ["calculator", "graphing_tool"]
  | writing => ["thesaurus", "grammar_checker"]
  | analysis => ["data_visualizer", "statistical_tool"]
  | other => []

end Category

/-- Endings that inflect a keyword without changing its meaning. -/
def inflections : List String :=
  ["s", "es", "d", "ed", "ing", "er", "ers", "ion", "ions", "ation", "ations", "al", "ally", "ly", "ment", "ments"]

def stem (keyword : String) : List Char :=
  if keyword.toList.getLast? = some 'e' then keyword.toList.dropLast else keyword.toList

/-- A word is the keyword, or its stem with an inflection. -/
def matchesKeyword (word : List Char) (keyword : String) : Bool :=
  word = keyword.toList ||
    (stem keyword).isPrefixOf word && inflections.any fun ending => word.drop (stem keyword).length = ending.toList

def taskWords (text : String) : List (List Char) :=
  (wordsOf text).map fun word => (Text.lowercase (String.ofList word)).toList

/-- Some word is a form of some keyword of the category. -/
def Category.mentionedIn (c : Category) (words : List (List Char)) : Bool :=
  c.keywords.any fun keyword => words.any fun word => matchesKeyword word keyword

def classify (words : List (List Char)) : Category :=
  ([Category.math, .writing, .analysis].find? (·.mentionedIn words)).getD .other

def classifyTask (text : String) : Category := classify (taskWords text)

def selectTask? (library : Entries Value) (category : Category) : Option String :=
  ((library.get? category.name).or (library.get? Category.other.name)).map Value.text

def selectTools (library : Entries Value) (category : Category) : List String :=
  (category.tools.filterMap fun tool => library.get? tool).map Value.text

inductive Decomposition where
  | sequential | parallel
deriving DecidableEq, Repr

namespace Decomposition

def table : List (String × Decomposition) := [("sequential", sequential), ("parallel", parallel)]

def ofName (name : String) : Except Error Decomposition := chooseStrategy "art decomposition" table name

def steps : Decomposition → String → List String
  | sequential, task => [
    "Understand the requirements of " ++ task,
    "Gather the information needed for " ++ task,
    "Apply the relevant methods to " ++ task,
    "Review the results of " ++ task,
    "Present the final outcome of " ++ task]
  | parallel, task => [
    "Analyze " ++ task ++ " from a theoretical perspective",
    "Consider the practical implications of " ++ task,
    "Identify potential challenges in " ++ task,
    "Explore innovative approaches to " ++ task,
    "Synthesize findings on " ++ task]

end Decomposition

/-- The steps of a task, by the strategy of a name. -/
def decomposeTask (strategy task : String) : Except Error (List String) := do
  return (← Decomposition.ofName strategy).steps task

end PromptLang
