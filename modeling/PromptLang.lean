import PromptLang.Batch
import PromptLang.Compose
import PromptLang.Constraints
import PromptLang.Entries
import PromptLang.Env
import PromptLang.Error
import PromptLang.Eval.Assign
import PromptLang.Eval.Expr
import PromptLang.Eval.Hook
import PromptLang.Eval.Operator
import PromptLang.Interpreter.Block
import PromptLang.Interpreter.Prompt
import PromptLang.Interpreter.Section
import PromptLang.Json.Basic
import PromptLang.Json.Parts
import PromptLang.Json.Printer
import PromptLang.Json.Reader
import PromptLang.Number.Binary
import PromptLang.Number.Layout
import PromptLang.Number.Reader
import PromptLang.Number.Shortest
import PromptLang.Number.TotalOrder
import PromptLang.Options
import PromptLang.Output
import PromptLang.Proofs.Assignment
import PromptLang.Proofs.Batches
import PromptLang.Proofs.BlockScoping
import PromptLang.Proofs.CandidateScores
import PromptLang.Proofs.ClusterRepresentatives
import PromptLang.Proofs.CodeEquality
import PromptLang.Proofs.ComposedPrompt
import PromptLang.Proofs.Compositional
import PromptLang.Proofs.Computation
import PromptLang.Proofs.DecodeEquations
import PromptLang.Proofs.DirectCalls
import PromptLang.Proofs.FirstOccurrences
import PromptLang.Proofs.HookRegistration
import PromptLang.Proofs.JsonNormalization
import PromptLang.Proofs.JsonText
import PromptLang.Proofs.LocalErrors
import PromptLang.Proofs.MajorityVote
import PromptLang.Proofs.MentionedNames
import PromptLang.Proofs.MissingParameters
import PromptLang.Proofs.NumberOrder
import PromptLang.Proofs.OutputText
import PromptLang.Proofs.PairedAnswers
import PromptLang.Proofs.ParameterBinding
import PromptLang.Proofs.Parametric
import PromptLang.Proofs.PathWrites
import PromptLang.Proofs.ProgramTrees
import PromptLang.Proofs.PromptStages
import PromptLang.Proofs.ProviderFailure
import PromptLang.Proofs.ProviderWork
import PromptLang.Proofs.QuestionClusters
import PromptLang.Proofs.QuestionSelection
import PromptLang.Proofs.ReActRounds
import PromptLang.Proofs.RelaxedLimits
import PromptLang.Proofs.SectionLayout
import PromptLang.Proofs.SentenceSplitting
import PromptLang.Proofs.SerializedEnvironment
import PromptLang.Proofs.SettingsPerKey
import PromptLang.Proofs.SharedStatements
import PromptLang.Proofs.StandaloneUse
import PromptLang.Proofs.StrategyResults
import PromptLang.Proofs.TaskCategories
import PromptLang.Proofs.TechniqueCalls
import PromptLang.Proofs.TechniqueSlots
import PromptLang.Proofs.ThoughtTrees
import PromptLang.Proofs.TotalOrder
import PromptLang.Proofs.TreeEdits
import PromptLang.Proofs.TreeSizes
import PromptLang.Proofs.UseDepth
import PromptLang.Proofs.UsedPrompts
import PromptLang.Proofs.ValueEquality
import PromptLang.Proofs.WholeNumbers
import PromptLang.Proofs.WordRuns
import PromptLang.Provider.Basic
import PromptLang.Provider.Script
import PromptLang.Registry
import PromptLang.Run
import PromptLang.Strategy.Basic
import PromptLang.Strategy.Cluster
import PromptLang.Strategy.Draw
import PromptLang.Strategy.Question
import PromptLang.Strategy.Task
import PromptLang.Strategy.ThoughtTree
import PromptLang.Strategy.Vote
import PromptLang.Syntax.Decode
import PromptLang.Syntax.Encode
import PromptLang.Syntax.Equality
import PromptLang.Syntax.Expr
import PromptLang.Syntax.Operator
import PromptLang.Syntax.Outline
import PromptLang.Syntax.Prompt
import PromptLang.Syntax.Stmt
import PromptLang.Syntax.Technique
import PromptLang.Technique.Apply
import PromptLang.Technique.Blocks
import PromptLang.Technique.Questions
import PromptLang.Technique.Sampling
import PromptLang.Technique.Settings
import PromptLang.Text.Alphanumeric
import PromptLang.Text.Basic
import PromptLang.Text.Cased
import PromptLang.Text.Lowercase
import PromptLang.Text.Printable
import PromptLang.Text.Quoted
import PromptLang.Value.Basic
import PromptLang.Value.Equality
import PromptLang.Value.Json
import PromptLang.Value.Kind
import PromptLang.Value.Path
import PromptLang.Value.Text
import PromptLang.Variables
