import PromptLang.Constraints

/-! The collaborators of a run: a language model that answers prompts, and an annotator that answers questions. Both are functions of
what they were asked before, and so is the order in which answers to concurrent calls arrive. A run is determined by them and its
inputs. -/

namespace PromptLang

structure Call where
  prompt : String
  constraints : Constraints

/-- Answers a call, given the earlier calls in order. A failure has a cause in words. -/
abbrev Provider := List Call → Call → Except String String

abbrev Annotator := List String → String → Except String String

def Provider.echo : Provider := fun _ call => .ok call.prompt

def Annotator.placeholder : Annotator := fun _ _ => .ok "Human annotation placeholder"

/-- What happens to a batch of calls: the next call is sent, the answer to a call arrives, or the next answer in the order of the calls
is taken. -/
inductive Event where
  | send
  | arrive (position : Nat)
  | take
deriving DecidableEq, Repr

structure Host where
  provider : Provider := Provider.echo
  annotator : Annotator := Annotator.placeholder
  /-- What happens to the batch that begins after the given calls, until what is left of it is answered call by call. -/
  schedule : List Call → List Event := fun _ => []

end PromptLang
