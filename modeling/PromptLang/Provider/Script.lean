import PromptLang.Provider.Basic
import PromptLang.Text.Basic

/-! Hosts that answer from a script. A call is answered by the first rule whose text occurs in the prompt, else by the next unused
reply, else by the fallback. -/

namespace PromptLang

inductive Reply where
  | text (s : String)
  | echo
  | failure (cause : String)
  /-- The prompt between two texts. -/
  | wrap (before after : String)
  /-- The number of the call. -/
  | number

def Reply.answer (r : Reply) (number : Nat) (prompt : String) : Except String String :=
  match r with
  | .text s => .ok s
  | .echo => .ok prompt
  | .failure cause => .error cause
  | .wrap before after => .ok (before ++ prompt ++ after)
  | .number => .ok ("#" ++ toString number)

structure Script where
  rules : List (String × Reply) := []
  replies : List Reply := []
  fallback : Reply := .echo

namespace Script

def rule? (s : Script) (prompt : String) : Option Reply :=
  (s.rules.find? fun rule => Text.mentions prompt rule.1).map Prod.snd

def reply (s : Script) (earlier : List Call) (prompt : String) : Reply :=
  match s.rule? prompt with
  | some r => r
  | none =>
    let used := (earlier.filter fun call => (s.rule? call.prompt).isNone).length
    (s.replies[used]?).getD s.fallback

def provider (s : Script) : Provider := fun earlier call =>
  (s.reply earlier call.prompt).answer (earlier.length + 1) call.prompt

end Script

/-- Gives prepared answers in order, then a note that the question was reviewed. -/
def Annotator.prepared (answers : List (Except String String)) : Annotator := fun earlier question =>
  (answers[earlier.length]?).getD (.ok ("reviewed: " ++ question))

end PromptLang
