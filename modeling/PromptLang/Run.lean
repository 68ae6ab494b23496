import PromptLang.Provider.Basic

/-! Computations that may ask the host. A run takes the log of what was asked so far and returns a result with the longer log; the log is
kept when the run fails. -/

namespace PromptLang

/-- What the host was asked, in order. -/
structure Log where
  calls : List Call := []
  questions : List String := []

def Run (α : Type) : Type := Log → Except Error α × Log

namespace Run

variable {α β : Type}

protected def pure (a : α) : Run α := fun log => (.ok a, log)

protected def bind (x : Run α) (f : α → Run β) : Run β := fun log =>
  match x log with
  | (.ok a, log) => f a log
  | (.error e, log) => (.error e, log)

instance : Monad Run where
  pure := Run.pure
  bind := Run.bind

def ofExcept (x : Except Error α) : Run α := fun log => (x, log)

instance : MonadLift (Except Error) Run := ⟨ofExcept⟩

def fail (e : Error) : Run α := ofExcept (.error e)

@[simp] theorem pure_apply (a : α) (log : Log) : (pure a : Run α) log = (.ok a, log) := rfl

@[simp] theorem ofExcept_apply (x : Except Error α) (log : Log) : ofExcept x log = (x, log) := rfl

theorem bind_apply (x : Run α) (f : α → Run β) (log : Log) :
    (x >>= f) log = match x log with
      | (.ok a, log) => f a log
      | (.error e, log) => (.error e, log) := rfl

instance : LawfulMonad Run := LawfulMonad.mk' Run
  (by
    intro α x
    funext log
    show (match x log with
      | (.ok a, log) => _
      | (.error e, log) => _) = x log
    rcases x log with ⟨_ | a, log⟩ <;> rfl)
  (by intros; rfl)
  (by
    intro α β γ x f g
    funext log
    show Run.bind (Run.bind x f) g log = Run.bind x (fun a => Run.bind (f a) g) log
    unfold Run.bind
    rcases x log with ⟨_ | a, log⟩ <;> rfl)

end Run

/-- Sends a call. Its answer may be a failure, which is left to the caller. -/
def submit (host : Host) (call : Call) : Run (Except String String) := fun log =>
  (.ok (host.provider log.calls call), { log with calls := log.calls ++ [call] })

def generate (host : Host) (constraints : Constraints) (prompt : String) : Run String := do
  let answer ← submit host ⟨prompt, constraints⟩
  Run.ofExcept (answer.mapError .providerFailed)

theorem generate_apply (host : Host) (constraints : Constraints) (prompt : String) (log : Log) :
    generate host constraints prompt log = ((host.provider log.calls ⟨prompt, constraints⟩).mapError .providerFailed,
      { log with calls := log.calls ++ [⟨prompt, constraints⟩] }) := rfl

def annotate (host : Host) (question : String) : Run String := fun log =>
  ((host.annotator log.questions question).mapError .providerFailed,
    { log with questions := log.questions ++ [question] })

def annotateAll (host : Host) : List String → Run (List String)
  | [] => pure []
  | question :: rest => do
    let answer ← annotate host question
    let answers ← annotateAll host rest
    return answer :: answers

end PromptLang
