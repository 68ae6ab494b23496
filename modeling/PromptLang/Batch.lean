import PromptLang.Run

/-! Batches of independent calls. Several calls of a batch may be in flight at a time, and their answers arrive in any order. An answer that
arrives early is kept until the answers before it are taken, so that answers are taken in the order of the calls. A failure ends
the batch when it is taken. -/

namespace PromptLang

/-- A batch under way. A call that was sent is known by its position; its answer is on its way, kept, or taken. -/
structure Batch where
  waiting : List String
  sent : Nat := 0
  inFlight : List (Nat × Except String String) := []
  arrived : List (Nat × Except String String) := []
  taken : List String := []

namespace Batch

/-- Sends the next call, as long as there are fewer than `limit` calls whose answers are not taken. -/
def send (host : Host) (limit : Nat) (constraints : Constraints) (b : Batch) : Run Batch :=
  match b.waiting with
  | [] => pure b
  | prompt :: rest =>
    if b.inFlight.length + b.arrived.length < limit then do
      let answer ← submit host ⟨prompt, constraints⟩
      return { b with waiting := rest, sent := b.sent + 1, inFlight := b.inFlight ++ [(b.sent, answer)] }
    else pure b

/-- The answer to a call arrives, if the call is in flight. -/
def arrive (position : Nat) (b : Batch) : Batch :=
  { b with
    inFlight := b.inFlight.filter (·.1 ≠ position)
    arrived := b.arrived ++ b.inFlight.filter (·.1 = position) }

/-- Takes the next answer, if it has arrived. -/
def take (b : Batch) : Except Error Batch :=
  match b.arrived.lookup b.taken.length with
  | none => .ok b
  | some (.error cause) => .error (.providerFailed cause)
  | some (.ok text) =>
    .ok { b with arrived := b.arrived.filter (·.1 ≠ b.taken.length), taken := b.taken ++ [text] }

def step (host : Host) (limit : Nat) (constraints : Constraints) (b : Batch) : Event → Run Batch
  | .send => b.send host limit constraints
  | .arrive position => pure (b.arrive position)
  | .take => b.take

def play (host : Host) (limit : Nat) (constraints : Constraints) (events : List Event) (b : Batch) : Run Batch :=
  events.foldlM (step host limit constraints) b

/-- Each of `n` calls is sent, answered and taken before the next one. -/
def inTurn (n : Nat) : List Event := (List.range n).flatMap fun i => [.send, .arrive i, .take]

end Batch

/-- The answers to independent calls in the order of the calls. At most `limit` calls are in flight, and at least one. -/
def generateAll (host : Host) (limit : Nat) (constraints : Constraints) (prompts : List String) : Run (List String) := fun log =>
  let events := host.schedule log.calls ++ Batch.inTurn prompts.length
  (do
    let batch ← Batch.play host (max 1 limit) constraints events { waiting := prompts }
    return batch.taken : Run (List String)) log

end PromptLang
