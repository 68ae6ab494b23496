import PromptLang.Number.Binary

/-! Random choices out of a stream of 32-bit words. An index below `k` is drawn by multiplication: the high half of `word · k` is
the index, and words whose low half lies above the zone are passed over, which makes all indices equally likely. -/

namespace PromptLang

/-- A stream that repeats a list of words. -/
structure Words where
  cycle : List UInt32 := [0]
  next : Nat := 0
deriving Repr

namespace Words

def take (w : Words) : Nat × Words :=
  ((w.cycle[w.next % w.cycle.length]?.getD 0).toNat, { w with next := w.next + 1 })

/-- The greatest low half that is accepted when drawing below `k`. -/
def zone (k : Nat) : Nat := ((k <<< (31 - k.log2)) - 1) % word32

/-- Draws until a word is accepted, at most `tries` times. -/
def drawBelow (k : Nat) : Nat → Words → Nat × Words
  | 0, w => (0, w)
  | tries + 1, w =>
    let (word, w) := w.take
    if word * k % word32 ≤ zone k then (word * k / word32, w) else drawBelow k tries w

/-- An index below `k`. A full turn of the cycle without an accepted word gives the index 0. -/
def index (k : Nat) (w : Words) : Nat × Words := drawBelow k (w.cycle.length + 1) w

end Words

variable {α : Type}

/-- Exchanges two elements; positions outside the list change nothing. -/
def swap (xs : List α) (i j : Nat) : List α :=
  match xs[i]?, xs[j]? with
  | some a, some b => (xs.set i b).set j a
  | _, _ => xs

/-- Exchanges each position from `n` down to 1 with a random one that is not above it. -/
def shuffleFrom : Nat → List α → Words → List α × Words
  | 0, xs, w => (xs, w)
  | n + 1, xs, w =>
    let (j, w) := w.index (n + 2)
    shuffleFrom n (swap xs (n + 1) j) w

def shuffle (xs : List α) (w : Words) : List α × Words := shuffleFrom (xs.length - 1) xs w

def choose? (xs : List α) (w : Words) : Option α × Words :=
  if xs.isEmpty then (none, w)
  else
    let (i, w) := w.index xs.length
    (xs[i]?, w)

end PromptLang
