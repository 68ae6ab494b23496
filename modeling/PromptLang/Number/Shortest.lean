import PromptLang.Number.Binary

/-! The shortest decimal that reads back as a given binary number. The reals that round to `m · 2^e` form an
interval around it, whose ends count when `m` is even. From coarse to fine, each decimal grid is asked
whether one of the number's two neighbours on it lies in the interval, and the first grid that has one gives the
digits. -/

namespace PromptLang.Number

/-- A positive decimal, `coefficient · 10 ^ exponent`. -/
structure Decimal where
  coefficient : Nat
  exponent : Int
deriving DecidableEq, Repr

/-- Which of two equally near decimals is taken. -/
inductive Tie where
  | up
  | even
deriving DecidableEq, Repr

def compareScaled (c : Nat) (p : Int) (b : Nat) (q : Int) : Ordering :=
  compare (c * tenTo p * twoTo (-q)) (b * twoTo q * tenTo (-p))

def leastMantissa : Nat := 0x10000000000000

/-- Does `c · 10^p` round to `m · 2^e`? The gap below a power of two is half the gap above it. -/
def roundsTo (m : Nat) (e : Int) (c : Nat) (p : Int) : Bool :=
  let low := if m = leastMantissa ∧ -1074 < e then 4 * m - 1 else 4 * m - 2
  let belowHigh := compareScaled c p (4 * m + 2) (e - 2)
  let aboveLow := compareScaled c p low (e - 2)
  if m % 2 = 0 then belowHigh.isLE && aboveLow.isGE else belowHigh.isLT && aboveLow.isGT

def gridFloor (m : Nat) (e p : Int) : Nat := (m * twoTo e * tenTo (-p)) / (twoTo (-e) * tenTo p)

/-- The neighbour of `m · 2^e` on the grid of multiples of `10^p` that rounds to it, the nearer if both do. -/
def gridPoint? (tie : Tie) (m : Nat) (e p : Int) : Option Nat :=
  let c := gridFloor m e p
  match roundsTo m e c p, roundsTo m e (c + 1) p with
  | true, true =>
    match compareScaled (2 * c + 1) p (2 * m) e with
    | .lt => some (c + 1)
    | .gt => some c
    | .eq => if tie = .even ∧ c % 2 = 0 then some c else some (c + 1)
  | true, false => some c
  | false, true => some (c + 1)
  | false, false => none

/-- The first of `n` grids, counted down from `10^p`, with a point that rounds to `m · 2^e`. -/
def shortestFrom (tie : Tie) (m : Nat) (e : Int) : Nat → Int → Decimal
  | 0, p => ⟨gridFloor m e p, p⟩
  | n + 1, p =>
    match gridPoint? tie m e p with
    | some c => ⟨c, p⟩
    | none => shortestFrom tie m e n (p - 1)

/-- The shortest decimal that rounds to `m · 2^e`. The search starts at a power of ten above the number, of
which `30103 / 100000` estimates the exponent from the binary one, and seventeen digits always suffice. -/
def shortest (tie : Tie) (m : Nat) (e : Int) : Decimal :=
  shortestFrom tie m e 20 ((m.log2 + 1 + e) * 30103 / 100000 + 1)

end PromptLang.Number
