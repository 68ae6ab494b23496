/-! The sizes of machine words, and the exact value behind a binary floating-point number. A finite number is a signed mantissa times a
power of two, so whole numbers and remainders are settled in integer arithmetic. -/

namespace PromptLang

def word32 : Nat := 0x100000000

def word64 : Nat := 0x10000000000000000

end PromptLang

namespace PromptLang.Number

open Float.Model

/-- Two to a power; a negative power counts as zero. -/
def twoTo (e : Int) : Nat := Nat.pow 2 e.toNat

def tenTo (e : Int) : Nat := Nat.pow 10 e.toNat

/-- The whole number a float stands for, if it has no fraction. -/
def toInt? (x : Float) : Option Int :=
  match x.toModel.unpack with
  | .zero _ => some 0
  | .finite s m e _ =>
    if 0 ≤ e then some (s.apply (m * twoTo e))
    else if m % twoTo (-e) = 0 then some (s.apply (m / twoTo (-e)))
    else none
  | _ => none

/-- The float nearest to a whole number. -/
def ofInt (n : Int) : Float := .ofModel (.ofInt n)

def nan : Float := .ofModel (.pack .notANumber)

def infinity : Float := .ofModel (.pack (.infinity .positive))

/-- The remainder of a division that rounds toward zero. It takes the sign of the dividend and is exact. -/
def remainder (x y : Float) : Float :=
  match x.toModel.unpack, y.toModel.unpack with
  | .finite s m e _, .finite _ n f _ =>
    let low := min e f
    let r := (m * twoTo (e - low)) % (n * twoTo (f - low))
    .ofModel (.pack (.round .binary64 s r low))
  | .finite .., .infinity _ => x
  | .zero _, .finite .. => x
  | .zero _, .infinity _ => x
  | _, _ => nan

end PromptLang.Number
