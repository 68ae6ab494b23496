/-! The total order of 64-bit floats. It goes by sign and then by magnitude, with `-0` below `0`. A NaN stands above all numbers, or below
them if its sign is negative, and payloads tell NaNs of one sign apart. -/

namespace PromptLang.Number

/-- A 64-bit float by its bits. Unlike a `Float` it may be a NaN of either sign and of any payload. -/
structure Binary64 where
  bits : UInt64
deriving DecidableEq, Repr

namespace Binary64

def ofFloat (x : Float) : Binary64 := ⟨x.toBits⟩

def toFloat (b : Binary64) : Float := .ofBits b.bits

def signBit : Nat := 0x8000000000000000

/-- The position in the order: that of the bits, which count downwards from -1 where the sign is negative. -/
def rank (b : Binary64) : Int :=
  let n := b.bits.toNat
  if n < signBit then n else signBit - 1 - n

instance : LE Binary64 := ⟨fun a b => a.rank ≤ b.rank⟩

instance : LT Binary64 := ⟨fun a b => a.rank < b.rank⟩

instance : DecidableLE Binary64 := fun a b => inferInstanceAs (Decidable (a.rank ≤ b.rank))

instance : DecidableLT Binary64 := fun a b => inferInstanceAs (Decidable (a.rank < b.rank))

end Binary64

end PromptLang.Number
