import PromptLang.Number.TotalOrder
import PromptLang.Proofs.NumberOrder
import PromptLang.Proofs.WholeNumbers

/-! The total order of 64-bit floats extends the order of numbers: it only sets the two zeros apart, and finds a place for each NaN. -/

namespace PromptLang.Number

open Float.Model Float.Model.UnpackedFloat

section Parts

variable (b : BitVec 64)

theorem toNat_unpackMantissa : (@unpackMantissa .binary64 b).toNat = b.toNat % 2 ^ 52 := by
  show (b.toNat >>> 0) % 2 ^ 52 = _
  rw [Nat.shiftRight_zero]

theorem toNat_unpackExponent : (@unpackExponent .binary64 b).toNat = b.toNat / 2 ^ 52 % 2 ^ 11 := by
  show (b.toNat >>> 52) % 2 ^ 11 = _
  rw [Nat.shiftRight_eq_div_pow]

theorem toNat_unpackSign : (@unpackSign .binary64 b).toNat = b.toNat / 2 ^ 63 % 2 := by
  show (b.toNat >>> 63) % 2 ^ 1 = _
  rw [Nat.shiftRight_eq_div_pow]

theorem ofBitVec_unpackSign :
    Sign.ofBitVec (@unpackSign .binary64 b) = if b.toNat < 2 ^ 63 then .positive else .negative := by
  have hsign := toNat_unpackSign b
  have hwidth := b.isLt
  unfold Sign.ofBitVec
  by_cases hlow : b.toNat < 2 ^ 63
  · rw [if_pos hlow, if_pos]
    apply BitVec.eq_of_toNat_eq
    rw [hsign]
    simp only [BitVec.toNat_zero]
    omega
  · rw [if_neg hlow, if_neg]
    intro hzero
    rw [hzero] at hsign
    simp only [BitVec.toNat_zero] at hsign
    omega

end Parts

/-- What the bits below the sign say of the size of a number: zero, a mantissa at the least exponent, a mantissa with its leading bit
restored, or infinity. -/
def Sized (n : Nat) (size exponent mantissa : Int) : Prop :=
  (n = 0 ∧ size = 0 ∧ exponent = 0 ∧ mantissa = 0) ∨
  (0 < n ∧ n < 2 ^ 52 ∧ size = 1 ∧ exponent = -1074 ∧ mantissa = n) ∨
  (2 ^ 52 ≤ n ∧ n < 2047 * 2 ^ 52 ∧ size = 1 ∧ exponent = n / 2 ^ 52 - 1075 ∧ mantissa = 2 ^ 52 + n % 2 ^ 52) ∨
  (n = 2047 * 2 ^ 52 ∧ size = 2 ∧ exponent = 0 ∧ mantissa = 0)

theorem placeOf_finite (c : Prop) [Decidable c] {m : Nat} {e : Int} (hpos : 0 < m) :
    placeOf (.finite (if c then .positive else .negative) m e hpos) =
      if c then toLex (1, toLex (e, (m : Int))) else toLex (-1, toLex (-e, -(m : Int))) := by
  split <;> rfl

theorem placeOf_unpack (b : BitVec 64) (hnumber : UnpackedFloat.unpack .binary64 b ≠ .notANumber) :
    ∃ size exponent mantissa, Sized (b.toNat % 2 ^ 63) size exponent mantissa ∧
      placeOf (UnpackedFloat.unpack .binary64 b) =
        if b.toNat < 2 ^ 63 then toLex (size, toLex (exponent, mantissa))
        else toLex (-size, toLex (-exponent, -mantissa)) := by
  have hmantissa := toNat_unpackMantissa b
  have hexponent := toNat_unpackExponent b
  have hmax : (-BitVec.ofNat Format.binary64.exponentBits 1).toNat = 2047 := rfl
  rw [UnpackedFloat.unpack] at hnumber ⊢
  dsimp only at hnumber ⊢
  rw [ofBitVec_unpackSign] at hnumber ⊢
  split
  case isTrue htop =>
    rw [htop, hmax] at hexponent
    split
    case isTrue hzero =>
      rw [hzero, BitVec.toNat_zero] at hmantissa
      exact ⟨2, 0, 0, .inr (.inr (.inr (by omega))), by split <;> rfl⟩
    case isFalse hpayload =>
      rw [if_pos htop, if_neg hpayload] at hnumber
      exact absurd rfl hnumber
  case isFalse htop =>
    have hbelow : (@unpackExponent .binary64 b).toNat ≠ 2047 := fun heq => htop (BitVec.eq_of_toNat_eq (heq.trans hmax.symm))
    split
    case isTrue hleast =>
      rw [hleast, BitVec.toNat_zero] at hexponent
      split
      case isTrue hzero =>
        rw [hzero, BitVec.toNat_zero] at hmantissa
        exact ⟨0, 0, 0, .inl (by omega), by split <;> rfl⟩
      case isFalse hzero =>
        have hpos : (@unpackMantissa .binary64 b).toNat ≠ 0 := fun heq => hzero (BitVec.eq_of_toNat_eq heq)
        refine ⟨1, -1074, (@unpackMantissa .binary64 b).toNat, .inr (.inl (by omega)), ?_⟩
        rw [placeOf_finite, hleast]
        rfl
    case isFalse hleast =>
      have hpos : (@unpackExponent .binary64 b).toNat ≠ 0 := fun heq => hleast (BitVec.eq_of_toNat_eq heq)
      refine ⟨1, (@unpackExponent .binary64 b).toNat - 1075, (2 ^ 52 + (@unpackMantissa .binary64 b).toNat : Nat),
        .inr (.inr (.inl (by omega))), ?_⟩
      rw [placeOf_finite, append_implicitBit]
      rfl

theorem Sized.lt {n n' : Nat} {k e m k' e' m' : Int} (h : Sized n k e m) (h' : Sized n' k' e' m')
    (hlt : k < k' ∨ k = k' ∧ (e < e' ∨ e = e' ∧ m < m')) : n < n' := by
  unfold Sized at h h'
  omega

theorem lt_place (k e m k' e' m' : Int) :
    (toLex (k, toLex (e, m)) : Place) < toLex (k', toLex (e', m')) ↔ k < k' ∨ k = k' ∧ (e < e' ∨ e = e' ∧ m < m') := by
  simp [Prod.Lex.toLex_lt_toLex]

namespace Binary64

/-- The place of a float by its sign and by the bits below it. -/
theorem rank_mk (bits : UInt64) : rank ⟨bits⟩ =
    if bits.toBitVec.toNat < 2 ^ 63 then ((bits.toBitVec.toNat % 2 ^ 63 : Nat) : Int)
    else -1 - ((bits.toBitVec.toNat % 2 ^ 63 : Nat) : Int) := by
  have hwidth := bits.toBitVec.isLt
  unfold rank signBit
  rw [UInt64.toNat_toBitVec] at *
  dsimp only
  split <;> omega

theorem rank_injective : Function.Injective rank := by
  intro a b hrank
  have hbits : a.bits.toNat = b.bits.toNat := by
    unfold rank at hrank
    dsimp only at hrank
    split at hrank <;> split at hrank <;> omega
  exact congrArg mk (UInt64.toNat_inj.1 hbits)

instance : LinearOrder Binary64 where
  le_refl a := Int.le_refl a.rank
  le_trans a b c := fun hab hbc => Int.le_trans hab hbc
  le_antisymm a b := fun hab hba => rank_injective (Int.le_antisymm hab hba)
  le_total a b := Int.le_total a.rank b.rank
  lt_iff_le_not_ge a b := Int.lt_iff_le_and_not_ge
  toDecidableLE := inferInstance
  toDecidableEq := inferInstance
  toDecidableLT := inferInstance

theorem toFloat_ofFloat (x : Float) : (ofFloat x).toFloat = x := pack_unpack x

/-- The bits of a number are those of its float. A NaN may have others. -/
theorem ofFloat_toFloat {a : Binary64} (hnumber : a.toFloat.isNaN = false) : ofFloat a.toFloat = a := by
  have hvalid : Format.binary64.Valid a.bits.toBitVec := by
    refine ⟨fun hexponent hmantissa => ?_⟩
    have hnan : UnpackedFloat.unpack .binary64 a.bits.toBitVec = .notANumber := by
      rw [UnpackedFloat.unpack]
      dsimp only
      rw [if_pos hexponent, if_neg hmantissa]
    have hfloat : a.toFloat = .ofModel (.pack .notANumber) := congrArg (fun u => Float.ofModel (.pack u)) hnan
    rw [hfloat] at hnumber
    exact absurd hnumber (by decide)
  exact congrArg mk (UInt64.toBitVec_inj.1 (pack_unpack_of_valid hvalid))

theorem ofFloat_lt {x y : Float} (h : x < y) : ofFloat x < ofFloat y := by
  obtain ⟨hx, hy, hplaces⟩ := lt_iff.1 h
  obtain ⟨k, e, m, hsize, hx⟩ := placeOf_unpack x.toBits.toBitVec (isNaN_eq_false_iff.1 hx)
  obtain ⟨k', e', m', hsize', hy⟩ := placeOf_unpack y.toBits.toBitVec (isNaN_eq_false_iff.1 hy)
  change placeOf (UnpackedFloat.unpack .binary64 x.toBits.toBitVec) <
    placeOf (UnpackedFloat.unpack .binary64 y.toBits.toBitVec) at hplaces
  rw [hx, hy] at hplaces
  show rank ⟨x.toBits⟩ < rank ⟨y.toBits⟩
  rw [rank_mk, rank_mk]
  split at hplaces
  case isTrue hsign =>
    rw [if_pos hsign]
    split at hplaces
    case isTrue hsign' =>
      rw [if_pos hsign']
      exact Int.ofNat_lt.2 (hsize.lt hsize' ((lt_place _ _ _ _ _ _).1 hplaces))
    case isFalse hsign' =>
      -- nothing above zero lies below a mirrored size
      have hlt := (lt_place _ _ _ _ _ _).1 hplaces
      unfold Sized at hsize hsize'
      omega
  case isFalse hsign =>
    rw [if_neg hsign]
    split at hplaces
    case isTrue hsign' =>
      rw [if_pos hsign']
      omega
    case isFalse hsign' =>
      rw [if_neg hsign']
      have hlt := hsize'.lt hsize (by have := (lt_place _ _ _ _ _ _).1 hplaces; omega)
      omega

theorem lt_of_toFloat_lt {a b : Binary64} (h : a.toFloat < b.toFloat) : a < b := by
  obtain ⟨ha, hb, -⟩ := lt_iff.1 h
  rw [← ofFloat_toFloat ha, ← ofFloat_toFloat hb]
  exact ofFloat_lt h

-- a NaN of negative sign, the two zeros and a NaN of positive sign
example : (⟨0xFFF8000000000000⟩ : Binary64) < ofFloat (-0.0) ∧ ofFloat (-0.0) < ofFloat 0 ∧
    ofFloat 0 < ⟨0x7FF8000000000000⟩ := by decide

end Binary64

end PromptLang.Number
