import Mathlib
import PromptLang.Number.Layout
import PromptLang.Number.Reader

/-! Whole numbers as floats and as digits. A float that stands for a whole number below `2^53` is the one that rounding this number
gives, and the digits of the number read back as it. -/

namespace PromptLang.Number

open Float.Model Float.Model.UnpackedFloat

theorem log2_mul_twoPow {n : Nat} (hpos : 0 < n) (k : Nat) : (n * 2 ^ k).log2 = n.log2 + k := by
  have hne : n ≠ 0 := Nat.ne_of_gt hpos
  have hlow := Nat.mul_le_mul_right (2 ^ k) (Nat.log2_self_le hne)
  have hhigh := Nat.mul_lt_mul_of_pos_right (@Nat.lt_log2_self n) (Nat.two_pow_pos k)
  rw [← Nat.pow_add] at hlow hhigh
  refine (Nat.log2_eq_iff (Nat.mul_ne_zero hne (Nat.ne_of_gt (Nat.two_pow_pos k)))).2 ⟨hlow, ?_⟩
  rwa [Nat.add_right_comm] at hhigh

/-- The mantissa of 53 bits of a whole number. -/
def fullMantissa (n : Nat) : Nat := n * 2 ^ (52 - n.log2)

theorem fullMantissa_pos {n : Nat} (hpos : 0 < n) : 0 < fullMantissa n := Nat.mul_pos hpos (Nat.two_pow_pos _)

theorem log2_lt_of_lt {n : Nat} (hpos : 0 < n) (hbound : n < 2 ^ 53) : n.log2 < 53 :=
  (Nat.log2_lt (Nat.ne_of_gt hpos)).2 hbound

theorem log2_fullMantissa {n : Nat} (hpos : 0 < n) (hbound : n < 2 ^ 53) : (fullMantissa n).log2 = 52 := by
  have hlog := log2_lt_of_lt hpos hbound
  rw [fullMantissa, log2_mul_twoPow hpos]
  omega

theorem shiftToTargetExponent_full {m : Nat} {e : Int} (hm : m.log2 = 52) (he : -1074 ≤ e) :
    shiftToTargetExponent .binary64 m e .exact = (⟨m, false, false⟩, e) := by
  have htarget : Format.binary64.targetExponent (totalExponent m e) = e := by
    simp only [Format.targetExponent, totalExponent, Format.mantissaBits, Format.minExponent, hm]
    norm_num
    omega
  simp [shiftToTargetExponent, shiftToExponent, htarget, HShiftRight.hShiftRight, Nat.repeat,
    ExtendedMantissa.ofMantissaAndAccuracy]

theorem roundWithAccuracy_full {s : Sign} {m : Nat} {e : Int} (hpos : 0 < m) (hm : m.log2 = 52) (he : -1074 ≤ e) :
    roundWithAccuracy .binary64 s m e .exact = .finite s m e hpos := by
  simp [roundWithAccuracy, shiftToTargetExponent_full hm he, ExtendedMantissa.roundedMantissa,
    ExtendedMantissa.accuracy, Accuracy.roundToNearestEven, Nat.ne_of_gt hpos]

/-- Rounding a whole number below `2^53` only moves its binary point. -/
theorem round_whole {s : Sign} {n : Nat} (hpos : 0 < n) (hbound : n < 2 ^ 53) :
    UnpackedFloat.round .binary64 s n 0 = .finite s (fullMantissa n) (n.log2 - 52) (fullMantissa_pos hpos) := by
  have hlog := log2_lt_of_lt hpos hbound
  have htarget : Format.binary64.targetExponent (totalExponent n 0) = n.log2 - 52 := by
    simp only [Format.targetExponent, totalExponent, Format.mantissaBits, Format.minExponent]
    norm_num
    omega
  have hshift : ((0 : Int) - (n.log2 - 52)).toNat = 52 - n.log2 := by omega
  have hexponent : (0 : Int) - ((52 - n.log2 : Nat) : Int) = n.log2 - 52 := by omega
  simp only [UnpackedFloat.round, htarget, decreaseExponent, hshift, hexponent, Nat.shiftLeft_eq]
  exact roundWithAccuracy_full (fullMantissa_pos hpos) (log2_fullMantissa hpos hbound) (by omega)

theorem append_implicitBit (m : BitVec 52) : (1#1 ++ m).toNat = 2 ^ 52 + m.toNat := by
  rw [BitVec.toNat_append, ← Nat.shiftLeft_add_eq_or_of_lt m.isLt]
  rfl

theorem unpack_pack_full {s : Sign} {m : Nat} {e : Int} (hpos : 0 < m) (hm : m.log2 = 52) (hlow : -1074 ≤ e)
    (hhigh : e ≤ 971) : (Float.Model.pack (.finite s m e hpos)).unpack = .finite s m e hpos := by
  obtain ⟨hmlow, hmhigh⟩ := (Nat.log2_eq_iff (Nat.ne_of_gt hpos)).1 hm
  obtain ⟨biased, hbiased⟩ := Int.eq_ofNat_of_zero_le (show 0 ≤ e + 1075 by omega)
  have hexponent : (BitVec.ofNat 11 biased).toNat = biased := by
    rw [BitVec.toNat_ofNat, Nat.mod_eq_of_lt (by omega)]
  have hmantissa : (1#1 ++ BitVec.ofNat 52 m).toNat = m := by
    rw [append_implicitBit, BitVec.toNat_ofNat]
    omega
  have hpacked : UnpackedFloat.pack .binary64 (.finite s m e hpos) =
      packComponents .binary64 s (BitVec.ofNat 11 biased) (BitVec.ofNat 52 m) := by
    have hsum : (e + (Format.binary64.exponentBias : Int) + (52 : Nat)).toNat = biased := by
      show (e + 1023 + 52).toNat = biased
      omega
    simp only [UnpackedFloat.pack, hsum]
    rw [if_neg (by show ¬ 2 ^ 11 ≤ biased + 1; omega), if_pos (by rw [hm]; rfl)]
  have hnotMax : BitVec.ofNat 11 biased ≠ -1#11 := fun heq => by
    have := congrArg BitVec.toNat heq
    rw [hexponent] at this
    simp at this
    omega
  have hnotZero : BitVec.ofNat 11 biased ≠ 0#11 := fun heq => by
    have := congrArg BitVec.toNat heq
    rw [hexponent] at this
    simp at this
    omega
  show UnpackedFloat.unpack .binary64 (UnpackedFloat.pack .binary64 (.finite s m e hpos)) = _
  rw [hpacked, UnpackedFloat.unpack]
  simp only [unpackMantissa_packComponents, unpackExponent_packComponents, unpackSign_packComponents,
    Sign.ofBitVec_toBitVec, if_neg hnotMax, if_neg hnotZero, hexponent, hmantissa]
  congr 1
  show (biased : Int) - (1023 + 52) = e
  omega

/-- The parts of a finite float: a mantissa of 53 bits, or a shorter one at the least exponent. -/
theorem unpack_finite {x : Float} {s : Sign} {m : Nat} {e : Int} {hpos : 0 < m}
    (h : x.toModel.unpack = .finite s m e hpos) :
    (m.log2 = 52 ∧ -1074 ≤ e ∧ e ≤ 971) ∨ (m < 2 ^ 52 ∧ e = -1074) := by
  rw [Float.Model.unpack, UnpackedFloat.unpack] at h
  dsimp only at h
  split at h
  · split at h <;> cases h
  · rename_i hnotMax
    split at h
    · split at h
      · cases h
      · rename_i hzero hmantissa
        rw [hzero] at h
        simp only [finite.injEq] at h
        refine .inr ⟨h.2.1 ▸ BitVec.isLt _, ?_⟩
        exact h.2.2.symm
    · rename_i hnotZero
      simp only [finite.injEq] at h
      obtain ⟨-, hm, he⟩ := h
      rw [append_implicitBit] at hm
      have hmantissa := (@unpackMantissa .binary64 x.toModel.toBits.toBitVec).isLt
      have hexponent := (@unpackExponent .binary64 x.toModel.toBits.toBitVec).isLt
      have hmax : (@unpackExponent .binary64 x.toModel.toBits.toBitVec).toNat ≠ 2047 := fun heq =>
        hnotMax (BitVec.eq_of_toNat_eq (by rw [heq]; rfl))
      have hzero : (@unpackExponent .binary64 x.toModel.toBits.toBitVec).toNat ≠ 0 := fun heq =>
        hnotZero (BitVec.eq_of_toNat_eq (by rw [heq]; rfl))
      have hbias : ((Format.binary64.exponentBias : Int) + (52 : Nat)) = 1075 := rfl
      have hwidth : 2 ^ Format.binary64.mantissaBitsWithoutImplicit = 2 ^ 52 := rfl
      have hrange : 2 ^ Format.binary64.exponentBits = 2048 := rfl
      refine .inl ⟨(Nat.log2_eq_iff (Nat.ne_of_gt hpos)).2 ?_, ?_, ?_⟩ <;> omega

/-- The float of a whole number below `2^53`. -/
theorem toModel_ofInt {n : Nat} (hpos : 0 < n) (hbound : n < 2 ^ 53) :
    (ofInt n).toModel = .pack (.finite .positive (fullMantissa n) (n.log2 - 52) (fullMantissa_pos hpos)) := by
  have hcompare : compare (n : Int) 0 = .gt := Int.compare_eq_gt.2 (by omega)
  show Float.Model.pack (UnpackedFloat.normalize .binary64 (n : Int) 0 .positive) = _
  rw [UnpackedFloat.normalize, hcompare]
  exact congrArg Float.Model.pack (round_whole hpos hbound)

theorem unpack_ofInt {n : Nat} (hpos : 0 < n) (hbound : n < 2 ^ 53) : (ofInt n).toModel.unpack =
    .finite .positive (fullMantissa n) (n.log2 - 52) (fullMantissa_pos hpos) := by
  have hlog := log2_lt_of_lt hpos hbound
  rw [toModel_ofInt hpos hbound]
  exact unpack_pack_full (fullMantissa_pos hpos) (log2_fullMantissa hpos hbound) (by omega) (by omega)

theorem pack_unpack (x : Float) : .ofModel (.pack x.toModel.unpack) = x := by
  refine Float.toBits_inj.1 (UInt64.toBitVec_inj.1 ?_)
  exact pack_unpack_of_valid x.toModel.valid

theorem natAbs_apply (s : Sign) (n : Nat) : (s.apply n).natAbs = n := by
  cases s <;> simp [Sign.apply]

def signOf (n : Int) : Sign := if n < 0 then .negative else .positive

theorem signOf_apply (s : Sign) {n : Nat} (hpos : 0 < n) : signOf (s.apply n) = s := by
  cases s with
  | negative => exact if_pos (by simp only [Sign.apply]; omega)
  | positive => exact if_neg (by simp only [Sign.apply]; omega)

/-- A finite float with a whole value below `2^52` has its binary point inside the mantissa. -/
theorem whole_of_toInt? {m : Nat} {e : Int} {n : Nat} (hpos : 0 < m) (hbound : n < 2 ^ 52)
    (hparts : (m.log2 = 52 ∧ -1074 ≤ e ∧ e ≤ 971) ∨ (m < 2 ^ 52 ∧ e = -1074))
    (hvalue : (0 ≤ e ∧ n = m * twoTo e) ∨ (e < 0 ∧ m = n * twoTo (-e))) :
    0 < n ∧ m = fullMantissa n ∧ e = n.log2 - 52 := by
  rcases hvalue with ⟨he, hn⟩ | ⟨he, hm⟩
  · have hlarge : 2 ^ 52 ≤ m := by
      rcases hparts with ⟨hlog, _⟩ | ⟨_, hleast⟩
      · exact ((Nat.log2_eq_iff (Nat.ne_of_gt hpos)).1 hlog).1
      · omega
    have hle : m ≤ m * twoTo e := Nat.le_mul_of_pos_right m (Nat.two_pow_pos _)
    omega
  · have hnpos : 0 < n := by
      rcases Nat.eq_zero_or_pos n with hzero | hnpos
      · rw [hm, hzero, Nat.zero_mul] at hpos
        exact absurd hpos (Nat.lt_irrefl 0)
      · exact hnpos
    have hlog : m.log2 = n.log2 + (-e).toNat := by rw [hm]; exact log2_mul_twoPow hnpos _
    rcases hparts with ⟨hfull, _⟩ | ⟨hsmall, hleast⟩
    · have hshift : (-e).toNat = 52 - n.log2 := by omega
      refine ⟨hnpos, ?_, by omega⟩
      rw [fullMantissa, ← hshift]
      exact hm
    · have hlt := (Nat.log2_lt (Nat.ne_of_gt hpos)).2 hsmall
      omega

theorem unpack_of_toInt? {x : Float} {n : Int} (h : toInt? x = some n) (hbound : n.natAbs < 2 ^ 52) :
    (n = 0 ∧ ∃ s, x.toModel.unpack = .zero s) ∨
    ∃ hpos : 0 < n.natAbs, x.toModel.unpack =
      .finite (signOf n) (fullMantissa n.natAbs) (n.natAbs.log2 - 52) (fullMantissa_pos hpos) := by
  rw [toInt?] at h
  split at h
  case _ s hzero => exact .inl ⟨by simpa using h.symm, s, hzero⟩
  case _ s m e hpos hunpack =>
    obtain ⟨k, rfl, hvalue⟩ : ∃ k : Nat, n = s.apply k ∧
        ((0 ≤ e ∧ k = m * twoTo e) ∨ (e < 0 ∧ m = k * twoTo (-e))) := by
      split at h
      case _ he => exact ⟨m * twoTo e, by simpa using h.symm, .inl ⟨he, rfl⟩⟩
      case _ he =>
        split at h
        case _ hmod =>
          refine ⟨m / twoTo (-e), by simpa using h.symm, .inr ⟨by omega, ?_⟩⟩
          exact (Nat.div_mul_cancel (Nat.dvd_of_mod_eq_zero hmod)).symm
        case _ => cases h
    rw [natAbs_apply] at hbound
    obtain ⟨hkpos, rfl, rfl⟩ := whole_of_toInt? hpos hbound (unpack_finite hunpack) hvalue
    refine .inr ⟨by rwa [natAbs_apply], ?_⟩
    simp only [natAbs_apply, signOf_apply s hkpos]
    exact hunpack
  case _ => cases h

/-- Rounding a whole number and setting the sign gives back every float that stands for it, save that a zero has no sign. -/
theorem applySign_ofInt {x : Float} {n : Int} (h : toInt? x = some n) (hzero : n = 0 → x = 0)
    (hbound : n.natAbs < 2 ^ 52) : applySign (n < 0) (ofInt n.natAbs) = x := by
  rcases unpack_of_toInt? h hbound with ⟨rfl, _⟩ | ⟨hpos, hunpack⟩
  · rw [hzero rfl]
    rfl
  · have hlarge : n.natAbs < 2 ^ 53 := by omega
    rw [← pack_unpack x, hunpack]
    by_cases hsign : n < 0
    · have hneg : -ofInt n.natAbs = .ofModel (.pack (ofInt n.natAbs).toModel.unpack.neg) := rfl
      rw [applySign, if_pos (decide_eq_true hsign), hneg, unpack_ofInt hpos hlarge, signOf, if_pos hsign]
      rfl
    · rw [applySign, if_neg (by simpa using hsign), signOf, if_neg hsign, ← toModel_ofInt hpos hlarge]

theorem isFinite_ofInt {n : Nat} (hbound : n < 2 ^ 53) : (ofInt n).isFinite = true := by
  rcases Nat.eq_zero_or_pos n with rfl | hpos
  · rfl
  · have hfinite : (ofInt n).isFinite = (ofInt n).toModel.unpack.isFinite := rfl
    rw [hfinite, unpack_ofInt hpos hbound]
    rfl

theorem beq_zero_iff {x : Float} {n : Int} (h : toInt? x = some n) (hbound : n.natAbs < 2 ^ 52) :
    (x == 0) = true ↔ n = 0 := by
  have hbeq : (x == 0) = x.toModel.unpack.beq (.zero .positive) := rfl
  rcases unpack_of_toInt? h hbound with ⟨rfl, s, hunpack⟩ | ⟨hpos, hunpack⟩
  · rw [hbeq, hunpack]
    cases s <;> decide
  · rw [hbeq, hunpack]
    refine iff_of_false ?_ (by omega)
    cases signOf n <;> exact nofun

theorem beq_symm {x y : Float} (h : (x == y) = true) : (y == x) = true := by
  rw [Float.beq_iff_ne_nan_and_eq] at h ⊢
  grind

theorem isFinite_of_toInt? {x : Float} {n : Int} (h : toInt? x = some n) : x.isFinite = true := by
  have hfinite : x.isFinite = x.toModel.unpack.isFinite := rfl
  rw [hfinite]
  rw [toInt?] at h
  cases hunpack : x.toModel.unpack with
  | zero s => rfl
  | finite s m e hpos => rfl
  | infinity s => simp [hunpack] at h
  | notANumber => simp [hunpack] at h

theorem beq_self {x : Float} {n : Int} (h : toInt? x = some n) : (x == x) = true := by
  rw [Float.beq_self_iff]
  rintro rfl
  cases h

theorem digitsValue_toDigits (n : Nat) : digitsValue (Nat.toDigits 10 n) = n := Nat.ofDigitChars_ten_toDigits

theorem head?_toDigits {n : Nat} (hne : n ≠ 0) : (Nat.toDigits 10 n).head? ≠ some '0' := by
  induction n using Nat.strongRecOn with
  | ind n ih =>
    rw [Nat.toDigits_eq_if (by decide)]
    split
    case _ hsmall =>
      interval_cases n <;> simp_all
    case _ hlarge =>
      rw [List.head?_append_of_ne_nil _ Nat.toDigits_ne_nil]
      exact ih (n / 10) (by omega) (by omega)

theorem toList_toString (n : Int) :
    (toString n).toList = (if n < 0 then ['-'] else []) ++ Nat.toDigits 10 n.natAbs := by
  rw [Int.toString_eq_repr, Int.repr_eq_if]
  split
  case _ h =>
    have habs : n.toNat = n.natAbs := by omega
    rw [if_neg (by omega), Nat.toList_repr, habs, List.nil_append]
  case _ h =>
    have habs : (-n).toNat = n.natAbs := by omega
    rw [if_pos (by omega), String.toList_append, Nat.toList_repr, habs]
    rfl

end PromptLang.Number
