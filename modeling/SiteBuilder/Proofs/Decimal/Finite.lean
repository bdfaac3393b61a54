import Mathlib.Algebra.Group.Nat.Defs
import SiteBuilder.Decimal.Reading

/-!
# Arithmetic that stays finite

A float is finite if its exponent fits. Rounding raises the exponent by as many bits as the mantissa has too many, and
by one more where it carries; so a result that is known to be small enough before it is rounded is finite. A product
of finite floats is never no number, and a quotient by a float of at least two is below its dividend. Nothing is said
of the values themselves, only of how large they may be.
-/

namespace SiteBuilder.Decimal

open Float.Model Float.Model.UnpackedFloat

/-! ## Sizes -/

/-- The number is zero, or its exponent is at most the bound and its size is below `2 ^ (bound + 53)`. -/
def Within (bound : Int) : UnpackedFloat → Prop
  | .zero _ => True
  | .finite _ m e _ => e ≤ bound ∧ m < 2 ^ (bound + 53 - e).toNat
  | .infinity _ | .notANumber => False

/-- A number within some bound is finite. -/
theorem Within.isFinite {bound : Int} {x : UnpackedFloat} (h : Within bound x) : x.isFinite = true := by
  cases x with
  | zero | finite => rfl
  | infinity | notANumber => exact h.elim

/-! ## Packing -/

/-- A packed number whose exponent is not the greatest one is within the bound of that exponent. -/
theorem within_unpack {b : BitVec Format.binary64.numBits} {bound : Int} (hlow : -1074 ≤ bound)
    (hexponent : unpackExponent b ≠ -1#_) (hbound : ((unpackExponent b).toNat : Int) ≤ bound + 1075) :
    Within bound (UnpackedFloat.unpack Format.binary64 b) := by
  have hmantissa : (unpackMantissa b).toNat < 2 ^ 52 := (unpackMantissa b).isLt
  have himplicit : (1#1 ++ unpackMantissa b).toNat < 2 ^ 53 := (1#1 ++ unpackMantissa b).isLt
  have hbias : (Format.binary64.exponentBias : Int) = 1023 := rfl
  have hwidth : (Format.binary64.mantissaBitsWithoutImplicit : Int) = 52 := rfl
  unfold UnpackedFloat.unpack
  rw [if_neg hexponent]
  by_cases hsubnormal : unpackExponent b = 0#_
  · rw [if_pos hsubnormal]
    by_cases hzero : unpackMantissa b = 0#_
    · rw [dif_pos hzero]
      trivial
    · rw [dif_neg hzero]
      have hexponentZero : (unpackExponent b).toNat = 0 := by
        rw [hsubnormal]
        rfl
      refine ⟨by omega, Nat.lt_of_lt_of_le hmantissa (Nat.pow_le_pow_right (by decide) ?_)⟩
      omega
  · rw [if_neg hsubnormal]
    refine ⟨by omega, Nat.lt_of_lt_of_le himplicit (Nat.pow_le_pow_right (by decide) ?_)⟩
    omega

/-- A packed number that is finite is within the greatest bound. -/
theorem within_of_isFinite_unpack {b : BitVec Format.binary64.numBits}
    (h : (UnpackedFloat.unpack Format.binary64 b).isFinite = true) :
    Within 971 (UnpackedFloat.unpack Format.binary64 b) := by
  have hexponent : unpackExponent b ≠ -1#_ := by
    intro hgreatest
    unfold UnpackedFloat.unpack at h
    rw [if_pos hgreatest] at h
    by_cases hzero : unpackMantissa b = 0#_
    · rw [if_pos hzero] at h
      cases h
    · rw [if_neg hzero] at h
      cases h
  have hbelow : (unpackExponent b).toNat ≠ 2047 := fun hgreatest => hexponent (BitVec.eq_of_toNat_eq hgreatest)
  have hsize : (unpackExponent b).toNat < 2 ^ 11 := (unpackExponent b).isLt
  exact within_unpack (by decide) hexponent (by omega)

/-- The biased exponent of a number whose exponent fits has 11 bits and is not the greatest one. -/
theorem biasedExponent_fits {e : Int} (he : e ≤ 971) :
    (BitVec.ofNat 11 (e + 1075).toNat).toNat = (e + 1075).toNat ∧ BitVec.ofNat 11 (e + 1075).toNat ≠ -1#11 := by
  have hexponent : (BitVec.ofNat 11 (e + 1075).toNat).toNat = (e + 1075).toNat := by
    rw [BitVec.toNat_ofNat]
    omega
  refine ⟨hexponent, fun hgreatest => ?_⟩
  rw [hgreatest] at hexponent
  have : (-1#11).toNat = 2047 := rfl
  omega

/-- The packed exponent of a number whose exponent fits is not the greatest one, and no greater than the number's. -/
theorem unpackExponent_pack {s : Sign} {m : Nat} {e : Int} (hm : 0 < m) (he : e ≤ 971) :
    unpackExponent (UnpackedFloat.pack Format.binary64 (.finite s m e hm)) ≠ -1#_ ∧
      (unpackExponent (UnpackedFloat.pack Format.binary64 (.finite s m e hm))).toNat ≤ (e + 1075).toNat := by
  have hbias : (Format.binary64.exponentBias : Int) = 1023 := rfl
  have hbiased : (e + 1023 + ((52 : Nat) : Int)).toNat = (e + 1075).toNat := by omega
  have hfits : ¬2 ^ 11 ≤ (e + 1075).toNat + 1 := by omega
  unfold UnpackedFloat.pack
  simp only [hbias, hbiased, if_neg hfits]
  split
  · rw [unpackExponent_packComponents]
    obtain ⟨hexponent, hgreatest⟩ := biasedExponent_fits he
    exact ⟨hgreatest, Nat.le_of_eq hexponent⟩
  · rw [unpackExponent_packComponents]
    exact ⟨by decide, Nat.zero_le _⟩

/-- A float is packed and unpacked as a bit vector. -/
theorem unpack_modelPack (x : UnpackedFloat) :
    (Float.Model.pack x).unpack =
      UnpackedFloat.unpack Format.binary64 (UnpackedFloat.pack Format.binary64 x) := rfl

/-- A number within a bound that fits is within the bound when it has been packed. -/
theorem Within.unpack_pack {bound : Int} {x : UnpackedFloat} (h : Within bound x) (hlow : -1074 ≤ bound)
    (hhigh : bound ≤ 971) : Within bound (Float.Model.pack x).unpack := by
  cases x with
  | infinity | notANumber => exact h.elim
  | zero s => cases s <;> trivial
  | finite s m e hm =>
    have he : e ≤ bound := h.1
    obtain ⟨hexponent, hle⟩ := unpackExponent_pack (s := s) hm (show e ≤ 971 by omega)
    rw [unpack_modelPack]
    exact within_unpack hlow hexponent (by omega)

/-- A number whose exponent is too large for a float becomes infinite when it is packed. -/
theorem isInf_unpack_pack {s : Sign} {m : Nat} {e : Int} (hm : 0 < m) (he : 971 < e) :
    (Float.Model.pack (.finite s m e hm)).unpack.isInf = true := by
  have hbias : (Format.binary64.exponentBias : Int) = 1023 := rfl
  have htoo : 2 ^ 11 ≤ (e + 1023 + ((52 : Nat) : Int)).toNat + 1 := by omega
  have hpacked : UnpackedFloat.pack Format.binary64 (.finite s m e hm) = packedInfinity Format.binary64 s := by
    unfold UnpackedFloat.pack
    simp only [hbias, if_pos htoo]
  rw [unpack_modelPack, hpacked]
  cases s <;> decide

/-- A finite number is finite when it has been packed, unless it has become infinite. -/
theorem isFinite_unpack_pack {x : UnpackedFloat} (hx : x.isFinite = true)
    (hinf : (Float.Model.pack x).unpack.isInf = false) : (Float.Model.pack x).unpack.isFinite = true := by
  cases x with
  | infinity | notANumber => cases hx
  | zero s => cases s <;> rfl
  | finite s m e hm =>
    by_cases he : e ≤ 971
    · obtain ⟨hexponent, hle⟩ := unpackExponent_pack (s := s) hm he
      have hwithin : Within 971
          (UnpackedFloat.unpack Format.binary64 (UnpackedFloat.pack Format.binary64 (.finite s m e hm))) :=
        within_unpack (by decide) hexponent (by omega)
      exact hwithin.isFinite
    · rw [isInf_unpack_pack hm (Int.not_le.mp he)] at hinf
      cases hinf

/-! ## Rounding -/

/-- Shifting to the right divides the mantissa. -/
theorem mantissa_shiftRight (em : ExtendedMantissa) (k : Nat) : (em >>> k).mantissa = em.mantissa / 2 ^ k := by
  show (Nat.repeat ExtendedMantissa.shiftRightOne k em).mantissa = em.mantissa / 2 ^ k
  induction k with
  | zero => simp [Nat.repeat]
  | succ k ih =>
    show (Nat.repeat ExtendedMantissa.shiftRightOne k em).mantissa / 2 = em.mantissa / 2 ^ (k + 1)
    rw [ih, Nat.div_div_eq_div_mul, Nat.pow_succ]

/-- Rounding leaves the mantissa or adds one to it. -/
theorem roundedMantissa_bounds (em : ExtendedMantissa) :
    em.mantissa ≤ em.roundedMantissa ∧ em.roundedMantissa ≤ em.mantissa + 1 := by
  obtain ⟨m, roundBit, stickyBit⟩ := em
  cases roundBit <;> cases stickyBit <;>
    simp only [ExtendedMantissa.roundedMantissa, ExtendedMantissa.accuracy, Accuracy.roundToNearestEven] <;> omega

/-- A mantissa is extended for shifting without a change. -/
theorem mantissa_ofMantissaAndAccuracy (m : Nat) (accuracy : Accuracy) :
    (ExtendedMantissa.ofMantissaAndAccuracy m accuracy).mantissa = m := by
  unfold ExtendedMantissa.ofMantissaAndAccuracy
  split <;> rfl

/-- Shifting to the exponent that a number should have keeps it below its bound. -/
theorem shiftToTargetExponent_within {m room : Nat} {e bound : Int} (hlow : -1074 ≤ bound) (he : e ≤ bound)
    (hroom : room ≤ 53) (hm : m < 2 ^ (bound + room - e).toNat) (accuracy : Accuracy) :
    (shiftToTargetExponent Format.binary64 m e accuracy).2 ≤ bound ∧
      (shiftToTargetExponent Format.binary64 m e accuracy).1.mantissa <
        2 ^ (bound + room - (shiftToTargetExponent Format.binary64 m e accuracy).2).toNat := by
  have htarget : Format.binary64.targetExponent (totalExponent m e) = max ((m.log2 : Int) + 1 + e - 53) (-1074) := rfl
  have hlog : (m.log2 : Int) + 1 + e - 53 ≤ bound := by
    by_cases hzero : m = 0
    · rw [hzero, Nat.log2_zero]
      omega
    · have := (Nat.log2_lt hzero).mpr hm
      omega
  simp only [shiftToTargetExponent, shiftToExponent, mantissa_shiftRight, mantissa_ofMantissaAndAccuracy, htarget]
  refine ⟨by omega, (Nat.div_lt_iff_lt_mul (Nat.two_pow_pos _)).mpr ?_⟩
  rw [← Nat.pow_add]
  exact Nat.lt_of_lt_of_le hm (Nat.pow_le_pow_right (by decide) (by omega))

/-- Rounding shifts, adds what is left over, and shifts once more. The mantissa is then that of the result. -/
theorem roundWithAccuracy_cases (s : Sign) (m : Nat) (e : Int) (accuracy : Accuracy) :
    let first := shiftToTargetExponent Format.binary64 m e accuracy
    let last := shiftToTargetExponent Format.binary64 first.1.roundedMantissa first.2 .exact
    (last.1.mantissa = 0 ∧ roundWithAccuracy Format.binary64 s m e accuracy = .zero s) ∨
      ∃ hm, roundWithAccuracy Format.binary64 s m e accuracy = .finite s last.1.mantissa last.2 hm := by
  intro first last
  by_cases hzero : last.1.mantissa = 0
  · exact .inl ⟨hzero, dif_pos hzero⟩
  · exact .inr ⟨Nat.pos_of_ne_zero hzero, dif_neg hzero⟩

/-- A number that is half as large as a bound allows is within the bound when it has been rounded. -/
theorem within_roundWithAccuracy {m : Nat} {e bound : Int} (hlow : -1074 ≤ bound) (he : e ≤ bound)
    (hm : m < 2 ^ (bound + 52 - e).toNat) (s : Sign) (accuracy : Accuracy) :
    Within bound (roundWithAccuracy Format.binary64 s m e accuracy) := by
  let first := shiftToTargetExponent Format.binary64 m e accuracy
  obtain ⟨hfirst, hmantissa⟩ : first.2 ≤ bound ∧ first.1.mantissa < 2 ^ (bound + (52 : Nat) - first.2).toNat :=
    shiftToTargetExponent_within hlow he (by decide) hm accuracy
  -- Rounding may carry into one more bit, which is the bit that was left free.
  have hcarry : first.1.roundedMantissa < 2 ^ (bound + (53 : Nat) - first.2).toNat := by
    have hrounded := (roundedMantissa_bounds first.1).2
    have hbits : (bound + (53 : Nat) - first.2).toNat = (bound + (52 : Nat) - first.2).toNat + 1 := by omega
    rw [hbits, Nat.pow_succ]
    omega
  let last := shiftToTargetExponent Format.binary64 first.1.roundedMantissa first.2 .exact
  have hlast : last.2 ≤ bound ∧ last.1.mantissa < 2 ^ (bound + (53 : Nat) - last.2).toNat :=
    shiftToTargetExponent_within hlow hfirst (by decide) hcarry .exact
  obtain ⟨-, hround⟩ | ⟨_, hround⟩ := roundWithAccuracy_cases s m e accuracy
  · rw [hround]
    trivial
  · rw [hround]
    exact hlast

/-- Shifting a number that has more bits than it should leaves 53 of them. -/
theorem shiftToTargetExponent_normal {m : Nat} {e : Int} (hbits : 52 ≤ m.log2) (hlow : -1074 ≤ m.log2 - 52 + e)
    (accuracy : Accuracy) :
    (shiftToTargetExponent Format.binary64 m e accuracy).2 = m.log2 - 52 + e ∧
      (shiftToTargetExponent Format.binary64 m e accuracy).1.mantissa.log2 = 52 := by
  have htarget : Format.binary64.targetExponent (totalExponent m e) = m.log2 - 52 + e := by
    show max ((m.log2 : Int) + 1 + e - 53) (-1074) = m.log2 - 52 + e
    omega
  have hshift : ((m.log2 : Int) - 52 + e - e).toNat = m.log2 - 52 := by omega
  simp only [shiftToTargetExponent, shiftToExponent, mantissa_shiftRight, mantissa_ofMantissaAndAccuracy, htarget,
    hshift]
  refine ⟨by omega, ?_⟩
  have hm : m ≠ 0 := by
    rintro rfl
    rw [Nat.log2_zero] at hbits
    omega
  have hleast : 2 ^ 52 ≤ m / 2 ^ (m.log2 - 52) := by
    rw [Nat.le_div_iff_mul_le (Nat.two_pow_pos _), ← Nat.pow_add, Nat.add_sub_cancel' hbits]
    exact Nat.log2_self_le hm
  have hgreatest : m / 2 ^ (m.log2 - 52) < 2 ^ 53 := by
    have hsum : 53 + (m.log2 - 52) = m.log2 + 1 := by omega
    rw [Nat.div_lt_iff_lt_mul (Nat.two_pow_pos _), ← Nat.pow_add, hsum]
    exact Nat.lt_log2_self
  exact (Nat.log2_eq_iff (Nat.ne_of_gt (Nat.lt_of_lt_of_le (by decide) hleast))).mpr ⟨hleast, hgreatest⟩

/-- Rounding a number of at least 53 bits leaves 53 of them; the exponent is theirs, or one more after a carry. -/
theorem roundWithAccuracy_normal {m : Nat} {e : Int} (hbits : 52 ≤ m.log2) (hlow : -1074 ≤ m.log2 - 52 + e) (s : Sign)
    (accuracy : Accuracy) :
    ∃ m' e' hm', roundWithAccuracy Format.binary64 s m e accuracy = .finite s m' e' hm' ∧ m'.log2 = 52 ∧
      m.log2 - 52 + e ≤ e' ∧ e' ≤ m.log2 - 51 + e := by
  let first := shiftToTargetExponent Format.binary64 m e accuracy
  obtain ⟨hfirst, hmantissa⟩ : first.2 = m.log2 - 52 + e ∧ first.1.mantissa.log2 = 52 :=
    shiftToTargetExponent_normal hbits hlow accuracy
  have hrounded : first.1.roundedMantissa.log2 = 52 ∨ first.1.roundedMantissa.log2 = 53 := by
    obtain ⟨hleast, hgreatest⟩ := roundedMantissa_bounds first.1
    obtain ⟨hlow, hhigh⟩ := (Nat.log2_eq_iff (by rintro hzero; rw [hzero] at hmantissa; cases hmantissa)).mp hmantissa
    have hne : first.1.roundedMantissa ≠ 0 := by omega
    by_cases hcarry : first.1.roundedMantissa = 2 ^ 53
    · exact .inr (by rw [hcarry, Nat.log2_two_pow])
    · exact .inl ((Nat.log2_eq_iff hne).mpr ⟨by omega, by omega⟩)
  let last := shiftToTargetExponent Format.binary64 first.1.roundedMantissa first.2 .exact
  obtain ⟨hlast, hlog⟩ : last.2 = first.1.roundedMantissa.log2 - 52 + first.2 ∧ last.1.mantissa.log2 = 52 :=
    shiftToTargetExponent_normal (by omega) (by omega) .exact
  obtain ⟨hzero, -⟩ | ⟨_, hround⟩ := roundWithAccuracy_cases s m e accuracy
  · have hlogZero : (0 : Nat).log2 = 52 := hzero ▸ hlog
    cases hlogZero
  · exact ⟨_, last.2, _, hround, hlog, by omega, by omega⟩

/-- Rounding gives a finite number, which need not fit. -/
theorem isFinite_roundWithAccuracy (s : Sign) (m : Nat) (e : Int) (accuracy : Accuracy) :
    (roundWithAccuracy Format.binary64 s m e accuracy).isFinite = true := by
  obtain ⟨-, hround⟩ | ⟨_, hround⟩ := roundWithAccuracy_cases s m e accuracy <;> rw [hround] <;> rfl

/-! ## Operations -/

/-- The product of numbers within two bounds is within their sum. -/
theorem within_mul {bound bound' : Int} {x y : UnpackedFloat} (hlow : -1074 ≤ bound + bound' + 54)
    (hx : Within bound x) (hy : Within bound' y) :
    Within (bound + bound' + 54) (UnpackedFloat.mul Format.binary64 x y) := by
  cases x with
  | infinity | notANumber => exact hx.elim
  | zero s =>
    cases y with
    | infinity | notANumber => exact hy.elim
    | zero | finite => trivial
  | finite s m e hm =>
    cases y with
    | infinity | notANumber => exact hy.elim
    | zero => trivial
    | finite t n f hn =>
      obtain ⟨he, hm⟩ := hx
      obtain ⟨hf, hn⟩ := hy
      refine within_roundWithAccuracy hlow (by omega) ?_ _ _
      have hbits : (bound + bound' + 54 + 52 - (e + f)).toNat = (bound + 53 - e).toNat + (bound' + 53 - f).toNat := by
        omega
      rw [hbits, Nat.pow_add]
      exact Nat.mul_lt_mul'' hm hn

/-- The product of finite numbers is finite, before it is packed. -/
theorem isFinite_unpackedMul {x y : UnpackedFloat} (hx : x.isFinite = true) (hy : y.isFinite = true) :
    (UnpackedFloat.mul Format.binary64 x y).isFinite = true := by
  cases x with
  | infinity | notANumber => cases hx
  | zero =>
    cases y with
    | infinity | notANumber => cases hy
    | zero | finite => rfl
  | finite =>
    cases y with
    | infinity | notANumber => cases hy
    | zero => rfl
    | finite => exact isFinite_roundWithAccuracy _ _ _ _

/-- The number is finite and its size at least two. -/
def AtLeastTwo : UnpackedFloat → Prop
  | .finite _ m e _ => 2 ≤ totalExponent m e
  | _ => False

/-- A number of at least two is finite. -/
theorem AtLeastTwo.isFinite {x : UnpackedFloat} (h : AtLeastTwo x) : x.isFinite = true := by
  cases x with
  | finite => rfl
  | infinity | notANumber | zero => exact h.elim

instance : DecidablePred AtLeastTwo
  | .finite _ m e _ => inferInstanceAs (Decidable (2 ≤ totalExponent m e))
  | .zero _ | .infinity _ | .notANumber => .isFalse id

/-- The quotient of a number that fits by one of at least two fits. -/
theorem within_div {x y : UnpackedFloat} (hx : Within 971 x) (hy : AtLeastTwo y) :
    Within 971 (UnpackedFloat.div Format.binary64 x y) := by
  cases y with
  | infinity | notANumber | zero => exact hy.elim
  | finite t n f hn =>
    cases x with
    | infinity | notANumber => exact hx.elim
    | zero => trivial
    | finite s m e hm =>
      obtain ⟨he, hm⟩ := hx
      have hsize : (2 : Int) ≤ n.log2 + 1 + f := hy
      have hdividend : (m.log2 : Int) + 1 ≤ 971 + 53 - e := by
        have := (Nat.log2_lt (Nat.ne_of_gt ‹0 < m›)).mpr hm
        omega
      let target := min (e - f) (max ((m.log2 : Int) + 1 + e - (n.log2 + 1 + f) - 53) (-1074))
      show Within 971 (roundWithAccuracy Format.binary64 (s / t) (m <<< (e - f - target).toNat / n) target _)
      refine within_roundWithAccuracy (by decide) (show target ≤ 971 by omega) ?_ _ _
      show m <<< (e - f - target).toNat / n < 2 ^ (971 + 52 - target).toNat
      rw [Nat.div_lt_iff_lt_mul hn, Nat.shiftLeft_eq]
      calc m * 2 ^ (e - f - target).toNat
          < 2 ^ (m.log2 + 1) * 2 ^ (e - f - target).toNat :=
            Nat.mul_lt_mul_of_pos_right Nat.lt_log2_self (Nat.two_pow_pos _)
        _ = 2 ^ (m.log2 + 1 + (e - f - target).toNat) := (Nat.pow_add ..).symm
        _ ≤ 2 ^ ((971 + 52 - target).toNat + n.log2) := Nat.pow_le_pow_right (by decide) (by omega)
        _ = 2 ^ (971 + 52 - target).toNat * 2 ^ n.log2 := Nat.pow_add ..
        _ ≤ 2 ^ (971 + 52 - target).toNat * n := Nat.mul_le_mul_left _ (Nat.log2_self_le (Nat.ne_of_gt hn))

/-! ## Floats -/

/-- A float is finite if it is within the greatest bound. -/
theorem isFinite_iff_within {x : Float} : x.isFinite = true ↔ Within 971 x.toModel.unpack :=
  ⟨within_of_isFinite_unpack, Within.isFinite⟩

/-- A finite float is neither infinite nor no number. -/
theorem isFinite_iff {x : Float} : x.isFinite = true ↔ x.isNaN = false ∧ x.isInf = false := by
  show x.toModel.unpack.isFinite = true ↔ x.toModel.unpack.isNaN = false ∧ x.toModel.unpack.isInf = false
  cases x.toModel.unpack with
  | zero | finite => exact iff_of_true rfl ⟨rfl, rfl⟩
  | infinity => exact iff_of_false Bool.false_ne_true fun h => Bool.false_ne_true h.2.symm
  | notANumber => exact iff_of_false Bool.false_ne_true fun h => Bool.false_ne_true h.1.symm

/-- A finite float has a finite negative. -/
theorem isFinite_neg {x : Float} (hx : x.isFinite = true) : (-x).isFinite = true := by
  have hwithin := isFinite_iff_within.mp hx
  have hneg : Within 971 x.toModel.unpack.neg := by
    cases h : x.toModel.unpack with
    | infinity | notANumber => rw [h] at hwithin; exact hwithin.elim
    | zero => trivial
    | finite => rw [h] at hwithin; exact hwithin
  exact (hneg.unpack_pack (by decide) (by decide)).isFinite

/-- The product of finite floats is finite unless it is infinite. -/
theorem isFinite_mul {x y : Float} (hx : x.isFinite = true) (hy : y.isFinite = true)
    (hinf : (x * y).isInf = false) : (x * y).isFinite = true :=
  isFinite_unpack_pack (isFinite_unpackedMul hx hy) hinf

/-- The quotient of a finite float by one of at least two is finite. -/
theorem isFinite_div {x y : Float} (hx : x.isFinite = true) (hy : AtLeastTwo y.toModel.unpack) :
    (x / y).isFinite = true :=
  ((within_div (isFinite_iff_within.mp hx) hy).unpack_pack (by decide) (by decide)).isFinite

/-! ## Numbers near floats -/

/-- A number of 53 bits that are all before the point is at least two when it has been packed. -/
theorem atLeastTwo_unpack_pack {s : Sign} {m : Nat} {e : Int} (hm : 0 < m) (hbits : m.log2 = 52) (hlow : 1 ≤ e)
    (hhigh : e ≤ 971) : AtLeastTwo (Float.Model.pack (.finite s m e hm)).unpack := by
  have hbias : (Format.binary64.exponentBias : Int) = 1023 := rfl
  have hwidth : (Format.binary64.mantissaBitsWithoutImplicit : Int) = 52 := rfl
  have hbiased : (e + 1023 + ((52 : Nat) : Int)).toNat = (e + 1075).toNat := by omega
  have hfits : ¬2 ^ 11 ≤ (e + 1075).toNat + 1 := by omega
  have hnormal : m.log2 + 1 = Format.binary64.mantissaBits := by
    rw [hbits]
    rfl
  have hpacked : UnpackedFloat.pack Format.binary64 (.finite s m e hm) =
      packComponents Format.binary64 s (BitVec.ofNat 11 (e + 1075).toNat) (BitVec.ofNat 52 m) := by
    unfold UnpackedFloat.pack
    simp only [hbias, hbiased, if_neg hfits, if_pos hnormal]
  obtain ⟨hexponent, hgreatest⟩ := biasedExponent_fits hhigh
  have hleast : BitVec.ofNat 11 (e + 1075).toNat ≠ 0#11 := by
    intro h
    rw [h] at hexponent
    have : (0#11).toNat = 0 := rfl
    omega
  rw [unpack_modelPack, hpacked]
  unfold UnpackedFloat.unpack
  rw [unpackExponent_packComponents, if_neg hgreatest, if_neg hleast]
  show (2 : Int) ≤ _ + 1 + _
  omega

/-- The float near a whole number that is not far too large is read by the general conversion. -/
theorem nearestFloat_eq_ofScientific {n k : Nat} (hn : n ≠ 0) (hsize : (Nat.toDigits 10 n).length + k ≤ 310) :
    nearestFloat n k = Float.ofScientific n false k := by
  have hlarge : ¬(310 : Int) < ((Nat.toDigits 10 n).length : Int) + k := by omega
  have hsmall : ¬((Nat.toDigits 10 n).length : Int) + k < -330 := by omega
  have hsign : ¬(k : Int) < 0 := by omega
  rw [nearestFloat, if_neg hn]
  dsimp only
  rw [if_neg hlarge, if_neg hsmall, if_neg hsign, Int.natAbs_natCast]

/-- Beyond the table of exact powers, the general conversion multiplies before it rounds. -/
theorem toModel_ofScientific {n k : Nat} (hn : n ≠ 0) (hk : k ≤ 2048) (htable : ¬(n < 2 ^ 53 ∧ k ≤ 22)) :
    (Float.ofScientific n false k).toModel =
      Float.Model.pack (roundWithAccuracy Format.binary64 .positive (n * 2 ^ 53 * 10 ^ k) (-53) .exact) := by
  have hlarge : ¬(2 : Int) ^ 11 < (k : Int) := by omega
  have hsmall : ¬(k : Int) < -((2 : Int) ^ 11 + n.log2) := by omega
  have hsign : (0 : Int) ≤ (k : Int) := by omega
  rw [Float.ofScientific, dif_neg htable]
  show Float.Model.pack (UnpackedFloat.ofScientific Format.binary64 n (k : Int)) = _
  rw [UnpackedFloat.ofScientific, dif_neg hn, if_neg hlarge, if_neg hsmall, if_pos hsign]
  show Float.Model.pack (roundWithAccuracy Format.binary64 .positive (n <<< 53 * 10 ^ k) (-53 + 0) .exact) = _
  rw [Nat.shiftLeft_eq]
  rfl

/-- The float near a power of ten is at least two if the power is and if it fits. -/
theorem atLeastTwo_nearestFloat_power {k : Nat} (hpos : 0 < k) (hk : k ≤ 308) :
    AtLeastTwo (nearestFloat 1 k).toModel.unpack := by
  -- The first powers are looked up in a table, and the last ones are too near the greatest float for the bounds.
  have hfirst : ∀ k ≤ 22, 0 < k → AtLeastTwo (nearestFloat 1 (k : Nat)).toModel.unpack := by decide +kernel
  have hlast : ∀ k ≤ 308, 306 < k → AtLeastTwo (nearestFloat 1 (k : Nat)).toModel.unpack := by decide +kernel
  by_cases hsmall : k ≤ 22
  · exact hfirst k hsmall hpos
  by_cases hlarge : 306 < k
  · exact hlast k hk hlarge
  have hleast : 2 ^ 106 ≤ 1 * 2 ^ 53 * 10 ^ k := by
    calc 2 ^ 106
        ≤ 1 * 2 ^ 53 * 10 ^ 23 := by decide
      _ ≤ 1 * 2 ^ 53 * 10 ^ k := Nat.mul_le_mul_left _ (Nat.pow_le_pow_right (by decide) (by omega))
  -- The exponent stays a variable, so that nothing evaluates its power.
  obtain ⟨j, hj⟩ : ∃ j, j = 102 := ⟨102, rfl⟩
  have hmost : 1 * 2 ^ 53 * 10 ^ k < 2 ^ (53 + 10 * j + 1) := by
    calc 1 * 2 ^ 53 * 10 ^ k
        ≤ 1 * 2 ^ 53 * 10 ^ (3 * j) := Nat.mul_le_mul_left _ (Nat.pow_le_pow_right (by decide) (by omega))
      _ = 1 * 2 ^ 53 * (10 ^ 3) ^ j := by rw [Nat.pow_mul]
      _ ≤ 1 * 2 ^ 53 * (2 ^ 10) ^ j := Nat.mul_le_mul_left _ (Nat.pow_le_pow_left (by decide) j)
      _ = 2 ^ (53 + 10 * j) := by rw [Nat.one_mul, ← Nat.pow_mul, ← Nat.pow_add]
      _ < 2 ^ (53 + 10 * j + 1) := Nat.pow_lt_pow_succ (by decide)
  have hne : 1 * 2 ^ 53 * 10 ^ k ≠ 0 := Nat.ne_of_gt (Nat.lt_of_lt_of_le (by decide) hleast)
  have hlow := (Nat.le_log2 hne).mpr hleast
  have hhigh := (Nat.log2_lt hne).mpr hmost
  obtain ⟨m, e, hm, hround, hbits, he, he'⟩ := roundWithAccuracy_normal (m := 1 * 2 ^ 53 * 10 ^ k) (e := -53)
    (by omega) (by omega) .positive .exact
  have hdigits : (Nat.toDigits 10 1).length = 1 := rfl
  rw [nearestFloat_eq_ofScientific (by decide) (by omega), toModel_ofScientific (by decide) (by omega) (by omega),
    hround]
  exact atLeastTwo_unpack_pack hm hbits (by omega) (by omega)

/-- The float near a power of ten that fits is finite. -/
theorem isFinite_nearestFloat_power {k : Nat} (hk : k ≤ 308) : (nearestFloat 1 k).isFinite = true := by
  by_cases hzero : k = 0
  · subst hzero
    decide +kernel
  · exact (atLeastTwo_nearestFloat_power (Nat.pos_of_ne_zero hzero) hk).isFinite

/-- A whole number of 53 bits is a float of no more bits. -/
theorem within_toFloat {n : Nat} (hn : n < 2 ^ 53) : Within 1 n.toUInt64.toFloat.toModel.unpack := by
  suffices h : Within 1 (UnpackedFloat.ofUInt64 Format.binary64 n.toUInt64) from h.unpack_pack (by decide) (by decide)
  have hsize : n.toUInt64.toNat = n := Nat.mod_eq_of_lt (Nat.lt_trans hn (by decide))
  rw [UnpackedFloat.ofUInt64, hsize, UnpackedFloat.ofNat, UnpackedFloat.ofInt, UnpackedFloat.normalize]
  split
  · next hnegative =>
    have := Int.compare_eq_lt.mp hnegative
    omega
  · trivial
  · rw [Int.toNat_natCast, UnpackedFloat.round]
    let k := (0 - Format.binary64.targetExponent (totalExponent n 0)).toNat
    have hbits : (1 + 52 - (0 - (k : Int))).toNat = 53 + k := by omega
    refine within_roundWithAccuracy (m := n <<< k) (e := 0 - k) (by decide) (by omega) ?_ _ _
    rw [hbits, Nat.shiftLeft_eq, Nat.pow_add]
    exact Nat.mul_lt_mul_of_pos_right hn (Nat.two_pow_pos k)

/-- A whole number of 64 bits is near a finite float. -/
theorem isFinite_nearestFloat {n : Nat} (hn : n < 2 ^ 64) : (nearestFloat n 0).isFinite = true := by
  by_cases hzero : n = 0
  · subst hzero
    decide +kernel
  have hdigits : (Nat.toDigits 10 n).length ≤ 20 :=
    (Nat.length_toDigits_le_iff (by decide) (by decide)).mpr (Nat.lt_trans hn (by decide))
  rw [show (0 : Int) = (0 : Nat) from rfl, nearestFloat_eq_ofScientific hzero (by omega)]
  show (Float.ofScientific n false 0).toModel.unpack.isFinite = true
  by_cases hsmall : n < 2 ^ 53
  · -- A number that a float holds is multiplied by the float of one.
    have hone : Within (-52) (getElem Float.exactlyRepresentablePowersOfTen 0 (by decide)).toModel.unpack :=
      ⟨by decide, by decide⟩
    rw [Float.ofScientific, dif_pos ⟨hsmall, by decide⟩]
    exact ((within_mul (by decide) (within_toFloat hsmall) hone).unpack_pack (by decide) (by decide)).isFinite
  · have hfits : Within 971 (roundWithAccuracy Format.binary64 .positive (n * 2 ^ 53 * 10 ^ 0) (-53) .exact) := by
      refine within_roundWithAccuracy (by decide) (by decide) ?_ _ _
      calc n * 2 ^ 53 * 10 ^ 0
          = n * 2 ^ 53 := Nat.mul_one _
        _ < 2 ^ 64 * 2 ^ 53 := Nat.mul_lt_mul_of_pos_right hn (Nat.two_pow_pos 53)
        _ = 2 ^ (64 + 53) := (Nat.pow_add ..).symm
        _ ≤ 2 ^ (971 + 52 - (-53) : Int).toNat := Nat.pow_le_pow_right (by decide) (by decide)
    rw [toModel_ofScientific hzero (by decide) (by omega)]
    exact (hfits.unpack_pack (by decide) (by decide)).isFinite

end SiteBuilder.Decimal
