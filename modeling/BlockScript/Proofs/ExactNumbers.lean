import BlockScript.Number
import BlockScript.Proofs.Numeral

/-!
Numbers that are the same. A binary number and an integer are the same if the binary number is whole
and has that value, and then the integer turned into a binary number gives it back: the nearest
binary number to a value that has one is that one.
-/

namespace BlockScript.Decimal

open Binary BitVec
open Float.Model UnpackedFloat Option

variable {x y : Float} {b : Binary} (s : UnpackedFloat.Sign)

lemma toNat_unpackMantissa (w : UInt64) :
    (@unpackMantissa Format.binary64 w.toBitVec).toNat = w.toNat % 2 ^ 52 := by
  simp only [unpackMantissa]
  simp

def signOf (negative : Bool) : UnpackedFloat.Sign := if negative then .negative else .positive

lemma sign_unpackSign (w : UInt64) :
    UnpackedFloat.Sign.ofBitVec (@unpackSign Format.binary64 w.toBitVec) =
      signOf (2 ^ 63 ≤ w.toNat) := by
  have bound := w.toNat_lt
  have top : (@unpackSign Format.binary64 w.toBitVec).toNat = w.toNat / 2 ^ 63 := by
    simp only [unpackSign]
    simp
    omega
  by_cases large : 2 ^ 63 ≤ w.toNat
  · have one : (@unpackSign Format.binary64 w.toBitVec) = 1#1 := by
      apply eq_of_toNat_eq
      simp only [toNat_ofNat]
      omega
    rw [one, decide_eq_true large]
    rfl
  · have zero : (@unpackSign Format.binary64 w.toBitVec) = 0#1 := by
      apply eq_of_toNat_eq
      simp only [toNat_ofNat]
      omega
    rw [zero, decide_eq_false large]
    rfl

def Binary.unpacked (b : Binary) : UnpackedFloat :=
  if positive : 0 < b.mantissa then .finite (signOf b.negative) b.mantissa b.exponent positive
  else .zero (signOf b.negative)

lemma unpack_eq_unpacked (finite : ofFloat? x = some b) : x.toModel.unpack = b.unpacked := by
  have mantissa := toNat_unpackMantissa x.toBits
  have sign := sign_unpackSign x.toBits
  have leading := toNat_one_append (@unpackMantissa Format.binary64 x.toBits.toBitVec)
  have exponent (n) (small : n < 2 ^ 11) :
      (@unpackExponent Format.binary64 x.toBits.toBitVec = BitVec.ofNat 11 n) ↔
        x.toBits.toNat / 2 ^ 52 % 2 ^ 11 = n := by
    rw [← toNat_unpackExponent, ← BitVec.toNat_inj, BitVec.toNat_ofNat, Nat.mod_eq_of_lt small]
  have none : (@unpackMantissa Format.binary64 x.toBits.toBitVec = 0#52) ↔
      x.toBits.toNat % 2 ^ 52 = 0 := by
    rw [← toNat_unpackMantissa, ← BitVec.toNat_inj]
    rfl
  change UnpackedFloat.unpack Format.binary64 x.toBits.toBitVec = _
  simp only [ofFloat?, Nat.pow_eq] at finite
  by_cases special : x.toBits.toNat / 2 ^ 52 % 2 ^ 11 = 2047
  · rw [if_pos special] at finite
    cases finite
  have usual : ¬ @unpackExponent Format.binary64 x.toBits.toBitVec = -1#11 := by
    intro ones
    exact special ((exponent 2047 (by decide)).1 ones)
  rw [if_neg special] at finite
  by_cases tiny : x.toBits.toNat / 2 ^ 52 % 2 ^ 11 = 0
  · rw [if_pos tiny, some.injEq] at finite
    subst finite
    have zero : @unpackExponent Format.binary64 x.toBits.toBitVec = 0#11 :=
      (exponent 0 (by decide)).2 tiny
    simp only [UnpackedFloat.unpack]
    rw [if_neg usual, if_pos zero]
    by_cases empty : x.toBits.toNat % 2 ^ 52 = 0
    · rw [dif_pos (none.2 empty), unpacked, dif_neg (by dsimp only; omega), sign]
    · rw [dif_neg (mt none.1 empty), unpacked, dif_pos (Nat.pos_of_ne_zero empty)]
      simp only [zero, sign]
      rfl
  · rw [if_neg tiny, some.injEq] at finite
    subst finite
    have nonzero : ¬ @unpackExponent Format.binary64 x.toBits.toBitVec = 0#11 := by
      intro zero
      exact tiny ((exponent 0 (by decide)).1 zero)
    have pos : 0 < x.toBits.toNat % 2 ^ 52 + 2 ^ 52 := Nat.add_pos_right _ (Nat.two_pow_pos 52)
    simp only [UnpackedFloat.unpack]
    rw [if_neg usual, if_neg nonzero, unpacked, dif_pos pos]
    simp only [toNat_unpackExponent]
    congr 1
    omega

lemma ofFloat?_bounds (finite : ofFloat? x = some b) :
    b.mantissa < 2 ^ 53 ∧ -1074 ≤ b.exponent ∧ b.exponent ≤ 971 ∧
      (2 ^ 52 ≤ b.mantissa ∨ b.exponent = -1074) := by
  simp only [ofFloat?, Nat.pow_eq] at finite
  split at finite
  · cases finite
  · grind

lemma sign_packComponents (exponent : BitVec 11) (mantissa : BitVec 52) :
    UnpackedFloat.Sign.ofBitVec (unpackSign (packComponents Format.binary64 s exponent mantissa)) =
      s := by
  simp only [unpackSign, packComponents, extractLsb]
  rw [extractLsb'_append_eq_of_le (by decide),
    extractLsb'_append_eq_of_le (by decide)]
  cases s <;> rfl

lemma unpack_pack_normal (positive : 0 < m) (least : 2 ^ 52 ≤ m) (most : m < 2 ^ 53)
    (low : -1074 ≤ e) (high : e ≤ 971) :
    (Float.Model.pack (.finite s m e positive)).unpack = .finite s m e positive := by
  have length : m.log2 = 52 := (Nat.log2_eq_iff (by omega)).2 ⟨least, most⟩
  have bias : (e + (Format.binary64.exponentBias : Nat) + (52 : Nat)).toNat = (e + 1075).toNat := by
    have : ((Format.binary64.exponentBias : Nat) : Int) = 1023 := rfl
    omega
  have packed : UnpackedFloat.pack Format.binary64 (.finite s m e positive) =
      packComponents Format.binary64 s (BitVec.ofNat 11 (e + 1075).toNat) (BitVec.ofNat 52 m) := by
    simp only [UnpackedFloat.pack]
    rw [bias, if_neg (by omega), if_pos (by rw [length]; rfl)]
  have field : (BitVec.ofNat 11 (e + 1075).toNat).toNat = (e + 1075).toNat := by
    rw [BitVec.toNat_ofNat]
    omega
  have usual : ¬ BitVec.ofNat 11 (e + 1075).toNat = -1#11 := by
    intro ones
    have := congrArg BitVec.toNat ones
    simp at this
    omega
  have nonzero : ¬ BitVec.ofNat 11 (e + 1075).toNat = 0#11 := by
    intro zero
    have := congrArg BitVec.toNat zero
    simp at this
    omega
  have mantissa : (1#1 ++ BitVec.ofNat 52 m).toNat = m := by
    rw [toNat_one_append, BitVec.toNat_ofNat]
    omega
  change UnpackedFloat.unpack Format.binary64
    (UnpackedFloat.pack Format.binary64 (.finite s m e positive)) = _
  rw [packed]
  simp only [UnpackedFloat.unpack, unpackExponent_packComponents, unpackMantissa_packComponents]
  rw [if_neg usual, if_neg nonzero]
  simp only [sign_packComponents]
  congr 1
  omega

lemma compare_swap (u v : UnpackedFloat) : v.compare u = (u.compare v).map Ordering.swap := by
  have oriented (e e' : Int) (n n' : Nat) :
      (compare e' e).then (compare n' n) = ((compare e e').then (compare n n')).swap := by
    rw [Ordering.swap_then, ← Std.OrientedOrd.eq_swap, ← Std.OrientedOrd.eq_swap]
  rcases u with (_ | _) | _ | (_ | _) | ⟨_ | _, m, e, _⟩ <;>
    rcases v with (_ | _) | _ | (_ | _) | ⟨_ | _, m', e', _⟩ <;>
    first
    | rfl
    | exact congrArg some (oriented e e' m m')
    | exact congrArg (fun o => some (Ordering.swap o)) (oriented e e' m m')

lemma compare_self_finite (pos : 0 < m) :
    (UnpackedFloat.finite s m e pos).compare (.finite s m e pos) = some .eq := by
  cases s <;> simp [UnpackedFloat.compare]

lemma beq_iff_compare : (x == y) = true ↔ x.toModel.unpack.compare y.toModel.unpack = some .eq := by
  change (x.toModel.unpack.compare y.toModel.unpack == some .eq) = true ↔ _
  exact beq_iff_eq

lemma lt_iff_compare : x < y ↔ x.toModel.unpack.compare y.toModel.unpack = some .lt := by
  change decide (x.toModel < y.toModel) = true ↔ _
  rw [decide_eq_true_iff]
  exact beq_iff_eq

def Binary.signed (b : Binary) : Int := if b.negative then -(b.mantissa : Int) else b.mantissa

def Binary.HasValue (b : Binary) (n : Int) : Prop :=
  n * 2 ^ (-b.exponent).toNat = b.signed * 2 ^ b.exponent.toNat

lemma natAbs_signed (b : Binary) : b.signed.natAbs = b.mantissa := by
  unfold signed
  split <;> omega

lemma Binary.HasValue.negative_iff (value : b.HasValue n) (pos : 0 < b.mantissa) :
    n < 0 ↔ b.negative = true := by
  have sign := congrArg Int.sign value
  have power (k) : Int.sign (2 ^ k) = 1 := Int.sign_eq_one_of_pos (pow_pos two_pos k)
  rw [Int.sign_mul, Int.sign_mul, power, power, mul_one, mul_one] at sign
  rw [← Int.sign_eq_neg_one_iff_neg, sign, Int.sign_eq_neg_one_iff_neg, signed]
  split <;> rename_i negative
  · exact iff_of_true (by omega) negative
  · exact iff_of_false (by omega) negative

lemma toInt?_eq_some_iff : toInt? x = some n ↔ ∃ b, Binary.ofFloat? x = some b ∧ b.HasValue n := by
  unfold toInt?
  cases Binary.ofFloat? x with
  | none => simp
  | some b =>
    have signed (k : Nat) :
        (if b.negative then -(k : Int) else k) = (if b.negative then -1 else 1) * k := by
      split <;> simp
    simp only [bind_eq_bind, bind_some, some.injEq, Nat.pow_eq, exists_eq_left',
      Binary.HasValue, Binary.signed, signed]
    by_cases large : 0 ≤ b.exponent
    · have none : (-b.exponent).toNat = 0 := by omega
      rw [if_pos large, none]
      simp only [pure_def, some.injEq]
      push_cast
      rw [mul_one, mul_assoc]
      exact eq_comm
    · have none : b.exponent.toNat = 0 := by omega
      have nonzero : (2 : Int) ^ (-b.exponent).toNat ≠ 0 := pow_ne_zero _ two_ne_zero
      rw [if_neg large, none, pow_zero, mul_one]
      by_cases divides : b.mantissa % 2 ^ (-b.exponent).toNat = 0
      · rw [if_pos divides]
        have parts := Nat.div_add_mod b.mantissa (2 ^ (-b.exponent).toNat)
        rw [divides, Nat.add_zero] at parts
        simp only [pure_def, some.injEq]
        nth_rewrite 2 [← parts]
        constructor
        · rintro rfl
          push_cast
          ring
        · intro value
          apply mul_right_cancel₀ nonzero
          rw [value]
          push_cast
          ring
      · rw [if_neg divides]
        simp only [bind_none, reduceCtorEq, false_iff]
        intro value
        apply divides
        apply Nat.mod_eq_zero_of_dvd
        have abs := congrArg Int.natAbs value
        rw [← signed, ← Binary.signed, natAbs_signed, Int.natAbs_mul, Int.natAbs_pow] at abs
        exact ⟨n.natAbs, by rw [← abs, Nat.mul_comm]; rfl⟩

lemma truncate?_of_toInt? (whole : toInt? x = some n) : truncate? x = some n := by
  unfold toInt? at whole
  unfold truncate?
  cases finite : ofFloat? x with
  | none => grind
  | some b =>
    rw [finite] at whole
    simp only [bind_eq_bind, bind_some] at whole ⊢
    split at whole
    · grind
    · grind

lemma unpack_ofParts (least : 2 ^ 52 ≤ m) (most : m < 2 ^ 53) (low : -1074 ≤ e) (high : e ≤ 971) :
    (ofParts m e).toModel.unpack = .finite .positive m e (by omega) := by
  rw [unpack_eq_unpacked (ofFloat?_ofParts least most low high), unpacked,
    dif_pos (show 0 < m by omega)]
  rfl

lemma unpack_ofInt (least : 2 ^ 52 ≤ m) (most : m < 2 ^ 53) (low : -1074 ≤ e) (high : e ≤ 971)
    (value : n.natAbs * 2 ^ (-e).toNat = m * 2 ^ e.toNat) :
    (ofInt n).toModel.unpack = .finite (signOf (n < 0)) m e (by omega) := by
  have magnitude := unpack_ofParts least most low high
  unfold ofInt
  rw [quotient_exact least most high value]
  by_cases negative : n < 0
  · have pos : 0 < m := by omega
    simp only [if_pos negative, decide_eq_true negative]
    change (Float.Model.pack (ofParts m e).toModel.unpack.neg).unpack = _
    rw [magnitude]
    exact unpack_pack_normal .negative pos least most low high
  · simp only [if_neg negative, decide_eq_false negative]
    exact magnitude

lemma beq_ofInt (whole : toInt? x = some n) : (x == ofInt n) = true := by
  obtain ⟨b, finite, value⟩ := toInt?_eq_some_iff.1 whole
  obtain ⟨most, low, high, full⟩ := ofFloat?_bounds finite
  have magnitude : n.natAbs * 2 ^ (-b.exponent).toNat = b.mantissa * 2 ^ b.exponent.toNat := by
    have abs := congrArg Int.natAbs value
    rwa [Int.natAbs_mul, Int.natAbs_mul, Int.natAbs_pow, Int.natAbs_pow, natAbs_signed] at abs
  rw [beq_iff_compare, unpack_eq_unpacked finite, unpacked]
  by_cases zero : n = 0
  · have empty : b.mantissa = 0 := by
      simp_all
    rw [dif_neg (by omega), zero]
    rfl
  · have pos : 0 < b.mantissa := by
      apply Nat.pos_of_ne_zero
      intro empty
      rw [empty, Nat.zero_mul, Nat.mul_eq_zero] at magnitude
      exact magnitude.elim (by omega) (Nat.two_pow_pos _).ne'
    have least : 2 ^ 52 ≤ b.mantissa := by
      -- with the smallest exponent, the mantissa would be a multiple of a large power of two
      apply full.resolve_right
      intro smallest
      have none : b.exponent.toNat = 0 := by omega
      have huge : 2 ^ 53 ≤ b.mantissa := by
        calc 2 ^ 53 ≤ 2 ^ (-b.exponent).toNat := Nat.pow_le_pow_right (by decide) (by omega)
          _ ≤ n.natAbs * 2 ^ (-b.exponent).toNat := Nat.le_mul_of_pos_left _ (by omega)
          _ = b.mantissa := by rw [magnitude, none, Nat.pow_zero, Nat.mul_one]
      omega
    have sign : signOf (n < 0) = signOf b.negative := by
      simp [value.negative_iff pos]
    rw [dif_pos pos, unpack_ofInt least most low high magnitude, sign]
    exact compare_self_finite _ pos

end BlockScript.Decimal

namespace BlockScript.Number
open Decimal

variable {x y : Number}

def Same : Number → Number → Prop
  | int a, int b => a = b
  | int a, float y => toInt? y = some a
  | float x, int b => toInt? x = some b
  | float x, float y => (x == y) = true

lemma Same.symm (same : x.Same y) : y.Same x := by
  cases x with
  | int a =>
    cases y with
    | int b => exact Eq.symm same
    | float y => exact same
  | float x =>
    cases y with
    | int b => exact same
    | float y =>
      have compared := beq_iff_compare.1 same
      apply beq_iff_compare.2
      rw [compare_swap, compared]
      rfl

lemma compareBinary_eq_iff : compareBinary n b = .eq ↔ b.HasValue n := Std.compare_eq_iff_eq

lemma order?_int_float {y : Float} : (int a).order? (float y) = some .eq ↔ toInt? y = some a := by
  rw [toInt?_eq_some_iff]
  simp only [order?]
  cases Binary.ofFloat? y with
  | none => grind
  | some b => simp [compareBinary_eq_iff]

lemma order?_float_int {x : Float} : (float x).order? (int b) = some .eq ↔ toInt? x = some b := by
  rw [← order?_int_float]
  simp only [order?]
  cases Binary.ofFloat? x with
  | none => grind
  | some a => simp_all

lemma order?_float_float {x y : Float} :
    (float x).order? (float y) = some .eq ↔ (x == y) = true := by
  simp only [order?]
  constructor
  · grind
  · intro equal
    have compared := beq_iff_compare.1 equal
    have notLess : ¬ x < y := by
      rw [lt_iff_compare, compared]
      decide
    have notGreater : ¬ y < x := by
      rw [lt_iff_compare, compare_swap, compared]
      decide
    rw [if_neg notLess, if_neg notGreater, if_pos equal]

lemma order?_eq_iff : x.order? y = some .eq ↔ x.Same y := by
  cases x with
  | int a =>
    cases y with
    | int b => simp [order?, Same]
    | float y => exact order?_int_float
  | float x =>
    cases y with
    | int b => exact order?_float_int
    | float y => exact order?_float_float

end BlockScript.Number
