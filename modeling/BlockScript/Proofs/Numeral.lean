import Mathlib
import BlockScript.Compile.Expression

/-!
Whole numbers written in digits. A numeral is read as the nearest binary number and taken back for
an integer where it is one.
-/

namespace BlockScript.Decimal
open Float.Model UnpackedFloat

variable {n k : Nat}

lemma sign_round_trip (v : BitVec 1) : (UnpackedFloat.Sign.ofBitVec v).toBitVec = v := by
  revert v
  decide

lemma pack_parts (b : BitVec Format.binary64.numBits) :
    packComponents Format.binary64 (UnpackedFloat.Sign.ofBitVec (unpackSign b)) (unpackExponent b)
      (unpackMantissa b) = b := by
  simp only [packComponents, sign_round_trip, unpackSign, unpackExponent, unpackMantissa]
  grind

lemma toNat_one_append (v : BitVec 52) : (1#1 ++ v).toNat = 2 ^ 52 + v.toNat := by
  rw [BitVec.toNat_append, ← Nat.shiftLeft_add_eq_or_of_lt v.isLt]
  rfl

lemma log2_leading_one (below : n < 2 ^ k) : Nat.log2 (2 ^ k + n) = k := by
  rw [Nat.log2_eq_iff (by have := Nat.two_pow_pos k; omega), Nat.pow_succ]
  omega

lemma pack_unpack_normal (b : BitVec Format.binary64.numBits)
    (low : unpackExponent b ≠ 0#_) (high : unpackExponent b ≠ -1#_) :
    UnpackedFloat.pack Format.binary64 (UnpackedFloat.unpack Format.binary64 b) = b := by
  have unbiased (x : Nat) (bias) :
      ((x : Int) - (bias + (52 : Nat)) + bias + (52 : Nat)).toNat = x := by omega
  have finite : (unpackExponent b).toNat ≠ 2047 := by
    intro same
    exact high (BitVec.eq_of_toNat_eq same)
  have fraction : (unpackMantissa b).toNat < 2 ^ 52 := (unpackMantissa b).isLt
  -- the leading one is left out again, as it does not fit
  have mantissa : BitVec.ofNat 52 (1#1 ++ unpackMantissa b).toNat = unpackMantissa b := by
    apply BitVec.eq_of_toNat_eq
    simp only [BitVec.toNat_ofNat, toNat_one_append]
    omega
  have digits : (1#1 ++ unpackMantissa b).toNat.log2 + 1 = Format.binary64.mantissaBits := by
    rw [toNat_one_append, log2_leading_one fraction]
    rfl
  simp only [UnpackedFloat.unpack, high, low, ↓reduceIte, UnpackedFloat.pack]
  rw [unbiased, if_neg (by omega), if_pos digits, mantissa, BitVec.ofNat_toNat, BitVec.setWidth_eq]
  exact pack_parts b

lemma toNat_unpackExponent (w : UInt64) :
    (@unpackExponent Format.binary64 w.toBitVec).toNat = w.toNat / 2 ^ 52 % 2 ^ 11 := by
  simp only [unpackExponent, BitVec.toNat_cast, BitVec.extractLsb_toNat, Nat.shiftRight_eq_div_pow]
  rfl

lemma toBits_ofBits (low : w.toNat / 2 ^ 52 % 2 ^ 11 ≠ 0)
    (high : w.toNat / 2 ^ 52 % 2 ^ 11 ≠ 2047) : (Float.ofBits w).toBits = w := by
  have field := toNat_unpackExponent w
  have packed := pack_unpack_normal w.toBitVec
    (fun zero => low (by rw [← field, zero]; rfl)) (fun ones => high (by rw [← field, ones]; rfl))
  change UInt64.ofBitVec (UnpackedFloat.pack Format.binary64
    (UnpackedFloat.unpack Format.binary64 w.toBitVec)) = w
  rw [packed]

lemma ofFloat?_ofParts (least : 2 ^ 52 ≤ mantissa) (most : mantissa < 2 ^ 53)
    (low : -1074 ≤ exponent) (high : exponent ≤ 971) :
    Binary.ofFloat? (ofParts mantissa exponent) = some ⟨false, mantissa, exponent⟩ := by
  have word : (((exponent + 1075).toNat * 2 ^ 52 + (mantissa - 2 ^ 52)).toUInt64).toNat =
      (exponent + 1075).toNat * 2 ^ 52 + (mantissa - 2 ^ 52) := by
    simp only [UInt64.toNat_ofNat']
    omega
  have bits : (ofParts mantissa exponent).toBits.toNat =
      (exponent + 1075).toNat * 2 ^ 52 + (mantissa - 2 ^ 52) := by
    rw [ofParts, Nat.pow_eq, if_neg (by omega), toBits_ofBits (by omega) (by omega), word]
  simp only [Binary.ofFloat?, Nat.pow_eq]
  rw [if_neg (by omega), if_neg (by omega)]
  simp only [Option.some.injEq, Binary.mk.injEq, decide_eq_false_iff_not]
  omega

lemma toInt?_ofParts (least : 2 ^ 52 ≤ n * 2 ^ k) (most : n * 2 ^ k < 2 ^ 53) (small : k ≤ 52) :
    toInt? (ofParts (n * 2 ^ k) (-(k : Int))) = some (n : Int) := by
  simp only [toInt?, ofFloat?_ofParts least most (by omega) (by omega : -(k : Int) ≤ 971)]
  by_cases zero : k = 0
  · simp [zero]
  · simp [zero]

lemma pow_log2_le (pos : 0 < n) (k) :
    2 ^ (n.log2 + k) ≤ n * 2 ^ k ∧ n * 2 ^ k < 2 ^ (n.log2 + 1 + k) := by
  rw [Nat.pow_add, Nat.pow_add]
  exact ⟨Nat.mul_le_mul_right _ (Nat.log2_self_le (by omega)),
    Nat.mul_lt_mul_of_pos_right Nat.lt_log2_self (Nat.two_pow_pos k)⟩

lemma log2_mul_two_pow (pos : 0 < n) (k) : (n * 2 ^ k).log2 = n.log2 + k := by
  have sizes := pow_log2_le pos k
  rw [Nat.add_right_comm] at sizes
  exact (Nat.log2_eq_iff (Nat.mul_pos pos (Nat.two_pow_pos k)).ne').2 sizes

/-- The quotient of two numbers with a quotient that is a binary number is that one. -/
lemma quotient_exact {m : Nat} {e : Int} (least : 2 ^ 52 ≤ m) (most : m < 2 ^ 53) (high : e ≤ 971)
    (value : n * 2 ^ (-e).toNat = m * 2 ^ e.toNat) : quotient n 1 = ofParts m e := by
  have scale : 0 < 2 ^ e.toNat := Nat.two_pow_pos _
  have pos : 0 < n := by
    apply Nat.pos_of_ne_zero
    rintro rfl
    have := Nat.mul_pos (by omega : 0 < m) scale
    omega
  have length : n.log2 + (-e).toNat = 52 + e.toNat := by
    rw [← log2_mul_two_pow pos, value, log2_mul_two_pow (by omega),
      (Nat.log2_eq_iff (by omega)).2 ⟨least, most⟩]
  have guess : max ((n.log2 : Int) - (Nat.log2 1 : Nat) - 53) (-1074) = e - 1 := by
    have one : Nat.log2 1 = 0 := by decide
    omega
  -- the first guess is one bit too long
  have double : n * 2 ^ (-(e - 1)).toNat / 2 ^ (e - 1).toNat = 2 * m := by
    by_cases small : e ≤ 0
    · have up : (-(e - 1)).toNat = (-e).toNat + 1 := by omega
      have none : e.toNat = 0 ∧ (e - 1).toNat = 0 := by omega
      rw [up, Nat.pow_succ, ← Nat.mul_assoc, value, none.1, none.2]
      omega
    · have up : e.toNat = (e - 1).toNat + 1 := by omega
      have none : (-e).toNat = 0 ∧ (-(e - 1)).toNat = 0 := by omega
      rw [none.1, up, Nat.pow_succ, ← Nat.mul_assoc] at value
      rw [none.2, value, Nat.mul_right_comm, Nat.mul_div_cancel _ (Nat.two_pow_pos _), Nat.mul_comm]
  have notRounded : ¬ (decide (2 ^ e.toNat < 0) ||
      decide (0 = 2 ^ e.toNat) && decide (m % 2 = 1)) = true := by
    simp [scale.ne]
  simp only [quotient, Nat.pow_eq, guess, if_neg pos.ne', Nat.one_mul, double,
    if_neg (by omega : ¬ 2 * m < 2 ^ 53), Int.sub_add_cancel, value, Nat.mul_div_cancel m scale,
    Nat.mul_mod_left]
  simp only [if_neg notRounded, if_neg (by omega : ¬ m = 2 ^ 53)]
  exact if_neg (by omega)

lemma toInt?_quotient_one (bound : n ≤ 2 ^ 53) : toInt? (quotient n 1) = some (n : Int) := by
  rcases Nat.eq_zero_or_pos n with rfl | pos
  · decide +kernel
  · rcases Nat.eq_or_lt_of_le bound with rfl | below
    · decide +kernel
    · have short := (Nat.log2_lt pos.ne').2 below
      obtain ⟨k, sum⟩ : ∃ k, n.log2 + k = 52 := ⟨52 - n.log2, by omega⟩
      have sizes := pow_log2_le pos k
      rw [Nat.add_right_comm, sum] at sizes
      rw [quotient_exact sizes.1 sizes.2 (by omega : -(k : Int) ≤ 971) (by simp)]
      exact toInt?_ofParts sizes.1 sizes.2 (by omega)

variable {digits : List Char} {c : Char}

lemma nearest_whole (bound : n ≤ 2 ^ 53) : nearest n 0 = quotient n 1 := by
  have short : (Nat.toDigits 10 n).length ≤ 16 :=
    (Nat.length_toDigits_le_iff (by decide) (by decide)).2 (by omega)
  simp only [nearest, Int.neg_zero, Int.toNat_zero, Nat.pow_eq, Nat.pow_zero, Nat.mul_one]
  by_cases zero : n = 0
  · rw [if_pos zero, zero]
    rfl
  · rw [if_neg zero, if_neg (by omega), if_neg (by omega)]

lemma forall_isDigit {P : Char → Prop} (ten : ∀ n < 10, P (Char.ofNat (48 + n)))
    (digit : c.isDigit) : P c := by
  have range : 48 ≤ c.toNat ∧ c.toNat ≤ 57 := by
    simpa [Char.isDigit, UInt32.le_iff_toNat_le] using digit
  have spelled : Char.ofNat (48 + (c.toNat - 48)) = c := by simp_all
  exact spelled ▸ ten (c.toNat - 48) (by omega)

lemma isBlank_of_isDigit : c.isDigit → isBlank c = false :=
  forall_isDigit (P := fun c => isBlank c = false) (by decide)

lemma common_of_isDigit : c.isDigit → Digit.common c = c :=
  forall_isDigit (P := fun c => Digit.common c = c) (by decide)

lemma toLower_of_isDigit : c.isDigit → c.toLower = c :=
  forall_isDigit (P := fun c => c.toLower = c) (by decide)

lemma digitGroups?_digits (all : digits.all Char.isDigit) : digitGroups? digits = some digits := by
  have noBar : '_' ∉ digits := by grind
  have unchanged : digits.filter (· != '_') = digits := by
    rw [filter_eq_self]
    intro c mem
    have : c ≠ '_' := fun same => noBar (same ▸ mem)
    simpa using this
  cases digits with
  | nil => rfl
  | cons c rest =>
    have single : (c :: rest).splitOn '_' = [c :: rest] := List.splitOn_eq_singleton noBar
    simp only [digitGroups?, single, unchanged]
    exact if_pos (by simpa using all)

lemma unsigned?_digits (some_digit : digits ≠ []) (all : digits.all Char.isDigit) :
    unsigned? digits = some (nearest (toNat digits) 0) := by
  have bars : ∀ c ∈ digits, isDigitOrBar c = true := by
    intro c mem
    simp [isDigitOrBar, all_eq_true.1 all c mem]
  have taken : digits.takeWhile isDigitOrBar = digits := List.takeWhile_eq_self_iff.2 bars
  have dropped : digits.dropWhile isDigitOrBar = [] := List.dropWhile_eq_nil_iff.2 bars
  have nonempty : digits.isEmpty = false := List.isEmpty_eq_false_iff.2 some_digit
  have none : digitGroups? [] = some [] := rfl
  simp [unsigned?, taken, dropped, nonempty, digitGroups?_digits all, none, exponent?]

lemma strip_digits (all : digits.all Char.isDigit) : strip digits = digits := by
  have solid : ∀ c ∈ digits, isBlank c = false := by
    intro c mem
    exact isBlank_of_isDigit (all_eq_true.1 all c mem)
  have fromLeft (cs : List Char) (solid : ∀ c ∈ cs, isBlank c = false) :
      cs.dropWhile isBlank = cs := by
    cases cs with
    | nil => rfl
    | cons c rest => exact List.dropWhile_cons_of_neg (by simp [solid c (by simp)])
  rw [strip, fromLeft digits solid, fromLeft _ (by simpa using solid), List.reverse_reverse]

lemma signed?_digits (all : digits.all Char.isDigit) : signed? digits = (false, digits) := by
  unfold signed?
  split
  · simp [Char.isDigit] at all
  · simp [Char.isDigit] at all
  · rfl

lemma map_digits (fixed : ∀ {c}, c.isDigit → f c = c) (all : digits.all Char.isDigit) :
    digits.map f = digits := by
  conv_rhs => rw [← List.map_id digits]
  apply map_congr_left
  intro c mem
  exact fixed (all_eq_true.1 all c mem)

lemma read?_digits (some_digit : text.toList ≠ [])
    (all : text.toList.all Char.isDigit) : read? text = some (nearest (toNat text.toList) 0) := by
  have lower : (String.ofList text.toList).toLower = text := by
    apply String.toList_injective
    rw [String.toLower, String.toList_map, String.toList_ofList, map_digits toLower_of_isDigit all]
  simp only [read?, strip_digits all, map_digits common_of_isDigit all, signed?_digits all, lower]
  split
  · exact absurd all (by decide)
  · exact absurd all (by decide)
  · exact absurd all (by decide)
  · simp [unsigned?_digits some_digit all]

end BlockScript.Decimal

namespace BlockScript.Compile

/-- A numeral of digits alone, up to `2 ^ 53`, stands for the integer that its digits spell. -/
lemma numeral_digits (some_digit : text.toList ≠ [])
    (all : text.toList.all Char.isDigit) (bound : Nat.ofDigitChars 10 text.toList 0 ≤ 2 ^ 53) :
    numeral text = .ok (.int (Nat.ofDigitChars 10 text.toList 0)) := by
  have spelled : Decimal.toNat text.toList = Nat.ofDigitChars 10 text.toList 0 := rfl
  simp only [numeral, Decimal.read?_digits some_digit all, spelled, Decimal.nearest_whole bound,
    Decimal.toInt?_quotient_one bound]

end BlockScript.Compile
