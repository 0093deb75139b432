import Mathlib

/-! # Binary floating-point rounding

A finite number of an IEEE 754 binary format whose significands have `p` bits is a
rational `m · 2^e` with `m < 2^p` an integer.  An arithmetic operation of the
format computes its exact result and rounds it to the nearest such number, ties to
an even significand (`roundBits`); converting an integer to the format rounds the
same way.  A value of the format is modelled by the rational it stands for.

The exponent range is not modelled: `roundBits` keeps `p` bits at every magnitude,
where the format would overflow to infinity above its largest number or lose bits
below its smallest normal one.  For binary64 (`p = 53`, `toFloat64`) the normal
range runs from `2^-1022` to `2^1024`, which holds every nonzero product and
quotient of integers below `2^64` and of small constants.

The rounding error is at most the value's magnitude over `2^p`
(`abs_roundBits_sub_le`).  Results go back to integers by truncation
(`truncNat`, `truncInt`) or by rounding half away from zero (`roundHalfAway`).
-/

namespace Binary64

/-- The integer nearest `q`, the even one of two at the same distance. -/
def roundHalfEven (q : ℚ) : Int :=
  let f := ⌊q⌋
  if q - f < 1 / 2 then f
  else if 1 / 2 < q - f then f + 1
  else if f % 2 = 0 then f else f + 1

theorem abs_roundHalfEven_sub_le (q : ℚ) : |(roundHalfEven q : ℚ) - q| ≤ 1 / 2 := by
  have hlo := Int.floor_le q
  have hhi := Int.lt_floor_add_one q
  unfold roundHalfEven
  dsimp only
  split_ifs <;> push_cast <;> rw [abs_le] <;> constructor <;> linarith

/-- `q` rounded to `p` significant bits, to the nearest multiple of `2^e` where
`2^(e + p - 1) ≤ |q| < 2^(e + p)`, ties to even. -/
def roundBits (p : Nat) (q : ℚ) : ℚ :=
  if q = 0 then 0 else
    let e := Int.log 2 |q| + 1 - p
    let r := (roundHalfEven (|q| / 2 ^ e) : ℚ) * 2 ^ e
    if 0 < q then r else -r

/-- A binary64 operation: the exact result, rounded. -/
def toFloat64 (q : ℚ) : ℚ := roundBits 53 q

/-- Rounding to a multiple of `2^e` is off by at most half of `2^e`. -/
theorem abs_roundHalfEven_zpow_sub_le (a : ℚ) (e : ℤ) :
    |(roundHalfEven (a / 2 ^ e) : ℚ) * 2 ^ e - a| ≤ 2 ^ e / 2 := by
  have hpos : (0 : ℚ) < 2 ^ e := zpow_pos (by norm_num) e
  have hsplit : (roundHalfEven (a / 2 ^ e) : ℚ) * 2 ^ e - a =
      ((roundHalfEven (a / 2 ^ e) : ℚ) - a / 2 ^ e) * 2 ^ e := by
    field_simp
  calc |(roundHalfEven (a / 2 ^ e) : ℚ) * 2 ^ e - a|
      = |(roundHalfEven (a / 2 ^ e) : ℚ) - a / 2 ^ e| * 2 ^ e := by
        rw [hsplit, abs_mul, abs_of_pos hpos]
    _ ≤ 1 / 2 * 2 ^ e := mul_le_mul_of_nonneg_right (abs_roundHalfEven_sub_le _) hpos.le
    _ = 2 ^ e / 2 := by ring

/-- **Relative error.**  Rounding to `p` bits moves a value by at most its
magnitude over `2^p`. -/
theorem abs_roundBits_sub_le (p : Nat) (q : ℚ) : |roundBits p q - q| ≤ |q| / 2 ^ p := by
  unfold roundBits
  by_cases h0 : q = 0
  · simp [h0]
  · have ha : 0 < |q| := abs_pos.2 h0
    -- the unit of the last place is 2^(L + 1 - p), and 2^L ≤ |q|
    have hlog : (2 : ℚ) ^ Int.log 2 |q| ≤ |q| := Int.zpow_log_le_self (by norm_num) ha
    have hunit : (2 : ℚ) ^ (Int.log 2 |q| + 1 - p) / 2 = 2 ^ Int.log 2 |q| / 2 ^ p := by
      rw [zpow_sub₀ (by norm_num), zpow_add_one₀ (by norm_num), zpow_natCast]
      ring
    have hround := abs_roundHalfEven_zpow_sub_le |q| (Int.log 2 |q| + 1 - p)
    have hbound : (2 : ℚ) ^ Int.log 2 |q| / 2 ^ p ≤ |q| / 2 ^ p :=
      div_le_div_of_nonneg_right hlog (by positivity)
    simp only [h0, if_false]
    split_ifs with hpos
    · rw [abs_of_pos hpos] at hround hbound hunit ⊢
      linarith
    · -- a negative value is rounded as its magnitude, and negated
      have hneg : |q| = -q := abs_of_neg (lt_of_le_of_ne (not_lt.1 hpos) h0)
      rw [hneg] at hround hbound hunit ⊢
      rw [show -((roundHalfEven (-q / 2 ^ (Int.log 2 (-q) + 1 - p)) : ℚ) *
          2 ^ (Int.log 2 (-q) + 1 - p)) - q =
          -((roundHalfEven (-q / 2 ^ (Int.log 2 (-q) + 1 - p)) : ℚ) *
          2 ^ (Int.log 2 (-q) + 1 - p) - -q) by ring, abs_neg]
      linarith

/-- Rounding a positive value up stays below `1 + 2^-p` times it. -/
theorem roundBits_le (p : Nat) {q : ℚ} (hq : 0 ≤ q) : roundBits p q ≤ q + q / 2 ^ p := by
  have h := abs_roundBits_sub_le p q
  rw [abs_of_nonneg hq] at h
  linarith [le_abs_self (roundBits p q - q)]

/-- Rounding a positive value down stays above `1 - 2^-p` times it. -/
theorem le_roundBits (p : Nat) {q : ℚ} (hq : 0 ≤ q) : q - q / 2 ^ p ≤ roundBits p q := by
  have h := abs_roundBits_sub_le p q
  rw [abs_of_nonneg hq] at h
  linarith [neg_abs_le (roundBits p q - q)]

theorem roundBits_nonneg (p : Nat) {q : ℚ} (hq : 0 ≤ q) : 0 ≤ roundBits p q := by
  have hdiv : q / 2 ^ p ≤ q := div_le_self hq (one_le_pow₀ (by norm_num))
  linarith [le_roundBits p hq]

/-- Conversion to an unsigned integer, toward zero (Go's `uint64(f)` for `0 ≤ f < 2^64`). -/
def truncNat (q : ℚ) : Nat := ⌊q⌋₊

/-- Conversion to a signed integer, toward zero (Go's `int64(f)` in range). -/
def truncInt (q : ℚ) : Int := if q < 0 then -⌊-q⌋ else ⌊q⌋

/-- Go's `math.Round`: to the nearest integer, halves away from zero. -/
def roundHalfAway (q : ℚ) : Int := if q < 0 then -⌊-q + 1 / 2⌋ else ⌊q + 1 / 2⌋

theorem truncNat_le {q : ℚ} (hq : 0 ≤ q) : (truncNat q : ℚ) ≤ q := Nat.floor_le hq

@[simp] theorem truncNat_intCast (r : Int) : truncNat r = r.toNat := by
  rw [truncNat, ← Int.floor_toNat, Int.floor_intCast]

theorem roundHalfAway_of_nonneg {q : ℚ} (hq : 0 ≤ q) : roundHalfAway q = ⌊q + 1 / 2⌋ := by
  simp [roundHalfAway, not_lt.2 hq]

theorem roundHalfAway_nonneg {q : ℚ} (hq : 0 ≤ q) : 0 ≤ roundHalfAway q := by
  rw [roundHalfAway_of_nonneg hq]
  exact Int.floor_nonneg.2 (by linarith)

/-- From a half upwards, `math.Round` gives at least one. -/
theorem one_le_roundHalfAway {q : ℚ} (h : 1 / 2 ≤ q) : 1 ≤ roundHalfAway q := by
  rw [roundHalfAway_of_nonneg (by linarith)]
  exact Int.le_floor.2 (by push_cast; linarith)

theorem roundHalfAway_le {q : ℚ} (hq : 0 ≤ q) : (roundHalfAway q : ℚ) ≤ q + 1 / 2 := by
  rw [roundHalfAway_of_nonneg hq]
  exact Int.floor_le _

/-- A product of two roundings, rounded: at least `(1 - 2^-53)^3` times the exact
product. -/
theorem le_toFloat64_mul {a b : ℚ} (ha : 0 ≤ a) (hb : 0 ≤ b) :
    a * b * (1 - 1 / 2 ^ 53) ^ 3 ≤ toFloat64 (toFloat64 a * toFloat64 b) := by
  unfold toFloat64
  have ha0 := roundBits_nonneg 53 ha
  have hb0 := roundBits_nonneg 53 hb
  have h1 : a * (1 - 1 / 2 ^ 53) ≤ roundBits 53 a := by linarith [le_roundBits 53 ha]
  have h2 : b * (1 - 1 / 2 ^ 53) ≤ roundBits 53 b := by linarith [le_roundBits 53 hb]
  have h3 : a * (1 - 1 / 2 ^ 53) * (b * (1 - 1 / 2 ^ 53)) ≤ roundBits 53 a * roundBits 53 b :=
    mul_le_mul h1 h2 (by positivity) ha0
  have h4 : roundBits 53 a * roundBits 53 b * (1 - 1 / 2 ^ 53) ≤
      roundBits 53 (roundBits 53 a * roundBits 53 b) := by
    linarith [le_roundBits 53 (mul_nonneg ha0 hb0)]
  calc a * b * (1 - 1 / 2 ^ 53) ^ 3
      = a * (1 - 1 / 2 ^ 53) * (b * (1 - 1 / 2 ^ 53)) * (1 - 1 / 2 ^ 53) := by ring
    _ ≤ roundBits 53 a * roundBits 53 b * (1 - 1 / 2 ^ 53) :=
        mul_le_mul_of_nonneg_right h3 (by norm_num)
    _ ≤ _ := h4

/-- A product of two roundings, rounded: at most `(1 + 2^-53)^3` times the exact
product. -/
theorem toFloat64_mul_le {a b : ℚ} (ha : 0 ≤ a) (hb : 0 ≤ b) :
    toFloat64 (toFloat64 a * toFloat64 b) ≤ a * b * (1 + 1 / 2 ^ 53) ^ 3 := by
  unfold toFloat64
  have ha0 := roundBits_nonneg 53 ha
  have hb0 := roundBits_nonneg 53 hb
  have h1 : roundBits 53 a ≤ a * (1 + 1 / 2 ^ 53) := by linarith [roundBits_le 53 ha]
  have h2 : roundBits 53 b ≤ b * (1 + 1 / 2 ^ 53) := by linarith [roundBits_le 53 hb]
  have h3 : roundBits 53 a * roundBits 53 b ≤ a * (1 + 1 / 2 ^ 53) * (b * (1 + 1 / 2 ^ 53)) :=
    mul_le_mul h1 h2 hb0 (by positivity)
  have h4 : roundBits 53 (roundBits 53 a * roundBits 53 b) ≤
      roundBits 53 a * roundBits 53 b * (1 + 1 / 2 ^ 53) := by
    linarith [roundBits_le 53 (mul_nonneg ha0 hb0)]
  calc roundBits 53 (roundBits 53 a * roundBits 53 b)
      ≤ roundBits 53 a * roundBits 53 b * (1 + 1 / 2 ^ 53) := h4
    _ ≤ a * (1 + 1 / 2 ^ 53) * (b * (1 + 1 / 2 ^ 53)) * (1 + 1 / 2 ^ 53) :=
        mul_le_mul_of_nonneg_right h3 (by norm_num)
    _ = a * b * (1 + 1 / 2 ^ 53) ^ 3 := by ring

end Binary64
