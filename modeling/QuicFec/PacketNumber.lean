import Mathlib
import QuicFec.Protocol

/-! # Packet numbers on the wire

`internal/protocol/packet_number.go`.  A packet carries only the low
`8 * len` bits of its packet number, `len` being its packet number length.  The
sender chooses `len` from the distance between the number it sends and the
lowest number it still has unacknowledged (`getPacketNumberLengthForHeader`);
the receiver rebuilds the number from those bits and the largest number it has
received, taking among the three candidates that carry the same low bits in
the epoch of that largest number and in the two epochs around it the one
closest to the next expected number (`decodePacketNumber`).  A `PacketNumber` is
an `int64`, and every sum and difference of the decoding wraps (`wrapInt64`).

Main results:

* `closestTo_of_near`: a candidate that lies within half an epoch of the target
  wins against every other candidate with the same low bits, as long as no
  distance wraps;
* `decodePacketNumber_eq`: the decoding law, that a packet number within half an
  epoch of the number after the largest received one is decoded exactly, when
  the epoch of the largest received number is not the last one of `int64`;
* `decodePacketNumber_last_epoch`: in that last epoch the candidate after it
  wraps to a negative number, and every packet number decodes to it;
* `getPacketNumberLengthForHeader_near`: the chosen length covers the distance
  to the lowest unacknowledged number, as long as that distance is below `2^31`.
-/

namespace QuicFec
open GoBytes

/-- `protocol.PacketNumberLenInvalid` and `PacketNumberLen1` to `PacketNumberLen4`: a
`PacketNumberLen` is a `uint8`, and the code only uses these values of it. -/
def PacketNumberLenInvalid : Nat := 0
def PacketNumberLen1 : Nat := 1
def PacketNumberLen2 : Nat := 2
def PacketNumberLen3 : Nat := 3
def PacketNumberLen4 : Nat := 4

/-- `delta`: the distance between two packet numbers, an `int64` difference. -/
def delta (a b : Int) : Int := if a < b then wrapInt64 (b - a) else wrapInt64 (a - b)

/-- `closestTo`: the one of `a` and `b` closer to `target`, `b` on a tie. -/
def closestTo (target a b : Int) : Int :=
  if delta target a < delta target b then a else b

/-- The size of an epoch for a packet number length (`epochDelta` in
`DecodePacketNumber`, `0` for an invalid length). -/
def epochDelta (packetNumberLength : Nat) : Int :=
  match packetNumberLength with
  | 1 => 2 ^ 8
  | 2 => 2 ^ 16
  | 3 => 2 ^ 24
  | 4 => 2 ^ 32
  | _ => 0

/-- `DecodePacketNumber`: the packet number whose low bits are
`wirePacketNumber`, chosen among the candidates in the epoch of
`lastPacketNumber` and the epochs before and after it. -/
def decodePacketNumber (packetNumberLength : Nat) (lastPacketNumber wirePacketNumber : Int) :
    Int :=
  let epochDelta := epochDelta packetNumberLength
  let epoch := Int.land lastPacketNumber (Int.lnot (epochDelta - 1))
  let prevEpochBegin := if epoch > epochDelta then wrapInt64 (epoch - epochDelta) else 0
  let nextEpochBegin := wrapInt64 (epoch + epochDelta)
  closestTo (wrapInt64 (lastPacketNumber + 1)) (wrapInt64 (epoch + wirePacketNumber))
    (closestTo (wrapInt64 (lastPacketNumber + 1)) (wrapInt64 (prevEpochBegin + wirePacketNumber))
      (wrapInt64 (nextEpochBegin + wirePacketNumber)))

/-- `GetPacketNumberLengthForHeader`: two bytes while the distance to the lowest
unacknowledged packet is below `2^15`, three below `2^23`, four otherwise.  The
distance is taken as a `uint64`. -/
def getPacketNumberLengthForHeader (packetNumber leastUnacked : Int) : Nat :=
  let diff := toUint64 (packetNumber - leastUnacked)
  if diff < 2 ^ (16 - 1) then PacketNumberLen2
  else if diff < 2 ^ (24 - 1) then PacketNumberLen3
  else PacketNumberLen4

/-! ## Choosing the closest candidate -/

/-- Packet numbers less than `2^63` apart: their `int64` distance does not wrap. -/
theorem delta_eq_abs {a b : Int} (h : |a - b| < 2 ^ 63) : delta a b = |a - b| := by
  unfold delta
  split
  · rw [abs_of_neg (by omega)] at h ⊢
    rw [wrapInt64_of_nonneg (by omega) (by omega)]
    omega
  · rw [abs_of_nonneg (by omega)] at h ⊢
    exact wrapInt64_of_nonneg (by omega) h

theorem closestTo_eq {t a b : Int} (ha : |t - a| < 2 ^ 63) (hb : |t - b| < 2 ^ 63) :
    closestTo t a b = if |t - a| < |t - b| then a else b := by
  simp only [closestTo, delta_eq_abs ha, delta_eq_abs hb]

theorem closestTo_mem (t a b : Int) : closestTo t a b = a ∨ closestTo t a b = b := by
  unfold closestTo
  split
  · exact .inl rfl
  · exact .inr rfl

/-- Two different numbers with the same residue modulo `D` are at least `D`
apart, so at most one of them is within half of `D` of a target. -/
theorem far_of_near {D t x y : Int} (hnear : 2 * |x - t| < D) (hxy : D ∣ y - x) (hne : y ≠ x) :
    D < 2 * |y - t| := by
  have hD : D ≤ |y - x| := by
    obtain ⟨k, hk⟩ := hxy
    have hk0 : k ≠ 0 := by
      rintro rfl
      exact hne (by omega)
    have hD0 : 0 ≤ D := le_trans (by positivity) hnear.le
    rw [hk, abs_mul, abs_of_nonneg hD0]
    exact le_mul_of_one_le_right hD0 (Int.one_le_abs hk0)
  have htri : |y - x| ≤ |y - t| + |x - t| := by
    simpa [abs_sub_comm x t] using abs_sub_le y t x
  linarith

/-- A candidate within half of `D` of the target wins against any other
candidate with the same residue modulo `D`, from either side, when neither is
`2^63` or more away from the target. -/
theorem closestTo_of_near {D t x y : Int} (hnear : 2 * |x - t| < D) (hxy : D ∣ y - x)
    (hx : |x - t| < 2 ^ 63) (hy : |y - t| < 2 ^ 63) :
    closestTo t x y = x ∧ closestTo t y x = x := by
  rw [abs_sub_comm] at hx hy
  rw [closestTo_eq hx hy, closestTo_eq hy hx, abs_sub_comm t x, abs_sub_comm t y]
  by_cases hne : y = x
  · subst hne
    simp
  · have hfar := far_of_near hnear hxy hne
    constructor
    · rw [if_pos (by linarith)]
    · rw [if_neg (by linarith)]

/-! ## The epoch of the largest received number -/

theorem epochDelta_eq {len : Nat} (h1 : 1 ≤ len) (h4 : len ≤ 4) :
    epochDelta len = 2 ^ (8 * len) := by
  interval_cases len <;> rfl

/-- Clearing the low `k` bits of a non-negative number rounds it down to a
multiple of `2^k`. -/
theorem land_lnot_two_pow_sub_one (n k : Nat) :
    Int.land (n : Int) (Int.lnot ((2 : Int) ^ k - 1)) = (n : Int) / 2 ^ k * 2 ^ k := by
  have hcast : (2 : Int) ^ k - 1 = ((2 ^ k - 1 : Nat) : Int) := by
    rw [Nat.cast_sub Nat.one_le_two_pow]
    push_cast
    rfl
  have hround : (n : Int) / 2 ^ k * 2 ^ k = ((n / 2 ^ k * 2 ^ k : Nat) : Int) := by
    push_cast
    rfl
  rw [hcast, hround]
  change ((Nat.ldiff n (2 ^ k - 1) : Nat) : Int) = _
  congr 1
  apply Nat.eq_of_testBit_eq
  intro i
  rw [Nat.testBit_ldiff, Nat.testBit_two_pow_sub_one, Nat.testBit_mul_two_pow,
    Nat.testBit_div_two_pow]
  by_cases hi : k ≤ i
  · simp [hi, Nat.not_lt.mpr hi, Nat.sub_add_cancel hi]
  · simp [hi, Nat.lt_of_not_le hi]

/-- The packet numbers with the same residue as `pn` modulo `D` that start from
the epoch `e` of the target: if `pn` is within half of `D` of a target in that
epoch, it is the candidate in the epoch before, in it, or in the one after. -/
theorem near_mem_candidates {D e w t pn : Int} (hD : 0 < D) (he : D ∣ e) (hpw : D ∣ pn - w)
    (hw0 : 0 ≤ w) (hwD : w < D) (hpn : 0 ≤ pn) (het : e < t) (hte : t ≤ e + D)
    (hnear : 2 * |pn - t| < D) :
    (pn = e - D + w ∧ D ≤ e) ∨ pn = e + w ∨ pn = e + D + w := by
  obtain ⟨q, rfl⟩ := he
  obtain ⟨j, hj⟩ := hpw
  have habs := le_abs_self (pn - t)
  have habs' := neg_abs_le (pn - t)
  -- `pn - w` and the epoch are multiples of `D` at most one epoch apart
  have hlo : -1 ≤ j - q := by
    by_contra hc
    have : D * (j - q) ≤ D * (-2) := mul_le_mul_of_nonneg_left (by omega) hD.le
    nlinarith
  have hhi : j - q ≤ 1 := by
    by_contra hc
    have : D * 2 ≤ D * (j - q) := mul_le_mul_of_nonneg_left (by omega) hD.le
    nlinarith
  obtain hm | hm | hm : j - q = -1 ∨ j - q = 0 ∨ j - q = 1 := by omega
  · -- the epoch before: it exists because `pn` is not negative
    have hq : 1 ≤ q := by
      by_contra hc
      have : D * j ≤ D * (-1) := mul_le_mul_of_nonneg_left (by omega) hD.le
      nlinarith
    have : D * 1 ≤ D * q := mul_le_mul_of_nonneg_left hq hD.le
    left
    constructor <;> nlinarith
  · right; left; nlinarith
  · right; right; nlinarith

/-- How `DecodePacketNumber` chooses among its three candidates: whichever of them
is within half of `D` of the target is the result, the others having the same
residue modulo `D`. -/
theorem closestTo_three {D t c0 c1 c2 pn : Int} (hnear : 2 * |pn - t| < D)
    (h0 : D ∣ c0 - pn) (h1 : D ∣ c1 - pn) (h2 : D ∣ c2 - pn)
    (b0 : |c0 - t| < 2 ^ 63) (b1 : |c1 - t| < 2 ^ 63) (b2 : |c2 - t| < 2 ^ 63)
    (hmem : pn = c0 ∨ pn = c1 ∨ pn = c2) :
    closestTo t c1 (closestTo t c0 c2) = pn := by
  have b02 : |closestTo t c0 c2 - t| < 2 ^ 63 := by
    rcases closestTo_mem t c0 c2 with h | h <;> rw [h] <;> assumption
  rcases hmem with rfl | rfl | rfl
  · rw [(closestTo_of_near hnear h2 b0 b2).1, (closestTo_of_near hnear h1 b0 b1).2]
  · have hin : D ∣ closestTo t c0 c2 - pn := by
      rcases closestTo_mem t c0 c2 with h | h <;> rw [h] <;> assumption
    exact (closestTo_of_near hnear hin b1 b02).1
  · rw [(closestTo_of_near hnear h0 b2 b0).2, (closestTo_of_near hnear h1 b2 b1).2]

/-- The epoch of a non-negative number below `2^63` is a multiple of `D` that
ends within `int64`. -/
theorem epoch_bounds {D l : Int} (hD : 0 < D) (hD63 : D ∣ 2 ^ 63) (hl : 0 ≤ l) :
    0 ≤ l / D * D ∧ l / D * D ≤ l ∧ l < l / D * D + D ∧ D ∣ l / D * D ∧
      (l + D < 2 ^ 63 → l / D * D + 2 * D ≤ 2 ^ 63) := by
  have hel : l / D * D ≤ l := Int.ediv_mul_le _ hD.ne'
  have hle : l < l / D * D + D := by
    have := Int.lt_ediv_add_one_mul_self l hD
    rwa [Int.add_mul, Int.one_mul] at this
  have he : D ∣ l / D * D := Dvd.intro_left _ rfl
  refine ⟨Int.mul_nonneg (Int.ediv_nonneg hl hD.le) hD.le, hel, hle, he, fun hlast => ?_⟩
  -- the epochs tile `int64`: one that ends below `2^63 - D` ends `D` below it at least
  have hdvd : D ∣ 2 ^ 63 - D - l / D * D := dvd_sub (dvd_sub hD63 (dvd_refl D)) he
  have := Int.le_of_dvd (by omega) hdvd
  omega

/-- **The decoding law**: a packet number within half an epoch of the number
after the largest received one is decoded exactly from its low `8 * len` bits,
when the epoch of the largest received number is not the last one of `int64`. -/
theorem decodePacketNumber_eq {len : Nat} {L pn : Int} (h1 : 1 ≤ len) (h4 : len ≤ 4)
    (hL : 0 ≤ L) (hlast : L + 2 ^ (8 * len) < 2 ^ 63) (hpn : 0 ≤ pn)
    (hnear : |pn - (L + 1)| < 2 ^ (8 * len - 1)) :
    decodePacketNumber len L (pn % 2 ^ (8 * len)) = pn := by
  obtain ⟨l, rfl⟩ := Int.eq_ofNat_of_zero_le hL
  have hhalf : 2 * (2 : Int) ^ (8 * len - 1) = 2 ^ (8 * len) := by
    rw [← pow_succ']
    congr 1
    omega
  have hD : (0 : Int) < 2 ^ (8 * len) := by positivity
  have hD63 : (2 : Int) ^ (8 * len) ∣ 2 ^ 63 := pow_dvd_pow 2 (by omega)
  simp only [decodePacketNumber, epochDelta_eq h1 h4, land_lnot_two_pow_sub_one]
  generalize (2 : Int) ^ (8 * len) = D at hD hhalf hD63 hlast ⊢
  obtain ⟨he0, hel, hle, he, hnext⟩ := epoch_bounds hD hD63 (Int.natCast_nonneg l)
  have hnext := hnext hlast
  generalize (l : Int) / D * D = e at he0 hel hle he hnext ⊢
  have hw0 : 0 ≤ pn % D := Int.emod_nonneg _ hD.ne'
  have hwD : pn % D < D := Int.emod_lt_of_pos _ hD
  have hpw : D ∣ pn - pn % D := Int.dvd_self_sub_emod
  generalize pn % D = w at hw0 hwD hpw ⊢
  have hnear' : 2 * |pn - (l + 1)| < D := by linarith
  have hmem := near_mem_candidates hD he hpw hw0 hwD hpn (by linarith) (by linarith) hnear'
  -- outside the last epoch every candidate and the target lie in `[0, 2^63)`: nothing wraps
  have hprev : (if e > D then wrapInt64 (e - D) else 0) = if e > D then e - D else 0 := by
    split_ifs
    · exact wrapInt64_of_nonneg (by omega) (by omega)
    · rfl
  rw [hprev, wrapInt64_of_nonneg (x := e + D) (by omega) (by omega),
    wrapInt64_of_nonneg (x := (l : Int) + 1) (by omega) (by omega),
    wrapInt64_of_nonneg (x := e + w) (by omega) (by omega),
    wrapInt64_of_nonneg (x := e + D + w) (by omega) (by omega),
    wrapInt64_of_nonneg (x := (if e > D then e - D else 0) + w) (by split_ifs <;> omega)
      (by split_ifs <;> omega)]
  have h1 : D ∣ e + w - pn := by
    have := dvd_sub he hpw
    rwa [show e - (pn - w) = e + w - pn by omega] at this
  have h2 : D ∣ e + D + w - pn := by
    have := dvd_add h1 (dvd_refl D)
    rwa [show e + w - pn + D = e + D + w - pn by omega] at this
  refine closestTo_three hnear' ?_ h1 h2
    (abs_sub_lt_of_nonneg_of_lt (by split_ifs <;> omega) (by split_ifs <;> omega) (by omega)
      (by omega))
    (abs_sub_lt_of_nonneg_of_lt (by omega) (by omega) (by omega) (by omega))
    (abs_sub_lt_of_nonneg_of_lt (by omega) (by omega) (by omega) (by omega)) ?_
  · split_ifs with hgt
    · have := dvd_sub h1 (dvd_refl D)
      rwa [show e + w - pn - D = e - D + w - pn by omega] at this
    · have := dvd_neg.mpr hpw
      rwa [show -(pn - w) = 0 + w - pn by omega] at this
  · rcases hmem with ⟨h, hDe⟩ | h | h
    · left
      split_ifs <;> omega
    · exact .inr (.inl h)
    · exact .inr (.inr h)

/-- A multiple of `D` strictly between `0` and `2 * D` is `D` itself. -/
theorem eq_of_dvd_of_lt_two_mul {D x : Int} (hD : 0 < D) (hx : D ∣ x) (h0 : 0 < x)
    (h2 : x < D * 2) : x = D := by
  obtain ⟨k, rfl⟩ := hx
  have hk0 : 0 < k := pos_of_mul_pos_right h0 hD.le
  have hk2 : k < 2 := lt_of_mul_lt_mul_left h2 hD.le
  obtain rfl : k = 1 := by omega
  exact mul_one D

/-- **Where the decoding law stops.**  In the last epoch of `int64` the candidate
in the epoch after it wraps to `w - 2^63`, and the `int64` difference from the
target to it wraps to a negative distance, below every other: every packet
number decodes to that negative number. -/
theorem decodePacketNumber_last_epoch {len : Nat} {L w : Int} (h1 : 1 ≤ len) (h4 : len ≤ 4)
    (hlast : 2 ^ 63 ≤ L + 2 ^ (8 * len)) (hL : L + 1 < 2 ^ 63) (hw0 : 0 ≤ w)
    (hw : w < 2 ^ (8 * len)) :
    decodePacketNumber len L w = w - 2 ^ 63 := by
  have hD32 : (2 : Int) ^ (8 * len) ≤ 2 ^ 32 := pow_le_pow_right₀ (by norm_num) (by omega)
  obtain ⟨l, rfl⟩ := Int.eq_ofNat_of_zero_le (show (0 : Int) ≤ L by omega)
  have hD : (0 : Int) < 2 ^ (8 * len) := by positivity
  have hD63 : (2 : Int) ^ (8 * len) ∣ 2 ^ 63 := pow_dvd_pow 2 (by omega)
  simp only [decodePacketNumber, epochDelta_eq h1 h4, land_lnot_two_pow_sub_one]
  generalize (2 : Int) ^ (8 * len) = D at hD hD63 hD32 hlast hw ⊢
  obtain ⟨he0, hel, hle, he, -⟩ := epoch_bounds hD hD63 (Int.natCast_nonneg l)
  have hlastEpoch : (l : Int) / D * D = 2 ^ 63 - D := by
    have := eq_of_dvd_of_lt_two_mul hD (dvd_sub hD63 he) (by omega) (by omega)
    omega
  rw [hlastEpoch, if_pos (by omega), wrapInt64_of_nonneg (x := 2 ^ 63 - D - D) (by omega) (by omega),
    show (2 : Int) ^ 63 - D + D = 2 ^ 63 by ring,
    show wrapInt64 (2 ^ 63) = -2 ^ 63 by decide,
    wrapInt64_of_neg (x := -2 ^ 63 + w) (by omega) (by omega),
    wrapInt64_of_nonneg (x := (l : Int) + 1) (by omega) hL,
    wrapInt64_of_nonneg (x := 2 ^ 63 - D + w) (by omega) (by omega),
    wrapInt64_of_nonneg (x := 2 ^ 63 - D - D + w) (by omega) (by omega)]
  -- the wrapped candidate is at a negative `delta`, the two others at their distance
  have hneg : delta ((l : Int) + 1) (-2 ^ 63 + w) = l + 1 - w - 2 ^ 63 := by
    rw [delta, if_neg (by omega), wrapInt64_of_ge (by omega) (by omega)]
    ring
  have hcur : 0 ≤ delta ((l : Int) + 1) (2 ^ 63 - D + w) := by
    rw [delta_eq_abs (abs_sub_lt_of_nonneg_of_lt (by omega) hL (by omega) (by omega))]
    exact abs_nonneg _
  have hprev : 0 ≤ delta ((l : Int) + 1) (2 ^ 63 - D - D + w) := by
    rw [delta_eq_abs (abs_sub_lt_of_nonneg_of_lt (by omega) hL (by omega) (by omega))]
    exact abs_nonneg _
  have hinner : closestTo ((l : Int) + 1) (2 ^ 63 - D - D + w) (-2 ^ 63 + w) = -2 ^ 63 + w := by
    rw [closestTo, hneg, if_neg (by omega)]
  rw [hinner, closestTo, hneg, if_neg (by omega)]
  ring

/-! ## The length the sender chooses -/

/-- The length chosen for a distance below `2^31` to the lowest unacknowledged
number is a valid one, and covers that distance within half an epoch. -/
theorem getPacketNumberLengthForHeader_near {pn leastUnacked : Int} (h0 : leastUnacked ≤ pn)
    (h : pn - leastUnacked < 2 ^ 31) :
    2 ≤ getPacketNumberLengthForHeader pn leastUnacked ∧
      getPacketNumberLengthForHeader pn leastUnacked ≤ 4 ∧
      pn - leastUnacked < 2 ^ (8 * getPacketNumberLengthForHeader pn leastUnacked - 1) := by
  have hdiff : toUint64 (pn - leastUnacked) = (pn - leastUnacked).toNat :=
    toUint64_of_nonneg (by omega) (by omega)
  simp only [getPacketNumberLengthForHeader, hdiff, PacketNumberLen2, PacketNumberLen3,
    PacketNumberLen4]
  split_ifs with h15 h23 <;> omega

/-- What the sender's choice guarantees: a receiver whose largest received
number `L` is at least the one before the lowest unacknowledged number decodes
the packet number exactly, outside the last epoch of `int64`. -/
theorem decodePacketNumber_getPacketNumberLengthForHeader {pn leastUnacked L : Int}
    (hL : 0 ≤ L) (hlo : leastUnacked - 1 ≤ L) (hhi : L < pn) (h : pn - leastUnacked < 2 ^ 31)
    (hlast : L + 2 ^ (8 * getPacketNumberLengthForHeader pn leastUnacked) < 2 ^ 63) :
    decodePacketNumber (getPacketNumberLengthForHeader pn leastUnacked) L
      (pn % 2 ^ (8 * getPacketNumberLengthForHeader pn leastUnacked)) = pn := by
  obtain ⟨h2, h4, hnear⟩ := getPacketNumberLengthForHeader_near (by omega) h
  apply decodePacketNumber_eq (by omega) h4 hL hlast (by omega)
  rw [abs_of_nonneg (by omega)]
  omega

end QuicFec
