import QuicFec.FrameParser

/-! The ACK frame on the wire.  `Write` walks the ranges by index and stops after
`numEncodableAckRanges` of them; `parseAckFrame` rebuilds the ranges from gaps and
lengths.  For valid ranges of packet numbers that are not negative, the frame
read back holds the first `numEncodableAckRanges` ranges and the delay rounded
down to a multiple of the 8 µs the exponent keeps (`parseAckFrame_write`), and it
writes the same bytes again (`write_asParsed`).  `Length` is the length of what
`Write` writes, for every frame `Write` accepts (`length_of_write`). -/
namespace QuicFec
open GoBytes

private theorem forall_mem_zip_tail {α : Type} {p : α × α → Prop} {l : List α} :
    (∀ x ∈ l.zip l.tail, p x) ↔ ∀ (i : Nat) (h : i + 1 < l.length), p (l[i], l[i + 1]) := by
  simp only [List.mem_iff_getElem, List.length_zip, List.length_tail, List.getElem_zip,
    List.getElem_tail]
  constructor
  · intro h i hi
    exact h _ ⟨i, by omega, rfl⟩
  · rintro h _ ⟨i, hi, rfl⟩
    exact h i (by omega)

/-! ## The delay -/

theorem encodeAckDelay_of_nonneg {d : Int} (h0 : 0 ≤ d) (h : d < 2 ^ 63) :
    encodeAckDelay d = (d / 8000).toNat := by
  have hq : d.tdiv 8000 = d / 8000 := Int.tdiv_eq_ediv_of_nonneg h0
  have hq0 : 0 ≤ d / 8000 := Int.ediv_nonneg h0 (by decide)
  have hq1 : d / 8000 < 2 ^ 64 := by omega
  simp only [encodeAckDelay, AckDelayExponent]
  rw [show (1000 * (1 <<< 3) : Int) = 8000 by decide, hq, toUint64_of_nonneg hq0 hq1]

/-- The delay `parseAckFrame` reads back: the delay rounded down to a multiple
of 8 µs. -/
theorem parsedDelay {d : Int} (h0 : 0 ≤ d) (h : d < 2 ^ 63) :
    wrapInt64 (toInt64 ((encodeAckDelay d <<< AckDelayExponent) % 2 ^ 64) * 1000) = d / 8000 * 8000 := by
  rw [encodeAckDelay_of_nonneg h0 h]
  have hq0 : 0 ≤ d / 8000 := Int.ediv_nonneg h0 (by decide)
  have hq : (d / 8000) * 8000 ≤ d := Int.ediv_mul_le d (by decide)
  have e1 : ((d / 8000).toNat : Int) = d / 8000 := Int.toNat_of_nonneg hq0
  have hs : (d / 8000).toNat <<< AckDelayExponent = (d / 8000).toNat * 8 := by
    simp [AckDelayExponent, Nat.shiftLeft_eq]
  have hlt : (d / 8000).toNat * 8 < 2 ^ 63 := by omega
  rw [hs, Nat.mod_eq_of_lt (by omega), toInt64_of_lt hlt]
  unfold wrapInt64
  rw [toUint64_of_nonneg (by omega) (by omega), toInt64_of_lt (by omega)]
  omega

theorem encodeAckDelay_round {d : Int} (h0 : 0 ≤ d) (h : d < 2 ^ 63) :
    encodeAckDelay (d / 8000 * 8000) = encodeAckDelay d := by
  have hq0 : 0 ≤ d / 8000 := Int.ediv_nonneg h0 (by decide)
  have hq : (d / 8000) * 8000 ≤ d := Int.ediv_mul_le d (by decide)
  rw [encodeAckDelay_of_nonneg (by omega) (by omega), encodeAckDelay_of_nonneg h0 h,
    Int.mul_ediv_cancel _ (by decide)]

namespace AckFrame

/-- The ACK frames the round trip is about: ranges that pass `validateAckRanges`,
packet numbers from 0 to below `2^62`, and a delay that is not negative and fits
the `int64` of a `time.Duration`. -/
structure Valid (f : AckFrame) : Prop where
  ranges_valid : f.validateAckRanges = true
  smallest_nonneg : ∀ r ∈ f.ackRanges, 0 ≤ r.smallest
  largest_lt : ∀ r ∈ f.ackRanges, r.largest < 2 ^ 62
  delay_nonneg : 0 ≤ f.delayTime
  delay_lt : f.delayTime < 2 ^ 63

/-- The frame `parseAckFrame` returns for one that `Write` cut to `n` ranges. -/
def asParsed (f : AckFrame) (n : Nat) : AckFrame :=
  ⟨f.ackRanges.take n, f.delayTime / 8000 * 8000⟩

theorem validateAckRanges_iff (f : AckFrame) :
    f.validateAckRanges = true ↔ f.ackRanges ≠ [] ∧ (∀ r ∈ f.ackRanges, r.smallest ≤ r.largest) ∧
      ∀ (i : Nat) (h : i + 1 < f.ackRanges.length),
        f.ackRanges[i + 1].smallest < f.ackRanges[i].smallest ∧
          f.ackRanges[i + 1].largest + 1 < f.ackRanges[i].smallest := by
  simp only [validateAckRanges, Bool.and_eq_true, Bool.not_eq_true', List.isEmpty_eq_false_iff,
    List.all_eq_true, decide_eq_true_eq]
  rw [and_assoc]
  exact and_congr_right fun _ => and_congr_right fun _ => forall_mem_zip_tail

/-- The first `n` ranges of valid ranges are valid. -/
theorem validateAckRanges_take {f : AckFrame} (hv : f.validateAckRanges = true) {n : Nat}
    (hn : 0 < n) (d : Int) : validateAckRanges ⟨f.ackRanges.take n, d⟩ = true := by
  obtain ⟨hne, hle, hgap⟩ := (validateAckRanges_iff f).mp hv
  refine (validateAckRanges_iff _).mpr ⟨?_, ?_, ?_⟩
  · simpa [Nat.pos_iff_ne_zero.mp hn] using hne
  · exact fun r hr => hle r (List.mem_of_mem_take hr)
  · intro i h
    simp only [List.length_take, List.getElem_take] at h ⊢
    exact hgap i (by omega)

/-- Range `j` lies at least `2 j` below the largest acknowledged packet: each
range ends below the one before it, with a missing packet between them. -/
theorem largest_add_le_largestAcked {f : AckFrame} (hv : f.validateAckRanges = true) :
    ∀ (j : Nat) (h : j < f.ackRanges.length), f.ackRanges[j].largest + 2 * j ≤ f.ackRanges[0].largest := by
  obtain ⟨-, hle, hgap⟩ := (validateAckRanges_iff f).mp hv
  intro j
  induction j with
  | zero => intro _; simp
  | succ j ih =>
    intro h
    have h1 := hgap j h
    have h2 := hle _ (List.getElem_mem (Nat.lt_of_succ_lt h))
    have h3 := ih (Nat.lt_of_succ_lt h)
    omega

/-- So a valid frame of packet numbers below `2^62` has fewer than `2^61 + 2`
ranges. -/
theorem Valid.length_le {f : AckFrame} (hv : f.Valid) : f.ackRanges.length ≤ 2 ^ 61 + 1 := by
  rcases Nat.eq_zero_or_pos f.ackRanges.length with h | h
  · omega
  have hlast := largest_add_le_largestAcked hv.ranges_valid _ (Nat.sub_lt h Nat.one_pos)
  have h0 := hv.largest_lt _ (List.getElem_mem h)
  have hs := hv.smallest_nonneg _ (List.getElem_mem (Nat.sub_lt h Nat.one_pos))
  have hsl := ((validateAckRanges_iff f).mp hv.ranges_valid).2.1 _
    (List.getElem_mem (Nat.sub_lt h Nat.one_pos))
  omega

/-! ## Ranges by index -/

theorem encodeAckRange_zero {f : AckFrame} (h : 0 < f.ackRanges.length) :
    f.encodeAckRange 0 = .ok (0, toUint64 (f.ackRanges[0].largest - f.ackRanges[0].smallest)) := by
  simp [encodeAckRange, index_of_lt h]

theorem encodeAckRange_succ {f : AckFrame} {i : Nat} (h : i + 1 < f.ackRanges.length) :
    f.encodeAckRange (i + 1) =
      .ok (toUint64 (f.ackRanges[i].smallest - f.ackRanges[i + 1].largest - 2),
        toUint64 (f.ackRanges[i + 1].largest - f.ackRanges[i + 1].smallest)) := by
  simp [encodeAckRange, index_of_lt h, index_of_lt (Nat.lt_of_succ_lt h)]

/-- Range `i` is encoded from ranges `i - 1` and `i` only. -/
theorem encodeAckRange_congr {f g : AckFrame} {i : Nat} (hf : i < f.ackRanges.length)
    (hg : i < g.ackRanges.length)
    (hfg : ∀ j (hf : j < f.ackRanges.length) (hg : j < g.ackRanges.length), j ≤ i →
      f.ackRanges[j] = g.ackRanges[j]) :
    f.encodeAckRange i = g.encodeAckRange i := by
  cases i with
  | zero => simp only [encodeAckRange_zero hf, encodeAckRange_zero hg, hfg 0 hf hg (Nat.le_refl 0)]
  | succ i =>
    simp only [encodeAckRange_succ hf, encodeAckRange_succ hg, hfg i (by omega) (by omega) (by omega),
      hfg (i + 1) hf hg (Nat.le_refl _)]

/-- `writeRanges i k` reads only the ranges below `i + k`. -/
theorem writeRanges_congr {f g : AckFrame} {i k : Nat}
    (hfg : ∀ j (hf : j < f.ackRanges.length) (hg : j < g.ackRanges.length), j < i + k →
      f.ackRanges[j] = g.ackRanges[j])
    (hf : i + k ≤ f.ackRanges.length) (hg : i + k ≤ g.ackRanges.length) :
    f.writeRanges i k = g.writeRanges i k := by
  induction k generalizing i with
  | zero => rfl
  | succ k ih =>
    have hrest := @ih (i + 1) (fun l hf hg hl => hfg l hf hg (by omega)) (by omega) (by omega)
    have henc := encodeAckRange_congr (show i < f.ackRanges.length by omega)
      (show i < g.ackRanges.length by omega) (fun j hf hg hj => hfg j hf hg (by omega))
    simp only [writeRanges, henc, hrest]

/-- The ranges after the first read back: `parseAckRanges`, started at the lower
end of range `i`, returns the `k` ranges that `writeRanges (i + 1) k` wrote. -/
theorem parseAckRanges_writeRanges {f : AckFrame} (hv : f.validateAckRanges = true)
    (hnn : ∀ r ∈ f.ackRanges, 0 ≤ r.smallest) (hb : ∀ r ∈ f.ackRanges, r.largest < 2 ^ 64)
    {i k : Nat} (hk : i + k < f.ackRanges.length) {w : Bytes} (hw : f.writeRanges (i + 1) k = .ok w)
    (rest : Bytes) :
    parseAckRanges f.ackRanges[i].smallest k (w ++ rest) =
      .ok ((f.ackRanges.drop (i + 1)).take k, rest) := by
  obtain ⟨-, hle, hgap⟩ := (validateAckRanges_iff f).mp hv
  induction k generalizing i w with
  | zero =>
    cases hw
    rfl
  | succ k ih =>
    have hi : i + 1 < f.ackRanges.length := by omega
    have hprev := hnn _ (List.getElem_mem (Nat.lt_of_succ_lt hi))
    have hprevle := hle _ (List.getElem_mem (Nat.lt_of_succ_lt hi))
    have hprevb := hb _ (List.getElem_mem (Nat.lt_of_succ_lt hi))
    have hcur := hnn _ (List.getElem_mem hi)
    have hcurle := hle _ (List.getElem_mem hi)
    have hgi := hgap i hi
    simp only [writeRanges, encodeAckRange_succ hi, ok_bind, bind_eq_ok, writeVarInt_eq_ok, pure_eq_ok,
      Except.ok.injEq] at hw
    obtain ⟨_, ⟨hg, rfl⟩, _, ⟨hl, rfl⟩, w', hw', rfl⟩ := hw
    -- the gap and the length are not negative, so `uint64(..)` keeps them
    have hG : 0 ≤ f.ackRanges[i].smallest - f.ackRanges[i + 1].largest - 2 := by omega
    have hG' : f.ackRanges[i].smallest - f.ackRanges[i + 1].largest - 2 < 2 ^ 64 := by omega
    have hL : 0 ≤ f.ackRanges[i + 1].largest - f.ackRanges[i + 1].smallest := by omega
    have hL' : f.ackRanges[i + 1].largest - f.ackRanges[i + 1].smallest < 2 ^ 64 := by omega
    rw [toUint64_of_nonneg hG hG'] at hg ⊢
    rw [toUint64_of_nonneg hL hL'] at hl ⊢
    have e1 := Int.toNat_of_nonneg hG
    have e2 := Int.toNat_of_nonneg hL
    -- neither of the parser's two checks fires, and it rebuilds range `i + 1`
    have c1 : ¬ f.ackRanges[i].smallest < f.ackRanges[i].smallest - f.ackRanges[i + 1].largest - 2 + 2 := by
      omega
    have c2 : ¬ f.ackRanges[i + 1].largest - f.ackRanges[i + 1].smallest > f.ackRanges[i + 1].largest := by
      omega
    have e3 : f.ackRanges[i].smallest - (f.ackRanges[i].smallest - f.ackRanges[i + 1].largest - 2) - 2 =
        f.ackRanges[i + 1].largest := by omega
    have e4 : f.ackRanges[i + 1].largest - (f.ackRanges[i + 1].largest - f.ackRanges[i + 1].smallest) =
        f.ackRanges[i + 1].smallest := by omega
    simp only [List.append_assoc, parseAckRanges, readVarInt_varIntBytes hg, readVarInt_varIntBytes hl,
      ok_bind, e1, e2, c1, c2, e3, e4, if_false, ih (by omega) hw', pure_eq_ok]
    rw [List.drop_eq_getElem_cons hi, List.take_succ_cons]

/-! ## How many ranges `Write` keeps -/

/-- The bytes range `(gap, len)` takes on the wire. -/
def rangeLen (gap len : Nat) : Nat := (varIntBytes gap).length + (varIntBytes len).length

/-- One round of the `numEncodableAckRanges` loop, for a range that encodes. -/
theorem numEncodableLoop_succ {f : AckFrame} {l i k gap len : Nat} (he : f.encodeAckRange i = .ok (gap, len))
    (hg : gap ≤ maxVarInt8) (hl : len ≤ maxVarInt8) :
    f.numEncodableLoop l i (k + 1) =
      if l + rangeLen gap len > MaxAckFrameSize then .ok (i - 1)
      else f.numEncodableLoop (l + rangeLen gap len) (i + 1) k := by
  simp [numEncodableLoop, he, varIntLen_eq_length hg, varIntLen_eq_length hl, rangeLen]

/-- What a round of the loop that does not fail did. -/
theorem numEncodableLoop_succ_ok {f : AckFrame} {l i k n : Nat}
    (h : f.numEncodableLoop l i (k + 1) = .ok n) :
    ∃ gap len, f.encodeAckRange i = .ok (gap, len) ∧ gap ≤ maxVarInt8 ∧ len ≤ maxVarInt8 ∧
      (l + rangeLen gap len > MaxAckFrameSize ∧ n = i - 1 ∨
        l + rangeLen gap len ≤ MaxAckFrameSize ∧
          f.numEncodableLoop (l + rangeLen gap len) (i + 1) k = .ok n) := by
  simp only [numEncodableLoop, bind_eq_ok] at h
  obtain ⟨⟨gap, len⟩, he, lg, hlg, ll, hll, h⟩ := h
  obtain ⟨hg, rfl⟩ := varIntLen_eq_ok.mp hlg
  obtain ⟨hl, rfl⟩ := varIntLen_eq_ok.mp hll
  refine ⟨gap, len, he, hg, hl, ?_⟩
  simp only [rangeLen]
  dsimp only at h
  split at h
  · exact .inl ⟨‹_›, by simpa using h.symm⟩
  · exact .inr ⟨by omega, h⟩

/-- The loop keeps at most the ranges there are. -/
theorem numEncodableLoop_le {f : AckFrame} {l i k n : Nat} (hk : i + k ≤ f.ackRanges.length)
    (h : f.numEncodableLoop l i k = .ok n) : n ≤ f.ackRanges.length := by
  induction k generalizing l i with
  | zero =>
    cases h
    exact Nat.le_refl _
  | succ k ih =>
    obtain ⟨gap, len, -, -, -, ⟨-, rfl⟩ | ⟨-, h⟩⟩ := numEncodableLoop_succ_ok h
    · omega
    · exact ih (by omega) h

/-- The loop started at range `i` keeps at least the `i - 1` ranges before it. -/
theorem numEncodableLoop_ge {f : AckFrame} {l i k n : Nat} (hk : i + k ≤ f.ackRanges.length)
    (h : f.numEncodableLoop l i k = .ok n) : i - 1 ≤ n := by
  induction k generalizing l i with
  | zero =>
    cases h
    omega
  | succ k ih =>
    obtain ⟨gap, len, -, -, -, ⟨-, rfl⟩ | ⟨-, h⟩⟩ := numEncodableLoop_succ_ok h
    · exact Nat.le_refl _
    · have := ih (by omega) h
      omega

/-- The loop over the ranges it decided to keep decides to keep them all: run on
the first `n` ranges, it walks the same ranges with the same lengths and runs out
of ranges where the loop over all of them stopped. -/
theorem numEncodableLoop_take {f g : AckFrame} {n : Nat} (hgf : g.ackRanges = f.ackRanges.take n)
    {l i k : Nat} (hi : 1 ≤ i) (hk : i + k = f.ackRanges.length)
    (h : f.numEncodableLoop l i k = .ok n) : g.numEncodableLoop l i (n - i) = .ok n := by
  have hn := numEncodableLoop_le (Nat.le_of_eq hk) h
  have hglen : g.ackRanges.length = n := by simp [hgf, hn]
  have hend : ∀ l' i', g.numEncodableLoop l' i' 0 = .ok n := fun _ _ => by simp [numEncodableLoop, hglen]
  induction k generalizing l i with
  | zero =>
    obtain rfl : n = f.ackRanges.length := by cases h; rfl
    rw [show f.ackRanges.length - i = 0 by omega]
    exact hend l i
  | succ k ih =>
    obtain ⟨gap, len, he, hg, hl, ⟨-, rfl⟩ | ⟨hfit, h⟩⟩ := numEncodableLoop_succ_ok h
    · -- the loop over `f` stopped at range `i`
      rw [show i - 1 - i = 0 by omega]
      exact hend l i
    · have hge := numEncodableLoop_ge (by omega) h
      rcases Nat.eq_or_lt_of_le (show i ≤ n by omega) with rfl | hlt
      · rw [Nat.sub_self]
        exact hend l i
      · -- range `i` is one of the first `n`, so `g` encodes it as `f` does
        have hge' : g.encodeAckRange i = .ok (gap, len) := by
          rw [← he]
          refine encodeAckRange_congr (by omega) (by omega) fun j hg hf _ => ?_
          simp only [hgf, List.getElem_take]
        rw [show n - i = n - (i + 1) + 1 by omega, numEncodableLoop_succ hge' hg hl, if_neg (by omega)]
        exact ih (by omega) (by omega) h

/-! ## The round trip -/

theorem largestAcked_eq {f : AckFrame} (h : 0 < f.ackRanges.length) :
    f.largestAcked = .ok f.ackRanges[0].largest := by
  simp [largestAcked, index_of_lt h]

theorem asParsed_ackRanges_length {f : AckFrame} {n : Nat} (hn : n ≤ f.ackRanges.length) :
    (f.asParsed n).ackRanges.length = n := by
  simp [asParsed, hn]

theorem numEncodableAckRanges_le {f : AckFrame} (h0 : 0 < f.ackRanges.length) {n : Nat}
    (hn : f.numEncodableAckRanges = .ok n) : n ≤ f.ackRanges.length := by
  simp only [numEncodableAckRanges, largestAcked_eq h0, ok_bind, bind_eq_ok] at hn
  obtain ⟨_, -, _, -, hloop⟩ := hn
  exact numEncodableLoop_le (by omega) hloop

/-- Cut to the ranges it keeps, a frame keeps them all. -/
theorem numEncodableAckRanges_asParsed {f : AckFrame} (hv : f.Valid) {n : Nat}
    (hn : f.numEncodableAckRanges = .ok n) (hn0 : 0 < n) :
    (f.asParsed n).numEncodableAckRanges = .ok n := by
  have h0 : 0 < f.ackRanges.length := by
    obtain ⟨hne, -⟩ := (validateAckRanges_iff f).mp hv.ranges_valid
    exact List.length_pos_iff.mpr hne
  simp only [numEncodableAckRanges, largestAcked_eq h0, ok_bind, bind_eq_ok] at hn
  obtain ⟨l1, hl1, l2, hl2, hloop⟩ := hn
  have hle := numEncodableLoop_le (by omega) hloop
  have hg0 : 0 < (f.asParsed n).ackRanges.length := by rw [asParsed_ackRanges_length hle]; exact hn0
  have hla : (f.asParsed n).ackRanges[0].largest = f.ackRanges[0].largest := by
    simp [asParsed]
  have hd : encodeAckDelay (f.asParsed n).delayTime = encodeAckDelay f.delayTime :=
    encodeAckDelay_round hv.delay_nonneg hv.delay_lt
  have hloop' := @numEncodableLoop_take f (f.asParsed n) n rfl _ _ _ (Nat.le_refl 1) (by omega) hloop
  simp only [numEncodableAckRanges, largestAcked_eq hg0, hla, hd, hl1, hl2, ok_bind,
    asParsed_ackRanges_length hle, hloop']
/-- Cut to the ranges it keeps and with the delay rounded as the parser rounds it,
a frame writes the same bytes. -/
theorem write_asParsed {f : AckFrame} (hv : f.Valid) {n : Nat} (hn : f.numEncodableAckRanges = .ok n)
    (hn0 : 0 < n) : (f.asParsed n).write = f.write := by
  have h0 : 0 < f.ackRanges.length := by
    obtain ⟨hne, -⟩ := (validateAckRanges_iff f).mp hv.ranges_valid
    exact List.length_pos_iff.mpr hne
  have hle : n ≤ f.ackRanges.length := by
    simp only [numEncodableAckRanges, largestAcked_eq h0, ok_bind, bind_eq_ok] at hn
    obtain ⟨l1, -, l2, -, hloop⟩ := hn
    exact numEncodableLoop_le (by omega) hloop
  have hglen := asParsed_ackRanges_length hle
  have hsame : ∀ j (hf : j < (f.asParsed n).ackRanges.length) (hg : j < f.ackRanges.length),
      (f.asParsed n).ackRanges[j] = f.ackRanges[j] := by
    intro j hf hg
    simp [asParsed]
  have hla : (f.asParsed n).largestAcked = f.largestAcked := by
    rw [largestAcked_eq h0, largestAcked_eq (by omega), hsame]
  have he0 : (f.asParsed n).encodeAckRange 0 = f.encodeAckRange 0 :=
    encodeAckRange_congr (by omega) h0 fun j hf hg _ => hsame j hf hg
  have hwr : (f.asParsed n).writeRanges 1 (n - 1) = f.writeRanges 1 (n - 1) :=
    writeRanges_congr (fun j hf hg _ => hsame j hf hg) (by omega) (by omega)
  have hd : encodeAckDelay (f.asParsed n).delayTime = encodeAckDelay f.delayTime :=
    encodeAckDelay_round hv.delay_nonneg hv.delay_lt
  simp only [write, hla, hd, numEncodableAckRanges_asParsed hv hn hn0, hn, he0, ok_bind, hwr]
/-- **ACK round trip**: `parseAckFrame` reads back what `Write` wrote, cut to the
`numEncodableAckRanges` ranges it kept and with the delay rounded down to 8 µs. -/
theorem parseAckFrame_write {f : AckFrame} (hv : f.Valid) {w : Bytes} (hw : f.write = .ok w)
    (rest : Bytes) :
    ∃ n, f.numEncodableAckRanges = .ok n ∧ 0 < n ∧
      parseAckFrame AckDelayExponent (w ++ rest) = .ok (f.asParsed n, rest) := by
  obtain ⟨hne, hle, -⟩ := (validateAckRanges_iff f).mp hv.ranges_valid
  have h0 : 0 < f.ackRanges.length := List.length_pos_iff.mpr hne
  have hmem0 := List.getElem_mem h0
  have hs0 := hv.smallest_nonneg _ hmem0
  have hsl0 := hle _ hmem0
  have hl0 := hv.largest_lt _ hmem0
  simp only [write, largestAcked_eq h0, encodeAckRange_zero h0, ok_bind, bind_eq_ok,
    writeVarInt_eq_ok, pure_eq_ok, Except.ok.injEq] at hw
  obtain ⟨_, ⟨hla, rfl⟩, _, ⟨hd, rfl⟩, n, hn, _, ⟨hnb, rfl⟩, _, ⟨hfr, rfl⟩, wr, hwr, rfl⟩ := hw
  have hn0 : 0 < n := by
    by_contra hz
    rw [Nat.eq_zero_of_not_pos hz] at hnb
    exact absurd hnb (by decide)
  refine ⟨n, hn, hn0, ?_⟩
  have hnle : n ≤ f.ackRanges.length := numEncodableAckRanges_le h0 hn
  have hlen := hv.length_le
  have hb : ∀ r ∈ f.ackRanges, r.largest < 2 ^ 64 := fun r hr => by
    have := hv.largest_lt r hr
    omega
  have hL : 0 ≤ f.ackRanges[0].largest - f.ackRanges[0].smallest := by omega
  rw [toUint64_of_nonneg (by omega) (by omega)] at hla ⊢
  rw [toUint64_of_nonneg hL (by omega)] at hfr ⊢
  rw [show toUint64 ((n : Int) - 1) = n - 1 by
    rw [toUint64_of_nonneg (by omega) (by omega)]; omega] at hnb ⊢
  have e1 := Int.toNat_of_nonneg (show 0 ≤ f.ackRanges[0].largest by omega)
  have e2 := Int.toNat_of_nonneg hL
  have c1 : ¬ f.ackRanges[0].largest - f.ackRanges[0].smallest > f.ackRanges[0].largest := by omega
  have e3 : f.ackRanges[0].largest - (f.ackRanges[0].largest - f.ackRanges[0].smallest) =
      f.ackRanges[0].smallest := by omega
  have hranges := parseAckRanges_writeRanges hv.ranges_valid hv.smallest_nonneg hb
    (show 0 + (n - 1) < f.ackRanges.length by omega) hwr rest
  have htake : (⟨f.ackRanges[0].smallest, f.ackRanges[0].largest⟩ : AckRange) ::
      (f.ackRanges.drop 1).take (n - 1) = f.ackRanges.take n := by
    obtain ⟨m, rfl⟩ : ∃ m, n = m + 1 := ⟨n - 1, by omega⟩
    rw [Nat.add_sub_cancel, ← List.take_succ_cons, List.getElem_cons_drop, List.drop_zero]
  have hvalid := validateAckRanges_take hv.ranges_valid hn0 (f.delayTime / 8000 * 8000)
  simp only [parseAckFrame, List.append_assoc, List.cons_append, List.nil_append, readByte_cons,
    readVarInt_varIntBytes hla, readVarInt_varIntBytes hd, readVarInt_varIntBytes hnb,
    readVarInt_varIntBytes hfr, ok_bind, e1, e2, c1, e3, if_false, hranges, Nat.zero_add,
    parsedDelay hv.delay_nonneg hv.delay_lt, htake, hvalid, Bool.not_true, Bool.false_eq_true,
    show ¬ ((2 : UInt8) &&& 1 > 0) by decide, pure_eq_ok]
  rfl
/-! ## `Length` -/

theorem rangesLength_of_writeRanges {f : AckFrame} {i k : Nat} {w : Bytes}
    (hw : f.writeRanges i k = .ok w) : f.rangesLength i k = .ok w.length := by
  induction k generalizing i w with
  | zero =>
    cases hw
    rfl
  | succ k ih =>
    simp only [writeRanges, bind_eq_ok, writeVarInt_eq_ok, pure_eq_ok, Except.ok.injEq] at hw
    obtain ⟨⟨gap, len⟩, he, _, ⟨hg, rfl⟩, _, ⟨hl, rfl⟩, w', hw', rfl⟩ := hw
    simp [rangesLength, he, varIntLen_eq_length hg, varIntLen_eq_length hl, ih hw', Nat.add_assoc]

/-- `Length` is the length of what `Write` writes. -/
theorem length_of_write {f : AckFrame} {w : Bytes} (hw : f.write = .ok w) : f.length = .ok w.length := by
  have h0 : 0 < f.ackRanges.length := by
    rcases Nat.eq_zero_or_pos f.ackRanges.length with h | h
    · simp [write, largestAcked, index, List.length_eq_zero_iff.mp h] at hw
    · exact h
  simp only [write, largestAcked_eq h0, encodeAckRange_zero h0, ok_bind, bind_eq_ok,
    writeVarInt_eq_ok, pure_eq_ok, Except.ok.injEq] at hw
  obtain ⟨_, ⟨hla, rfl⟩, _, ⟨hd, rfl⟩, n, hn, _, ⟨hnb, rfl⟩, _, ⟨hfr, rfl⟩, wr, hwr, rfl⟩ := hw
  simp [length, index_of_lt h0, hn, varIntLen_eq_length hla, varIntLen_eq_length hd,
    varIntLen_eq_length hnb, varIntLen_eq_length hfr, rangesLength_of_writeRanges hwr]
  omega

end AckFrame

end QuicFec
