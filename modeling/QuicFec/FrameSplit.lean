import QuicFec.Frames

/-! # Splitting STREAM frames, and the room for CRYPTO data

`StreamFrame.MaybeSplitOffFrame` (stream_frame.go) cuts a STREAM frame longer than
`maxSize` in two: the first `MaxDataLen(maxSize)` bytes of its data go into a new
frame at the same offset, and the frame keeps the rest, at the offset after them.
`MaxDataLen` reckons with a length field of one byte and takes one byte off the
data when that room needs a longer varint.  That is right while the data split off
stays below 16384 bytes; from there its length field takes four bytes, and the
frame split off is two bytes longer than `maxSize`.  When the data is just above
16384 bytes and `maxSize` a little below the frame, `MaxDataLen` even asks for more
data than there is, and the slicing panics.  `CryptoFrame.MaxDataLen`
(crypto_frame.go) makes the same guess.

The lengths are stated with the lengths of the varints (`wireLength`,
`splitHeaderLen`); `MaxDataLen`, for a header that fits, is `splitLen`.

Main results:

* `maybeSplitOffFrame_maxDataLen_spec`: every outcome of `MaybeSplitOffFrame`, when
  the frame split off is no longer than `maxSize`, and when a CRYPTO frame of
  `MaxDataLen` bytes is.
* `maybeSplitOffFrame_two_bytes_over`: a split for 18000 bytes that is 18002 long.
-/
namespace QuicFec
open GoBytes

namespace StreamFrame

/-- `StreamFrame.MaxDataLen`: the most data a frame of at most `maxSize` bytes can
carry; 0 if not even the header fits. -/
def maxDataLen (f : StreamFrame) (maxSize : Nat) : Except GoError Nat := do
  let sid ← varIntLen f.streamID
  let off ← if f.offset ≠ 0 then varIntLen f.offset else pure 0
  -- the length field is taken to be one byte, and corrected below if the data
  -- length needs a longer varint
  let headerLen := 1 + sid + off + if f.dataLenPresent then 1 else 0
  if headerLen > maxSize then return 0
  let maxDataLen := maxSize - headerLen
  if f.dataLenPresent then
    if (← varIntLen maxDataLen) ≠ 1 then return maxDataLen - 1
  return maxDataLen

/-- `StreamFrame.MaybeSplitOffFrame`: the frame split off, if any, and the frame
with the data that is left. -/
def maybeSplitOffFrame (f : StreamFrame) (maxSize : Nat) :
    Except GoError (Option StreamFrame × StreamFrame) := do
  if maxSize ≥ (← f.length) then return (none, f)
  let n ← f.maxDataLen maxSize
  if n = 0 then throw (.error "too small")
  let newFrame : StreamFrame :=
    { finBit := false, streamID := f.streamID, offset := f.offset, data := ← sliceTo f.data n,
      dataLenPresent := f.dataLenPresent }
  let data ← sliceFrom f.data n
  return (some newFrame, { f with data := data, offset := f.offset + n })

end StreamFrame

/-- `CryptoFrame.MaxDataLen`. -/
def CryptoFrame.maxDataLen (f : CryptoFrame) (maxSize : Nat) : Except GoError Nat := do
  -- the length field is taken to be one byte, as for STREAM frames
  let headerLen := 1 + (← varIntLen f.offset) + 1
  if headerLen > maxSize then return 0
  let maxDataLen := maxSize - headerLen
  if (← varIntLen maxDataLen) ≠ 1 then return maxDataLen - 1
  return maxDataLen

/-! ## The lengths, with the varints' lengths -/

namespace StreamFrame

/-- The bytes the offset takes in the header: none for offset 0. -/
def offsetLen (offset : Nat) : Nat := if offset ≠ 0 then (varIntBytes offset).length else 0

/-- The length of the frame on the wire, `Length` for a frame whose numbers fit
into 62 bits. -/
def wireLength (f : StreamFrame) : Nat :=
  1 + (varIntBytes f.streamID).length + offsetLen f.offset +
    (if f.dataLenPresent then (varIntBytes f.data.length).length else 0) + f.data.length

/-- The header `MaxDataLen` reckons with: a length field, if any, of one byte. -/
def splitHeaderLen (f : StreamFrame) : Nat :=
  1 + (varIntBytes f.streamID).length + offsetLen f.offset + if f.dataLenPresent then 1 else 0

/-- What `MaxDataLen` returns for a header that fits: the room left, less one byte
when there is a length field and the room needs more than one byte for it. -/
def splitLen (f : StreamFrame) (maxSize : Nat) : Nat :=
  if f.dataLenPresent ∧ maxVarInt1 < maxSize - f.splitHeaderLen then maxSize - f.splitHeaderLen - 1
  else maxSize - f.splitHeaderLen

/-- The frame of the first `n` bytes and the frame of the rest, as
`MaybeSplitOffFrame` builds them. -/
def splitOff (f : StreamFrame) (n : Nat) : StreamFrame × StreamFrame :=
  ({ finBit := false, streamID := f.streamID, offset := f.offset, data := f.data.take n,
      dataLenPresent := f.dataLenPresent },
    { f with data := f.data.drop n, offset := f.offset + n })

@[simp] theorem splitOff_data_append (f : StreamFrame) (n : Nat) :
    (f.splitOff n).1.data ++ (f.splitOff n).2.data = f.data :=
  List.take_append_drop n f.data

/-! ## What `Length` and `MaxDataLen` compute -/

theorem length_eq_wireLength {f : StreamFrame} (hsid : f.streamID ≤ maxVarInt8)
    (hoff : f.offset + f.data.length ≤ maxVarInt8) : f.length = .ok f.wireLength := by
  have ho := varIntLen_eq_length (show f.offset ≤ maxVarInt8 by omega)
  have hd := varIntLen_eq_length (show f.data.length ≤ maxVarInt8 by omega)
  unfold StreamFrame.length wireLength offsetLen
  -- the offset and the length field are each written or not
  by_cases h0 : f.offset = 0 <;> cases f.dataLenPresent <;>
    simp [h0, varIntLen_eq_length hsid, ho, hd, bind, Except.bind, pure, Except.pure]

theorem maxDataLen_eq {f : StreamFrame} {maxSize : Nat} (hsid : f.streamID ≤ maxVarInt8)
    (ho : f.offset ≤ maxVarInt8) (hmax : maxSize ≤ maxVarInt8) :
    f.maxDataLen maxSize = .ok (if f.splitHeaderLen > maxSize then 0 else f.splitLen maxSize) := by
  unfold maxDataLen splitLen splitHeaderLen offsetLen
  by_cases h0 : f.offset = 0 <;> cases f.dataLenPresent <;>
    simp (disch := omega) [h0, varIntLen_eq_length, bind, Except.bind, pure, Except.pure] <;>
    split_ifs <;> first | rfl | omega

/-- The room for a header of `h` bytes, a length field of one byte and `m` bytes of
data: data of the length `MaxDataLen` picks, one byte less when `m` needs a longer
varint, fits there with its own length field exactly while that length needs at
most two bytes. -/
theorem guessed_length_le_iff (h m : Nat) :
    h + (varIntBytes (if maxVarInt1 < m then m - 1 else m)).length +
        (if maxVarInt1 < m then m - 1 else m) ≤ h + 1 + m ↔
      (if maxVarInt1 < m then m - 1 else m) ≤ maxVarInt2 := by
  rw [varIntBytes_length]
  unfold maxVarInt1 maxVarInt2 maxVarInt4
  split_ifs <;> omega

/-- In the same room, data shorter than the length `MaxDataLen` picks that still
overflows it with its own length field is longer than 16383 bytes. -/
theorem guessed_data_lt {h m d : Nat} (hlt : h + 1 + m < h + (varIntBytes d).length + d)
    (hn : d < if maxVarInt1 < m then m - 1 else m) : maxVarInt2 < d := by
  rw [varIntBytes_length] at hlt
  unfold maxVarInt1 maxVarInt2 maxVarInt4 at *
  split_ifs at hlt hn <;> omega

theorem splitLen_pos {f : StreamFrame} {maxSize : Nat} (hhdr : f.splitHeaderLen < maxSize) :
    0 < f.splitLen maxSize := by
  unfold splitLen maxVarInt1
  split_ifs <;> omega

/-- The frame split off fills `maxSize` exactly when its length field takes the byte
`MaxDataLen` reckoned with, or the two bytes it corrects for; a longer length field
makes it longer than `maxSize`. -/
theorem wireLength_splitOff_le_iff {f : StreamFrame} {maxSize : Nat} (hhdr : f.splitHeaderLen ≤ maxSize)
    (hn : f.splitLen maxSize ≤ f.data.length) :
    (f.splitOff (f.splitLen maxSize)).1.wireLength ≤ maxSize ↔
      ¬ (f.dataLenPresent ∧ maxVarInt2 < f.splitLen maxSize) := by
  have hlen : (f.data.take (f.splitLen maxSize)).length = f.splitLen maxSize :=
    List.length_take_of_le hn
  simp only [splitOff, wireLength, hlen]
  simp only [splitLen, splitHeaderLen] at hhdr ⊢
  rcases Bool.eq_false_or_eq_true f.dataLenPresent with hD | hD <;>
    simp only [hD, Bool.false_eq_true, if_false, if_true, true_and, false_and, not_false_eq_true,
      iff_true] at hhdr ⊢
  · -- a length field: the one-byte guess
    set H := 1 + (varIntBytes f.streamID).length + offsetLen f.offset
    have key := guessed_length_le_iff H (maxSize - (H + 1))
    rw [show H + 1 + (maxSize - (H + 1)) = maxSize by omega] at key
    exact key.trans Nat.not_lt.symm
  · -- no length field: the data fills the room after the header
    omega

/-! ## The outcomes of `MaybeSplitOffFrame` -/

section Split

variable {f : StreamFrame} {maxSize : Nat} (hsid : f.streamID ≤ maxVarInt8)
  (hoff : f.offset + f.data.length ≤ maxVarInt8)
include hsid hoff

/-- A frame that fits is left as it is. -/
theorem maybeSplitOffFrame_of_le (hle : f.wireLength ≤ maxSize) :
    f.maybeSplitOffFrame maxSize = .ok (none, f) := by
  simp [maybeSplitOffFrame, length_eq_wireLength hsid hoff, hle, bind, Except.bind, pure, Except.pure]

/-- A frame that does not fit, where not even one byte of data would: "too small". -/
theorem maybeSplitOffFrame_too_small (hmax : maxSize ≤ maxVarInt8) (hlt : maxSize < f.wireLength)
    (hhdr : maxSize ≤ f.splitHeaderLen) :
    f.maybeSplitOffFrame maxSize = .error (.error "too small") := by
  have hn : f.maxDataLen maxSize = .ok 0 := by
    rw [maxDataLen_eq hsid (by omega) hmax]
    -- either the header does not fit, or it fills `maxSize` exactly
    split
    · rfl
    · have : f.splitHeaderLen = maxSize := by omega
      simp [splitLen, this]
  simp [maybeSplitOffFrame, length_eq_wireLength hsid hoff, Nat.not_le.mpr hlt, hn, bind, Except.bind]

/-- A frame that does not fit, where some data does: the first `splitLen` bytes are
split off, when there are as many. -/
theorem maybeSplitOffFrame_split (hmax : maxSize ≤ maxVarInt8) (hlt : maxSize < f.wireLength)
    (hhdr : f.splitHeaderLen < maxSize) (hn : f.splitLen maxSize ≤ f.data.length) :
    f.maybeSplitOffFrame maxSize =
      .ok (some (f.splitOff (f.splitLen maxSize)).1, (f.splitOff (f.splitLen maxSize)).2) := by
  have hm : f.maxDataLen maxSize = .ok (f.splitLen maxSize) := by
    rw [maxDataLen_eq hsid (by omega) hmax, if_neg (by omega)]
  have hpos := splitLen_pos hhdr
  simp [maybeSplitOffFrame, length_eq_wireLength hsid hoff, Nat.not_le.mpr hlt, hm,
    Nat.pos_iff_ne_zero.mp hpos, sliceTo, sliceFrom, hn, splitOff, bind, Except.bind, pure, Except.pure]

/-- `MaxDataLen` asks for more data than there is only for a length field of four
bytes or more: then the slicing panics. -/
theorem maybeSplitOffFrame_panics (hmax : maxSize ≤ maxVarInt8) (hlt : maxSize < f.wireLength)
    (hhdr : f.splitHeaderLen < maxSize) (hn : f.data.length < f.splitLen maxSize) :
    f.maybeSplitOffFrame maxSize = .error (.panic "slice bounds out of range") ∧
      f.dataLenPresent ∧ maxVarInt2 < f.data.length := by
  have hm : f.maxDataLen maxSize = .ok (f.splitLen maxSize) := by
    rw [maxDataLen_eq hsid (by omega) hmax, if_neg (by omega)]
  have hpos := splitLen_pos hhdr
  refine ⟨by simp [maybeSplitOffFrame, length_eq_wireLength hsid hoff, Nat.not_le.mpr hlt, hm,
    Nat.pos_iff_ne_zero.mp hpos, sliceTo, Nat.not_le.mpr hn, bind, Except.bind], ?_⟩
  -- the frame is longer than `maxSize` with less data than `splitLen`: only a long
  -- length field makes up the difference
  simp only [wireLength, splitLen, splitHeaderLen] at hlt hhdr hn
  cases hD : f.dataLenPresent <;>
    simp only [hD, Bool.false_eq_true, if_false, if_true, true_and, false_and] at hlt hhdr hn ⊢
  · omega
  · exact guessed_data_lt (h := 1 + (varIntBytes f.streamID).length + offsetLen f.offset)
      (by omega) hn

/-- The frame split off is within the bounds `Length` needs. -/
theorem length_splitOff (hn : f.splitLen maxSize ≤ f.data.length) :
    (f.splitOff (f.splitLen maxSize)).1.length = .ok (f.splitOff (f.splitLen maxSize)).1.wireLength := by
  refine length_eq_wireLength hsid ?_
  simp only [splitOff, List.length_take_of_le hn]
  omega

end Split

/-- A split leaves the frame with less data: `MaybeSplitOffFrame` refuses to split
off no data at all. -/
theorem maybeSplitOffFrame_data_lt {f sf f' : StreamFrame} {maxSize : Nat}
    (h : f.maybeSplitOffFrame maxSize = .ok (some sf, f')) : f'.data.length < f.data.length := by
  unfold maybeSplitOffFrame at h
  obtain ⟨l, -, h⟩ := bind_eq_ok.1 h
  -- the frame fits: nothing is split off
  split at h
  · cases h
  obtain ⟨n, -, h⟩ := bind_eq_ok.1 h
  split at h
  · cases h
  case isFalse hn =>
    obtain ⟨d, -, h⟩ := bind_eq_ok.1 h
    obtain ⟨d', hd', h⟩ := bind_eq_ok.1 h
    cases h
    obtain ⟨hle, rfl⟩ := sliceFrom_eq_ok.1 hd'
    rw [List.length_drop]
    omega

end StreamFrame

namespace CryptoFrame

theorem length_eq {c : CryptoFrame} (hoff : c.offset + c.data.length ≤ maxVarInt8) :
    c.length = .ok (1 + (varIntBytes c.offset).length + (varIntBytes c.data.length).length +
      c.data.length) := by
  simp [CryptoFrame.length, varIntLen_eq_length (show c.offset ≤ maxVarInt8 by omega),
    varIntLen_eq_length (show c.data.length ≤ maxVarInt8 by omega), bind, Except.bind, pure,
    Except.pure]

theorem maxDataLen_eq {c : CryptoFrame} {maxSize : Nat} (ho : c.offset ≤ maxVarInt8)
    (hmax : maxSize ≤ maxVarInt8) :
    c.maxDataLen maxSize = .ok
      (if 1 + (varIntBytes c.offset).length + 1 > maxSize then 0
      else if maxVarInt1 < maxSize - (1 + (varIntBytes c.offset).length + 1) then
        maxSize - (1 + (varIntBytes c.offset).length + 1) - 1
      else maxSize - (1 + (varIntBytes c.offset).length + 1)) := by
  unfold maxDataLen
  simp (disch := omega) [varIntLen_eq_length, bind, Except.bind, pure, Except.pure]
  split_ifs <;> first | rfl | omega

/-- A CRYPTO frame of `MaxDataLen(maxSize)` bytes, at the offset `MaxDataLen` saw,
fits into `maxSize` exactly while its length field needs at most two bytes. -/
theorem length_maxDataLen_le_iff {c : CryptoFrame} {maxSize n : Nat}
    (hoff : c.offset + c.data.length ≤ maxVarInt8) (hmax : maxSize ≤ maxVarInt8)
    (hn : c.maxDataLen maxSize = .ok n) (hd : c.data.length = n) (hpos : 0 < n) :
    ∃ L, c.length = .ok L ∧ (L ≤ maxSize ↔ n ≤ maxVarInt2) := by
  rw [maxDataLen_eq (by omega) hmax] at hn
  cases hn
  refine ⟨_, length_eq hoff, ?_⟩
  by_cases hh : 1 + (varIntBytes c.offset).length + 1 > maxSize
  · -- the header does not fit, and `MaxDataLen` returns 0
    rw [if_pos hh] at hpos
    exact absurd hpos (Nat.lt_irrefl 0)
  · rw [if_neg hh] at hd ⊢
    rw [hd]
    have key := StreamFrame.guessed_length_le_iff (1 + (varIntBytes c.offset).length)
      (maxSize - (1 + (varIntBytes c.offset).length + 1))
    rw [show 1 + (varIntBytes c.offset).length + 1 +
      (maxSize - (1 + (varIntBytes c.offset).length + 1)) = maxSize by omega] at key
    exact key

end CryptoFrame

/-- `MaybeSplitOffFrame` and the two `MaxDataLen`s, for numbers that fit into 62
bits: a frame that fits is left alone; "too small" comes exactly when not one byte
of data fits; otherwise the first `splitLen` bytes are split off, into a frame at
the old offset without FIN, and the frame keeps the rest at the offset after them,
and the frame split off fits into `maxSize` only while its length field is at most
two bytes long; with less data than `splitLen`, which needs a length field of four
bytes, the slicing panics.  A CRYPTO frame of `MaxDataLen` bytes fits under the same
condition. -/
theorem maybeSplitOffFrame_maxDataLen_spec {f : StreamFrame} {maxSize : Nat}
    (hsid : f.streamID ≤ maxVarInt8) (hoff : f.offset + f.data.length ≤ maxVarInt8)
    (hmax : maxSize ≤ maxVarInt8) :
    f.length = .ok f.wireLength ∧
    (f.wireLength ≤ maxSize → f.maybeSplitOffFrame maxSize = .ok (none, f)) ∧
    (maxSize < f.wireLength → maxSize ≤ f.splitHeaderLen →
      f.maybeSplitOffFrame maxSize = .error (.error "too small")) ∧
    (maxSize < f.wireLength → f.splitHeaderLen < maxSize → f.splitLen maxSize ≤ f.data.length →
      f.maybeSplitOffFrame maxSize =
        .ok (some (f.splitOff (f.splitLen maxSize)).1, (f.splitOff (f.splitLen maxSize)).2) ∧
      0 < f.splitLen maxSize ∧
      (f.splitOff (f.splitLen maxSize)).1.length =
        .ok (f.splitOff (f.splitLen maxSize)).1.wireLength ∧
      ((f.splitOff (f.splitLen maxSize)).1.wireLength ≤ maxSize ↔
        ¬ (f.dataLenPresent ∧ maxVarInt2 < f.splitLen maxSize))) ∧
    (maxSize < f.wireLength → f.splitHeaderLen < maxSize → f.data.length < f.splitLen maxSize →
      f.maybeSplitOffFrame maxSize = .error (.panic "slice bounds out of range") ∧
        f.dataLenPresent ∧ maxVarInt2 < f.data.length) ∧
    ∀ (c : CryptoFrame) (n : Nat), c.offset + c.data.length ≤ maxVarInt8 →
      c.maxDataLen maxSize = .ok n → c.data.length = n → 0 < n →
      ∃ L, c.length = .ok L ∧ (L ≤ maxSize ↔ n ≤ maxVarInt2) :=
  ⟨StreamFrame.length_eq_wireLength hsid hoff,
    StreamFrame.maybeSplitOffFrame_of_le hsid hoff,
    StreamFrame.maybeSplitOffFrame_too_small hsid hoff hmax,
    fun hlt hhdr hn => ⟨StreamFrame.maybeSplitOffFrame_split hsid hoff hmax hlt hhdr hn,
      StreamFrame.splitLen_pos hhdr, StreamFrame.length_splitOff hsid hoff hn,
      StreamFrame.wireLength_splitOff_le_iff (Nat.le_of_lt hhdr) hn⟩,
    StreamFrame.maybeSplitOffFrame_panics hsid hoff hmax,
    fun _ _ hc hn hd hpos => CryptoFrame.length_maxDataLen_le_iff hc hmax hn hd hpos⟩

/-- A frame of 20000 bytes on stream 0, with a length field, split for 18000 bytes:
the frame split off carries 17996 bytes behind a length field of four bytes, and is
18002 bytes long. -/
theorem maybeSplitOffFrame_two_bytes_over :
    (⟨0, true, true, 0, List.replicate 20000 0⟩ : StreamFrame).maybeSplitOffFrame 18000 =
        .ok (some ⟨0, false, true, 0, List.replicate 17996 0⟩,
          ⟨0, true, true, 17996, List.replicate 2004 0⟩) ∧
      (⟨0, false, true, 0, List.replicate 17996 0⟩ : StreamFrame).length = .ok 18002 := by
  obtain ⟨-, -, -, hsplit, -, -⟩ :=
    maybeSplitOffFrame_maxDataLen_spec (f := ⟨0, true, true, 0, List.replicate 20000 0⟩)
      (by decide) (by rw [List.length_replicate]; decide) (show 18000 ≤ maxVarInt8 by decide)
  have hsl : StreamFrame.splitLen ⟨0, true, true, 0, List.replicate 20000 0⟩ 18000 = 17996 := rfl
  have hw : StreamFrame.wireLength ⟨0, true, true, 0, List.replicate 20000 0⟩ = 20006 := by
    simp only [StreamFrame.wireLength, List.length_replicate]
    decide
  obtain ⟨hres, -, hlen, -⟩ := hsplit (by rw [hw]; decide) (by decide)
    (by rw [hsl, List.length_replicate]; decide)
  rw [hsl] at hres hlen
  simp only [StreamFrame.splitOff, List.take_replicate, List.drop_replicate] at hres hlen
  rw [show min 17996 20000 = 17996 from rfl, show 20000 - 17996 = 2004 from rfl,
    show 0 + 17996 = 17996 from rfl] at hres
  rw [show min 17996 20000 = 17996 from rfl] at hlen
  refine ⟨hres, ?_⟩
  rw [hlen]
  simp only [StreamFrame.wireLength, List.length_replicate]
  decide

end QuicFec
