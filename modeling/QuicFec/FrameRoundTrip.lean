import QuicFec.AckRoundTrip

/-! Frames read back.  For each frame type, the parser reads back what `Write`
wrote and stops right after it; `ParseNext` skips PADDING and hands the frame to
that parser.  Over a packet, frames written one after the other with PADDING
between them come back in order (`readsFrames_writeAll`), each writing the same
bytes again, and `Length` is the length of `Write` (`Frame.length_of_write`).
The STREAM frame is the exception: `Write` writes data that ends beyond
`MaxByteCount`, which the parser refuses (`parseNext_stream_overflow`). -/
namespace QuicFec
open GoBytes

/-! ## One frame type at a time -/

theorem parseResetStreamFrame_write {f : ResetStreamFrame} {w : Bytes} (hw : f.write = .ok w)
    (rest : Bytes) : parseResetStreamFrame (w ++ rest) = .ok (f, rest) := by
  simp only [ResetStreamFrame.write, bind_eq_ok, writeVarInt_eq_ok, pure_eq_ok, Except.ok.injEq] at hw
  obtain ⟨_, ⟨h1, rfl⟩, _, ⟨h2, rfl⟩, _, ⟨h3, rfl⟩, rfl⟩ := hw
  simp [parseResetStreamFrame, h1, h2, h3]

/-- The error code comes back as the `uint16` that was written. -/
theorem parseStopSendingFrame_write {f : StopSendingFrame} {w : Bytes} (hw : f.write = .ok w)
    (rest : Bytes) :
    parseStopSendingFrame (w ++ rest) = .ok (⟨f.streamID, f.errorCode % 2 ^ 16⟩, rest) := by
  simp only [StopSendingFrame.write, bind_eq_ok, writeVarInt_eq_ok, pure_eq_ok, Except.ok.injEq] at hw
  obtain ⟨_, ⟨h1, rfl⟩, rfl⟩ := hw
  simp [parseStopSendingFrame, h1, Nat.mod_lt]

theorem parseCryptoFrame_write {f : CryptoFrame} {w : Bytes} (hw : f.write = .ok w)
    (rest : Bytes) : parseCryptoFrame (w ++ rest) = .ok (f, rest) := by
  simp only [CryptoFrame.write, bind_eq_ok, writeVarInt_eq_ok, pure_eq_ok, Except.ok.injEq] at hw
  obtain ⟨_, ⟨h1, rfl⟩, _, ⟨h2, rfl⟩, rfl⟩ := hw
  simp [parseCryptoFrame, h1, h2]

theorem parseNewTokenFrame_write {f : NewTokenFrame} {w : Bytes} (hw : f.write = .ok w)
    (rest : Bytes) : parseNewTokenFrame (w ++ rest) = .ok (f, rest) := by
  simp only [NewTokenFrame.write, bind_eq_ok, writeVarInt_eq_ok, pure_eq_ok, Except.ok.injEq] at hw
  obtain ⟨_, ⟨h1, rfl⟩, rfl⟩ := hw
  simp [parseNewTokenFrame, h1]

/-- The type byte of a STREAM frame announces its FIN bit and which optional
fields follow. -/
theorem StreamFrame.typeByte_bits (f : StreamFrame) :
    f.typeByte &&& 0xf8 = 0x8 ∧ (f.typeByte &&& 0x4 > 0 ↔ f.offset ≠ 0) ∧
      decide (f.typeByte &&& 0x1 > 0) = f.finBit ∧
      (f.typeByte &&& 0x2 > 0 ↔ f.dataLenPresent = true) := by
  unfold StreamFrame.typeByte
  cases f.finBit <;> cases f.dataLenPresent <;> by_cases h : f.offset ≠ 0 <;> simp [h] <;> decide

/-- What `Write` puts on the wire for a STREAM frame it accepts. -/
theorem StreamFrame.write_eq_ok {f : StreamFrame} {w : Bytes} (hw : f.write = .ok w) :
    f.streamID ≤ maxVarInt8 ∧ f.offset ≤ maxVarInt8 ∧
      (f.dataLenPresent = true → f.data.length ≤ maxVarInt8) ∧
      w = [f.typeByte] ++ varIntBytes f.streamID ++ (if f.offset = 0 then [] else varIntBytes f.offset) ++
        (if f.dataLenPresent then varIntBytes f.data.length else []) ++ f.data := by
  have he : ¬ (f.data = [] ∧ f.finBit = false) := by
    intro h
    simp [StreamFrame.write, h] at hw
  obtain ⟨sid, fin, dlp, off, data⟩ := f
  -- one case for each shape of the frame: offset field or not, length field or not
  rcases Nat.eq_zero_or_pos off with rfl | hoff <;> cases dlp <;>
    simp [StreamFrame.write, bind_eq_ok, writeVarInt_eq_ok, Nat.pos_iff_ne_zero.mp, *] at hw ⊢
  all_goals grind

/-- A STREAM frame reads back when its data ends at `MaxByteCount` at the latest;
without a length field it takes the rest of the packet, so nothing may follow. -/
theorem parseStreamFrame_write {f : StreamFrame} {w : Bytes} (hw : f.write = .ok w)
    (hmax : f.offset + f.data.length ≤ MaxByteCount) (rest : Bytes)
    (hrest : f.dataLenPresent = true ∨ rest = []) : parseStreamFrame (w ++ rest) = .ok (f, rest) := by
  obtain ⟨h1, h2, h3, rfl⟩ := StreamFrame.write_eq_ok hw
  obtain ⟨-, hoff, hfin, hdl⟩ := f.typeByte_bits
  obtain ⟨sid, fin, dlp, off, data⟩ := f
  dsimp only at *
  have hfits : ¬ MaxByteCount < off + data.length := Nat.not_lt.mpr hmax
  have hshort : ¬ data.length + rest.length < data.length := by omega
  cases dlp
  · obtain rfl : rest = [] := by simpa using hrest
    have hread : readFull data.length data = .ok (data, []) := by
      simpa using @readFull_append data []
    rcases Nat.eq_zero_or_pos off with rfl | ho
    · rw [Nat.zero_add] at hfits
      simp [parseStreamFrame, h1, hoff, hfin, hdl, hread, hfits]
    · simp [parseStreamFrame, Nat.pos_iff_ne_zero.mp ho, h1, h2, hoff, hfin, hdl, hread, hfits]
  · rcases Nat.eq_zero_or_pos off with rfl | ho
    · rw [Nat.zero_add] at hfits
      simp [parseStreamFrame, h1, h3, hoff, hfin, hdl, hfits, hshort]
    · simp [parseStreamFrame, Nat.pos_iff_ne_zero.mp ho, h1, h2, h3, hoff, hfin, hdl, hfits, hshort]

theorem parseMaxDataFrame_write {f : MaxDataFrame} {w : Bytes} (hw : f.write = .ok w)
    (rest : Bytes) : parseMaxDataFrame (w ++ rest) = .ok (f, rest) := by
  simp only [MaxDataFrame.write, bind_eq_ok, writeVarInt_eq_ok, pure_eq_ok, Except.ok.injEq] at hw
  obtain ⟨_, ⟨h1, rfl⟩, rfl⟩ := hw
  simp [parseMaxDataFrame, h1]

theorem parseMaxStreamDataFrame_write {f : MaxStreamDataFrame} {w : Bytes} (hw : f.write = .ok w)
    (rest : Bytes) : parseMaxStreamDataFrame (w ++ rest) = .ok (f, rest) := by
  simp only [MaxStreamDataFrame.write, bind_eq_ok, writeVarInt_eq_ok, pure_eq_ok, Except.ok.injEq] at hw
  obtain ⟨_, ⟨h1, rfl⟩, _, ⟨h2, rfl⟩, rfl⟩ := hw
  simp [parseMaxStreamDataFrame, h1, h2]

theorem parseMaxStreamsFrame_write {f : MaxStreamsFrame} {w : Bytes} (hw : f.write = .ok w)
    (rest : Bytes) : parseMaxStreamsFrame (w ++ rest) = .ok (f, rest) := by
  obtain ⟨type, num⟩ := f
  cases type <;>
    simp only [MaxStreamsFrame.write, bind_eq_ok, writeVarInt_eq_ok, pure_eq_ok, Except.ok.injEq] at hw <;>
    obtain ⟨_, ⟨h1, rfl⟩, rfl⟩ := hw <;>
    simp [parseMaxStreamsFrame, h1]

theorem parseDataBlockedFrame_write {f : DataBlockedFrame} {w : Bytes} (hw : f.write = .ok w)
    (rest : Bytes) : parseDataBlockedFrame (w ++ rest) = .ok (f, rest) := by
  simp only [DataBlockedFrame.write, bind_eq_ok, writeVarInt_eq_ok, pure_eq_ok, Except.ok.injEq] at hw
  obtain ⟨_, ⟨h1, rfl⟩, rfl⟩ := hw
  simp [parseDataBlockedFrame, h1]

theorem parseStreamDataBlockedFrame_write {f : StreamDataBlockedFrame} {w : Bytes}
    (hw : f.write = .ok w) (rest : Bytes) : parseStreamDataBlockedFrame (w ++ rest) = .ok (f, rest) := by
  simp only [StreamDataBlockedFrame.write, bind_eq_ok, writeVarInt_eq_ok, pure_eq_ok,
    Except.ok.injEq] at hw
  obtain ⟨_, ⟨h1, rfl⟩, _, ⟨h2, rfl⟩, rfl⟩ := hw
  simp [parseStreamDataBlockedFrame, h1, h2]

theorem parseStreamsBlockedFrame_write {f : StreamsBlockedFrame} {w : Bytes} (hw : f.write = .ok w)
    (rest : Bytes) : parseStreamsBlockedFrame (w ++ rest) = .ok (f, rest) := by
  obtain ⟨type, limit⟩ := f
  cases type <;>
    simp only [StreamsBlockedFrame.write, bind_eq_ok, writeVarInt_eq_ok, pure_eq_ok,
      Except.ok.injEq] at hw <;>
    obtain ⟨_, ⟨h1, rfl⟩, rfl⟩ := hw <;>
    simp [parseStreamsBlockedFrame, h1]

theorem parseNewConnectionIDFrame_write {f : NewConnectionIDFrame} {w : Bytes} (hw : f.write = .ok w)
    (rest : Bytes) : parseNewConnectionIDFrame (w ++ rest) = .ok (f, rest) := by
  simp only [NewConnectionIDFrame.write, bind_eq_ok, writeVarInt_eq_ok] at hw
  obtain ⟨_, ⟨h1, rfl⟩, _, ⟨h2, rfl⟩, hw⟩ := hw
  split at hw
  · cases hw
  rename_i hlen
  simp only [pure_eq_ok, Except.ok.injEq] at hw
  subst hw
  have hl : (UInt8.ofNat f.connectionID.length).toNat = f.connectionID.length := by
    rw [UInt8.toNat_ofNat', Nat.mod_eq_of_lt (by omega)]
  have hc : ¬ (UInt8.ofNat f.connectionID.length < 4 ∨ UInt8.ofNat f.connectionID.length > 18) := by
    simp only [UInt8.lt_iff_toNat_lt, hl, UInt8.toNat_ofNat, gt_iff_lt]
    omega
  have hcid : readConnectionID (f.connectionID ++ (f.statelessResetToken.toList ++ rest))
      f.connectionID.length = .ok (f.connectionID, f.statelessResetToken.toList ++ rest) := by
    simp [readConnectionID, show f.connectionID.length ≠ 0 by omega]
  have htok : readFull 16 (f.statelessResetToken.toList ++ rest) = .ok (f.statelessResetToken.toList, rest) :=
    readFull_append_of_length rest (by simp)
  simp [parseNewConnectionIDFrame, h1, h2, hc, hl, hcid, htok]

theorem parseRetireConnectionIDFrame_write {f : RetireConnectionIDFrame} {w : Bytes}
    (hw : f.write = .ok w) (rest : Bytes) :
    parseRetireConnectionIDFrame (w ++ rest) = .ok (f, rest) := by
  simp only [RetireConnectionIDFrame.write, bind_eq_ok, writeVarInt_eq_ok, pure_eq_ok,
    Except.ok.injEq] at hw
  obtain ⟨_, ⟨h1, rfl⟩, rfl⟩ := hw
  simp [parseRetireConnectionIDFrame, h1]

theorem parsePathData_write (t : UInt8) (data : Vector UInt8 8) (rest : Bytes) :
    parsePathData (t :: (data.toList ++ rest)) = .ok (data, rest) := by
  have hread : readFull 8 (data.toList ++ rest) = .ok (data.toList, rest) :=
    readFull_append_of_length rest (by simp)
  simp [parsePathData, hread]

theorem parseConnectionCloseFrame_write {f : ConnectionCloseFrame} {w : Bytes} (hw : f.write = .ok w)
    (rest : Bytes) : parseConnectionCloseFrame (w ++ rest) = .ok (f, rest) := by
  obtain ⟨app, ec, reason⟩ := f
  cases app
  · -- a transport error: the frame type field, written as 0, is read and dropped
    simp only [ConnectionCloseFrame.write, bind_eq_ok, writeVarInt_eq_ok, pure_eq_ok, Except.ok.injEq,
      Bool.false_eq_true, if_false] at hw
    obtain ⟨_, ⟨h1, rfl⟩, _, ⟨-, rfl⟩, _, ⟨h2, rfl⟩, rfl⟩ := hw
    simp [parseConnectionCloseFrame, h1, h2]
  · simp only [ConnectionCloseFrame.write, bind_eq_ok, writeVarInt_eq_ok, pure_eq_ok, Except.ok.injEq,
      if_true] at hw
    obtain ⟨_, ⟨h1, rfl⟩, _, rfl, _, ⟨h2, rfl⟩, rfl⟩ := hw
    simp [parseConnectionCloseFrame, h1, h2]

theorem parseFECSrcFPIFrame_write (f : FECSrcFPIFrame) (rest : Bytes) :
    parseFECSrcFPIFrame (f.write ++ rest) = .ok (f, rest) := by
  have hread : readInto 4 (f.sourceFECPayloadID.toList ++ rest) =
      .ok (f.sourceFECPayloadID.toList, rest) := by
    have h := @readInto_append f.sourceFECPayloadID.toList (by simp) rest
    simpa using h
  simp [FECSrcFPIFrame.write, parseFECSrcFPIFrame, hread]

/-! ## `Length` -/

theorem StreamFrame.length_of_write {f : StreamFrame} {w : Bytes} (hw : f.write = .ok w) :
    f.length = .ok w.length := by
  obtain ⟨h1, h2, h3, rfl⟩ := StreamFrame.write_eq_ok hw
  obtain ⟨sid, fin, dlp, off, data⟩ := f
  dsimp only at *
  cases dlp
  · rcases Nat.eq_zero_or_pos off with rfl | ho <;>
      simp [StreamFrame.length, varIntLen_eq_length h1, varIntLen_eq_length h2, Nat.pos_iff_ne_zero.mp, *] <;>
      omega
  · have h3 := varIntLen_eq_length (h3 rfl)
    rcases Nat.eq_zero_or_pos off with rfl | ho <;>
      simp [StreamFrame.length, varIntLen_eq_length h1, varIntLen_eq_length h2, Nat.pos_iff_ne_zero.mp, *] <;>
      omega

theorem NewConnectionIDFrame.length_of_write {f : NewConnectionIDFrame} {w : Bytes} (hw : f.write = .ok w) :
    f.length = .ok w.length := by
  simp only [NewConnectionIDFrame.write, bind_eq_ok, writeVarInt_eq_ok] at hw
  obtain ⟨_, ⟨h1, rfl⟩, _, ⟨h2, rfl⟩, hw⟩ := hw
  split at hw
  · cases hw
  simp only [pure_eq_ok, Except.ok.injEq] at hw
  subst hw
  simp [NewConnectionIDFrame.length, varIntLen_eq_length h1, varIntLen_eq_length h2]
  omega

theorem ConnectionCloseFrame.length_of_write {f : ConnectionCloseFrame} {w : Bytes} (hw : f.write = .ok w) :
    f.length = .ok w.length := by
  obtain ⟨app, ec, reason⟩ := f
  cases app
  · simp only [ConnectionCloseFrame.write, bind_eq_ok, writeVarInt_eq_ok, pure_eq_ok, Except.ok.injEq,
      Bool.false_eq_true, if_false] at hw
    obtain ⟨_, ⟨h1, rfl⟩, _, ⟨-, rfl⟩, _, ⟨h2, rfl⟩, rfl⟩ := hw
    simp [ConnectionCloseFrame.length, varIntLen_eq_length h1, varIntLen_eq_length h2, varIntBytes,
      maxVarInt1]
    omega
  · simp only [ConnectionCloseFrame.write, bind_eq_ok, writeVarInt_eq_ok, pure_eq_ok, Except.ok.injEq,
      if_true] at hw
    obtain ⟨_, ⟨h1, rfl⟩, _, rfl, _, ⟨h2, rfl⟩, rfl⟩ := hw
    simp [ConnectionCloseFrame.length, varIntLen_eq_length h1, varIntLen_eq_length h2]
    omega

/-- `Length` is the length of what `Write` writes, for every frame `Write` accepts. -/
theorem Frame.length_of_write {f : Frame} {w : Bytes} (hw : f.write = .ok w) : f.length = .ok w.length := by
  cases f with
  | ack f => exact AckFrame.length_of_write hw
  | stream f => exact StreamFrame.length_of_write hw
  | newConnectionID f => exact NewConnectionIDFrame.length_of_write hw
  | connectionClose f => exact ConnectionCloseFrame.length_of_write hw
  | ping | pathChallenge | pathResponse | fecSrcFPI | repair | recovered =>
    simp only [Frame.write, Except.ok.injEq] at hw
    subst hw
    simp [Frame.length, FECSrcFPIFrame.length, FECSrcFPIFrame.write, RepairFrame.length, RepairFrame.write,
      RecoveredFrame.length, RecoveredFrame.write]
    all_goals omega
  | resetStream f =>
    simp only [Frame.write, ResetStreamFrame.write, bind_eq_ok, writeVarInt_eq_ok, pure_eq_ok, Except.ok.injEq] at hw
    obtain ⟨_, ⟨h1, rfl⟩, _, ⟨h2, rfl⟩, _, ⟨h3, rfl⟩, rfl⟩ := hw
    simp [Frame.length, ResetStreamFrame.length, varIntLen_eq_length h1, varIntLen_eq_length h2, varIntLen_eq_length h3]
    omega
  | stopSending f =>
    simp only [Frame.write, StopSendingFrame.write, bind_eq_ok, writeVarInt_eq_ok, pure_eq_ok, Except.ok.injEq] at hw
    obtain ⟨_, ⟨h1, rfl⟩, rfl⟩ := hw
    simp [Frame.length, StopSendingFrame.length, varIntLen_eq_length h1]
    omega
  | crypto f =>
    simp only [Frame.write, CryptoFrame.write, bind_eq_ok, writeVarInt_eq_ok, pure_eq_ok, Except.ok.injEq] at hw
    obtain ⟨_, ⟨h1, rfl⟩, _, ⟨h2, rfl⟩, rfl⟩ := hw
    simp [Frame.length, CryptoFrame.length, varIntLen_eq_length h1, varIntLen_eq_length h2]
    omega
  | newToken f =>
    simp only [Frame.write, NewTokenFrame.write, bind_eq_ok, writeVarInt_eq_ok, pure_eq_ok, Except.ok.injEq] at hw
    obtain ⟨_, ⟨h1, rfl⟩, rfl⟩ := hw
    simp [Frame.length, NewTokenFrame.length, varIntLen_eq_length h1]
    omega
  | maxData f =>
    simp only [Frame.write, MaxDataFrame.write, bind_eq_ok, writeVarInt_eq_ok, pure_eq_ok, Except.ok.injEq] at hw
    obtain ⟨_, ⟨h1, rfl⟩, rfl⟩ := hw
    simp [Frame.length, MaxDataFrame.length, varIntLen_eq_length h1]
    omega
  | maxStreamData f =>
    simp only [Frame.write, MaxStreamDataFrame.write, bind_eq_ok, writeVarInt_eq_ok, pure_eq_ok, Except.ok.injEq] at hw
    obtain ⟨_, ⟨h1, rfl⟩, _, ⟨h2, rfl⟩, rfl⟩ := hw
    simp [Frame.length, MaxStreamDataFrame.length, varIntLen_eq_length h1, varIntLen_eq_length h2]
    omega
  | dataBlocked f =>
    simp only [Frame.write, DataBlockedFrame.write, bind_eq_ok, writeVarInt_eq_ok, pure_eq_ok, Except.ok.injEq] at hw
    obtain ⟨_, ⟨h1, rfl⟩, rfl⟩ := hw
    simp [Frame.length, DataBlockedFrame.length, varIntLen_eq_length h1]
    omega
  | streamDataBlocked f =>
    simp only [Frame.write, StreamDataBlockedFrame.write, bind_eq_ok, writeVarInt_eq_ok, pure_eq_ok, Except.ok.injEq] at hw
    obtain ⟨_, ⟨h1, rfl⟩, _, ⟨h2, rfl⟩, rfl⟩ := hw
    simp [Frame.length, StreamDataBlockedFrame.length, varIntLen_eq_length h1, varIntLen_eq_length h2]
    omega
  | retireConnectionID f =>
    simp only [Frame.write, RetireConnectionIDFrame.write, bind_eq_ok, writeVarInt_eq_ok, pure_eq_ok, Except.ok.injEq] at hw
    obtain ⟨_, ⟨h1, rfl⟩, rfl⟩ := hw
    simp [Frame.length, RetireConnectionIDFrame.length, varIntLen_eq_length h1]
    omega
  | maxStreams f =>
    obtain ⟨type, n⟩ := f
    cases type <;>
      simp only [Frame.write, MaxStreamsFrame.write, bind_eq_ok, writeVarInt_eq_ok, pure_eq_ok, Except.ok.injEq] at hw <;>
      obtain ⟨_, ⟨h1, rfl⟩, rfl⟩ := hw <;>
      simp [Frame.length, MaxStreamsFrame.length, varIntLen_eq_length h1] <;>
      omega
  | streamsBlocked f =>
    obtain ⟨type, n⟩ := f
    cases type <;>
      simp only [Frame.write, StreamsBlockedFrame.write, bind_eq_ok, writeVarInt_eq_ok, pure_eq_ok, Except.ok.injEq] at hw <;>
      obtain ⟨_, ⟨h1, rfl⟩, rfl⟩ := hw <;>
      simp [Frame.length, StreamsBlockedFrame.length, varIntLen_eq_length h1] <;>
      omega

/-! ## `ParseNext` -/

namespace FrameParser

theorem parseNext_replicate (p : FrameParser) (lvl : EncryptionLevel) (k : Nat) (r : Bytes) :
    p.parseNext lvl (List.replicate k 0 ++ r) = p.parseNext lvl r := by
  induction k with
  | zero => rfl
  | succ k ih => simp [List.replicate_succ, parseNext, ih]

/-- At 1-RTT every frame is allowed, so `parseFrame` is its type switch. -/
theorem parseFrame_oneRTT (p : FrameParser) (r : Bytes) (t : UInt8) :
    p.parseFrame r t .oneRTT = p.parseFrameType r t .oneRTT := by
  unfold parseFrame
  cases p.parseFrameType r t .oneRTT with
  | error e => rfl
  | ok res => simp [isAllowedAtEncLevel]

theorem parseNext_of_parseFrameType {p : FrameParser} {t : UInt8} {r : Bytes} {res : Option Frame × Bytes}
    (ht : t ≠ 0) (h : p.parseFrameType (t :: r) t .oneRTT = .ok res) :
    p.parseNext .oneRTT (t :: r) = .ok res := by
  simp [parseNext, ht, parseFrame_oneRTT, h]

end FrameParser

/-- The type byte each frame's `Write` starts with. -/
def Frame.wireType : Frame → UInt8
  | .ping => 0x1
  | .ack _ => 0x2
  | .resetStream _ => 0x4
  | .stopSending _ => 0x5
  | .crypto _ => 0x6
  | .newToken _ => 0x7
  | .stream f => f.typeByte
  | .maxData _ => 0x10
  | .maxStreamData _ => 0x11
  | .maxStreams f => match f.type with
    | .bidi => 0x12
    | .uni => 0x13
  | .dataBlocked _ => 0x14
  | .streamDataBlocked _ => 0x15
  | .streamsBlocked f => match f.type with
    | .bidi => 0x16
    | .uni => 0x17
  | .newConnectionID _ => 0x18
  | .retireConnectionID _ => 0x19
  | .pathChallenge _ => 0x1a
  | .pathResponse _ => 0x1b
  | .connectionClose f => if f.isApplicationError then 0x1d else 0x1c
  | .fecSrcFPI _ => FEC_SRC_FPI_FRAME_TYPE
  | .repair _ => REPAIR_FRAME_TYPE
  | .recovered _ => RECOVERED_FRAME_TYPE

theorem Frame.wireType_ne_zero (f : Frame) : f.wireType ≠ 0 := by
  cases f with
  | stream f =>
    -- a STREAM type byte has the 0x08 bit set
    intro h
    have := (StreamFrame.typeByte_bits f).1
    simp only [wireType] at h
    rw [h] at this
    exact absurd this (by decide)
  | maxStreams f => cases h : f.type <;> simp [wireType, h]
  | streamsBlocked f => cases h : f.type <;> simp [wireType, h]
  | connectionClose f => cases h : f.isApplicationError <;> simp [wireType, h]
  | _ => simp [wireType, FEC_SRC_FPI_FRAME_TYPE, REPAIR_FRAME_TYPE, RECOVERED_FRAME_TYPE]

theorem Frame.write_head {f : Frame} {w : Bytes} (hw : f.write = .ok w) : w = f.wireType :: w.tail := by
  cases f with
  | ack f =>
    have h0 : 0 < f.ackRanges.length := by
      rcases Nat.eq_zero_or_pos f.ackRanges.length with h | h
      · simp [Frame.write, AckFrame.write, AckFrame.largestAcked, index, List.length_eq_zero_iff.mp h] at hw
      · exact h
    simp only [Frame.write, AckFrame.write, AckFrame.largestAcked_eq h0, AckFrame.encodeAckRange_zero h0,
      ok_bind, bind_eq_ok, pure_eq_ok, Except.ok.injEq] at hw
    obtain ⟨_, -, _, -, _, -, _, -, _, -, _, -, rfl⟩ := hw
    rfl
  | stream f =>
    obtain ⟨-, -, -, rfl⟩ := StreamFrame.write_eq_ok hw
    rfl
  | maxStreams f =>
    obtain ⟨type, n⟩ := f
    cases type <;> simp [Frame.write, MaxStreamsFrame.write, bind_eq_ok] at hw <;>
      obtain ⟨_, -, rfl⟩ := hw <;> rfl
  | streamsBlocked f =>
    obtain ⟨type, n⟩ := f
    cases type <;> simp [Frame.write, StreamsBlockedFrame.write, bind_eq_ok] at hw <;>
      obtain ⟨_, -, rfl⟩ := hw <;> rfl
  | newConnectionID f =>
    simp only [Frame.write, NewConnectionIDFrame.write, bind_eq_ok] at hw
    obtain ⟨_, -, _, -, hw⟩ := hw
    split at hw
    · cases hw
    · cases hw
      rfl
  | connectionClose f =>
    obtain ⟨app, ec, reason⟩ := f
    cases app <;> simp [Frame.write, ConnectionCloseFrame.write, bind_eq_ok] at hw <;>
      obtain ⟨_, -, _, -, rfl⟩ := hw <;> rfl
  | _ =>
    simp [Frame.write, ResetStreamFrame.write, StopSendingFrame.write, CryptoFrame.write, NewTokenFrame.write,
      MaxDataFrame.write, MaxStreamDataFrame.write, DataBlockedFrame.write, StreamDataBlockedFrame.write,
      RetireConnectionIDFrame.write, FECSrcFPIFrame.write, RepairFrame.write, RecoveredFrame.write,
      bind_eq_ok] at hw
    all_goals grind [Frame.wireType]

theorem FrameParser.parseNext_write_of {p : FrameParser} {f : Frame} {w rest : Bytes}
    {res : Option Frame × Bytes} (hw : f.write = .ok w)
    (h : p.parseFrameType (w ++ rest) f.wireType .oneRTT = .ok res) :
    p.parseNext .oneRTT (w ++ rest) = .ok res := by
  rw [Frame.write_head hw, List.cons_append] at h ⊢
  exact parseNext_of_parseFrameType f.wireType_ne_zero h

/-- What the round trip asks of a frame besides `Write` accepting it: an ACK frame
is valid, and a STREAM frame's data ends at `MaxByteCount` at the latest.  REPAIR
and RECOVERED frames are written by the FEC framework in its own format. -/
def Frame.RoundTrips : Frame → Prop
  | .ack f => f.Valid
  | .stream f => f.offset + f.data.length ≤ MaxByteCount
  | .repair _ | .recovered _ => False
  | _ => True

/-- A frame that a parser can find the end of: all but a STREAM frame without
its length field. -/
def Frame.LengthPresent : Frame → Bool
  | .stream f => f.dataLenPresent
  | _ => true

/-- How the frame read back relates to the frame written, beyond writing the same
bytes: an ACK frame comes back cut to `numEncodableAckRanges` ranges and with its
delay rounded down to 8 µs. -/
def Frame.Reparsed : Frame → Frame → Prop
  | .ack f, g => ∃ n, f.numEncodableAckRanges = .ok n ∧ g = .ack (f.asParsed n)
  | _, _ => True

theorem StopSendingFrame.write_mod (f : StopSendingFrame) :
    StopSendingFrame.write ⟨f.streamID, f.errorCode % 2 ^ 16⟩ = f.write := by
  simp [StopSendingFrame.write]

/-- **One frame read back**: `ParseNext` at 1-RTT returns a frame that writes the
same bytes, and leaves the reader right after them. -/
theorem parseNext_write {p : FrameParser} (hp : p.ackDelayExponent = AckDelayExponent) {f : Frame}
    (hf : f.RoundTrips) {w : Bytes} (hw : f.write = .ok w) (rest : Bytes)
    (hrest : f.LengthPresent = true ∨ rest = []) :
    ∃ g, p.parseNext .oneRTT (w ++ rest) = .ok (some g, rest) ∧ g.write = .ok w ∧ f.Reparsed g := by
  cases f with
  | ping =>
    cases hw
    exact ⟨.ping, rfl, rfl, trivial⟩
  | ack f =>
    obtain ⟨n, hn, hn0, hparse⟩ := AckFrame.parseAckFrame_write hf hw rest
    refine ⟨.ack (f.asParsed n), FrameParser.parseNext_write_of hw ?_, ?_, n, hn, rfl⟩
    · simp +decide [FrameParser.parseFrameType, Frame.wireType, hp, hparse]
    · simpa [Frame.write, AckFrame.write_asParsed hf hn hn0] using hw
  | resetStream f =>
    refine ⟨.resetStream f, FrameParser.parseNext_write_of hw ?_, hw, trivial⟩
    simp +decide [FrameParser.parseFrameType, Frame.wireType, parseResetStreamFrame_write hw rest]
  | crypto f =>
    refine ⟨.crypto f, FrameParser.parseNext_write_of hw ?_, hw, trivial⟩
    simp +decide [FrameParser.parseFrameType, Frame.wireType, parseCryptoFrame_write hw rest]
  | newToken f =>
    refine ⟨.newToken f, FrameParser.parseNext_write_of hw ?_, hw, trivial⟩
    simp +decide [FrameParser.parseFrameType, Frame.wireType, parseNewTokenFrame_write hw rest]
  | maxData f =>
    refine ⟨.maxData f, FrameParser.parseNext_write_of hw ?_, hw, trivial⟩
    simp +decide [FrameParser.parseFrameType, Frame.wireType, parseMaxDataFrame_write hw rest]
  | maxStreamData f =>
    refine ⟨.maxStreamData f, FrameParser.parseNext_write_of hw ?_, hw, trivial⟩
    simp +decide [FrameParser.parseFrameType, Frame.wireType, parseMaxStreamDataFrame_write hw rest]
  | dataBlocked f =>
    refine ⟨.dataBlocked f, FrameParser.parseNext_write_of hw ?_, hw, trivial⟩
    simp +decide [FrameParser.parseFrameType, Frame.wireType, parseDataBlockedFrame_write hw rest]
  | streamDataBlocked f =>
    refine ⟨.streamDataBlocked f, FrameParser.parseNext_write_of hw ?_, hw, trivial⟩
    simp +decide [FrameParser.parseFrameType, Frame.wireType, parseStreamDataBlockedFrame_write hw rest]
  | newConnectionID f =>
    refine ⟨.newConnectionID f, FrameParser.parseNext_write_of hw ?_, hw, trivial⟩
    simp +decide [FrameParser.parseFrameType, Frame.wireType, parseNewConnectionIDFrame_write hw rest]
  | retireConnectionID f =>
    refine ⟨.retireConnectionID f, FrameParser.parseNext_write_of hw ?_, hw, trivial⟩
    simp +decide [FrameParser.parseFrameType, Frame.wireType, parseRetireConnectionIDFrame_write hw rest]
  | stopSending f =>
    -- the error code comes back as the `uint16` that was written
    refine ⟨.stopSending ⟨f.streamID, f.errorCode % 2 ^ 16⟩, FrameParser.parseNext_write_of hw ?_, ?_, trivial⟩
    · simp +decide [FrameParser.parseFrameType, Frame.wireType, parseStopSendingFrame_write hw rest]
    · show StopSendingFrame.write _ = _
      rw [StopSendingFrame.write_mod]
      exact hw
  | stream f =>
    refine ⟨.stream f, FrameParser.parseNext_write_of hw ?_, hw, trivial⟩
    simp [FrameParser.parseFrameType, Frame.wireType, (StreamFrame.typeByte_bits f).1,
      parseStreamFrame_write hw hf rest hrest]
  | maxStreams f =>
    refine ⟨.maxStreams f, FrameParser.parseNext_write_of hw ?_, hw, trivial⟩
    obtain ⟨type, n⟩ := f
    cases type <;>
      simp +decide [FrameParser.parseFrameType, Frame.wireType, parseMaxStreamsFrame_write hw rest]
  | streamsBlocked f =>
    refine ⟨.streamsBlocked f, FrameParser.parseNext_write_of hw ?_, hw, trivial⟩
    obtain ⟨type, n⟩ := f
    cases type <;>
      simp +decide [FrameParser.parseFrameType, Frame.wireType, parseStreamsBlockedFrame_write hw rest]
  | connectionClose f =>
    refine ⟨.connectionClose f, FrameParser.parseNext_write_of hw ?_, hw, trivial⟩
    obtain ⟨app, ec, reason⟩ := f
    cases app <;>
      simp +decide [FrameParser.parseFrameType, Frame.wireType, parseConnectionCloseFrame_write hw rest]
  | pathChallenge f =>
    refine ⟨.pathChallenge f, FrameParser.parseNext_write_of hw ?_, hw, trivial⟩
    simp only [Frame.write, Except.ok.injEq] at hw
    subst hw
    simp +decide [FrameParser.parseFrameType, Frame.wireType, parsePathData_write]
  | pathResponse f =>
    refine ⟨.pathResponse f, FrameParser.parseNext_write_of hw ?_, hw, trivial⟩
    simp only [Frame.write, Except.ok.injEq] at hw
    subst hw
    simp +decide [FrameParser.parseFrameType, Frame.wireType, parsePathData_write]
  | fecSrcFPI f =>
    refine ⟨.fecSrcFPI f, FrameParser.parseNext_write_of hw ?_, hw, trivial⟩
    simp only [Frame.write, Except.ok.injEq] at hw
    subst hw
    simp +decide [FrameParser.parseFrameType, Frame.wireType, FEC_SRC_FPI_FRAME_TYPE,
      parseFECSrcFPIFrame_write f rest]
  | repair f => exact hf.elim
  | recovered f => exact hf.elim

/-! ## When `ParseNext` returns no frame -/

/-- Without an FEC frames parser, `ParseNext` stops in front of a RECOVERED frame
and returns no frame, as at the end of the packet; and a FEC_SRC_FPI frame cut
short after one byte of its ID comes back, zero-filled, after two of the five
bytes its `Length` counts. -/
theorem parseNext_stops_early :
    (FrameParser.mk AckDelayExponent none).parseNext .oneRTT [0x23] = .ok (none, [0x23]) ∧
      (FrameParser.mk AckDelayExponent none).parseNext .oneRTT [0x21, 7] =
        .ok (some (.fecSrcFPI ⟨fixedArray 4 [7]⟩), []) ∧
      (Frame.fecSrcFPI ⟨fixedArray 4 [7]⟩).length = .ok 5 := by
  refine ⟨by decide, by decide, rfl⟩


/-! ## A packet of frames -/

theorem FrameParser.ReadsFrames.parseNext_ok {p : FrameParser} {lvl : EncryptionLevel} {r : Bytes}
    {gs : List Frame} (h : p.ReadsFrames lvl r gs) : ∃ res, p.parseNext lvl r = .ok res := by
  cases h with
  | done h => exact ⟨_, h⟩
  | next h _ => exact ⟨_, h⟩

/-- The bytes of a packet: each frame's encoding, with PADDING bytes in front of it. -/
def paddedFrames (pads : List Nat) (ws : List Bytes) : Bytes :=
  (List.zipWith (fun k w => List.replicate k 0 ++ w) pads ws).flatten

private theorem mem_dropLast_cons {α : Type} {a b : α} {l : List α} (h : b ∈ l.dropLast) :
    b ∈ (a :: l).dropLast := by
  cases l with
  | nil => simp at h
  | cons c l => exact List.mem_cons_of_mem a h

/-- **Frames read back**: written one after the other, with any PADDING in
between, the frames come back from `ParseNext` in order, and then no frame; each
writes the bytes it was read from, and `Length` is the length of those bytes. -/
theorem readsFrames_writeAll {p : FrameParser} (hp : p.ackDelayExponent = AckDelayExponent)
    {fs : List Frame} {ws : List Bytes} (hw : List.Forall₂ (fun f w => f.write = .ok w) fs ws)
    (hf : ∀ f ∈ fs, f.RoundTrips) (hlen : ∀ f ∈ fs.dropLast, f.LengthPresent = true)
    {pads : List Nat} (hpads : pads.length = fs.length) :
    ∃ gs, p.ReadsFrames .oneRTT (paddedFrames pads ws) gs ∧
      List.Forall₂ (fun f g => g.write = f.write ∧ f.length = List.length <$> f.write ∧ f.Reparsed g)
        fs gs := by
  induction hw generalizing pads with
  | nil =>
    obtain rfl : pads = [] := List.eq_nil_of_length_eq_zero hpads
    exact ⟨[], .done rfl, .nil⟩
  | @cons f w fs ws hfw hws ih =>
    obtain ⟨k, pads, rfl⟩ : ∃ k pads', pads = k :: pads' := List.exists_cons_of_length_eq_add_one hpads
    obtain ⟨gs, hread, hgs⟩ := ih (fun f' hf' => hf f' (List.mem_cons_of_mem f hf'))
      (fun f' hf' => hlen f' (mem_dropLast_cons hf')) (Nat.succ.inj hpads)
    have hlast : f.LengthPresent = true ∨ paddedFrames pads ws = [] := by
      cases hws with
      | nil => exact .inr (by simp [paddedFrames])
      | cons _ _ => exact .inl (hlen f (by simp))
    obtain ⟨g, hg, hgw, hre⟩ := parseNext_write hp (hf f List.mem_cons_self) hfw _ hlast
    refine ⟨g :: gs, .next ?_ hread, .cons ⟨hgw.trans hfw.symm, ?_, hre⟩ hgs⟩
    · simpa [paddedFrames, FrameParser.parseNext_replicate] using hg
    · rw [Frame.length_of_write hfw, hfw]
      rfl

/-- A PING and a MAX_DATA frame, behind two and one PADDING bytes. -/
theorem readsFrames_ping_maxData :
    ∃ gs, (FrameParser.mk AckDelayExponent none).ReadsFrames .oneRTT
        (paddedFrames [2, 1] [[0x1], [0x10, 5]]) gs ∧
      List.Forall₂ (fun (f g : Frame) => g.write = f.write ∧ f.length = List.length <$> f.write ∧
        f.Reparsed g) [.ping, .maxData ⟨5⟩] gs :=
  readsFrames_writeAll rfl (.cons rfl (.cons rfl .nil)) (by simp [Frame.RoundTrips])
    (by simp [Frame.LengthPresent]) rfl

/-- A STREAM frame whose one byte of data sits at offset `MaxByteCount`: `Write`
writes it, and `ParseNext` refuses what was written, so no frame comes back. -/
theorem parseNext_stream_overflow :
    (Frame.stream ⟨0, false, true, MaxByteCount, [0]⟩).write =
        .ok [0x0e, 0, 0xff, 0xff, 0xff, 0xff, 0xff, 0xff, 0xff, 0xff, 1, 0] ∧
      (FrameParser.mk AckDelayExponent none).parseNext .oneRTT
          [0x0e, 0, 0xff, 0xff, 0xff, 0xff, 0xff, 0xff, 0xff, 0xff, 1, 0] =
        .error (.error "FRAME_ENCODING_ERROR: FRAME_ENCODING_ERROR: stream data overflows maximum offset") ∧
      ¬ ∃ gs, (FrameParser.mk AckDelayExponent none).ReadsFrames .oneRTT
          [0x0e, 0, 0xff, 0xff, 0xff, 0xff, 0xff, 0xff, 0xff, 0xff, 1, 0] gs := by
  have hparse : (FrameParser.mk AckDelayExponent none).parseNext .oneRTT
      [0x0e, 0, 0xff, 0xff, 0xff, 0xff, 0xff, 0xff, 0xff, 0xff, 1, 0] =
      .error (.error "FRAME_ENCODING_ERROR: FRAME_ENCODING_ERROR: stream data overflows maximum offset") := by
    decide
  refine ⟨by decide, hparse, ?_⟩
  rintro ⟨gs, h⟩
  obtain ⟨res, hres⟩ := h.parseNext_ok
  rw [hparse] at hres
  cases hres

end QuicFec
