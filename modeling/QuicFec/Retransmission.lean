import QuicFec.PacketPacker

/-! # What a retransmission sends

The loop of `PackRetransmission` keeps, from round to round:

* the control frames sent so far, followed by those left but their REPAIR and
  FEC_SRC_FPI frames, are those of the lost packet but its REPAIR and FEC_SRC_FPI
  frames;
* the STREAM frames sent so far have been sent from the lost packet's with the
  ones left to send (`Emission.Emitted` for `StreamFrame.PiecesOf`);
* every packet sent fits into `maxPacketSize` once sealed.

Within a round, the frames packed so far are written within the room of the
packet once the last STREAM frame has lost its length field (`Packs`): a STREAM
frame is packed whole when it fits without its length field, so with it the count
may run over the room, by at most the two bytes of a length field below 16384.

A round takes at least one control frame, or, when there is none left, STREAM
data, once every control frame fits into an empty packet: the loop ends within
as many rounds as there are control frames and bytes of STREAM data and STREAM
frames.  That needs room for more than a minimal STREAM frame in every packet,
which a valid packer and a sealer of at most 16 bytes of overhead give.

The client's Initial packets are the exception: `writeAndSealPacket` pads them to
`MinInitialPacketSize` with a `uint64` count that runs below zero once the
payload is longer than the room of a 1200-byte packet, and `bytes.Repeat` panics
on the count.  `PackRetransmission` fills a packet up to `maxPacketSize`, and a
lost Initial packet of a client on an IPv4 path makes it panic.
-/

namespace QuicFec
open GoBytes Emission

/-! ## Pieces of STREAM frames -/

namespace StreamFrame

/-- `ps` carry the data `data` of stream `streamID` from `offset` on, with the FIN
bit `fin` after it: frames on that stream at consecutive offsets from `offset`,
whose data in order is `data`, all but the last without FIN and the last with
`fin`. -/
inductive Carries (streamID : Nat) : Nat → Bytes → Bool → List StreamFrame → Prop
  | last {q : StreamFrame} : q.streamID = streamID → Carries streamID q.offset q.data q.finBit [q]
  | cut {q : StreamFrame} {rest : Bytes} {fin : Bool} {ps : List StreamFrame} :
      q.streamID = streamID → q.finBit = false →
      Carries streamID (q.offset + q.data.length) rest fin ps →
      Carries streamID q.offset (q.data ++ rest) fin (q :: ps)

/-- The pieces a STREAM frame may be sent again as. -/
def PiecesOf (f : StreamFrame) (ps : List StreamFrame) : Prop :=
  Carries f.streamID f.offset f.data f.finBit ps

/-- A STREAM frame without its length field: the one field `Carries` does not read. -/
def withoutDataLen (f : StreamFrame) : StreamFrame := { f with dataLenPresent := false }

theorem withoutDataLen_eq_iff {q q' : StreamFrame} :
    q.withoutDataLen = q'.withoutDataLen ↔
      q.streamID = q'.streamID ∧ q.finBit = q'.finBit ∧ q.offset = q'.offset ∧ q.data = q'.data := by
  simp [withoutDataLen]

/-- `Carries` does not see the length fields of the pieces. -/
theorem Carries.congr {sid o : Nat} {d : Bytes} {fin : Bool} {ps : List StreamFrame}
    (h : Carries sid o d fin ps) :
    ∀ {ps' : List StreamFrame}, ps.map withoutDataLen = ps'.map withoutDataLen → Carries sid o d fin ps' := by
  induction h with
  | @last q hq =>
    intro ps' he
    obtain ⟨q', l, rfl, hq', hl⟩ := List.map_eq_cons_iff.1 he.symm
    obtain rfl : l = [] := List.map_eq_nil_iff.1 hl
    obtain ⟨hs, hf, ho, hd⟩ := withoutDataLen_eq_iff.1 hq'
    rw [← ho, ← hd, ← hf]
    exact .last (hs.trans hq)
  | @cut q rest fin ps hq hfin _ ih =>
    intro ps' he
    obtain ⟨q', l, rfl, hq', hl⟩ := List.map_eq_cons_iff.1 he.symm
    obtain ⟨hs, hf, ho, hd⟩ := withoutDataLen_eq_iff.1 hq'
    have ih' := ih hl.symm
    rw [← ho, ← hd] at ih' ⊢
    exact .cut (hs.trans hq) (hf.trans hfin) ih'

theorem piecesOf_congr (f : StreamFrame) (ps ps' : List StreamFrame)
    (he : ps.map withoutDataLen = ps'.map withoutDataLen) (h : f.PiecesOf ps) : f.PiecesOf ps' :=
  Carries.congr h he

/-! ## STREAM frames that can be sent -/

/-- A STREAM frame that can be written and split without a number running out of
its varint, and is not empty without FIN. -/
structure Sendable (f : StreamFrame) : Prop where
  streamID_le : f.streamID ≤ maxVarInt8
  end_le : f.offset + f.data.length ≤ maxVarInt8
  nonempty : f.data ≠ [] ∨ f.finBit = true

theorem Sendable.length_eq {f : StreamFrame} (hf : f.Sendable) : f.length = .ok f.wireLength :=
  length_eq_wireLength hf.streamID_le hf.end_le

theorem Sendable.write_eq {f : StreamFrame} (hf : f.Sendable) :
    ∃ w, f.write = .ok w ∧ w.length = f.wireLength := by
  have hne : ¬ (f.data.length = 0 ∧ (!f.finBit) = true) := by
    rintro ⟨h0, hfin⟩
    rcases hf.nonempty with h | h
    · exact h (List.length_eq_zero_iff.1 h0)
    · simp [h] at hfin
  have ho : f.offset ≤ maxVarInt8 := by have := hf.end_le; omega
  have hd : f.data.length ≤ maxVarInt8 := by have := hf.end_le; omega
  have hw : ∃ w, f.write = .ok w := by
    unfold StreamFrame.write
    simp only [hne, if_false, writeVarInt_of_le hf.streamID_le, ok_bind]
    -- the offset and the length field are each written or not
    split <;> split <;> simp [writeVarInt_of_le ho, writeVarInt_of_le hd]
  obtain ⟨w, hw⟩ := hw
  refine ⟨w, hw, ?_⟩
  have h := (StreamFrame.length_of_write hw).symm.trans hf.length_eq
  exact Except.ok.inj h

theorem Sendable.setDataLen {f : StreamFrame} (hf : f.Sendable) (b : Bool) :
    ({ f with dataLenPresent := b } : StreamFrame).Sendable :=
  ⟨hf.streamID_le, hf.end_le, hf.nonempty⟩

/-- A STREAM frame that is written and ends within `MaxByteCount` can be sent. -/
theorem Sendable.of_write {f : StreamFrame} {w : Bytes} (hw : f.write = .ok w)
    (hend : f.offset + f.data.length ≤ MaxByteCount) : f.Sendable := by
  refine ⟨(write_eq_ok hw).1, by unfold MaxByteCount at hend; unfold maxVarInt8; omega, ?_⟩
  by_contra h
  have hempty : f.data = [] ∧ f.finBit = false := by simpa [not_or] using h
  simp [write, hempty] at hw

end StreamFrame

theorem Frame.asStreamFrame_eq_some {f : Frame} {sf : StreamFrame} :
    f.asStreamFrame = some sf ↔ f = .stream sf := by
  cases f <;> simp [Frame.asStreamFrame]

/-! ## Writing the frames of a packet -/

theorem writeAll_append {fs gs : List Frame} {w v : Bytes} (hf : Frame.writeAll fs = .ok w)
    (hg : Frame.writeAll gs = .ok v) : Frame.writeAll (fs ++ gs) = .ok (w ++ v) := by
  induction fs generalizing w with
  | nil =>
    cases hf
    simpa using hg
  | cons f fs ih =>
    obtain ⟨wf, hwf, hf⟩ := bind_eq_ok.1 hf
    obtain ⟨ws, hws, hf⟩ := bind_eq_ok.1 hf
    cases hf
    simp [Frame.writeAll, hwf, ih hws]

theorem withoutLastDataLen_append_stream (fs : List Frame) (f : StreamFrame) :
    withoutLastDataLen (fs ++ [.stream f]) = fs ++ [.stream f.withoutDataLen] := by
  simp [withoutLastDataLen, StreamFrame.withoutDataLen]

theorem withoutLastDataLen_of_control {fs : List Frame} (h : ∀ f ∈ fs, f.asStreamFrame = none) :
    withoutLastDataLen fs = fs := by
  unfold withoutLastDataLen
  split
  · next sf hlast =>
    have := h _ (List.mem_of_getLast? hlast)
    simp [Frame.asStreamFrame] at this
  · rfl

/-- Removing the last length field changes no frame's kind. -/
theorem withoutLastDataLen_filter_control (fs : List Frame) :
    (withoutLastDataLen fs).filter (fun f => f.asStreamFrame.isNone) =
      fs.filter (fun f => f.asStreamFrame.isNone) := by
  unfold withoutLastDataLen
  split
  · next sf hlast =>
    obtain ⟨ys, rfl⟩ := List.getLast?_eq_some_iff.1 hlast
    simp [Frame.asStreamFrame]
  · rfl

theorem withoutLastDataLen_streams (fs : List Frame) :
    ((withoutLastDataLen fs).filterMap Frame.asStreamFrame).map StreamFrame.withoutDataLen =
      (fs.filterMap Frame.asStreamFrame).map StreamFrame.withoutDataLen := by
  unfold withoutLastDataLen
  split
  · next sf hlast =>
    obtain ⟨ys, rfl⟩ := List.getLast?_eq_some_iff.1 hlast
    simp [Frame.asStreamFrame, StreamFrame.withoutDataLen]
  · rfl

/-- The frames of a packet in the making, `length` bytes of them counted: written
they take `length` bytes, and at most `maxSize` once a last STREAM frame has lost
its length field; the count runs over `maxSize` by at most the two bytes of that
length field. -/
structure Packs (maxSize length : Nat) (frames : List Frame) : Prop where
  written : ∃ w, Frame.writeAll frames = .ok w ∧ w.length = length
  final : ∃ w, Frame.writeAll (withoutLastDataLen frames) = .ok w ∧ w.length ≤ maxSize ∧ w.length ≤ length
  length_le : length ≤ maxSize + 2

namespace StreamFrame

theorem wireLength_withoutDataLen_le (f : StreamFrame) : f.withoutDataLen.wireLength ≤ f.wireLength := by
  simp only [wireLength, withoutDataLen, Bool.false_eq_true, if_false]
  omega

/-- A frame with its length field is the length field longer than without it. -/
theorem wireLength_withDataLen (f : StreamFrame) :
    ({ f with dataLenPresent := true } : StreamFrame).wireLength =
      f.withoutDataLen.wireLength + (varIntBytes f.data.length).length := by
  simp only [wireLength, withoutDataLen, Bool.false_eq_true, if_false, if_true]
  omega

theorem withoutDataLen_splitOff_fst (f : StreamFrame) (n : Nat) (hf : f.dataLenPresent = false) :
    (f.splitOff n).1.withoutDataLen = (f.splitOff n).1 := by
  simp [splitOff, withoutDataLen, hf]

/-- A frame sent whole, with or without its length field. -/
theorem piecesOf_self (f : StreamFrame) (b : Bool) : f.PiecesOf [{ f with dataLenPresent := b }] :=
  Carries.last (q := { f with dataLenPresent := b }) rfl

/-- The frame split off the first `n` bytes, followed by pieces of the rest, are
pieces of the frame. -/
theorem piecesOf_splitOff {f : StreamFrame} {n : Nat} (hn : n ≤ f.data.length) (b : Bool)
    {qs : List StreamFrame} (h : ({ (f.splitOff n).2 with dataLenPresent := b } : StreamFrame).PiecesOf qs) :
    f.PiecesOf ((f.splitOff n).1 :: qs) := by
  have hlen : (f.data.take n).length = n := List.length_take_of_le hn
  have hcut := Carries.cut (q := (f.splitOff n).1) rfl rfl
    (show Carries f.streamID ((f.splitOff n).1.offset + (f.splitOff n).1.data.length) (f.data.drop n)
      f.finBit qs by simpa [splitOff, hlen, PiecesOf] using h)
  simpa [splitOff, PiecesOf] using hcut

end StreamFrame

theorem varIntBytes_length_le_two {i : Nat} (h : i ≤ maxVarInt2) : (varIntBytes i).length ≤ 2 :=
  (varIntBytes_length_mono h).trans (by decide)

/-- A STREAM frame packed after the others, its count with its length field, its
room without. -/
theorem Packs.append_stream {maxSize length : Nat} {frames : List Frame} {x : StreamFrame}
    (hp : Packs maxSize length frames) (hx : x.Sendable)
    (hroom : length + x.withoutDataLen.wireLength ≤ maxSize) (hover : length + x.wireLength ≤ maxSize + 2) :
    Packs maxSize (length + x.wireLength) (frames ++ [.stream x]) := by
  obtain ⟨w0, hw0, hl0⟩ := hp.written
  obtain ⟨wx, hwx, hlx⟩ := hx.write_eq
  obtain ⟨wx', hwx', hlx'⟩ := (hx.setDataLen false).write_eq
  have hone : ∀ {y : StreamFrame} {wy : Bytes}, y.write = .ok wy → Frame.writeAll [.stream y] = .ok wy := by
    intro y wy hy
    simp [Frame.writeAll, Frame.write, hy]
  refine ⟨⟨w0 ++ wx, writeAll_append hw0 (hone hwx), by simp [hl0, hlx]⟩, ?_, hover⟩
  refine ⟨w0 ++ wx', ?_, ?_, ?_⟩
  · rw [withoutLastDataLen_append_stream]
    exact writeAll_append hw0 (hone hwx')
  · have : wx'.length = x.withoutDataLen.wireLength := hlx'
    simp only [List.length_append]
    omega
  · have : wx'.length = x.withoutDataLen.wireLength := hlx'
    have := x.wireLength_withoutDataLen_le
    simp only [List.length_append]
    omega

/-! ## The loop over the control frames -/

/-- The control frames the loop takes off the queue are the ones it did not stop
at, and it packs those of them that are not REPAIR or FEC_SRC_FPI frames; it stops
at a frame only when that frame does not fit. -/
theorem retransmitControlFrames_spec (maxSize : Nat) :
    ∀ (cs : List Frame) (length : Nat) (frames : List Frame), length ≤ maxSize →
      (∀ f ∈ cs, ∃ w, f.write = .ok w) →
      ∃ taken left w, cs = taken ++ left ∧
        retransmitControlFrames maxSize cs length frames =
          .ok (left, length + w.length, frames ++ taken.filter fun f => !f.isFECFrame) ∧
        Frame.writeAll (taken.filter fun f => !f.isFECFrame) = .ok w ∧ length + w.length ≤ maxSize ∧
        ∀ f ∈ cs.head?, ∀ len, f.length = .ok len → length + len ≤ maxSize → taken ≠ []
  | [], length, frames, hle, _ =>
    ⟨[], [], [], rfl, by simp [retransmitControlFrames], rfl, by simpa using hle, by simp⟩
  | f :: cs, length, frames, hle, hw => by
    obtain ⟨wf, hwf⟩ := hw f List.mem_cons_self
    have hlf := Frame.length_of_write hwf
    have hcs : ∀ g ∈ cs, ∃ w, g.write = .ok w := fun g hg => hw g (List.mem_cons_of_mem f hg)
    by_cases hfit : length + wf.length > maxSize
    case pos =>
      -- the head does not fit: the loop ends at it
      refine ⟨[], f :: cs, [], rfl, ?_, rfl, by simpa using hle, ?_⟩
      · simp [retransmitControlFrames, hlf, hfit]
      · intro g hg len hlen hroom
        simp only [List.head?_cons, Option.mem_def, Option.some.injEq] at hg
        subst hg
        rw [hlf] at hlen
        cases hlen
        omega
    case neg =>
      cases hfec : f.isFECFrame
      case true =>
        -- a REPAIR or FEC_SRC_FPI frame is dropped
        obtain ⟨taken, left, w, rfl, hloop, hwrite, hroom, -⟩ := retransmitControlFrames_spec maxSize cs length frames hle hcs
        refine ⟨f :: taken, left, w, rfl, ?_, by simpa [hfec] using hwrite, hroom, by simp⟩
        simp [retransmitControlFrames, hlf, hfit, hfec, hloop]
      case false =>
        obtain ⟨taken, left, w, rfl, hloop, hwrite, hroom, -⟩ :=
          retransmitControlFrames_spec maxSize cs (length + wf.length) (frames ++ [f]) (by omega) hcs
        refine ⟨f :: taken, left, wf ++ w, rfl, ?_, ?_, by simp only [List.length_append]; omega, by simp⟩
        · simp [retransmitControlFrames, hlf, hfit, hfec, hloop, Nat.add_assoc]
        · simp [hfec, Frame.writeAll, hwf, hwrite]

/-! ## The loop over the STREAM frames -/

section StreamLoop

variable {maxSize length : Nat} {frames : List Frame} {f : StreamFrame} {rest : List StreamFrame}
  (hmax : maxSize ≤ maxVarInt2) (hfit : length + MinStreamFrameSize < maxSize)
include hmax hfit

theorem subU64_room : subU64 maxSize length = maxSize - length :=
  subU64_of_le (by omega) (by unfold maxVarInt2 at hmax; omega)

/-- The head frame fits without its length field: it is packed whole, with it. -/
theorem retransmitStreamFrames_whole_step (hp : Packs maxSize length frames) (hf : f.Sendable)
    (hwhole : ({ f with dataLenPresent := false } : StreamFrame).wireLength ≤ maxSize - length) :
    retransmitStreamFrames maxSize length frames (f :: rest) =
        retransmitStreamFrames maxSize (length + ({ f with dataLenPresent := true } : StreamFrame).wireLength)
          (frames ++ [.stream { f with dataLenPresent := true }]) rest ∧
      Packs maxSize (length + ({ f with dataLenPresent := true } : StreamFrame).wireLength)
        (frames ++ [.stream { f with dataLenPresent := true }]) ∧
      Emitted StreamFrame.PiecesOf (f :: rest) [{ f with dataLenPresent := true }] rest := by
  have hsplit := StreamFrame.maybeSplitOffFrame_of_le (hf.setDataLen false).streamID_le
    (hf.setDataLen false).end_le hwhole
  rw [← subU64_room hmax hfit] at hsplit
  refine ⟨@retransmitStreamFrames_whole maxSize length _ frames f { f with dataLenPresent := false } rest
    hfit hsplit (hf.setDataLen true).length_eq, ?_, emitted_whole (f.piecesOf_self true) rest⟩
  -- the count runs over the room by the length field, of at most two bytes
  have hdata : f.data.length ≤ ({ f with dataLenPresent := false } : StreamFrame).wireLength := by
    simp only [StreamFrame.wireLength]
    omega
  have hlen := varIntBytes_length_le_two (show f.data.length ≤ maxVarInt2 by omega)
  have hwl := f.wireLength_withDataLen
  have hw' : ({ f with dataLenPresent := true } : StreamFrame).withoutDataLen = { f with dataLenPresent := false } :=
    rfl
  have hw'' : f.withoutDataLen = { f with dataLenPresent := false } := rfl
  refine hp.append_stream (hf.setDataLen true) (by rw [hw']; omega) ?_
  rw [hwl, hw'']
  omega

/-- The head frame does not fit without its length field: the frame split off fills
the room exactly, and the rest of the data stays at the head, with its length
field. -/
theorem retransmitStreamFrames_cut_step (hp : Packs maxSize length frames) (hf : f.Sendable)
    (hcut : maxSize - length < ({ f with dataLenPresent := false } : StreamFrame).wireLength) :
    ∃ sf r, retransmitStreamFrames maxSize length frames (f :: rest) =
        retransmitStreamFrames maxSize (length + sf.wireLength) (frames ++ [.stream sf]) (r :: rest) ∧
      Packs maxSize (length + sf.wireLength) (frames ++ [.stream sf]) ∧
      Emitted StreamFrame.PiecesOf (f :: rest) [sf] (r :: rest) ∧
      r.Sendable ∧ r.data.length < f.data.length := by
  have hg := hf.setDataLen false
  have hid := varIntBytes_length_le f.streamID
  have hoff : StreamFrame.offsetLen f.offset ≤ 8 := by
    unfold StreamFrame.offsetLen
    split <;> simp [varIntBytes_length_le]
  have hH : ({ f with dataLenPresent := false } : StreamFrame).splitHeaderLen =
      1 + (varIntBytes f.streamID).length + StreamFrame.offsetLen f.offset := by
    simp [StreamFrame.splitHeaderLen]
  have hW : ({ f with dataLenPresent := false } : StreamFrame).wireLength =
      1 + (varIntBytes f.streamID).length + StreamFrame.offsetLen f.offset + f.data.length := by
    simp [StreamFrame.wireLength]
  have hhdr : ({ f with dataLenPresent := false } : StreamFrame).splitHeaderLen < maxSize - length := by
    unfold MinStreamFrameSize at hfit
    omega
  have hk : ({ f with dataLenPresent := false } : StreamFrame).splitLen (maxSize - length) =
      maxSize - length - ({ f with dataLenPresent := false } : StreamFrame).splitHeaderLen := by
    simp [StreamFrame.splitLen]
  have hklt : ({ f with dataLenPresent := false } : StreamFrame).splitLen (maxSize - length) < f.data.length := by
    omega
  have hkpos := StreamFrame.splitLen_pos hhdr
  have hsplit := StreamFrame.maybeSplitOffFrame_split hg.streamID_le hg.end_le
    (show maxSize - length ≤ maxVarInt8 by unfold maxVarInt2 at hmax; unfold maxVarInt8; omega) hcut hhdr hklt.le
  have hsplit' := (congrArg ({ f with dataLenPresent := false } : StreamFrame).maybeSplitOffFrame
    (subU64_room hmax hfit)).trans hsplit
  have hsl := StreamFrame.length_splitOff hg.streamID_le hg.end_le hklt.le
  refine ⟨_, _, retransmitStreamFrames_cut hfit hsplit' hsl, ?_,
    emitted_cut (a := f) (fun qs h =>
      StreamFrame.piecesOf_splitOff (f := { f with dataLenPresent := false }) hklt.le true h) rest, ?_, ?_⟩
  · -- the frame split off has no length field, and fills the room
    have hwl : (({ f with dataLenPresent := false } : StreamFrame).splitOff
        (({ f with dataLenPresent := false } : StreamFrame).splitLen (maxSize - length))).1.wireLength =
          maxSize - length := by
      simp only [StreamFrame.splitOff, StreamFrame.wireLength, List.length_take_of_le hklt.le,
        Bool.false_eq_true, if_false]
      omega
    refine hp.append_stream ⟨hf.streamID_le, ?_, ?_⟩ ?_ ?_
    · simp only [StreamFrame.splitOff, List.length_take_of_le hklt.le]
      have := hf.end_le
      omega
    · left
      simp only [StreamFrame.splitOff, ne_eq, List.take_eq_nil_iff, not_or]
      exact ⟨by omega, fun h => by simp [h] at hklt⟩
    · rw [StreamFrame.withoutDataLen_splitOff_fst _ _ rfl, hwl]
      omega
    · rw [hwl]
      omega
  · refine ⟨hf.streamID_le, ?_, ?_⟩
    · simp only [StreamFrame.splitOff, List.length_drop]
      have := hf.end_le
      omega
    · left
      simp only [StreamFrame.splitOff, ne_eq, List.drop_eq_nil_iff, not_le]
      exact hklt
  · simp only [StreamFrame.splitOff, List.length_drop]
    omega

end StreamLoop

/-- The loop over the STREAM frames packs, after the frames it was given, STREAM
frames sent from the queue, keeps the packet within its room once the last one
has lost its length field, and takes data off the queue whenever a minimal STREAM
frame still fits. -/
theorem retransmitStreamFrames_spec {maxSize : Nat} (hmax : maxSize ≤ maxVarInt2) :
    ∀ (streamFrames : List StreamFrame) (length : Nat) (frames : List Frame),
      Packs maxSize length frames → (∀ f ∈ streamFrames, f.Sendable) →
      ∃ left length' sent, retransmitStreamFrames maxSize length frames streamFrames =
          .ok (left, length', frames ++ sent.map .stream) ∧
        Packs maxSize length' (frames ++ sent.map .stream) ∧ (∀ f ∈ left, f.Sendable) ∧
        Emitted StreamFrame.PiecesOf streamFrames sent left ∧
        streamDataLeft left ≤ streamDataLeft streamFrames ∧
        (streamFrames ≠ [] → length + MinStreamFrameSize < maxSize →
          streamDataLeft left < streamDataLeft streamFrames) := by
  intro streamFrames
  -- on the data left in the queue, which every round of the loop lowers
  induction hn : streamDataLeft streamFrames using Nat.strong_induction_on generalizing streamFrames with
  | _ n ih =>
  intro length frames hp hs
  match streamFrames, hs, hn with
  | [], _, hn =>
    exact ⟨[], length, [], by simp [retransmitStreamFrames_nil], by simpa using hp, by simp,
      emitted_refl [], hn.le, fun h => absurd rfl h⟩
  | f :: rest, hs, hn =>
    have hf := hs f List.mem_cons_self
    have hrest : ∀ g ∈ rest, g.Sendable := fun g hg => hs g (List.mem_cons_of_mem f hg)
    have hsum : streamDataLeft (f :: rest) = f.data.length + 1 + streamDataLeft rest := by
      simp [streamDataLeft]
    by_cases hfit : length + MinStreamFrameSize < maxSize
    case neg =>
      exact ⟨f :: rest, length, [], by simp [retransmitStreamFrames_full hfit], by simpa using hp, hs,
        emitted_refl _, hn.le, fun _ h => absurd h hfit⟩
    case pos =>
      by_cases hwhole : ({ f with dataLenPresent := false } : StreamFrame).wireLength ≤ maxSize - length
      case pos =>
        obtain ⟨hstep, hpacks, hemit⟩ :=
          @retransmitStreamFrames_whole_step maxSize length frames f rest hmax hfit hp hf hwhole
        obtain ⟨left, length', sent, hloop, hpacks', hleft, hemit', hle, -⟩ :=
          ih (streamDataLeft rest) (by omega) rest rfl _ _ hpacks hrest
        refine ⟨left, length', _ :: sent, by rw [hstep, hloop]; simp, by simpa using hpacks', hleft,
          hemit.trans hemit', by omega, fun _ _ => by omega⟩
      case neg =>
        obtain ⟨sf, r, hstep, hpacks, hemit, hr, hlt⟩ :=
          @retransmitStreamFrames_cut_step maxSize length frames f rest hmax hfit hp hf
            (Nat.lt_of_not_le hwhole)
        have hsum' : streamDataLeft (r :: rest) = r.data.length + 1 + streamDataLeft rest := by
          simp [streamDataLeft]
        have hrs : ∀ g ∈ r :: rest, g.Sendable := by
          intro g hg
          rcases List.mem_cons.1 hg with rfl | hg
          · exact hr
          · exact hrest g hg
        obtain ⟨left, length', sent, hloop, hpacks', hleft, hemit', hle, -⟩ :=
          ih (streamDataLeft (r :: rest)) (by omega) (r :: rest) rfl _ _ hpacks hrs
        refine ⟨left, length', sf :: sent, by rw [hstep, hloop]; simp, by simpa using hpacks', hleft,
          hemit.trans hemit', by omega, fun _ _ => by omega⟩

/-! ## The header and the sealing of a round -/

theorem longHeaderBytes_length (h : ExtendedHeader) :
    (ExtendedHeader.longHeaderBytes h).length =
      7 + h.header.DestConnectionID.length + h.header.SrcConnectionID.length +
        (if h.header.PacketType = PacketTypeInitial then
          (varIntBytes h.header.Token.length).length + h.header.Token.length else 0) +
        (varIntBytes h.header.Length).length := by
  unfold ExtendedHeader.longHeaderBytes
  split <;> simp <;> omega

namespace PacketPacker

variable {σ : Type} (pm : PacketNumberManager σ) {Live : σ → Prop}

/-- The levels a retransmission is sent right at: Handshake and 1-RTT, and Initial
on the server's side. -/
def RetransmitsAt (p : PacketPacker σ) (encLevel : EncryptionLevel) : Prop :=
  encLevel = .handshake ∨ encLevel = .oneRTT ∨ (encLevel = .initial ∧ p.perspective = .server)

/-- The room for frames in an empty packet of the level, as `PackRetransmission`
reckons it. -/
def emptyPacketRoom (p : PacketPacker σ) (encLevel : EncryptionLevel) : Except GoError Nat := do
  let (sealer, hdr) ← p.getSealerAndHeader pm encLevel
  let hdrLen ← hdr.GetLength p.version
  return subU64 (subU64 p.maxPacketSize sealer.Overhead) hdrLen

/-- A frame fits into every empty packet of the level, in every state of `Live` of
the packet-number manager. -/
def FitsEmpty (p : PacketPacker σ) (encLevel : EncryptionLevel) (Live : σ → Prop) (f : Frame) : Prop :=
  ∀ s, Live s → ∀ room len, ({ p with pnManager := s }).emptyPacketRoom pm encLevel = .ok room →
    f.length = .ok len → len ≤ room

/-- What a round needs of its header: the header of the level, no longer than 54
bytes, and a packet of it is sealed within `maxPacketSize` when its frames are
written within the room the header leaves, counted with at most two bytes more. -/
def SealsWithin (p : PacketPacker σ) (encLevel : EncryptionLevel) (Live : σ → Prop) (sealer : Sealer)
    (hdr : ExtendedHeader) (hdrLen : Nat) : Prop :=
  hdr.GetLength p.version = .ok hdrLen ∧ hdrLen ≤ 54 ∧
    ∀ (length : Nat) (frames : List Frame) (w : Bytes), Frame.writeAll frames = .ok w →
      w.length ≤ p.maxPacketSize - sealer.Overhead - hdrLen → w.length ≤ length →
      length ≤ p.maxPacketSize - sealer.Overhead - hdrLen + 2 →
      ∃ pkt s', p.writeAndSealPacket pm hdr { frames, length } encLevel sealer =
          .ok (pkt, { p with pnManager := s' }) ∧ Live s' ∧ pkt.frames = frames ∧
        pkt.raw.length + sealer.Overhead ≤ p.maxPacketSize

/-- The maximum packet size of a valid packer is a two-byte varint. -/
theorem Valid.varIntBytes_maxPacketSize {p : PacketPacker σ} (hv : p.Valid) :
    (varIntBytes p.maxPacketSize).length = 2 := by
  have hmin := hv.min_le_maxPacketSize
  have hmaxp := hv.maxPacketSize_le
  unfold MinInitialPacketSize at hmin
  unfold MaxPacketSizeIPv4 at hmaxp
  rw [varIntBytes_length]
  unfold maxVarInt1 maxVarInt2
  split_ifs <;> omega

/-- The fields of the long header of a round: those of the packer, no token, the
maximum packet size as the length, and the longest packet number. -/
theorem getLongHeader_fields {p : PacketPacker σ} {encLevel : EncryptionLevel} {hdr : ExtendedHeader}
    {pn : Int} {pnLen : Nat} (hpeek : pm.PeekPacketNumber p.pnManager encLevel = .ok (pn, pnLen))
    (hl : encLevel = .initial ∨ encLevel = .handshake) (hhdr : p.getLongHeader pm encLevel = .ok hdr) :
    hdr.header.IsLongHeader = true ∧ ExtendedHeader.HasPacketNumber hdr.header.PacketType ∧
      (hdr.header.PacketType = PacketTypeInitial ↔ encLevel = .initial) ∧
      hdr.header.DestConnectionID = p.destConnID ∧ hdr.header.SrcConnectionID = p.srcConnID ∧
      hdr.header.OrigDestConnectionID = [] ∧ hdr.header.Token = [] ∧
      hdr.header.Length = p.maxPacketSize ∧ hdr.PacketNumber = pn ∧ hdr.PacketNumberLen = 4 := by
  rw [getLongHeader_eq pm hpeek] at hhdr
  cases hhdr
  rcases hl with rfl | rfl
  · exact ⟨rfl, Or.inl rfl, by simp, rfl, rfl, rfl, rfl, rfl, rfl, rfl⟩
  · exact ⟨rfl, Or.inr (Or.inl rfl), by simp [PacketTypeHandshake, PacketTypeInitial], rfl, rfl, rfl, rfl,
      rfl, rfl, rfl⟩

/-- The length of the long header of a round of a valid packer: the connection IDs,
the two bytes of the maximum packet size as the length, an empty token on an
Initial header, and four bytes of packet number. -/
theorem getLongHeader_length {p : PacketPacker σ} {encLevel : EncryptionLevel} {hdr : ExtendedHeader}
    {pn : Int} {pnLen : Nat} (hv : p.Valid) (hpeek : pm.PeekPacketNumber p.pnManager encLevel = .ok (pn, pnLen))
    (hl : encLevel = .initial ∨ encLevel = .handshake) (hhdr : p.getLongHeader pm encLevel = .ok hdr) :
    hdr.GetLength p.version =
      .ok (13 + p.destConnID.length + p.srcConnID.length + if encLevel = .initial then 1 else 0) := by
  obtain ⟨hlong, -, hinit, hD, hS, -, hT, hL, -, hpnLen⟩ := getLongHeader_fields pm hpeek hl hhdr
  have hmaxp := hv.maxPacketSize_le
  unfold MaxPacketSizeIPv4 at hmaxp
  rw [ExtendedHeader.GetLength_long hlong (by rw [hL]; unfold maxVarInt8; omega) (fun _ => by rw [hT]; decide),
    longHeaderBytes_length, hD, hS, hT, hL, hv.varIntBytes_maxPacketSize, hpnLen]
  have hvar0 : (varIntBytes 0).length = 1 := rfl
  by_cases hI : encLevel = .initial
  · simp only [hinit, hI, if_true, List.length_nil, hvar0]
    congr 1
    omega
  · simp only [hinit, hI, if_false]
    congr 1
    omega

/-- The room an empty Initial or Handshake packet leaves for frames. -/
theorem emptyPacketRoom_long {p : PacketPacker σ} {encLevel : EncryptionLevel} {sealer : Sealer}
    (hv : p.Valid) (hover : sealer.Overhead ≤ 16) (hpm : pm.Lawful encLevel Live) (hlive : Live p.pnManager)
    (hl : encLevel = .initial ∨ encLevel = .handshake)
    (hseal : p.cryptoSetup.sealerFor encLevel = .ok sealer) :
    p.emptyPacketRoom pm encLevel = .ok (p.maxPacketSize - sealer.Overhead -
      (13 + p.destConnID.length + p.srcConnID.length + if encLevel = .initial then 1 else 0)) := by
  obtain ⟨pn, pnLen, hpeek, -, -⟩ := hpm.peek_ok _ hlive
  have hhdr := getLongHeader_eq pm hpeek
  have h1 : encLevel ≠ .oneRTT := by rcases hl with rfl | rfl <;> decide
  have hlen := getLongHeader_length pm hv hpeek hl hhdr
  have hmin := hv.min_le_maxPacketSize
  have hmaxp := hv.maxPacketSize_le
  have hD20 : p.destConnID.length ≤ 20 := hv.destConnID_le
  have hS20 : p.srcConnID.length ≤ 20 := hv.srcConnID_le
  unfold MinInitialPacketSize at hmin
  unfold MaxPacketSizeIPv4 at hmaxp
  have hdr54 : (13 + p.destConnID.length + p.srcConnID.length + if encLevel = .initial then 1 else 0) ≤ 54 := by
    split <;> omega
  simp only [emptyPacketRoom, getSealerAndHeader_eq, hseal, ok_bind, if_neg h1, hhdr, pure_eq_ok, hlen]
  rw [subU64_of_le (a := p.maxPacketSize) (b := sealer.Overhead) (by omega) (by omega),
    subU64_of_le (by omega) (by omega)]

/-- A frame fits into every empty Initial or Handshake packet once it fits into the
room the long header of a round leaves. -/
theorem fitsEmpty_long {p : PacketPacker σ} {encLevel : EncryptionLevel} {sealer : Sealer}
    (hv : p.Valid) (hover : sealer.Overhead ≤ 16) (hpm : pm.Lawful encLevel Live)
    (hl : encLevel = .initial ∨ encLevel = .handshake)
    (hseal : p.cryptoSetup.sealerFor encLevel = .ok sealer) {f : Frame}
    (hf : ∀ len, f.length = .ok len → len ≤ p.maxPacketSize - sealer.Overhead -
      (13 + p.destConnID.length + p.srcConnID.length + if encLevel = .initial then 1 else 0)) :
    p.FitsEmpty pm encLevel Live f := by
  intro s hs room len hroom hlen
  rw [emptyPacketRoom_long pm (hv.update_pnManager s) hover hpm hs hl hseal] at hroom
  cases hroom
  exact hf len hlen

section Header

variable {p : PacketPacker σ} {encLevel : EncryptionLevel} {sealer : Sealer}
  (hv : p.Valid) (hover : sealer.Overhead ≤ 16) (hpm : pm.Lawful encLevel Live) (hlive : Live p.pnManager)
include hv hover hpm hlive

/-- A long header, of an Initial or Handshake packet that is not a client's Initial. -/
theorem sealsWithin_long (hl : encLevel = .initial ∨ encLevel = .handshake)
    (hc : ¬ (p.perspective = .client ∧ encLevel = .initial)) {hdr : ExtendedHeader}
    (hhdr : p.getLongHeader pm encLevel = .ok hdr) :
    ∃ hdrLen, p.SealsWithin pm encLevel Live sealer hdr hdrLen := by
  obtain ⟨pn, pnLen, hpeek, -, -⟩ := hpm.peek_ok _ hlive
  have hf : hdr.header.IsLongHeader = true ∧ ExtendedHeader.HasPacketNumber hdr.header.PacketType ∧
      (hdr.header.PacketType = PacketTypeInitial ↔ encLevel = .initial) ∧
      hdr.header.DestConnectionID = p.destConnID ∧ hdr.header.SrcConnectionID = p.srcConnID ∧
      hdr.header.OrigDestConnectionID = [] ∧ hdr.header.Token = [] ∧
      hdr.header.Length = p.maxPacketSize ∧ hdr.PacketNumber = pn ∧ hdr.PacketNumberLen = 4 := by
    rw [getLongHeader_eq pm hpeek] at hhdr
    cases hhdr
    rcases hl with rfl | rfl
    · exact ⟨rfl, Or.inl rfl, by simp, rfl, rfl, rfl, rfl, rfl, rfl, rfl⟩
    · exact ⟨rfl, Or.inr (Or.inl rfl), by simp [PacketTypeHandshake, PacketTypeInitial], rfl, rfl, rfl, rfl,
        rfl, rfl, rfl⟩
  obtain ⟨hlong, htype, hinit, hD, hS, hO, hT, hL, hpn, hpnLen⟩ := hf
  have hmin := hv.min_le_maxPacketSize
  have hmaxp := hv.maxPacketSize_le
  have hDl := hv.destConnID_le
  have hSl := hv.srcConnID_le
  unfold MinInitialPacketSize at hmin
  unfold MaxPacketSizeIPv4 at hmaxp
  have hD20 : p.destConnID.length ≤ 20 := hDl
  have hS20 : p.srcConnID.length ≤ 20 := hSl
  have hvar : (varIntBytes p.maxPacketSize).length = 2 := by
    rw [varIntBytes_length]
    unfold maxVarInt1 maxVarInt2
    split_ifs <;> omega
  have hvar0 : (varIntBytes 0).length = 1 := rfl
  have hbytes := longHeaderBytes_length hdr
  rw [hD, hS, hT, hL, hvar, List.length_nil, hvar0] at hbytes
  refine ⟨_, ExtendedHeader.GetLength_long hlong (by rw [hL]; unfold maxVarInt8; omega)
    (fun _ => by rw [hT]; decide), by rw [hbytes, hpnLen]; split <;> omega, ?_⟩
  intro length frames w hw hroom hlen hover2
  rw [hbytes, hpnLen] at hroom hover2
  obtain ⟨s', hpop, hs'⟩ := hpm.pop_peek _ hlive pn pnLen hpeek
  rw [writeAndSealPacket_long pm (by rcases hl with rfl | rfl <;> decide) (by rwa [hinit])]
  -- the length the header gets is below the maximum packet size, so its varint is no longer
  have hlen' : hdr.PacketNumberLen + sealer.Overhead + length ≤ p.maxPacketSize := by
    rw [hpnLen]
    split at hroom <;> omega
  have hvar' := varIntBytes_length_mono hlen'
  rw [hvar] at hvar'
  have hwrite := ExtendedHeader.Write_long p.version
    (h := { hdr with header.Length := hdr.PacketNumberLen + sealer.Overhead + length })
    (by simpa [hD] using hDl) (by simpa [hS] using hSl) (by simp [hO]) (by simp [hpnLen]) (by simp [hpnLen])
    hlong htype (by simp only; unfold maxVarInt8; omega) (by simp [hT])
  refine ⟨_, s', writeAndSealPacketWithPadding_eq pm hwrite rfl (by decide) hw ?_ (by rw [hpn]; exact hpop),
    hs', rfl, ?_⟩
  all_goals
    simp only [List.length_append, writeUintN_length, longHeaderBytes_length, List.length_replicate, hD, hS,
      hT, hpnLen, List.length_nil, hvar0]
    split at hroom <;> simp_all <;> omega

/-- A short header, of a 1-RTT packet, padded to the four bytes after the packet
number's start that the header protection samples. -/
theorem sealsWithin_short (hl : encLevel = .oneRTT) {hdr : ExtendedHeader}
    (hhdr : p.getShortHeader pm sealer.KeyPhase = .ok hdr) :
    ∃ hdrLen, p.SealsWithin pm encLevel Live sealer hdr hdrLen := by
  subst hl
  obtain ⟨pn, pnLen, hpeek, h1, h4⟩ := hpm.peek_ok _ hlive
  have hf : hdr.header.IsLongHeader = false ∧ hdr.header.DestConnectionID = p.destConnID ∧
      hdr.header.SrcConnectionID = [] ∧ hdr.header.OrigDestConnectionID = [] ∧ hdr.PacketNumber = pn ∧
      hdr.PacketNumberLen = pnLen := by
    rw [getShortHeader_eq pm hpeek] at hhdr
    cases hhdr
    exact ⟨rfl, rfl, rfl, rfl, rfl, rfl⟩
  obtain ⟨hshort, hD, hS, hO, hpn, hpnLen⟩ := hf
  have hmin := hv.min_le_maxPacketSize
  have hDl := hv.destConnID_le
  unfold MinInitialPacketSize at hmin
  unfold MaxConnIDLen at hDl
  unfold PacketNumberLen4 at h4
  refine ⟨_, ExtendedHeader.GetLength_short p.version hshort, by rw [hD, hpnLen]; omega, ?_⟩
  intro length frames w hw hroom hlen hover2
  rw [hD, hpnLen] at hroom hover2
  obtain ⟨s', hpop, hs'⟩ := hpm.pop_peek _ hlive pn pnLen hpeek
  rw [writeAndSealPacket_oneRTT pm]
  have hwrite := ExtendedHeader.Write_short p.version (h := hdr) (by rw [hD]; exact hv.destConnID_le)
    (by rw [hS]; decide) (by rw [hO]; decide) (by omega) (by omega) hshort
  have hsub : subU64 4 pnLen = 4 - pnLen := subU64_of_le (by omega) (by omega)
  have hpad : (if length < 4 - pnLen then subU64 (4 - pnLen) length else 0) ≤ 3 ∧
      (if length < 4 - pnLen then subU64 (4 - pnLen) length else 0) + w.length ≤
        p.maxPacketSize - sealer.Overhead - (1 + p.destConnID.length + pnLen) := by
    split
    · rw [subU64_of_le (by omega) (by omega)]
      omega
    · omega
  refine ⟨_, s', writeAndSealPacketWithPadding_eq pm hwrite rfl ?_ hw ?_ (by rw [hpn]; exact hpop), hs', rfl, ?_⟩
  · simp only [hpnLen, hsub]
    exact hpad.1.trans (by decide)
  all_goals
    simp only [List.length_append, List.length_singleton, writeUintN_length, List.length_replicate, hD,
      hpnLen, hsub]
    omega

/-- At every level a retransmission is right at, the round's header leaves room and
seals within `maxPacketSize`. -/
theorem sealsWithin_of_retransmitsAt (hl : p.RetransmitsAt encLevel)
    (hseal : p.cryptoSetup.sealerFor encLevel = .ok sealer) :
    ∃ hdr hdrLen, p.getSealerAndHeader pm encLevel = .ok (sealer, hdr) ∧
      p.SealsWithin pm encLevel Live sealer hdr hdrLen := by
  rw [getSealerAndHeader_eq, hseal, ok_bind]
  obtain ⟨pn, pnLen, hpeek, -, -⟩ := hpm.peek_ok _ hlive
  by_cases h1 : encLevel = .oneRTT
  case pos =>
    rw [if_pos h1]
    subst h1
    have hhdr := @getShortHeader_eq _ pm _ sealer.KeyPhase _ _ hpeek
    obtain ⟨hdrLen, hs⟩ := sealsWithin_short pm hv hover hpm hlive rfl hhdr
    exact ⟨_, hdrLen, by rw [hhdr]; rfl, hs⟩
  case neg =>
    rw [if_neg h1]
    have hhdr := getLongHeader_eq pm hpeek
    have hl' : encLevel = .initial ∨ encLevel = .handshake := by
      rcases hl with h | h | ⟨h, -⟩
      · exact Or.inr h
      · exact absurd h h1
      · exact Or.inl h
    have hc : ¬ (p.perspective = .client ∧ encLevel = .initial) := by
      rcases hl with h | h | ⟨-, hs⟩
      · rintro ⟨-, h'⟩
        rw [h] at h'
        cases h'
      · exact absurd h h1
      · rintro ⟨hc, -⟩
        rw [hs] at hc
        cases hc
    obtain ⟨hdrLen, hs⟩ := sealsWithin_long pm hv hover hpm hlive hl' hc hhdr
    exact ⟨_, hdrLen, by rw [hhdr]; rfl, hs⟩

end Header

/-! ## One round -/

section Round

variable {p : PacketPacker σ} {encLevel : EncryptionLevel} {sealer : Sealer}
  (hv : p.Valid) (hover : sealer.Overhead ≤ 16) (hpm : pm.Lawful encLevel Live) (hlive : Live p.pnManager)
  (hl : p.RetransmitsAt encLevel) (hseal : p.cryptoSetup.sealerFor encLevel = .ok sealer)
include hv hover hpm hlive hl hseal

/-- One round packs the control frames it takes off the queue but the REPAIR and
FEC_SRC_FPI frames, then STREAM frames sent from their queue, into at most one
packet that fits into `maxPacketSize`; it takes something off the queues while
they are not empty. -/
theorem retransmissionRound_spec {cs : List Frame} {ss : List StreamFrame}
    (hcs : ∀ f ∈ cs, f.asStreamFrame = none ∧ (∃ w, f.write = .ok w) ∧ p.FitsEmpty pm encLevel Live f)
    (hss : ∀ f ∈ ss, f.Sendable) :
    ∃ packet cs' ss' s', p.retransmissionRound pm encLevel cs ss =
        .ok (packet, cs', ss', { p with pnManager := s' }) ∧ Live s' ∧
      (∃ taken, cs = taken ++ cs' ∧
        (packet.toList.flatMap PackedPacket.frames).filter (fun f => f.asStreamFrame.isNone) =
          taken.filter fun f => !f.isFECFrame) ∧
      Emitted StreamFrame.PiecesOf ss
        ((packet.toList.flatMap PackedPacket.frames).filterMap Frame.asStreamFrame) ss' ∧
      (∀ pkt ∈ packet.toList, pkt.raw.length + sealer.Overhead ≤ p.maxPacketSize) ∧
      (∀ f ∈ ss', f.Sendable) ∧
      (cs ≠ [] ∨ ss ≠ [] → cs'.length + streamDataLeft ss' < cs.length + streamDataLeft ss) := by
  obtain ⟨hdr, hdrLen, hsh, hlen, hbound, hseals⟩ := sealsWithin_of_retransmitsAt pm hv hover hpm hlive hl hseal
  have hmin := hv.min_le_maxPacketSize
  have hmaxp := hv.maxPacketSize_le
  unfold MinInitialPacketSize at hmin
  unfold MaxPacketSizeIPv4 at hmaxp
  have hroom : subU64 (subU64 p.maxPacketSize sealer.Overhead) hdrLen =
      p.maxPacketSize - sealer.Overhead - hdrLen := by
    have h1 : subU64 p.maxPacketSize sealer.Overhead = p.maxPacketSize - sealer.Overhead :=
      subU64_of_le (by omega) (by omega)
    rw [h1, subU64_of_le (by omega) (by omega)]
  have hm2 : p.maxPacketSize - sealer.Overhead - hdrLen ≤ maxVarInt2 := by
    unfold maxVarInt2
    omega
  have hempty : p.emptyPacketRoom pm encLevel = .ok (p.maxPacketSize - sealer.Overhead - hdrLen) := by
    simp [emptyPacketRoom, hsh, hlen, hroom]
  obtain ⟨taken, cs', wc, rfl, hctrl, hwc, hwcm, hprog⟩ :=
    retransmitControlFrames_spec (p.maxPacketSize - sealer.Overhead - hdrLen) cs 0 [] (Nat.zero_le _)
      (fun f hf => (hcs f hf).2.1)
  simp only [Nat.zero_add, List.nil_append] at hctrl hwcm
  have hcontrol : ∀ f ∈ taken.filter (fun f => !f.isFECFrame), f.asStreamFrame = none :=
    fun f hf => (hcs f (List.mem_append_left _ (List.mem_filter.1 hf).1)).1
  have hpacks : Packs (p.maxPacketSize - sealer.Overhead - hdrLen) wc.length
      (taken.filter fun f => !f.isFECFrame) :=
    ⟨⟨wc, hwc, rfl⟩, ⟨wc, by rw [withoutLastDataLen_of_control hcontrol]; exact hwc, hwcm, le_rfl⟩, by omega⟩
  obtain ⟨ss', L, sent, hstream, hpacks', hss', hemit, hle, hprog'⟩ :=
    retransmitStreamFrames_spec hm2 ss wc.length _ hpacks hss
  have hkinds : ((taken.filter fun f => !f.isFECFrame) ++ sent.map Frame.stream).filter
      (fun f => f.asStreamFrame.isNone) = taken.filter fun f => !f.isFECFrame := by
    rw [List.filter_append, List.filter_eq_self.2 (fun f hf => by simp [hcontrol f hf])]
    simp [Frame.asStreamFrame]
  have hstreams : ((taken.filter fun f => !f.isFECFrame) ++ sent.map Frame.stream).filterMap
      Frame.asStreamFrame = sent := by
    rw [List.filterMap_append, List.filterMap_eq_nil_iff.2 hcontrol, List.nil_append, List.filterMap_map]
    exact List.filterMap_some
  -- progress: a control frame that fits an empty packet, or else STREAM data
  have hdecr : taken ++ cs' ≠ [] ∨ ss ≠ [] →
      cs'.length + streamDataLeft ss' < (taken ++ cs').length + streamDataLeft ss := by
    intro hne
    rw [List.length_append]
    by_cases ht : taken = []
    case neg =>
      have := List.length_pos_iff.2 ht
      omega
    case pos =>
      subst ht
      rcases cs' with _ | ⟨f, cs''⟩
      · have hss : ss ≠ [] := by simpa using hne
        have hwc0 : wc = [] := by simpa [Frame.writeAll] using hwc.symm
        subst hwc0
        have := hprog' hss (by unfold MinStreamFrameSize at *; simp; omega)
        omega
      · obtain ⟨-, ⟨wf, hwf⟩, hfits⟩ := hcs f (by simp)
        have hlf := Frame.length_of_write hwf
        exact absurd rfl (hprog f (by simp) _ hlf (by simpa using hfits _ hlive _ _ hempty hlf))
  unfold retransmissionRound
  simp only [hsh, hlen, ok_bind, hroom, hctrl, hstream]
  by_cases hne : ((taken.filter fun f => !f.isFECFrame) ++ sent.map Frame.stream).length > 0
  case pos =>
    obtain ⟨w, hw, hwm, hwL⟩ := hpacks'.final
    obtain ⟨pkt, s', hwrite, hs', hframes, hsize⟩ := hseals L _ w hw hwm hwL hpacks'.length_le
    refine ⟨some pkt, cs', ss', s', by rw [if_pos hne, hwrite]; rfl, hs', ⟨taken, rfl, ?_⟩, ?_,
      by simpa using hsize, hss', hdecr⟩
    · simp [hframes, withoutLastDataLen_filter_control, hkinds]
    · refine hemit.congr StreamFrame.withoutDataLen StreamFrame.piecesOf_congr ?_
      simp only [Option.toList_some, List.flatMap_singleton, hframes, withoutLastDataLen_streams, hstreams]
  case neg =>
    have hnil : (taken.filter fun f => !f.isFECFrame) = [] ∧ sent = [] := by simpa using hne
    obtain ⟨hF, rfl⟩ := hnil
    refine ⟨none, cs', ss', p.pnManager, by rw [if_neg hne]; rfl, hlive, ⟨taken, rfl, by simp [hF]⟩,
      by simpa using hemit, by simp, hss', hdecr⟩

end Round

/-! ## The whole loop -/

section Loop

variable {p : PacketPacker σ} {encLevel : EncryptionLevel} {sealer : Sealer}
  (hv : p.Valid) (hover : sealer.Overhead ≤ 16) (hpm : pm.Lawful encLevel Live)
  (hl : p.RetransmitsAt encLevel) (hseal : p.cryptoSetup.sealerFor encLevel = .ok sealer)
include hv hover hpm hl hseal

/-- From any live packet-number state, and with control frames that each fit into
an empty packet, the loop sends the control frames but REPAIR and FEC_SRC_FPI and
the STREAM frames in pieces, in packets that fit into `maxPacketSize`, within one
round more than there are control frames, STREAM frames and bytes of STREAM data. -/
theorem retransmissionLoop_spec (cs : List Frame) (ss : List StreamFrame) (s : σ)
    (packets : List PackedPacket) (hlive : Live s)
    (hcs : ∀ f ∈ cs, f.asStreamFrame = none ∧ (∃ w, f.write = .ok w) ∧ p.FitsEmpty pm encLevel Live f)
    (hss : ∀ f ∈ ss, f.Sendable) :
    ∃ sent s', Live s' ∧
      (∀ fuel, cs.length + streamDataLeft ss < fuel →
        retransmissionLoop pm encLevel fuel { p with pnManager := s } cs ss packets =
          some (.ok (packets ++ sent, { p with pnManager := s' }))) ∧
      (sent.flatMap PackedPacket.frames).filter (fun f => f.asStreamFrame.isNone) =
        cs.filter (fun f => !f.isFECFrame) ∧
      Emitted StreamFrame.PiecesOf ss ((sent.flatMap PackedPacket.frames).filterMap Frame.asStreamFrame) [] ∧
      ∀ pkt ∈ sent, pkt.raw.length + sealer.Overhead ≤ p.maxPacketSize := by
  -- strong induction on the rounds left, over every state, queue and list of packets
  induction hn : cs.length + streamDataLeft ss using Nat.strong_induction_on
      generalizing cs ss s packets with
  | _ n ih =>
    by_cases hne : cs ≠ [] ∨ ss ≠ []
    case neg =>
      obtain ⟨rfl, rfl⟩ : cs = [] ∧ ss = [] := by simpa [not_or] using hne
      refine ⟨[], s, hlive, fun fuel hfuel => ?_, by simp, ?_, by simp⟩
      · obtain ⟨k, rfl⟩ : ∃ k, fuel = k + 1 := ⟨fuel - 1, by omega⟩
        rw [retransmissionLoop_done, List.append_nil]
      · simp only [List.flatMap_nil, List.filterMap_nil]
        exact emitted_refl []
    case pos =>
      obtain ⟨packet, cs', ss', s1, hround, hs1, ⟨taken, rfl, hctl⟩, hemit, hsize, hss', hdecr⟩ :=
        retransmissionRound_spec pm (hv.update_pnManager s) hover hpm hlive hl hseal hcs hss
      have hlt := hdecr hne
      obtain ⟨sent, s', hs', hloop, hctl', hemit', hsize'⟩ :=
        ih (cs'.length + streamDataLeft ss') (by omega) cs' ss' s1 (packets ++ packet.toList) hs1
          (fun f hf => hcs f (List.mem_append_right _ hf)) hss' rfl
      refine ⟨packet.toList ++ sent, s', hs', fun fuel hfuel => ?_, ?_, ?_, ?_⟩
      · obtain ⟨k, rfl⟩ : ∃ k, fuel = k + 1 := ⟨fuel - 1, by omega⟩
        rw [retransmissionLoop_round pm hne hround, ← List.append_assoc]
        exact hloop k (by omega)
      · rw [List.flatMap_append, List.filter_append, hctl, hctl', List.filter_append]
      · rw [List.flatMap_append, List.filterMap_append]
        exact hemit.trans hemit'
      · intro pkt hpkt
        rcases List.mem_append.1 hpkt with h | h
        · exact hsize pkt h
        · exact hsize' pkt h

end Loop

/-! ## `PackRetransmission` -/

/-- The rounds `PackRetransmission` needs at most, the one that finds the queues
empty apart: one for each frame of the packet and each byte of its STREAM data. -/
def retransmissionRounds (packet : Packet) : Nat :=
  packet.frames.length + ((packet.frames.filterMap Frame.asStreamFrame).map fun f => f.data.length).sum

/-- The queues `PackRetransmission` starts from hold `retransmissionRounds` rounds. -/
theorem retransmissionQueues_size (frames : List Frame) :
    (frames.filter fun f => f.asStreamFrame.isNone).length +
        streamDataLeft (frames.filterMap fun f =>
          f.asStreamFrame.map fun sf => { sf with dataLenPresent := true }) =
      frames.length + ((frames.filterMap Frame.asStreamFrame).map fun f => f.data.length).sum := by
  induction frames with
  | nil => simp [streamDataLeft]
  | cons f frames ih =>
    -- a control frame takes one round, a STREAM frame one and one per byte
    rcases hf : f.asStreamFrame with _ | sf
    · simp only [List.filter_cons, List.filterMap_cons, hf, Option.isNone_none, if_true, Option.map_none,
        List.length_cons]
      omega
    · simp only [streamDataLeft] at ih
      simp only [List.filter_cons, List.filterMap_cons, hf, Option.isNone_some, Bool.false_eq_true, if_false,
        Option.map_some, streamDataLeft, List.map_cons, List.sum_cons, List.length_cons]
      omega

/-- At the levels a retransmission is right at, `PackRetransmission` of a packet whose
frames are written, whose control frames each fit into an empty packet and whose
STREAM frames end within `MaxByteCount` returns within `retransmissionRounds`
rounds: packets that fit into `maxPacketSize`, with the control frames but REPAIR and
FEC_SRC_FPI in order, and each STREAM frame in pieces. -/
theorem PackRetransmission_sends {p : PacketPacker σ} {sealer : Sealer} {packet : Packet} (hv : p.Valid)
    (hover : sealer.Overhead ≤ 16) (hpm : pm.Lawful packet.encryptionLevel Live) (hlive : Live p.pnManager)
    (hl : p.RetransmitsAt packet.encryptionLevel)
    (hseal : p.cryptoSetup.sealerFor packet.encryptionLevel = .ok sealer)
    (hwrite : ∀ f ∈ packet.frames, ∃ w, f.write = .ok w)
    (hfit : ∀ f ∈ packet.frames, f.asStreamFrame = none → p.FitsEmpty pm packet.encryptionLevel Live f)
    (hend : ∀ sf, Frame.stream sf ∈ packet.frames → sf.offset + sf.data.length ≤ MaxByteCount) :
    ∃ packets s', Live s' ∧
      (∀ fuel, retransmissionRounds packet < fuel →
        p.PackRetransmission pm fuel packet = some (.ok (packets, { p with pnManager := s' }))) ∧
      (∀ pkt ∈ packets, pkt.raw.length + sealer.Overhead ≤ p.maxPacketSize) ∧
      (packets.flatMap PackedPacket.frames).filter (fun f => f.asStreamFrame.isNone) =
        packet.frames.filter (fun f => f.asStreamFrame.isNone && !f.isFECFrame) ∧
      ∃ pieces, List.Forall₂ StreamFrame.PiecesOf (packet.frames.filterMap Frame.asStreamFrame) pieces ∧
        (packets.flatMap PackedPacket.frames).filterMap Frame.asStreamFrame = pieces.flatten := by
  have hcs : ∀ f ∈ packet.frames.filter (fun f => f.asStreamFrame.isNone),
      f.asStreamFrame = none ∧ (∃ w, f.write = .ok w) ∧ p.FitsEmpty pm packet.encryptionLevel Live f := by
    intro f hf
    obtain ⟨hmem, hnone⟩ := List.mem_filter.1 hf
    have hnone' : f.asStreamFrame = none := Option.isNone_iff_eq_none.1 hnone
    exact ⟨hnone', hwrite f hmem, hfit f hmem hnone'⟩
  have hss : ∀ f ∈ packet.frames.filterMap (fun f =>
      f.asStreamFrame.map fun sf => { sf with dataLenPresent := true }), f.Sendable := by
    intro f hf
    obtain ⟨g, hg, hgf⟩ := List.mem_filterMap.1 hf
    obtain ⟨sf, hsf, rfl⟩ := Option.map_eq_some_iff.1 hgf
    rw [Frame.asStreamFrame_eq_some] at hsf
    subst hsf
    obtain ⟨w, hw⟩ := hwrite _ hg
    exact (StreamFrame.Sendable.of_write (f := sf) hw (hend sf hg)).setDataLen true
  obtain ⟨sent, s', hs', hloop, hctl, hemit, hsize⟩ :=
    retransmissionLoop_spec pm hv hover hpm hl hseal _ _ p.pnManager [] hlive hcs hss
  obtain ⟨pieces, hpieces, hflat⟩ := hemit.flatten_of_nil
  refine ⟨sent, s', hs', fun fuel hfuel => ?_, hsize, ?_, pieces, ?_, hflat⟩
  · have h := hloop fuel (by rw [retransmissionQueues_size]; exact hfuel)
    rw [List.nil_append] at h
    exact h
  · rw [hctl, List.filter_filter]
    congr 1
    funext f
    exact Bool.and_comm _ _
  · -- the loop's STREAM frames are the packet's with their length field: the same pieces
    rw [← List.map_filterMap] at hpieces
    exact (List.forall₂_map_left_iff.1 hpieces).imp fun _ _ h => h

/-- A round of a client's Initial retransmission of one control frame that fits into an
empty packet but not into the room a `MinInitialPacketSize` packet leaves: the padding
count runs below zero and the round panics. -/
theorem retransmissionRound_clientInitial_panics {p : PacketPacker σ} {sealer : Sealer} (hv : p.Valid)
    (hover : sealer.Overhead ≤ 16) (hpm : pm.Lawful .initial Live) (hlive : Live p.pnManager)
    (hc : p.perspective = .client) (htoken : p.token = [])
    (hseal : p.cryptoSetup.GetInitialSealer = .ok sealer) {f : Frame} {len : Nat}
    (hfec : f.isFECFrame = false) (hlen : f.length = .ok len) (hfits : p.FitsEmpty pm .initial Live f)
    (hbig : MinInitialPacketSize - sealer.Overhead - (14 + p.destConnID.length + p.srcConnID.length) < len) :
    p.retransmissionRound pm .initial [f] [] = .error (.panic "bytes: negative Repeat count") := by
  obtain ⟨pn, pnLen, hpeek, -, -⟩ := hpm.peek_ok _ hlive
  obtain ⟨hdr, hhdr⟩ : ∃ hdr, p.getLongHeader pm .initial = .ok hdr := ⟨_, getLongHeader_eq pm hpeek⟩
  obtain ⟨hlong, htype, hinit, hD, hS, hO, hT, -, -, hpnLen⟩ :=
    getLongHeader_fields pm hpeek (Or.inl rfl) hhdr
  have hhdrLen := getLongHeader_length pm hv hpeek (Or.inl rfl) hhdr
  have hroom := emptyPacketRoom_long pm hv hover hpm hlive (Or.inl rfl) hseal
  simp only [if_true] at hhdrLen hroom
  have hfit := hfits _ hlive (p.maxPacketSize - sealer.Overhead -
    (13 + p.destConnID.length + p.srcConnID.length + 1)) len hroom hlen
  have hmin := hv.min_le_maxPacketSize
  have hmaxp := hv.maxPacketSize_le
  have hD20 : p.destConnID.length ≤ 20 := hv.destConnID_le
  have hS20 : p.srcConnID.length ≤ 20 := hv.srcConnID_le
  unfold MinInitialPacketSize at hmin hbig
  unfold MaxPacketSizeIPv4 at hmaxp
  have hsh : p.getSealerAndHeader pm .initial = .ok (sealer, hdr) := by
    simp [getSealerAndHeader, hseal, hhdr]
  have hsub : subU64 (subU64 p.maxPacketSize sealer.Overhead)
      (13 + p.destConnID.length + p.srcConnID.length + 1) =
      p.maxPacketSize - sealer.Overhead - (13 + p.destConnID.length + p.srcConnID.length + 1) := by
    rw [subU64_of_le (a := p.maxPacketSize) (b := sealer.Overhead) (by omega) (by omega),
      subU64_of_le (by omega) (by omega)]
  have hctrl : retransmitControlFrames
      (p.maxPacketSize - sealer.Overhead - (13 + p.destConnID.length + p.srcConnID.length + 1)) [f] 0 [] =
      .ok ([], len, [f]) := by
    simp [retransmitControlFrames, hlen, hfec, Nat.not_lt.mpr hfit]
  -- the client's header gets the packer's empty token, and so keeps its length
  have htok : ({ hdr with header.Token := p.token } : ExtendedHeader) = hdr := by
    rw [htoken, ← hT]
  have hhdrLen' : ({ hdr with header.Token := p.token } : ExtendedHeader).GetLength p.version =
      .ok (13 + p.destConnID.length + p.srcConnID.length + 1) := by
    rw [htok, hhdrLen]
  have hwrite := ExtendedHeader.Write_long p.version
    (h := { ({ hdr with header.Token := p.token } : ExtendedHeader) with
      header.Length := subU64 (hdr.PacketNumberLen + MinInitialPacketSize)
        (13 + p.destConnID.length + p.srcConnID.length + 1) })
    (by simpa [hD] using hv.destConnID_le) (by simpa [hS] using hv.srcConnID_le) (by simp [hO])
    (by simp [hpnLen]) (by simp [hpnLen]) hlong htype
    (by
      simp only [hpnLen]
      unfold MinInitialPacketSize maxVarInt8
      rw [subU64_of_le (by omega) (by omega)]
      omega)
    (by simp [htoken])
  -- the padding count: what the header leaves of a `MinInitialPacketSize` packet, less the payload
  have hu : toUint64 ((MinInitialPacketSize : Int) - sealer.Overhead) = 1200 - sealer.Overhead := by
    unfold MinInitialPacketSize
    rw [toUint64_of_nonneg (by omega) (by omega)]
    omega
  have hpad : subU64 (subU64 (toUint64 ((MinInitialPacketSize : Int) - sealer.Overhead))
      (13 + p.destConnID.length + p.srcConnID.length + 1)) len =
      2 ^ 64 - len + (1200 - sealer.Overhead - (14 + p.destConnID.length + p.srcConnID.length)) := by
    rw [hu, subU64_of_le (a := 1200 - sealer.Overhead) (by omega) (by omega),
      subU64_of_lt (by omega) (by omega)]
    omega
  have hpanic : p.writeAndSealPacket pm hdr { frames := withoutLastDataLen [f], length := len } .initial
      sealer = .error (.panic "bytes: negative Repeat count") := by
    rw [writeAndSealPacket_clientInitial pm (by decide) hc (hinit.2 rfl) hhdrLen']
    exact writeAndSealPacketWithPadding_negative pm hwrite rfl (by rw [hpad]; omega) (by rw [hpad]; omega)
  unfold retransmissionRound
  simp only [hsh, hhdrLen, ok_bind, hsub, hctrl, retransmitStreamFrames_nil, List.length_singleton,
    Nat.lt_add_one, if_true, hpanic, error_bind]

/-- A client's lost Initial packet of one control frame that fits into an empty packet
but not into the room a `MinInitialPacketSize` packet leaves: `PackRetransmission`
panics in its first round. -/
theorem PackRetransmission_clientInitial_panics {p : PacketPacker σ} {sealer : Sealer} {packet : Packet}
    (hv : p.Valid) (hover : sealer.Overhead ≤ 16) (hpm : pm.Lawful .initial Live) (hlive : Live p.pnManager)
    (hc : p.perspective = .client) (htoken : p.token = [])
    (hseal : p.cryptoSetup.GetInitialSealer = .ok sealer) (hlevel : packet.encryptionLevel = .initial)
    {f : Frame} {len : Nat} (hframes : packet.frames = [f]) (hf : f.asStreamFrame = none)
    (hfec : f.isFECFrame = false) (hlen : f.length = .ok len) (hfits : p.FitsEmpty pm .initial Live f)
    (hbig : MinInitialPacketSize - sealer.Overhead - (14 + p.destConnID.length + p.srcConnID.length) < len)
    (fuel : Nat) :
    p.PackRetransmission pm (fuel + 1) packet = some (.error (.panic "bytes: negative Repeat count")) := by
  unfold PackRetransmission
  simp only [hframes, hlevel, List.filter_cons, List.filter_nil, List.filterMap_cons, List.filterMap_nil, hf,
    Option.isNone_none, if_true, Option.map_none]
  exact retransmissionLoop_error pm (Or.inl (List.cons_ne_nil _ _))
    (retransmissionRound_clientInitial_panics pm hv hover hpm hlive hc htoken hseal hfec hlen hfits hbig)

/-- `PackRetransmission` ends and sends a lost packet's frames again at the levels a
retransmission is right at: the control frames but REPAIR and FEC_SRC_FPI once each
and in order, each STREAM frame in pieces, in packets that fit into `maxPacketSize`.
A client's Initial packet of a frame longer than the room of a `MinInitialPacketSize`
packet makes it panic on the padding count instead. -/
theorem PackRetransmission_preserves_frames :
    (∀ {σ : Type} (pm : PacketNumberManager σ) (Live : σ → Prop) (p : PacketPacker σ) (sealer : Sealer)
      (packet : Packet), p.Valid → sealer.Overhead ≤ 16 → pm.Lawful packet.encryptionLevel Live →
      Live p.pnManager → p.RetransmitsAt packet.encryptionLevel →
      p.cryptoSetup.sealerFor packet.encryptionLevel = .ok sealer →
      (∀ f ∈ packet.frames, ∃ w, f.write = .ok w) →
      (∀ f ∈ packet.frames, f.asStreamFrame = none → p.FitsEmpty pm packet.encryptionLevel Live f) →
      (∀ sf, Frame.stream sf ∈ packet.frames → sf.offset + sf.data.length ≤ MaxByteCount) →
      ∃ packets s', Live s' ∧
        (∀ fuel, retransmissionRounds packet < fuel →
          p.PackRetransmission pm fuel packet = some (.ok (packets, { p with pnManager := s' }))) ∧
        (∀ pkt ∈ packets, pkt.raw.length + sealer.Overhead ≤ p.maxPacketSize) ∧
        (packets.flatMap PackedPacket.frames).filter (fun f => f.asStreamFrame.isNone) =
          packet.frames.filter (fun f => f.asStreamFrame.isNone && !f.isFECFrame) ∧
        ∃ pieces, List.Forall₂ StreamFrame.PiecesOf (packet.frames.filterMap Frame.asStreamFrame) pieces ∧
          (packets.flatMap PackedPacket.frames).filterMap Frame.asStreamFrame = pieces.flatten) ∧
    (∀ {σ : Type} (pm : PacketNumberManager σ) (Live : σ → Prop) (p : PacketPacker σ) (sealer : Sealer)
      (packet : Packet) (f : Frame) (len fuel : Nat), p.Valid → sealer.Overhead ≤ 16 →
      pm.Lawful .initial Live → Live p.pnManager → p.perspective = .client → p.token = [] →
      p.cryptoSetup.GetInitialSealer = .ok sealer → packet.encryptionLevel = .initial →
      packet.frames = [f] → f.asStreamFrame = none → f.isFECFrame = false → f.length = .ok len →
      p.FitsEmpty pm .initial Live f →
      MinInitialPacketSize - sealer.Overhead - (14 + p.destConnID.length + p.srcConnID.length) < len →
      p.PackRetransmission pm (fuel + 1) packet = some (.error (.panic "bytes: negative Repeat count"))) :=
  ⟨fun pm _ _ _ _ hv hover hpm hlive hl hseal hwrite hfit hend =>
      PackRetransmission_sends pm hv hover hpm hlive hl hseal hwrite hfit hend,
    fun pm _ _ _ _ _ _ fuel hv hover hpm hlive hc htoken hseal hlevel hframes hf hfec hlen hfits hbig =>
      PackRetransmission_clientInitial_panics pm hv hover hpm hlive hc htoken hseal hlevel hframes hf hfec
        hlen hfits hbig fuel⟩

/-- A client on an IPv4 path, with connection IDs of eight bytes, loses an Initial
packet of one CRYPTO frame of 1180 bytes: the frame fits into an empty Initial packet,
and its retransmission panics. -/
theorem PackRetransmission_client_crypto_panics :
    (newPacketPacker (List.replicate 8 0) (List.replicate 8 0) (newSentPacketHandler 0 ⟨0, 0, 0, 0, 0⟩ 0 0 0, [])
        .udpIPv4 ⟨.ok ⟨16, false⟩, .ok ⟨16, false⟩, .ok ⟨16, false⟩⟩ .client VersionTLS).FitsEmpty
        sentPacketHandlerManager .initial (fun s => ∃ sp, s.1.getPacketNumberSpace .initial = .ok sp)
        (.crypto ⟨0, List.replicate 1180 0⟩) ∧
      (newPacketPacker (List.replicate 8 0) (List.replicate 8 0)
        (newSentPacketHandler 0 ⟨0, 0, 0, 0, 0⟩ 0 0 0, []) .udpIPv4
        ⟨.ok ⟨16, false⟩, .ok ⟨16, false⟩, .ok ⟨16, false⟩⟩ .client VersionTLS).PackRetransmission
        sentPacketHandlerManager 1
        { (default : Packet) with frames := [.crypto ⟨0, List.replicate 1180 0⟩], encryptionLevel := .initial } =
        some (.error (.panic "bytes: negative Repeat count")) :=
  have hv := @newPacketPacker_valid _ (List.replicate 8 0) (List.replicate 8 0)
    (newSentPacketHandler 0 ⟨0, 0, 0, 0, 0⟩ 0 0 0, []) .udpIPv4
    ⟨.ok ⟨16, false⟩, .ok ⟨16, false⟩, .ok ⟨16, false⟩⟩ .client VersionTLS (by decide) (by decide)
  have hlen : (Frame.crypto ⟨0, List.replicate 1180 0⟩).length = .ok 1184 := by
    simp only [Frame.length, CryptoFrame.length, List.length_replicate]
    rfl
  have hfits := @fitsEmpty_long _ sentPacketHandlerManager _ _ .initial ⟨16, false⟩ hv le_rfl
    (sentPacketHandlerManager_lawful .initial) (Or.inl rfl) rfl (.crypto ⟨0, List.replicate 1180 0⟩)
    (fun len h => by
      rw [hlen] at h
      cases h
      decide)
  ⟨hfits, PackRetransmission_preserves_frames.2 sentPacketHandlerManager _ _ ⟨16, false⟩ _ _ 1184 0 hv le_rfl
    (sentPacketHandlerManager_lawful .initial) ⟨_, rfl⟩ rfl rfl rfl rfl rfl rfl rfl hlen hfits (by decide)⟩

end PacketPacker

end QuicFec
