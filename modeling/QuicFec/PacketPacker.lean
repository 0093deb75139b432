import QuicFec.FrameSplit
import QuicFec.FrameRoundTrip
import QuicFec.HeaderRoundTrip
import QuicFec.HandlerFrame
import QuicFec.PacketNumberLength
import QuicFec.TransportParameters
import QuicFec.Lib.Emission

/-! # Packing retransmissions

`packetPacker` (packet_packer.go) builds the packets a connection sends.  Its
headers come from `getLongHeader` and `getShortHeader`, with the packet number the
packet-number manager shows; `writeAndSealPacket` sets the header's length, pads,
writes header and payload into one buffer, checks the sealed packet against
`maxPacketSize`, and pops the packet number.  `PackRetransmission` sends the
frames of a lost packet again: the control frames first, as many as fit, then the
STREAM frames, split where a packet is full, in as many packets as it takes.

The packer reads its collaborators through interfaces; here each is what the
packer sees of it: a `Sealer` is its overhead and key phase, a `SealingManager` a
sealer per level or the reason there is none, and a `PacketNumberManager` a pair
of functions over the manager's own state.  The session's manager, its
`sentPacketHandler`, is one (`sentPacketHandlerManager`).  Sealing and header
protection are not modelled: `raw` is the packet before sealing, which adds
`Overhead` bytes.  An error ends the call and the session with it, so on an error
the model does not return the packer.

The loop of `PackRetransmission` need not end: a control frame that does not fit
into an empty packet is never taken.  It is modelled with fuel, `none` for a loop
still running when the fuel is spent.

**Pieces.**  What a retransmission is for is stated over the frames alone.  The
control frames that are sent again are, in order, those of the lost packet but
its REPAIR and FEC_SRC_FPI frames; every STREAM frame of the lost packet is sent
as pieces (`StreamFrame.PiecesOf`): frames on its stream at consecutive offsets
from its own, whose data in order is its data, the last with its FIN bit and the
others without.  The STREAM loop is a sender of a queue in pieces
(`Emission.Emitted`).
-/

namespace QuicFec
open GoBytes

/-- `protocol.MinInitialPacketSize`. -/
def MinInitialPacketSize : Nat := 1200

/-- `protocol.MaxPacketSizeIPv4`. -/
def MaxPacketSizeIPv4 : Nat := 1252

/-- `handshake.LongHeaderSealer`, and the `ShortHeaderSealer` that extends it, as the
packer uses them: the bytes sealing adds, and the key phase of 1-RTT keys. -/
structure Sealer where
  Overhead : Nat
  KeyPhase : Bool := KeyPhaseZero
  deriving DecidableEq, Repr

/-- `sealingManager`: the sealer of each level, or why there is none. -/
structure SealingManager where
  GetInitialSealer : Except GoError Sealer
  GetHandshakeSealer : Except GoError Sealer
  Get1RTTSealer : Except GoError Sealer

/-- `packetNumberManager`, over the manager's own state `σ`. -/
structure PacketNumberManager (σ : Type) where
  /-- The next packet number of a level, and the length to send it with. -/
  PeekPacketNumber : σ → EncryptionLevel → Except GoError (Int × Nat)
  /-- Takes the next packet number of a level. -/
  PopPacketNumber : σ → EncryptionLevel → Except GoError (Int × σ)

/-- `payload`. -/
structure Payload where
  frames : List Frame := []
  ack : Option AckFrame := none
  length : Nat := 0

/-- `packedPacket`, with `raw` the packet before sealing: the header, then the
plaintext payload. -/
structure PackedPacket where
  header : ExtendedHeader
  raw : Bytes
  ack : Option AckFrame
  frames : List Frame

/-- `packetPacker`, with the fields the packing of retransmissions reads, and
`pnManager` the state of its packet-number manager. -/
structure PacketPacker (σ : Type) where
  destConnID : Bytes
  srcConnID : Bytes
  perspective : Perspective
  version : Nat
  cryptoSetup : SealingManager
  token : Bytes
  pnManager : σ
  maxPacketSize : Nat

/-- What `getMaxPacketSize` sees of the remote `net.Addr`. -/
inductive RemoteAddr where
  | udpIPv4
  | udpIPv6
  | other
  deriving DecidableEq, Repr

/-- `getMaxPacketSize`: without a UDP address nothing is known of the MTU, and the
minimum size of an Initial packet is used. -/
def getMaxPacketSize : RemoteAddr → Nat
  | .udpIPv4 => MaxPacketSizeIPv4
  | .udpIPv6 => MaxPacketSizeIPv6
  | .other => MinInitialPacketSize

/-- `newPacketPacker`, with the fields modelled. -/
def newPacketPacker {σ : Type} (destConnID srcConnID : Bytes) (packetNumberManager : σ)
    (remoteAddr : RemoteAddr) (cryptoSetup : SealingManager) (perspective : Perspective)
    (version : Nat) : PacketPacker σ where
  destConnID := destConnID
  srcConnID := srcConnID
  perspective := perspective
  version := version
  cryptoSetup := cryptoSetup
  token := []
  pnManager := packetNumberManager
  maxPacketSize := getMaxPacketSize remoteAddr

namespace PacketPacker

variable {σ : Type} (pm : PacketNumberManager σ)

/-- `HandleTransportParameters`: the peer's maximum packet size lowers the packer's. -/
def HandleTransportParameters (p : PacketPacker σ) (params : TransportParameters) : PacketPacker σ :=
  if params.maxPacketSize ≠ 0 then { p with maxPacketSize := min p.maxPacketSize params.maxPacketSize }
  else p

/-- `SetToken`. -/
def SetToken (p : PacketPacker σ) (token : Bytes) : PacketPacker σ := { p with token }

/-- `ChangeDestConnectionID`. -/
def ChangeDestConnectionID (p : PacketPacker σ) (connID : Bytes) : PacketPacker σ :=
  { p with destConnID := connID }

/-- `getShortHeader`. -/
def getShortHeader (p : PacketPacker σ) (kp : Bool) : Except GoError ExtendedHeader := do
  let (pn, pnLen) ← pm.PeekPacketNumber p.pnManager .oneRTT
  return {
    header := { DestConnectionID := p.destConnID }
    PacketNumber := pn
    PacketNumberLen := pnLen
    KeyPhase := kp }

/-- `getLongHeader`.  The length is set to the maximum packet size: as a varint it
is at least as long as the length the packet gets. -/
def getLongHeader (p : PacketPacker σ) (encLevel : EncryptionLevel) : Except GoError ExtendedHeader := do
  let (pn, _) ← pm.PeekPacketNumber p.pnManager encLevel
  return {
    header := {
      DestConnectionID := p.destConnID
      PacketType := if encLevel = .initial then PacketTypeInitial
        else if encLevel = .handshake then PacketTypeHandshake else 0
      Version := p.version
      IsLongHeader := true
      SrcConnectionID := p.srcConnID
      Length := p.maxPacketSize }
    PacketNumber := pn
    -- always the longest packet number: a retransmission's header is never longer
    PacketNumberLen := PacketNumberLen4 }

/-- `getSealerAndHeader`. -/
def getSealerAndHeader (p : PacketPacker σ) : EncryptionLevel → Except GoError (Sealer × ExtendedHeader)
  | .initial => do
    let sealer ← p.cryptoSetup.GetInitialSealer
    return (sealer, ← p.getLongHeader pm .initial)
  | .handshake => do
    let sealer ← p.cryptoSetup.GetHandshakeSealer
    return (sealer, ← p.getLongHeader pm .handshake)
  | .oneRTT => do
    let sealer ← p.cryptoSetup.Get1RTTSealer
    return (sealer, ← p.getShortHeader pm sealer.KeyPhase)
  | .unspecified => throw (.error ("unexpected encryption level: " ++ EncryptionLevel.unspecified.toString))

/-- `writeAndSealPacketWithPadding`: the header, the ACK frame, the padding and the
frames into one buffer; the sealed packet must fit into `maxPacketSize`, and the
packet number popped must be the one in the header. -/
def writeAndSealPacketWithPadding (p : PacketPacker σ) (header : ExtendedHeader) (payload : Payload)
    (paddingLen : Nat) (encLevel : EncryptionLevel) (sealer : Sealer) :
    Except GoError (PackedPacket × PacketPacker σ) := do
  let hdr ← header.Write p.version
  let ack ← match payload.ack with
    | some ack => ack.write
    | none => pure []
  -- `int(paddingLen)` of a `uint64`
  let padding ← if paddingLen > 0 then repeatBytes [0] (toInt64 paddingLen) else pure []
  let frames ← Frame.writeAll payload.frames
  let raw := hdr ++ ack ++ padding ++ frames
  let size := raw.length + sealer.Overhead
  if size > p.maxPacketSize then
    throw (.error ("PacketPacker BUG: packet too large (" ++ toString size ++ " bytes, allowed " ++
      toString p.maxPacketSize ++ " bytes)"))
  let (num, pnManager) ← pm.PopPacketNumber p.pnManager encLevel
  if num ≠ header.PacketNumber then
    throw (.error "packetPacker BUG: Peeked and Popped packet numbers do not match")
  return ({ header, raw, ack := payload.ack, frames := payload.frames }, { p with pnManager })

/-- `writeAndSealPacket`: a long header gets its length; a client's Initial packet
gets the token and is padded to `MinInitialPacketSize`, and a 1-RTT packet is
padded to the 4 bytes the header protection samples after the packet number's
start.  The lengths are `uint64`s. -/
def writeAndSealPacket (p : PacketPacker σ) (header : ExtendedHeader) (payload : Payload)
    (encLevel : EncryptionLevel) (sealer : Sealer) : Except GoError (PackedPacket × PacketPacker σ) := do
  let pnLen := header.PacketNumberLen
  if encLevel ≠ .oneRTT then
    if p.perspective = .client ∧ header.header.PacketType = PacketTypeInitial then
      let header := { header with header.Token := p.token }
      let headerLen ← header.GetLength p.version
      let header := { header with header.Length := subU64 (pnLen + MinInitialPacketSize) headerLen }
      let paddingLen := subU64 (subU64 (toUint64 ((MinInitialPacketSize : Int) - sealer.Overhead))
        headerLen) payload.length
      p.writeAndSealPacketWithPadding pm header payload paddingLen encLevel sealer
    else
      let header := { header with header.Length := pnLen + sealer.Overhead + payload.length }
      p.writeAndSealPacketWithPadding pm header payload 0 encLevel sealer
  else
    let paddingLen := if payload.length < subU64 4 pnLen then subU64 (subU64 4 pnLen) payload.length
      else 0
    p.writeAndSealPacketWithPadding pm header payload paddingLen encLevel sealer

end PacketPacker

/-! ## The loop of `PackRetransmission` -/

/-- The STREAM frame behind a frame, if it is one. -/
def Frame.asStreamFrame : Frame → Option StreamFrame
  | .stream f => some f
  | _ => none

/-- The frames `PackRetransmission` does not send again. -/
def Frame.isFECFrame : Frame → Bool
  | .repair _ | .fecSrcFPI _ => true
  | _ => false

/-- The frames a packet carries, with the length field of a last STREAM frame
removed: it runs to the end of the packet. -/
def withoutLastDataLen (frames : List Frame) : List Frame :=
  match frames.getLast? with
  | some (.stream sf) => frames.dropLast ++ [.stream { sf with dataLenPresent := false }]
  | _ => frames

/-- The loop over the control frames: a frame that does not fit ends it, a REPAIR
or FEC_SRC_FPI frame that fits is dropped, any other is packed.  Returns the
frames left, the length packed and the frames of the packet. -/
def retransmitControlFrames (maxSize : Nat) :
    List Frame → Nat → List Frame → Except GoError (List Frame × Nat × List Frame)
  | [], length, frames => .ok ([], length, frames)
  | frame :: controlFrames, length, frames => do
    let frameLen ← frame.length
    if length + frameLen > maxSize then return (frame :: controlFrames, length, frames)
    if frame.isFECFrame then retransmitControlFrames maxSize controlFrames length frames
    else retransmitControlFrames maxSize controlFrames (length + frameLen) (frames ++ [frame])

/-- The data left in the STREAM frames to send, with one for each frame. -/
def streamDataLeft (streamFrames : List StreamFrame) : Nat :=
  (streamFrames.map fun f => f.data.length + 1).sum

/-- The loop over the STREAM frames, while a frame of `MinStreamFrameSize` still
fits: the frame is split for the room left, reckoned without its length field,
and a frame split off is packed while the rest stays at the head of the queue.
The frames keep their length field in the packet. -/
def retransmitStreamFrames (maxSize length : Nat) (frames : List Frame)
    (streamFrames : List StreamFrame) : Except GoError (List StreamFrame × Nat × List Frame) :=
  match streamFrames with
  | [] => .ok ([], length, frames)
  | frame :: rest =>
    if length + MinStreamFrameSize < maxSize then
      match hs : { frame with dataLenPresent := false }.maybeSplitOffFrame (subU64 maxSize length) with
      | .error err => .error err
      | .ok (some sf, frame') =>
        match sf.length with
        | .error err => .error err
        | .ok frameLen =>
          have _ : streamDataLeft ({ frame' with dataLenPresent := true } :: rest) <
              streamDataLeft (frame :: rest) := by
            have := StreamFrame.maybeSplitOffFrame_data_lt hs
            simp only [streamDataLeft, List.map_cons, List.sum_cons] at this ⊢
            omega
          retransmitStreamFrames maxSize (length + frameLen) (frames ++ [.stream sf])
            ({ frame' with dataLenPresent := true } :: rest)
      | .ok (none, frame') =>
        match ({ frame' with dataLenPresent := true } : StreamFrame).length with
        | .error err => .error err
        | .ok frameLen =>
          have _ : streamDataLeft rest < streamDataLeft (frame :: rest) := by
            simp only [streamDataLeft, List.map_cons, List.sum_cons]
            omega
          retransmitStreamFrames maxSize (length + frameLen)
            (frames ++ [.stream { frame' with dataLenPresent := true }]) rest
    else .ok (frame :: rest, length, frames)
termination_by streamDataLeft streamFrames

section StreamLoop

variable {maxSize length frameLen : Nat} {frames : List Frame} {frame frame' : StreamFrame}
  {rest : List StreamFrame}

theorem retransmitStreamFrames_nil (maxSize length : Nat) (frames : List Frame) :
    retransmitStreamFrames maxSize length frames [] = .ok ([], length, frames) := by
  rw [retransmitStreamFrames]

/-- Not even a minimal STREAM frame fits any more. -/
theorem retransmitStreamFrames_full (h : ¬ length + MinStreamFrameSize < maxSize) :
    retransmitStreamFrames maxSize length frames (frame :: rest) = .ok (frame :: rest, length, frames) := by
  rw [retransmitStreamFrames, if_neg h]

/-- The head frame fits without its length field: it is packed whole, with it. -/
theorem retransmitStreamFrames_whole (h : length + MinStreamFrameSize < maxSize)
    (hs : { frame with dataLenPresent := false }.maybeSplitOffFrame (subU64 maxSize length) =
      .ok (none, frame'))
    (hl : ({ frame' with dataLenPresent := true } : StreamFrame).length = .ok frameLen) :
    retransmitStreamFrames maxSize length frames (frame :: rest) =
      retransmitStreamFrames maxSize (length + frameLen)
        (frames ++ [.stream { frame' with dataLenPresent := true }]) rest := by
  rw [retransmitStreamFrames, if_pos h]
  split
  · next heq => rw [hs] at heq; cases heq
  · next heq => rw [hs] at heq; cases heq
  · next heq =>
    rw [hs] at heq
    cases heq
    rw [hl]

/-- The head frame does not fit: the frame split off is packed, and the rest, with
its length field, stays at the head. -/
theorem retransmitStreamFrames_cut {sf : StreamFrame} (h : length + MinStreamFrameSize < maxSize)
    (hs : { frame with dataLenPresent := false }.maybeSplitOffFrame (subU64 maxSize length) =
      .ok (some sf, frame'))
    (hl : sf.length = .ok frameLen) :
    retransmitStreamFrames maxSize length frames (frame :: rest) =
      retransmitStreamFrames maxSize (length + frameLen) (frames ++ [.stream sf])
        ({ frame' with dataLenPresent := true } :: rest) := by
  rw [retransmitStreamFrames, if_pos h]
  split
  · next heq => rw [hs] at heq; cases heq
  · next heq =>
    rw [hs] at heq
    cases heq
    rw [hl]
  · next heq => rw [hs] at heq; cases heq

end StreamLoop

namespace PacketPacker

variable {σ : Type} (pm : PacketNumberManager σ)

/-- One round of the loop of `PackRetransmission`: the control frames that fit,
then STREAM frames, into a packet of the level, if anything was packed.  Returns
the packet, the frames left and the packer. -/
def retransmissionRound (p : PacketPacker σ) (encLevel : EncryptionLevel) (controlFrames : List Frame)
    (streamFrames : List StreamFrame) :
    Except GoError (Option PackedPacket × List Frame × List StreamFrame × PacketPacker σ) := do
  let (sealer, hdr) ← p.getSealerAndHeader pm encLevel
  let hdrLen ← hdr.GetLength p.version
  let maxSize := subU64 (subU64 p.maxPacketSize sealer.Overhead) hdrLen
  let (controlFrames, length, frames) ← retransmitControlFrames maxSize controlFrames 0 []
  let (streamFrames, length, frames) ← retransmitStreamFrames maxSize length frames streamFrames
  if frames.length > 0 then
    let (packet, p) ← p.writeAndSealPacket pm hdr { frames := withoutLastDataLen frames, length }
      encLevel sealer
    return (some packet, controlFrames, streamFrames, p)
  return (none, controlFrames, streamFrames, p)

/-- The loop of `PackRetransmission`, for at most `fuel` rounds: `none` when it is
still running. -/
def retransmissionLoop (encLevel : EncryptionLevel) :
    Nat → PacketPacker σ → List Frame → List StreamFrame → List PackedPacket →
      Option (Except GoError (List PackedPacket × PacketPacker σ))
  | 0, _, _, _, _ => none
  | fuel + 1, p, controlFrames, streamFrames, packets =>
    if controlFrames.length > 0 ∨ streamFrames.length > 0 then
      match p.retransmissionRound pm encLevel controlFrames streamFrames with
      | .error err => some (.error err)
      | .ok (packet, controlFrames, streamFrames, p) =>
        retransmissionLoop encLevel fuel p controlFrames streamFrames (packets ++ packet.toList)
    else some (.ok (packets, p))

theorem retransmissionLoop_done (encLevel : EncryptionLevel) (fuel : Nat) (p : PacketPacker σ)
    (packets : List PackedPacket) :
    retransmissionLoop pm encLevel (fuel + 1) p [] [] packets = some (.ok (packets, p)) := by
  simp [retransmissionLoop]

theorem retransmissionLoop_round {encLevel : EncryptionLevel} {fuel : Nat} {p p' : PacketPacker σ}
    {cs cs' : List Frame} {ss ss' : List StreamFrame} {packets : List PackedPacket}
    {packet : Option PackedPacket} (hne : cs ≠ [] ∨ ss ≠ [])
    (hr : p.retransmissionRound pm encLevel cs ss = .ok (packet, cs', ss', p')) :
    retransmissionLoop pm encLevel (fuel + 1) p cs ss packets =
      retransmissionLoop pm encLevel fuel p' cs' ss' (packets ++ packet.toList) := by
  have hlen : cs.length > 0 ∨ ss.length > 0 := by
    rcases hne with h | h
    · exact Or.inl (List.length_pos_iff.2 h)
    · exact Or.inr (List.length_pos_iff.2 h)
  simp only [retransmissionLoop, if_pos hlen, hr]

theorem retransmissionLoop_error {encLevel : EncryptionLevel} {fuel : Nat} {p : PacketPacker σ}
    {cs : List Frame} {ss : List StreamFrame} {packets : List PackedPacket} {err : GoError}
    (hne : cs ≠ [] ∨ ss ≠ []) (hr : p.retransmissionRound pm encLevel cs ss = .error err) :
    retransmissionLoop pm encLevel (fuel + 1) p cs ss packets = some (.error err) := by
  have hlen : cs.length > 0 ∨ ss.length > 0 := by
    rcases hne with h | h
    · exact Or.inl (List.length_pos_iff.2 h)
    · exact Or.inr (List.length_pos_iff.2 h)
  simp only [retransmissionLoop, if_pos hlen, hr]

/-- `PackRetransmission`, for at most `fuel` rounds of its loop.  CRYPTO frames are
control frames here: the header of a retransmission is never longer than the
original's, so they need no splitting. -/
def PackRetransmission (fuel : Nat) (p : PacketPacker σ) (packet : Packet) :
    Option (Except GoError (List PackedPacket × PacketPacker σ)) :=
  let controlFrames := packet.frames.filter fun f => f.asStreamFrame.isNone
  let streamFrames := packet.frames.filterMap fun f =>
    f.asStreamFrame.map fun sf => { sf with dataLenPresent := true }
  retransmissionLoop pm packet.encryptionLevel fuel p controlFrames streamFrames []

/-! ## Valid packers -/

/-- What holds of the packers a session builds: connection IDs of at most
`MaxConnIDLen` bytes, and a maximum packet size between `MinInitialPacketSize` and
`MaxPacketSizeIPv4`.  `getMaxPacketSize` picks 1200, 1232 or 1252, and
`HandleTransportParameters` only lowers it, to no less than the 1200 bytes the
transport parameters accept. -/
structure Valid (p : PacketPacker σ) : Prop where
  destConnID_le : p.destConnID.length ≤ MaxConnIDLen
  srcConnID_le : p.srcConnID.length ≤ MaxConnIDLen
  min_le_maxPacketSize : MinInitialPacketSize ≤ p.maxPacketSize
  maxPacketSize_le : p.maxPacketSize ≤ MaxPacketSizeIPv4

theorem newPacketPacker_valid {destConnID srcConnID : Bytes} (s : σ) (remoteAddr : RemoteAddr)
    (cryptoSetup : SealingManager) (perspective : Perspective) (version : Nat)
    (hd : destConnID.length ≤ MaxConnIDLen) (hs : srcConnID.length ≤ MaxConnIDLen) :
    (newPacketPacker destConnID srcConnID s remoteAddr cryptoSetup perspective version).Valid := by
  refine ⟨hd, hs, ?_, ?_⟩ <;>
    · show _ ≤ _
      cases remoteAddr <;> simp [newPacketPacker, getMaxPacketSize, MinInitialPacketSize,
        MaxPacketSizeIPv4, MaxPacketSizeIPv6]

theorem HandleTransportParameters_valid {p : PacketPacker σ} (hp : p.Valid) {params : TransportParameters}
    (hparams : params.maxPacketSize = 0 ∨ MinInitialPacketSize ≤ params.maxPacketSize) :
    (p.HandleTransportParameters params).Valid := by
  unfold HandleTransportParameters
  split
  case isTrue hne =>
    have hmin : MinInitialPacketSize ≤ params.maxPacketSize := hparams.resolve_left hne
    exact ⟨hp.destConnID_le, hp.srcConnID_le, Nat.le_min.2 ⟨hp.min_le_maxPacketSize, hmin⟩,
      (Nat.min_le_left _ _).trans hp.maxPacketSize_le⟩
  case isFalse => exact hp

theorem SetToken_valid {p : PacketPacker σ} (hp : p.Valid) (token : Bytes) : (p.SetToken token).Valid :=
  ⟨hp.destConnID_le, hp.srcConnID_le, hp.min_le_maxPacketSize, hp.maxPacketSize_le⟩

theorem ChangeDestConnectionID_valid {p : PacketPacker σ} (hp : p.Valid) {connID : Bytes}
    (hc : connID.length ≤ MaxConnIDLen) : (p.ChangeDestConnectionID connID).Valid :=
  ⟨hc, hp.srcConnID_le, hp.min_le_maxPacketSize, hp.maxPacketSize_le⟩

/-- The packet-number manager's state is none of what makes a packer valid. -/
theorem Valid.update_pnManager {p : PacketPacker σ} (hp : p.Valid) (s : σ) :
    ({ p with pnManager := s } : PacketPacker σ).Valid :=
  ⟨hp.destConnID_le, hp.srcConnID_le, hp.min_le_maxPacketSize, hp.maxPacketSize_le⟩

/-! ## Headers and sealers -/

end PacketPacker

/-- The sealer of a level, as `getSealerAndHeader` asks the sealing manager for it. -/
def SealingManager.sealerFor (m : SealingManager) : EncryptionLevel → Except GoError Sealer
  | .initial => m.GetInitialSealer
  | .handshake => m.GetHandshakeSealer
  | .oneRTT => m.Get1RTTSealer
  | .unspecified => throw (.error ("unexpected encryption level: " ++ EncryptionLevel.unspecified.toString))

/-- What the packer needs of a packet-number manager at a level, in the states
`Live`: a number to show, of a length a header can carry, and a pop that takes the
number shown and stays in `Live`. -/
structure PacketNumberManager.Lawful {σ : Type} (pm : PacketNumberManager σ) (encLevel : EncryptionLevel)
    (Live : σ → Prop) : Prop where
  peek_ok : ∀ s, Live s → ∃ pn pnLen, pm.PeekPacketNumber s encLevel = .ok (pn, pnLen) ∧
    1 ≤ pnLen ∧ pnLen ≤ PacketNumberLen4
  pop_peek : ∀ s, Live s → ∀ pn pnLen, pm.PeekPacketNumber s encLevel = .ok (pn, pnLen) →
    ∃ s', pm.PopPacketNumber s encLevel = .ok (pn, s') ∧ Live s'

namespace PacketPacker

variable {σ : Type} (pm : PacketNumberManager σ)

theorem getSealerAndHeader_eq (p : PacketPacker σ) (encLevel : EncryptionLevel) :
    p.getSealerAndHeader pm encLevel = do
      let sealer ← p.cryptoSetup.sealerFor encLevel
      let hdr ← if encLevel = .oneRTT then p.getShortHeader pm sealer.KeyPhase
        else p.getLongHeader pm encLevel
      return (sealer, hdr) := by
  cases encLevel <;> simp [getSealerAndHeader, SealingManager.sealerFor]

theorem getLongHeader_eq {p : PacketPacker σ} {encLevel : EncryptionLevel} {pn : Int} {pnLen : Nat}
    (h : pm.PeekPacketNumber p.pnManager encLevel = .ok (pn, pnLen)) :
    p.getLongHeader pm encLevel = .ok {
      header := {
        DestConnectionID := p.destConnID
        PacketType := if encLevel = .initial then PacketTypeInitial
          else if encLevel = .handshake then PacketTypeHandshake else 0
        Version := p.version
        IsLongHeader := true
        SrcConnectionID := p.srcConnID
        Length := p.maxPacketSize }
      PacketNumber := pn
      PacketNumberLen := PacketNumberLen4 } := by
  simp [getLongHeader, h]

theorem getShortHeader_eq {p : PacketPacker σ} {kp : Bool} {pn : Int} {pnLen : Nat}
    (h : pm.PeekPacketNumber p.pnManager .oneRTT = .ok (pn, pnLen)) :
    p.getShortHeader pm kp = .ok {
      header := { DestConnectionID := p.destConnID }
      PacketNumber := pn
      PacketNumberLen := pnLen
      KeyPhase := kp } := by
  simp [getShortHeader, h]

/-! ## Writing and sealing -/

/-- A packet without an ACK frame whose parts are written and fit: its buffer is the
header, the padding and the frames, and the packer pops the number in the header. -/
theorem writeAndSealPacketWithPadding_eq {p : PacketPacker σ} {header : ExtendedHeader}
    {payload : Payload} {paddingLen : Nat} {encLevel : EncryptionLevel} {sealer : Sealer}
    {hdr w : Bytes} {s' : σ} (hw : header.Write p.version = .ok hdr) (hack : payload.ack = none)
    (hpad : paddingLen ≤ maxAlloc) (hf : Frame.writeAll payload.frames = .ok w)
    (hsize : hdr.length + paddingLen + w.length + sealer.Overhead ≤ p.maxPacketSize)
    (hpop : pm.PopPacketNumber p.pnManager encLevel = .ok (header.PacketNumber, s')) :
    p.writeAndSealPacketWithPadding pm header payload paddingLen encLevel sealer =
      .ok ({ header := header
             raw := hdr ++ List.replicate paddingLen 0 ++ w
             ack := none
             frames := payload.frames }, { p with pnManager := s' }) := by
  have hfits : ¬ (hdr ++ List.replicate paddingLen 0 ++ w).length + sealer.Overhead >
      p.maxPacketSize := by
    simp only [List.length_append, List.length_replicate]
    omega
  unfold writeAndSealPacketWithPadding
  simp only [hw, hack, hf, hpop, ok_bind, pure_eq_ok]
  split
  case isTrue hpos =>
    rw [toInt64_of_lt (by unfold maxAlloc at hpad; omega), repeatBytes_zero hpad, ok_bind]
    simp only [List.append_nil, if_neg hfits, ne_eq, not_true_eq_false, if_false]
  case isFalse hzero =>
    have hnil : paddingLen = 0 := by omega
    subst hnil
    simp only [List.replicate_zero, List.append_nil] at hfits ⊢
    simp only [if_neg hfits, ne_eq, not_true_eq_false, if_false]

/-- A packet of a long header that is not a client's Initial: its length is the
packet number's, the sealer's overhead and the payload's, and there is no padding. -/
theorem writeAndSealPacket_long {p : PacketPacker σ} {header : ExtendedHeader} {payload : Payload}
    {encLevel : EncryptionLevel} {sealer : Sealer} (hl : encLevel ≠ .oneRTT)
    (hc : ¬ (p.perspective = .client ∧ header.header.PacketType = PacketTypeInitial)) :
    p.writeAndSealPacket pm header payload encLevel sealer =
      p.writeAndSealPacketWithPadding pm
        { header with header.Length := header.PacketNumberLen + sealer.Overhead + payload.length }
        payload 0 encLevel sealer := by
  simp only [writeAndSealPacket, ne_eq, hl, not_false_eq_true, if_true, if_neg hc]

/-- A 1-RTT packet is padded to four bytes after the packet number's start. -/
theorem writeAndSealPacket_oneRTT {p : PacketPacker σ} {header : ExtendedHeader} {payload : Payload}
    {sealer : Sealer} :
    p.writeAndSealPacket pm header payload .oneRTT sealer =
      p.writeAndSealPacketWithPadding pm header payload
        (if payload.length < subU64 4 header.PacketNumberLen then
          subU64 (subU64 4 header.PacketNumberLen) payload.length else 0) .oneRTT sealer := by
  simp only [writeAndSealPacket, ne_eq, not_true_eq_false, if_false]

/-- A client's Initial packet gets the token, and padding up to
`MinInitialPacketSize` past the header and the payload, counted in `uint64`. -/
theorem writeAndSealPacket_clientInitial {p : PacketPacker σ} {header : ExtendedHeader}
    {payload : Payload} {encLevel : EncryptionLevel} {sealer : Sealer} {headerLen : Nat}
    (hl : encLevel ≠ .oneRTT) (hc : p.perspective = .client)
    (hi : header.header.PacketType = PacketTypeInitial)
    (hlen : ({ header with header.Token := p.token } : ExtendedHeader).GetLength p.version = .ok headerLen) :
    p.writeAndSealPacket pm header payload encLevel sealer =
      p.writeAndSealPacketWithPadding pm
        { ({ header with header.Token := p.token } : ExtendedHeader) with
          header.Length := subU64 (header.PacketNumberLen + MinInitialPacketSize) headerLen }
        payload (subU64 (subU64 (toUint64 ((MinInitialPacketSize : Int) - sealer.Overhead)) headerLen)
          payload.length) encLevel sealer := by
  -- the header updates elaborate with a let of the header they update
  simp only at hlen
  simp only [writeAndSealPacket, ne_eq, hl, not_false_eq_true, if_true, if_pos (And.intro hc hi), hlen,
    ok_bind]

/-- Padding counted below zero: `int(paddingLen)` is negative, and `bytes.Repeat`
panics on it once the header is written. -/
theorem writeAndSealPacketWithPadding_negative {p : PacketPacker σ} {header : ExtendedHeader}
    {payload : Payload} {paddingLen : Nat} {encLevel : EncryptionLevel} {sealer : Sealer} {hdr : Bytes}
    (hw : header.Write p.version = .ok hdr) (hack : payload.ack = none)
    (hneg : 2 ^ 63 ≤ paddingLen) (hlt : paddingLen < 2 ^ 64) :
    p.writeAndSealPacketWithPadding pm header payload paddingLen encLevel sealer =
      .error (.panic "bytes: negative Repeat count") := by
  have hpos : paddingLen > 0 := by omega
  unfold writeAndSealPacketWithPadding
  simp only [hw, hack, ok_bind, pure_eq_ok, if_pos hpos, repeatBytes_neg (toInt64_neg hneg hlt), error_bind]

end PacketPacker

/-! ## The session's packet-number manager -/

/-- The session's packet-number manager, its `sentPacketHandler`, with the random
numbers its `PopPacketNumber` draws for new skips: a pop takes the first, and 0
once they have run out. -/
def sentPacketHandlerManager : PacketNumberManager (SentPacketHandler × List UInt16) where
  PeekPacketNumber s encLevel := s.1.peekPacketNumber encLevel
  PopPacketNumber s encLevel := do
    let (pn, h) ← s.1.popPacketNumber encLevel (s.2.headD 0)
    return (pn, (h, s.2.tail))

/-- The handler shows and takes the numbers of every level whose space it still
has, with lengths of two to four bytes. -/
theorem sentPacketHandlerManager_lawful (encLevel : EncryptionLevel) :
    sentPacketHandlerManager.Lawful encLevel fun s => ∃ sp, s.1.getPacketNumberSpace encLevel = .ok sp := by
  constructor
  case peek_ok =>
    rintro ⟨h, nums⟩ ⟨sp, hsp⟩
    refine ⟨_, _, SentPacketHandler.peekPacketNumber_eq hsp, ?_, ?_⟩ <;>
      · unfold getPacketNumberLengthForHeader
        dsimp only
        split_ifs <;> decide
  case pop_peek =>
    rintro ⟨h, nums⟩ ⟨sp, hsp⟩ pn pnLen hpeek
    have hpn : pn = sp.pns.peek := by
      rw [show sentPacketHandlerManager.PeekPacketNumber (h, nums) encLevel = h.peekPacketNumber encLevel
        from rfl, SentPacketHandler.peekPacketNumber_eq hsp] at hpeek
      cases hpeek
      rfl
    subst hpn
    have hl := SentPacketHandler.ne_unspecified_of_getPacketNumberSpace hsp
    refine ⟨(h.setPacketNumberSpace encLevel { sp with pns := (sp.pns.pop (nums.headD 0)).2 }, nums.tail),
      ?_, { sp with pns := (sp.pns.pop (nums.headD 0)).2 }, ?_⟩
    · simp [sentPacketHandlerManager, SentPacketHandler.popPacketNumber, hsp,
        PacketNumberGenerator.pop_fst]
    · rw [SentPacketHandler.getPacketNumberSpace_set h hl, if_pos rfl]

end QuicFec
