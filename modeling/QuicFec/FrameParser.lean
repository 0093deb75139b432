import QuicFec.Frames

/-! # Parsing frames

`internal/wire/frame_parser.go` and the `parse…Frame` functions of the frame
files.  Each parser reads one frame, type byte included, from a reader and
returns the frame and the rest of the reader.  `parseFrame` dispatches on the
type byte; `ParseNext` skips PADDING bytes (`0x00`) and reads one frame, and
returns no frame once the reader is empty.

Two things in `parseFrame` are as the source has them and matter for what it
returns.  The REPAIR case falls through into the RECOVERED case when no FEC
frames parser is plugged in, and that case does nothing without one: no frame
and no error.  And `isAllowedAtEncLevel` lets every frame through at 1-RTT, the
absent frame included; at the other levels the error message about an absent
frame calls `reflect.TypeOf(nil).Elem()`, which panics.
-/
namespace QuicFec
open GoBytes

/-! ## One frame type at a time -/

def parsePingFrame (r : Bytes) : Except GoError (Frame × Bytes) := do
  let (_, r) ← readByte r
  return (.ping, r)

/-- The ranges after the first one, with `smallest` the lower end of the range
before. -/
def parseAckRanges (smallest : Int) : Nat → Bytes → Except GoError (List AckRange × Bytes)
  | 0, r => .ok ([], r)
  | k + 1, r => do
    let (g, r) ← readVarInt r
    let gap : Int := g
    if smallest < gap + 2 then throw (.error "AckFrame: ACK frame contains invalid ACK ranges")
    let largest := smallest - gap - 2
    let (ab, r) ← readVarInt r
    let ackBlock : Int := ab
    if ackBlock > largest then throw (.error "AckFrame: ACK frame contains invalid ACK ranges")
    let smallest := largest - ackBlock
    let (ranges, r) ← parseAckRanges smallest k r
    return (⟨smallest, largest⟩ :: ranges, r)

/-- `parseAckFrame`; the delay is scaled back up by `ackDelayExponent`, in the
`uint64` and `int64` arithmetic of the source. -/
def parseAckFrame (ackDelayExponent : Nat) (r : Bytes) : Except GoError (AckFrame × Bytes) := do
  let (typeByte, r) ← readByte r
  let ecn := typeByte &&& 0x1 > 0
  let (la, r) ← readVarInt r
  let largestAcked : Int := la
  let (delay, r) ← readVarInt r
  let delayTime := wrapInt64 (toInt64 ((delay <<< ackDelayExponent) % 2 ^ 64) * 1000)
  let (numBlocks, r) ← readVarInt r
  -- the first ACK range
  let (ab, r) ← readVarInt r
  let ackBlock : Int := ab
  if ackBlock > largestAcked then throw (.error "invalid first ACK range")
  let smallest := largestAcked - ackBlock
  let (ranges, r) ← parseAckRanges smallest numBlocks r
  let frame : AckFrame := ⟨⟨smallest, largestAcked⟩ :: ranges, delayTime⟩
  if !frame.validateAckRanges then throw (.error "AckFrame: ACK frame contains invalid ACK ranges")
  -- parse (and skip) the ECN section
  if ecn then
    let (_, r) ← readVarInt r
    let (_, r) ← readVarInt r
    let (_, r) ← readVarInt r
    return (frame, r)
  return (frame, r)

def parseResetStreamFrame (r : Bytes) : Except GoError (ResetStreamFrame × Bytes) := do
  let (_, r) ← readByte r
  let (sid, r) ← readVarInt r
  let (errorCode, r) ← readVarInt r
  let (bo, r) ← readVarInt r
  return (⟨sid, errorCode, bo⟩, r)

def parseStopSendingFrame (r : Bytes) : Except GoError (StopSendingFrame × Bytes) := do
  let (_, r) ← readByte r
  let (streamID, r) ← readVarInt r
  let (errorCode, r) ← readUint16 r
  return (⟨streamID, errorCode⟩, r)

def parseCryptoFrame (r : Bytes) : Except GoError (CryptoFrame × Bytes) := do
  let (_, r) ← readByte r
  let (offset, r) ← readVarInt r
  let (dataLen, r) ← readVarInt r
  if dataLen > r.length then throw .eof
  let (data, r) ← readFull dataLen r
  return (⟨offset, data⟩, r)

def parseNewTokenFrame (r : Bytes) : Except GoError (NewTokenFrame × Bytes) := do
  let (_, r) ← readByte r
  let (tokenLen, r) ← readVarInt r
  if r.length < tokenLen then throw .eof
  let (token, r) ← readFull tokenLen r
  return (⟨token⟩, r)

/-- `parseStreamFrame`: without a length field, the rest of the packet is data. -/
def parseStreamFrame (r : Bytes) : Except GoError (StreamFrame × Bytes) := do
  let (typeByte, r) ← readByte r
  let hasOffset := typeByte &&& 0x4 > 0
  let finBit := typeByte &&& 0x1 > 0
  let dataLenPresent := typeByte &&& 0x2 > 0
  let (streamID, r) ← readVarInt r
  let (offset, r) ← if hasOffset then readVarInt r else pure (0, r)
  let dataLen ← if dataLenPresent then do
      let (dataLen, r') ← readVarInt r
      if dataLen > r'.length then throw .eof
      pure (dataLen, r')
    else pure (r.length, r)
  let (dataLen, r) := dataLen
  let (data, r) ← readFull dataLen r
  if offset + data.length > MaxByteCount then
    throw (.error "FRAME_ENCODING_ERROR: stream data overflows maximum offset")
  return (⟨streamID, finBit, dataLenPresent, offset, data⟩, r)

def parseMaxDataFrame (r : Bytes) : Except GoError (MaxDataFrame × Bytes) := do
  let (_, r) ← readByte r
  let (byteOffset, r) ← readVarInt r
  return (⟨byteOffset⟩, r)

def parseMaxStreamDataFrame (r : Bytes) : Except GoError (MaxStreamDataFrame × Bytes) := do
  let (_, r) ← readByte r
  let (sid, r) ← readVarInt r
  let (offset, r) ← readVarInt r
  return (⟨sid, offset⟩, r)

/-- `parseMaxStreamsFrame`; the caller passes only the type bytes `0x12` and `0x13`. -/
def parseMaxStreamsFrame (r : Bytes) : Except GoError (MaxStreamsFrame × Bytes) := do
  let (typeByte, r) ← readByte r
  let type : StreamType := if typeByte = 0x12 then .bidi else .uni
  let (streamID, r) ← readVarInt r
  return (⟨type, streamID⟩, r)

def parseDataBlockedFrame (r : Bytes) : Except GoError (DataBlockedFrame × Bytes) := do
  let (_, r) ← readByte r
  let (offset, r) ← readVarInt r
  return (⟨offset⟩, r)

def parseStreamDataBlockedFrame (r : Bytes) : Except GoError (StreamDataBlockedFrame × Bytes) := do
  let (_, r) ← readByte r
  let (sid, r) ← readVarInt r
  let (offset, r) ← readVarInt r
  return (⟨sid, offset⟩, r)

/-- `parseStreamsBlockedFrame`; the caller passes only the type bytes `0x16` and `0x17`. -/
def parseStreamsBlockedFrame (r : Bytes) : Except GoError (StreamsBlockedFrame × Bytes) := do
  let (typeByte, r) ← readByte r
  let type : StreamType := if typeByte = 0x16 then .bidi else .uni
  let (streamLimit, r) ← readVarInt r
  return (⟨type, streamLimit⟩, r)

/-- `protocol.ReadConnectionID`. -/
def readConnectionID (r : Bytes) (len : Nat) : Except GoError (Bytes × Bytes) :=
  if len = 0 then .ok ([], r)
  else match readFull len r with
    | .error .unexpectedEOF => .error .eof
    | res => res

theorem readConnectionID_append (cid rest : Bytes) :
    readConnectionID (cid ++ rest) cid.length = .ok (cid, rest) := by
  cases cid with
  | nil => rfl
  | cons b bs => simp [readConnectionID, readFull]

def parseNewConnectionIDFrame (r : Bytes) : Except GoError (NewConnectionIDFrame × Bytes) := do
  let (_, r) ← readByte r
  let (seq, r) ← readVarInt r
  let (ret, r) ← readVarInt r
  let (connIDLen, r) ← readByte r
  if connIDLen < 4 ∨ connIDLen > 18 then
    throw (.error s!"invalid connection ID length: {connIDLen.toNat}")
  let (connID, r) ← readConnectionID r connIDLen.toNat
  match readFull 16 r with
  | .ok (token, r) => return (⟨seq, ret, connID, fixedArray 16 token⟩, r)
  | .error .unexpectedEOF => throw .eof
  | .error e => throw e

/-- `parsePathChallengeFrame` and `parsePathResponseFrame`: eight bytes of data. -/
def parsePathData (r : Bytes) : Except GoError (Vector UInt8 8 × Bytes) := do
  let (_, r) ← readByte r
  match readFull 8 r with
  | .ok (data, r) => return (fixedArray 8 data, r)
  | .error .unexpectedEOF => throw .eof
  | .error e => throw e

def parseRetireConnectionIDFrame (r : Bytes) : Except GoError (RetireConnectionIDFrame × Bytes) := do
  let (_, r) ← readByte r
  let (seq, r) ← readVarInt r
  return (⟨seq⟩, r)

def parseConnectionCloseFrame (r : Bytes) : Except GoError (ConnectionCloseFrame × Bytes) := do
  let (typeByte, r) ← readByte r
  let isApplicationError := typeByte = 0x1d
  let (ec, r) ← readVarInt r
  -- read the Frame Type, if this is not an application error
  let r ← if isApplicationError then pure r else do
    let (_, r) ← readVarInt r
    pure r
  let (reasonPhraseLen, r) ← readVarInt r
  if reasonPhraseLen > r.length then throw .eof
  let (reasonPhrase, r) ← readFull reasonPhraseLen r
  return (⟨isApplicationError, ec, reasonPhrase⟩, r)

/-- `parseFECSrcFPIFrame`: a plain `Read` of the four ID bytes. -/
def parseFECSrcFPIFrame (r : Bytes) : Except GoError (FECSrcFPIFrame × Bytes) := do
  let (_, r) ← readByte r
  let (id, r) ← readInto 4 r
  return (⟨fixedArray 4 id⟩, r)

/-! ## The frame parser -/

/-- `wire.frameParser`: the peer's ACK delay exponent, and the FEC frames parser
once one is plugged in. -/
structure FrameParser where
  ackDelayExponent : Nat
  fecFramesParser : Option FECFramesParser

/-- The Go type name of a frame, which error messages print. -/
def Frame.typeName : Frame → String
  | .ping => "PingFrame"
  | .ack _ => "AckFrame"
  | .resetStream _ => "ResetStreamFrame"
  | .stopSending _ => "StopSendingFrame"
  | .crypto _ => "CryptoFrame"
  | .newToken _ => "NewTokenFrame"
  | .stream _ => "StreamFrame"
  | .maxData _ => "MaxDataFrame"
  | .maxStreamData _ => "MaxStreamDataFrame"
  | .maxStreams _ => "MaxStreamsFrame"
  | .dataBlocked _ => "DataBlockedFrame"
  | .streamDataBlocked _ => "StreamDataBlockedFrame"
  | .streamsBlocked _ => "StreamsBlockedFrame"
  | .newConnectionID _ => "NewConnectionIDFrame"
  | .retireConnectionID _ => "RetireConnectionIDFrame"
  | .pathChallenge _ => "PathChallengeFrame"
  | .pathResponse _ => "PathResponseFrame"
  | .connectionClose _ => "ConnectionCloseFrame"
  | .fecSrcFPI _ => "FECSrcFPIFrame"
  | .repair _ => "RepairFrame"
  | .recovered _ => "RecoveredFrame"

/-- `isAllowedAtEncLevel`, of a frame that may be absent. -/
def isAllowedAtEncLevel (f : Option Frame) : EncryptionLevel → Bool
  | .initial | .handshake =>
    match f with
    | some (.crypto _) | some (.ack _) | some (.connectionClose _) => true
    | _ => false
  | .oneRTT => true
  | .unspecified => false

namespace FrameParser

/-- The frame-type switch of `parseFrame`: the frame it read, if any. -/
def parseFrameType (p : FrameParser) (r : Bytes) (typeByte : UInt8) (encLevel : EncryptionLevel) :
    Except GoError (Option Frame × Bytes) :=
  if typeByte &&& 0xf8 = 0x8 then do
    let (f, r) ← parseStreamFrame r
    return (some (.stream f), r)
  else match typeByte with
  | 0x1 => do let (f, r) ← parsePingFrame r; return (some f, r)
  | 0x2 | 0x3 => do
    let ackDelayExponent := if encLevel ≠ .oneRTT then AckDelayExponent else p.ackDelayExponent
    let (f, r) ← parseAckFrame ackDelayExponent r
    return (some (.ack f), r)
  | 0x4 => do let (f, r) ← parseResetStreamFrame r; return (some (.resetStream f), r)
  | 0x5 => do let (f, r) ← parseStopSendingFrame r; return (some (.stopSending f), r)
  | 0x6 => do let (f, r) ← parseCryptoFrame r; return (some (.crypto f), r)
  | 0x7 => do let (f, r) ← parseNewTokenFrame r; return (some (.newToken f), r)
  | 0x10 => do let (f, r) ← parseMaxDataFrame r; return (some (.maxData f), r)
  | 0x11 => do let (f, r) ← parseMaxStreamDataFrame r; return (some (.maxStreamData f), r)
  | 0x12 | 0x13 => do let (f, r) ← parseMaxStreamsFrame r; return (some (.maxStreams f), r)
  | 0x14 => do let (f, r) ← parseDataBlockedFrame r; return (some (.dataBlocked f), r)
  | 0x15 => do
    let (f, r) ← parseStreamDataBlockedFrame r
    return (some (.streamDataBlocked f), r)
  | 0x16 | 0x17 => do let (f, r) ← parseStreamsBlockedFrame r; return (some (.streamsBlocked f), r)
  | 0x18 => do let (f, r) ← parseNewConnectionIDFrame r; return (some (.newConnectionID f), r)
  | 0x19 => do
    let (f, r) ← parseRetireConnectionIDFrame r
    return (some (.retireConnectionID f), r)
  | 0x1a => do let (d, r) ← parsePathData r; return (some (.pathChallenge ⟨d⟩), r)
  | 0x1b => do let (d, r) ← parsePathData r; return (some (.pathResponse ⟨d⟩), r)
  | 0x1c | 0x1d => do
    let (f, r) ← parseConnectionCloseFrame r
    return (some (.connectionClose f), r)
  | 0x21 => do let (f, r) ← parseFECSrcFPIFrame r; return (some (.fecSrcFPI f), r)
  | 0x22 => match p.fecFramesParser with
    | some fp => do let (f, r) ← fp.parseRepairFrame r; return (some (.repair f), r)
    -- no fecFramesParser plugged, the frame cannot be parsed: fallthrough into 0x23
    | none => .ok (none, r)
  | 0x23 => match p.fecFramesParser with
    | some fp => do let (f, r) ← fp.parseRecoveredFrame r; return (some (.recovered f), r)
    | none => .ok (none, r)
  | _ => throw (.error s!"unknown type byte 0x{String.ofList (Nat.toDigits 16 typeByte.toNat)}")

/-- `parseFrame`. -/
def parseFrame (p : FrameParser) (r : Bytes) (typeByte : UInt8) (encLevel : EncryptionLevel) :
    Except GoError (Option Frame × Bytes) := do
  let (frame, r) ← p.parseFrameType r typeByte encLevel
  if !isAllowedAtEncLevel frame encLevel then
    match frame with
    | some f => throw (.error s!"{f.typeName} not allowed at encryption level")
    -- `reflect.TypeOf(frame)` of an absent frame is nil, and `Elem()` of it panics
    | none => throw (.panic "invalid memory address or nil pointer dereference")
  return (frame, r)

/-- `ParseNext`: skips PADDING, then reads one frame; any error of `parseFrame`
comes back as a FRAME_ENCODING_ERROR, and a panic stays a panic. -/
def parseNext (p : FrameParser) (encLevel : EncryptionLevel) : Bytes → Except GoError (Option Frame × Bytes)
  | [] => .ok (none, [])
  | typeByte :: rest =>
    if typeByte = 0x0 then p.parseNext encLevel rest
    else match p.parseFrame (typeByte :: rest) typeByte encLevel with
      | .ok res => .ok res
      | .error (.panic msg) => .error (.panic msg)
      | .error e => .error (.error ("FRAME_ENCODING_ERROR: " ++ e.message))

/-- The loop of `session.handleUnpackedPacket`: `ParseNext`, called until it
returns no frame, returns the frames `gs` in order. -/
inductive ReadsFrames (p : FrameParser) (encLevel : EncryptionLevel) : Bytes → List Frame → Prop
  | done {r r' : Bytes} : p.parseNext encLevel r = .ok (none, r') → p.ReadsFrames encLevel r []
  | next {r r' : Bytes} {g : Frame} {gs : List Frame} :
      p.parseNext encLevel r = .ok (some g, r') → p.ReadsFrames encLevel r' gs →
        p.ReadsFrames encLevel r (g :: gs)

end FrameParser

end QuicFec
