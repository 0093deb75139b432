import QuicFec.Utils

/-! # Frames, and how each one is written

`internal/wire`: one structure per frame type and the frame's `Write` and
`Length`, as the code computes them.  `Frame` gathers the types, as the Go
interface `wire.Frame` does.  Numeric fields the code writes as varints are
`Nat`s; packet numbers and the ACK delay are signed (`int64`, `time.Duration` in
nanoseconds), so the code converts them with `uint64(..)` (`toUint64`) before
writing.  A `Write` that panics — on a varint that does not fit into 62 bits, or
on an index out of range — fails with `GoError.panic`; a `Write` that refuses its
frame returns its error.

The ACK frame is the one frame whose encoding is computed: `numEncodableAckRanges`
cuts the ranges so that the frame stays below `MaxAckFrameSize`, and `Write` and
`Length` both walk the first `numEncodableAckRanges` ranges by index, as the
source does.
-/
namespace QuicFec
open GoBytes

/-- `protocol.StreamType`. -/
inductive StreamType where
  | uni
  | bidi
  deriving DecidableEq, Repr

/-- `wire.AckRange`. -/
structure AckRange where
  smallest : Int
  largest : Int
  deriving DecidableEq, Repr

/-- `wire.AckFrame`: the ranges, highest first, and the delay in nanoseconds. -/
structure AckFrame where
  ackRanges : List AckRange
  delayTime : Int
  deriving DecidableEq, Repr

structure ResetStreamFrame where
  streamID : Nat
  errorCode : Nat
  byteOffset : Nat
  deriving DecidableEq, Repr

structure StopSendingFrame where
  streamID : Nat
  errorCode : Nat
  deriving DecidableEq, Repr

structure CryptoFrame where
  offset : Nat
  data : Bytes
  deriving DecidableEq, Repr

structure NewTokenFrame where
  token : Bytes
  deriving DecidableEq, Repr

structure StreamFrame where
  streamID : Nat
  finBit : Bool
  dataLenPresent : Bool
  offset : Nat
  data : Bytes
  deriving DecidableEq, Repr

structure MaxDataFrame where
  byteOffset : Nat
  deriving DecidableEq, Repr

structure MaxStreamDataFrame where
  streamID : Nat
  byteOffset : Nat
  deriving DecidableEq, Repr

structure MaxStreamsFrame where
  type : StreamType
  maxStreamNum : Nat
  deriving DecidableEq, Repr

structure DataBlockedFrame where
  dataLimit : Nat
  deriving DecidableEq, Repr

structure StreamDataBlockedFrame where
  streamID : Nat
  dataLimit : Nat
  deriving DecidableEq, Repr

structure StreamsBlockedFrame where
  type : StreamType
  streamLimit : Nat
  deriving DecidableEq, Repr

structure NewConnectionIDFrame where
  sequenceNumber : Nat
  retirePriorTo : Nat
  connectionID : Bytes
  statelessResetToken : Vector UInt8 16
  deriving DecidableEq, Repr

structure RetireConnectionIDFrame where
  sequenceNumber : Nat
  deriving DecidableEq, Repr

structure PathChallengeFrame where
  data : Vector UInt8 8
  deriving DecidableEq, Repr

structure PathResponseFrame where
  data : Vector UInt8 8
  deriving DecidableEq, Repr

/-- `wire.ConnectionCloseFrame`; the reason phrase is a Go string, so bytes. -/
structure ConnectionCloseFrame where
  isApplicationError : Bool
  errorCode : Nat
  reasonPhrase : Bytes
  deriving DecidableEq, Repr

/-- `wire.FECSrcFPIFrame`: the FEC payload ID of a protected packet's first source symbol. -/
structure FECSrcFPIFrame where
  sourceFECPayloadID : Vector UInt8 4
  deriving DecidableEq, Repr

/-- `wire.RepairFrame`: metadata and repair symbols, in the FEC scheme's format. -/
structure RepairFrame where
  metadata : Bytes
  repairSymbols : Bytes
  deriving DecidableEq, Repr

/-- `wire.RecoveredFrame`, in the FEC framework's format. -/
structure RecoveredFrame where
  data : Bytes
  deriving DecidableEq, Repr

/-- `wire.Frame`: the frame types the code writes and parses. -/
inductive Frame where
  | ping
  | ack (f : AckFrame)
  | resetStream (f : ResetStreamFrame)
  | stopSending (f : StopSendingFrame)
  | crypto (f : CryptoFrame)
  | newToken (f : NewTokenFrame)
  | stream (f : StreamFrame)
  | maxData (f : MaxDataFrame)
  | maxStreamData (f : MaxStreamDataFrame)
  | maxStreams (f : MaxStreamsFrame)
  | dataBlocked (f : DataBlockedFrame)
  | streamDataBlocked (f : StreamDataBlockedFrame)
  | streamsBlocked (f : StreamsBlockedFrame)
  | newConnectionID (f : NewConnectionIDFrame)
  | retireConnectionID (f : RetireConnectionIDFrame)
  | pathChallenge (f : PathChallengeFrame)
  | pathResponse (f : PathResponseFrame)
  | connectionClose (f : ConnectionCloseFrame)
  | fecSrcFPI (f : FECSrcFPIFrame)
  | repair (f : RepairFrame)
  | recovered (f : RecoveredFrame)
  deriving DecidableEq, Repr

/-- `wire.FECFramesParser`: the parsers of the frames whose format the FEC
framework defines, plugged into the frame parser once the peer's transport
parameters name an FEC scheme.  Each reads one frame, type byte included, and
returns the rest of the reader. -/
structure FECFramesParser where
  parseRecoveredFrame : Bytes → Except GoError (RecoveredFrame × Bytes)
  parseRepairFrame : Bytes → Except GoError (RepairFrame × Bytes)

/-! ## ACK frames -/

/-- `encodeAckDelay`: microseconds, scaled down by the ACK delay exponent; Go's
`/` on `int64` truncates towards zero. -/
def encodeAckDelay (delay : Int) : Nat :=
  toUint64 (delay.tdiv (1000 * (1 <<< AckDelayExponent)))

namespace AckFrame

/-- `LargestAcked`. -/
def largestAcked (f : AckFrame) : Except GoError Int := do
  return (← index f.ackRanges 0).largest

/-- `LowestAcked`. -/
def lowestAcked (f : AckFrame) : Except GoError Int := do
  return (← index f.ackRanges (f.ackRanges.length - 1)).smallest

/-- `encodeAckRange(i)`: the gap to the range before and the length of range `i`. -/
def encodeAckRange (f : AckFrame) (i : Nat) : Except GoError (Nat × Nat) := do
  if i = 0 then
    let r ← index f.ackRanges 0
    return (0, toUint64 (r.largest - r.smallest))
  let prev ← index f.ackRanges (i - 1)
  let cur ← index f.ackRanges i
  return (toUint64 (prev.smallest - cur.largest - 2), toUint64 (cur.largest - cur.smallest))

/-- The loop of `numEncodableAckRanges` from range `i` on, with `k` ranges left
and the frame length `length` so far. -/
def numEncodableLoop (f : AckFrame) (length i : Nat) : Nat → Except GoError Nat
  | 0 => .ok f.ackRanges.length
  | k + 1 => do
    let (gap, len) ← f.encodeAckRange i
    let rangeLen := (← varIntLen gap) + (← varIntLen len)
    if length + rangeLen > MaxAckFrameSize then
      -- writing range `i` would exceed the MaxAckFrameSize: encode one range less than that
      return i - 1
    f.numEncodableLoop (length + rangeLen) (i + 1) k

/-- `numEncodableAckRanges`: how many ranges fit below `MaxAckFrameSize`. -/
def numEncodableAckRanges (f : AckFrame) : Except GoError Nat := do
  let length := 1 + (← varIntLen (toUint64 (← f.largestAcked))) +
    (← varIntLen (encodeAckDelay f.delayTime))
  -- assume that the number of ranges will consume 2 bytes
  f.numEncodableLoop (length + 2) 1 (f.ackRanges.length - 1)

/-- The loop of `Write` over ranges `i`, `i + 1`, … (`k` of them). -/
def writeRanges (f : AckFrame) (i : Nat) : Nat → Except GoError Bytes
  | 0 => .ok []
  | k + 1 => do
    let (gap, len) ← f.encodeAckRange i
    let g ← writeVarInt gap
    let l ← writeVarInt len
    let rest ← f.writeRanges (i + 1) k
    return g ++ l ++ rest

/-- `AckFrame.Write`. -/
def write (f : AckFrame) : Except GoError Bytes := do
  let la ← writeVarInt (toUint64 (← f.largestAcked))
  let d ← writeVarInt (encodeAckDelay f.delayTime)
  let numRanges ← f.numEncodableAckRanges
  let n ← writeVarInt (toUint64 ((numRanges : Int) - 1))
  let (_, firstRange) ← f.encodeAckRange 0
  let fr ← writeVarInt firstRange
  let rest ← f.writeRanges 1 (numRanges - 1)
  return [0x2] ++ la ++ d ++ n ++ fr ++ rest

/-- The loop of `Length` over ranges `i`, `i + 1`, … (`k` of them). -/
def rangesLength (f : AckFrame) (i : Nat) : Nat → Except GoError Nat
  | 0 => .ok 0
  | k + 1 => do
    let (gap, len) ← f.encodeAckRange i
    return (← varIntLen gap) + (← varIntLen len) + (← f.rangesLength (i + 1) k)

/-- `AckFrame.Length`. -/
def length (f : AckFrame) : Except GoError Nat := do
  let largestAcked := (← index f.ackRanges 0).largest
  let numRanges ← f.numEncodableAckRanges
  let l1 ← varIntLen (toUint64 largestAcked)
  let l2 ← varIntLen (encodeAckDelay f.delayTime)
  let l3 ← varIntLen (toUint64 ((numRanges : Int) - 1))
  let lowestInFirstRange := (← index f.ackRanges 0).smallest
  let l4 ← varIntLen (toUint64 (largestAcked - lowestInFirstRange))
  return 1 + l1 + l2 + l3 + l4 + (← f.rangesLength 1 (numRanges - 1))

/-- `validateAckRanges`: the ranges are well formed and descending, with a
packet missing between any two of them. -/
def validateAckRanges (f : AckFrame) : Bool :=
  !f.ackRanges.isEmpty &&
    f.ackRanges.all (fun r => decide (r.smallest ≤ r.largest)) &&
    (f.ackRanges.zip f.ackRanges.tail).all fun (last, r) =>
      decide (r.smallest < last.smallest) && decide (r.largest + 1 < last.smallest)

end AckFrame

/-! ## The other frames -/

def ResetStreamFrame.write (f : ResetStreamFrame) : Except GoError Bytes := do
  return [0x4] ++ (← writeVarInt f.streamID) ++ (← writeVarInt f.errorCode) ++
    (← writeVarInt f.byteOffset)

def ResetStreamFrame.length (f : ResetStreamFrame) : Except GoError Nat := do
  return 1 + (← varIntLen f.streamID) + (← varIntLen f.errorCode) + (← varIntLen f.byteOffset)

/-- `StopSendingFrame.Write`: the error code goes out as a `uint16`. -/
def StopSendingFrame.write (f : StopSendingFrame) : Except GoError Bytes := do
  return [0x5] ++ (← writeVarInt f.streamID) ++ writeUint16 (f.errorCode % 2 ^ 16)

def StopSendingFrame.length (f : StopSendingFrame) : Except GoError Nat := do
  return 1 + (← varIntLen f.streamID) + 2

def CryptoFrame.write (f : CryptoFrame) : Except GoError Bytes := do
  return [0x6] ++ (← writeVarInt f.offset) ++ (← writeVarInt f.data.length) ++ f.data

def CryptoFrame.length (f : CryptoFrame) : Except GoError Nat := do
  return 1 + (← varIntLen f.offset) + (← varIntLen f.data.length) + f.data.length

def NewTokenFrame.write (f : NewTokenFrame) : Except GoError Bytes := do
  return [0x7] ++ (← writeVarInt f.token.length) ++ f.token

def NewTokenFrame.length (f : NewTokenFrame) : Except GoError Nat := do
  return 1 + (← varIntLen f.token.length) + f.token.length

/-- The type byte of a STREAM frame: `0x8`, with a bit each for FIN, the length
field and the offset field. -/
def StreamFrame.typeByte (f : StreamFrame) : UInt8 :=
  let typeByte : UInt8 := 0x8
  let typeByte := if f.finBit then typeByte ^^^ 0x1 else typeByte
  let typeByte := if f.dataLenPresent then typeByte ^^^ 0x2 else typeByte
  if f.offset ≠ 0 then typeByte ^^^ 0x4 else typeByte

/-- `StreamFrame.Write`. -/
def StreamFrame.write (f : StreamFrame) : Except GoError Bytes := do
  if f.data.length = 0 ∧ !f.finBit then
    throw (.error "StreamFrame: attempting to write empty frame without FIN")
  let sid ← writeVarInt f.streamID
  let off ← if f.offset ≠ 0 then writeVarInt f.offset else pure []
  let len ← if f.dataLenPresent then writeVarInt f.data.length else pure []
  return [f.typeByte] ++ sid ++ off ++ len ++ f.data

/-- `StreamFrame.Length`. -/
def StreamFrame.length (f : StreamFrame) : Except GoError Nat := do
  let sid ← varIntLen f.streamID
  let off ← if f.offset ≠ 0 then varIntLen f.offset else pure 0
  let len ← if f.dataLenPresent then varIntLen f.data.length else pure 0
  return 1 + sid + off + len + f.data.length

def MaxDataFrame.write (f : MaxDataFrame) : Except GoError Bytes := do
  return [0x10] ++ (← writeVarInt f.byteOffset)

def MaxDataFrame.length (f : MaxDataFrame) : Except GoError Nat := do
  return 1 + (← varIntLen f.byteOffset)

def MaxStreamDataFrame.write (f : MaxStreamDataFrame) : Except GoError Bytes := do
  return [0x11] ++ (← writeVarInt f.streamID) ++ (← writeVarInt f.byteOffset)

def MaxStreamDataFrame.length (f : MaxStreamDataFrame) : Except GoError Nat := do
  return 1 + (← varIntLen f.streamID) + (← varIntLen f.byteOffset)

def MaxStreamsFrame.write (f : MaxStreamsFrame) : Except GoError Bytes := do
  let typeByte : UInt8 := match f.type with
    | .bidi => 0x12
    | .uni => 0x13
  return [typeByte] ++ (← writeVarInt f.maxStreamNum)

def MaxStreamsFrame.length (f : MaxStreamsFrame) : Except GoError Nat := do
  return 1 + (← varIntLen f.maxStreamNum)

def DataBlockedFrame.write (f : DataBlockedFrame) : Except GoError Bytes := do
  return [0x14] ++ (← writeVarInt f.dataLimit)

def DataBlockedFrame.length (f : DataBlockedFrame) : Except GoError Nat := do
  return 1 + (← varIntLen f.dataLimit)

def StreamDataBlockedFrame.write (f : StreamDataBlockedFrame) : Except GoError Bytes := do
  return [0x15] ++ (← writeVarInt f.streamID) ++ (← writeVarInt f.dataLimit)

def StreamDataBlockedFrame.length (f : StreamDataBlockedFrame) : Except GoError Nat := do
  return 1 + (← varIntLen f.streamID) + (← varIntLen f.dataLimit)

def StreamsBlockedFrame.write (f : StreamsBlockedFrame) : Except GoError Bytes := do
  let typeByte : UInt8 := match f.type with
    | .bidi => 0x16
    | .uni => 0x17
  return [typeByte] ++ (← writeVarInt f.streamLimit)

def StreamsBlockedFrame.length (f : StreamsBlockedFrame) : Except GoError Nat := do
  return 1 + (← varIntLen f.streamLimit)

/-- `NewConnectionIDFrame.Write`: refuses a connection ID outside 4 to 18 bytes. -/
def NewConnectionIDFrame.write (f : NewConnectionIDFrame) : Except GoError Bytes := do
  let seq ← writeVarInt f.sequenceNumber
  let ret ← writeVarInt f.retirePriorTo
  let connIDLen := f.connectionID.length
  if connIDLen < 4 ∨ connIDLen > 18 then
    throw (.error s!"invalid connection ID length: {connIDLen}")
  return [0x18] ++ seq ++ ret ++ [UInt8.ofNat connIDLen] ++ f.connectionID ++
    f.statelessResetToken.toList

def NewConnectionIDFrame.length (f : NewConnectionIDFrame) : Except GoError Nat := do
  return 1 + (← varIntLen f.sequenceNumber) + (← varIntLen f.retirePriorTo) + 1 +
    f.connectionID.length + 16

def RetireConnectionIDFrame.write (f : RetireConnectionIDFrame) : Except GoError Bytes := do
  return [0x19] ++ (← writeVarInt f.sequenceNumber)

def RetireConnectionIDFrame.length (f : RetireConnectionIDFrame) : Except GoError Nat := do
  return 1 + (← varIntLen f.sequenceNumber)

def ConnectionCloseFrame.write (f : ConnectionCloseFrame) : Except GoError Bytes := do
  let typeByte : UInt8 := if f.isApplicationError then 0x1d else 0x1c
  let ec ← writeVarInt f.errorCode
  -- a transport error carries the frame type, written as 0
  let ft ← if f.isApplicationError then pure [] else writeVarInt 0
  let len ← writeVarInt f.reasonPhrase.length
  return [typeByte] ++ ec ++ ft ++ len ++ f.reasonPhrase

def ConnectionCloseFrame.length (f : ConnectionCloseFrame) : Except GoError Nat := do
  let length := 1 + (← varIntLen f.errorCode) + (← varIntLen f.reasonPhrase.length) +
    f.reasonPhrase.length
  return if f.isApplicationError then length else length + 1

def FECSrcFPIFrame.write (f : FECSrcFPIFrame) : Bytes :=
  [FEC_SRC_FPI_FRAME_TYPE] ++ f.sourceFECPayloadID.toList

def FECSrcFPIFrame.length (_ : FECSrcFPIFrame) : Nat := 1 + 4

def RepairFrame.write (f : RepairFrame) : Bytes :=
  [REPAIR_FRAME_TYPE] ++ f.metadata ++ f.repairSymbols

def RepairFrame.length (f : RepairFrame) : Nat :=
  1 + f.metadata.length + f.repairSymbols.length

def RecoveredFrame.write (f : RecoveredFrame) : Bytes :=
  [RECOVERED_FRAME_TYPE] ++ f.data

def RecoveredFrame.length (f : RecoveredFrame) : Nat := 1 + f.data.length

/-! ## Any frame -/

namespace Frame

/-- `Frame.Write`. -/
def write : Frame → Except GoError Bytes
  | ping => .ok [0x1]
  | ack f => f.write
  | resetStream f => f.write
  | stopSending f => f.write
  | crypto f => f.write
  | newToken f => f.write
  | stream f => f.write
  | maxData f => f.write
  | maxStreamData f => f.write
  | maxStreams f => f.write
  | dataBlocked f => f.write
  | streamDataBlocked f => f.write
  | streamsBlocked f => f.write
  | newConnectionID f => f.write
  | retireConnectionID f => f.write
  | pathChallenge f => .ok ([0x1a] ++ f.data.toList)
  | pathResponse f => .ok ([0x1b] ++ f.data.toList)
  | connectionClose f => f.write
  | fecSrcFPI f => .ok f.write
  | repair f => .ok f.write
  | recovered f => .ok f.write

/-- `Frame.Length`. -/
def length : Frame → Except GoError Nat
  | ping => .ok 1
  | ack f => f.length
  | resetStream f => f.length
  | stopSending f => f.length
  | crypto f => f.length
  | newToken f => f.length
  | stream f => f.length
  | maxData f => f.length
  | maxStreamData f => f.length
  | maxStreams f => f.length
  | dataBlocked f => f.length
  | streamDataBlocked f => f.length
  | streamsBlocked f => f.length
  | newConnectionID f => f.length
  | retireConnectionID f => f.length
  | pathChallenge _ => .ok (1 + 8)
  | pathResponse _ => .ok (1 + 8)
  | connectionClose f => f.length
  | fecSrcFPI f => .ok f.length
  | repair f => .ok f.length
  | recovered f => .ok f.length

/-- Writing frames one after the other into one buffer: the first error stops it. -/
def writeAll : List Frame → Except GoError Bytes
  | [] => .ok []
  | f :: fs => do return (← f.write) ++ (← writeAll fs)

end Frame

end QuicFec
