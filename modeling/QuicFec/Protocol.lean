import QuicFec.Lib.GoBytes

/-! # Protocol constants

`internal/protocol`, as far as the modelled code uses it.  A `protocol.ByteCount`
is a `uint64` and is modelled by `Nat`: the code never adds byte counts anywhere
near `2^64`, and where it subtracts them the model uses `GoBytes.subU64`, which
wraps as Go does.  A `protocol.PacketNumber` is an `int64` and is modelled by
`Int`: the code uses `-1` (`InvalidPacketNumber`) as a value.
-/
namespace QuicFec

/-- `protocol.InvalidPacketNumber`: a packet number that is never sent. -/
def InvalidPacketNumber : Int := -1

/-- `time.Millisecond`, in nanoseconds. -/
def Millisecond : Int := 1000000

/-- `protocol.EncryptionLevel`. -/
inductive EncryptionLevel where
  | unspecified
  | initial
  | handshake
  | oneRTT
  deriving DecidableEq, Repr

/-- `protocol.Perspective`. -/
inductive Perspective where
  | server
  | client
  deriving DecidableEq, Repr

/-- `protocol.MaxByteCount`. -/
def MaxByteCount : Nat := 2 ^ 62 - 1

/-- `protocol.MaxAckFrameSize`: the largest ACK frame the code writes. -/
def MaxAckFrameSize : Nat := 1000

/-- `protocol.AckDelayExponent` and `protocol.DefaultAckDelayExponent`. -/
def AckDelayExponent : Nat := 3

/-- `protocol.MaxPacketSizeIPv6`, which is also `MAX_FEC_SYMBOL_SIZE`. -/
def MaxPacketSizeIPv6 : Nat := 1232

/-- `protocol.MAX_FEC_SYMBOL_SIZE`. -/
def MAX_FEC_SYMBOL_SIZE : Nat := MaxPacketSizeIPv6

/-- `protocol.DefaultMaxAckDelay`: 25 milliseconds. -/
def DefaultMaxAckDelay : Int := 25 * Millisecond

/-- `protocol.MaxReceivePacketSize`. -/
def MaxReceivePacketSize : Nat := 1452

/-- `protocol.MinStreamFrameSize`. -/
def MinStreamFrameSize : Nat := 128

/-- `protocol.MaxStreamFrameSorterGaps`. -/
def MaxStreamFrameSorterGaps : Nat := 1000

/-- `protocol.MaxCryptoStreamOffset`: the largest offset allowed on a crypto stream. -/
def MaxCryptoStreamOffset : Nat := 16 * (1 <<< 10)

/-- `protocol.MaxPostHandshakeCryptoFrameSize`. -/
def MaxPostHandshakeCryptoFrameSize : Nat := 1000

/-- `protocol.FEC_SRC_FPI_FRAME_TYPE`, `REPAIR_FRAME_TYPE`, `RECOVERED_FRAME_TYPE`. -/
def FEC_SRC_FPI_FRAME_TYPE : UInt8 := 0x21
def REPAIR_FRAME_TYPE : UInt8 := 0x22
def RECOVERED_FRAME_TYPE : UInt8 := 0x23

/-- The values of a `protocol.FECSchemeID`, a byte that names the FEC scheme a
peer uses. -/
def FECDisabled : UInt8 := 0
def XORFECScheme : UInt8 := 1
def ReedSolomonFECScheme : UInt8 := 2
def RLCFECScheme : UInt8 := 3

end QuicFec
