import QuicFec.Utils
import QuicFec.PacketNumber
import QuicFec.FrameParser

/-! # Packet headers

`internal/wire/header.go` and `internal/wire/extended_header.go`.  A packet
starts with a header in one of two forms.  A long header (form bit `0x80` set)
carries the version, both connection IDs with their lengths, and for the types
other than Retry the length of the rest of the packet as a varint, an Initial
packet a token before it.  A short header carries only the destination
connection ID, whose length the receiver knows.  Both end in the packet number,
of one to four bytes, whose length minus one is in the two low bits of the first
byte; a short header's first byte also has the key phase bit.

The receiver parses in two passes.  `ParsePacket` reads the part of the header
before the packet number (`parseHeader`), notes how many bytes that took
(`parsedLen`), and cuts a long-header packet at `parsedLen + Length`.
`ParseExtended` then reads the first byte again, once the header protection is
removed, skips to `parsedLen`, and reads the packet number.

Go's parsers fill a `Header` in place and return it with an error; the header of
a failed parse is only used when the version is not supported, and the model
returns it then.  The reader is the bytes it has not consumed (`GoBytes`), so
`parsedLen` is the number of bytes the first pass left behind it, subtracted from
the length it started with.
-/

namespace QuicFec
open GoBytes

/-! ## Protocol values -/

/-- `protocol.PacketType`: a `uint8`, the long header types from 1 on; a short
header leaves it at 0. -/
def PacketTypeInitial : UInt8 := 1
def PacketTypeRetry : UInt8 := 2
def PacketTypeHandshake : UInt8 := 3
def PacketType0RTT : UInt8 := 4

/-- `protocol.MaxConnIDLen`. -/
def MaxConnIDLen : Nat := 20

/-- `protocol.VersionTLS`. -/
def VersionTLS : Nat := 0x51474fff

/-- `protocol.SupportedVersions`. -/
def SupportedVersions : List Nat := [VersionTLS]

/-- `protocol.IsSupportedVersion`. -/
def IsSupportedVersion (supported : List Nat) (v : Nat) : Bool := supported.any (· == v)

/-- `protocol.KeyPhaseZero` and `protocol.KeyPhaseOne`: a `KeyPhaseBit` is a
`bool`. -/
def KeyPhaseZero : Bool := false
def KeyPhaseOne : Bool := true

/-- `errUnsupportedVersion`. -/
def errUnsupportedVersion : GoError := .error "unsupported version"

/-- `ErrInvalidReservedBits`. -/
def ErrInvalidReservedBits : GoError := .error "invalid reserved bits"

/-! ## The header -/

/-- `wire.Header`: the version-independent part of a header.  A `VersionNumber` is
a `uint32` and a `ByteCount` a `uint64`; the field `Type` is `PacketType` here,
`Type` being a word of Lean. -/
structure Header where
  Version : Nat := 0
  SrcConnectionID : Bytes := []
  DestConnectionID : Bytes := []
  IsLongHeader : Bool := false
  PacketType : UInt8 := 0
  Length : Nat := 0
  Token : Bytes := []
  SupportedVersions : List Nat := []
  OrigDestConnectionID : Bytes := []
  typeByte : UInt8 := 0
  parsedLen : Nat := 0
  deriving DecidableEq, Repr

namespace Header

/-- `parseShortHeader`: the destination connection ID, of the length the receiver
uses. -/
def parseShortHeader (h : Header) (b : Bytes) (shortHeaderConnIDLen : Nat) :
    Except GoError (Header × Bytes) := do
  let (DestConnectionID, b) ← readConnectionID b shortHeaderConnIDLen
  return ({ h with DestConnectionID }, b)

/-- The loop of `parseVersionNegotiationPacket`: a `uint32` version while bytes
are left, at most `fuel` of them. -/
def readVersions : Nat → Bytes → Except GoError (List Nat)
  | 0, _ => .ok []
  | fuel + 1, b =>
    if b.length = 0 then .ok [] else do
    let (v, b) ← readUint32 b
    return v :: (← readVersions fuel b)

/-- `parseVersionNegotiationPacket`: the rest of the packet is a list of versions.
Each round of the loop reads four bytes, so a quarter of the bytes is enough fuel. -/
def parseVersionNegotiationPacket (h : Header) (b : Bytes) : Header × Except GoError Bytes :=
  if b.length = 0 then (h, .error (.error "Version Negotiation packet has empty version list"))
  else if b.length % 4 ≠ 0 then
    (h, .error (.error "Version Negotiation packet has a version list with an invalid length"))
  else match readVersions (b.length / 4) b with
    | .error err => (h, .error err)
    | .ok SupportedVersions => ({ h with SupportedVersions }, .ok [])

/-- The part of `parseLongHeader` before the version is looked at: the version and
the two connection IDs. -/
def parseInvariant (h : Header) (b : Bytes) : Except GoError (Header × Bytes) := do
  let (v, b) ← readUint32 b
  let h := { h with Version := v }
  if h.Version ≠ 0 ∧ h.typeByte &&& (0x40 : UInt8) = 0 then throw (.error "not a QUIC packet")
  let (destConnIDLen, b) ← readByte b
  let (DestConnectionID, b) ← readConnectionID b destConnIDLen.toNat
  let (srcConnIDLen, b) ← readByte b
  let (SrcConnectionID, b) ← readConnectionID b srcConnIDLen.toNat
  return ({ h with DestConnectionID, SrcConnectionID }, b)

/-- The type of a long header, from bits `0x30` of its first byte. -/
def longHeaderType (typeByte : UInt8) : UInt8 :=
  let bits := (typeByte &&& 0x30) >>> 4
  if bits = 0x0 then PacketTypeInitial
  else if bits = 0x1 then PacketType0RTT
  else if bits = 0x2 then PacketTypeHandshake
  else PacketTypeRetry

/-- The token of an Initial packet: a varint length, and as many bytes, which the
reader must hold. -/
def parseToken (b : Bytes) : Except GoError (Bytes × Bytes) := do
  let (tokenLen, b) ← readVarInt b
  if tokenLen > b.length then throw .eof
  readFull tokenLen b

/-- The part of `parseLongHeader` for a supported version: the type, then Retry's
original destination connection ID and token, or the token of an Initial packet
and the length. -/
def parseLongHeaderTail (h : Header) (b : Bytes) : Except GoError (Header × Bytes) := do
  let h := { h with PacketType := longHeaderType h.typeByte }
  if h.PacketType = PacketTypeRetry then
    let (origDestConnIDLen, b) ← readByte b
    let (OrigDestConnectionID, b) ← readConnectionID b origDestConnIDLen.toNat
    -- the token is the rest of the packet
    let (Token, b) ← readFull b.length b
    return ({ h with OrigDestConnectionID, Token }, b)
  let (h, b) ← if h.PacketType = PacketTypeInitial then do
      let (Token, b) ← parseToken b
      pure ({ h with Token }, b)
    else pure (h, b)
  let (pl, b) ← readVarInt b
  return ({ h with Length := pl }, b)

/-- `parseLongHeader`: the header as far as it was filled, and the rest of the
reader or the error.  A version of 0 is a Version Negotiation packet; an unknown
version stops the parse after the connection IDs. -/
def parseLongHeader (h : Header) (b : Bytes) : Header × Except GoError Bytes :=
  match h.parseInvariant b with
  | .error err => (h, .error err)
  | .ok (h, b) =>
    if h.Version = 0 then h.parseVersionNegotiationPacket b
    -- If we don't understand the version, we have no idea how to interpret the rest of the bytes
    else if !IsSupportedVersion QuicFec.SupportedVersions h.Version then (h, .error errUnsupportedVersion)
    else match h.parseLongHeaderTail b with
      | .error err => (h, .error err)
      | .ok (h, b) => (h, .ok b)

end Header

/-- `parseHeaderImpl`: the header (`none` for Go's `nil`) and the rest of the reader,
or the error. -/
def parseHeaderImpl (b : Bytes) (shortHeaderConnIDLen : Nat) : Option Header × Except GoError Bytes :=
  match readByte b with
  | .error err => (none, .error err)
  | .ok (typeByte, b) =>
    let h : Header := { typeByte, IsLongHeader := typeByte &&& 0x80 > 0 }
    if !h.IsLongHeader then
      if h.typeByte &&& 0x40 = 0 then (none, .error (.error "not a QUIC packet"))
      else match h.parseShortHeader b shortHeaderConnIDLen with
        | .error err => (none, .error err)
        | .ok (h, b) => (some h, .ok b)
    else
      let (h, r) := h.parseLongHeader b
      (some h, r)

/-- `parseHeader`: a parsed header records how many bytes it took. -/
def parseHeader (b : Bytes) (shortHeaderConnIDLen : Nat) : Option Header × Except GoError Bytes :=
  match parseHeaderImpl b shortHeaderConnIDLen with
  | (some h, .ok rest) => (some { h with parsedLen := b.length - rest.length }, .ok rest)
  | r => r

/-- `ParsePacket`: the header, the packet and what follows it.  A long-header
packet is cut after `Length` more bytes than the header took; a packet of an
unsupported version gives its header only. -/
def ParsePacket (data : Bytes) (shortHeaderConnIDLen : Nat) :
    Except GoError (Option Header × Bytes × Bytes) :=
  match parseHeader data shortHeaderConnIDLen with
  | (hdr, .error err) => if err = errUnsupportedVersion then .ok (hdr, [], []) else .error err
  | (none, .ok _) => .ok (none, data, [])
  | (some hdr, .ok _) =>
    if hdr.IsLongHeader then
      if data.length < hdr.parsedLen + hdr.Length then
        .error (.error ("packet length (" ++ toString (data.length - hdr.parsedLen) ++
          " bytes) is smaller than the expected length (" ++ toString hdr.Length ++ " bytes)"))
      else
        let packetLen := hdr.parsedLen + hdr.Length
        .ok (some hdr, data.take packetLen, data.drop packetLen)
    else .ok (some hdr, data, [])

/-! ## The extended header -/

/-- `wire.ExtendedHeader`: a `Header`, the first byte read again once the header
protection is removed, and the packet number with its length and the key phase.
A `PacketNumberLen` is a `uint8`, a `PacketNumber` an `int64`. -/
structure ExtendedHeader where
  header : Header
  typeByte : UInt8 := 0
  PacketNumberLen : Nat := 0
  PacketNumber : Int := 0
  KeyPhase : Bool := KeyPhaseZero
  deriving DecidableEq, Repr

/-- `toExtendedHeader`. -/
def Header.toExtendedHeader (h : Header) : ExtendedHeader := { header := h }

namespace ExtendedHeader

/-- `readPacketNumber`: the length from the two low bits of the first byte, then
as many bytes. -/
def readPacketNumber (h : ExtendedHeader) (b : Bytes) : Except GoError (ExtendedHeader × Bytes) := do
  let PacketNumberLen := (h.typeByte &&& 0x3).toNat + 1
  let (pn, b) ← readUintN PacketNumberLen b
  return ({ h with PacketNumberLen, PacketNumber := pn }, b)

/-- The end of `parseLongHeader` and `parseShortHeader`: the packet number, and
`ErrInvalidReservedBits` with the header when a reserved bit of the first byte is
set. -/
def readPacketNumberChecked (h : ExtendedHeader) (b : Bytes) (reservedBits : UInt8) :
    Option ExtendedHeader × Option GoError :=
  match h.readPacketNumber b with
  | .error err => (none, some err)
  | .ok (h, _) => (some h, if h.typeByte &&& reservedBits ≠ 0 then some ErrInvalidReservedBits else none)

/-- `parseLongHeader`: the reserved bits are `0x0c`. -/
def parseLongHeader (h : ExtendedHeader) (b : Bytes) (_v : Nat) : Option ExtendedHeader × Option GoError :=
  h.readPacketNumberChecked b 0xc

/-- `parseShortHeader`: the key phase bit `0x04`, and the reserved bits `0x18`. -/
def parseShortHeader (h : ExtendedHeader) (b : Bytes) (_v : Nat) :
    Option ExtendedHeader × Option GoError :=
  let h := { h with KeyPhase := if h.typeByte &&& 0x4 > 0 then KeyPhaseOne else KeyPhaseZero }
  h.readPacketNumberChecked b 0x18

/-- `parse`, of the packet `data` the reader is set to: the first byte, then,
after `Seek(ParsedLen - 1, io.SeekCurrent)`, the bytes from `parsedLen` on. -/
def parse (h : ExtendedHeader) (data : Bytes) (v : Nat) : Option ExtendedHeader × Option GoError :=
  match readByte data with
  | .error err => (none, some err)
  | .ok (typeByte, _) =>
    let h := { h with typeByte }
    let b := data.drop h.header.parsedLen
    if h.header.IsLongHeader then h.parseLongHeader b v else h.parseShortHeader b v

/-- `writePacketNumber`: the low `PacketNumberLen` bytes of the packet number as a
`uint64`. -/
def writePacketNumber (h : ExtendedHeader) : Except GoError Bytes :=
  if h.PacketNumberLen = PacketNumberLenInvalid ∨ h.PacketNumberLen > PacketNumberLen4 then
    .error (.error ("invalid packet number length: " ++ toString h.PacketNumberLen))
  else .ok (writeUintN h.PacketNumberLen (toUint64 h.PacketNumber))

/-- The two type bits of a long header's first byte; a type out of the switch
leaves them 0. -/
def longHeaderTypeBits (type : UInt8) : UInt8 :=
  if type = PacketTypeInitial then 0x0
  else if type = PacketType0RTT then 0x1
  else if type = PacketTypeHandshake then 0x2
  else if type = PacketTypeRetry then 0x3
  else 0

/-- `writeLongHeader`.  The length field of the packet number is a `uint8`
difference. -/
def writeLongHeader (h : ExtendedHeader) (_v : Nat) : Except GoError Bytes := do
  let firstByte := (0xc0 : UInt8) ||| longHeaderTypeBits h.header.PacketType <<< 4
  -- Retry packets don't have a packet number
  let firstByte := if h.header.PacketType ≠ PacketTypeRetry then
      firstByte ||| (UInt8.ofNat h.PacketNumberLen - 1) else firstByte
  let b := [firstByte] ++ writeUint32 h.header.Version ++
    [UInt8.ofNat h.header.DestConnectionID.length] ++ h.header.DestConnectionID ++
    [UInt8.ofNat h.header.SrcConnectionID.length] ++ h.header.SrcConnectionID
  if h.header.PacketType = PacketTypeRetry then
    return b ++ [UInt8.ofNat h.header.OrigDestConnectionID.length] ++ h.header.OrigDestConnectionID ++
      h.header.Token
  let b ← if h.header.PacketType = PacketTypeInitial then do
      pure (b ++ (← writeVarInt h.header.Token.length) ++ h.header.Token)
    else pure b
  let b := b ++ (← writeVarInt h.header.Length)
  return b ++ (← h.writePacketNumber)

/-- `writeShortHeader`. -/
def writeShortHeader (h : ExtendedHeader) (_v : Nat) : Except GoError Bytes := do
  let typeByte : UInt8 := 0x40 ||| (UInt8.ofNat h.PacketNumberLen - 1)
  let typeByte := if h.KeyPhase = KeyPhaseOne then typeByte ||| (1 : UInt8) <<< 2 else typeByte
  return [typeByte] ++ h.header.DestConnectionID ++ (← h.writePacketNumber)

/-- `Write`: the three connection IDs are checked against `MaxConnIDLen` first. -/
def Write (h : ExtendedHeader) (ver : Nat) : Except GoError Bytes :=
  if h.header.DestConnectionID.length > MaxConnIDLen then
    .error (.error ("invalid connection ID length: " ++ toString h.header.DestConnectionID.length ++
      " bytes"))
  else if h.header.SrcConnectionID.length > MaxConnIDLen then
    .error (.error ("invalid connection ID length: " ++ toString h.header.SrcConnectionID.length ++
      " bytes"))
  else if h.header.OrigDestConnectionID.length > MaxConnIDLen then
    .error (.error ("invalid connection ID length: " ++
      toString h.header.OrigDestConnectionID.length ++ " bytes"))
  else if h.header.IsLongHeader then h.writeLongHeader ver
  else h.writeShortHeader ver

/-- `GetLength`.  `utils.VarIntLen` panics beyond `maxVarInt8`. -/
def GetLength (h : ExtendedHeader) (_v : Nat) : Except GoError Nat := do
  if h.header.IsLongHeader then
    let length := 1 + 4 + 1 + h.header.DestConnectionID.length + 1 + h.header.SrcConnectionID.length +
      h.PacketNumberLen + (← varIntLen h.header.Length)
    if h.header.PacketType = PacketTypeInitial then
      return length + (← varIntLen h.header.Token.length) + h.header.Token.length
    return length
  return 1 + h.header.DestConnectionID.length + h.PacketNumberLen

end ExtendedHeader

/-- `ParseExtended`: the version-dependent part of the header, from the packet's
first byte. -/
def Header.ParseExtended (h : Header) (data : Bytes) (ver : Nat) : Option ExtendedHeader × Option GoError :=
  h.toExtendedHeader.parse data ver

end QuicFec
