import Mathlib
import QuicFec.Utils

/-! # Transport parameters

`TransportParameters` (handshake/transport_parameters.go) and the numeric
parameters as `readNumericTransportParameter` reads and checks them, among them
the two this code adds for FEC: the symbol size the peer's sender uses
(`fec_symbol_size`, the `E` of its receiver here) and its FEC scheme.  A
`time.Duration` is a signed number of nanoseconds, and its multiplications wrap
as `int64` does.
-/

namespace QuicFec
open GoBytes

/-! ## Parameter IDs and limits -/

/-- `transportParameterID` values. -/
def originalConnectionIDParameterID : Nat := 0x0
def idleTimeoutParameterID : Nat := 0x1
def statelessResetTokenParameterID : Nat := 0x2
def maxPacketSizeParameterID : Nat := 0x3
def initialMaxDataParameterID : Nat := 0x4
def initialMaxStreamDataBidiLocalParameterID : Nat := 0x5
def initialMaxStreamDataBidiRemoteParameterID : Nat := 0x6
def initialMaxStreamDataUniParameterID : Nat := 0x7
def initialMaxStreamsBidiParameterID : Nat := 0x8
def initialMaxStreamsUniParameterID : Nat := 0x9
def ackDelayExponentParameterID : Nat := 0xa
def maxAckDelayParameterID : Nat := 0xb
def disableMigrationParameterID : Nat := 0xc
def fecSymbolSizeParameterID : Nat := 0xe
def fecSchemeIDParameterID : Nat := 0xf

/-- `protocol.MinRemoteIdleTimeout`: five seconds. -/
def MinRemoteIdleTimeout : Int := 5000 * Millisecond

/-- `protocol.MaxAckDelayExponent`. -/
def MaxAckDelayExponent : Nat := 20

/-- `protocol.MaxMaxAckDelay`: `2^14` milliseconds. -/
def MaxMaxAckDelay : Int := 2 ^ 14 * Millisecond

/-! ## The parameters -/

/-- `TransportParameters`. -/
structure TransportParameters where
  initialMaxStreamDataBidiLocal : Nat
  initialMaxStreamDataBidiRemote : Nat
  initialMaxStreamDataUni : Nat
  initialMaxData : Nat
  maxAckDelay : Int
  ackDelayExponent : UInt8
  maxPacketSize : Nat
  maxUniStreamNum : Int
  maxBidiStreamNum : Int
  idleTimeout : Int
  disableMigration : Bool
  statelessResetToken : Option (Vector UInt8 16)
  originalConnectionID : Bytes
  fecSymbolSize : UInt16
  fecSchemeID : UInt8
  deriving DecidableEq, Repr

/-- The zero value `TransportParameters{}` that `Unmarshal` fills. -/
def TransportParameters.zero : TransportParameters :=
  ⟨0, 0, 0, 0, 0, 0, 0, 0, 0, 0, false, none, [], 0, 0⟩

/-- `time.Duration(val) * time.Millisecond`. -/
def durationMillis (val : Nat) : Int := wrapInt64 (toInt64 val * Millisecond)

/-- The value of a numeric parameter, once read: stored, or rejected by its
check. -/
def setNumericTransportParameter (p : TransportParameters) (paramID val : Nat) :
    Except GoError TransportParameters :=
  if paramID = initialMaxStreamDataBidiLocalParameterID then
    .ok { p with initialMaxStreamDataBidiLocal := val }
  else if paramID = initialMaxStreamDataBidiRemoteParameterID then
    .ok { p with initialMaxStreamDataBidiRemote := val }
  else if paramID = initialMaxStreamDataUniParameterID then
    .ok { p with initialMaxStreamDataUni := val }
  else if paramID = initialMaxDataParameterID then
    .ok { p with initialMaxData := val }
  else if paramID = initialMaxStreamsBidiParameterID then
    .ok { p with maxBidiStreamNum := toInt64 val }
  else if paramID = initialMaxStreamsUniParameterID then
    .ok { p with maxUniStreamNum := toInt64 val }
  else if paramID = idleTimeoutParameterID then
    .ok { p with idleTimeout := max MinRemoteIdleTimeout (durationMillis val) }
  else if paramID = maxPacketSizeParameterID then
    if val < 1200 then
      .error (.error ("invalid value for max_packet_size: " ++ toString val ++ " (minimum 1200)"))
    else .ok { p with maxPacketSize := val }
  else if paramID = ackDelayExponentParameterID then
    if val > MaxAckDelayExponent then
      .error (.error ("invalid value for ack_delay_exponent: " ++ toString val ++ " (maximum " ++
        toString MaxAckDelayExponent ++ ")"))
    else .ok { p with ackDelayExponent := UInt8.ofNat val }
  else if paramID = maxAckDelayParameterID then
    let maxAckDelay := durationMillis val
    if maxAckDelay ≥ MaxMaxAckDelay then
      .error (.error ("invalid value for max_ack_delay: " ++ toString (maxAckDelay.tdiv Millisecond) ++
        "ms (maximum " ++ toString ((MaxMaxAckDelay - Millisecond).tdiv Millisecond) ++ "ms)"))
    else .ok { p with maxAckDelay := maxAckDelay }
  else if paramID = fecSymbolSizeParameterID then
    if val > MAX_FEC_SYMBOL_SIZE then
      .error (.error ("invalid value for fec_symbol_size: " ++ toString val ++ " bytes (maximum " ++
        toString MAX_FEC_SYMBOL_SIZE ++ " bytes)"))
    else .ok { p with fecSymbolSize := UInt16.ofNat val }
  else if paramID = fecSchemeIDParameterID then
    .ok { p with fecSchemeID := UInt8.ofNat val }
  else .error (.error ("TransportParameter BUG: transport parameter " ++ toString paramID ++
    " not found"))

/-- `TransportParameters.readNumericTransportParameter`: a varint of
`expectedLen` bytes, stored under `paramID`. -/
def readNumericTransportParameter (p : TransportParameters) (r : Bytes) (paramID expectedLen : Nat) :
    Except GoError (TransportParameters × Bytes) := do
  let remainingLen := r.length
  let (val, r) ← match readVarInt r with
    | .ok x => pure x
    | .error err => throw (.error ("error while reading transport parameter " ++ toString paramID ++
        ": " ++ err.message))
  if remainingLen - r.length ≠ expectedLen then
    throw (.error ("inconsistent transport parameter length for " ++ toString paramID))
  let p ← setNumericTransportParameter p paramID val
  return (p, r)

/-! ## Unmarshal -/

/-- The variables of the loop of `Unmarshal`: the parameters read so far, the IDs
seen (`parameterIDs`), and whether `ack_delay_exponent` and `max_ack_delay` came. -/
structure UnmarshalState where
  params : TransportParameters
  parameterIDs : List Nat
  readAckDelayExponent : Bool
  readMaxAckDelay : Bool
  deriving DecidableEq, Repr

/-- The numeric parameters besides `ack_delay_exponent` and `max_ack_delay`, the
third case of the `switch` of `Unmarshal`. -/
def numericParameterIDs : List Nat :=
  [initialMaxStreamDataBidiLocalParameterID, initialMaxStreamDataBidiRemoteParameterID,
    initialMaxStreamDataUniParameterID, initialMaxDataParameterID, initialMaxStreamsBidiParameterID,
    initialMaxStreamsUniParameterID, idleTimeoutParameterID, maxPacketSizeParameterID,
    fecSymbolSizeParameterID, fecSchemeIDParameterID]

/-- One turn of the loop of `Unmarshal`, on a reader with at least four bytes left:
the ID and the length of a parameter, then its value. -/
def unmarshalParameter (sentBy : Perspective) (st : UnmarshalState) (r : Bytes) :
    Except GoError (UnmarshalState × Bytes) := do
  let (paramID, r) ← readUint16 r
  let (paramLen, r) ← readUint16 r
  let st := { st with parameterIDs := st.parameterIDs ++ [paramID] }
  if paramID = ackDelayExponentParameterID then
    let (p, r) ← readNumericTransportParameter st.params r paramID paramLen
    return ({ st with params := p, readAckDelayExponent := true }, r)
  else if paramID = maxAckDelayParameterID then
    let (p, r) ← readNumericTransportParameter st.params r paramID paramLen
    return ({ st with params := p, readMaxAckDelay := true }, r)
  else if paramID ∈ numericParameterIDs then
    let (p, r) ← readNumericTransportParameter st.params r paramID paramLen
    return ({ st with params := p }, r)
  else
    if r.length < paramLen then
      throw (.error ("remaining length (" ++ toString r.length ++ ") smaller than parameter length (" ++
        toString paramLen ++ ")"))
    if paramID = disableMigrationParameterID then
      if paramLen ≠ 0 then
        throw (.error ("wrong length for disable_migration: " ++ toString paramLen ++ " (expected empty)"))
      return ({ st with params := { st.params with disableMigration := true } }, r)
    else if paramID = statelessResetTokenParameterID then
      if sentBy = .client then throw (.error "client sent a stateless_reset_token")
      if paramLen ≠ 16 then
        throw (.error ("wrong length for stateless_reset_token: " ++ toString paramLen ++ " (expected 16)"))
      -- `r.Read(token[:])`: the reader holds the 16 bytes
      let token : Vector UInt8 16 := Vector.ofFn fun i => r.getD i 0
      return ({ st with params := { st.params with statelessResetToken := some token } }, r.drop 16)
    else if paramID = originalConnectionIDParameterID then
      if sentBy = .client then throw (.error "client sent an original_connection_id")
      -- `protocol.ReadConnectionID`: the next `paramLen` bytes, which the reader holds
      return ({ st with params := { st.params with originalConnectionID := r.take paramLen } },
        r.drop paramLen)
    else
      -- an unknown parameter is skipped
      return (st, r.drop paramLen)

/-- The loop `for r.Len() >= 4` of `Unmarshal`.  Each turn reads at least four
bytes, so as many turns as there are bytes are enough. -/
def unmarshalLoop (sentBy : Perspective) : Nat → UnmarshalState → Bytes →
    Except GoError (UnmarshalState × Bytes)
  | 0, st, r => .ok (st, r)
  | fuel + 1, st, r =>
    if r.length ≥ 4 then do
      let (st, r) ← unmarshalParameter sentBy st r
      unmarshalLoop sentBy fuel st r
    else .ok (st, r)

/-- The scan of the sorted IDs for two equal neighbours. -/
def firstAdjacentDuplicate : List Nat → Option Nat
  | a :: b :: rest => if a = b then some a else firstAdjacentDuplicate (b :: rest)
  | _ => none

/-- `TransportParameters.Unmarshal`, into the zero value. -/
def TransportParameters.unmarshal (data : Bytes) (sentBy : Perspective) :
    Except GoError TransportParameters := do
  if data.length < 2 then throw (.error "transport parameter data too short")
  let (length, r) ← readUint16 data
  if data.length - 2 < length then
    throw (.error ("expected transport parameters to be " ++ toString length ++ " bytes long, have " ++
      toString (data.length - 2)))
  let (st, r) ← unmarshalLoop sentBy data.length ⟨TransportParameters.zero, [], false, false⟩ r
  let p := st.params
  let p := if !st.readAckDelayExponent then { p with ackDelayExponent := UInt8.ofNat AckDelayExponent }
    else p
  let p := if !st.readMaxAckDelay then { p with maxAckDelay := DefaultMaxAckDelay } else p
  -- check that every transport parameter was sent at most once
  if let some id := firstAdjacentDuplicate (st.parameterIDs.insertionSort (· ≤ ·)) then
    throw (.error ("received duplicate transport parameter 0x" ++ String.ofList (Nat.toDigits 16 id)))
  if r.length ≠ 0 then
    throw (.error ("should have read all data. Still have " ++ toString r.length ++ " bytes"))
  return p

/-! ## Marshal -/

/-- `marshalVarintParam`. -/
def marshalVarintParam (id val : Nat) : Except GoError Bytes := do
  let len ← varIntLen val
  return writeUint16 id ++ writeUint16 len ++ (← writeVarInt val)

/-- `TransportParameters.Marshal`: the parameters after a length of two bytes. -/
def TransportParameters.marshal (p : TransportParameters) : Except GoError Bytes := do
  let b1 ← marshalVarintParam initialMaxStreamDataBidiLocalParameterID p.initialMaxStreamDataBidiLocal
  let b2 ← marshalVarintParam initialMaxStreamDataBidiRemoteParameterID p.initialMaxStreamDataBidiRemote
  let b3 ← marshalVarintParam initialMaxStreamDataUniParameterID p.initialMaxStreamDataUni
  let b4 ← marshalVarintParam initialMaxDataParameterID p.initialMaxData
  let b5 ← marshalVarintParam initialMaxStreamsBidiParameterID (toUint64 p.maxBidiStreamNum)
  let b6 ← marshalVarintParam initialMaxStreamsUniParameterID (toUint64 p.maxUniStreamNum)
  let b7 ← marshalVarintParam idleTimeoutParameterID (toUint64 (p.idleTimeout.tdiv Millisecond))
  let b8 ← marshalVarintParam maxPacketSizeParameterID MaxReceivePacketSize
  let b9 ← marshalVarintParam fecSymbolSizeParameterID p.fecSymbolSize.toNat
  let b10 ← marshalVarintParam fecSchemeIDParameterID p.fecSchemeID.toNat
  -- max_ack_delay and ack_delay_exponent only when they differ from the defaults
  let b11 ← if p.maxAckDelay ≠ DefaultMaxAckDelay then
      marshalVarintParam maxAckDelayParameterID (toUint64 (p.maxAckDelay.tdiv Millisecond))
    else pure []
  let b12 ← if p.ackDelayExponent.toNat ≠ AckDelayExponent then
      marshalVarintParam ackDelayExponentParameterID p.ackDelayExponent.toNat
    else pure []
  let b13 := if p.disableMigration then writeUint16 disableMigrationParameterID ++ writeUint16 0 else []
  let b14 := match p.statelessResetToken with
    | some token => writeUint16 statelessResetTokenParameterID ++ writeUint16 16 ++ token.toList
    | none => []
  let b15 := if p.originalConnectionID.length > 0 then
      writeUint16 originalConnectionIDParameterID ++ writeUint16 p.originalConnectionID.length ++
        p.originalConnectionID
    else []
  let b := b1 ++ b2 ++ b3 ++ b4 ++ b5 ++ b6 ++ b7 ++ b8 ++ b9 ++ b10 ++ b11 ++ b12 ++ b13 ++ b14 ++ b15
  return writeUint16 b.length ++ b

end QuicFec
