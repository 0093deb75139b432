import QuicFec.FecPayload
import QuicFec.FecFramesParser
import QuicFec.FrameParser
import QuicFec.TransportParameters

/-! # Receiving FEC-protected packets

What a peer's transport parameters set up for receiving its FEC-protected
packets (`session.processTransportParameters`): a block framework receiver for
the peer's FEC scheme and symbol size `E`, and the FEC frames parser plugged into
the frame parser.  Then the FEC step of `session.handleUnpackedPacket`: once the
frames of a packet are parsed, a packet that carries a FEC_SRC_FPI frame has its
protected payload rebuilt from its frames (`ReceivePayloadForDecoding`).

The symbol size is checked from above only, by the transport parameters and by
`NewBlockFrameworkReceiver`.  `preprocessPayload` divides by `E - 1`, so a peer
that announces `E = 1` makes the receiver divide by zero on its first protected
packet (`preprocessPayload_one`).

Main results:

* `readNumericTransportParameter_fecSymbolSize`: the symbol sizes a peer may
  announce are exactly those up to `MAX_FEC_SYMBOL_SIZE`;
* `newBlockFrameworkReceiver_ok`: the receiver accepts every one below it;
* `fecReceive_divides_by_zero`: a peer announcing `E = 1` and sending one packet
  with a FEC_SRC_FPI and a PING frame crashes the receiver.
-/

namespace QuicFec
open GoBytes

/-! ## Setting up the receiver -/

/-- The block FEC schemes (`block.BlockFECScheme` values). -/
inductive BlockFECScheme where
  | xor
  | reedSolomon
  deriving DecidableEq, Repr

/-- `IsBlockFECScheme`. -/
def isBlockFECScheme (id : UInt8) : Bool := id == XORFECScheme || id == ReedSolomonFECScheme

/-- `GetBlockFECScheme`. -/
def getBlockFECScheme (id : UInt8) : Except GoError BlockFECScheme :=
  if id = XORFECScheme then .ok .xor
  else if id = ReedSolomonFECScheme then .ok .reedSolomon
  else .error (.error ("invalid block FEC Scheme ID: " ++ toString id.toNat))

/-- `BlockFrameworkReceiver`, as far as the receive path up to the protected
payload uses it: its symbol size and its FEC scheme. -/
structure BlockFrameworkReceiver where
  e : Nat
  fecScheme : BlockFECScheme
  deriving DecidableEq, Repr

/-- `NewBlockFrameworkReceiver`. -/
def newBlockFrameworkReceiver (fecScheme : BlockFECScheme) (E : Nat) :
    Except GoError BlockFrameworkReceiver :=
  if E ≥ MAX_FEC_SYMBOL_SIZE then
    .error (.error ("framework sender symbol size too big: " ++ toString E ++ " > " ++
      toString MAX_FEC_SYMBOL_SIZE))
  else .ok ⟨E, fecScheme⟩

/-- `CreateFrameworkReceiverFromFECSchemeID`: `none` (Go's `nil`) when FEC is
disabled. -/
def createFrameworkReceiverFromFECSchemeID (id : UInt8) (symbolSize : Nat) :
    Except GoError (Option (BlockFrameworkReceiver × FECFramesParser)) :=
  if isBlockFECScheme id then do
    let fecScheme ← getBlockFECScheme id
    let rfp := NewFECFramesParser symbolSize
    let receiver ← newBlockFrameworkReceiver fecScheme symbolSize
    return some (receiver, rfp)
  else if id = FECDisabled then .ok none
  else .error (.error ("invalid receiver FECSchemeID: " ++ toString id.toNat))

/-- What `session.processTransportParameters` sets up from the peer's parameters
for reading its packets: the FEC receiver, and the frame parser with the peer's
ACK delay exponent and the receiver's FEC frames parser. -/
def processFecTransportParameters (params : TransportParameters) :
    Except GoError (Option BlockFrameworkReceiver × FrameParser) := do
  let r ← createFrameworkReceiverFromFECSchemeID params.fecSchemeID params.fecSymbolSize.toNat
  return (r.map (·.1), ⟨params.ackDelayExponent.toNat, r.map (·.2)⟩)

/-- The FEC step of `session.handleUnpackedPacket` for the frames its loop
parsed: with a receiver, a packet that carries a FEC_SRC_FPI frame has its
protected payload rebuilt (`ReceivePayloadForDecoding`), to be handed to the
receiver's `ReceivePayload`. -/
def receiveFecPayload (receiver : Option BlockFrameworkReceiver) (pn : Int) (frames : List Frame) :
    Except GoError (Option Bytes) :=
  match receiver with
  | none => .ok none
  | some receiver =>
    if frames.any (fun f => match f with | .fecSrcFPI _ => true | _ => false) then
      (receivePayloadForDecoding pn frames receiver.e).map some
    else .ok none

/-! ## Symbol sizes the checks let through -/

/-- The FEC symbol size parameter: the value is checked against
`MAX_FEC_SYMBOL_SIZE` only. -/
theorem setNumericTransportParameter_fecSymbolSize (p : TransportParameters) (val : Nat) :
    setNumericTransportParameter p fecSymbolSizeParameterID val =
      if val > MAX_FEC_SYMBOL_SIZE then
        .error (.error ("invalid value for fec_symbol_size: " ++ toString val ++
          " bytes (maximum " ++ toString MAX_FEC_SYMBOL_SIZE ++ " bytes)"))
      else .ok { p with fecSymbolSize := UInt16.ofNat val } := by
  simp [setNumericTransportParameter, fecSymbolSizeParameterID,
    initialMaxStreamDataBidiLocalParameterID, initialMaxStreamDataBidiRemoteParameterID,
    initialMaxStreamDataUniParameterID, initialMaxDataParameterID,
    initialMaxStreamsBidiParameterID, initialMaxStreamsUniParameterID, idleTimeoutParameterID,
    maxPacketSizeParameterID, ackDelayExponentParameterID, maxAckDelayParameterID]

/-- A peer may announce any symbol size up to `MAX_FEC_SYMBOL_SIZE`, `0` and `1`
included, and no other. -/
theorem readNumericTransportParameter_fecSymbolSize {val : Nat} (hval : val ≤ maxVarInt8)
    (p : TransportParameters) (rest : Bytes) :
    readNumericTransportParameter p (varIntBytes val ++ rest) fecSymbolSizeParameterID
        (varIntBytes val).length =
      if val ≤ MAX_FEC_SYMBOL_SIZE then .ok ({ p with fecSymbolSize := UInt16.ofNat val }, rest)
      else .error (.error ("invalid value for fec_symbol_size: " ++ toString val ++
        " bytes (maximum " ++ toString MAX_FEC_SYMBOL_SIZE ++ " bytes)")) := by
  simp only [readNumericTransportParameter, readVarInt_varIntBytes hval,
    setNumericTransportParameter_fecSymbolSize]
  by_cases h : val ≤ MAX_FEC_SYMBOL_SIZE
  · simp [h, Nat.not_lt.mpr h]
  · simp [h, Nat.lt_of_not_le h]

/-- The receiver takes every symbol size below `MAX_FEC_SYMBOL_SIZE`. -/
theorem newBlockFrameworkReceiver_ok {E : Nat} (h : E < MAX_FEC_SYMBOL_SIZE) (s : BlockFECScheme) :
    newBlockFrameworkReceiver s E = .ok ⟨E, s⟩ := by
  simp [newBlockFrameworkReceiver, Nat.not_le.mpr h]

/-- With `E = 1` the chunk size `E - 1` is zero, and rebuilding the payload of
any packet with something to protect divides by it. -/
theorem preprocessPayload_one {pn : Int} {frames : List Frame} {w : Bytes} (h0 : 0 ≤ pn)
    (hpn : pn.toNat ≤ maxVarInt8) (hw : writeProtectedFrames frames = .ok w) (hne : w ≠ []) :
    preprocessPayload pn frames 1 = .error divideByZero := by
  have hsub : subU64 1 1 = 0 := by decide
  simp [preprocessPayload, hw, hne, hsub, toUint64_eq_toNat h0 hpn, varIntLen_eq_length hpn, modU64]

/-- A peer announces the XOR scheme and the symbol size `1`, which the transport
parameters and the receiver accept, and sends a 1-RTT packet holding a
FEC_SRC_FPI frame and a PING frame.  The frames parse, and rebuilding the
protected payload divides by zero. -/
theorem fecReceive_divides_by_zero :
    readNumericTransportParameter TransportParameters.zero [0x01] fecSymbolSizeParameterID 1 =
        .ok ({ TransportParameters.zero with fecSymbolSize := 1 }, []) ∧
      readNumericTransportParameter TransportParameters.zero [0x01] fecSchemeIDParameterID 1 =
        .ok ({ TransportParameters.zero with fecSchemeID := XORFECScheme }, []) ∧
      ∃ receiver parser,
        processFecTransportParameters { TransportParameters.zero with
          ackDelayExponent := 3, fecSymbolSize := 1, fecSchemeID := XORFECScheme } =
            .ok (some receiver, parser) ∧
        parser.ReadsFrames .oneRTT [0x21, 0, 0, 0, 0, 0x01]
          [.fecSrcFPI ⟨fixedArray 4 [0, 0, 0, 0]⟩, .ping] ∧
        receiveFecPayload (some receiver) 0 [.fecSrcFPI ⟨fixedArray 4 [0, 0, 0, 0]⟩, .ping] =
          .error divideByZero := by
  refine ⟨by decide, by decide, ⟨1, .xor⟩, ⟨3, some (NewFECFramesParser 1)⟩, rfl, ?_, by decide⟩
  -- the loop of handleUnpackedPacket: the two frames, then the end of the packet
  have h1 : (FrameParser.mk 3 (some (NewFECFramesParser 1))).parseNext .oneRTT
      [0x21, 0, 0, 0, 0, 0x01] = .ok (some (.fecSrcFPI ⟨fixedArray 4 [0, 0, 0, 0]⟩), [0x01]) := by
    decide
  have h2 : (FrameParser.mk 3 (some (NewFECFramesParser 1))).parseNext .oneRTT [0x01] =
      .ok (some .ping, []) := by decide
  have h3 : (FrameParser.mk 3 (some (NewFECFramesParser 1))).parseNext .oneRTT [] =
      .ok (none, []) := by decide
  exact .next h1 (.next h2 (.done h3))

end QuicFec
