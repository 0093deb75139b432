import QuicFec.SentPacketHistory
import QuicFec.PacketNumberGenerator
import QuicFec.PacketNumber

/-! # The sent packet handler

`sentPacketHandler` (sent_packet_handler.go) keeps, for each of the three packet
number spaces (Initial, Handshake, 1-RTT), the history of the ack-eliciting
packets sent and not yet acknowledged or lost, the generator of the space's
packet numbers, and the largest packet number sent and acknowledged; over all
spaces it counts the bytes in flight and queues the packets whose frames are to
be sent again.  The Initial and Handshake spaces are dropped (`nil`) once their
keys are; the 1-RTT space never is.

The model is the handler as a state, and each exported method a function on it.
A method that returns an error returns it in place of the state, and `run` stops
at the first call that returns one; the results below are about runs in which no
call does, and a panic ends a run the same way.  Where the code drops an error (`Remove` in
`detectLostPackets`, the inner calls of `stopRetransmissionsFor`), the model drops
it as well.

Three things the handler uses are left out: the congestion controller (its
callbacks change only its own state and the pacing time `nextSendTime`), the loss
detection alarm (`updateLossDetectionAlarm` computes a deadline for the session,
which the runs of the model let fire at any time), and the trace callback.  The
RTT estimator is a parameter `updateRTT` of the model: `RTTStats.UpdateRTT`
smooths in `float32`, and every result below holds for every estimator.  The
random numbers the packet number generators draw are inputs of the calls that
draw them.

A run is a list of calls (`Call`), and `run` makes them one after another.
-/

namespace QuicFec
open GoBytes

/-- `protocol.TimerGranularity`; a `time.Time` or `time.Duration` is an `Int` of
nanoseconds. -/
def TimerGranularity : Int := Millisecond

/-- `EncryptionLevel.String`. -/
def EncryptionLevel.toString : EncryptionLevel → String
  | .initial => "Initial"
  | .handshake => "Handshake"
  | .oneRTT => "1-RTT"
  | .unspecified => "unknown"

/-- `%x` of a signed integer. -/
def formatHex (x : Int) : String :=
  if x < 0 then "-" ++ String.ofList (Nat.toDigits 16 x.natAbs) else String.ofList (Nat.toDigits 16 x.toNat)

/-- `qerr.Error(qerr.ProtocolViolation, msg)`, as its `Error()` prints it. -/
def protocolViolation (msg : String) : GoError := .error ("PROTOCOL_VIOLATION: " ++ msg)

/-- The dereference of a dropped packet number space. -/
def nilDereference : GoError := .panic "runtime error: invalid memory address or nil pointer dereference"

/-- `h.bytesInFlight -= n` on the `protocol.ByteCount` counter, which additions
never bring near `2^64` (see `QuicFec.Protocol`): exact when it does not go
below zero, and wrapped around as Go's `uint64` does when it does. -/
def subByteCount (x n : Nat) : Nat := if n ≤ x then x - n else 2 ^ 64 - (n - x)

/-- A call whose returned error the caller drops: an error value leaves the state
`s` the call was made in, which the calls dropped this way do not change before
they fail; a panic still ends the run. -/
def dropError {α : Type} (x : Except GoError α) (s : α) : Except GoError α :=
  match x with
  | .error (.panic msg) => .error (.panic msg)
  | .error _ => .ok s
  | .ok a => .ok a

/-- `congestion.RTTStats`: the fields the handler reads or an estimator sets. -/
structure RTTStats where
  minRTT : Int
  latestRTT : Int
  smoothedRTT : Int
  meanDeviation : Int
  maxAckDelay : Int

/-- `packetNumberSpace`. -/
structure PacketNumberSpace where
  history : SentPacketHistory
  pns : PacketNumberGenerator
  largestAcked : Int
  largestSent : Int

/-- The lowest packet number `PeekPacketNumber` counts as unacknowledged: the
first outstanding packet's, or the one after the largest acknowledged when there
is no outstanding packet. -/
def PacketNumberSpace.lowestUnacked (sp : PacketNumberSpace) : Int :=
  match sp.history.firstOutstanding with
  | some el => (sp.history.value el).packetNumber
  | none => sp.largestAcked + 1

/-- `newPacketNumberSpace`, with the random number of the generator's first skip. -/
def newPacketNumberSpace (initialPN : Int) (num : UInt16) : PacketNumberSpace where
  history := newSentPacketHistory
  pns := newPacketNumberGenerator initialPN SkipPacketAveragePeriodLength num
  largestAcked := InvalidPacketNumber
  largestSent := InvalidPacketNumber

/-- `sentPacketHandler`, without the congestion controller, the alarm, the send
times that only the alarm reads, and the logger. -/
structure SentPacketHandler where
  initialPackets : Option PacketNumberSpace
  handshakePackets : Option PacketNumberSpace
  oneRTTPackets : PacketNumberSpace
  lowestNotConfirmedAcked : Int
  retransmissionQueue : List Packet
  bytesInFlight : Nat
  rttStats : RTTStats
  cryptoCount : Nat
  ptoCount : Nat
  numProbesToSend : Int
  /-- `lossTime`, `none` for the zero `time.Time` -/
  lossTime : Option Int

/-- `NewSentPacketHandler`, with the random numbers of the three generators. -/
def newSentPacketHandler (initialPacketNumber : Int) (rttStats : RTTStats)
    (numInitial numHandshake numOneRTT : UInt16) : SentPacketHandler where
  initialPackets := some (newPacketNumberSpace initialPacketNumber numInitial)
  handshakePackets := some (newPacketNumberSpace 0 numHandshake)
  oneRTTPackets := newPacketNumberSpace 0 numOneRTT
  lowestNotConfirmedAcked := 0
  retransmissionQueue := []
  bytesInFlight := 0
  rttStats := rttStats
  cryptoCount := 0
  ptoCount := 0
  numProbesToSend := 0
  lossTime := none

namespace SentPacketHandler

/-! ## The packet number spaces -/

/-- `getPacketNumberSpace`, with the dereference that follows it: a dropped space
panics, and so does a level without a space. -/
def getPacketNumberSpace (h : SentPacketHandler) : EncryptionLevel →
    Except GoError PacketNumberSpace
  | .initial => match h.initialPackets with
    | some sp => .ok sp
    | none => .error nilDereference
  | .handshake => match h.handshakePackets with
    | some sp => .ok sp
    | none => .error nilDereference
  | .oneRTT => .ok h.oneRTTPackets
  | .unspecified => .error (.panic "invalid packet number space")

/-- A write through the pointer `getPacketNumberSpace` returned. -/
def setPacketNumberSpace (h : SentPacketHandler) (level : EncryptionLevel)
    (sp : PacketNumberSpace) : SentPacketHandler :=
  match level with
  | .initial => { h with initialPackets := some sp }
  | .handshake => { h with handshakePackets := some sp }
  | .oneRTT => { h with oneRTTPackets := sp }
  | .unspecified => h

/-- A step on the history of the space of `level`. -/
def modifyHistory (h : SentPacketHandler) (level : EncryptionLevel)
    (f : SentPacketHistory → Except GoError SentPacketHistory) : Except GoError SentPacketHandler := do
  let sp ← h.getPacketNumberSpace level
  let history ← f sp.history
  return h.setPacketNumberSpace level { sp with history }

/-- The packet behind a pointer into the history of the space of `level`. -/
def packetAt (h : SentPacketHandler) (level : EncryptionLevel) (el : Nat) :
    Except GoError Packet := do
  return (← h.getPacketNumberSpace level).history.value el

/-- `if p.includedInBytesInFlight { h.bytesInFlight -= p.Length }`, as
`onPacketAcked` and `detectLostPackets` both write it. -/
def subtractBytesInFlight (h : SentPacketHandler) (p : Packet) : SentPacketHandler :=
  if p.includedInBytesInFlight then { h with bytesInFlight := subByteCount h.bytesInFlight p.length }
  else h

/-! ## Sending -/

/-- `sentPacketImpl`: the handler after the packet was sent, the packet as the
handler set it, and whether it is ack-eliciting. -/
def sentPacketImpl (h : SentPacketHandler) (packet : Packet) :
    Except GoError (SentPacketHandler × Packet × Bool) := do
  let sp ← h.getPacketNumberSpace packet.encryptionLevel
  let h := h.setPacketNumberSpace packet.encryptionLevel { sp with largestSent := packet.packetNumber }
  let largestAcked ← (match packet.ack with
    | some ack => ack.largestAcked
    | none => pure InvalidPacketNumber)
  let packet := { packet with largestAcked, ack := none }
  if packet.frames.length > 0 then
    let packet := { packet with includedInBytesInFlight := true, canBeRetransmitted := true }
    let h := { h with
      bytesInFlight := h.bytesInFlight + packet.length
      numProbesToSend := if h.numProbesToSend > 0 then h.numProbesToSend - 1 else h.numProbesToSend }
    return (h, packet, true)
  else
    return (h, packet, false)

/-- `SentPacket`: an ack-eliciting packet enters the history of its space. -/
def sentPacket (h : SentPacketHandler) (packet : Packet) : Except GoError SentPacketHandler := do
  let (h, packet, isAckEliciting) ← h.sentPacketImpl packet
  if isAckEliciting then
    h.modifyHistory packet.encryptionLevel fun history => pure (history.sentPacket packet)
  else
    return h

/-- The loop of `SentPacketsAsRetransmission` over the packets: the handler and the
ack-eliciting packets, as the handler set them. -/
def sentPacketsLoop (h : SentPacketHandler) (ps : List Packet) :
    List Packet → Except GoError (SentPacketHandler × List Packet)
  | [] => .ok (h, ps)
  | packet :: packets => do
    let (h, packet, isAckEliciting) ← h.sentPacketImpl packet
    sentPacketsLoop h (if isAckEliciting then ps ++ [packet] else ps) packets

/-- `SentPacketsAsRetransmission`: the ack-eliciting packets all enter the history
of the space of the first of them. -/
def sentPacketsAsRetransmission (h : SentPacketHandler) (packets : List Packet)
    (retransmissionOf : Int) : Except GoError SentPacketHandler := do
  if packets.length = 0 then return h
  let (h, p) ← h.sentPacketsLoop [] packets
  let first ← index p 0
  h.modifyHistory first.encryptionLevel fun history =>
    pure (history.sentPacketsAsRetransmission p retransmissionOf)

/-- `PeekPacketNumber`: the next packet number, and the length to send it with,
chosen from the distance to the first outstanding packet, or to the number after
the largest acknowledged one when no packet is outstanding. -/
def peekPacketNumber (h : SentPacketHandler) (encLevel : EncryptionLevel) :
    Except GoError (Int × Nat) := do
  let sp ← h.getPacketNumberSpace encLevel
  let pn := sp.pns.peek
  return (pn, getPacketNumberLengthForHeader pn sp.lowestUnacked)

/-- `PopPacketNumber`, with the random number a new skip would draw. -/
def popPacketNumber (h : SentPacketHandler) (encLevel : EncryptionLevel) (num : UInt16) :
    Except GoError (Int × SentPacketHandler) := do
  let sp ← h.getPacketNumberSpace encLevel
  let (pn, pns) := sp.pns.pop num
  return (pn, h.setPacketNumberSpace encLevel { sp with pns })

/-! ## Retransmissions -/

/-- `queuePacketForRetransmission`, of the packet behind `el` in the history of
`level`. -/
def queuePacketForRetransmission (h : SentPacketHandler) (level : EncryptionLevel) (el : Nat) :
    Except GoError SentPacketHandler := do
  let p ← h.packetAt level el
  if !p.canBeRetransmitted then
    throw (.error ("sent packet handler BUG: packet " ++ toString p.packetNumber ++
      " already queued for retransmission"))
  let h ← h.modifyHistory level fun history => history.markCannotBeRetransmitted p.packetNumber
  return { h with retransmissionQueue := h.retransmissionQueue ++ [← h.packetAt level el] }

/-- The loop of `stopRetransmissionsFor` over the numbers of the retransmissions
of the packet numbered `pn`, with `stop` the recursive call: a number not in the
history of `level` ends the loop with an error; the errors of `stop` are dropped. -/
def stopLoop (level : EncryptionLevel) (pn : Int)
    (stop : SentPacketHandler → Nat → Except GoError (SentPacketHandler × Option GoError)) :
    SentPacketHandler → List Int → Except GoError (SentPacketHandler × Option GoError)
  | h, [] => .ok (h, none)
  | h, r :: rs => do
    match (← h.getPacketNumberSpace level).history.getPacket r with
    | none =>
      return (h, some (.error ("sent packet handler BUG: marking packet as not retransmittable " ++
        toString r ++ " (retransmission of " ++ toString pn ++ ") not found in history")))
    | some packet =>
      let (h, _) ← stop h packet
      stopLoop level pn stop h rs

/-- `stopRetransmissionsFor`, of the packet behind `el` in the history of `home`,
on the history of `level`: the handler and the error it returns.  Every
retransmission is pushed after the packet it retransmits, so the recursion only
goes to later elements; `fuel` bounds it, and running out of it is the stack
overflow Go would meet. -/
def stopRetransmissionsFor (home level : EncryptionLevel) :
    Nat → SentPacketHandler → Nat → Except GoError (SentPacketHandler × Option GoError)
  | 0, _, _ => .error (.panic "runtime: goroutine stack exceeds limit")
  | fuel + 1, h, el => do
    let p ← h.packetAt home el
    match h.modifyHistory level fun history => history.markCannotBeRetransmitted p.packetNumber with
    | .error (.panic msg) => throw (.panic msg)
    | .error e => return (h, some e)
    | .ok h =>
      stopLoop level p.packetNumber (stopRetransmissionsFor level level fuel) h
        (← h.packetAt home el).retransmittedAs

/-- The recursion bound of `stopRetransmissionsFor`: the number of elements ever
pushed into the history of `level`, and one more. -/
def stopFuel (h : SentPacketHandler) (level : EncryptionLevel) : Nat :=
  match h.getPacketNumberSpace level with
  | .ok sp => sp.history.packetList.fresh + 1
  | .error _ => 1

/-! ## Acknowledgements -/

/-- The inner loop of `determineNewlyAckedPackets`, over the ranges from range
`ackRangeIndex` on, counted from the lowest (`AckRanges[len-1-ackRangeIndex]`):
go up while the packet number is above the range and a higher range is left; the
index reached and its range. -/
def ackRangeLoop (pn : Int) : List AckRange → Nat → Except GoError (Nat × AckRange)
  | [], _ => .error (.panic "index out of range")
  | [ackRange], ackRangeIndex => .ok (ackRangeIndex, ackRange)
  | ackRange :: rest, ackRangeIndex =>
    if pn > ackRange.largest then ackRangeLoop pn rest (ackRangeIndex + 1)
    else .ok (ackRangeIndex, ackRange)

/-- The callback of `determineNewlyAckedPackets`; its state is `ackRangeIndex` and
the pointers to the packets acknowledged so far. -/
def ackedPacketsStep (f : AckFrame) (lowestAcked largestAcked : Int) (el : Nat) (p : Packet)
    (st : Nat × List Nat) : Except GoError (Bool × Nat × List Nat) :=
  if p.packetNumber < lowestAcked then .ok (true, st)
  else if p.packetNumber > largestAcked then .ok (false, st)
  else if f.ackRanges.length > 1 then do
    let (ackRangeIndex, ackRange) ← ackRangeLoop p.packetNumber (f.ackRanges.reverse.drop st.1) st.1
    if p.packetNumber ≥ ackRange.smallest then
      if p.packetNumber > ackRange.largest then
        throw (.error ("BUG: ackhandler would have acked wrong packet 0x" ++ formatHex p.packetNumber ++
          ", while evaluating range 0x" ++ formatHex ackRange.smallest ++ " -> 0x" ++
          formatHex ackRange.largest))
      return (true, ackRangeIndex, st.2 ++ [el])
    else
      return (true, ackRangeIndex, st.2)
  else .ok (true, st.1, st.2 ++ [el])

/-- `determineNewlyAckedPackets`: pointers to the packets of the history the ACK
frame acknowledges, in history order. -/
def determineNewlyAckedPackets (h : SentPacketHandler) (f : AckFrame) (encLevel : EncryptionLevel) :
    Except GoError (List Nat) := do
  let sp ← h.getPacketNumberSpace encLevel
  let lowestAcked ← f.lowestAcked
  let largestAcked ← f.largestAcked
  let (_, acked) ← sp.history.iterate (ackedPacketsStep f lowestAcked largestAcked) (0, [])
  return acked

/-- `onPacketAcked`, of the packet behind `el` in the history of `home`. -/
def onPacketAcked (h : SentPacketHandler) (home : EncryptionLevel) (el : Nat) :
    Except GoError SentPacketHandler := do
  let p ← h.packetAt home el
  let level := p.encryptionLevel
  let sp ← h.getPacketNumberSpace level
  match sp.history.getPacket p.packetNumber with
  | none => return h
  | some _ =>
    -- the packet it retransmits no longer waits for it
    let h ← (match (p.isRetransmission, sp.history.getPacket p.retransmissionOf) with
      | (true, some parent) => h.modifyHistory level fun history => pure (history.modifyPacket parent
          fun v => { v with retransmittedAs :=
            if v.retransmittedAs.length = 1 then [] else v.retransmittedAs.filter (· ≠ p.packetNumber) })
      | _ => pure h)
    let h := h.subtractBytesInFlight p
    let (h, err) ← stopRetransmissionsFor home level (h.stopFuel level) h el
    if let some e := err then throw e
    h.modifyHistory level fun history => history.remove p.packetNumber

/-- The callback of `detectLostPackets`: the state is `lossTime` and the pointers to
the packets lost. -/
def lostPacketsStep (largestAcked now lossDelay : Int) (encLevel : EncryptionLevel) (el : Nat)
    (packet : Packet) (st : Option Int × List Nat) : Except GoError (Bool × Option Int × List Nat) :=
  if packet.packetNumber > largestAcked then .ok (false, st)
  else
    let timeSinceSent := now - packet.sendTime
    if timeSinceSent > lossDelay then .ok (true, st.1, st.2 ++ [el])
    else if st.1.isNone ∧ encLevel = .oneRTT then
      .ok (true, some (now + (lossDelay - timeSinceSent)), st.2)
    else .ok (true, st)

/-- The loop of `detectLostPackets` over the packets lost. -/
def lostPacketsLoop (encLevel : EncryptionLevel) (h : SentPacketHandler) :
    List Nat → Except GoError SentPacketHandler
  | [] => .ok h
  | el :: els => do
    let p ← h.packetAt encLevel el
    let h := h.subtractBytesInFlight p
    let h ← (if p.canBeRetransmitted then h.queuePacketForRetransmission encLevel el else pure h)
    let h ← dropError (h.modifyHistory encLevel fun history => history.remove p.packetNumber) h
    lostPacketsLoop encLevel h els

/-- `detectLostPackets`: up to the largest acknowledged packet, the packets sent
longer ago than the loss delay are lost; the loss timer is set for the first
packet that is not lost yet. -/
def detectLostPackets (h : SentPacketHandler) (now : Int) (encLevel : EncryptionLevel) :
    Except GoError SentPacketHandler := do
  let h := if encLevel = .oneRTT then { h with lossTime := none } else h
  let sp ← h.getPacketNumberSpace encLevel
  let maxRTT := max h.rttStats.latestRTT h.rttStats.smoothedRTT
  -- `time.Duration(timeThreshold * maxRTT)` with `timeThreshold = 9.0 / 8`
  let lossDelay := max (Int.tdiv (9 * maxRTT) 8) TimerGranularity
  let (lossTime, lostPackets) ←
    sp.history.iterate (lostPacketsStep sp.largestAcked now lossDelay encLevel) (h.lossTime, [])
  lostPacketsLoop encLevel { h with lossTime } lostPackets

/-- The loop of `ReceivedAck` over the packets acknowledged. -/
def ackedPacketsLoop (encLevel : EncryptionLevel) (h : SentPacketHandler) :
    List Nat → Except GoError SentPacketHandler
  | [] => .ok h
  | el :: els => do
    let p ← h.packetAt encLevel el
    let h := if p.largestAcked ≠ InvalidPacketNumber ∧ encLevel = .oneRTT then
      { h with lowestNotConfirmedAcked := max h.lowestNotConfirmedAcked (p.largestAcked + 1) }
    else h
    let h ← h.onPacketAcked encLevel el
    ackedPacketsLoop encLevel h els

section RTT

variable (updateRTT : RTTStats → Int → Int → Int → RTTStats)

/-- The RTT sample `ReceivedAck` takes ("maybe update the RTT"): when the largest
acknowledged packet is in the history, from the time it was sent; the ACK delay
counts only at 1-RTT. -/
def maybeUpdateRTT (h : SentPacketHandler) (history : SentPacketHistory) (ackFrame : AckFrame)
    (encLevel : EncryptionLevel) (largestAcked rcvTime : Int) : SentPacketHandler :=
  match history.getPacket largestAcked with
  | some el =>
    let ackDelay := if encLevel = .oneRTT then min ackFrame.delayTime h.rttStats.maxAckDelay else 0
    { h with rttStats :=
      updateRTT h.rttStats (rcvTime - (history.value el).sendTime) ackDelay rcvTime }
  | none => h

/-- `ReceivedAck`. -/
def receivedAck (h : SentPacketHandler) (ackFrame : AckFrame) (encLevel : EncryptionLevel)
    (rcvTime : Int) : Except GoError SentPacketHandler := do
  let sp ← h.getPacketNumberSpace encLevel
  let largestAcked ← ackFrame.largestAcked
  if largestAcked > sp.largestSent then throw (protocolViolation "Received ACK for an unsent packet")
  let h := h.setPacketNumberSpace encLevel { sp with largestAcked := max sp.largestAcked largestAcked }
  if !(← sp.pns.validate ackFrame) then
    throw (protocolViolation "Received an ACK for a skipped packet number")
  let h := h.maybeUpdateRTT updateRTT sp.history ackFrame encLevel largestAcked rcvTime
  let ackedPackets ← h.determineNewlyAckedPackets ackFrame encLevel
  if ackedPackets.length = 0 then return h
  let h ← ackedPacketsLoop encLevel h ackedPackets
  let h ← h.detectLostPackets rcvTime encLevel
  return { h with ptoCount := 0, cryptoCount := 0, numProbesToSend := 0 }

end RTT

/-! ## Recovered packets -/

/-- The inner loop of `determineNewlyRecoveredPackets`, over the sorted numbers
from `pns[sliceIdx]` on: skip those below the packet's number. -/
def skipBelow (pn : Int) : List Int → Nat → Nat
  | [], sliceIdx => sliceIdx
  | x :: xs, sliceIdx => if pn > x then skipBelow pn xs (sliceIdx + 1) else sliceIdx

/-- The callback of `determineNewlyRecoveredPackets`, over the sorted numbers; its
state is `sliceIdx` and the pointers to the packets recovered. -/
def recoveredPacketsStep (pns : List Int) (lowestRecovered largestRecovered : Int) (el : Nat)
    (p : Packet) (st : Nat × List Nat) : Except GoError (Bool × Nat × List Nat) :=
  if p.packetNumber < lowestRecovered then .ok (true, st)
  else if p.packetNumber > largestRecovered then .ok (false, st)
  else
    let sliceIdx := skipBelow p.packetNumber (pns.drop st.1) st.1
    if sliceIdx ≥ pns.length then .ok (false, sliceIdx, st.2)
    else if p.packetNumber = pns.getD sliceIdx 0 then .ok (true, sliceIdx, st.2 ++ [el])
    else .ok (true, sliceIdx, st.2)

/-- `determineNewlyRecoveredPackets`: pointers to the 1-RTT packets whose numbers
are among `pns`, sorted first. -/
def determineNewlyRecoveredPackets (h : SentPacketHandler) (pns : List Int) :
    Except GoError (List Nat) := do
  let sp ← h.getPacketNumberSpace .oneRTT
  let pns := pns.mergeSort fun a b => decide (a ≤ b)
  let lowestRecovered ← index pns 0
  let largestRecovered ← index pns (pns.length - 1)
  let (_, recovered) ←
    sp.history.iterate (recoveredPacketsStep pns lowestRecovered largestRecovered) (0, [])
  return recovered

/-- `onPacketRecovered`: the packet stays in the history, and neither it nor its
retransmissions are retransmitted any more. -/
def onPacketRecovered (h : SentPacketHandler) (el : Nat) : Except GoError SentPacketHandler := do
  let p ← h.packetAt .oneRTT el
  let level := p.encryptionLevel
  let sp ← h.getPacketNumberSpace level
  match sp.history.getPacket p.packetNumber with
  | none => return h
  | some _ =>
    let (h, err) ← stopRetransmissionsFor .oneRTT level (h.stopFuel level) h el
    if let some e := err then throw e
    return h

/-- `PacketRecovered`. -/
def packetRecovered (h : SentPacketHandler) (packetNumbers : List Int) :
    Except GoError SentPacketHandler := do
  let recoveredPackets ← h.determineNewlyRecoveredPackets packetNumbers
  recoveredPackets.foldlM (fun h el => h.onPacketRecovered el) h

/-! ## Alarms and probes -/

/-- `hasOutstandingCryptoPackets`. -/
def hasOutstandingCryptoPackets (h : SentPacketHandler) : Bool :=
  (h.initialPackets.map (·.history.hasOutstandingPackets)).getD false ||
    (h.handshakePackets.map (·.history.hasOutstandingPackets)).getD false

/-- `hasOutstandingPackets`. -/
def hasOutstandingPackets (h : SentPacketHandler) : Bool :=
  h.oneRTTPackets.history.hasOutstandingPackets || h.hasOutstandingCryptoPackets

/-- The callback that collects the packets that can be retransmitted. -/
def retransmittableStep (el : Nat) (p : Packet) (acc : List Nat) : Except GoError (Bool × List Nat) :=
  .ok (true, if p.canBeRetransmitted then acc ++ [el] else acc)

/-- `queueAllPacketsForRetransmission`. -/
def queueAllPacketsForRetransmission (h : SentPacketHandler) (encLevel : EncryptionLevel) :
    Except GoError SentPacketHandler := do
  let sp ← h.getPacketNumberSpace encLevel
  let packets ← sp.history.iterate retransmittableStep []
  packets.foldlM (fun h el => h.queuePacketForRetransmission encLevel el) h

/-- `queueCryptoPacketsForRetransmission`. -/
def queueCryptoPacketsForRetransmission (h : SentPacketHandler) : Except GoError SentPacketHandler := do
  let h ← h.queueAllPacketsForRetransmission .initial
  h.queueAllPacketsForRetransmission .handshake

/-- `onVerifiedAlarm`, at time `now`. -/
def onVerifiedAlarm (h : SentPacketHandler) (now : Int) : Except GoError SentPacketHandler :=
  if h.hasOutstandingCryptoPackets then
    { h with cryptoCount := h.cryptoCount + 1 }.queueCryptoPacketsForRetransmission
  else if h.lossTime.isSome then
    h.detectLostPackets now .oneRTT
  else
    .ok { h with ptoCount := h.ptoCount + 1, numProbesToSend := h.numProbesToSend + 2 }

/-- `OnAlarm`, at time `now`. -/
def onAlarm (h : SentPacketHandler) (now : Int) : Except GoError SentPacketHandler :=
  if h.hasOutstandingPackets then h.onVerifiedAlarm now else .ok h

/-- `DequeuePacketForRetransmission`. -/
def dequeuePacketForRetransmission (h : SentPacketHandler) : Option Packet × SentPacketHandler :=
  match h.retransmissionQueue with
  | [] => (none, h)
  | packet :: rest => (some packet, { h with retransmissionQueue := rest })

/-- `DequeueProbePacket`: with nothing queued, the first outstanding 1-RTT packet
is queued first. -/
def dequeueProbePacket (h : SentPacketHandler) : Except GoError (Option Packet × SentPacketHandler) := do
  let h ← if h.retransmissionQueue.length = 0 then
      match h.oneRTTPackets.history.firstOutstanding with
      | none => throw (.error "cannot dequeue a probe packet. No outstanding packets")
      | some el => h.queuePacketForRetransmission .oneRTT el
    else pure h
  return h.dequeuePacketForRetransmission

/-! ## Dropping a space -/

/-- The callback of `DropPackets`: the bytes in flight, less the packet's. -/
def dropStep (_ : Nat) (p : Packet) (bytesInFlight : Nat) : Except GoError (Bool × Nat) :=
  .ok (true, if p.includedInBytesInFlight then subByteCount bytesInFlight p.length else bytesInFlight)

/-- `DropPackets`: the packets of the space leave the bytes in flight and the
retransmission queue, and the space is dropped; the 1-RTT space cannot be. -/
def dropPackets (h : SentPacketHandler) (encLevel : EncryptionLevel) :
    Except GoError SentPacketHandler := do
  let sp ← h.getPacketNumberSpace encLevel
  let bytesInFlight ← sp.history.iterate dropStep h.bytesInFlight
  let h := { h with
    bytesInFlight
    retransmissionQueue := h.retransmissionQueue.filter (·.encryptionLevel ≠ encLevel) }
  match encLevel with
  | .initial => return { h with initialPackets := none }
  | .handshake => return { h with handshakePackets := none }
  | _ => throw (.panic ("Cannot drop keys for encryption level " ++ encLevel.toString))

/-- `ResetForRetry`, with the random number the new Initial generator draws (the
one the old generator's `Pop` may draw does not change the number it returns). -/
def resetForRetry (h : SentPacketHandler) (num : UInt16) : Except GoError SentPacketHandler := do
  let h := { h with cryptoCount := 0, bytesInFlight := 0 }
  let sp ← h.getPacketNumberSpace .initial
  let packets ← sp.history.iterate retransmittableStep []
  let h := { h with retransmissionQueue := h.retransmissionQueue ++ packets.map sp.history.value }
  return { h with initialPackets := some (newPacketNumberSpace (sp.pns.pop num).1 num) }

/-! ## Runs -/

/-- A call of the handler's interface, with its arguments. -/
inductive Call where
  | sentPacket (packet : Packet)
  | sentPacketsAsRetransmission (packets : List Packet) (retransmissionOf : Int)
  | receivedAck (ackFrame : AckFrame) (encLevel : EncryptionLevel) (rcvTime : Int)
  | packetRecovered (packetNumbers : List Int)
  | onAlarm (now : Int)
  | dequeuePacketForRetransmission
  | dequeueProbePacket
  | dropPackets (encLevel : EncryptionLevel)
  | resetForRetry (num : UInt16)
  | popPacketNumber (encLevel : EncryptionLevel) (num : UInt16)

section RTT

variable (updateRTT : RTTStats → Int → Int → Int → RTTStats)

/-- One call, with what it returns dropped. -/
def step (h : SentPacketHandler) : Call → Except GoError SentPacketHandler
  | .sentPacket packet => h.sentPacket packet
  | .sentPacketsAsRetransmission packets retransmissionOf =>
    h.sentPacketsAsRetransmission packets retransmissionOf
  | .receivedAck ackFrame encLevel rcvTime => h.receivedAck updateRTT ackFrame encLevel rcvTime
  | .packetRecovered packetNumbers => h.packetRecovered packetNumbers
  | .onAlarm now => h.onAlarm now
  | .dequeuePacketForRetransmission => .ok h.dequeuePacketForRetransmission.2
  | .dequeueProbePacket => do return (← h.dequeueProbePacket).2
  | .dropPackets encLevel => h.dropPackets encLevel
  | .resetForRetry num => h.resetForRetry num
  | .popPacketNumber encLevel num => do return (← h.popPacketNumber encLevel num).2

/-- The calls one after another; the first error ends the run. -/
def run (h : SentPacketHandler) : List Call → Except GoError SentPacketHandler
  | [] => .ok h
  | c :: cs => do run (← h.step updateRTT c) cs

theorem run_append (h : SentPacketHandler) (cs ds : List Call) :
    h.run updateRTT (cs ++ ds) = h.run updateRTT cs >>= fun h' => h'.run updateRTT ds := by
  induction cs generalizing h with
  | nil => rfl
  | cons c cs ih =>
    simp only [List.cons_append, run]
    cases h.step updateRTT c with
    | error e => rfl
    | ok h' => exact ih h'

end RTT

end SentPacketHandler

end QuicFec
