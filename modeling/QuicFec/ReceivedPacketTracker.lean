import Mathlib
import QuicFec.ReceivedPacketHistory
import QuicFec.AckRanges
import QuicFec.FlowControl

/-! # The received packet tracker

`receivedPacketTracker` (internal/ackhandler/received_packet_tracker.go) decides,
for one packet number space, when to send an ACK frame and what it holds.  It
records the packets received in a `receivedPacketHistory`, from a threshold on
that `IgnoreBelow` raises once the peer has seen an ACK; it queues an ACK at once
for the first packet and for a packet the last ACK reported missing, and for
every second (from packet 101 on, every tenth) ack-eliciting packet, and
otherwise sets an alarm; `GetAckFrame` gives the ACK frame when one is queued or
the alarm has gone off.  `receivedPacketHandler` (received_packet_handler.go)
keeps one tracker per encryption level, and drops those of the Initial and
Handshake levels with their keys.

Times are `Int`s of nanoseconds; the zero `time.Time` of the alarm is `none`.
The tracker's `rttStats` is shared with the sent packet handler: the minimum RTT
it reads is an argument of `ReceivedPacket`, and the delays computed from it go
through `float64` as in the code (`Binary64`).  The logger is left out.

Main results:

* `runTracker_acks_received`: after every run of calls that succeed, the ACK frame the
  tracker gives acknowledges exactly the packets received at or above the
  largest threshold, and passes `validateAckRanges` when it acknowledges one;
* `runTracker_ackState`: over every such run, a queued ACK has no alarm, there is no
  alarm before the first ACK, and fewer than ten ack-eliciting packets arrive
  between two ACKs without one being queued;
* `getAckFrame_empty_then_panics`: a threshold above every packet received while
  an ACK is queued makes `GetAckFrame` give an ACK frame without ranges, and the
  next packet received then panics in `isMissing`;
* `runHandler_acks_received`: the handler's ACK frame of each level acknowledges
  exactly the packets received at that level, from the threshold on at 1-RTT.
-/

namespace QuicFec
open GoBytes Binary64 IntervalList

/-- `protocol.MaxAckDelay`: 25 milliseconds. -/
def MaxAckDelay : Int := 25 * Millisecond

/-- `initialAckElicitingPacketsBeforeAck`. -/
def initialAckElicitingPacketsBeforeAck : Nat := 2

/-- `ackElicitingPacketsBeforeAck`. -/
def ackElicitingPacketsBeforeAck : Nat := 10

/-- `ackDecimationDelay`: the untyped constant `1.0 / 4`, a `float64` exactly. -/
def ackDecimationDelay : ℚ := 1 / 4

/-- `shortAckDecimationDelay`: `1.0 / 8`, a `float64` exactly. -/
def shortAckDecimationDelay : ℚ := 1 / 8

/-- `minReceivedBeforeAckDecimation`. -/
def minReceivedBeforeAckDecimation : Int := 100

/-- `maxPacketsAfterNewMissing`. -/
def maxPacketsAfterNewMissing : Int := 4

/-- `AckRange.Len`. -/
def AckRange.len (r : AckRange) : Int := r.largest - r.smallest + 1

/-- `GetHighestAckRange`: the last range, the zero range if there is none. -/
def ReceivedPacketHistory.getHighestAckRange (h : ReceivedPacketHistory) : AckRange :=
  match h.ranges.getLast? with
  | some r => ⟨r.start, r.stop⟩
  | none => ⟨0, 0⟩

/-- `time.Duration(float64(minRTT) * float64(c))`, for a constant `c` that is a
`float64` exactly. -/
def scaledDelay (minRTT : Int) (c : ℚ) : Int := int64OfFloat (toFloat64 (toFloat64 minRTT * c))

/-- `receivedPacketTracker`, without the `rttStats` it shares, the logger and the
version.  `largestObservedReceivedTime` starts at `0` for the zero `time.Time`:
no ACK frame is made before a packet sets it. -/
structure ReceivedPacketTracker where
  largestObserved : Int
  ignoreBelow : Int
  largestObservedReceivedTime : Int
  packetHistory : ReceivedPacketHistory
  maxAckDelay : Int
  packetsReceivedSinceLastAck : Nat
  ackElicitingPacketsReceivedSinceLastAck : Nat
  ackQueued : Bool
  /-- `ackAlarm`, `none` for the zero `time.Time` -/
  ackAlarm : Option Int
  lastAck : Option AckFrame
  deriving DecidableEq, Repr

/-- `newReceivedPacketTracker`. -/
def newReceivedPacketTracker : ReceivedPacketTracker where
  largestObserved := 0
  ignoreBelow := 0
  largestObservedReceivedTime := 0
  packetHistory := newReceivedPacketHistory
  maxAckDelay := MaxAckDelay
  packetsReceivedSinceLastAck := 0
  ackElicitingPacketsReceivedSinceLastAck := 0
  ackQueued := false
  ackAlarm := none
  lastAck := none

namespace ReceivedPacketTracker

/-- `isMissing`: whether the last ACK reported `p` missing.  `LargestAcked` and
`AcksPacket` panic on an ACK frame without ranges. -/
def isMissing (h : ReceivedPacketTracker) (p : Int) : Except GoError Bool :=
  match h.lastAck with
  | none => .ok false
  | some lastAck =>
    if p < h.ignoreBelow then .ok false
    else do
      -- Go's `&&` asks `AcksPacket` only below the largest acknowledged
      if p < (← lastAck.largestAcked) then return !(← lastAck.acksPacket p)
      else return false

/-- `hasNewMissingPackets`. -/
def hasNewMissingPackets (h : ReceivedPacketTracker) : Except GoError Bool :=
  match h.lastAck with
  | none => .ok false
  | some lastAck => do
    let highestRange := h.packetHistory.getHighestAckRange
    return decide (highestRange.smallest ≥ (← lastAck.largestAcked)) &&
      decide (highestRange.len ≤ maxPacketsAfterNewMissing)

/-- The first half of the part of `maybeQueueAck` for an ack-eliciting packet
while no ACK is queued: count the packet, and queue an ACK every two (from
packet 101 on, every ten) such packets, or else set the alarm if it is not set. -/
def armOrQueue (h : ReceivedPacketTracker) (packetNumber rcvTime minRTT : Int) : ReceivedPacketTracker :=
  let h := { h with ackElicitingPacketsReceivedSinceLastAck := h.ackElicitingPacketsReceivedSinceLastAck + 1 }
  if packetNumber > minReceivedBeforeAckDecimation then
    -- ack up to 10 packets at once
    if h.ackElicitingPacketsReceivedSinceLastAck ≥ ackElicitingPacketsBeforeAck then { h with ackQueued := true }
    else if h.ackAlarm.isNone then
      { h with ackAlarm := some (rcvTime + min h.maxAckDelay (scaledDelay minRTT ackDecimationDelay)) }
    else h
  -- send an ACK every 2 ack-eliciting packets
  else if h.ackElicitingPacketsReceivedSinceLastAck ≥ initialAckElicitingPacketsBeforeAck then
    { h with ackQueued := true }
  else if h.ackAlarm.isNone then { h with ackAlarm := some (rcvTime + h.maxAckDelay) }
  else h

/-- The part of `maybeQueueAck` for an ack-eliciting packet while no ACK is
queued: `armOrQueue`, then the alarm brought forward to an eighth of the minimum
RTT if the last ACK has new missing packets to report. -/
def instigateAck (h : ReceivedPacketTracker) (packetNumber rcvTime minRTT : Int) :
    Except GoError ReceivedPacketTracker := do
  let h := h.armOrQueue packetNumber rcvTime minRTT
  let ackTime := rcvTime + scaledDelay minRTT shortAckDecimationDelay
  if ← h.hasNewMissingPackets then
    match h.ackAlarm with
    | some a => return if a > ackTime then { h with ackAlarm := some ackTime } else h
    | none => return { h with ackAlarm := some ackTime }
  else return h

/-- `maybeQueueAck`. -/
def maybeQueueAck (h : ReceivedPacketTracker) (packetNumber rcvTime minRTT : Int)
    (shouldInstigateAck wasMissing : Bool) : Except GoError ReceivedPacketTracker :=
  let h := { h with packetsReceivedSinceLastAck := h.packetsReceivedSinceLastAck + 1 }
  -- always ack the first packet
  if h.lastAck.isNone then .ok { h with ackQueued := true }
  else do
    -- a packet the last ACK reported missing is acked at once
    let h := if wasMissing then { h with ackQueued := true } else h
    let h ← if !h.ackQueued && shouldInstigateAck then h.instigateAck packetNumber rcvTime minRTT else pure h
    -- a queued ACK cancels the alarm
    return if h.ackQueued then { h with ackAlarm := none } else h

/-- `ReceivedPacket`. -/
def receivedPacket (h : ReceivedPacketTracker) (packetNumber rcvTime minRTT : Int) (shouldInstigateAck : Bool) :
    Except GoError ReceivedPacketTracker :=
  if packetNumber < h.ignoreBelow then .ok h
  else do
    let isMissing ← h.isMissing packetNumber
    let h := if packetNumber ≥ h.largestObserved then
      { h with largestObserved := packetNumber, largestObservedReceivedTime := rcvTime } else h
    let packetHistory ← h.packetHistory.receivedPacket packetNumber
    { h with packetHistory }.maybeQueueAck packetNumber rcvTime minRTT shouldInstigateAck isMissing

/-- `IgnoreBelow`: the field of the same name is the threshold it sets. -/
def IgnoreBelow (h : ReceivedPacketTracker) (p : Int) : ReceivedPacketTracker :=
  if p ≤ h.ignoreBelow then h
  else { h with ignoreBelow := p, packetHistory := h.packetHistory.deleteBelow p }

/-- `GetAckFrame`, at the time `now`: `none` for Go's `nil`. -/
def getAckFrame (h : ReceivedPacketTracker) (now : Int) : Option AckFrame × ReceivedPacketTracker :=
  if !h.ackQueued && (match h.ackAlarm with | none => true | some a => a > now) then (none, h)
  else
    let ack : AckFrame := { ackRanges := h.packetHistory.getAckRanges, delayTime := now - h.largestObservedReceivedTime }
    (some ack, { h with
      lastAck := some ack
      ackAlarm := none
      ackQueued := false
      packetsReceivedSinceLastAck := 0
      ackElicitingPacketsReceivedSinceLastAck := 0 })

/-- `GetAlarmTimeout`. -/
def getAlarmTimeout (h : ReceivedPacketTracker) : Option Int := h.ackAlarm

/-! ## What one call can do -/

/-- `armOrQueue` counts the packet, and queues an ACK only once the count reaches
the threshold of its branch. -/
theorem armOrQueue_eq (h : ReceivedPacketTracker) (pn rcv m : Int) :
    ∃ q a, h.armOrQueue pn rcv m = { h with
        ackElicitingPacketsReceivedSinceLastAck := h.ackElicitingPacketsReceivedSinceLastAck + 1
        ackQueued := q
        ackAlarm := a } ∧
      (q = false → h.ackQueued = false ∧
        h.ackElicitingPacketsReceivedSinceLastAck + 1 < ackElicitingPacketsBeforeAck) := by
  unfold armOrQueue
  dsimp only
  -- an ACK is queued in two branches; in the others the count stays below the threshold
  split_ifs <;> refine ⟨_, _, rfl, ?_⟩ <;>
    first
    | exact fun hq => Bool.noConfusion hq
    | exact fun hq => ⟨hq, by simp only [ackElicitingPacketsBeforeAck, initialAckElicitingPacketsBeforeAck] at *; omega⟩

/-- `instigateAck` is `armOrQueue` with the alarm perhaps moved. -/
theorem instigateAck_eq {h h' : ReceivedPacketTracker} {pn rcv m : Int}
    (hh : h.instigateAck pn rcv m = .ok h') : ∃ a, h' = { h.armOrQueue pn rcv m with ackAlarm := a } := by
  unfold instigateAck at hh
  dsimp only at hh
  obtain ⟨b, -, hh⟩ := bind_eq_ok.1 hh
  split at hh
  · split at hh
    · split_ifs at hh <;> cases hh <;> exact ⟨_, rfl⟩
    · cases hh
      exact ⟨_, rfl⟩
  · cases hh
    exact ⟨_, rfl⟩

/-- What `maybeQueueAck` can do: for the first packet, count it and queue an ACK;
otherwise count it, count it as ack-eliciting at most once, and either queue an
ACK and cancel the alarm, or queue none with fewer than ten ack-eliciting
packets counted, the count unchanged or the packet ack-eliciting and counted. -/
theorem maybeQueueAck_cases {h h' : ReceivedPacketTracker} {pn rcv m : Int} {e w : Bool}
    (hh : h.maybeQueueAck pn rcv m e w = .ok h') :
    (h.lastAck = none ∧
      h' = { h with packetsReceivedSinceLastAck := h.packetsReceivedSinceLastAck + 1, ackQueued := true }) ∨
    (h.lastAck ≠ none ∧ ∃ q a ne, h' = { h with
        packetsReceivedSinceLastAck := h.packetsReceivedSinceLastAck + 1
        ackQueued := q
        ackAlarm := a
        ackElicitingPacketsReceivedSinceLastAck := ne } ∧
      (q = true → a = none) ∧
      (ne = h.ackElicitingPacketsReceivedSinceLastAck ∨ ne = h.ackElicitingPacketsReceivedSinceLastAck + 1) ∧
      (q = false → h.ackQueued = false ∧
        (ne = h.ackElicitingPacketsReceivedSinceLastAck ∨ ne < ackElicitingPacketsBeforeAck))) := by
  unfold maybeQueueAck at hh
  dsimp only at hh
  split at hh
  · cases hh
    exact .inl ⟨Option.isNone_iff_eq_none.1 ‹_›, rfl⟩
  rename_i hl
  refine .inr ⟨fun h0 => hl (by rw [h0]; rfl), ?_⟩
  cases w <;> cases e <;> cases hq : h.ackQueued <;>
    simp only [hq, Bool.not_true, Bool.not_false, Bool.and_false, Bool.and_true, Bool.false_eq_true, if_true,
      if_false, pure_eq_ok, ok_bind] at hh
  -- an ACK queued before, or for a packet reported missing: the alarm is cancelled
  any_goals
    cases hh
    exact ⟨true, none, _, rfl, fun _ => rfl, .inl rfl, fun hf => Bool.noConfusion hf⟩
  -- no ACK queued and the packet not ack-eliciting: it is only counted
  · cases hh
    exact ⟨false, _, _, rfl, fun hf => Bool.noConfusion hf, .inl rfl, fun _ => ⟨rfl, .inl rfl⟩⟩
  -- an ack-eliciting packet: counted, and an ACK queued or the alarm set
  · obtain ⟨h₂, h₂eq, hh⟩ := bind_eq_ok.1 hh
    cases hh
    obtain ⟨a, rfl⟩ := instigateAck_eq h₂eq
    obtain ⟨q, a', heq, hfact⟩ := armOrQueue_eq
      { h with packetsReceivedSinceLastAck := h.packetsReceivedSinceLastAck + 1, ackQueued := false } pn rcv m
    rw [heq]
    cases q
    · exact ⟨false, a, _, rfl, fun hf => Bool.noConfusion hf, .inr rfl, fun _ => ⟨rfl, .inr (hfact rfl).2⟩⟩
    · exact ⟨true, none, _, rfl, fun _ => rfl, .inr rfl, fun hf => Bool.noConfusion hf⟩

/-- `maybeQueueAck` leaves the record of the packets alone. -/
theorem maybeQueueAck_record {h h' : ReceivedPacketTracker} {pn rcv m : Int} {e w : Bool}
    (hh : h.maybeQueueAck pn rcv m e w = .ok h') :
    h'.packetHistory = h.packetHistory ∧ h'.ignoreBelow = h.ignoreBelow ∧ h'.lastAck = h.lastAck := by
  rcases maybeQueueAck_cases hh with ⟨-, rfl⟩ | ⟨-, q, a, ne, rfl, -⟩ <;> exact ⟨rfl, rfl, rfl⟩

/-- What `ReceivedPacket` can do: ignore a packet below the threshold; or else
ask whether the last ACK reported it missing, record it as the largest observed
if it is, add it to the history, and decide whether to queue an ACK. -/
theorem receivedPacket_cases {h h' : ReceivedPacketTracker} {pn rcv m : Int} {e : Bool}
    (hh : h.receivedPacket pn rcv m e = .ok h') :
    (pn < h.ignoreBelow ∧ h' = h) ∨
      (h.ignoreBelow ≤ pn ∧ ∃ w hist lo t, h.isMissing pn = .ok w ∧
        h.packetHistory.receivedPacket pn = .ok hist ∧
        ({ h with largestObserved := lo, largestObservedReceivedTime := t, packetHistory := hist } :
          ReceivedPacketTracker).maybeQueueAck pn rcv m e w = .ok h') := by
  unfold receivedPacket at hh
  by_cases hlt : pn < h.ignoreBelow
  · rw [if_pos hlt] at hh
    cases hh
    exact .inl ⟨hlt, rfl⟩
  rw [if_neg hlt] at hh
  obtain ⟨w, hw, hh⟩ := bind_eq_ok.1 hh
  refine .inr ⟨Int.not_lt.1 hlt, w, ?_⟩
  -- the largest observed packet is updated or not; the rest is the same
  by_cases hobs : pn ≥ h.largestObserved
  · simp only [if_pos hobs] at hh
    obtain ⟨hist, hhist, hh⟩ := bind_eq_ok.1 hh
    exact ⟨hist, pn, rcv, hw, hhist, hh⟩
  · simp only [if_neg hobs] at hh
    obtain ⟨hist, hhist, hh⟩ := bind_eq_ok.1 hh
    exact ⟨hist, h.largestObserved, h.largestObservedReceivedTime, hw, hhist, hh⟩

/-! ## When an ACK is queued -/

/-- What the tracker keeps of its decision to send an ACK: a queued ACK has no
alarm, there is no alarm before the first ACK, fewer than ten ack-eliciting
packets are counted while no ACK is queued, and no more than all packets. -/
structure AckState (h : ReceivedPacketTracker) : Prop where
  queued_noAlarm : h.ackQueued = true → h.ackAlarm = none
  first_noAlarm : h.lastAck = none → h.ackAlarm = none
  eliciting_lt : h.ackQueued = false → h.ackElicitingPacketsReceivedSinceLastAck < ackElicitingPacketsBeforeAck
  eliciting_le : h.ackElicitingPacketsReceivedSinceLastAck ≤ h.packetsReceivedSinceLastAck

theorem ackState_new : AckState newReceivedPacketTracker :=
  ⟨fun _ => rfl, fun _ => rfl, fun _ => by decide, le_rfl⟩

/-- `maybeQueueAck` keeps the invariant, on a tracker whose ACK decision is that
of a tracker that keeps it. -/
theorem AckState.maybeQueueAck {h h' : ReceivedPacketTracker} {pn rcv m : Int} {e w : Bool}
    (hi : AckState h) (hh : h.maybeQueueAck pn rcv m e w = .ok h') : AckState h' := by
  rcases maybeQueueAck_cases hh with ⟨hl, rfl⟩ | ⟨hl, q, a, ne, rfl, hqa, hne, hq⟩
  · -- the first packet: an ACK is queued, and there is no alarm yet
    exact ⟨fun _ => hi.first_noAlarm hl, fun _ => hi.first_noAlarm hl, fun hf => Bool.noConfusion hf,
      Nat.le_succ_of_le hi.eliciting_le⟩
  · refine ⟨hqa, fun h0 => absurd h0 hl, fun hf => ?_, ?_⟩
    · obtain ⟨hq', rfl | hlt⟩ := hq hf
      · exact hi.eliciting_lt hq'
      · exact hlt
    · have := hi.eliciting_le
      show ne ≤ h.packetsReceivedSinceLastAck + 1
      omega

theorem AckState.receivedPacket {h h' : ReceivedPacketTracker} {pn rcv m : Int} {e : Bool}
    (hi : AckState h) (hh : h.receivedPacket pn rcv m e = .ok h') : AckState h' := by
  rcases receivedPacket_cases hh with ⟨-, rfl⟩ | ⟨-, w, hist, lo, t, -, -, hh⟩
  · exact hi
  · -- the packet recorded, the ACK decision is that of `h`
    have hi' : AckState { h with largestObserved := lo, largestObservedReceivedTime := t, packetHistory := hist } :=
      ⟨hi.queued_noAlarm, hi.first_noAlarm, hi.eliciting_lt, hi.eliciting_le⟩
    exact hi'.maybeQueueAck hh

theorem AckState.ignoreBelow {h : ReceivedPacketTracker} (hi : AckState h) (p : Int) : AckState (h.IgnoreBelow p) := by
  unfold IgnoreBelow
  split_ifs
  · exact hi
  · exact ⟨hi.queued_noAlarm, hi.first_noAlarm, hi.eliciting_lt, hi.eliciting_le⟩

/-- `GetAckFrame` either changes nothing or sends the ACK and starts over. -/
theorem AckState.getAckFrame {h : ReceivedPacketTracker} (hi : AckState h) (now : Int) :
    AckState (h.getAckFrame now).2 := by
  unfold ReceivedPacketTracker.getAckFrame
  split_ifs
  · exact hi
  · exact ⟨fun _ => rfl, fun _ => rfl, fun _ => show 0 < ackElicitingPacketsBeforeAck by decide, le_rfl⟩

end ReceivedPacketTracker

/-! ## Runs of the tracker -/

/-- A call the tracker gets. -/
inductive TrackerCall where
  | receivedPacket (packetNumber rcvTime minRTT : Int) (shouldInstigateAck : Bool)
  | ignoreBelow (p : Int)
  | getAckFrame (now : Int)

/-- One call, on the tracker. -/
def TrackerCall.apply : TrackerCall → ReceivedPacketTracker → Except GoError ReceivedPacketTracker
  | .receivedPacket pn rcvTime minRTT shouldInstigateAck, h => h.receivedPacket pn rcvTime minRTT shouldInstigateAck
  | .ignoreBelow p, h => .ok (h.IgnoreBelow p)
  | .getAckFrame now, h => .ok (h.getAckFrame now).2

/-- The calls one after the other, on a new tracker. -/
def runTracker (calls : List TrackerCall) : Except GoError ReceivedPacketTracker :=
  calls.foldlM (fun h c => c.apply h) newReceivedPacketTracker

/-- The packet number of a packet received. -/
def TrackerCall.received : TrackerCall → Option Int
  | .receivedPacket pn _ _ _ => some pn
  | _ => none

/-- The threshold given to `IgnoreBelow`. -/
def TrackerCall.threshold : TrackerCall → Option Int
  | .ignoreBelow p => some p
  | _ => none

/-- **The ACK decision over every run.**  In every run of calls that succeed, a
queued ACK has no alarm, there is no alarm before the first ACK is sent, an ACK
is queued by the tenth ack-eliciting packet since the last ACK at the latest, and
no more ack-eliciting packets than packets are counted. -/
theorem runTracker_ackState {calls : List TrackerCall} {h : ReceivedPacketTracker}
    (hr : runTracker calls = .ok h) : ReceivedPacketTracker.AckState h := by
  refine foldlM_induction ReceivedPacketTracker.AckState ?_ ReceivedPacketTracker.ackState_new hr
  rintro h c h' - hi hc
  cases c with
  | receivedPacket pn rcv m e => exact hi.receivedPacket hc
  | ignoreBelow p =>
    cases hc
    exact hi.ignoreBelow p
  | getAckFrame now =>
    cases hc
    exact hi.getAckFrame now

/-- Packet 1, an ACK, then packets 2 (which sets the alarm) and 4 (the second
ack-eliciting one, which queues an ACK). -/
theorem runTracker_ackState_four :
    ∃ h, runTracker [.receivedPacket 1 0 0 true, .getAckFrame 0, .receivedPacket 2 0 0 true,
      .receivedPacket 4 0 0 true] = .ok h ∧ ReceivedPacketTracker.AckState h := by
  obtain ⟨h, hr, -⟩ := exists_ok_of_toOption_map (x := runTracker [.receivedPacket 1 0 0 true, .getAckFrame 0,
      .receivedPacket 2 0 0 true, .receivedPacket 4 0 0 true]) (f := fun h => h.ackQueued) (b := true)
    (by decide +kernel)
  exact ⟨h, hr, runTracker_ackState hr⟩

/-! ## What the ACK frames acknowledge -/

/-- The ACK ranges of a history acknowledge what it covers. -/
theorem ReceivedPacketHistory.acks_getAckRanges (h : ReceivedPacketHistory) (d n : Int) :
    AckFrame.Acks ⟨h.getAckRanges, d⟩ n ↔ Covers PacketInterval.start PacketInterval.stop h.ranges n := by
  unfold ReceivedPacketHistory.getAckRanges
  split_ifs with h0
  · rw [List.eq_nil_of_length_eq_zero h0]
    simp [AckFrame.Acks, Covers]
  · simp [AckFrame.Acks, Covers]

namespace ReceivedPacketTracker

/-- The ACK frame `GetAckFrame` gives holds the ranges of the history. -/
theorem getAckFrame_some {h : ReceivedPacketTracker} {now : Int} {ack : AckFrame}
    (hack : (h.getAckFrame now).1 = some ack) :
    ack = ⟨h.packetHistory.getAckRanges, now - h.largestObservedReceivedTime⟩ := by
  unfold getAckFrame at hack
  split_ifs at hack
  cases hack
  rfl

/-- What the tracker records of the calls `calls` it got: the threshold is the
largest one given to `IgnoreBelow`, and the history is one that `ReceivedPacket`
and `DeleteBelow` calls lead to from that threshold on, given the packets
received from the threshold on. -/
def Records (calls : List TrackerCall) (h : ReceivedPacketTracker) : Prop :=
  h.ignoreBelow = (calls.filterMap TrackerCall.threshold).foldl max 0 ∧
    ∃ s, ReceivedPacketHistory.Reachable h.packetHistory s h.ignoreBelow ∧
      ∀ n, (n ∈ s ∧ h.ignoreBelow ≤ n) ↔ (n ∈ calls.filterMap TrackerCall.received ∧ h.ignoreBelow ≤ n)

theorem records_new : Records [] newReceivedPacketTracker :=
  ⟨rfl, ∅, .init, fun n => by simp⟩

/-- A packet received keeps the record: below the threshold it is ignored, and
from it on it is given to the history, which the threshold allows. -/
theorem Records.receivedPacket {calls : List TrackerCall} {h h' : ReceivedPacketTracker}
    {pn rcv m : Int} {e : Bool} (hi : Records calls h) (hh : h.receivedPacket pn rcv m e = .ok h') :
    Records (calls ++ [.receivedPacket pn rcv m e]) h' := by
  obtain ⟨hib, s, hs, hiff⟩ := hi
  simp only [Records, List.filterMap_append, List.filterMap_cons, TrackerCall.threshold, TrackerCall.received,
    List.filterMap_nil, List.append_nil, List.mem_append, List.mem_singleton]
  rcases receivedPacket_cases hh with ⟨hlt, rfl⟩ | ⟨hle, w, hist, lo, t, -, hhist, hh⟩
  · -- below the threshold: nothing is recorded
    refine ⟨hib, s, hs, fun n => ?_⟩
    rw [hiff n]
    constructor
    · exact fun ⟨hn, hle⟩ => ⟨.inl hn, hle⟩
    · rintro ⟨hn | rfl, hle⟩
      · exact ⟨hn, hle⟩
      · exact absurd hle (Int.not_le.2 hlt)
  · obtain ⟨hp, hib', -⟩ := maybeQueueAck_record hh
    rw [hp, hib']
    refine ⟨hib, insert pn s, .receivedPacket hs hle hhist, fun n => ?_⟩
    rw [Set.mem_insert_iff]
    constructor
    · rintro ⟨rfl | hn, hle'⟩
      · exact ⟨.inr rfl, hle'⟩
      · exact ⟨.inl ((hiff n).1 ⟨hn, hle'⟩).1, hle'⟩
    · rintro ⟨hn | rfl, hle'⟩
      · exact ⟨.inr ((hiff n).2 ⟨hn, hle'⟩).1, hle'⟩
      · exact ⟨.inl rfl, hle'⟩

/-- A threshold above the last one drops the history's packets below it. -/
theorem Records.ignoreBelow {calls : List TrackerCall} {h : ReceivedPacketTracker} (hi : Records calls h)
    (p : Int) : Records (calls ++ [.ignoreBelow p]) (h.IgnoreBelow p) := by
  obtain ⟨hib, s, hs, hiff⟩ := hi
  simp only [Records, List.filterMap_append, List.filterMap_cons, TrackerCall.threshold, TrackerCall.received,
    List.filterMap_nil, List.append_nil, List.foldl_append, List.foldl_cons, List.foldl_nil, ← hib]
  unfold IgnoreBelow
  split_ifs with hp
  · exact ⟨(max_eq_left hp).symm, s, hs, hiff⟩
  · have hlt : h.ignoreBelow < p := Int.not_le.1 hp
    dsimp only
    refine ⟨(max_eq_right hlt.le).symm, s, ?_, fun n => ?_⟩
    · have := hs.deleteBelow p
      rwa [max_eq_right hlt.le] at this
    · constructor
      · exact fun ⟨hn, hle⟩ => ⟨((hiff n).1 ⟨hn, by omega⟩).1, hle⟩
      · exact fun ⟨hn, hle⟩ => ⟨((hiff n).2 ⟨hn, by omega⟩).1, hle⟩

theorem Records.getAckFrame {calls : List TrackerCall} {h : ReceivedPacketTracker} (hi : Records calls h)
    (now : Int) : Records (calls ++ [.getAckFrame now]) (h.getAckFrame now).2 := by
  simp only [Records, List.filterMap_append, List.filterMap_cons, TrackerCall.threshold, TrackerCall.received,
    List.filterMap_nil, List.append_nil]
  unfold ReceivedPacketTracker.getAckFrame
  split_ifs
  · exact hi
  · exact hi

theorem Records.apply {calls : List TrackerCall} {h h' : ReceivedPacketTracker} {c : TrackerCall}
    (hi : Records calls h) (hc : c.apply h = .ok h') : Records (calls ++ [c]) h' := by
  cases c with
  | receivedPacket pn rcv m e => exact hi.receivedPacket hc
  | ignoreBelow p =>
    cases hc
    exact hi.ignoreBelow p
  | getAckFrame now =>
    cases hc
    exact hi.getAckFrame now

/-- The ACK frame a tracker that keeps the record gives acknowledges exactly the
packets received from the threshold on, in ranges that pass `validateAckRanges`
when it acknowledges one. -/
theorem Records.acks {calls : List TrackerCall} {h : ReceivedPacketTracker} (hi : Records calls h)
    {now : Int} {ack : AckFrame} (hack : (h.getAckFrame now).1 = some ack) :
    (∀ n, ack.Acks n ↔ n ∈ calls.filterMap TrackerCall.received ∧ h.ignoreBelow ≤ n) ∧
      (ack.ackRanges ≠ [] → ack.validateAckRanges = true) := by
  obtain ⟨-, s, hs, hiff⟩ := hi
  obtain ⟨hinv, -, hcov⟩ := ReceivedPacketHistory.reachable_inv hs
  rw [getAckFrame_some hack]
  refine ⟨fun n => ?_, fun hne => ?_⟩
  · rw [ReceivedPacketHistory.acks_getAckRanges, hcov, hiff]
  · -- a history with no range gives none
    have hranges : h.packetHistory.ranges ≠ [] := fun h0 => hne (by
      simp [ReceivedPacketHistory.getAckRanges, h0])
    exact ReceivedPacketHistory.validateAckRanges_getAckRanges hinv.ascending hranges _

end ReceivedPacketTracker

theorem runTracker_records {calls : List TrackerCall} {h : ReceivedPacketTracker}
    (hr : runTracker calls = .ok h) : ReceivedPacketTracker.Records calls h := by
  have := foldlM_induction_prefix (fun pre h => ReceivedPacketTracker.Records pre h)
    (fun _ _ _ _ hi hc => hi.apply hc) ReceivedPacketTracker.records_new hr
  simpa using this

/-- **The ACK frames of every run.**  After every run of calls that succeed, the
threshold is the largest one given to `IgnoreBelow` (or `0`), and an ACK frame
the tracker then gives acknowledges exactly the packets received at or above it,
in ranges that pass `validateAckRanges` when it acknowledges one. -/
theorem runTracker_acks_received {calls : List TrackerCall} {h : ReceivedPacketTracker}
    (hr : runTracker calls = .ok h) {now : Int} {ack : AckFrame} (hack : (h.getAckFrame now).1 = some ack) :
    h.ignoreBelow = (calls.filterMap TrackerCall.threshold).foldl max 0 ∧
      (∀ n, ack.Acks n ↔ n ∈ calls.filterMap TrackerCall.received ∧ h.ignoreBelow ≤ n) ∧
      (ack.ackRanges ≠ [] → ack.validateAckRanges = true) :=
  have hi := runTracker_records hr
  ⟨hi.1, hi.acks hack⟩

/-- Packets 1, 2 and 4 received, an ACK sent in between, then a threshold of 2:
the ACK frame acknowledges 4 and 2. -/
theorem runTracker_acks_two_four :
    ∃ h, runTracker [.receivedPacket 1 0 0 true, .getAckFrame 0, .receivedPacket 2 0 0 true,
        .receivedPacket 4 0 0 true, .ignoreBelow 2] = .ok h ∧
      (h.getAckFrame 100).1 = some ⟨[⟨4, 4⟩, ⟨2, 2⟩], 100⟩ ∧
      h.ignoreBelow = ([TrackerCall.receivedPacket 1 0 0 true, .getAckFrame 0, .receivedPacket 2 0 0 true,
        .receivedPacket 4 0 0 true, .ignoreBelow 2].filterMap TrackerCall.threshold).foldl max 0 ∧
      (∀ n, AckFrame.Acks ⟨[⟨4, 4⟩, ⟨2, 2⟩], 100⟩ n ↔
        n ∈ [TrackerCall.receivedPacket 1 0 0 true, .getAckFrame 0, .receivedPacket 2 0 0 true,
          .receivedPacket 4 0 0 true, .ignoreBelow 2].filterMap TrackerCall.received ∧ h.ignoreBelow ≤ n) ∧
      ((⟨[⟨4, 4⟩, ⟨2, 2⟩], 100⟩ : AckFrame).ackRanges ≠ [] →
        AckFrame.validateAckRanges ⟨[⟨4, 4⟩, ⟨2, 2⟩], 100⟩ = true) := by
  obtain ⟨h, hr, hack⟩ := exists_ok_of_toOption_map (x := runTracker [.receivedPacket 1 0 0 true, .getAckFrame 0,
      .receivedPacket 2 0 0 true, .receivedPacket 4 0 0 true, .ignoreBelow 2])
    (f := fun h => (h.getAckFrame 100).1) (b := some ⟨[⟨4, 4⟩, ⟨2, 2⟩], 100⟩) (by decide +kernel)
  exact ⟨h, hr, hack, runTracker_acks_received hr hack⟩

/-! ## An ACK frame without ranges -/

/-- Ranges that cover nothing are none. -/
theorem eq_nil_of_not_covers {l : List PacketInterval} (ha : Ascending PacketInterval.start PacketInterval.stop l)
    (h : ∀ n, ¬ Covers PacketInterval.start PacketInterval.stop l n) : l = [] := by
  cases l with
  | nil => rfl
  | cons x l =>
    exact absurd ⟨x, List.mem_cons_self, le_rfl, ha.nonempty x List.mem_cons_self⟩ (h x.start)

/-- **An ACK frame without ranges, and a panic after it.**  In every run, when a
new threshold lies above every packet received while an ACK is queued,
`GetAckFrame` gives an ACK frame with no range; the next packet from the
threshold on then makes `isMissing` ask that frame for its largest acknowledged
packet, which panics. -/
theorem getAckFrame_empty_then_panics {calls : List TrackerCall} {h : ReceivedPacketTracker} {p now pn rcv m : Int}
    {e : Bool} (hr : runTracker calls = .ok h) (hq : h.ackQueued = true) (hp : h.ignoreBelow < p)
    (hall : ∀ n ∈ calls.filterMap TrackerCall.received, n < p) (hpn : p ≤ pn) :
    ((h.IgnoreBelow p).getAckFrame now).1 = some ⟨[], now - h.largestObservedReceivedTime⟩ ∧
      ((h.IgnoreBelow p).getAckFrame now).2.receivedPacket pn rcv m e = .error (.panic "index out of range") := by
  obtain ⟨-, s, hs, hiff⟩ := runTracker_records hr
  obtain ⟨hinv, hlow, hcov⟩ := ReceivedPacketHistory.reachable_inv hs
  obtain ⟨hinv', -, hcov'⟩ := ReceivedPacketHistory.deleteBelow_step hinv p
  have hnil : (h.packetHistory.deleteBelow p).ranges = [] := by
    refine eq_nil_of_not_covers hinv'.ascending fun n hn => ?_
    obtain ⟨hn, hpn'⟩ := (hcov' n).1 hn
    obtain ⟨hmem, -⟩ := (hiff n).1 ((hcov n).1 hn)
    have := hall n hmem
    omega
  have hib : h.IgnoreBelow p = { h with ignoreBelow := p, packetHistory := h.packetHistory.deleteBelow p } := by
    rw [ReceivedPacketTracker.IgnoreBelow, if_neg (Int.not_le.2 hp)]
  have hranges : (h.packetHistory.deleteBelow p).getAckRanges = [] := by
    simp [ReceivedPacketHistory.getAckRanges, hnil]
  have hget : (h.IgnoreBelow p).getAckFrame now = (some ⟨[], now - h.largestObservedReceivedTime⟩,
      { h with
        ignoreBelow := p
        packetHistory := h.packetHistory.deleteBelow p
        lastAck := some ⟨[], now - h.largestObservedReceivedTime⟩
        ackAlarm := none
        ackQueued := false
        packetsReceivedSinceLastAck := 0
        ackElicitingPacketsReceivedSinceLastAck := 0 }) := by
    rw [hib, ReceivedPacketTracker.getAckFrame, hranges]
    simp [hq]
  have hla : AckFrame.largestAcked ⟨[], now - h.largestObservedReceivedTime⟩ =
      .error (.panic "index out of range") := rfl
  refine ⟨by rw [hget], ?_⟩
  rw [hget, ReceivedPacketTracker.receivedPacket, if_neg (Int.not_lt.2 hpn)]
  dsimp only
  simp only [ReceivedPacketTracker.isMissing, if_neg (Int.not_lt.2 hpn), hla, error_bind]

/-- Packet 5 received, then a threshold of 6: the ACK frame at time 10 has no
range, and packet 7 then panics. -/
theorem getAckFrame_empty_then_panics_five :
    ∃ h, runTracker [.receivedPacket 5 0 0 true] = .ok h ∧
      ((h.IgnoreBelow 6).getAckFrame 10).1 = some ⟨[], 10⟩ ∧
      ((h.IgnoreBelow 6).getAckFrame 10).2.receivedPacket 7 0 0 true = .error (.panic "index out of range") := by
  obtain ⟨h, hr⟩ : ∃ h, runTracker [.receivedPacket 5 0 0 true] = .ok h := ⟨_, rfl⟩
  have hq : h.ackQueued = true := by
    cases hr.symm
    rfl
  have hlo : h.largestObservedReceivedTime = 0 := by
    cases hr.symm
    rfl
  have hib : h.ignoreBelow < 6 := by
    cases hr.symm
    decide
  have hall : ∀ n ∈ [TrackerCall.receivedPacket 5 0 0 true].filterMap TrackerCall.received, n < 6 := by
    intro n hn
    simp only [List.filterMap_cons, TrackerCall.received, List.filterMap_nil, List.mem_singleton] at hn
    omega
  have key : ((h.IgnoreBelow 6).getAckFrame 10).1 = some ⟨[], 10 - h.largestObservedReceivedTime⟩ ∧
      ((h.IgnoreBelow 6).getAckFrame 10).2.receivedPacket 7 0 0 true = .error (.panic "index out of range") :=
    getAckFrame_empty_then_panics hr hq hib hall (by decide)
  rw [hlo, Int.sub_zero] at key
  exact ⟨h, hr, key⟩

/-! ## The handler of the three levels -/

/-- `receivedPacketHandler`: the trackers of the three levels, those of the
Initial and Handshake levels `none` once dropped. -/
structure ReceivedPacketHandler where
  initialPackets : Option ReceivedPacketTracker
  handshakePackets : Option ReceivedPacketTracker
  oneRTTPackets : ReceivedPacketTracker

/-- `NewReceivedPacketHandler`. -/
def newReceivedPacketHandler : ReceivedPacketHandler :=
  ⟨some newReceivedPacketTracker, some newReceivedPacketTracker, newReceivedPacketTracker⟩

/-- `utils.MinNonZeroTime`. -/
def minNonZeroTime (a b : Option Int) : Option Int :=
  match a, b with
  | none, b => b
  | a, none => a
  | some a, some b => some (min a b)

namespace ReceivedPacketHandler

/-- The tracker of a level, as the switches pick it: `none` for a dropped one, and
for the level that has none. -/
def tracker (h : ReceivedPacketHandler) : EncryptionLevel → Option ReceivedPacketTracker
  | .initial => h.initialPackets
  | .handshake => h.handshakePackets
  | .oneRTT => some h.oneRTTPackets
  | .unspecified => none

/-- The handler with the tracker of a level replaced: the trackers are pointers in
Go, and what a call does to the one it picked stays. -/
def setTracker (h : ReceivedPacketHandler) : EncryptionLevel → ReceivedPacketTracker → ReceivedPacketHandler
  | .initial, t => { h with initialPackets := some t }
  | .handshake, t => { h with handshakePackets := some t }
  | .oneRTT, t => { h with oneRTTPackets := t }
  | .unspecified, _ => h

/-- `ReceivedPacket`: a dropped tracker is a `nil` pointer, which the call
dereferences. -/
def receivedPacket (h : ReceivedPacketHandler) (pn : Int) (encLevel : EncryptionLevel) (rcvTime minRTT : Int)
    (shouldInstigateAck : Bool) : Except GoError ReceivedPacketHandler :=
  if encLevel = .unspecified then
    .error (.error ("received packet with unknown encryption level: " ++ encLevel.toString))
  else do
    let t ← deref (h.tracker encLevel)
    return h.setTracker encLevel (← t.receivedPacket pn rcvTime minRTT shouldInstigateAck)

/-- `IgnoreBelow`, for 1-RTT packets only. -/
def IgnoreBelow (h : ReceivedPacketHandler) (pn : Int) : ReceivedPacketHandler :=
  { h with oneRTTPackets := h.oneRTTPackets.IgnoreBelow pn }

/-- `DropPackets`. -/
def dropPackets (h : ReceivedPacketHandler) (encLevel : EncryptionLevel) : Except GoError ReceivedPacketHandler :=
  match encLevel with
  | .initial => .ok { h with initialPackets := none }
  | .handshake => .ok { h with handshakePackets := none }
  | _ => .error (.panic ("Cannot drop keys for encryption level " ++ encLevel.toString))

/-- `GetAlarmTimeout`: the earliest alarm of the trackers. -/
def getAlarmTimeout (h : ReceivedPacketHandler) : Option Int :=
  minNonZeroTime (minNonZeroTime (h.initialPackets.bind (·.getAlarmTimeout)) (h.handshakePackets.bind (·.getAlarmTimeout)))
    h.oneRTTPackets.getAlarmTimeout

/-- `GetAckFrame` of a level, at the time `now`. -/
def getAckFrame (h : ReceivedPacketHandler) (encLevel : EncryptionLevel) (now : Int) :
    Option AckFrame × ReceivedPacketHandler :=
  match encLevel with
  | .oneRTT => ((h.oneRTTPackets.getAckFrame now).1, { h with oneRTTPackets := (h.oneRTTPackets.getAckFrame now).2 })
  | .initial | .handshake =>
    match h.tracker encLevel with
    -- the peer ignores the delay time of Initial and Handshake ACKs: it is set to 0 to save bytes
    | some t => ((t.getAckFrame now).1.map fun ack => { ack with delayTime := 0 },
        h.setTracker encLevel (t.getAckFrame now).2)
    | none => (none, h)
  | .unspecified => (none, h)

theorem tracker_setTracker_self {h : ReceivedPacketHandler} {l : EncryptionLevel} {t₀ : ReceivedPacketTracker}
    (hl : h.tracker l = some t₀) (t : ReceivedPacketTracker) : (h.setTracker l t).tracker l = some t := by
  cases l <;> first | rfl | cases hl

theorem tracker_setTracker_of_ne (h : ReceivedPacketHandler) {l l' : EncryptionLevel} (hne : l' ≠ l)
    (t : ReceivedPacketTracker) : (h.setTracker l t).tracker l' = h.tracker l' := by
  cases l <;> cases l' <;> first | rfl | exact absurd rfl hne

/-- What `ReceivedPacket` does: the packet goes to the tracker of its level,
which must not have been dropped. -/
theorem receivedPacket_eq_ok {h h' : ReceivedPacketHandler} {pn rcv m : Int} {l : EncryptionLevel} {e : Bool}
    (hh : h.receivedPacket pn l rcv m e = .ok h') :
    ∃ t t', h.tracker l = some t ∧ t.receivedPacket pn rcv m e = .ok t' ∧ h' = h.setTracker l t' := by
  unfold receivedPacket at hh
  split_ifs at hh
  obtain ⟨t, ht, hh⟩ := bind_eq_ok.1 hh
  obtain ⟨t', ht', hh⟩ := bind_eq_ok.1 hh
  cases hh
  cases htr : h.tracker l with
  | none =>
    rw [htr] at ht
    cases ht
  | some t₀ =>
    rw [htr] at ht
    cases ht
    exact ⟨t, t', rfl, ht', rfl⟩

theorem tracker_ignoreBelow (h : ReceivedPacketHandler) (pn : Int) (l : EncryptionLevel) :
    (h.IgnoreBelow pn).tracker l = if l = .oneRTT then some (h.oneRTTPackets.IgnoreBelow pn) else h.tracker l := by
  cases l <;> rfl

/-- `DropPackets` drops a tracker, or fails. -/
theorem tracker_dropPackets {h h' : ReceivedPacketHandler} {l' : EncryptionLevel} (hh : h.dropPackets l' = .ok h')
    (l : EncryptionLevel) : h'.tracker l = h.tracker l ∨ h'.tracker l = none := by
  unfold dropPackets at hh
  split at hh <;> cases hh <;> cases l <;> simp [tracker]

/-- `GetAckFrame` of a level moves that level's tracker on, if it has one. -/
theorem tracker_getAckFrame (h : ReceivedPacketHandler) (l l' : EncryptionLevel) (now : Int) :
    (h.getAckFrame l' now).2.tracker l =
      if l' = l then (h.tracker l).map fun t => (t.getAckFrame now).2 else h.tracker l := by
  cases l' <;> cases l <;> simp only [getAckFrame, tracker, setTracker, reduceCtorEq, if_false, if_true] <;>
    first
    | rfl
    | split <;> simp_all

/-- The ACK frame of a level is one that level's tracker gives, with the same
ranges. -/
theorem getAckFrame_some {h : ReceivedPacketHandler} {l : EncryptionLevel} {now : Int} {ack : AckFrame}
    (hack : (h.getAckFrame l now).1 = some ack) :
    ∃ t a, h.tracker l = some t ∧ (t.getAckFrame now).1 = some a ∧ ack.ackRanges = a.ackRanges := by
  cases l with
  | oneRTT => exact ⟨_, _, rfl, hack, rfl⟩
  | unspecified => cases hack
  | initial | handshake =>
    simp only [getAckFrame, tracker] at hack ⊢
    split at hack
    · rename_i t ht
      obtain ⟨a, ha, rfl⟩ := Option.map_eq_some_iff.1 hack
      exact ⟨t, a, ht, ha, rfl⟩
    · cases hack

end ReceivedPacketHandler

/-- A call the handler gets. -/
inductive HandlerCall where
  | receivedPacket (pn : Int) (encLevel : EncryptionLevel) (rcvTime minRTT : Int) (shouldInstigateAck : Bool)
  | ignoreBelow (pn : Int)
  | dropPackets (encLevel : EncryptionLevel)
  | getAckFrame (encLevel : EncryptionLevel) (now : Int)

/-- One call, on the handler. -/
def HandlerCall.apply : HandlerCall → ReceivedPacketHandler → Except GoError ReceivedPacketHandler
  | .receivedPacket pn encLevel rcvTime minRTT e, h => h.receivedPacket pn encLevel rcvTime minRTT e
  | .ignoreBelow pn, h => .ok (h.IgnoreBelow pn)
  | .dropPackets encLevel, h => h.dropPackets encLevel
  | .getAckFrame encLevel now, h => .ok (h.getAckFrame encLevel now).2

/-- The calls one after the other, on a new handler. -/
def runHandler (calls : List HandlerCall) : Except GoError ReceivedPacketHandler :=
  calls.foldlM (fun h c => c.apply h) newReceivedPacketHandler

/-- The call the tracker of the level `l` gets from a call of the handler. -/
def HandlerCall.atLevel (l : EncryptionLevel) : HandlerCall → Option TrackerCall
  | .receivedPacket pn encLevel rcvTime minRTT e =>
    if encLevel = l then some (.receivedPacket pn rcvTime minRTT e) else none
  | .ignoreBelow pn => if l = .oneRTT then some (.ignoreBelow pn) else none
  | .dropPackets _ => none
  | .getAckFrame encLevel now => if encLevel = l then some (.getAckFrame now) else none

namespace ReceivedPacketHandler

/-- What the handler keeps at the level `l`: its tracker, while it has one, keeps
the record of the calls it got. -/
def RecordsAt (l : EncryptionLevel) (calls : List HandlerCall) (h : ReceivedPacketHandler) : Prop :=
  ∀ t, h.tracker l = some t → ReceivedPacketTracker.Records (calls.filterMap (·.atLevel l)) t

theorem recordsAt_new (l : EncryptionLevel) : RecordsAt l [] newReceivedPacketHandler := by
  intro t ht
  cases l <;> cases ht <;> exact ReceivedPacketTracker.records_new

/-- A call that the tracker of `l` does not get leaves it and its record alone. -/
theorem RecordsAt.of_same {l : EncryptionLevel} {calls : List HandlerCall} {h h' : ReceivedPacketHandler}
    {c : HandlerCall} (hi : RecordsAt l calls h) (hc : c.atLevel l = none)
    (ht : h'.tracker l = h.tracker l ∨ h'.tracker l = none) : RecordsAt l (calls ++ [c]) h' := by
  intro t hl
  rw [List.filterMap_append, List.filterMap_cons, hc, List.filterMap_nil, List.append_nil]
  rcases ht with ht | ht
  · exact hi t (ht ▸ hl)
  · rw [ht] at hl
    cases hl

/-- A call that the tracker of `l` gets moves its record on by that call. -/
theorem RecordsAt.of_step {l : EncryptionLevel} {calls : List HandlerCall} {h h' : ReceivedPacketHandler}
    {c : HandlerCall} {d : TrackerCall} (hi : RecordsAt l calls h) (hc : c.atLevel l = some d)
    (ht : ∀ t', h'.tracker l = some t' → ∃ t, h.tracker l = some t ∧ d.apply t = .ok t') :
    RecordsAt l (calls ++ [c]) h' := by
  intro t' hl
  obtain ⟨t, htl, hstep⟩ := ht t' hl
  rw [List.filterMap_append, List.filterMap_cons, hc, List.filterMap_nil]
  exact (hi t htl).apply hstep

theorem RecordsAt.apply {l : EncryptionLevel} {calls : List HandlerCall} {h h' : ReceivedPacketHandler}
    {c : HandlerCall} (hi : RecordsAt l calls h) (hstep : c.apply h = .ok h') : RecordsAt l (calls ++ [c]) h' := by
  cases c with
  | receivedPacket pn l' rcv m e =>
    obtain ⟨t, t', ht, ht', rfl⟩ := receivedPacket_eq_ok hstep
    by_cases hl : l' = l
    · -- the packet goes to the tracker of `l`
      subst hl
      refine hi.of_step (d := .receivedPacket pn rcv m e) (by simp [HandlerCall.atLevel]) fun t'' h'' => ?_
      rw [tracker_setTracker_self ht, Option.some.injEq] at h''
      exact ⟨t, ht, h'' ▸ ht'⟩
    · exact hi.of_same (by simp [HandlerCall.atLevel, hl]) (.inl (tracker_setTracker_of_ne _ (Ne.symm hl) _))
  | ignoreBelow pn =>
    cases hstep
    by_cases hl : l = .oneRTT
    · subst hl
      exact hi.of_step (d := .ignoreBelow pn) rfl fun t' h'' => ⟨_, rfl, by cases h''; rfl⟩
    · exact hi.of_same (by simp [HandlerCall.atLevel, hl]) (.inl (by rw [tracker_ignoreBelow, if_neg hl]))
  | dropPackets l' => exact hi.of_same rfl (tracker_dropPackets hstep l)
  | getAckFrame l' now =>
    cases hstep
    by_cases hl : l' = l
    · subst hl
      refine hi.of_step (d := .getAckFrame now) (by simp [HandlerCall.atLevel]) fun t' h'' => ?_
      rw [tracker_getAckFrame, if_pos rfl] at h''
      obtain ⟨t, ht, rfl⟩ := Option.map_eq_some_iff.1 h''
      exact ⟨t, ht, rfl⟩
    · exact hi.of_same (by simp [HandlerCall.atLevel, hl]) (.inl (by rw [tracker_getAckFrame, if_neg hl]))

end ReceivedPacketHandler

/-- **The ACK frames of every level.**  After every run of calls of the handler
that succeed, an ACK frame the handler gives for a level acknowledges exactly
the packets received at that level at or above the largest threshold given to
`IgnoreBelow` (at 1-RTT; `0` at the other levels), in ranges that pass
`validateAckRanges` when it acknowledges one. -/
theorem runHandler_acks_received {calls : List HandlerCall} {h : ReceivedPacketHandler}
    (hr : runHandler calls = .ok h) {l : EncryptionLevel} {now : Int} {ack : AckFrame}
    (hack : (h.getAckFrame l now).1 = some ack) :
    (∀ n, ack.Acks n ↔ n ∈ (calls.filterMap (·.atLevel l)).filterMap TrackerCall.received ∧
        ((calls.filterMap (·.atLevel l)).filterMap TrackerCall.threshold).foldl max 0 ≤ n) ∧
      (ack.ackRanges ≠ [] → ack.validateAckRanges = true) := by
  have hi : ReceivedPacketHandler.RecordsAt l calls h := by
    have := foldlM_induction_prefix (fun pre h => ReceivedPacketHandler.RecordsAt l pre h)
      (fun _ _ _ _ hi hc => hi.apply hc) (ReceivedPacketHandler.recordsAt_new l) hr
    simpa using this
  obtain ⟨t, a, ht, ha, hranges⟩ := ReceivedPacketHandler.getAckFrame_some hack
  have hrec := hi t ht
  obtain ⟨hacks, hvalid⟩ := hrec.acks ha
  -- the frame has the tracker's ranges; only its delay time may differ
  have hack_eq : ∀ n, ack.Acks n ↔ a.Acks n := fun n => by
    simp only [AckFrame.Acks, hranges]
  refine ⟨fun n => by rw [hack_eq, hacks, hrec.1], fun hne => ?_⟩
  have hv := hvalid (hranges ▸ hne)
  simpa only [AckFrame.validateAckRanges, hranges] using hv

/-- An Initial packet, then 1-RTT packets 3 and 5 and a 1-RTT threshold of 4: the
1-RTT ACK frame at time 10 acknowledges packet 5 only. -/
theorem runHandler_acks_five :
    ∃ h, runHandler [.receivedPacket 0 .initial 0 0 true, .receivedPacket 3 .oneRTT 0 0 true,
        .receivedPacket 5 .oneRTT 0 0 true, .ignoreBelow 4] = .ok h ∧
      (h.getAckFrame .oneRTT 10).1 = some ⟨[⟨5, 5⟩], 10⟩ ∧
      (∀ n, AckFrame.Acks ⟨[⟨5, 5⟩], 10⟩ n ↔
        n ∈ ([HandlerCall.receivedPacket 0 .initial 0 0 true, .receivedPacket 3 .oneRTT 0 0 true,
          .receivedPacket 5 .oneRTT 0 0 true, .ignoreBelow 4].filterMap (·.atLevel .oneRTT)).filterMap
            TrackerCall.received ∧
        (([HandlerCall.receivedPacket 0 .initial 0 0 true, .receivedPacket 3 .oneRTT 0 0 true,
          .receivedPacket 5 .oneRTT 0 0 true, .ignoreBelow 4].filterMap (·.atLevel .oneRTT)).filterMap
            TrackerCall.threshold).foldl max 0 ≤ n) ∧
      ((⟨[⟨5, 5⟩], 10⟩ : AckFrame).ackRanges ≠ [] → AckFrame.validateAckRanges ⟨[⟨5, 5⟩], 10⟩ = true) := by
  obtain ⟨h, hr, hack⟩ := exists_ok_of_toOption_map (x := runHandler [.receivedPacket 0 .initial 0 0 true,
      .receivedPacket 3 .oneRTT 0 0 true, .receivedPacket 5 .oneRTT 0 0 true, .ignoreBelow 4])
    (f := fun h => (h.getAckFrame .oneRTT 10).1) (b := some ⟨[⟨5, 5⟩], 10⟩) (by decide +kernel)
  exact ⟨h, hr, hack, runHandler_acks_received hr hack⟩

end QuicFec
