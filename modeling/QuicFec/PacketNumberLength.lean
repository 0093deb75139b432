import QuicFec.SentPacketHandler

/-! # The packet number length the sender chooses

`PeekPacketNumber` sends the next packet number with a length chosen from its
distance to the lowest packet number the space counts as unacknowledged
(`PacketNumberSpace.lowestUnacked`): the first packet of the history that can
still be retransmitted, or the number after the largest acknowledged one when
there is none.  A receiver decodes it from the largest number it has received.

A receiver whose largest received number is at least the one before that lowest
number decodes exactly (`peekPacketNumber_decodes`).  The length is not chosen from
the largest acknowledged number, though, and the first outstanding packet moves
ahead of it whenever packets that are not ack-eliciting are sent: they take packet
numbers and never enter the history.  After enough of them, a packet is sent with
a two-byte number that a receiver which has received only the first of them
decodes into another epoch (`peekPacketNumber_misdecoded`).
-/

namespace QuicFec
open GoBytes

namespace SentPacketHandler

variable (updateRTT : RTTStats → Int → Int → Int → RTTStats)

theorem peekPacketNumber_eq {h : SentPacketHandler} {encLevel : EncryptionLevel}
    {sp : PacketNumberSpace} (hsp : h.getPacketNumberSpace encLevel = .ok sp) :
    h.peekPacketNumber encLevel =
      .ok (sp.pns.peek, getPacketNumberLengthForHeader sp.pns.peek sp.lowestUnacked) := by
  simp [peekPacketNumber, hsp]

/-- **The sender's length is decoded correctly from the lowest unacknowledged
number on**: for every handler state, a receiver whose largest received number is
at least the one before the space's lowest unacknowledged number, and below the
number sent, decodes it, as long as the distance stays below `2^31` and the
epoch of the largest received number is not the last one of `int64`; and the
decoding law behind it. -/
theorem peekPacketNumber_decodes :
    (∀ (h : SentPacketHandler) (encLevel : EncryptionLevel) (sp : PacketNumberSpace) (pn : Int)
        (len : Nat) (L : Int),
        h.getPacketNumberSpace encLevel = .ok sp → h.peekPacketNumber encLevel = .ok (pn, len) →
        0 ≤ L → sp.lowestUnacked - 1 ≤ L → L < pn → pn - sp.lowestUnacked < 2 ^ 31 →
        L + 2 ^ (8 * len) < 2 ^ 63 →
        decodePacketNumber len L (pn % 2 ^ (8 * len)) = pn) ∧
      (∀ (len : Nat) (L pn : Int), 1 ≤ len → len ≤ 4 → 0 ≤ L → L + 2 ^ (8 * len) < 2 ^ 63 →
        0 ≤ pn → |pn - (L + 1)| < 2 ^ (8 * len - 1) →
        decodePacketNumber len L (pn % 2 ^ (8 * len)) = pn) := by
  refine ⟨?_, fun len L pn h1 h4 hL hlast hpn hnear => decodePacketNumber_eq h1 h4 hL hlast hpn hnear⟩
  intro h encLevel sp pn len L hsp hpeek hL hlo hhi hdist hlast
  rw [peekPacketNumber_eq hsp] at hpeek
  obtain ⟨rfl, rfl⟩ := Prod.mk.inj (Except.ok.inj hpeek)
  exact decodePacketNumber_getPacketNumberLengthForHeader hL hlo hhi hdist hlast

/-- A fresh handler whose Initial packet numbers start at `5`: a receiver that has
received packet `0` decodes the first Initial number, and the decoding law at
distance one. -/
theorem peekPacketNumber_decodes_initial :
    decodePacketNumber 2 0 (5 % 2 ^ (8 * 2)) = 5 ∧ decodePacketNumber 2 5 (6 % 2 ^ (8 * 2)) = 6 :=
  ⟨peekPacketNumber_decodes.1 (newSentPacketHandler 5 ⟨0, 0, 0, 0, 0⟩ 0 0 0) .initial
      (newPacketNumberSpace 5 0) 5 2 0 rfl (by decide) (by decide) (by decide) (by decide)
      (by decide) (by decide),
    peekPacketNumber_decodes.2 2 5 6 (by decide) (by decide) (by decide) (by decide) (by decide)
      (by decide)⟩

/-! ## Packets that are not ack-eliciting -/

/-- A 1-RTT packet that only acknowledges the peer's packet `0`: it carries an ACK
frame and no other frame. -/
def ackOnlyPacket (pn : Int) : Packet where
  packetNumber := pn
  ack := some ⟨[⟨0, 0⟩], 0⟩
  frames := []
  length := 30
  encryptionLevel := .oneRTT
  sendTime := 0
  largestAcked := InvalidPacketNumber
  canBeRetransmitted := false
  includedInBytesInFlight := false
  retransmittedAs := []
  isRetransmission := false
  retransmissionOf := 0

/-- A 1-RTT packet with a PING frame. -/
def pingPacket (pn : Int) : Packet := { ackOnlyPacket pn with ack := none, frames := [.ping] }

theorem popPacketNumber_oneRTT (h : SentPacketHandler) (num : UInt16) :
    h.popPacketNumber .oneRTT num = .ok (h.oneRTTPackets.pns.next,
      { h with oneRTTPackets := { h.oneRTTPackets with pns := (h.oneRTTPackets.pns.pop num).2 } }) := by
  simp [popPacketNumber, getPacketNumberSpace, setPacketNumberSpace,
    PacketNumberGenerator.pop_fst, PacketNumberGenerator.peek]

/-- An ACK-only packet only raises the largest number sent. -/
theorem sentPacket_ackOnly (h : SentPacketHandler) (pn : Int) :
    h.sentPacket (ackOnlyPacket pn) =
      .ok { h with oneRTTPackets := { h.oneRTTPackets with largestSent := pn } } := by
  simp [sentPacket, sentPacketImpl, ackOnlyPacket, getPacketNumberSpace, setPacketNumberSpace,
    AckFrame.largestAcked, index]

/-- A PING packet enters the 1-RTT history. -/
theorem sentPacket_ping (h : SentPacketHandler) (pn : Int) :
    h.sentPacket (pingPacket pn) =
      .ok { h with
        bytesInFlight := h.bytesInFlight + 30
        numProbesToSend := if h.numProbesToSend > 0 then h.numProbesToSend - 1 else h.numProbesToSend
        oneRTTPackets := { h.oneRTTPackets with
          largestSent := pn
          history := h.oneRTTPackets.history.sentPacket
            { pingPacket pn with includedInBytesInFlight := true, canBeRetransmitted := true } } } := by
  simp [sentPacket, sentPacketImpl, pingPacket, ackOnlyPacket, getPacketNumberSpace,
    setPacketNumberSpace, modifyHistory]

/-- Sending an ACK-only packet with the next packet number, `n` times over: the
1-RTT history and largest acknowledged number stay, and the packet numbers move
ahead by at least `n`. -/
theorem run_ackOnly (h : SentPacketHandler) (n : Nat) :
    ∃ calls h', h.run updateRTT calls = .ok h' ∧
      h'.oneRTTPackets.history = h.oneRTTPackets.history ∧
      h'.oneRTTPackets.largestAcked = h.oneRTTPackets.largestAcked ∧
      h.oneRTTPackets.pns.next + n ≤ h'.oneRTTPackets.pns.next := by
  induction n generalizing h with
  | zero => exact ⟨[], h, rfl, rfl, rfl, by omega⟩
  | succ n ih =>
    -- one packet: pop its number, then send it
    let h1 : SentPacketHandler := { h with oneRTTPackets := { h.oneRTTPackets with
      pns := (h.oneRTTPackets.pns.pop 0).2, largestSent := h.oneRTTPackets.pns.next } }
    have hstep : h.run updateRTT [.popPacketNumber .oneRTT 0,
        .sentPacket (ackOnlyPacket h.oneRTTPackets.pns.next)] = .ok h1 := by
      simp [run, step, popPacketNumber_oneRTT, sentPacket_ackOnly, h1]
    obtain ⟨calls, h', hrun, hhist, hacked, hnext⟩ := ih h1
    have hpop := PacketNumberGenerator.next_pop h.oneRTTPackets.pns 0
    refine ⟨_ ++ calls, h', by rw [run_append, hstep]; exact hrun, hhist, hacked, ?_⟩
    have : h1.oneRTTPackets.pns.next = (h.oneRTTPackets.pns.pop 0).2.next := rfl
    omega

/-- A receiver that has received only packet `0` decodes a two-byte number into
the first epoch. -/
theorem decodePacketNumber_two_zero {w : Int} (h0 : 0 ≤ w) (hw : w < 2 ^ 16) :
    decodePacketNumber 2 0 w = w := by
  have hepoch : Int.land 0 (Int.lnot (2 ^ 16 - 1)) = 0 := by
    simpa using land_lnot_two_pow_sub_one 0 16
  have hprev : ¬ (0 : Int) > 2 ^ 16 := by decide
  simp only [decodePacketNumber, epochDelta, hepoch, hprev, if_false, Int.zero_add]
  rw [wrapInt64_of_nonneg (x := 1) (by decide) (by decide),
    wrapInt64_of_nonneg (x := w) h0 (by omega),
    wrapInt64_of_nonneg (x := 2 ^ 16) (by decide) (by decide),
    wrapInt64_of_nonneg (x := 2 ^ 16 + w) (by omega) (by omega)]
  -- the epoch is `0`, and so is the one before: two candidates are `w`
  have hinner : closestTo 1 w (2 ^ 16 + w) = w := by
    rw [closestTo_eq (abs_sub_lt_of_nonneg_of_lt (by decide) (by decide) h0 (by omega))
      (abs_sub_lt_of_nonneg_of_lt (by decide) (by decide) (by omega) (by omega)), if_pos]
    rw [abs_of_nonpos (by omega : (1 : Int) - (2 ^ 16 + w) ≤ 0)]
    exact abs_sub_lt_iff.mpr ⟨by omega, by omega⟩
  rw [hinner]
  rcases closestTo_mem 1 w w with h | h <;> exact h

/-- **Counterexample**: from a fresh handler, ACK-only packets take the 1-RTT
packet numbers up to `2^16` and beyond, and a PING packet follows.  Nothing is
acknowledged, so the largest acknowledged number stays `-1`, but the PING packet
is the first outstanding one, so the next packet number is sent in two bytes; a
receiver that received only packet `0` decodes it into the first epoch. -/
theorem peekPacketNumber_misdecoded :
    ∃ calls h pn, (newSentPacketHandler 0 ⟨0, 0, 0, 0, 0⟩ 0 0 0).run (fun r _ _ _ => r) calls =
        .ok h ∧
      h.peekPacketNumber .oneRTT = .ok (pn, 2) ∧ h.oneRTTPackets.largestAcked ≤ 0 ∧ 0 < pn ∧
      decodePacketNumber 2 0 (pn % 2 ^ (8 * 2)) ≠ pn := by
  obtain ⟨calls, h1, hrun, hhist, hacked, hnext⟩ :=
    run_ackOnly (fun r _ _ _ => r) (newSentPacketHandler 0 ⟨0, 0, 0, 0, 0⟩ 0 0 0) 65536
  set X := h1.oneRTTPackets.pns.next with hX
  let ping : Packet := { pingPacket X with includedInBytesInFlight := true, canBeRetransmitted := true }
  let sp : PacketNumberSpace := { h1.oneRTTPackets with
    pns := (h1.oneRTTPackets.pns.pop 0).2, largestSent := X
    history := h1.oneRTTPackets.history.sentPacket ping }
  let h2 : SentPacketHandler := { h1 with
    bytesInFlight := h1.bytesInFlight + 30
    numProbesToSend := if h1.numProbesToSend > 0 then h1.numProbesToSend - 1 else h1.numProbesToSend
    oneRTTPackets := sp }
  have hstep : h1.run (fun r _ _ _ => r) [.popPacketNumber .oneRTT 0, .sentPacket (pingPacket X)] =
      .ok h2 := by
    simp [run, step, popPacketNumber_oneRTT, sentPacket_ping, h2, sp, ping, hX]
  have hlow : sp.lowestUnacked = X := by
    simp [PacketNumberSpace.lowestUnacked, sp, hhist, newSentPacketHandler, newPacketNumberSpace,
      newSentPacketHistory, SentPacketHistory.sentPacket, SentPacketHistory.sentPacketImpl,
      SentPacketHistory.value, LinkedList.get, LinkedList.pushBack, LinkedList.empty, ping,
      pingPacket, ackOnlyPacket]
  have hpeek := @peekPacketNumber_eq h2 .oneRTT sp rfl
  rw [hlow] at hpeek
  -- the next number is one or two above it, so it is sent in two bytes
  have hY := PacketNumberGenerator.next_pop h1.oneRTTPackets.pns 0
  have hpeekY : sp.pns.peek = (h1.oneRTTPackets.pns.pop 0).2.next := rfl
  have hX0 : (0 : Int) + 65536 ≤ X := hnext
  have hlen : getPacketNumberLengthForHeader sp.pns.peek X = 2 := by
    rw [getPacketNumberLengthForHeader, toUint64_of_nonneg (by omega) (by omega)]
    simp only [PacketNumberLen2]
    rw [if_pos (by omega)]
  refine ⟨calls ++ [.popPacketNumber .oneRTT 0, .sentPacket (pingPacket X)], h2, sp.pns.peek,
    by rw [run_append, hrun]; exact hstep,
    by rw [hpeek, hlen], ?_, by omega, ?_⟩
  · show h1.oneRTTPackets.largestAcked ≤ 0
    rw [hacked]
    decide
  · rw [decodePacketNumber_two_zero (Int.emod_nonneg _ (by decide)) (Int.emod_lt_of_pos _ (by decide))]
    omega

end SentPacketHandler

end QuicFec
