import Mathlib
import QuicFec.Lib.IntervalList
import QuicFec.AckRoundTrip

/-! # The history of received packets

`receivedPacketHistory` (`internal/ackhandler/received_packet_history.go`) keeps
the packet numbers a peer has received as a list of ranges, from which it builds
the ranges of its ACK frames.  `ReceivedPacket` walks the list from the back and
extends a range at either end (merging it with the range before it when they then
touch), inserts a one-packet range after a range or before the first, or finds
the number already there.  `DeleteBelow` trims and drops ranges from the front.

The code keeps the ranges in a linked list, but no pointer to an element outlives
a call, so the model is the list of ranges, front to back.  The backward walk of
`ReceivedPacket` is a recursion on the reversed list.  Packet numbers are `int64`s
below `2^62`, where `p - 1` and `p + 1` do not wrap: they are integers here.

The history is a set of received numbers above a threshold
(`IntervalList.Covers`), and its ranges are the maximal runs of that set in
increasing order (`IntervalList.Ascending`).  `Reachable h s m` says that `h` is a
history some sequence of calls leads to, where `s` is the set of numbers received
and `m` the largest threshold given to `DeleteBelow` (or `0`), each received
number being at or above the thresholds of the calls before it.

Main results:

* `reachable_spec`: over every such sequence the ranges stay increasing with a
  gap between any two, they cover exactly the received numbers at or above `m`,
  and the ACK ranges built from them pass `validateAckRanges` when there is one;
* `deleteBelow_lower_threshold`: a threshold below an earlier one is ignored,
  so a number between the two is recorded.
-/

namespace QuicFec
open GoBytes IntervalList

/-- `utils.PacketInterval`: the packet numbers from `start` to `stop` (Go's `End`). -/
structure PacketInterval where
  start : Int
  stop : Int
  deriving DecidableEq, Repr

/-- `protocol.MaxTrackedReceivedAckRanges` (`defaultMaxCongestionWindowPackets`). -/
def MaxTrackedReceivedAckRanges : Nat := 1000

/-- `errTooManyOutstandingReceivedAckRanges`, an `InternalError`. -/
def errTooManyOutstandingReceivedAckRanges : GoError :=
  .error "INTERNAL_ERROR: Too many outstanding received ACK ranges"

/-- `receivedPacketHistory`. -/
structure ReceivedPacketHistory where
  ranges : List PacketInterval
  lowestInReceivedPacketNumbers : Int
  deriving DecidableEq, Repr

/-- `newReceivedPacketHistory`. -/
def newReceivedPacketHistory : ReceivedPacketHistory := ⟨[], 0⟩

namespace ReceivedPacketHistory

/-- After a range was extended to `el`: the merge with the range before it, if the
two now touch.  The ranges are given back to front. -/
def mergeWithPrev (el : PacketInterval) : List PacketInterval → List PacketInterval
  | prev :: rest => if prev.stop + 1 = el.start then ⟨prev.start, el.stop⟩ :: rest else el :: prev :: rest
  | [] => [el]

/-- The loop of `ReceivedPacket` from the back of the list, on the ranges given back
to front; the result is back to front too. -/
def receivedPacketLoop (p : Int) : List PacketInterval → List PacketInterval
  -- create a new range at the beginning
  | [] => [⟨p, p⟩]
  | el :: rest =>
    -- `p` already included in an existing range
    if el.start ≤ p ∧ p ≤ el.stop then el :: rest
    -- extend a range at the end, or at the beginning, then maybe merge
    else if el.stop = p - 1 then mergeWithPrev ⟨el.start, p⟩ rest
    else if el.start = p + 1 then mergeWithPrev ⟨p, el.stop⟩ rest
    -- create a new range at the end
    else if p > el.stop then ⟨p, p⟩ :: el :: rest
    else el :: receivedPacketLoop p rest

/-- `ReceivedPacket`. -/
def receivedPacket (h : ReceivedPacketHistory) (p : Int) : Except GoError ReceivedPacketHistory :=
  if h.ranges.length ≥ MaxTrackedReceivedAckRanges then .error errTooManyOutstandingReceivedAckRanges
  else if h.ranges.length = 0 then .ok { h with ranges := [⟨p, p⟩] }
  else .ok { h with ranges := (receivedPacketLoop p h.ranges.reverse).reverse }

/-- The loop of `DeleteBelow` from the front of the list. -/
def deleteBelowLoop (p : Int) : List PacketInterval → List PacketInterval
  | [] => []
  | el :: rest =>
    if p > el.start ∧ p ≤ el.stop then ⟨p, el.stop⟩ :: deleteBelowLoop p rest
    -- delete a whole range
    else if el.stop < p then deleteBelowLoop p rest
    -- no ranges affected
    else el :: rest

/-- `DeleteBelow`: deletes the numbers below `p`, unless an earlier call deleted
below a threshold at least as high. -/
def deleteBelow (h : ReceivedPacketHistory) (p : Int) : ReceivedPacketHistory :=
  if p ≤ h.lowestInReceivedPacketNumbers then h
  else ⟨deleteBelowLoop p h.ranges, p⟩

/-- `GetAckRanges`: the ranges, highest first (`nil` for none). -/
def getAckRanges (h : ReceivedPacketHistory) : List AckRange :=
  if h.ranges.length = 0 then []
  else h.ranges.reverse.map fun r => ⟨r.start, r.stop⟩

/-! ## The walk of `ReceivedPacket` -/

section Loop

variable {p : Int}

/-- The ends of the ranges `mergeWithPrev` returns are ends of `el` or of the
ranges before it. -/
theorem ends_mergeWithPrev {el y : PacketInterval} {rest : List PacketInterval}
    (hy : y ∈ mergeWithPrev el rest) :
    (y.start = el.start ∨ ∃ x ∈ rest, x.start = y.start) ∧
      (y.stop = el.stop ∨ ∃ x ∈ rest, x.stop = y.stop) := by
  cases rest with
  | nil =>
    rw [mergeWithPrev, List.mem_singleton] at hy
    subst hy
    exact ⟨Or.inl rfl, Or.inl rfl⟩
  | cons prev rest =>
    rw [mergeWithPrev] at hy
    split at hy
    · rcases List.mem_cons.1 hy with rfl | hy
      · exact ⟨Or.inr ⟨prev, List.mem_cons_self, rfl⟩, Or.inl rfl⟩
      · exact ⟨Or.inr ⟨y, List.mem_cons_of_mem _ hy, rfl⟩, Or.inr ⟨y, List.mem_cons_of_mem _ hy, rfl⟩⟩
    · rcases List.mem_cons.1 hy with rfl | hy
      · exact ⟨Or.inl rfl, Or.inl rfl⟩
      · exact ⟨Or.inr ⟨y, hy, rfl⟩, Or.inr ⟨y, hy, rfl⟩⟩

/-- `mergeWithPrev` keeps the ranges decreasing, when the range before `el` ends
below it or right below it. -/
theorem mergeWithPrev_descending {el : PacketInterval} {rest : List PacketInterval}
    (hrest : Descending PacketInterval.start PacketInterval.stop rest) (hel : el.start ≤ el.stop)
    (hbelow : ∀ y ∈ rest, y.stop + 1 ≤ el.start) :
    Descending PacketInterval.start PacketInterval.stop (mergeWithPrev el rest) := by
  cases rest with
  | nil => exact descending_cons.2 ⟨hel, by simp, descending_nil⟩
  | cons prev rest =>
    obtain ⟨hprev, habove, hrest'⟩ := descending_cons.1 hrest
    have hprev_le := hbelow prev List.mem_cons_self
    rw [mergeWithPrev]
    split
    case isTrue htouch =>
      refine descending_cons.2 ⟨?_, habove, hrest'⟩
      show prev.start ≤ el.stop
      omega
    case isFalse hgap =>
      refine descending_cons.2 ⟨hel, fun y hy => ?_, hrest⟩
      rcases List.mem_cons.1 hy with rfl | hy
      · show y.stop + 1 < el.start
        omega
      · have hy' := habove y hy
        show y.stop + 1 < el.start
        omega

/-- `mergeWithPrev` covers what `el` and the ranges before it cover. -/
theorem covers_mergeWithPrev {el : PacketInterval} {rest : List PacketInterval}
    (hrest : ∀ x ∈ rest, x.start ≤ x.stop) (hel : el.start ≤ el.stop) {n : Int} :
    Covers PacketInterval.start PacketInterval.stop (mergeWithPrev el rest) n ↔
      Covers PacketInterval.start PacketInterval.stop (el :: rest) n := by
  cases rest with
  | nil => rfl
  | cons prev rest =>
    rw [mergeWithPrev]
    split
    case isTrue htouch =>
      have hprev := hrest prev List.mem_cons_self
      simp only [covers_cons]
      grind
    case isFalse => rfl

/-- The ends of the ranges after `ReceivedPacket`'s walk are `p` or ends of ranges
that were there. -/
theorem ends_receivedPacketLoop {r : List PacketInterval} {y : PacketInterval}
    (hy : y ∈ receivedPacketLoop p r) :
    (y.start = p ∨ ∃ x ∈ r, x.start = y.start) ∧ (y.stop = p ∨ ∃ x ∈ r, x.stop = y.stop) := by
  induction r with
  | nil =>
    rw [receivedPacketLoop, List.mem_singleton] at hy
    subst hy
    exact ⟨Or.inl rfl, Or.inl rfl⟩
  | cons el rest ih =>
    have hel : el ∈ el :: rest := List.mem_cons_self
    have hsub : ∀ x ∈ rest, x ∈ el :: rest := fun x hx => List.mem_cons_of_mem el hx
    unfold receivedPacketLoop at hy
    split_ifs at hy
    · exact ⟨Or.inr ⟨y, hy, rfl⟩, Or.inr ⟨y, hy, rfl⟩⟩
    · -- extended at the end
      obtain ⟨hs, ht⟩ := ends_mergeWithPrev hy
      refine ⟨?_, ?_⟩
      · rcases hs with hs | ⟨x, hx, hx'⟩
        · exact Or.inr ⟨el, hel, hs.symm⟩
        · exact Or.inr ⟨x, hsub x hx, hx'⟩
      · rcases ht with ht | ⟨x, hx, hx'⟩
        · exact Or.inl ht
        · exact Or.inr ⟨x, hsub x hx, hx'⟩
    · -- extended at the beginning
      obtain ⟨hs, ht⟩ := ends_mergeWithPrev hy
      refine ⟨?_, ?_⟩
      · rcases hs with hs | ⟨x, hx, hx'⟩
        · exact Or.inl hs
        · exact Or.inr ⟨x, hsub x hx, hx'⟩
      · rcases ht with ht | ⟨x, hx, hx'⟩
        · exact Or.inr ⟨el, hel, ht.symm⟩
        · exact Or.inr ⟨x, hsub x hx, hx'⟩
    · rcases List.mem_cons.1 hy with rfl | hy
      · exact ⟨Or.inl rfl, Or.inl rfl⟩
      · exact ⟨Or.inr ⟨y, hy, rfl⟩, Or.inr ⟨y, hy, rfl⟩⟩
    · rcases List.mem_cons.1 hy with rfl | hy
      · exact ⟨Or.inr ⟨y, hel, rfl⟩, Or.inr ⟨y, hel, rfl⟩⟩
      · obtain ⟨hs, ht⟩ := ih hy
        refine ⟨hs.imp_right ?_, ht.imp_right ?_⟩
        · rintro ⟨x, hx, hx'⟩
          exact ⟨x, hsub x hx, hx'⟩
        · rintro ⟨x, hx, hx'⟩
          exact ⟨x, hsub x hx, hx'⟩

theorem stop_lt_of_mem_receivedPacketLoop {r : List PacketInterval} {B : Int}
    (hr : ∀ x ∈ r, x.stop < B) (hp : p < B) {y : PacketInterval} (hy : y ∈ receivedPacketLoop p r) :
    y.stop < B := by
  rcases (ends_receivedPacketLoop hy).2 with h | ⟨x, hx, h⟩
  · rw [h]
    exact hp
  · rw [← h]
    exact hr x hx

theorem le_start_of_mem_receivedPacketLoop {r : List PacketInterval} {L : Int}
    (hr : ∀ x ∈ r, L ≤ x.start) (hp : L ≤ p) {y : PacketInterval} (hy : y ∈ receivedPacketLoop p r) :
    L ≤ y.start := by
  rcases (ends_receivedPacketLoop hy).1 with h | ⟨x, hx, h⟩
  · rw [h]
    exact hp
  · rw [← h]
    exact hr x hx

/-- The walk keeps the ranges, read from the back, decreasing with gaps. -/
theorem receivedPacketLoop_descending {r : List PacketInterval}
    (hr : Descending PacketInterval.start PacketInterval.stop r) :
    Descending PacketInterval.start PacketInterval.stop (receivedPacketLoop p r) := by
  induction r with
  | nil => exact descending_cons.2 ⟨Int.le_refl p, by simp, descending_nil⟩
  | cons el rest ih =>
    obtain ⟨hel, habove, hrest⟩ := descending_cons.1 hr
    unfold receivedPacketLoop
    split_ifs with hin hend hstart hafter
    · exact hr
    · -- extended at the end: the ranges before it stay below
      refine mergeWithPrev_descending hrest (by show el.start ≤ p; omega) fun y hy => ?_
      have hy' := habove y hy
      show y.stop + 1 ≤ el.start
      omega
    · -- extended at the beginning: the range before it may now touch it
      refine mergeWithPrev_descending hrest (by show p ≤ el.stop; omega) fun y hy => ?_
      have hy' := habove y hy
      show y.stop + 1 ≤ p
      omega
    · -- a new range above `el`
      refine descending_cons.2 ⟨Int.le_refl p, fun y hy => ?_, hr⟩
      rcases List.mem_cons.1 hy with rfl | hy
      · show y.stop + 1 < p
        omega
      · have hy' := habove y hy
        show y.stop + 1 < p
        omega
    · -- `p` lies below `el` with a gap, and so does every range the walk leaves there
      refine descending_cons.2 ⟨hel, fun y hy => ?_, ih hrest⟩
      have hy' := stop_lt_of_mem_receivedPacketLoop (B := el.start - 1)
        (fun x hx => by have := habove x hx; omega) (by omega) hy
      omega

/-- The walk adds `p` to what the ranges cover. -/
theorem covers_receivedPacketLoop {r : List PacketInterval}
    (hr : Descending PacketInterval.start PacketInterval.stop r) {n : Int} :
    Covers PacketInterval.start PacketInterval.stop (receivedPacketLoop p r) n ↔
      Covers PacketInterval.start PacketInterval.stop r n ∨ n = p := by
  induction r with
  | nil =>
    simp only [receivedPacketLoop, covers_cons, not_covers_nil, or_false, false_or]
    omega
  | cons el rest ih =>
    obtain ⟨hel, -, hrest⟩ := descending_cons.1 hr
    unfold receivedPacketLoop
    split_ifs with hin hend hstart hafter
    · -- `p` is already covered
      rw [covers_cons]
      grind
    · rw [covers_mergeWithPrev hrest.nonempty (by show el.start ≤ p; omega), covers_cons,
        covers_cons]
      grind
    · rw [covers_mergeWithPrev hrest.nonempty (by show p ≤ el.stop; omega), covers_cons,
        covers_cons]
      grind
    · rw [covers_cons, covers_cons]
      grind
    · rw [covers_cons, covers_cons, ih hrest]
      grind

end Loop

/-! ## The walk of `DeleteBelow` -/

section DeleteBelow

variable {q : Int}

/-- A list that starts at or above `q` is left alone. -/
theorem deleteBelowLoop_cons_of_le {el : PacketInterval} {rest : List PacketInterval}
    (hq : q ≤ el.start) (hel : el.start ≤ el.stop) :
    deleteBelowLoop q (el :: rest) = el :: rest := by
  rw [deleteBelowLoop, if_neg (by omega), if_neg (by omega)]

/-- The walk keeps the ranges increasing with gaps, and leaves them at or above
`q`, covering what they covered from `q` on. -/
theorem deleteBelowLoop_spec {l : List PacketInterval}
    (hl : Ascending PacketInterval.start PacketInterval.stop l) :
    Ascending PacketInterval.start PacketInterval.stop (deleteBelowLoop q l) ∧
      (∀ x ∈ deleteBelowLoop q l, q ≤ x.start) ∧
      ∀ n, Covers PacketInterval.start PacketInterval.stop (deleteBelowLoop q l) n ↔
        Covers PacketInterval.start PacketInterval.stop l n ∧ q ≤ n := by
  induction l with
  | nil => exact ⟨ascending_nil, by simp [deleteBelowLoop], by simp [deleteBelowLoop]⟩
  | cons el rest ih =>
    obtain ⟨hel, hbelow, hrest⟩ := ascending_cons.1 hl
    unfold deleteBelowLoop
    split_ifs with hcut hdrop
    · -- `el` is cut at `q`; the ranges after it lie above `q` and stay
      have hrest_eq : deleteBelowLoop q rest = rest := by
        cases rest with
        | nil => rfl
        | cons next rest' =>
          have hnext := hbelow next List.mem_cons_self
          exact deleteBelowLoop_cons_of_le (by omega) (hrest.nonempty next List.mem_cons_self)
      rw [hrest_eq]
      refine ⟨ascending_cons.2 ⟨hcut.2, hbelow, hrest⟩, ?_, fun n => ?_⟩
      · intro x hx
        rcases List.mem_cons.1 hx with rfl | hx
        · exact Int.le_refl _
        · have := hbelow x hx
          omega
      · have hcov : Covers PacketInterval.start PacketInterval.stop rest n → el.stop < n := by
          rintro ⟨x, hx, hxn, -⟩
          have := hbelow x hx
          omega
        rw [covers_cons, covers_cons]
        grind
    · -- `el` lies below `q` and goes
      obtain ⟨hasc, hge, hcov⟩ := ih hrest
      refine ⟨hasc, hge, fun n => ?_⟩
      rw [hcov n, covers_cons]
      grind
    · -- nothing below `q` is left
      have hq : q ≤ el.start := by omega
      refine ⟨hl, fun x hx => ?_, fun n => ?_⟩
      · rcases List.mem_cons.1 hx with rfl | hx
        · exact hq
        · have := hbelow x hx
          omega
      · constructor
        · intro h
          refine ⟨h, ?_⟩
          obtain ⟨x, hx, hxn, -⟩ := h
          rcases List.mem_cons.1 hx with rfl | hx
          · omega
          · have := hbelow x hx
            omega
        · exact And.left

end DeleteBelow

/-! ## Histories over whole runs -/

/-- What every history a sequence of calls leads to satisfies: increasing ranges
with gaps, none starting below the threshold. -/
structure Inv (h : ReceivedPacketHistory) : Prop where
  ascending : Ascending PacketInterval.start PacketInterval.stop h.ranges
  lowest_le : ∀ x ∈ h.ranges, h.lowestInReceivedPacketNumbers ≤ x.start

/-- `ReceivedPacket` below the range limit. -/
theorem receivedPacket_eq {h : ReceivedPacketHistory} {p : Int}
    (hlen : h.ranges.length < MaxTrackedReceivedAckRanges) :
    h.receivedPacket p = .ok { h with ranges := (receivedPacketLoop p h.ranges.reverse).reverse } := by
  unfold receivedPacket
  rw [if_neg (by omega)]
  split_ifs with h0
  · rw [List.eq_nil_of_length_eq_zero h0]
    rfl
  · rfl

/-- One successful `ReceivedPacket` of a number at or above the threshold keeps the
invariant and adds the number. -/
theorem receivedPacket_step {h h' : ReceivedPacketHistory} {p : Int} (hi : Inv h)
    (hp : h.lowestInReceivedPacketNumbers ≤ p) (hok : h.receivedPacket p = .ok h') :
    Inv h' ∧ h'.lowestInReceivedPacketNumbers = h.lowestInReceivedPacketNumbers ∧
      ∀ n, Covers PacketInterval.start PacketInterval.stop h'.ranges n ↔
        Covers PacketInterval.start PacketInterval.stop h.ranges n ∨ n = p := by
  have hlen : h.ranges.length < MaxTrackedReceivedAckRanges := by
    by_contra hge
    rw [receivedPacket, if_pos (by omega)] at hok
    cases hok
  rw [receivedPacket_eq hlen, Except.ok.injEq] at hok
  subst hok
  have hdesc : Descending PacketInterval.start PacketInterval.stop h.ranges.reverse := by
    rw [← ascending_reverse, List.reverse_reverse]
    exact hi.ascending
  refine ⟨⟨?_, fun x hx => ?_⟩, rfl, fun n => ?_⟩
  · exact ascending_reverse.2 (receivedPacketLoop_descending hdesc)
  · exact le_start_of_mem_receivedPacketLoop
      (fun y hy => hi.lowest_le y (List.mem_reverse.1 hy)) hp (List.mem_reverse.1 hx)
  · rw [covers_reverse, covers_receivedPacketLoop hdesc, covers_reverse]

/-- `DeleteBelow` keeps the invariant, raises the threshold to `q` if it was lower,
and keeps what is covered from `q` on. -/
theorem deleteBelow_step {h : ReceivedPacketHistory} (hi : Inv h) (q : Int) :
    Inv (h.deleteBelow q) ∧
      (h.deleteBelow q).lowestInReceivedPacketNumbers = max h.lowestInReceivedPacketNumbers q ∧
      ∀ n, Covers PacketInterval.start PacketInterval.stop (h.deleteBelow q).ranges n ↔
        Covers PacketInterval.start PacketInterval.stop h.ranges n ∧ q ≤ n := by
  unfold deleteBelow
  split_ifs with hq
  · -- a lower threshold: nothing is deleted, and nothing covered lies below `q`
    refine ⟨hi, by omega, fun n => ⟨fun hn => ⟨hn, ?_⟩, And.left⟩⟩
    obtain ⟨x, hx, hxn, -⟩ := hn
    have := hi.lowest_le x hx
    omega
  · obtain ⟨hasc, hge, hcov⟩ := deleteBelowLoop_spec (q := q) hi.ascending
    refine ⟨⟨hasc, hge⟩, ?_, hcov⟩
    show q = max h.lowestInReceivedPacketNumbers q
    omega

/-- **The histories a sequence of calls leads to**, with `s` the numbers received
and `m` the largest threshold given to `DeleteBelow` (`0` at the start).  Each
number received is at or above every threshold given before it, and no
`ReceivedPacket` fails. -/
inductive Reachable : ReceivedPacketHistory → Set Int → Int → Prop
  | init : Reachable newReceivedPacketHistory ∅ 0
  | receivedPacket {h h' : ReceivedPacketHistory} {s : Set Int} {m p : Int} :
      Reachable h s m → m ≤ p → h.receivedPacket p = .ok h' → Reachable h' (insert p s) m
  | deleteBelow {h : ReceivedPacketHistory} {s : Set Int} {m : Int} (q : Int) :
      Reachable h s m → Reachable (h.deleteBelow q) s (max m q)

/-- Over every run: the invariant, the threshold is the largest one given, and the
ranges cover exactly the numbers received from the threshold on. -/
theorem reachable_inv {h : ReceivedPacketHistory} {s : Set Int} {m : Int} (hr : Reachable h s m) :
    Inv h ∧ h.lowestInReceivedPacketNumbers = m ∧
      ∀ n, Covers PacketInterval.start PacketInterval.stop h.ranges n ↔ n ∈ s ∧ m ≤ n := by
  induction hr with
  | init =>
    refine ⟨⟨ascending_nil, by simp [newReceivedPacketHistory]⟩, rfl, fun n => ?_⟩
    simp [newReceivedPacketHistory, Set.mem_empty_iff_false]
  | receivedPacket _ hp hok ih =>
    obtain ⟨hi, hlow, hcov⟩ := ih
    obtain ⟨hi', hlow', hcov'⟩ := receivedPacket_step hi (hlow ▸ hp) hok
    refine ⟨hi', hlow'.trans hlow, fun n => ?_⟩
    rw [hcov', hcov, Set.mem_insert_iff]
    grind
  | deleteBelow q _ ih =>
    obtain ⟨hi, hlow, hcov⟩ := ih
    obtain ⟨hi', hlow', hcov'⟩ := deleteBelow_step hi q
    refine ⟨hi', hlow'.trans (by rw [hlow]), fun n => ?_⟩
    rw [hcov', hcov]
    grind

/-- The ACK ranges of increasing ranges with gaps pass `validateAckRanges`, when
there is one. -/
theorem validateAckRanges_getAckRanges {h : ReceivedPacketHistory}
    (ha : Ascending PacketInterval.start PacketInterval.stop h.ranges) (hne : h.ranges ≠ [])
    (d : Int) : AckFrame.validateAckRanges ⟨h.getAckRanges, d⟩ = true := by
  have hlen : h.ranges.length ≠ 0 := fun h0 => hne (List.eq_nil_of_length_eq_zero h0)
  have hdesc : Descending PacketInterval.start PacketInterval.stop h.ranges.reverse := by
    rw [← ascending_reverse, List.reverse_reverse]
    exact ha
  rw [AckFrame.validateAckRanges_iff]
  simp only [getAckRanges, if_neg hlen]
  refine ⟨by simpa using hne, ?_, fun i hi => ?_⟩
  · intro r hr
    obtain ⟨x, hx, rfl⟩ := List.mem_map.1 hr
    exact hdesc.nonempty x hx
  · rw [List.length_map] at hi
    have hsep := List.pairwise_iff_getElem.1 hdesc.separated i (i + 1) (by omega) hi (by omega)
    have hle := hdesc.nonempty _ (List.getElem_mem hi)
    simp only [List.getElem_map]
    exact ⟨by omega, hsep⟩

/-- **Received ranges are exact and well formed.**  Over every sequence of
`ReceivedPacket` and `DeleteBelow` calls in which each received number is at or
above every threshold given before it and no `ReceivedPacket` fails, the ranges
are nonempty and increasing with a missing number between consecutive ones, they
cover exactly the numbers received at or above the largest threshold, and
`GetAckRanges` returns them highest first, as ranges that pass
`validateAckRanges` when there is at least one. -/
theorem reachable_spec {h : ReceivedPacketHistory} {s : Set Int} {m : Int}
    (hr : Reachable h s m) :
    (∀ x ∈ h.ranges, x.start ≤ x.stop) ∧
      h.ranges.IsChain (fun x y => x.stop + 1 < y.start) ∧
      (∀ n, (∃ x ∈ h.ranges, x.start ≤ n ∧ n ≤ x.stop) ↔ n ∈ s ∧ m ≤ n) ∧
      h.lowestInReceivedPacketNumbers = m ∧
      h.getAckRanges = h.ranges.reverse.map (fun r => ⟨r.start, r.stop⟩) ∧
      (h.ranges ≠ [] → ∀ d, AckFrame.validateAckRanges ⟨h.getAckRanges, d⟩ = true) := by
  obtain ⟨hi, hlow, hcov⟩ := reachable_inv hr
  refine ⟨hi.ascending.nonempty, hi.ascending.isChain, hcov, hlow, ?_,
    fun hne d => validateAckRanges_getAckRanges hi.ascending hne d⟩
  unfold getAckRanges
  split_ifs with h0
  · rw [List.eq_nil_of_length_eq_zero h0]
    rfl
  · rfl

/-- Packets 0 and 2 received: two ranges, and what they cover. -/
theorem reachable_spec_zero_two :
    Reachable ⟨[⟨0, 0⟩, ⟨2, 2⟩], 0⟩ (insert 2 (insert 0 ∅)) 0 ∧
      ∀ n, (∃ x ∈ [(⟨0, 0⟩ : PacketInterval), ⟨2, 2⟩], x.start ≤ n ∧ n ≤ x.stop) ↔
        n ∈ (insert 2 (insert 0 ∅) : Set Int) ∧ 0 ≤ n := by
  have hr : Reachable ⟨[⟨0, 0⟩, ⟨2, 2⟩], 0⟩ (insert 2 (insert 0 ∅)) 0 :=
    .receivedPacket (.receivedPacket .init (Int.le_refl 0) rfl) (by decide) rfl
  exact ⟨hr, (reachable_spec hr).2.2.1⟩

/-- **A lower threshold is ignored.**  After `DeleteBelow(10)`, a `DeleteBelow(5)`
changes nothing, and a packet 7 is then recorded though it lies below the largest
threshold; and a history with no packet gives no ACK range, which
`validateAckRanges` rejects. -/
theorem deleteBelow_lower_threshold :
    ((newReceivedPacketHistory.deleteBelow 10).deleteBelow 5).receivedPacket 7 =
        .ok ⟨[⟨7, 7⟩], 10⟩ ∧
      newReceivedPacketHistory.getAckRanges = [] ∧ AckFrame.validateAckRanges ⟨[], 0⟩ = false :=
  ⟨by decide, rfl, rfl⟩

end ReceivedPacketHistory

end QuicFec
