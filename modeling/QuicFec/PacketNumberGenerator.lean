import QuicFec.Frames

/-! # Packet number generation

`packetNumberGenerator` (packet_number_generator.go) hands out the packet numbers
of one space in increasing order, and skips one now and then, so that a peer
that acknowledges a skipped number is caught sending optimistic ACKs.  The next
number to skip is drawn at random, at least two numbers ahead, so no two
consecutive numbers are skipped; the generator remembers the last
`MaxTrackedSkippedPackets` skipped numbers, and `Validate` rejects an ACK frame
that acknowledges one of them.

The random numbers are inputs of the model: `getRandomNumber` is replaced by the
`uint16` it returns, which each operation that draws one takes as an argument.

`AckFrame.AcksPacket` finds the range that may hold a packet number with
`sort.Search`, a binary search (`search`).

Main results:

* `pop_fst`, `next_pop`: `Pop` returns the number `Peek` showed, and moves past it.
-/

namespace QuicFec
open GoBytes

/-- `protocol.SkipPacketAveragePeriodLength`. -/
def SkipPacketAveragePeriodLength : Int := 500

/-- `protocol.MaxTrackedSkippedPackets`. -/
def MaxTrackedSkippedPackets : Nat := 10

/-- `sort.Search(n, f)`: the binary search for the smallest index below `n` at
which `f` holds, for an `f` that is false and then true; `n` if there is none. -/
def search (n : Nat) (f : Nat → Bool) : Nat := go n 0 n
where
  /-- the loop, on the indices `[i, j)` not decided yet; each turn makes `j - i`
  smaller, so `n` turns are enough -/
  go : Nat → Nat → Nat → Nat
    | 0, i, _ => i
    | fuel + 1, i, j =>
      if i < j then
        let h := (i + j) / 2
        if !f h then go fuel (h + 1) j else go fuel i h
      else i

section Search

variable {n : Nat} {f : Nat → Bool}

end Search

/-- `AckFrame.AcksPacket`. -/
def AckFrame.acksPacket (f : AckFrame) (p : Int) : Except GoError Bool := do
  if p < (← f.lowestAcked) then return false
  if p > (← f.largestAcked) then return false
  let i := search f.ackRanges.length fun i => decide (p ≥ (f.ackRanges.getD i ⟨0, 0⟩).smallest)
  return decide (p ≤ (← index f.ackRanges i).largest)

/-- `packetNumberGenerator`. -/
structure PacketNumberGenerator where
  averagePeriod : Int
  next : Int
  nextToSkip : Int
  history : List Int

namespace PacketNumberGenerator

/-- `generateNewSkip`, with the random number `num` it draws. -/
def generateNewSkip (g : PacketNumberGenerator) (num : UInt16) : PacketNumberGenerator :=
  let skip := Int.tdiv ((num.toNat : Int) * (g.averagePeriod - 1)) (65535 / 2)
  { g with nextToSkip := g.next + 2 + skip }

/-- `Peek`. -/
def peek (g : PacketNumberGenerator) : Int := g.next

/-- `Pop`, with the random number a new skip would draw. -/
def pop (g : PacketNumberGenerator) (num : UInt16) : Int × PacketNumberGenerator :=
  let next := g.next
  let g := { g with next := g.next + 1 }
  if g.next = g.nextToSkip then
    let history :=
      if g.history.length + 1 > MaxTrackedSkippedPackets then g.history.drop 1 else g.history
    (next, generateNewSkip { g with history := history ++ [g.next], next := g.next + 1 } num)
  else (next, g)

/-- `Validate`: the ACK frame acknowledges none of the skipped numbers remembered. -/
def validate (g : PacketNumberGenerator) (ack : AckFrame) : Except GoError Bool :=
  g.history.allM fun pn => (! ·) <$> ack.acksPacket pn

theorem pop_fst (g : PacketNumberGenerator) (num : UInt16) : (g.pop num).1 = g.peek := by
  dsimp only [pop, peek]
  split <;> rfl

/-- `Pop` moves past the number it returns, by one, or by two over a skipped one. -/
theorem next_pop (g : PacketNumberGenerator) (num : UInt16) :
    (g.pop num).2.next = g.next + 1 ∨ (g.pop num).2.next = g.next + 2 := by
  dsimp only [pop]
  split
  · right
    simp only [generateNewSkip]
    omega
  · exact .inl rfl


/-! ## Runs of `Pop` -/

/-- The number a `Pop` skips: the one after the number it returns, when that one
is the number to skip. -/
def skippedBy (g : PacketNumberGenerator) : List Int :=
  if g.next + 1 = g.nextToSkip then [g.next + 1] else []

/-- `Pop` calls in turn, each with the random number a new skip would draw: the
numbers they returned, the numbers they skipped, and the generator after them. -/
def popAll : PacketNumberGenerator → List UInt16 → List Int × List Int × PacketNumberGenerator
  | g, [] => ([], [], g)
  | g, num :: nums =>
    let r := popAll (g.pop num).2 nums
    ((g.pop num).1 :: r.1, g.skippedBy ++ r.2.1, r.2.2)

/-- `Pop` moves past the number it returns and the one it skips. -/
theorem next_pop_skippedBy (g : PacketNumberGenerator) (num : UInt16) :
    (g.pop num).2.next = g.next + 1 + g.skippedBy.length := by
  dsimp only [pop, skippedBy]
  split
  · simp only [generateNewSkip, List.length_singleton]
    omega
  · simp

/-- The history after `Pop`: the skipped number is appended, and the oldest one
dropped when `MaxTrackedSkippedPackets` would be passed. -/
theorem history_pop (g : PacketNumberGenerator) (num : UInt16) :
    (g.pop num).2.history = (if g.skippedBy = [] then g.history
      else (if g.history.length + 1 > MaxTrackedSkippedPackets then g.history.drop 1 else g.history) ++
        g.skippedBy) := by
  dsimp only [pop, skippedBy]
  split <;> simp [generateNewSkip]

/-- Keeping the last `m` entries of a list, then appending one and dropping the
oldest once there are more than `m`, keeps the last `m` entries of the longer list. -/
theorem drop_window_append {α : Type} {m : Nat} (hm : 0 < m) (l : List α) (x : α) :
    (if (l.drop (l.length - m)).length + 1 > m then (l.drop (l.length - m)).drop 1
      else l.drop (l.length - m)) ++ [x] = (l ++ [x]).drop ((l ++ [x]).length - m) := by
  rw [List.length_drop, List.length_append, List.length_singleton]
  split
  case isTrue hfull =>
    -- the window was full: it moves on by one
    rw [List.drop_drop, List.drop_append_of_le_length (by omega)]
    congr 2
    omega
  case isFalse hroom =>
    rw [show l.length - m = 0 by omega, show l.length + 1 - m = 0 by omega, List.drop_zero,
      List.drop_zero]

/-- What holds after `Pop` calls from a generator at `initial` with no history,
which returned `returned` and skipped `skipped`: every number from `initial` up to
the next one was returned or skipped and not both, each list increases, every
skipped number follows one that was returned, and the history is the last
`MaxTrackedSkippedPackets` skipped numbers. -/
structure Ledger (initial : Int) (returned skipped : List Int) (g : PacketNumberGenerator) : Prop where
  start_le : initial ≤ g.next
  covers : ∀ n, (n ∈ returned ∨ n ∈ skipped) ↔ initial ≤ n ∧ n < g.next
  disjoint : ∀ n ∈ skipped, n ∉ returned
  returned_sorted : returned.Pairwise (· < ·)
  skipped_sorted : skipped.Pairwise (· < ·)
  follows : ∀ n ∈ skipped, n - 1 ∈ returned
  history : g.history = skipped.drop (skipped.length - MaxTrackedSkippedPackets)

/-- **One `Pop` keeps the ledger**: the number it returns is the next one, and the
number it skips, if any, the one after. -/
theorem Ledger.pop {initial : Int} {returned skipped : List Int} {g : PacketNumberGenerator}
    (hl : Ledger initial returned skipped g) (num : UInt16) :
    Ledger initial (returned ++ [g.next]) (skipped ++ g.skippedBy) (g.pop num).2 := by
  have hnext := next_pop_skippedBy g num
  have hbelow : ∀ n, n ∈ returned ∨ n ∈ skipped → n < g.next := fun n hn => ((hl.covers n).1 hn).2
  have hsk : ∀ n ∈ g.skippedBy, n = g.next + 1 := by
    intro n hn
    unfold skippedBy at hn
    split at hn <;> simp_all
  have hlen : g.skippedBy.length ≤ 1 := by
    unfold skippedBy
    split <;> simp
  have hstart := hl.start_le
  refine ⟨by omega, fun n => ?_, fun n hn => ?_, ?_, ?_, fun n hn => ?_, ?_⟩
  · -- the numbers covered grow by the one returned and the one skipped
    rw [hnext]
    have hcov := hl.covers n
    constructor
    · rintro (hr | hs)
      · rcases List.mem_append.1 hr with hr | hr
        · obtain ⟨h1, h2⟩ := hcov.1 (.inl hr); omega
        · rw [List.mem_singleton.1 hr]; omega
      · rcases List.mem_append.1 hs with hs | hs
        · obtain ⟨h1, h2⟩ := hcov.1 (.inr hs); omega
        · have := List.length_pos_of_mem hs
          rw [hsk n hs]
          omega
    · rintro ⟨hlo, hhi⟩
      by_cases hlt : n < g.next
      · rcases hcov.2 ⟨hlo, hlt⟩ with hr | hs
        · exact .inl (List.mem_append_left _ hr)
        · exact .inr (List.mem_append_left _ hs)
      by_cases heq : n = g.next
      · exact .inl (List.mem_append_right _ (List.mem_singleton.2 heq))
      -- past the number returned: the call skipped one
      have hsome : g.skippedBy.length ≠ 0 := by omega
      obtain ⟨x, hx⟩ := List.exists_mem_of_length_pos (Nat.pos_of_ne_zero hsome)
      have := hsk x hx
      exact .inr (List.mem_append_right _ (by rw [show n = x by omega]; exact hx))
  · -- a skipped number is neither an old returned one nor the one returned now
    rcases List.mem_append.1 hn with hs | hs
    · have := hbelow n (.inr hs)
      intro hr
      rcases List.mem_append.1 hr with hr | hr
      · exact hl.disjoint n hs hr
      · rw [List.mem_singleton.1 hr] at this; omega
    · have := hsk n hs
      intro hr
      rcases List.mem_append.1 hr with hr | hr
      · have := hbelow n (.inl hr); omega
      · rw [List.mem_singleton.1 hr] at this; omega
  · exact List.pairwise_append.2 ⟨hl.returned_sorted, List.pairwise_singleton _ _, fun a ha b hb => by
      rw [List.mem_singleton.1 hb]; exact hbelow a (.inl ha)⟩
  · refine List.pairwise_append.2 ⟨hl.skipped_sorted, ?_, fun a ha b hb => ?_⟩
    · unfold skippedBy
      split <;> simp
    · have := hbelow a (.inr ha)
      have := hsk b hb
      omega
  · rcases List.mem_append.1 hn with hs | hs
    · exact List.mem_append_left _ (hl.follows n hs)
    · rw [hsk n hs, Int.add_sub_cancel]
      exact List.mem_append_right _ (List.mem_singleton_self _)
  · rw [history_pop]
    split
    case isTrue hnone => rw [hnone, List.append_nil]; exact hl.history
    case isFalse hsome =>
      have hone : g.skippedBy = [g.next + 1] := by
        unfold skippedBy at hsome ⊢
        split at hsome <;> simp_all
      rw [hl.history, hone]
      exact drop_window_append (by decide) skipped (g.next + 1)

/-- **Every run of `Pop` calls keeps the ledger.** -/
theorem Ledger.popAll {initial : Int} {returned skipped : List Int} {g : PacketNumberGenerator}
    (hl : Ledger initial returned skipped g) (nums : List UInt16) :
    Ledger initial (returned ++ (g.popAll nums).1) (skipped ++ (g.popAll nums).2.1) (g.popAll nums).2.2 := by
  induction nums generalizing returned skipped g with
  | nil => simpa [PacketNumberGenerator.popAll] using hl
  | cons num nums ih =>
    have h := ih (hl.pop num)
    simp only [PacketNumberGenerator.popAll, pop_fst, peek, List.append_assoc,
      List.cons_append] at h ⊢
    exact h

end PacketNumberGenerator

/-- `newPacketNumberGenerator`, with the random number of its first skip. -/
def newPacketNumberGenerator (initial averagePeriod : Int) (num : UInt16) : PacketNumberGenerator :=
  PacketNumberGenerator.generateNewSkip ⟨averagePeriod, initial, 0, []⟩ num

end QuicFec
