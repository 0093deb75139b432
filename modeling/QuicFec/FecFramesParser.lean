import QuicFec.Frames

/-! # The FEC framework's frame formats

`fecFramesParserI` of `internal/fec/block/fec_block.go`, for the frames that do
not depend on FEC blocks: parsing REPAIR and RECOVERED frames, and writing and
reading the RECOVERED frame's list of packet numbers.  The parser is built
from the symbol size `e` (`NewFECFramesParser`), which fixes how many bytes a
REPAIR frame's symbols take.

A RECOVERED frame is a varint count followed by that many varint packet
numbers.  `getRecoveredFrame` writes as many of the packet numbers as fit in
`maxLen` bytes, and reports how many it wrote; the count it writes in front of
them is the length of the whole list, so a frame that could not take all of them
announces more numbers than it carries (`getRecoveredFrame_truncated`).
-/
namespace QuicFec
open GoBytes

namespace fecFramesParserI

/-- Reading `n` varints and dropping them. -/
def skipVarInts : Nat → Bytes → Except GoError Bytes
  | 0, r => .ok r
  | n + 1, r => do
    let (_, r) ← readVarInt r
    skipVarInts n r

/-- `ParseRepairFrame`: reads the metadata once to learn its size and the number
of symbols, seeks back, and reads the metadata and `nSymbols * e` symbol bytes. -/
def parseRepairFrame (e : Nat) (r : Bytes) : Except GoError (RepairFrame × Bytes) := do
  -- type byte
  let (_, r) ← readByte r
  let start := r
  -- nss, nrs, the block repair ID and nSymbols
  let (_, r) ← readVarInt r
  let (_, r) ← readVarInt r
  let (_, r) ← readInto 8 r
  let (nSymbols, r) ← readVarInt r
  let metadataSize := start.length - r.length
  let symbolsSize := nSymbols * e % 2 ^ 64
  makeSlice metadataSize
  makeSlice symbolsSize
  -- back to the start of the metadata
  let (metadata, r) ← readInto metadataSize start
  let (repairSymbols, r) ← readInto symbolsSize r
  return (⟨metadata, repairSymbols⟩, r)

/-- `ParseRecoveredFrame`: reads the count and the packet numbers to learn the
frame's size, seeks back, and reads the frame's payload. -/
def parseRecoveredFrame (r : Bytes) : Except GoError (RecoveredFrame × Bytes) := do
  -- type byte
  let (_, r) ← readByte r
  let payloadStart := r
  let (nRecovered, r) ← readVarInt r
  let r ← skipVarInts nRecovered r
  let payloadLength := payloadStart.length - r.length
  makeSlice payloadLength
  let (framePayload, r) ← readInto payloadLength payloadStart
  return (⟨framePayload⟩, r)

/-- The loop of `getRecoveredFrame`: writes packet numbers while they fit in
`maxLen`, and counts them. -/
def getRecoveredFrameLoop (maxLen : Nat) : List Int → Except GoError (Bytes × Nat)
  | [] => .ok ([], 0)
  | pn :: pns => do
    let lenPn ← varIntLen (toUint64 pn)
    if maxLen < lenPn then return ([], 0)
    let w ← writeVarInt (toUint64 pn)
    let (ws, n) ← getRecoveredFrameLoop (maxLen - lenPn) pns
    return (w ++ ws, n + 1)

/-- `getRecoveredFrame`: a RECOVERED frame of at most `maxLen` bytes announcing
`pns`, and how many of them it carries. -/
def getRecoveredFrame (pns : List Int) (maxLen : Nat) :
    Except GoError (Option RecoveredFrame × Nat) := do
  if pns.isEmpty then return (none, 0)
  -- type byte
  let maxLen := subU64 maxLen 1
  let count ← writeVarInt pns.length
  let (ws, writtenPn) ← getRecoveredFrameLoop maxLen pns
  return (some ⟨count ++ ws⟩, writtenPn)

/-- The loop of `getRecoveredFramePacketNumbers`. -/
def readPacketNumbers : Nat → Bytes → Except GoError (List Int)
  | 0, _ => .ok []
  | n + 1, r => do
    let (pn, r) ← readVarInt r
    return (pn : Int) :: (← readPacketNumbers n r)

/-- `getRecoveredFramePacketNumbers`. -/
def getRecoveredFramePacketNumbers (rf : RecoveredFrame) : Except GoError (List Int) := do
  let (nRecoveredPacketNumbers, r) ← readVarInt rf.data
  readPacketNumbers nRecoveredPacketNumbers r

/-- Packet numbers of two-byte varints: the loop writes as many of them as fit, two
bytes each. -/
theorem getRecoveredFrameLoop_two_bytes {pns : List Int}
    (hpns : ∀ pn ∈ pns, 64 ≤ pn ∧ pn ≤ maxVarInt2) (maxLen : Nat) :
    ∃ ws, getRecoveredFrameLoop maxLen pns = .ok (ws, min (maxLen / 2) pns.length) ∧
      ws.length = 2 * min (maxLen / 2) pns.length := by
  induction pns generalizing maxLen with
  | nil => exact ⟨[], by simp [getRecoveredFrameLoop], by simp⟩
  | cons pn pns ih =>
    obtain ⟨h64, hmax⟩ := hpns pn List.mem_cons_self
    unfold maxVarInt2 at hmax
    have hu : toUint64 pn = pn.toNat := toUint64_of_nonneg (by omega) (by omega)
    have hle8 : pn.toNat ≤ maxVarInt8 := by unfold maxVarInt8; omega
    have hlen : (varIntBytes pn.toNat).length = 2 := by
      rw [varIntBytes_length]
      unfold maxVarInt1 maxVarInt2
      split_ifs <;> omega
    by_cases hfit : maxLen < 2
    case pos =>
      have h0 : maxLen / 2 = 0 := by omega
      refine ⟨[], ?_, by simp [h0]⟩
      simp [getRecoveredFrameLoop, hu, varIntLen_eq_length hle8, hlen, hfit, h0]
    case neg =>
      obtain ⟨ws, hws, hwslen⟩ := ih (fun p hp => hpns p (List.mem_cons_of_mem _ hp)) (maxLen - 2)
      have hn : min ((maxLen - 2) / 2) pns.length + 1 = min (maxLen / 2) (pns.length + 1) := by omega
      refine ⟨varIntBytes pn.toNat ++ ws, ?_, ?_⟩
      · simp [getRecoveredFrameLoop, hu, varIntLen_eq_length hle8, hlen, hfit, writeVarInt_of_le hle8, hws, hn]
      · rw [List.length_append, hlen, hwslen, List.length_cons]
        omega

/-- A RECOVERED frame of at least 64 packet numbers of two-byte varints, not all of
which fit into `maxLen`, is longer than `maxLen`: its count takes two bytes the
budget leaves out. -/
theorem getRecoveredFrame_overruns {pns : List Int} (hpns : ∀ pn ∈ pns, 64 ≤ pn ∧ pn ≤ maxVarInt2)
    (h64 : 64 ≤ pns.length) (hcount : pns.length ≤ maxVarInt2) {maxLen : Nat} (hpos : 1 ≤ maxLen)
    (hfull : maxLen ≤ 2 * pns.length + 1) :
    ∃ rf n, getRecoveredFrame pns maxLen = .ok (some rf, n) ∧ n ≤ pns.length ∧ maxLen < rf.length := by
  unfold maxVarInt2 at hcount
  have hne : pns.isEmpty = false := by
    cases pns with
    | nil => simp at h64
    | cons _ _ => rfl
  have hsub : subU64 maxLen 1 = maxLen - 1 := subU64_of_le hpos (by omega)
  have hle8 : pns.length ≤ maxVarInt8 := by unfold maxVarInt8; omega
  have hcountLen : (varIntBytes pns.length).length = 2 := by
    rw [varIntBytes_length]
    unfold maxVarInt1 maxVarInt2
    split_ifs <;> omega
  obtain ⟨ws, hws, hwslen⟩ := getRecoveredFrameLoop_two_bytes hpns (maxLen - 1)
  refine ⟨⟨varIntBytes pns.length ++ ws⟩, min ((maxLen - 1) / 2) pns.length, ?_, Nat.min_le_right _ _, ?_⟩
  · simp [getRecoveredFrame, hne, hsub, writeVarInt_of_le hle8, hws]
  · -- every number but at most one byte's worth is written, and the count adds two
    simp only [RecoveredFrame.length, List.length_append, hcountLen, hwslen]
    omega

/-- **The count is that of the whole list.**  `getRecoveredFrame` writes the count
of all the packet numbers, and then only those that fit, in a budget that leaves
out the count itself.  With `pns = [0, 1]` and `maxLen = 2` the frame announces two
numbers and carries one: it is three bytes long, its numbers cannot be read back,
and parsing it at the head of a packet takes a byte of what follows as its second
number. -/
theorem getRecoveredFrame_truncated :
    getRecoveredFrame [0, 1] 2 = .ok (some ⟨[2, 0]⟩, 1) ∧ RecoveredFrame.length ⟨[2, 0]⟩ = 3 ∧
      getRecoveredFramePacketNumbers ⟨[2, 0]⟩ = .error .eof ∧
      parseRecoveredFrame (RecoveredFrame.write ⟨[2, 0]⟩ ++ [7]) = .ok (⟨[2, 0, 7]⟩, []) := by
  refine ⟨by decide, rfl, by decide, by decide⟩

end fecFramesParserI

/-- `NewFECFramesParser(e)`, as the frame parser sees it. -/
def NewFECFramesParser (e : Nat) : FECFramesParser where
  parseRecoveredFrame := fecFramesParserI.parseRecoveredFrame
  parseRepairFrame := fecFramesParserI.parseRepairFrame e

end QuicFec
