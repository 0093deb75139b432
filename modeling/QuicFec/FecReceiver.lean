import QuicFec.FecReceive
import QuicFec.FecSchemes
import QuicFec.RepairFrame

/-! # The block framework receiver

`BlockFrameworkReceiver` (`internal/fec/block/framework_receiver.go`) past the
protected payload: what the receiver does with the source symbols of the packets
it receives and with the repair symbols of REPAIR frames, and how it recovers the
packets it lost.

The receiver keeps its FEC blocks in a buffer (`fecBlocksBuffer`): a map from
block numbers to blocks, and a queue of the numbers in the order the blocks were
added, from which the oldest is evicted when the buffer is full.  Recovered
packets go into a ring buffer (`recoveredPacketsBuffer`) for the session to read,
and their numbers into a list to announce in RECOVERED frames.  Go's blocks are
pointers shared between the map and the functions that change them; the model
writes a changed block back into the map where the code changes it through the
pointer.

Each symbol goes into its block, and `updateStateForSomeBlock` then looks at the
block: it pads the block's slices with nils up to the totals the REPAIR frames
announced, and when the FEC scheme says it can recover, recovers, merges the
recovered symbols into packets and drops the block.  A repair symbol is put at its
offset in the block's repair slice, after nils when the slots before it are
empty, and the Reed-Solomon scheme dereferences every slot of that slice: a block
of one source symbol and two repair symbols, of which only the second arrives,
makes the receiver panic (`handleRepairSymbol_second_repair_symbol_only`).

Main results:

* `holdsAllBut_of_setSymbols`: once the symbols of a block but one source symbol
  have arrived, in any order, the block padded to its totals holds them all at
  their offsets (`HoldsAllBut`), the state the FEC schemes recover from;
* `handleRepairSymbol_missing_first_slot`: a repair symbol that opens a block of
  one source symbol at an offset past the first makes the Reed-Solomon receiver
  dereference the empty first slot, whatever the code's encoder computes;
* `handleRepairSymbol_second_repair_symbol_only`: so does the second of the two
  repair symbols `GetRepairSymbols` makes for a block of one source symbol;
* `recoveredPacketsBuffer_queue`: the buffer of recovered packets returns what a
  queue that never drops a packet returns, and panics where a full buffer should
  drop its oldest packet, and earlier once its waiting packets reach the last slot.
-/

namespace QuicFec
open GoBytes

/-! ## The buffer of FEC blocks -/

/-- `fecBlocksBuffer`.  The linked list of block numbers from `head` to `tail` is
`queue`. -/
structure FecBlocksBuffer where
  queue : List UInt32
  size : Nat
  maxSize : Nat
  fecBlocks : GoMap UInt32 FECBlock

/-- `newFecBlocksBuffer`. -/
def newFecBlocksBuffer (maxSize : Nat) : FecBlocksBuffer := ⟨[], 0, maxSize, GoMap.empty⟩

namespace FecBlocksBuffer

/-- `addFECBlock`: when the buffer is full, the block at the head of the queue is
evicted; the new block goes at the tail. -/
def addFECBlock (b : FecBlocksBuffer) (block : FECBlock) : Except GoError FecBlocksBuffer := do
  let number := block.blockNumber
  let b ← (if b.size = b.maxSize then
      match b.queue with
      | [] => throw GoBytes.nilDereference
      | toRemove :: rest =>
        pure { b with queue := rest, fecBlocks := b.fecBlocks.delete toRemove, size := b.size - 1 }
    else pure b)
  let queue := if b.size = 0 then [number] else b.queue ++ [number]
  return { b with queue, fecBlocks := b.fecBlocks.insert number block, size := b.size + 1 }

/-- A block changed through its pointer: the map sees the change. -/
def setBlock (b : FecBlocksBuffer) (number : UInt32) (block : FECBlock) : FecBlocksBuffer :=
  { b with fecBlocks := b.fecBlocks.insert number block }

/-- `delete(b.fecBlocks, number)`: the queue keeps the number. -/
def deleteBlock (b : FecBlocksBuffer) (number : UInt32) : FecBlocksBuffer :=
  { b with fecBlocks := b.fecBlocks.delete number }

/-- `setSourceSymbolInFECBlock`.  The block it makes for a number it does not hold
is declared inside the branch, so the block it then sets the symbol into is still
nil. -/
def setSourceSymbolInFECBlock (b : FecBlocksBuffer) (symbol : BlockSourceSymbol)
    (id : BlockSourceID) : Except GoError FecBlocksBuffer :=
  match b.fecBlocks.get? id.blockNumber with
  | some block => do return b.setBlock id.blockNumber (← block.setSourceSymbol symbol id)
  | none => do
    let _ ← b.addFECBlock (newFECBlock id.blockNumber)
    throw GoBytes.nilDereference

end FecBlocksBuffer

/-! ## The buffer of recovered packets -/

/-- `recoveredPacketsBuffer`: a slice of `maxSize` packets, read from `start`. -/
structure RecoveredPacketsBuffer where
  buffer : List (Option RecoveredPacket)
  start : Nat
  size : Nat
  maxSize : Nat

/-- `newRecoveredPacketsBuffer`. -/
def newRecoveredPacketsBuffer (maxSize : Nat) : RecoveredPacketsBuffer :=
  ⟨List.replicate maxSize none, 0, 0, maxSize⟩

namespace RecoveredPacketsBuffer

/-- `addPacket`: the packet goes at `start + size`, which is not taken modulo the
size of the slice. -/
def addPacket (f : RecoveredPacketsBuffer) (packet : RecoveredPacket) :
    Except GoError RecoveredPacketsBuffer := do
  let buffer ← setIndex f.buffer (f.start + f.size) (some packet)
  if f.size < f.maxSize then return { f with buffer, size := f.size + 1 }
  let start ← modU64 (f.start + 1) f.maxSize
  return { f with buffer, start }

/-- `getPacket`: `none` (Go's `nil`) when the buffer is empty. -/
def getPacket (f : RecoveredPacketsBuffer) :
    Except GoError (Option RecoveredPacket × RecoveredPacketsBuffer) := do
  if f.size = 0 then return (none, f)
  let packet ← index f.buffer f.start
  let start ← modU64 (f.start + 1) f.maxSize
  return (packet, { f with start, size := f.size - 1 })

/-! ### The buffer as a queue

Between calls the waiting packets sit in `size` consecutive slots from `start`.
`getPacket` takes the first and moves `start` on modulo `maxSize`; `addPacket`
writes right after the last one, at `start + size`, which it does not take modulo
`maxSize`.  So the buffer is a plain queue until the waiting packets reach the end
of the slice, and there the next `addPacket` indexes past it.  Its branch for a
full buffer, which would drop the oldest packet, is reached only after that write,
so it never runs. -/

/-- The slots of the waiting packets, oldest first. -/
def pending (f : RecoveredPacketsBuffer) : List (Option RecoveredPacket) :=
  (f.buffer.drop f.start).take f.size

/-- The buffer holds the queue `q`: its slice has `maxSize` slots, and the packets
of `q` sit in order in the slots from `start`, before the end of the slice. -/
structure Holds (f : RecoveredPacketsBuffer) (q : List RecoveredPacket) : Prop where
  length : f.buffer.length = f.maxSize
  start_lt : f.start < f.maxSize
  fits : f.start + f.size ≤ f.maxSize
  slots : f.pending = q.map some

theorem holds_new {maxSize : Nat} (h : 0 < maxSize) : Holds (newRecoveredPacketsBuffer maxSize) [] :=
  ⟨List.length_replicate, h, by simp [newRecoveredPacketsBuffer], by
    simp [pending, newRecoveredPacketsBuffer]⟩

theorem pending_length {f : RecoveredPacketsBuffer} (hlen : f.buffer.length = f.maxSize)
    (hfits : f.start + f.size ≤ f.maxSize) : f.pending.length = f.size := by
  simp only [pending, List.length_take, List.length_drop, hlen]
  omega

theorem Holds.size_eq {f : RecoveredPacketsBuffer} {q : List RecoveredPacket} (hf : Holds f q) :
    f.size = q.length := by
  rw [← pending_length hf.length hf.fits, hf.slots, List.length_map]

/-- Writing right after the waiting packets appends to them. -/
theorem take_drop_set {α : Type} (l : List α) {s k : Nat} (h : s + k < l.length) (a : α) :
    ((l.set (s + k) a).drop s).take (k + 1) = (l.drop s).take k ++ [a] := by
  have hk : k < (l.drop s).length := by rw [List.length_drop]; omega
  rw [← List.set_drop, List.take_add_one, List.take_set_of_le (Nat.le_refl k),
    List.getElem?_set_self hk]
  rfl

/-- `getPacket` returns the oldest packet of the queue, `none` when it is empty,
and leaves the rest. -/
theorem Holds.getPacket {f : RecoveredPacketsBuffer} {q : List RecoveredPacket} (hf : Holds f q) :
    ∃ f', f.getPacket = .ok (q.head?, f') ∧ Holds f' q.tail ∧ f'.maxSize = f.maxSize := by
  have hsize := hf.size_eq
  have hfits := hf.fits
  have hpos : 0 < f.maxSize := Nat.lt_of_le_of_lt (Nat.zero_le _) hf.start_lt
  have hstart : f.start < f.buffer.length := by rw [hf.length]; exact hf.start_lt
  cases q with
  | nil =>
    -- nothing waits: the buffer is left as it is
    refine ⟨f, ?_, hf, rfl⟩
    simp [RecoveredPacketsBuffer.getPacket, hsize]
  | cons x q =>
    simp only [List.length_cons] at hsize
    have hdrop : (f.buffer.drop f.start).take f.size = some x :: q.map some := hf.slots
    rw [List.drop_eq_getElem_cons hstart, hsize, List.take_succ_cons, List.cons.injEq] at hdrop
    obtain ⟨hhead, hrest⟩ := hdrop
    refine ⟨{ f with start := (f.start + 1) % f.maxSize, size := f.size - 1 }, ?_, ?_, rfl⟩
    · simp [RecoveredPacketsBuffer.getPacket, hsize, index_of_lt hstart, hhead, modU64_of_pos hpos]
    · refine ⟨hf.length, Nat.mod_lt _ hpos, ?_, ?_⟩
      · -- `start` moves on modulo `maxSize`
        show (f.start + 1) % f.maxSize + (f.size - 1) ≤ f.maxSize
        by_cases hend : f.start + 1 < f.maxSize
        · rw [Nat.mod_eq_of_lt hend]
          omega
        · rw [show f.start + 1 = f.maxSize by omega, Nat.mod_self]
          omega
      · show (f.buffer.drop ((f.start + 1) % f.maxSize)).take (f.size - 1) = q.map some
        by_cases hend : f.start + 1 < f.maxSize
        · rw [Nat.mod_eq_of_lt hend, hsize, Nat.add_sub_cancel]
          exact hrest
        · -- at the end of the slice the queue is empty
          have hq : q = [] := by
            rw [← List.length_eq_zero_iff]
            omega
          simp [hq, show f.size - 1 = 0 by omega]

/-- An `addPacket` while the last waiting packet is not in the last slot appends to
the queue. -/
theorem Holds.addPacket {f : RecoveredPacketsBuffer} {q : List RecoveredPacket} (hf : Holds f q)
    (hlt : f.start + f.size < f.maxSize) (packet : RecoveredPacket) :
    ∃ f', f.addPacket packet = .ok f' ∧ Holds f' (q ++ [packet]) ∧ f'.maxSize = f.maxSize := by
  have hi : f.start + f.size < f.buffer.length := by rw [hf.length]; exact hlt
  refine ⟨{ f with buffer := f.buffer.set (f.start + f.size) (some packet), size := f.size + 1 },
    ?_, ⟨by rw [List.length_set, hf.length], hf.start_lt, by simp only; omega, ?_⟩, rfl⟩
  · simp [RecoveredPacketsBuffer.addPacket, setIndex_of_lt hi, show f.size < f.maxSize by omega]
  · show ((f.buffer.set (f.start + f.size) (some packet)).drop f.start).take (f.size + 1) = _
    rw [take_drop_set _ hi, List.map_append, ← hf.slots]
    rfl

/-- An `addPacket` once the last waiting packet is in the last slot writes past
the end of the slice. -/
theorem Holds.addPacket_panics {f : RecoveredPacketsBuffer} {q : List RecoveredPacket} (hf : Holds f q)
    (hge : f.maxSize ≤ f.start + f.size) (packet : RecoveredPacket) :
    f.addPacket packet = .error (.panic "index out of range") := by
  have hi : ¬ f.start + f.size < f.buffer.length := by rw [hf.length]; omega
  simp [RecoveredPacketsBuffer.addPacket, setIndex, hi]

/-- The calls the receiver and the session make on the buffer. -/
inductive BufferOp where
  | addPacket (packet : RecoveredPacket)
  | getPacket

/-- A run of calls: what the `getPacket` calls return, and the buffer after them. -/
def runBuffer : RecoveredPacketsBuffer → List BufferOp →
    Except GoError (List (Option RecoveredPacket) × RecoveredPacketsBuffer)
  | f, [] => .ok ([], f)
  | f, .addPacket packet :: ops => do runBuffer (← f.addPacket packet) ops
  | f, .getPacket :: ops => do
    let (packet, f) ← f.getPacket
    let (outs, f) ← runBuffer f ops
    return (packet :: outs, f)

/-- The same calls on a queue that never drops a packet. -/
def runQueue : List RecoveredPacket → List BufferOp → List (Option RecoveredPacket) × List RecoveredPacket
  | q, [] => ([], q)
  | q, .addPacket packet :: ops => runQueue (q ++ [packet]) ops
  | q, .getPacket :: ops => (q.head? :: (runQueue q.tail ops).1, (runQueue q.tail ops).2)

/-- **The run lemma**: from a buffer holding `q`, a run that returns returns what
the queue does and holds the queue's packets, and a run that fails has indexed past
the slice. -/
theorem Holds.runBuffer {f : RecoveredPacketsBuffer} {q : List RecoveredPacket} (hf : Holds f q)
    (ops : List BufferOp) :
    (∀ outs f', runBuffer f ops = .ok (outs, f') →
      outs = (runQueue q ops).1 ∧ Holds f' (runQueue q ops).2 ∧ f'.maxSize = f.maxSize) ∧
    ∀ e, runBuffer f ops = .error e → e = .panic "index out of range" := by
  induction ops generalizing f q with
  | nil =>
    refine ⟨fun outs f' h => ?_, fun e h => by cases h⟩
    cases h
    exact ⟨rfl, hf, rfl⟩
  | cons op ops ih =>
    cases op with
    | addPacket packet =>
      by_cases hlt : f.start + f.size < f.maxSize
      · obtain ⟨f₁, h₁, hf₁, hmax₁⟩ := hf.addPacket hlt packet
        simp only [RecoveredPacketsBuffer.runBuffer, runQueue, h₁, ok_bind]
        obtain ⟨hok, herr⟩ := ih hf₁
        exact ⟨fun outs f' h => (hmax₁ ▸ hok outs f' h), herr⟩
      · -- the write goes past the end of the slice
        have hpanic := hf.addPacket_panics (Nat.le_of_not_lt hlt) packet
        refine ⟨fun outs f' h => ?_, fun e h => ?_⟩ <;>
          simp only [RecoveredPacketsBuffer.runBuffer, hpanic, error_bind] at h
        · cases h
        · cases h
          rfl
    | getPacket =>
      obtain ⟨f₁, h₁, hf₁, hmax₁⟩ := hf.getPacket
      obtain ⟨hok, herr⟩ := ih hf₁
      simp only [RecoveredPacketsBuffer.runBuffer, h₁, ok_bind]
      constructor
      · intro outs f' h
        obtain ⟨⟨outs₁, f₂⟩, hrun, h⟩ := bind_eq_ok.1 h
        cases h
        obtain ⟨rfl, hf₂, hmax₂⟩ := hok outs₁ f₂ hrun
        exact ⟨rfl, hf₂, hmax₂.trans hmax₁⟩
      · intro e h
        cases hrun : RecoveredPacketsBuffer.runBuffer f₁ ops with
        | error err =>
          rw [hrun, error_bind] at h
          cases h
          exact herr _ hrun
        | ok r => rw [hrun, ok_bind] at h; cases h

/-- **The buffer is a queue that panics where it should drop.**  From
`newRecoveredPacketsBuffer maxSize`, every run of `addPacket` and `getPacket`
calls that returns has returned what a queue that never drops a packet returns;
the next `addPacket` succeeds exactly when the last waiting packet is not in the
last slot of the slice, so in particular it panics once `maxSize` packets wait,
where a full buffer should drop its oldest; and a run that fails has indexed past
the slice. -/
theorem recoveredPacketsBuffer_queue {maxSize : Nat} (h : 0 < maxSize) (ops : List BufferOp) :
    (∀ outs f, runBuffer (newRecoveredPacketsBuffer maxSize) ops = .ok (outs, f) →
      outs = (runQueue [] ops).1 ∧ f.size = (runQueue [] ops).2.length ∧
      (∀ packet, (∃ f', f.addPacket packet = .ok f') ↔ f.start + f.size < maxSize) ∧
      ((runQueue [] ops).2.length = maxSize →
        ∀ packet, f.addPacket packet = .error (.panic "index out of range"))) ∧
    ∀ e, runBuffer (newRecoveredPacketsBuffer maxSize) ops = .error e →
      e = .panic "index out of range" := by
  obtain ⟨hok, herr⟩ := (holds_new h).runBuffer ops
  refine ⟨fun outs f hrun => ?_, herr⟩
  obtain ⟨hout, hf, hmax⟩ := hok outs f hrun
  change f.maxSize = maxSize at hmax
  refine ⟨hout, hf.size_eq, fun packet => ⟨fun ⟨f', h'⟩ => ?_, fun hlt => ?_⟩, fun hfull packet => ?_⟩
  · by_contra hge
    rw [hf.addPacket_panics (by omega) packet] at h'
    cases h'
  · obtain ⟨f', h', -⟩ := hf.addPacket (by omega) packet
    exact ⟨f', h'⟩
  · exact hf.addPacket_panics (by have := hf.size_eq; omega) packet

/-- With two slots, after a packet was added and read and a second one added, the
one waiting packet sits in the last slot, and adding a third indexes past the
slice. -/
theorem recoveredPacketsBuffer_panics_with_one_waiting :
    runBuffer (newRecoveredPacketsBuffer 2) [.addPacket ⟨0, []⟩, .getPacket, .addPacket ⟨1, []⟩] =
      .ok ([some ⟨0, []⟩], ⟨[some ⟨0, []⟩, some ⟨1, []⟩], 1, 1, 2⟩) ∧
    (runQueue [] [.addPacket ⟨0, []⟩, .getPacket, .addPacket ⟨1, []⟩]).2 = [⟨1, []⟩] ∧
    ¬ ∃ f', addPacket ⟨[some ⟨0, []⟩, some ⟨1, []⟩], 1, 1, 2⟩ ⟨2, []⟩ = .ok f' := by
  have hrun : runBuffer (newRecoveredPacketsBuffer 2)
      [.addPacket ⟨0, []⟩, .getPacket, .addPacket ⟨1, []⟩] =
      .ok ([some ⟨0, []⟩], ⟨[some ⟨0, []⟩, some ⟨1, []⟩], 1, 1, 2⟩) := rfl
  refine ⟨hrun, rfl, fun hadd => ?_⟩
  have hlt := ((((recoveredPacketsBuffer_queue (by decide) _).1 _ _ hrun).2.2.1 ⟨2, []⟩).1 hadd)
  exact absurd hlt (by decide)

end RecoveredPacketsBuffer

/-! ## The receiver -/

/-- The state of a `BlockFrameworkReceiver` beside its symbol size and scheme: its
FEC blocks, the packets it recovered, and the numbers of those it has yet to
announce. -/
structure ReceiverState where
  fecBlocksBuffer : FecBlocksBuffer
  recoveredPacketsPayloads : RecoveredPacketsBuffer
  recoveredPacketsToAnnounce : List Int

/-- The state `NewBlockFrameworkReceiver` starts from. -/
def newReceiverState : ReceiverState :=
  ⟨newFecBlocksBuffer 200, newRecoveredPacketsBuffer 100, []⟩

namespace ReceiverState

def setBlock (st : ReceiverState) (number : UInt32) (block : FECBlock) : ReceiverState :=
  { st with fecBlocksBuffer := st.fecBlocksBuffer.setBlock number block }

def deleteBlock (st : ReceiverState) (number : UInt32) : ReceiverState :=
  { st with fecBlocksBuffer := st.fecBlocksBuffer.deleteBlock number }

/-- One round of the loop of `updateStateForSomeBlock` over the recovered packets:
the packet goes into the buffer, and its number is to be announced. -/
def addRecoveredPacket (st : ReceiverState) (packet : RecoveredPacket) :
    Except GoError ReceiverState := do
  let buffer ← st.recoveredPacketsPayloads.addPacket packet
  return { st with
    recoveredPacketsPayloads := buffer
    recoveredPacketsToAnnounce := st.recoveredPacketsToAnnounce ++ [packet.number] }

end ReceiverState

section Receiver

variable (supportsUnaligned : Bool) (new : Nat → Nat → Except GoError FecSchemes.Encoder)

namespace BlockFECScheme

/-- `CanRecoverSymbols` of the scheme. -/
def canRecoverSymbols : BlockFECScheme → FECBlock → Bool
  | .xor => FecSchemes.XORFECScheme.canRecoverSymbols
  | .reedSolomon => FecSchemes.ReedSolomonFECScheme.canRecoverSymbols

/-- `RecoverSymbols` of the scheme.  `GetBlockFECScheme` makes the XOR scheme with
`dontOptimize = false`. -/
def recoverSymbols : BlockFECScheme → FECBlock →
    Except GoError (List BlockSourceSymbol × FECBlock)
  | .xor => FecSchemes.XORFECScheme.recoverSymbols supportsUnaligned ⟨false⟩
  | .reedSolomon => FecSchemes.ReedSolomonFECScheme.recoverSymbols new

end BlockFECScheme

/-- The offsets of the nil slots of a slice of source symbols, as `BlockOffset`s. -/
def nilOffsets (symbols : List (Option BlockSourceSymbol)) : List UInt8 :=
  (symbols.zipIdx.filter fun x => x.1.isNone).map fun x => UInt8.ofNat x.2

/-- The two loops of `updateStateForSomeBlock` that pad the block's slices with
nils up to the totals.  The second counts from the length of the source slice. -/
def padToTotals (block : FECBlock) : FECBlock :=
  let sourceSymbols := if block.totalNumberOfSourceSymbols > block.sourceSymbols.length then
      block.sourceSymbols ++
        List.replicate (block.totalNumberOfSourceSymbols - block.sourceSymbols.length) none
    else block.sourceSymbols
  let repairSymbols := if block.totalNumberOfRepairSymbols > block.repairSymbols.length then
      block.repairSymbols ++
        List.replicate (block.totalNumberOfRepairSymbols - sourceSymbols.length) none
    else block.repairSymbols
  { block with sourceSymbols, repairSymbols }

/-- The last test of `updateStateForSomeBlock`: a block that has all its symbols
is dropped. -/
def dropIfComplete (st : ReceiverState) (blockNumber : UInt32) (block : FECBlock) :
    ReceiverState :=
  if block.totalNumberOfSourceSymbols > 0 ∧
      block.currentNumberOfSourceSymbols = block.totalNumberOfSourceSymbols ∧
      block.repairSymbols.length = block.totalNumberOfRepairSymbols then
    st.deleteBlock blockNumber
  else st

namespace BlockFrameworkReceiver

/-- `updateStateForSomeBlock`. -/
def updateStateForSomeBlock (f : BlockFrameworkReceiver) (st : ReceiverState)
    (blockNumber : UInt32) : Except GoError ReceiverState := do
  let block ← deref (st.fecBlocksBuffer.fecBlocks.get? blockNumber)
  if block.repairSymbols.length = 0 then return st
  let block := padToTotals block
  let st := st.setBlock blockNumber block
  if f.fecScheme.canRecoverSymbols block then
    makeSlice block.totalNumberOfRepairSymbols
    let recoveredIdx := nilOffsets block.sourceSymbols
    let (recoveredSymbols, block) ← f.fecScheme.recoverSymbols supportsUnaligned new block
    let st := st.setBlock blockNumber block
    if recoveredSymbols.length = 0 then
      throw (.error "the fec scheme hasn't recovered any symbol although it indicated that it could")
    let recoveredPackets ← mergeSymbolsToPacketPayloads block.sourceSymbols recoveredIdx
    let st ← recoveredPackets.foldlM ReceiverState.addRecoveredPacket st
    return dropIfComplete (st.deleteBlock blockNumber) blockNumber block
  return dropIfComplete st blockNumber block

/-- `handleRepairSymbol`.  A block opened by a repair symbol has a repair slice of
`totalNumberOfRepairSymbols` nils (`make`, of 8-byte pointers). -/
def handleRepairSymbol (f : BlockFrameworkReceiver) (st : ReceiverState)
    (symbol : BlockRepairSymbol) (totalNumberOfSourceSymbols totalNumberOfRepairSymbols : Nat) :
    Except GoError ReceiverState := do
  let blockNumber := symbol.blockRepairID.blockSourceID.blockNumber
  let (block, ok, st) ← (match st.fecBlocksBuffer.fecBlocks.get? blockNumber with
    | some block => pure (block, true, st)
    | none => do
      makeSlice (8 * totalNumberOfRepairSymbols)
      let block : FECBlock :=
        { newFECBlock blockNumber with
          repairSymbols := List.replicate totalNumberOfRepairSymbols none }
      let buffer ← st.fecBlocksBuffer.addFECBlock block
      pure (block, false, { st with fecBlocksBuffer := buffer }))
  let block := { block with totalNumberOfSourceSymbols, totalNumberOfRepairSymbols }
  let block ← block.setRepairSymbol symbol
  let st := st.setBlock blockNumber block
  -- recover packet if possible, remove useless buffers
  if ok ∨ totalNumberOfSourceSymbols = 1 then f.updateStateForSomeBlock supportsUnaligned new st blockNumber
  else return st

/-- `handleBlockSourceSymbol`: a block it does not hold yet is made with the symbol
in it, and the symbol is then set into the block the buffer holds. -/
def handleBlockSourceSymbol (f : BlockFrameworkReceiver) (st : ReceiverState)
    (symbol : BlockSourceSymbol) (id : BlockSourceID) : Except GoError ReceiverState := do
  let fecBlockNumber := id.blockNumber
  let st ← (match st.fecBlocksBuffer.fecBlocks.get? fecBlockNumber with
    | some _ => pure st
    | none => do
      let block ← (newFECBlock fecBlockNumber).setSourceSymbol symbol id
      let buffer ← st.fecBlocksBuffer.addFECBlock block
      pure { st with fecBlocksBuffer := buffer })
  let buffer ← st.fecBlocksBuffer.setSourceSymbolInFECBlock symbol id
  f.updateStateForSomeBlock supportsUnaligned new { st with fecBlocksBuffer := buffer } fecBlockNumber

/-- The loop of `ReceivePayload` over the symbols of a payload, from the identifier
of the first.  The identifier is moved on after each symbol, the last included. -/
def receiveSymbols (f : BlockFrameworkReceiver) :
    ReceiverState → BlockSourceID → List BlockSourceSymbol → Except GoError ReceiverState
  | st, _, [] => .ok st
  | st, id, symbol :: symbols => do
    let st ← f.handleBlockSourceSymbol supportsUnaligned new st symbol id
    let id ← id.nextOffset
    f.receiveSymbols st id symbols

/-- `ReceivePayload`: the payload cut into symbols, numbered from the FEC source
payload ID of the packet.  A `nil` payload is an empty one. -/
def receivePayload (f : BlockFrameworkReceiver) (st : ReceiverState) (payload : Bytes)
    (sourceID : Vector UInt8 4) : Except GoError ReceiverState := do
  if payload.length = 0 then throw (.error "receiver framework received an empty payload")
  let baseSourceID ← newBlockSourceID sourceID
  let symbols ← payloadToSourceSymbols payload f.e true
  f.receiveSymbols supportsUnaligned new st baseSourceID symbols

/-- The loop of `HandleRepairFrame` over the frame's symbols, `E` bytes each, the
last one zero-filled, while bytes are left.  The error of `NextOffset` is dropped,
and `NextOffset` then returns the identifier unchanged.  Each round reads at least
one byte, since `E` is positive once the metadata is read (`getRepairFrameMetadata`
divides by it): as many rounds as bytes are enough. -/
def handleRepairFrameLoop (f : BlockFrameworkReceiver) (nss nrs : Nat) :
    Nat → ReceiverState → BlockRepairID → Bool → Bytes → Except GoError ReceiverState
  | 0, st, _, _, _ => .ok st
  | fuel + 1, st, repairID, first, r =>
    if r.length = 0 then .ok st else do
    let repairID := if first then repairID
      else { repairID with
        blockSourceID := repairID.blockSourceID.nextOffset.toOption.getD repairID.blockSourceID }
    let (data, r) ← readInto f.e r
    let st ← f.handleRepairSymbol supportsUnaligned new st ⟨repairID, data⟩ nss nrs
    f.handleRepairFrameLoop nss nrs fuel st repairID false r

/-- `HandleRepairFrame`. -/
def handleRepairFrame (f : BlockFrameworkReceiver) (st : ReceiverState) (frame : RepairFrame) :
    Except GoError ReceiverState := do
  let (nss, nrs, repairID, _) ← fecFramesParserI.getRepairFrameMetadata f.e frame
  f.handleRepairFrameLoop supportsUnaligned new nss nrs frame.repairSymbols.length st repairID true
    frame.repairSymbols

end BlockFrameworkReceiver

end Receiver

/-- `GetRecoveredPacket`. -/
def ReceiverState.getRecoveredPacket (st : ReceiverState) :
    Except GoError (Option RecoveredPacket × ReceiverState) := do
  let (packet, buffer) ← st.recoveredPacketsPayloads.getPacket
  return (packet, { st with recoveredPacketsPayloads := buffer })

/-- `GetRecoveredFrame`: a RECOVERED frame announcing as many of the recovered
packets as fit, which are then no longer to announce. -/
def ReceiverState.getRecoveredFrame (st : ReceiverState) (maxSize : Nat) :
    Except GoError (Option RecoveredFrame × ReceiverState) := do
  let (frame, nPackets) ←
    fecFramesParserI.getRecoveredFrame st.recoveredPacketsToAnnounce maxSize
  let recoveredPacketsToAnnounce ← sliceFrom st.recoveredPacketsToAnnounce nPackets
  return (frame, { st with recoveredPacketsToAnnounce })

end QuicFec

namespace QuicFec
open GoBytes

namespace FecBlocksBuffer

/-- `addFECBlock` on a buffer that is not full. -/
theorem addFECBlock_of_ne {b : FecBlocksBuffer} (h : b.size ≠ b.maxSize) (block : FECBlock) :
    b.addFECBlock block = .ok { b with
      queue := if b.size = 0 then [block.blockNumber] else b.queue ++ [block.blockNumber]
      fecBlocks := b.fecBlocks.insert block.blockNumber block
      size := b.size + 1 } := by
  simp [addFECBlock, h]

end FecBlocksBuffer

/-! ## The block once its symbols have arrived -/

/-- **The padding once the symbols have arrived.**  A block that holds the source
symbols of `ss` but the `j`-th and the repair symbols of `rs` at their indices, in
slices no longer than the totals of the block they come from, is padded by
`updateStateForSomeBlock` into a block that holds all but the `j`-th. -/
theorem FECBlock.Holds.holdsAllBut_padToTotals {b : FECBlock} {ss : List BlockSourceSymbol} {j : Nat}
    {rs : List BlockRepairSymbol} {WS : List (BlockSourceSymbol × Nat)} {WR : List (BlockRepairSymbol × Nat)}
    (hb : b.Holds WS WR) (hWS : WS.Perm (ss.zipIdx.eraseIdx j)) (hWR : WR.Perm rs.zipIdx)
    (hslen : b.sourceSymbols.length ≤ ss.length) (hrlen : b.repairSymbols.length ≤ rs.length)
    (hts : b.totalNumberOfSourceSymbols = ss.length) (htr : b.totalNumberOfRepairSymbols = rs.length) :
    (padToTotals b).HoldsAllBut ss j rs := by
  -- every index of `rs` is an offset the repair slice holds, so it is full
  have hrfull : b.repairSymbols.length = rs.length := by
    refine le_antisymm hrlen (Nat.le_of_not_lt fun hlt => ?_)
    have hmem : (rs[b.repairSymbols.length], b.repairSymbols.length) ∈ WR :=
      hWR.mem_iff.2 (List.mk_mem_zipIdx_iff_getElem?.2 (List.getElem?_eq_getElem hlt))
    exact Nat.lt_irrefl _ (hb.repair.lt _ hmem)
  have hsrc : (padToTotals b).sourceSymbols =
      b.sourceSymbols ++ List.replicate (ss.length - b.sourceSymbols.length) none := by
    simp only [padToTotals, hts]
    split_ifs with hgt
    · rfl
    · rw [show ss.length - b.sourceSymbols.length = 0 by omega, List.replicate_zero, List.append_nil]
  have hrep : (padToTotals b).repairSymbols = b.repairSymbols := by
    simp only [padToTotals, htr, hrfull, lt_irrefl, if_false]
  have hpad := hb.source.append_replicate (ss.length - b.sourceSymbols.length)
  have hpadlen : (b.sourceSymbols ++ List.replicate (ss.length - b.sourceSymbols.length) none).length =
      ss.length := by
    simp only [List.length_append, List.length_replicate]
    omega
  have hWR' : WR.Perm (rs.zipIdx.eraseIdx rs.length) := by
    rwa [List.eraseIdx_of_length_le (by rw [List.length_zipIdx])]
  refine ⟨?_, ?_, ?_, ?_, hts, htr⟩
  · rw [hsrc, hpad.eq, hpadlen, slotsOf_zipIdx_eraseIdx hWS]
  · -- the map names the offsets of the symbols held, each under the block's number
    refine hb.sourceOffsets.trans ((hWS.map _).trans ?_)
    rw [← List.eraseIdx_map, FECBlock.offsetsUpTo, List.range_eq_range', ← List.zipIdx_map_snd 0 ss,
      List.map_map]
    rfl
  · rw [hrep, hb.repair.eq, hrfull, slotsOf_zipIdx_eraseIdx hWR',
      List.set_eq_of_length_le (by rw [List.length_map])]
  · show b.repairSymbolsOffsets.entries.length = rs.length
    rw [← List.length_map Prod.fst, hb.repairOffsets.length_eq, List.length_map, hWR.length_eq,
      List.length_zipIdx]

/-- **What the receiver's block holds once the symbols have arrived.**  The
receiver opens a block of number `bn` with an empty source slice and a repair slice
of at most as many nils as the block has repair symbols, with the totals of the
block whose source symbols are `ss` and whose repair symbols are `rs`, each repair
symbol at its index.  `SetSourceSymbol` for every source symbol but the `j`-th, at
its index, in any order, then `SetRepairSymbols` for the repair symbols in any
order, succeed, and the padding of `updateStateForSomeBlock` then leaves a block
that holds all but the `j`-th source symbol. -/
theorem holdsAllBut_of_setSymbols {bn : UInt32} {n' : Nat} {ss : List BlockSourceSymbol} {j : Nat}
    {rs : List BlockRepairSymbol} {xs : List (BlockSourceSymbol × BlockSourceID)}
    {ys : List BlockRepairSymbol} (hk : ss.length ≤ 255) (hm : rs.length ≤ 255) (hn' : n' ≤ rs.length)
    (hxs : (xs.map fun x => (x.1, x.2.blockOffset.toNat)).Perm (ss.zipIdx.eraseIdx j))
    (hbn : ∀ x ∈ xs, x.2.blockNumber = bn) (hys : ys.Perm rs)
    (hrs : ∀ (i : Nat) (h : i < rs.length), rs[i].blockRepairID.blockSourceID.blockOffset.toNat = i)
    (hrid : (rs.map (·.blockRepairID)).Nodup) :
    ∃ b, (xs.foldlM (fun b x => b.setSourceSymbol x.1 x.2)
          { newFECBlock bn with
            repairSymbols := List.replicate n' none
            totalNumberOfSourceSymbols := ss.length
            totalNumberOfRepairSymbols := rs.length } >>=
        fun b => b.setRepairSymbols ys) = .ok b ∧
      (padToTotals b).HoldsAllBut ss j rs := by
  have h₀ : FECBlock.Holds
      { newFECBlock bn with
        repairSymbols := List.replicate n' none
        totalNumberOfSourceSymbols := ss.length
        totalNumberOfRepairSymbols := rs.length } [] [] :=
    FECBlock.holds_open (n := 0) rfl rfl (by decide) (by omega) rfl rfl
  have hxlt : ∀ x ∈ xs, x.2.blockOffset.toNat < ss.length := fun x hx => by
    simpa using List.snd_lt_of_mem_zipIdx
      ((List.eraseIdx_sublist _ _).subset (hxs.mem_iff.1 (List.mem_map_of_mem hx)))
  have hxnd : (xs.map (·.2.blockOffset.toNat)).Nodup := by
    have h := (hxs.map Prod.snd).nodup_iff.2
      (((List.eraseIdx_sublist _ _).map _).nodup (List.nodup_zipIdx_map_snd ss))
    rw [List.map_map] at h
    exact h
  obtain ⟨s₁, m₁, h₁, hb₁, hlen₁⟩ := FECBlock.Holds.setSourceSymbols hk h₀ (by simp [newFECBlock])
    (fun x hx => ⟨hbn x hx, hxlt x hx⟩) (by simpa using hxnd)
  have hoffsets : rs.map (fun y => (y, y.blockRepairID.blockSourceID.blockOffset.toNat)) = rs.zipIdx := by
    apply List.ext_getElem (by simp)
    intro i h1 h2
    simp [List.getElem_zipIdx, hrs]
  have hrnd : (rs.map (·.blockRepairID.blockSourceID.blockOffset.toNat)).Nodup := by
    have h := List.nodup_zipIdx_map_snd rs
    rw [← hoffsets, List.map_map] at h
    exact h
  have hylt : ∀ y ∈ ys, y.blockRepairID.blockSourceID.blockOffset.toNat < rs.length := by
    intro y hy
    obtain ⟨i, hi, rfl⟩ := List.mem_iff_getElem.1 (hys.mem_iff.1 hy)
    rw [hrs i hi]
    exact hi
  obtain ⟨s₂, m₂, h₂, hb₂, hlen₂⟩ := hb₁.setRepairSymbols hm (by simpa using hn') hylt
    (by simpa using (hys.map _).nodup_iff.2 hrnd) (by simpa using (hys.map _).nodup_iff.2 hrid)
  refine ⟨_, by rw [h₁, ok_bind]; exact h₂, hb₂.holdsAllBut_padToTotals ?_ ?_ hlen₁ hlen₂ rfl rfl⟩
  · rw [List.append_nil]
    exact (List.reverse_perm _).trans hxs
  · rw [List.append_nil, ← hoffsets]
    exact (List.reverse_perm _).trans (hys.map _)

section Bug

variable {supportsUnaligned : Bool} {new : Nat → Nat → Except GoError FecSchemes.Encoder}

/-- When the scheme says it can recover a block, an error of its `RecoverSymbols`
is the error of `updateStateForSomeBlock`. -/
theorem updateStateForSomeBlock_of_recoverSymbols_error {f : BlockFrameworkReceiver}
    {st : ReceiverState} {blockNumber : UInt32} {block : FECBlock} {e : GoError}
    (hne : block.repairSymbols ≠ [])
    (hcan : f.fecScheme.canRecoverSymbols (padToTotals block) = true)
    (hslice : block.totalNumberOfRepairSymbols ≤ maxAlloc)
    (hrec : f.fecScheme.recoverSymbols supportsUnaligned new (padToTotals block) = .error e) :
    f.updateStateForSomeBlock supportsUnaligned new (st.setBlock blockNumber block) blockNumber =
      .error e := by
  have hget : (st.setBlock blockNumber block).fecBlocksBuffer.fecBlocks.get? blockNumber = some block := by
    simp [ReceiverState.setBlock, FecBlocksBuffer.setBlock, GoMap.get?_insert]
  have hlen : block.repairSymbols.length ≠ 0 := fun h => hne (List.eq_nil_of_length_eq_zero h)
  unfold BlockFrameworkReceiver.updateStateForSomeBlock
  simp only [hget, deref_some, ok_bind, hlen, if_false, hcan, if_true]
  rw [makeSlice_of_le (by simpa [padToTotals] using hslice), ok_bind, hrec, error_bind]

/-- A repair symbol that opens a block of one source symbol, at an offset past the
first, leaves the first repair slot empty; the block then passes the Reed-Solomon
scheme's `CanRecoverSymbols`, and its `RecoverSymbols` dereferences that slot. -/
theorem handleRepairSymbol_missing_first_slot {f : BlockFrameworkReceiver}
    (hf : f.fecScheme = .reedSolomon) {st : ReceiverState} {symbol : BlockRepairSymbol}
    {nrs : Nat} {enc : FecSchemes.Encoder}
    (hfresh : st.fecBlocksBuffer.fecBlocks.get? symbol.blockRepairID.blockSourceID.blockNumber = none)
    (hroom : st.fecBlocksBuffer.size ≠ st.fecBlocksBuffer.maxSize)
    (hoff : 0 < symbol.blockRepairID.blockSourceID.blockOffset.toNat)
    (hlt : symbol.blockRepairID.blockSourceID.blockOffset.toNat < nrs) (hnrs : nrs < 256)
    (hnew : new 1 nrs = .ok enc) :
    f.handleRepairSymbol supportsUnaligned new st symbol 1 nrs = .error GoBytes.nilDereference := by
  have hlen : (List.replicate nrs (none : Option BlockRepairSymbol)).length < 256 := by
    simpa using hnrs
  have h255 : symbol.blockRepairID.blockSourceID.blockOffset.toNat < 255 ∨
      0 < (List.replicate nrs (none : Option BlockRepairSymbol)).length := Or.inr (by simp; omega)
  have hgrow : symbol.blockRepairID.blockSourceID.blockOffset.toNat + 1 - nrs = 0 := by omega
  unfold BlockFrameworkReceiver.handleRepairSymbol
  simp only [hfresh, makeSlice_of_le (show 8 * nrs ≤ maxAlloc by unfold maxAlloc; omega), ok_bind,
    FecBlocksBuffer.addFECBlock_of_ne hroom, pure_eq_ok, FECBlock.setRepairSymbol,
    FECBlock.setSymbol_eq hlen h255, List.length_replicate, hgrow, List.replicate_zero,
    List.append_nil, newFECBlock, Bool.false_eq_true, false_or, ↓reduceIte]
  -- the block has one repair symbol of its `nrs`, and its one source symbol is missing
  apply updateStateForSomeBlock_of_recoverSymbols_error
  · rw [Ne, ← List.length_eq_zero_iff, List.length_set, List.length_replicate]
    omega
  · rw [hf]
    simp [BlockFECScheme.canRecoverSymbols, FecSchemes.ReedSolomonFECScheme.canRecoverSymbols,
      padToTotals, FECBlock.currentNumberOfRepairSymbols, FECBlock.currentNumberOfSourceSymbols,
      GoMap.len, GoMap.insert, GoMap.delete, GoMap.empty]
  · show nrs ≤ maxAlloc
    unfold maxAlloc
    omega
  · -- the first repair slot is empty, and the Reed-Solomon scheme dereferences it
    rw [hf, BlockFECScheme.recoverSymbols]
    refine FecSchemes.ReedSolomonFECScheme.recoverSymbols_first_repair_nil new ?_ ?_ ?_ ?_ hnew
    · simp only [padToTotals, List.length_set, List.length_replicate, Nat.lt_irrefl, if_false]
      rw [List.getElem?_set_ne (by omega), List.getElem?_replicate_of_lt (by omega)]
    · simp [padToTotals]
    · simp only [padToTotals]
      omega
    · simp only [padToTotals]
      omega

/-- **The receiver dereferences an empty repair slot.**  Of the two repair symbols
the Reed-Solomon scheme makes for a block of one source symbol, the second alone
reaching a fresh receiver makes it panic, whatever the encoder computes. -/
theorem handleRepairSymbol_second_repair_symbol_only {E : Nat} {sb : FECBlock}
    {rs : List BlockRepairSymbol} {enc : FecSchemes.Encoder}
    (hrs : FecSchemes.ReedSolomonFECScheme.getRepairSymbols new sb 2 = .ok rs)
    (hm : 1 < rs.length) (hnew : new 1 2 = .ok enc) :
    BlockFrameworkReceiver.handleRepairSymbol supportsUnaligned new ⟨E, .reedSolomon⟩
      newReceiverState rs[1] 1 2 = .error GoBytes.nilDereference := by
  have hid := FecSchemes.ReedSolomonFECScheme.getRepairSymbols_id new hrs hm
  apply handleRepairSymbol_missing_first_slot rfl (by rfl) (by decide) _ _ (by decide) hnew
  · rw [hid]
    show 0 < (UInt8.ofNat 1).toNat
    decide
  · rw [hid]
    show (UInt8.ofNat 1).toNat < 2
    decide

/-- The second repair symbol of a block of one two-byte source symbol, made by an
encoder that hands the shards back as they are. -/
theorem handleRepairSymbol_second_repair_symbol_only_copy :
    BlockFrameworkReceiver.handleRepairSymbol false (fun _ _ => .ok ⟨.ok, .ok⟩) ⟨8, .reedSolomon⟩
      newReceiverState ⟨⟨Vector.replicate 4 0, ⟨3, 1⟩⟩, [0, 0]⟩ 1 2 = .error GoBytes.nilDereference := by
  have hrs : FecSchemes.ReedSolomonFECScheme.getRepairSymbols (fun _ _ => .ok ⟨.ok, .ok⟩)
      ⟨3, [], [some ⟨[1, 2], 1, [2]⟩], GoMap.empty, GoMap.empty, 1, 1⟩ 2 =
        .ok [⟨⟨Vector.replicate 4 0, ⟨3, 0⟩⟩, [0, 0]⟩, ⟨⟨Vector.replicate 4 0, ⟨3, 1⟩⟩, [0, 0]⟩] := by
    decide
  exact handleRepairSymbol_second_repair_symbol_only hrs (by decide) rfl

end Bug

end QuicFec
