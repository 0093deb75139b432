import QuicFec.FrameworkSender
import QuicFec.RepairFrame

/-! # Sending the queued repair symbols

`GetRepairFrame` and `FlushUnprotectedSymbols` of `BlockFrameworkSender`
(`internal/fec/block/framework_sender.go`).  A block the sender is done with is
queued in `BlocksToSend` with its repair symbols.  `GetRepairFrame` skips the
blocks at the head of the queue that have none, asks the frames parser for a
REPAIR frame of the first symbols of the next one (`getRepairFrame`), removes the
symbols the frame carries from that block, and drops the block once it is empty.
`FlushUnprotectedSymbols` makes the repair symbols of the current block and
queues it, whatever it holds.

**What the frames carry.**  The receiver reads a frame's symbols with its metadata
(`frameRepairSymbols`): the `i`-th has the frame's block number and first offset
plus `i`, and the `i`-th run of `e` bytes.  A repair symbol reaches it as
`BlockRepairSymbol.announced`, with its block number modulo `2^24`.

**Runs.**  `Sends` is every run of the three calls from a sender, with the repair
symbols its calls queued and those its frames carried.  The invariant `QueueInv`
says that the frames carried, in order, the first of the queued symbols, each
once, and that the others wait in the queue.  It needs the scheme to make symbols
a frame can carry (`SendableRepairSymbols`: numbered from 0 in their block, fewer
than 256, of the symbol size), and holds along every run (`Sends.queueInv`).

Main results:

* `frameRepairSymbols_getRepairFrame`: a frame gives back the symbols it took;
* `GetRepairFrame_some`, `GetRepairFrame_none`: one call moves the symbols of its
  frame from the head of the queue, and a call without a frame moves none;
* `Sends.queueInv`: every run keeps the invariant;
* `GetRepairFrame_panics`: a queue of blocks without repair symbols makes the
  skipping loop read past its end, and the Reed-Solomon scheme queues such a
  block when a sender with an empty current block is flushed
  (`reedSolomon_FlushUnprotectedSymbols_empty`).
-/

namespace QuicFec
open GoBytes FecSchemes

/-- A repair symbol as a REPAIR frame announces it: its block number modulo `2^24`,
its offset, and its data. -/
def BlockRepairSymbol.announced (s : BlockRepairSymbol) : BlockSourceID × Bytes :=
  (⟨UInt32.ofNat (s.blockRepairID.blockSourceID.blockNumber.toNat % 2 ^ 24),
    s.blockRepairID.blockSourceID.blockOffset⟩, s.data)

/-- The repair symbols of a REPAIR frame as its metadata announces them: the `i`-th
has the frame's block number and its first offset plus `i`, and is the `i`-th run
of `e` bytes of the frame's symbols. -/
def frameRepairSymbols (e : Nat) (rf : RepairFrame) :
    Except GoError (List (BlockSourceID × Bytes)) := do
  let (_, _, repairID, nSymbols) ← fecFramesParserI.getRepairFrameMetadata e rf
  return (List.range nSymbols).map fun i =>
    (⟨repairID.blockSourceID.blockNumber, repairID.blockSourceID.blockOffset + UInt8.ofNat i⟩,
      (rf.repairSymbols.drop (i * e)).take e)

/-- Repair symbols numbered one after another within one block. -/
def Numbered (symbols : List BlockRepairSymbol) : Prop :=
  ∀ i (hi : i < symbols.length), symbols[i].blockRepairID.blockSourceID =
    ⟨symbols[0].blockRepairID.blockSourceID.blockNumber,
      symbols[0].blockRepairID.blockSourceID.blockOffset + UInt8.ofNat i⟩

theorem Numbered.drop {symbols : List BlockRepairSymbol} (h : Numbered symbols) (k : Nat) :
    Numbered (symbols.drop k) := by
  intro i hi
  rw [List.length_drop] at hi
  simp only [List.getElem_drop, Nat.add_zero]
  rw [h (k + i) (by omega), h k (by omega), UInt8.ofNat_add, UInt8.add_assoc]

/-- The `i`-th run of `e` bytes of symbols of `e` bytes each is the `i`-th symbol. -/
theorem flatten_data_chunk {e : Nat} :
    ∀ {l : List BlockRepairSymbol}, (∀ s ∈ l, s.data.length = e) → ∀ {i : Nat} (hi : i < l.length),
      (((l.map (·.data)).flatten.drop (i * e)).take e) = l[i].data
  | [], _, _, hi => absurd hi (Nat.not_lt_zero _)
  | s :: l, hl, 0, _ => by
    simp [List.take_left' (hl s List.mem_cons_self)]
  | s :: l, hl, i + 1, hi => by
    have hs : (i + 1) * e = s.data.length + i * e := by
      rw [hl s List.mem_cons_self, Nat.succ_mul, Nat.add_comm]
    simp only [List.map_cons, List.flatten_cons, hs, List.drop_append,
      List.drop_eq_nil_of_le (Nat.le_add_right _ _), List.nil_append, Nat.add_sub_cancel_left,
      List.getElem_cons_succ]
    exact flatten_data_chunk (fun t ht => hl t (List.mem_cons_of_mem s ht))
      (by simp at hi; omega)

/-- **What a REPAIR frame that `getRepairFrame` made carries.**  Read with its
metadata, the frame gives back, in order, the repair symbols it took from the
head of a block of numbered `e`-byte symbols, each with its block number modulo
`2^24`. -/
theorem frameRepairSymbols_getRepairFrame {e maxSize n : Nat} {block : FECBlock}
    {symbols : List BlockRepairSymbol} {rf : RepairFrame} (he : 0 < e) (hmax : maxSize < 2 ^ 64)
    (hsyms : block.repairSymbols = symbols.map some) (hne : symbols ≠ []) (hnum : Numbered symbols)
    (hlen : ∀ s ∈ symbols, s.data.length = e)
    (h : fecFramesParserI.getRepairFrame e block maxSize = .ok (some rf, n)) :
    frameRepairSymbols e rf = .ok ((symbols.take n).map BlockRepairSymbol.announced) := by
  obtain ⟨hnss, hnrs, hnmax, -, hnlen, hbudget, hmd, hrs⟩ :=
    fecFramesParserI.getRepairFrame_spec he hsyms hne hlen h
  have hlen' : ∀ s ∈ symbols.take n, s.data.length = e := fun s hs => hlen s (List.mem_of_mem_take hs)
  have hD : rf.repairSymbols.length = n * e := by
    rw [hrs, fecFramesParserI.length_flatten_data hlen', List.length_take, Nat.min_eq_left hnlen]
  have hlt : n * e < 2 ^ 64 := by
    rw [Nat.succ_mul] at hbudget
    omega
  rw [frameRepairSymbols, fecFramesParserI.getRepairFrameMetadata_write he hnss hnrs hnmax hmd hD hlt,
    ok_bind]
  dsimp only
  rw [pure_eq_ok]
  congr 1
  apply List.ext_getElem (by simp; omega)
  intro i h₁ h₂
  have hi : i < n := by simpa using h₁
  have hid := hnum i (by omega)
  have hchunk := flatten_data_chunk hlen' (i := i) (by simp; omega)
  rw [← hrs, List.getElem_take] at hchunk
  simp only [List.getElem_map, List.getElem_range, List.getElem_take, List.head_eq_getElem,
    BlockRepairSymbol.announced, hid, hchunk]


/-- A `getRepairFrame` that returns no frame consumed no symbol. -/
theorem getRepairFrame_none {e maxSize c : Nat} {block : FECBlock}
    (h : fecFramesParserI.getRepairFrame e block maxSize = .ok (none, c)) : c = 0 := by
  unfold fecFramesParserI.getRepairFrame at h
  simp -zeta only [bind, Except.bind, pure, Except.pure] at h
  split_ifs at h
  · cases h; rfl
  · -- every other way out is an error or a frame
    dsimp only at h
    repeat' split at h
    all_goals simp only [reduceCtorEq, Except.ok.injEq, Prod.mk.injEq, false_and, true_and] at h
    exact h.symm


namespace BlockFrameworkSender

/-! ## The calls -/

/-- The loop of `GetRepairFrame` that skips the queued blocks without repair
symbols.  It reads `BlocksToSend[0]` before every round, also once it has skipped
the whole queue. -/
def skipEmptyBlocks : List FECBlock → Except GoError (List FECBlock)
  | [] => .error (.panic "index out of range")
  | block :: blocks =>
    if block.repairSymbols.length = 0 then skipEmptyBlocks blocks else .ok (block :: blocks)

/-- `GetRepairFrame`, with the frames parser `CreateFrameworkSenderFromFECSchemeID`
gives the sender, of the sender's symbol size: the sender after the call, and the
frame (`none` for Go's `nil`).  The head block loses the symbols the frame
carries, and leaves the queue once it has none.  A panic ends the program, so
the sender it leaves is not used. -/
def GetRepairFrame (f : BlockFrameworkSender) (maxSize : Nat) :
    BlockFrameworkSender × Except GoError (Option RepairFrame) :=
  if f.BlocksToSend.length = 0 then (f, .ok none) else
  match skipEmptyBlocks f.BlocksToSend with
  | .error err => (f, .error err)
  | .ok [] => ({ f with BlocksToSend := [] }, .ok none)
  | .ok (block :: blocks) =>
    match fecFramesParserI.getRepairFrame f.e block maxSize with
    | .error err => ({ f with BlocksToSend := block :: blocks }, .error err)
    | .ok (rf, consumed) =>
      match sliceFrom block.repairSymbols consumed with
      | .error err => ({ f with BlocksToSend := block :: blocks }, .error err)
      | .ok repairSymbols =>
        let block := { block with repairSymbols }
        -- if the fecBlock has been emptied by the parser, remove it
        ({ f with BlocksToSend := if block.repairSymbols.length = 0 then blocks else block :: blocks },
          .ok rf)

section Flush

variable (GetRepairSymbols : FECBlock → Nat → Except GoError (List BlockRepairSymbol))
  (rc : RedundancyController)

/-- `FlushUnprotectedSymbols`: the current block gets its repair symbols and is
queued, whatever it holds. -/
def FlushUnprotectedSymbols (f : BlockFrameworkSender) : BlockFrameworkSender × Except GoError Unit :=
  match GenerateRepairSymbols GetRepairSymbols f.currentBlock
      (rc.GetNumberOfRepairSymbols f.nSourceSymbolsSinceLastRepair) with
  | .error err => (f, .error err)
  | .ok block => (sendCurrentBlock { f with currentBlock := block }, .ok ())

end Flush

/-! ## The queue -/

/-- The repair symbols waiting to be sent, block after block. -/
def pendingRepairSymbols (f : BlockFrameworkSender) : List (Option BlockRepairSymbol) :=
  (f.BlocksToSend.map (·.repairSymbols)).flatten

/-- A queued block whose repair symbols REPAIR frames of symbol size `e` carry as
they are: all there, numbered one after another, and `e` bytes each. -/
def SendableBlock (e : Nat) (block : FECBlock) : Prop :=
  ∃ symbols : List BlockRepairSymbol, block.repairSymbols = symbols.map some ∧ Numbered symbols ∧
    ∀ s ∈ symbols, s.data.length = e

/-- What the skipping loop leaves: a block with repair symbols at the head of a
part of the queue, holding all the queue's repair symbols. -/
theorem skipEmptyBlocks_ok : ∀ {blocks blocks' : List FECBlock},
    skipEmptyBlocks blocks = .ok blocks' →
    ∃ block rest, blocks' = block :: rest ∧ block.repairSymbols ≠ [] ∧ blocks' <:+ blocks ∧
      (blocks'.map (·.repairSymbols)).flatten = (blocks.map (·.repairSymbols)).flatten
  | [], _, h => nomatch h
  | block :: blocks, blocks', h => by
    unfold skipEmptyBlocks at h
    split at h
    case isTrue h0 =>
      -- the head is skipped: it holds nothing
      obtain ⟨b, rest, rfl, hne, hsuf, hflat⟩ := skipEmptyBlocks_ok h
      refine ⟨b, rest, rfl, hne, hsuf.trans (List.suffix_cons _ _), ?_⟩
      rw [hflat, List.map_cons, List.flatten_cons, List.eq_nil_of_length_eq_zero h0, List.nil_append]
    case isFalse h0 =>
      cases h
      exact ⟨block, blocks, rfl, fun h' => h0 (by simp [h']), List.suffix_refl _, rfl⟩

/-- A queue of blocks without repair symbols runs the loop off its end. -/
theorem skipEmptyBlocks_of_empty : ∀ {blocks : List FECBlock},
    (∀ b ∈ blocks, b.repairSymbols = []) → skipEmptyBlocks blocks = .error (.panic "index out of range")
  | [], _ => rfl
  | block :: blocks, h => by
    rw [skipEmptyBlocks, if_pos (by simp [h block List.mem_cons_self])]
    exact skipEmptyBlocks_of_empty fun b hb => h b (List.mem_cons_of_mem block hb)

/-! ## One `GetRepairFrame` -/

section GetRepairFrame

variable {f f' : BlockFrameworkSender} {maxSize : Nat}

/-- `GetRepairFrame` once the loop found a block with repair symbols. -/
theorem GetRepairFrame_of_skip {block : FECBlock} {blocks : List FECBlock}
    (hs : skipEmptyBlocks f.BlocksToSend = .ok (block :: blocks)) :
    f.GetRepairFrame maxSize =
      match fecFramesParserI.getRepairFrame f.e block maxSize with
      | .error err => ({ f with BlocksToSend := block :: blocks }, .error err)
      | .ok (rf, consumed) =>
        match sliceFrom block.repairSymbols consumed with
        | .error err => ({ f with BlocksToSend := block :: blocks }, .error err)
        | .ok repairSymbols =>
          ({ f with BlocksToSend :=
              if repairSymbols.length = 0 then blocks else { block with repairSymbols } :: blocks },
            .ok rf) := by
  have h0 : f.BlocksToSend.length ≠ 0 := by
    intro h0
    rw [List.eq_nil_of_length_eq_zero h0] at hs
    cases hs
  rw [GetRepairFrame, if_neg h0, hs]

/-- **A call that returns no frame** leaves the queue's repair symbols as they
were, and keeps part of its blocks. -/
theorem GetRepairFrame_none (h : f.GetRepairFrame maxSize = (f', .ok none)) :
    f'.e = f.e ∧ f'.currentBlock = f.currentBlock ∧ f'.BlocksToSend <:+ f.BlocksToSend ∧
      pendingRepairSymbols f' = pendingRepairSymbols f := by
  by_cases h0 : f.BlocksToSend.length = 0
  · rw [GetRepairFrame, if_pos h0, Prod.mk.injEq] at h
    obtain ⟨rfl, -⟩ := h
    exact ⟨rfl, rfl, List.suffix_refl _, rfl⟩
  cases hs : skipEmptyBlocks f.BlocksToSend with
  | error err =>
    rw [GetRepairFrame, if_neg h0, hs, Prod.mk.injEq] at h
    cases h.2
  | ok blocks' =>
    obtain ⟨block, blocks, rfl, hne, hsuf, hflat⟩ := skipEmptyBlocks_ok hs
    rw [GetRepairFrame_of_skip hs] at h
    -- no frame: nothing was consumed, and the head block stays
    split at h
    · cases (Prod.mk.injEq _ _ _ _ ▸ h).2
    · rename_i rf consumed hgrf
      split at h
      · cases (Prod.mk.injEq _ _ _ _ ▸ h).2
      · rename_i kept hslice
        rw [Prod.mk.injEq] at h
        obtain ⟨rfl, h⟩ := h
        cases h
        rw [getRepairFrame_none hgrf, sliceFrom_eq_ok, List.drop_zero] at hslice
        obtain ⟨-, rfl⟩ := hslice
        have hlen : block.repairSymbols.length ≠ 0 := by simpa using hne
        rw [if_neg hlen]
        exact ⟨rfl, rfl, hsuf, hflat⟩

/-- **A call that returns a frame** takes the symbols it carries from the head of
the queue: at least one, and the frame, read with its metadata, gives them back in
order with their block numbers modulo `2^24`.  The queue keeps its other symbols,
and its blocks stay sendable. -/
theorem GetRepairFrame_some {rf : RepairFrame} (he : 0 < f.e) (hmax : maxSize < 2 ^ 64)
    (hq : ∀ b ∈ f.BlocksToSend, SendableBlock f.e b)
    (h : f.GetRepairFrame maxSize = (f', .ok (some rf))) :
    f'.e = f.e ∧ f'.currentBlock = f.currentBlock ∧ (∀ b ∈ f'.BlocksToSend, SendableBlock f.e b) ∧
      ∃ symbols : List BlockRepairSymbol, symbols ≠ [] ∧
        pendingRepairSymbols f = symbols.map some ++ pendingRepairSymbols f' ∧
        frameRepairSymbols f.e rf = .ok (symbols.map BlockRepairSymbol.announced) := by
  by_cases h0 : f.BlocksToSend.length = 0
  · rw [GetRepairFrame, if_pos h0, Prod.mk.injEq] at h
    cases h.2
  cases hs : skipEmptyBlocks f.BlocksToSend with
  | error err =>
    rw [GetRepairFrame, if_neg h0, hs, Prod.mk.injEq] at h
    cases h.2
  | ok blocks' =>
    obtain ⟨block, blocks, rfl, hne, hsuf, hflat⟩ := skipEmptyBlocks_ok hs
    have hq' : ∀ b ∈ block :: blocks, SendableBlock f.e b := fun b hb => hq b (hsuf.subset hb)
    obtain ⟨symbols, hsyms, hnum, hlen⟩ := hq' block List.mem_cons_self
    have hsne : symbols ≠ [] := by
      rintro rfl
      exact hne hsyms
    rw [GetRepairFrame_of_skip hs] at h
    split at h
    · cases (Prod.mk.injEq _ _ _ _ ▸ h).2
    · rename_i rfo n hgrf
      split at h
      · cases (Prod.mk.injEq _ _ _ _ ▸ h).2
      rename_i kept hslice
      rw [Prod.mk.injEq] at h
      obtain ⟨rfl, h⟩ := h
      cases h
      obtain ⟨-, -, -, hn1, hnlen, -⟩ := fecFramesParserI.getRepairFrame_spec he hsyms hsne hlen hgrf
      obtain ⟨-, rfl⟩ := sliceFrom_eq_ok.1 hslice
      have hrest : block.repairSymbols.drop n = (symbols.drop n).map some := by
        rw [hsyms, List.map_drop]
      have hkept : SendableBlock f.e { block with repairSymbols := block.repairSymbols.drop n } :=
        ⟨symbols.drop n, hrest, hnum.drop n, fun s hs => hlen s (List.mem_of_mem_drop hs)⟩
      refine ⟨rfl, rfl, ?_, symbols.take n, ?_, ?_,
        frameRepairSymbols_getRepairFrame he hmax hsyms hsne hnum hlen hgrf⟩
      · intro b hb
        split at hb
        · exact hq' b (List.mem_cons_of_mem block hb)
        · rcases List.mem_cons.1 hb with rfl | hb
          · exact hkept
          · exact hq' b (List.mem_cons_of_mem block hb)
      · intro ht
        rcases List.take_eq_nil_iff.1 ht with h0 | h0
        · omega
        · exact hsne h0
      · -- the queue's symbols: the frame's, then the head block's others, then the rest
        have hsplit : symbols.map some = (symbols.take n).map some ++ (symbols.drop n).map some := by
          rw [← List.map_append, List.take_append_drop]
        simp only [pendingRepairSymbols, ← hflat, List.map_cons, List.flatten_cons, hrest]
        rw [hsyms, hsplit, List.append_assoc]
        split
        · rename_i hl
          rw [List.eq_nil_of_length_eq_zero hl, List.nil_append]
        · rw [List.map_cons, List.flatten_cons]

end GetRepairFrame

/-! ## Queueing blocks -/

/-- The current block is a new block with `e`-byte source symbols added, as the
sender builds it. -/
def CurrentBlockOfSymbols (f : BlockFrameworkSender) : Prop :=
  ∃ ss : List BlockSourceSymbol,
    f.currentBlock = (newFECBlock f.currentBlock.blockNumber).addSourceSymbols ss ∧
      ∀ s ∈ ss, s.data.length = f.e

/-- A scheme whose repair symbols for a block the sender builds of `e`-byte source
symbols are fewer than 256, numbered from 0 in that block, and `e` bytes each. -/
def SendableRepairSymbols (GetRepairSymbols : FECBlock → Nat → Except GoError (List BlockRepairSymbol))
    (e : Nat) : Prop :=
  ∀ (bn : UInt32) (ss : List BlockSourceSymbol) (m : Nat) (rs : List BlockRepairSymbol),
    (∀ s ∈ ss, s.data.length = e) → GetRepairSymbols ((newFECBlock bn).addSourceSymbols ss) m = .ok rs →
    rs.length < 256 ∧ (∀ i (hi : i < rs.length), rs[i].blockRepairID.blockSourceID = ⟨bn, UInt8.ofNat i⟩) ∧
      ∀ s ∈ rs, s.data.length = e

theorem currentBlockOfSymbols_sendCurrentBlock (f : BlockFrameworkSender) :
    CurrentBlockOfSymbols f.sendCurrentBlock :=
  ⟨[], rfl, by simp⟩

/-- The block `GenerateRepairSymbols` makes of a block the sender built holds the
scheme's repair symbols, and can be sent. -/
theorem GenerateRepairSymbols_sendable
    {GetRepairSymbols : FECBlock → Nat → Except GoError (List BlockRepairSymbol)} {e : Nat}
    (hscheme : SendableRepairSymbols GetRepairSymbols e) {bn : UInt32} {ss : List BlockSourceSymbol}
    {m : Nat} {block : FECBlock} (hss : ∀ s ∈ ss, s.data.length = e)
    (hg : GenerateRepairSymbols GetRepairSymbols ((newFECBlock bn).addSourceSymbols ss) m = .ok block) :
    ∃ rs, GetRepairSymbols ((newFECBlock bn).addSourceSymbols ss) m = .ok rs ∧
      block.repairSymbols = rs.map some ∧ SendableBlock e block := by
  obtain ⟨rs, hrs, hset⟩ := bind_eq_ok.1 hg
  obtain ⟨hlen, hid, hdata⟩ := hscheme bn ss m rs hss hrs
  have hempty : ((newFECBlock bn).addSourceSymbols ss).repairSymbols = [] := by simp [newFECBlock]
  have hsyms := FECBlock.setRepairSymbols_eq rs _ block (fun i hi => by
      simp only [hid i hi, hempty, List.length_nil, Nat.zero_add]
      exact FECBlock.toNat_ofNat_of_lt (by omega))
    (by rw [hempty, List.length_nil, Nat.zero_add]; exact hlen) hset
  rw [hempty, List.nil_append] at hsyms
  refine ⟨rs, hrs, hsyms, rs, hsyms, fun i hi => ?_, hdata⟩
  rw [hid i hi, hid 0 (by omega)]
  simp

section Queue

variable {GetRepairSymbols : FECBlock → Nat → Except GoError (List BlockRepairSymbol)}
  {rc : RedundancyController} {f f' : BlockFrameworkSender}

/-- **`FlushUnprotectedSymbols` queues at most one block**, and one that can be
sent. -/
theorem FlushUnprotectedSymbols_queue (hscheme : SendableRepairSymbols GetRepairSymbols f.e)
    (hcur : CurrentBlockOfSymbols f) {r : Except GoError Unit}
    (h : f.FlushUnprotectedSymbols GetRepairSymbols rc = (f', r)) :
    f'.e = f.e ∧ CurrentBlockOfSymbols f' ∧
      ∃ new, f'.BlocksToSend = f.BlocksToSend ++ new ∧ ∀ b ∈ new, SendableBlock f.e b := by
  unfold FlushUnprotectedSymbols at h
  split at h
  · -- the scheme failed: the sender is as it was
    rw [Prod.mk.injEq] at h
    obtain ⟨rfl, -⟩ := h
    exact ⟨rfl, hcur, [], by simp, by simp⟩
  · rename_i block hg
    rw [Prod.mk.injEq] at h
    obtain ⟨rfl, -⟩ := h
    obtain ⟨ss, hblock, hss⟩ := hcur
    rw [hblock] at hg
    obtain ⟨_, -, -, hsend⟩ := GenerateRepairSymbols_sendable hscheme hss hg
    refine ⟨rfl, currentBlockOfSymbols_sendCurrentBlock _, _, rfl, fun b hb => ?_⟩
    rw [List.mem_singleton] at hb
    subst hb
    exact hsend

/-- **`ProtectPayload` queues at most one block**, and one that can be sent, for
the payloads `preprocessPayload` makes. -/
theorem ProtectPayload_queue (hscheme : SendableRepairSymbols GetRepairSymbols f.e)
    (hE : 64 ≤ f.e) (hE' : f.e < MAX_FEC_SYMBOL_SIZE) (hcur : CurrentBlockOfSymbols f)
    {payload : Bytes} (hp : ValidPayload f.e payload) {r : Except GoError (Vector UInt8 4)}
    (h : f.ProtectPayload GetRepairSymbols rc payload = (f', r)) :
    f'.e = f.e ∧ CurrentBlockOfSymbols f' ∧
      ∃ new, f'.BlocksToSend = f.BlocksToSend ++ new ∧ ∀ b ∈ new, SendableBlock f.e b := by
  obtain ⟨symbols, hsym, hne, -, hlen⟩ := payloadToSourceSymbols_valid hE hE' hp
  obtain ⟨ss, hblock, hss⟩ := hcur
  have hadd : (f.addPayload symbols).currentBlock =
      (newFECBlock f.currentBlock.blockNumber).addSourceSymbols (ss ++ symbols) := by
    simp only [addPayload]
    rw [hblock, FECBlock.addSourceSymbols_append, FECBlock.addSourceSymbols_blockNumber]
    rfl
  have hss' : ∀ s ∈ ss ++ symbols, s.data.length = f.e := by
    intro s hs
    rcases List.mem_append.1 hs with hs | hs
    · exact hss s hs
    · exact hlen s hs
  have hcur' : CurrentBlockOfSymbols (f.addPayload symbols) := by
    refine ⟨ss ++ symbols, ?_, hss'⟩
    rw [hadd, FECBlock.addSourceSymbols_blockNumber]
    rfl
  rw [ProtectPayload_eq GetRepairSymbols rc hp.ne hsym hne] at h
  split at h
  · split at h
    · -- the scheme failed: the symbols stay in the current block
      rw [Prod.mk.injEq] at h
      obtain ⟨rfl, -⟩ := h
      exact ⟨rfl, hcur', [], by simp [addPayload], by simp⟩
    · rename_i block hg
      rw [Prod.mk.injEq] at h
      obtain ⟨rfl, -⟩ := h
      rw [hadd] at hg
      obtain ⟨_, -, -, hsend⟩ := GenerateRepairSymbols_sendable hscheme hss' hg
      refine ⟨rfl, currentBlockOfSymbols_sendCurrentBlock _, _, rfl, fun b hb => ?_⟩
      rw [List.mem_singleton] at hb
      subst hb
      exact hsend
  · rw [Prod.mk.injEq] at h
    obtain ⟨rfl, -⟩ := h
    exact ⟨rfl, hcur', [], by simp [addPayload], by simp⟩

end Queue

/-! ## Runs -/

/-- The repair symbols of the blocks a call queued: those at the end of the queue
after it that were not there before. -/
def newlyQueued (f f' : BlockFrameworkSender) : List (Option BlockRepairSymbol) :=
  ((f'.BlocksToSend.drop f.BlocksToSend.length).map (·.repairSymbols)).flatten

/-- The repair symbols of what `GetRepairFrame` returned, as the receiver reads
them: none for `nil`, or for a frame whose metadata does not read. -/
def carriedRepairSymbols (e : Nat) : Option RepairFrame → List (BlockSourceID × Bytes)
  | none => []
  | some rf =>
    match frameRepairSymbols e rf with
    | .ok symbols => symbols
    | .error _ => []

theorem pendingRepairSymbols_of_append {f f' : BlockFrameworkSender} {new : List FECBlock}
    (h : f'.BlocksToSend = f.BlocksToSend ++ new) :
    pendingRepairSymbols f' = pendingRepairSymbols f ++ newlyQueued f f' := by
  simp [pendingRepairSymbols, newlyQueued, h]

section Runs

variable (GetRepairSymbols : FECBlock → Nat → Except GoError (List BlockRepairSymbol))
  (rc : RedundancyController)

/-- The runs of `ProtectPayload`, `FlushUnprotectedSymbols` and `GetRepairFrame`
calls from `f₀`, up to the first `GetRepairFrame` that fails, with the repair
symbols of the blocks the run queued (`queued`) and those its REPAIR frames carry
as the receiver reads them (`sent`).  `ProtectPayload` is handed payloads
`preprocessPayload` makes (`ValidPayload`), and `GetRepairFrame` a `uint64` budget;
the other two calls may fail and the run goes on. -/
inductive Sends (f₀ : BlockFrameworkSender) :
    BlockFrameworkSender → List (Option BlockRepairSymbol) → List (BlockSourceID × Bytes) → Prop
  | start : Sends f₀ f₀ [] []
  | protectPayload {f f' : BlockFrameworkSender} {queued : List (Option BlockRepairSymbol)}
      {sent : List (BlockSourceID × Bytes)} {payload : Bytes} {r : Except GoError (Vector UInt8 4)} :
      Sends f₀ f queued sent → ValidPayload f.e payload →
      f.ProtectPayload GetRepairSymbols rc payload = (f', r) →
      Sends f₀ f' (queued ++ newlyQueued f f') sent
  | flushUnprotectedSymbols {f f' : BlockFrameworkSender} {queued : List (Option BlockRepairSymbol)}
      {sent : List (BlockSourceID × Bytes)} {r : Except GoError Unit} :
      Sends f₀ f queued sent → f.FlushUnprotectedSymbols GetRepairSymbols rc = (f', r) →
      Sends f₀ f' (queued ++ newlyQueued f f') sent
  | getRepairFrame {f f' : BlockFrameworkSender} {queued : List (Option BlockRepairSymbol)}
      {sent : List (BlockSourceID × Bytes)} {maxSize : Nat} {rf : Option RepairFrame} :
      Sends f₀ f queued sent → maxSize < 2 ^ 64 → f.GetRepairFrame maxSize = (f', .ok rf) →
      Sends f₀ f' queued (sent ++ carriedRepairSymbols f.e rf)

end Runs

/-- What holds along a run from `f₀`: the symbol size is kept, the current block is
built of source symbols of that size, every queued block can be sent, and the
frames sent so far carry, in order, the first of the repair symbols queued since
`f₀` (after those `f₀` held), the others still waiting in the queue. -/
structure QueueInv (f₀ f : BlockFrameworkSender) (queued : List (Option BlockRepairSymbol))
    (sent : List (BlockSourceID × Bytes)) : Prop where
  e : f.e = f₀.e
  current : CurrentBlockOfSymbols f
  sendable : ∀ b ∈ f.BlocksToSend, SendableBlock f.e b
  conserved : ∃ symbols : List BlockRepairSymbol, sent = symbols.map BlockRepairSymbol.announced ∧
    pendingRepairSymbols f₀ ++ queued = symbols.map some ++ pendingRepairSymbols f

section Inv

variable {f₀ f f' : BlockFrameworkSender} {queued : List (Option BlockRepairSymbol)}
  {sent : List (BlockSourceID × Bytes)}

/-- A call that queues blocks that can be sent, and builds its current block of
source symbols of the same size, keeps the invariant. -/
theorem QueueInv.queue (hinv : QueueInv f₀ f queued sent) (he : f'.e = f.e)
    (hcur : CurrentBlockOfSymbols f') {new : List FECBlock}
    (hnew : f'.BlocksToSend = f.BlocksToSend ++ new) (hsend : ∀ b ∈ new, SendableBlock f.e b) :
    QueueInv f₀ f' (queued ++ newlyQueued f f') sent := by
  obtain ⟨symbols, hsent, hpend⟩ := hinv.conserved
  refine ⟨he.trans hinv.e, hcur, fun b hb => ?_, symbols, hsent, ?_⟩
  · rw [he]
    rw [hnew] at hb
    rcases List.mem_append.1 hb with hb | hb
    · exact hinv.sendable b hb
    · exact hsend b hb
  · rw [pendingRepairSymbols_of_append hnew, ← List.append_assoc, hpend, List.append_assoc]

/-- `GetRepairFrame` keeps the invariant: a frame moves the symbols it carries from
the queue to what was sent. -/
theorem QueueInv.getRepairFrame (hinv : QueueInv f₀ f queued sent) (he : 0 < f.e)
    {maxSize : Nat} (hmax : maxSize < 2 ^ 64) {rf : Option RepairFrame}
    (h : f.GetRepairFrame maxSize = (f', .ok rf)) :
    QueueInv f₀ f' queued (sent ++ carriedRepairSymbols f.e rf) := by
  obtain ⟨symbols, hsent, hpend⟩ := hinv.conserved
  cases rf with
  | none =>
    obtain ⟨he', hcur, hsuf, hpend'⟩ := GetRepairFrame_none h
    refine ⟨he'.trans hinv.e, ?_, fun b hb => he' ▸ hinv.sendable b (hsuf.subset hb),
      symbols, by simp [carriedRepairSymbols, hsent], by rw [hpend, hpend']⟩
    obtain ⟨ss, hblock, hss⟩ := hinv.current
    exact ⟨ss, by rw [hcur]; exact hblock, by rw [he']; exact hss⟩
  | some rf =>
    obtain ⟨he', hcur, hsend, taken, -, hpend', hframe⟩ := GetRepairFrame_some he hmax hinv.sendable h
    refine ⟨he'.trans hinv.e, ?_, fun b hb => he' ▸ hsend b hb, symbols ++ taken, ?_, ?_⟩
    · obtain ⟨ss, hblock, hss⟩ := hinv.current
      exact ⟨ss, by rw [hcur]; exact hblock, by rw [he']; exact hss⟩
    · simp only [carriedRepairSymbols, hframe, hsent, List.map_append]
    · rw [hpend, hpend', List.map_append, List.append_assoc]

end Inv

/-- **Every run keeps the invariant**, for a scheme whose repair symbols can be
sent, and a symbol size `ProtectPayload` can cut payloads into. -/
theorem Sends.queueInv {GetRepairSymbols : FECBlock → Nat → Except GoError (List BlockRepairSymbol)}
    {rc : RedundancyController} {f₀ f : BlockFrameworkSender} {queued : List (Option BlockRepairSymbol)}
    {sent : List (BlockSourceID × Bytes)} (hscheme : SendableRepairSymbols GetRepairSymbols f₀.e)
    (hE : 64 ≤ f₀.e) (hE' : f₀.e < MAX_FEC_SYMBOL_SIZE) (hcur : CurrentBlockOfSymbols f₀)
    (hq : ∀ b ∈ f₀.BlocksToSend, SendableBlock f₀.e b)
    (h : Sends GetRepairSymbols rc f₀ f queued sent) : QueueInv f₀ f queued sent := by
  induction h with
  | start => exact ⟨rfl, hcur, hq, [], rfl, by simp⟩
  | protectPayload _ hp hcall ih =>
    rw [← ih.e] at hscheme hE hE'
    obtain ⟨he, hcur', new, hnew, hsend⟩ := ProtectPayload_queue hscheme hE hE' ih.current hp hcall
    exact ih.queue he hcur' hnew hsend
  | flushUnprotectedSymbols _ hcall ih =>
    rw [← ih.e] at hscheme
    obtain ⟨he, hcur', new, hnew, hsend⟩ := FlushUnprotectedSymbols_queue hscheme ih.current hcall
    exact ih.queue he hcur' hnew hsend
  | getRepairFrame _ hmax hcall ih =>
    exact ih.getRepairFrame (by rw [ih.e]; omega) hmax hcall

/-! ## An empty block at the head -/

/-- **A queue of blocks without repair symbols panics `GetRepairFrame`**: the loop
that skips them reads past the end of the queue. -/
theorem GetRepairFrame_panics {f : BlockFrameworkSender} (hne : f.BlocksToSend ≠ [])
    (hempty : ∀ b ∈ f.BlocksToSend, b.repairSymbols = []) (maxSize : Nat) :
    (f.GetRepairFrame maxSize).2 = .error (.panic "index out of range") := by
  have h0 : f.BlocksToSend.length ≠ 0 := fun h => hne (List.eq_nil_of_length_eq_zero h)
  rw [GetRepairFrame, if_neg h0, skipEmptyBlocks_of_empty hempty]

/-- With the Reed-Solomon scheme, `FlushUnprotectedSymbols` on a current block
without source symbols succeeds and queues a block without repair symbols. -/
theorem reedSolomon_FlushUnprotectedSymbols_empty {new : Nat → Nat → Except GoError Encoder}
    {rc : RedundancyController} {f : BlockFrameworkSender} (hempty : f.currentBlock.sourceSymbols = []) :
    f.FlushUnprotectedSymbols (ReedSolomonFECScheme.getRepairSymbols new) rc =
      (f.sendCurrentBlock, .ok ()) := by
  have hg : GenerateRepairSymbols (ReedSolomonFECScheme.getRepairSymbols new) f.currentBlock
      (rc.GetNumberOfRepairSymbols f.nSourceSymbolsSinceLastRepair) = .ok f.currentBlock := by
    simp [GenerateRepairSymbols, ReedSolomonFECScheme.getRepairSymbols, hempty, FECBlock.setRepairSymbols]
  rw [FlushUnprotectedSymbols, hg]

/-- **Repair symbols are sent once and in order, until an empty block panics
`GetRepairFrame`.**  Over every run of `ProtectPayload`, `FlushUnprotectedSymbols`
and `GetRepairFrame` calls on a new sender whose scheme makes repair symbols a
frame can carry, the REPAIR frames, read with their metadata, carry exactly the
queued repair symbols in order, each once and with its block number modulo
`2^24`, and the ones not yet sent are the queue.  But `GetRepairFrame` panics on
a queue of blocks without repair symbols, and the Reed-Solomon scheme queues
such a block when a new sender is flushed. -/
theorem repairSymbols_sent_in_order :
    (∀ (f : BlockFrameworkSender) (maxSize : Nat), f.BlocksToSend ≠ [] →
      (∀ b ∈ f.BlocksToSend, b.repairSymbols = []) →
      (f.GetRepairFrame maxSize).2 = .error (.panic "index out of range")) ∧
    (∀ (new : Nat → Nat → Except GoError Encoder) (rc : RedundancyController) (E : Nat)
        (f : BlockFrameworkSender) (maxSize : Nat), NewBlockFrameworkSender E = .ok f →
      ∃ f', f.FlushUnprotectedSymbols (ReedSolomonFECScheme.getRepairSymbols new) rc = (f', .ok ()) ∧
        (f'.GetRepairFrame maxSize).2 = .error (.panic "index out of range")) ∧
    (∀ (GetRepairSymbols : FECBlock → Nat → Except GoError (List BlockRepairSymbol))
        (rc : RedundancyController) (E : Nat) (f₀ f : BlockFrameworkSender)
        (queued : List (Option BlockRepairSymbol)) (sent : List (BlockSourceID × Bytes)),
      64 ≤ E → NewBlockFrameworkSender E = .ok f₀ → SendableRepairSymbols GetRepairSymbols E →
      Sends GetRepairSymbols rc f₀ f queued sent →
      ∃ symbols : List BlockRepairSymbol, sent = symbols.map BlockRepairSymbol.announced ∧
        queued = symbols.map some ++ pendingRepairSymbols f) := by
  refine ⟨fun f maxSize hne hempty => GetRepairFrame_panics hne hempty maxSize,
    fun new rc E f maxSize hnew => ?_, fun GetRepairSymbols rc E f₀ f queued sent hE hnew hscheme h => ?_⟩
  · unfold NewBlockFrameworkSender at hnew
    split at hnew
    · cases hnew
    · cases hnew
      refine ⟨_, reedSolomon_FlushUnprotectedSymbols_empty rfl, GetRepairFrame_panics (by simp [sendCurrentBlock]) ?_ maxSize⟩
      simp [sendCurrentBlock, newFECBlock]
  · unfold NewBlockFrameworkSender at hnew
    split at hnew
    · cases hnew
    · rename_i hlt
      cases hnew
      obtain ⟨-, -, -, symbols, hsent, hpend⟩ :=
        h.queueInv hscheme hE (by simpa using hlt) ⟨[], rfl, by simp⟩ (by simp)
      exact ⟨symbols, hsent, by simpa [pendingRepairSymbols] using hpend⟩

/-- A new Reed-Solomon sender of 64-byte symbols, flushed before it protects
anything, panics at its next `GetRepairFrame`. -/
theorem reedSolomon_flush_then_getRepairFrame_panics :
    ∃ f', (⟨newFECBlock 0, 64, [], 0, []⟩ : BlockFrameworkSender).FlushUnprotectedSymbols
        (ReedSolomonFECScheme.getRepairSymbols fun _ _ => .error (.error ""))
        NewDefaultRedundancyController = (f', .ok ()) ∧
      (f'.GetRepairFrame 1200).2 = .error (.panic "index out of range") :=
  repairSymbols_sent_in_order.2.1 _ _ 64 _ 1200 rfl

end BlockFrameworkSender

end QuicFec
