import QuicFec.Frames

/-! # Protected payloads and source symbols

What the FEC framework protects of a 1-RTT packet, and how the block framework
cuts it into source symbols and glues recovered symbols back into packets:

* `preprocessPayload` (fec_framework.go): the packet number as a varint, zero
  padding, and the frames to protect, padded so that the length is a multiple of
  `E - 1`, where `E` is the symbol size;
* `payloadToSourceSymbols` (block_source_symbol.go): that payload cut into chunks
  of `E - 1` bytes, each behind a synchronization byte that flags the first chunk
  (which starts with the packet number) and the last;
* `mergeSymbolsToPacketPayloads` (fec_block.go): the inverse on a block of source
  symbols, some of them missing, which returns the packets one of whose symbols
  was recovered.

Main results:

* `preprocessPayload_eq`: the payload, for any symbol size `E ≥ 2`;
* `payloadToSourceSymbols_eq`: the symbols, chunk by chunk;
* `mergeSymbols_roundTrip`: merging the symbols of a sequence of packets gives
  back, in order, every packet one of whose symbols was recovered, with its
  payload after the packet number, provided the first chunk of every packet holds
  more than the packet number;
* `mergeSymbols_drops_packet`: when the first chunk holds only the packet number,
  the packet is lost.
-/

namespace QuicFec
open GoBytes

/-! ## Protected payloads -/

/-- `shouldProtect`: ACK, REPAIR, FEC_SRC_FPI and CRYPTO frames are not
protected. -/
def shouldProtect : Frame → Bool
  | .ack _ | .repair _ | .fecSrcFPI _ | .crypto _ => false
  | _ => true

/-- `writeProtectedFrames`: the frames to protect, written one after the other. -/
def writeProtectedFrames (frames : List Frame) : Except GoError Bytes :=
  Frame.writeAll (frames.filter shouldProtect)

/-- `preprocessPayload`: `[]` (Go's `nil`) when no frame is protected.  The
arithmetic is on `uint64`, and `packetChunkSize` is `E - 1`. -/
def preprocessPayload (pn : Int) (framesToMaybeProtect : List Frame) (E : Nat) :
    Except GoError Bytes := do
  let payloadToProtect ← writeProtectedFrames framesToMaybeProtect
  if payloadToProtect.length = 0 then return []
  let packetChunkSize := subU64 E 1
  let lenWithoutPadding := (← varIntLen (toUint64 pn)) + payloadToProtect.length
  let rem ← modU64 lenWithoutPadding packetChunkSize
  let totalLen ←
    if rem ≠ 0 then do
      -- align the length with packetChunkSize
      let q ← divU64 lenWithoutPadding packetChunkSize
      pure ((q + 1) * packetChunkSize % 2 ^ 64)
    else pure lenWithoutPadding
  let pnBytes ← writeVarInt (toUint64 pn)
  -- zeroes, which are PADDING frames
  let padding ← repeatBytes [0] (toInt64 (subU64 totalLen lenWithoutPadding))
  return pnBytes ++ padding ++ payloadToProtect

/-- `PreparePayloadForEncoding`, with the sender's symbol size `E`. -/
def preparePayloadForEncoding (pn : Int) (framesToMaybeProtect : List Frame) (E : Nat) :
    Except GoError Bytes :=
  preprocessPayload pn framesToMaybeProtect E

/-- `ReceivePayloadForDecoding`, with the receiver's symbol size `E`. -/
def receivePayloadForDecoding (pn : Int) (framesToMaybeProtect : List Frame) (E : Nat) :
    Except GoError Bytes :=
  preprocessPayload pn framesToMaybeProtect E

/-! ## Source symbols -/

namespace SynchronizationByte

/-- Whether a flag is set in a synchronization byte. -/
def hasFlag (flag b : UInt8) : Bool := b &&& flag == flag

/-- A synchronization byte with a flag set. -/
def setFlag (flag b : UInt8) : UInt8 := b ||| flag

/-- `IsPacketNumberPresent`. -/
def isPacketNumberPresent : UInt8 → Bool := hasFlag 0x04
/-- `IsStartOfPacket`. -/
def isStartOfPacket : UInt8 → Bool := hasFlag 0x02
/-- `IsEndOfPacket`. -/
def isEndOfPacket : UInt8 → Bool := hasFlag 0x01
/-- `SetPacketNumberPresent`. -/
def setPacketNumberPresent : UInt8 → UInt8 := setFlag 0x04
/-- `SetStartOfPacket`. -/
def setStartOfPacket : UInt8 → UInt8 := setFlag 0x02
/-- `SetEndOfPacket`. -/
def setEndOfPacket : UInt8 → UInt8 := setFlag 0x01

end SynchronizationByte

open SynchronizationByte

/-- `BlockSourceSymbol`: the symbol's bytes (`SourceSymbol.Data`), the first of
them (the synchronization byte) and the others (the packet chunk). -/
structure BlockSourceSymbol where
  data : Bytes
  synchronizationByte : UInt8
  packetChunk : Bytes
  deriving DecidableEq, Repr

/-- `ParseBlockSourceSymbol`. -/
def parseBlockSourceSymbol (symbol : Bytes) : Except GoError BlockSourceSymbol := do
  let b ← index symbol 0
  let chunk ← sliceFrom symbol 1
  return ⟨symbol, b, chunk⟩

/-- The synchronization byte `PayloadToSourceSymbols` gives chunk `i` of
`nChunks`. -/
def chunkSyncByte (packetNumberPresent : Bool) (nChunks i : Nat) : UInt8 :=
  let b : UInt8 := 0
  let b := if i = 0 then
      setStartOfPacket (if packetNumberPresent then setPacketNumberPresent b else b)
    else b
  let b := if i = nChunks - 1 then setEndOfPacket b else b
  if 0 < i ∧ i < nChunks - 1 then 0 else b

/-- The loop of `PayloadToSourceSymbols`, for the `k` chunks from chunk `i` on.
It runs only when `packetChunkSize = E - 1` is positive, and then the fresh
`E`-byte symbol is the synchronization byte and the `E - 1` bytes copied behind
it. -/
def payloadToSourceSymbolsLoop (E packetChunkSize : Nat) (packetNumberPresent : Bool)
    (nChunks : Nat) : Nat → Nat → Bytes → Except GoError (List BlockSourceSymbol)
  | 0, _, _ => .ok []
  | k + 1, i, payload => do
    makeSlice E
    let chunk ← sliceTo payload packetChunkSize
    let symbol ← parseBlockSourceSymbol (chunkSyncByte packetNumberPresent nChunks i :: chunk)
    let payload ← sliceFrom payload packetChunkSize
    let symbols ← payloadToSourceSymbolsLoop E packetChunkSize packetNumberPresent nChunks k (i + 1)
      payload
    return symbol :: symbols

/-- `PayloadToSourceSymbols`.  `packetChunkSize` is `int(E-1)`. -/
def payloadToSourceSymbols (payload : Bytes) (E : Nat) (packetNumberPresent : Bool) :
    Except GoError (List BlockSourceSymbol) := do
  let packetChunkSize := toInt64 (subU64 E 1)
  let rem ← modInt payload.length packetChunkSize
  if rem ≠ 0 then
    throw (.error ("payload size (" ++ toString payload.length ++ ") is not aligned with E (" ++
      toString E ++ ")"))
  let totalLen : Int := payload.length
  let nChunks ← divInt totalLen packetChunkSize
  let nChunks := if nChunks * packetChunkSize < totalLen then nChunks + 1 else nChunks
  payloadToSourceSymbolsLoop E packetChunkSize.toNat packetNumberPresent nChunks.toNat
    nChunks.toNat 0 payload

/-! ## Merging recovered symbols -/

/-- `fec.RecoveredPacket`. -/
structure RecoveredPacket where
  number : Int
  payload : Bytes
  deriving DecidableEq, Repr

/-- The variables of the loop of `MergeSymbolsToPacketPayloads`. -/
structure MergeState where
  retVal : List RecoveredPacket
  currentPacket : Bytes
  pn : Int
  currentPacketIsOfInterest : Bool
  recoveredSymbols : List UInt8
  deriving DecidableEq, Repr

/-- The first chunk of a packet starts with its packet number: read it, and keep
the chunk after it. -/
def readChunkPacketNumber (chunk : Bytes) : Except GoError (Bytes × Int) := do
  let (pn64, _) ← readVarInt chunk
  let l ← varIntLen pn64
  let chunk ← sliceFrom chunk l
  return (chunk, pn64)

/-- Whether the recovered symbols list the symbol at offset `i` next: then it is
taken off, and the current packet is of interest. -/
def takeRecovered (i : Nat) (st : MergeState) : Bool × List UInt8 :=
  match st.recoveredSymbols with
  | r :: rs => if UInt8.ofNat i = r then (true, rs) else (st.currentPacketIsOfInterest, r :: rs)
  | [] => (st.currentPacketIsOfInterest, [])

/-- One turn of the loop of `MergeSymbolsToPacketPayloads`, on the symbol at
offset `i` (`none` for a symbol that is missing). -/
def mergeStep (i : Nat) (symbol : Option BlockSourceSymbol) (st : MergeState) :
    Except GoError MergeState :=
  match symbol with
  | none =>
    -- we found a nil symbol, forget about the current packet
    .ok { st with currentPacket := [], currentPacketIsOfInterest := false }
  | some symbol =>
    let sb := symbol.synchronizationByte
    if !(st.currentPacket.length = 0 ∧ !isStartOfPacket sb) ∧
        !(isStartOfPacket sb ∧ st.currentPacket.length > 1) then do
      let (chunk, pn) ←
        if isPacketNumberPresent sb then readChunkPacketNumber symbol.packetChunk
        else if isStartOfPacket sb then
          throw (.error "block framework: the first source symbol does not indicate the packet number")
        else pure (symbol.packetChunk, st.pn)
      let (interest, recoveredSymbols) := takeRecovered i st
      let currentPacket := st.currentPacket ++ chunk
      if isEndOfPacket sb then
        let retVal := if interest then st.retVal ++ [⟨pn, currentPacket⟩] else st.retVal
        pure ⟨retVal, [], pn, false, recoveredSymbols⟩
      else pure ⟨st.retVal, currentPacket, pn, interest, recoveredSymbols⟩
    else .ok st

/-- The loop of `MergeSymbolsToPacketPayloads`, from offset `i`. -/
def mergeLoop : Nat → List (Option BlockSourceSymbol) → MergeState → Except GoError MergeState
  | _, [], st => .ok st
  | i, symbol :: symbols, st => do mergeLoop (i + 1) symbols (← mergeStep i symbol st)

/-- `MergeSymbolsToPacketPayloads`.  With the error of `ReadVarInt` it also
returns the packets merged so far, which its one caller drops: the model returns
the error alone. -/
def mergeSymbolsToPacketPayloads (symbols : List (Option BlockSourceSymbol))
    (recoveredSymbols : List UInt8) : Except GoError (List RecoveredPacket) := do
  let st ← mergeLoop 0 symbols ⟨[], [], 0, false, recoveredSymbols⟩
  return st.retVal

/-! ## What the sender makes -/

theorem toUint64_eq_toNat {pn : Int} (h0 : 0 ≤ pn) (h : pn.toNat ≤ maxVarInt8) :
    toUint64 pn = pn.toNat := by
  rw [toUint64_of_nonneg h0 (by unfold maxVarInt8 at h; omega)]

/-- **The protected payload.**  For a symbol size `E ≥ 2`, a packet number in the
varint range and frames to protect, `preprocessPayload` is the packet number,
fewer than `E - 1` zero bytes and the frames, and `E - 1` divides its length. -/
theorem preprocessPayload_eq {pn : Int} {frames : List Frame} {E : Nat} {w : Bytes}
    (hE : 2 ≤ E) (hE' : E ≤ maxAlloc) (h0 : 0 ≤ pn) (hpn : pn.toNat ≤ maxVarInt8)
    (hw : writeProtectedFrames frames = .ok w) (hne : w ≠ []) (hwlen : w.length ≤ maxAlloc) :
    ∃ k, k < E - 1 ∧ ((varIntBytes pn.toNat).length + k + w.length) % (E - 1) = 0 ∧
      preprocessPayload pn frames E = .ok (varIntBytes pn.toNat ++ List.replicate k 0 ++ w) := by
  have hc : 0 < E - 1 := by omega
  have hmax : maxAlloc = 2 ^ 48 := rfl
  have hsub : subU64 E 1 = E - 1 := subU64_of_le (by omega) (by omega)
  have hu : toUint64 pn = pn.toNat := toUint64_eq_toNat h0 hpn
  have hvl : (varIntBytes pn.toNat).length ≤ 8 := varIntBytes_length_le _
  set L := (varIntBytes pn.toNat).length + w.length with hL
  have hmod := Nat.mod_lt L hc
  by_cases hr : L % (E - 1) = 0
  · -- already aligned: no padding
    refine ⟨0, hc, by simpa using hr, ?_⟩
    have hpad : subU64 L L = 0 := by rw [subU64_of_le (Nat.le_refl L) (by omega), Nat.sub_self]
    have hz : repeatBytes [0] 0 = .ok [] := repeatBytes_zero (Nat.zero_le _)
    simp [preprocessPayload, hw, hne, hsub, hu, varIntLen_eq_length hpn, hpn, hc, ← hL, hr, hpad,
      toInt64_of_lt, hz]
  · -- padded up to the next multiple of `E - 1`
    have hdiv := Nat.div_add_mod L (E - 1)
    have hnext : (L / (E - 1) + 1) * (E - 1) = L + (E - 1 - L % (E - 1)) := by
      rw [Nat.add_mul, Nat.one_mul, Nat.mul_comm]
      omega
    refine ⟨E - 1 - L % (E - 1), by omega, ?_, ?_⟩
    · rw [show (varIntBytes pn.toNat).length + (E - 1 - L % (E - 1)) + w.length =
          (L / (E - 1) + 1) * (E - 1) by omega, Nat.mul_mod_left]
    · have htot : (L / (E - 1) + 1) * (E - 1) % 2 ^ 64 = L + (E - 1 - L % (E - 1)) := by
        rw [hnext, Nat.mod_eq_of_lt (by omega)]
      have hpad : subU64 (L + (E - 1 - L % (E - 1))) L = E - 1 - L % (E - 1) := by
        rw [subU64_of_le (by omega) (by omega)]
        omega
      have hk : toInt64 (E - 1 - L % (E - 1)) = ((E - 1 - L % (E - 1) : Nat) : Int) :=
        toInt64_of_lt (by omega)
      have hlen0 : w.length ≠ 0 := fun h => hne (List.eq_nil_of_length_eq_zero h)
      simp only [preprocessPayload, hw, hsub, hu, varIntLen_eq_length hpn, ok_bind, ← hL, if_neg hlen0,
        modU64_of_pos hc, divU64_of_pos hc, if_pos hr, pure_eq_ok, htot, writeVarInt_of_le hpn, hpad, hk,
        repeatBytes_zero (show E - 1 - L % (E - 1) ≤ maxAlloc by omega), List.append_assoc]

/-- The source symbols of `k` chunks of `c` bytes of a payload cut into `nChunks`,
from chunk `i` on, `p` being the payload from that chunk on. -/
def chunkSymbols (c : Nat) (packetNumberPresent : Bool) (nChunks : Nat) :
    Nat → Nat → Bytes → List BlockSourceSymbol
  | 0, _, _ => []
  | k + 1, i, p =>
    let b := chunkSyncByte packetNumberPresent nChunks i
    ⟨b :: p.take c, b, p.take c⟩ :: chunkSymbols c packetNumberPresent nChunks k (i + 1) (p.drop c)

theorem payloadToSourceSymbolsLoop_eq {E : Nat} (hE : E ≤ maxAlloc) {b : Bool} {n : Nat} :
    ∀ k i (p : Bytes), k * (E - 1) ≤ p.length →
      payloadToSourceSymbolsLoop E (E - 1) b n k i p = .ok (chunkSymbols (E - 1) b n k i p) := by
  intro k
  induction k with
  | zero => intro i p _; rfl
  | succ k ih =>
    intro i p hp
    have hc : E - 1 ≤ p.length := by
      rw [Nat.succ_mul] at hp
      omega
    have hrest : k * (E - 1) ≤ (p.drop (E - 1)).length := by
      rw [List.length_drop, Nat.succ_mul] at *
      omega
    simp [payloadToSourceSymbolsLoop, chunkSymbols, makeSlice_of_le hE, sliceTo, sliceFrom, hc,
      parseBlockSourceSymbol, ih (i + 1) _ hrest]

/-- **The source symbols of a payload.**  For a symbol size `E ≥ 2` and a payload
that chunks of `E - 1` bytes tile, `PayloadToSourceSymbols` cuts it into those
chunks, each behind its synchronization byte. -/
theorem payloadToSourceSymbols_eq {E : Nat} (hE : 2 ≤ E) (hE' : E ≤ maxAlloc) {p : Bytes}
    (hal : p.length % (E - 1) = 0) (b : Bool) :
    payloadToSourceSymbols p E b =
      .ok (chunkSymbols (E - 1) b (p.length / (E - 1)) (p.length / (E - 1)) 0 p) := by
  have hc : 0 < E - 1 := by omega
  have hmax : maxAlloc = 2 ^ 48 := rfl
  have hsub : toInt64 (subU64 E 1) = ((E - 1 : Nat) : Int) := by
    rw [subU64_of_le (by omega) (by omega), toInt64_of_lt (by omega)]
  have hmul : p.length / (E - 1) * (E - 1) = p.length :=
    Nat.div_mul_cancel (Nat.dvd_of_mod_eq_zero hal)
  -- the chunks tile the payload: no partial chunk is added
  have hnot : ¬ ((p.length / (E - 1) : Nat) : Int) * ((E - 1 : Nat) : Int) < (p.length : Int) := by
    rw [← Int.natCast_mul, hmul]
    exact Int.lt_irrefl _
  simp only [payloadToSourceSymbols, hsub, modInt_natCast hc, hal, divInt_natCast hc, ok_bind, hnot,
    if_false, Int.toNat_natCast]
  simp [payloadToSourceSymbolsLoop_eq hE' _ _ _ (Nat.le_of_eq hmul)]

/-! ## Merging, symbol by symbol -/

theorem readChunkPacketNumber_eq {x : Nat} (hx : x ≤ maxVarInt8) (r : Bytes) :
    readChunkPacketNumber (varIntBytes x ++ r) = .ok (r, x) := by
  simp [readChunkPacketNumber, readVarInt_varIntBytes hx, varIntLen_eq_length hx, sliceFrom]

theorem chunkSyncByte_single : chunkSyncByte true 1 0 = 7 := rfl

theorem chunkSyncByte_first {n : Nat} (h : 1 < n) : chunkSyncByte true n 0 = 6 := by
  simp [chunkSyncByte, show (0 : Nat) ≠ n - 1 by omega]
  rfl

theorem chunkSyncByte_middle {b : Bool} {n i : Nat} (h0 : 0 < i) (h : i < n - 1) :
    chunkSyncByte b n i = 0 := by
  simp [chunkSyncByte, h0, h]

theorem chunkSyncByte_last {b : Bool} {n i : Nat} (h0 : 0 < i) (h : i = n - 1) :
    chunkSyncByte b n i = 1 := by
  simp [chunkSyncByte, h, show n - 1 ≠ 0 by omega]
  rfl

/-- Offsets of recovered symbols, strictly increasing, none below `i`. -/
structure RecoveredFrom (i : Nat) (R : List UInt8) : Prop where
  sorted : R.Pairwise (· < ·)
  ge : ∀ r ∈ R, i ≤ r.toNat

theorem ofNat_eq_iff {i : Nat} {r : UInt8} (hi : i ≤ r.toNat) : UInt8.ofNat i = r ↔ r.toNat = i := by
  have hi' : i < 256 := Nat.lt_of_le_of_lt hi r.toNat_lt
  constructor
  · rintro rfl
    simp [Nat.mod_eq_of_lt hi']
  · intro h
    apply UInt8.toNat_inj.mp
    simp [h, Nat.mod_eq_of_lt hi']

/-- **The recovered offsets at one symbol.**  The symbol at offset `i` makes the
current packet of interest exactly when it is listed, and the list keeps the
offsets above it. -/
theorem takeRecovered_eq {i : Nat} {st : MergeState} (hR : RecoveredFrom i st.recoveredSymbols) :
    takeRecovered i st = (st.currentPacketIsOfInterest || st.recoveredSymbols.any (·.toNat = i),
      st.recoveredSymbols.filter (i + 1 ≤ ·.toNat)) := by
  obtain ⟨hs, hge⟩ := hR
  unfold takeRecovered
  split
  · rename_i r rs hst
    rw [hst] at hs hge
    have hr : i ≤ r.toNat := hge r List.mem_cons_self
    have hrs : ∀ x ∈ rs, r.toNat < x.toNat := fun x hx => (List.pairwise_cons.1 hs).1 x hx
    by_cases h : r.toNat = i
    · -- the next listed offset is this one: it is taken off
      have hkeep : rs.filter (i + 1 ≤ ·.toNat) = rs :=
        List.filter_eq_self.2 fun x hx => by
          have := hrs x hx
          simp only [decide_eq_true_eq]
          omega
      simp only [(ofNat_eq_iff hr).2 h, hst, if_true, List.any_cons, h, decide_true, Bool.true_or,
        Bool.or_true, List.filter_cons, Nat.not_succ_le_self, decide_false, Bool.false_eq_true, if_false, hkeep]
    · -- the next listed offset is above this one: nothing changes
      have hkeep : (r :: rs).filter (i + 1 ≤ ·.toNat) = r :: rs :=
        List.filter_eq_self.2 fun x hx => by
          simp only [decide_eq_true_eq]
          rcases List.mem_cons.1 hx with rfl | hx
          · omega
          · have := hrs x hx
            omega
      have hnone : (r :: rs).any (·.toNat = i) = false := by
        simp only [List.any_eq_false, decide_eq_true_eq]
        intro x hx
        rcases List.mem_cons.1 hx with rfl | hx
        · exact h
        · have := hrs x hx
          omega
      simp only [(ofNat_eq_iff hr).not.2 h, hst, if_false, hkeep, hnone, Bool.or_false]
  · rename_i hst
    simp [hst]
theorem RecoveredFrom.filter {i : Nat} {R : List UInt8} (hR : RecoveredFrom i R) (j : Nat) :
    RecoveredFrom j (R.filter (j ≤ ·.toNat)) where
  sorted := hR.sorted.filter _
  ge r hr := by simpa using (List.mem_filter.1 hr).2

/-- Offsets at least `m`, below `m + 1`: the offset `m`. -/
theorem any_lt_succ {m : Nat} {R : List UInt8} (hR : ∀ r ∈ R, m ≤ r.toNat) :
    R.any (·.toNat < m + 1) = R.any (·.toNat = m) := by
  apply Bool.eq_iff_iff.2
  simp only [List.any_eq_true, decide_eq_true_eq]
  constructor
  · rintro ⟨r, hr, hlt⟩
    exact ⟨r, hr, by have := hR r hr; omega⟩
  · rintro ⟨r, hr, rfl⟩
    exact ⟨r, hr, Nat.lt_succ_self _⟩

theorem any_lt_split {m n : Nat} {R : List UInt8} (hR : ∀ r ∈ R, m ≤ r.toNat) (hmn : m < n) :
    R.any (·.toNat < n) = (R.any (·.toNat = m) || (R.filter (m + 1 ≤ ·.toNat)).any (·.toNat < n)) := by
  apply Bool.eq_iff_iff.2
  simp only [Bool.or_eq_true, List.any_eq_true, List.mem_filter, decide_eq_true_eq]
  constructor
  · rintro ⟨r, hr, hlt⟩
    by_cases h : r.toNat = m
    · exact .inl ⟨r, hr, h⟩
    · exact .inr ⟨r, ⟨hr, by have := hR r hr; omega⟩, hlt⟩
  · rintro (⟨r, hr, rfl⟩ | ⟨r, ⟨hr, -⟩, hlt⟩)
    · exact ⟨r, hr, hmn⟩
    · exact ⟨r, hr, hlt⟩

theorem filter_le_filter_le {m n : Nat} (hmn : m ≤ n) (R : List UInt8) :
    (R.filter (m ≤ ·.toNat)).filter (n ≤ ·.toNat) = R.filter (n ≤ ·.toNat) := by
  rw [List.filter_filter]
  apply List.filter_congr
  intro r _
  by_cases h : n ≤ r.toNat
  · simp [h, Nat.le_trans hmn h]
  · simp [h]

theorem chunkSymbols_succ (c : Nat) (b : Bool) (n k i : Nat) (p : Bytes) :
    chunkSymbols c b n (k + 1) i p =
      ⟨chunkSyncByte b n i :: p.take c, chunkSyncByte b n i, p.take c⟩ ::
        chunkSymbols c b n k (i + 1) (p.drop c) := rfl

theorem mergeLoop_cons (i : Nat) (x : Option BlockSourceSymbol) (xs : List (Option BlockSourceSymbol))
    (st : MergeState) : mergeLoop i (x :: xs) st = (mergeStep i x st >>= mergeLoop (i + 1) xs) := rfl

theorem mergeLoop_append (i : Nat) (xs ys : List (Option BlockSourceSymbol)) (st : MergeState) :
    mergeLoop i (xs ++ ys) st = (mergeLoop i xs st >>= mergeLoop (i + xs.length) ys) := by
  induction xs generalizing i st with
  | nil => simp [mergeLoop]
  | cons x xs ih =>
    simp only [List.cons_append, mergeLoop, List.length_cons]
    cases mergeStep i x st with
    | error e => rfl
    | ok st' => simp [ih, Nat.add_assoc, Nat.add_comm 1]

/-! The four kinds of symbols a packet's chunks make. -/

theorem syncByte_single :
    isPacketNumberPresent 7 = true ∧ isStartOfPacket 7 = true ∧ isEndOfPacket 7 = true := by decide
theorem syncByte_first :
    isPacketNumberPresent 6 = true ∧ isStartOfPacket 6 = true ∧ isEndOfPacket 6 = false := by decide
theorem syncByte_middle :
    isPacketNumberPresent 0 = false ∧ isStartOfPacket 0 = false ∧ isEndOfPacket 0 = false := by decide
theorem syncByte_last :
    isPacketNumberPresent 1 = false ∧ isStartOfPacket 1 = false ∧ isEndOfPacket 1 = true := by decide

theorem mergeStep_single {i x : Nat} (hx : x ≤ maxVarInt8) {r : Bytes} {st : MergeState}
    (hcur : st.currentPacket = []) :
    mergeStep i (some ⟨7 :: (varIntBytes x ++ r), 7, varIntBytes x ++ r⟩) st =
      .ok ⟨if (takeRecovered i st).1 then st.retVal ++ [⟨x, r⟩] else st.retVal, [], x, false,
        (takeRecovered i st).2⟩ := by
  simp [mergeStep, hcur, readChunkPacketNumber_eq hx, syncByte_single]

theorem mergeStep_first {i x : Nat} (hx : x ≤ maxVarInt8) {r : Bytes} {st : MergeState}
    (hcur : st.currentPacket = []) :
    mergeStep i (some ⟨6 :: (varIntBytes x ++ r), 6, varIntBytes x ++ r⟩) st =
      .ok ⟨st.retVal, r, x, (takeRecovered i st).1, (takeRecovered i st).2⟩ := by
  simp [mergeStep, hcur, readChunkPacketNumber_eq hx, syncByte_first]

theorem mergeStep_middle {i : Nat} {chunk : Bytes} {st : MergeState} (hcur : st.currentPacket ≠ []) :
    mergeStep i (some ⟨0 :: chunk, 0, chunk⟩) st =
      .ok ⟨st.retVal, st.currentPacket ++ chunk, st.pn, (takeRecovered i st).1,
        (takeRecovered i st).2⟩ := by
  simp [mergeStep, hcur, syncByte_middle]

theorem mergeStep_last {i : Nat} {chunk : Bytes} {st : MergeState} (hcur : st.currentPacket ≠ []) :
    mergeStep i (some ⟨1 :: chunk, 1, chunk⟩) st =
      .ok ⟨if (takeRecovered i st).1 then st.retVal ++ [⟨st.pn, st.currentPacket ++ chunk⟩]
        else st.retVal, [], st.pn, false, (takeRecovered i st).2⟩ := by
  simp [mergeStep, hcur, syncByte_last]

/-! ## Merging whole packets -/


/-- **Merging the chunks after the first.**  From chunk `i > 0` of a packet of
`n` chunks, whose symbols start at offset `b`: the chunks are appended to the
current packet, which the last one ends, and the packet is returned if one of
its offsets is listed. -/
theorem mergeLoop_rest {c n b : Nat} :
    ∀ k i (p : Bytes) (st : MergeState), 0 < i → i + (k + 1) = n → p.length = (k + 1) * c →
      st.currentPacket ≠ [] → RecoveredFrom (b + i) st.recoveredSymbols →
      mergeLoop (b + i) ((chunkSymbols c true n (k + 1) i p).map some) st =
        .ok ⟨if st.currentPacketIsOfInterest || st.recoveredSymbols.any (·.toNat < b + n)
            then st.retVal ++ [⟨st.pn, st.currentPacket ++ p⟩] else st.retVal,
          [], st.pn, false, st.recoveredSymbols.filter (b + n ≤ ·.toNat)⟩ := by
  intro k
  induction k with
  | zero =>
    intro i p st hi hn hp hcur hR
    -- the last chunk ends the packet
    have hsync : chunkSyncByte true n i = 1 := chunkSyncByte_last hi (by omega)
    have htake : p.take c = p := List.take_of_length_le (by omega)
    have hany : st.recoveredSymbols.any (·.toNat < b + n) =
        st.recoveredSymbols.any (·.toNat = b + i) := by
      rw [show b + n = b + i + 1 by omega]
      exact any_lt_succ hR.ge
    rw [chunkSymbols_succ, hsync, htake, List.map_cons, mergeLoop_cons, mergeStep_last hcur,
      takeRecovered_eq hR, ok_bind]
    simp [chunkSymbols, mergeLoop, hany, show b + i + 1 = b + n by omega]
  | succ k ih =>
    intro i p st hi hn hp hcur hR
    -- a chunk in the middle of the packet
    have hsync : chunkSyncByte true n i = 0 := chunkSyncByte_middle hi (by omega)
    have hdrop : (p.drop c).length = (k + 1) * c := by
      rw [List.length_drop, hp, Nat.succ_mul]
      omega
    have hcur' : st.currentPacket ++ p.take c ≠ [] := by simp [hcur]
    have hR' : RecoveredFrom (b + (i + 1)) (st.recoveredSymbols.filter (b + i + 1 ≤ ·.toNat)) :=
      hR.filter _
    rw [chunkSymbols_succ, hsync, List.map_cons, mergeLoop_cons, mergeStep_middle hcur,
      takeRecovered_eq hR, ok_bind]
    rw [show b + i + 1 = b + (i + 1) by omega, ih (i + 1) (p.drop c) _ (by omega) (by omega) hdrop
      hcur' hR']
    have hany := any_lt_split hR.ge (show b + i < b + n by omega)
    simp only [← Nat.add_assoc, Bool.or_assoc, ← hany, List.append_assoc, List.take_append_drop,
      filter_le_filter_le (show b + i + 1 ≤ b + n by omega)]

/-- **Merging one packet.**  The symbols of a payload that starts with its packet
number `x` and goes on with `rest`, whose first chunk holds more than the packet
number, all present, from offset `b` and a state between packets: the packet is
returned, with `rest` as its payload, if one of its offsets is listed. -/
theorem mergeLoop_packet {c n b x : Nat} (hx : x ≤ maxVarInt8) (hv : (varIntBytes x).length < c)
    {rest : Bytes} (hlen : (varIntBytes x ++ rest).length = n * c) (hn : 0 < n)
    {st : MergeState} (hcur : st.currentPacket = []) (hint : st.currentPacketIsOfInterest = false)
    (hR : RecoveredFrom b st.recoveredSymbols) :
    mergeLoop b ((chunkSymbols c true n n 0 (varIntBytes x ++ rest)).map some) st =
      .ok ⟨if st.recoveredSymbols.any (·.toNat < b + n) then st.retVal ++ [⟨x, rest⟩]
          else st.retVal, [], x, false, st.recoveredSymbols.filter (b + n ≤ ·.toNat)⟩ := by
  have htake : (varIntBytes x ++ rest).take c =
      varIntBytes x ++ rest.take (c - (varIntBytes x).length) := by
    rw [List.take_append, List.take_of_length_le (by omega)]
  have hdrop : (varIntBytes x ++ rest).drop c = rest.drop (c - (varIntBytes x).length) := by
    rw [List.drop_append, List.drop_of_length_le (by omega), List.nil_append]
  have hrest : rest.length = n * c - (varIntBytes x).length := by
    rw [List.length_append] at hlen
    omega
  obtain ⟨m, rfl⟩ : ∃ m, n = m + 1 := ⟨n - 1, by omega⟩
  rw [chunkSymbols_succ, htake, hdrop, List.map_cons, mergeLoop_cons]
  cases m with
  | zero =>
    -- a packet of one chunk
    have hall : rest.take (c - (varIntBytes x).length) = rest :=
      List.take_of_length_le (by rw [hrest]; omega)
    have hany := any_lt_succ hR.ge
    rw [chunkSyncByte_single, hall, mergeStep_single hx hcur, takeRecovered_eq hR, ok_bind]
    simp only [chunkSymbols, List.map_nil, mergeLoop, hint, Bool.false_or, Nat.zero_add, ← hany]
  | succ m =>
    -- the first chunk, then the others
    have hne : rest.take (c - (varIntBytes x).length) ≠ [] := by
      simp only [ne_eq, List.take_eq_nil_iff, not_or]
      constructor
      · omega
      · intro h
        rw [h, List.length_nil, Nat.succ_mul, Nat.succ_mul] at hrest
        omega
    have hlen' : (rest.drop (c - (varIntBytes x).length)).length = (m + 1) * c := by
      rw [List.length_drop, hrest, Nat.succ_mul]
      omega
    rw [chunkSyncByte_first (by omega), mergeStep_first hx hcur, takeRecovered_eq hR, ok_bind,
      mergeLoop_rest m 1 _ _ (by omega) (by omega) hlen' (by simpa using hne) (hR.filter _)]
    have hany := any_lt_split hR.ge (show b < b + (m + 1 + 1) by omega)
    simp only [hint, Bool.false_or, ← hany, List.take_append_drop,
      filter_le_filter_le (show b + 1 ≤ b + (m + 1 + 1) by omega)]
theorem chunkSymbols_length (c : Nat) (b : Bool) (n : Nat) :
    ∀ k i (p : Bytes), (chunkSymbols c b n k i p).length = k
  | 0, _, _ => rfl
  | k + 1, i, p => by rw [chunkSymbols_succ, List.length_cons, chunkSymbols_length c b n k]

/-- A payload for chunks of `c` bytes of a packet `pn`, as `preprocessPayload`
makes them, whose first chunk holds more than the packet number. -/
structure ChunkedPayload (c : Nat) (pn : Int) (p : Bytes) : Prop where
  pn_nonneg : 0 ≤ pn
  pn_le : pn.toNat ≤ maxVarInt8
  first_chunk : (varIntBytes pn.toNat).length < c
  starts : varIntBytes pn.toNat <+: p
  aligned : p.length % c = 0

/-- The packets `(pn, payload)`, whose symbols follow one another from offset `b`,
that own one of the offsets `R`, each with its payload after the packet number. -/
def recoveredOf (c : Nat) (R : List UInt8) : Nat → List (Int × Bytes) → List RecoveredPacket
  | _, [] => []
  | b, (pn, p) :: ps =>
    (if R.any (fun r => b ≤ r.toNat ∧ r.toNat < b + p.length / c) then
      [⟨pn, p.drop (varIntBytes pn.toNat).length⟩] else []) ++
      recoveredOf c R (b + p.length / c) ps

theorem any_filter_le {b m : Nat} (R : List UInt8) :
    (R.filter (b ≤ ·.toNat)).any (·.toNat < m) = R.any (fun r => b ≤ r.toNat ∧ r.toNat < m) := by
  apply Bool.eq_iff_iff.2
  simp

/-- **Merging a sequence of packets.**  The symbols of payloads for chunks of `c`
bytes, one packet after the other from offset `b`, all present, from a state
between packets whose recovered offsets are those of `R` from `b` on: merging
returns the packets one of whose offsets `R` lists. -/
theorem mergeLoop_packets {c : Nat} {R : List UInt8} (hR : R.Pairwise (· < ·)) :
    ∀ (ps : List (Int × Bytes)) (b : Nat) (st : MergeState), (∀ q ∈ ps, ChunkedPayload c q.1 q.2) →
      st.currentPacket = [] → st.currentPacketIsOfInterest = false →
      st.recoveredSymbols = R.filter (b ≤ ·.toNat) →
      ∃ st', mergeLoop b ((ps.flatMap fun q =>
          chunkSymbols c true (q.2.length / c) (q.2.length / c) 0 q.2).map some) st = .ok st' ∧
        st'.retVal = st.retVal ++ recoveredOf c R b ps := by
  intro ps
  induction ps with
  | nil =>
    intro b st _ _ _ _
    exact ⟨st, rfl, by simp [recoveredOf]⟩
  | cons q ps ih =>
    intro b st hps hcur hint hst
    obtain ⟨pn, p⟩ := q
    obtain ⟨h0, hle, hfirst, ⟨rest, rfl⟩, hal⟩ : ChunkedPayload c pn p := hps _ List.mem_cons_self
    have hc : 0 < c := Nat.lt_of_le_of_lt (Nat.zero_le _) hfirst
    set n := (varIntBytes pn.toNat ++ rest).length / c with hn
    have hlen : (varIntBytes pn.toNat ++ rest).length = n * c :=
      (Nat.div_mul_cancel (Nat.dvd_of_mod_eq_zero hal)).symm
    have hnpos : 0 < n := by
      have := varIntBytes_length_pos pn.toNat
      rw [List.length_append] at hlen
      rcases Nat.eq_zero_or_pos n with h | h
      · rw [h, Nat.zero_mul] at hlen
        omega
      · exact h
    have hR0 : RecoveredFrom b st.recoveredSymbols :=
      ⟨hst ▸ hR.filter _, fun r hr => by rw [hst] at hr; simpa using (List.mem_filter.1 hr).2⟩
    rw [List.flatMap_cons, List.map_append, mergeLoop_append,
      mergeLoop_packet hle hfirst hlen hnpos hcur hint hR0, ok_bind, List.length_map,
      chunkSymbols_length]
    obtain ⟨st', hst', hret⟩ := ih (b + n)
      ⟨if st.recoveredSymbols.any (·.toNat < b + n) then st.retVal ++ [⟨pn.toNat, rest⟩]
        else st.retVal, [], pn.toNat, false, st.recoveredSymbols.filter (b + n ≤ ·.toNat)⟩
      (fun q hq => hps q (List.mem_cons_of_mem _ hq)) rfl rfl
      (by dsimp only; rw [hst, filter_le_filter_le (Nat.le_add_right b n)])
    refine ⟨st', hst', ?_⟩
    rw [hret, recoveredOf, hst, any_filter_le, Int.toNat_of_nonneg h0, List.drop_left]
    split <;> simp only [← hn, List.append_assoc, List.nil_append]

/-! ## Split and merge -/

/-- **Split and merge round trip.**  For a symbol size `E ≥ 2`, payloads whose
first chunk holds more than the packet number, the source symbols
`PayloadToSourceSymbols` makes of them, one packet after the other and all
present, and every strictly increasing list `R` of recovered offsets,
`MergeSymbolsToPacketPayloads` returns, in order, every packet one of whose
offsets `R` lists, with its payload after the packet number. -/
theorem mergeSymbols_roundTrip {E : Nat} (hE : 2 ≤ E) (hE' : E ≤ maxAlloc)
    {ps : List (Int × Bytes)} (hps : ∀ q ∈ ps, ChunkedPayload (E - 1) q.1 q.2)
    {symss : List (List BlockSourceSymbol)}
    (hsyms : List.Forall₂ (fun q syms => payloadToSourceSymbols q.2 E true = .ok syms) ps symss)
    {R : List UInt8} (hR : R.Pairwise (· < ·)) :
    mergeSymbolsToPacketPayloads (symss.flatten.map some) R = .ok (recoveredOf (E - 1) R 0 ps) := by
  have hflat : symss.flatten = ps.flatMap fun q =>
      chunkSymbols (E - 1) true (q.2.length / (E - 1)) (q.2.length / (E - 1)) 0 q.2 := by
    induction hsyms with
    | nil => rfl
    | @cons q syms ps symss hq _ ih =>
      have hal := (hps q List.mem_cons_self).aligned
      rw [payloadToSourceSymbols_eq hE hE' hal, Except.ok.injEq] at hq
      rw [List.flatten_cons, List.flatMap_cons, ← hq,
        ih fun q' hq' => hps q' (List.mem_cons_of_mem _ hq')]
  obtain ⟨st', hst', hret⟩ :=
    mergeLoop_packets hR ps 0 ⟨[], [], 0, false, R⟩ hps rfl rfl (by simp)
  simp [mergeSymbolsToPacketPayloads, hflat, hst', hret]

/-- With `E = 3`, the packet number 64 fills the first chunk, of two bytes, on its
own.  The current packet is then still empty when the next chunk comes, and the
merge skips that chunk as one that starts no packet: the packet is lost. -/
theorem mergeSymbols_drops_packet :
    preprocessPayload 64 [.ping] 3 = .ok [0x40, 0x40, 0, 1] ∧
      ∃ S, payloadToSourceSymbols [0x40, 0x40, 0, 1] 3 true = .ok S ∧
        mergeSymbolsToPacketPayloads (S.map some) [0] = .ok [] :=
  ⟨by decide, _, rfl, by decide⟩

end QuicFec
