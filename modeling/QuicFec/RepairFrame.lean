import QuicFec.FecBlock
import QuicFec.FecFramesParser

/-! # REPAIR frames of FEC blocks

The part of `fecFramesParserI` (`internal/fec/block/fec_block.go`) that reads and
writes REPAIR frames from and into FEC blocks.  A REPAIR frame's metadata is the
block's two totals as varints, the eight bytes of a block repair ID (four bytes
the scheme may use, then the block source ID of the first symbol) and the number
of symbols as a varint; the symbols follow, `e` bytes each.

`getRepairFrame` fits as many of a block's repair symbols as it can into a
budget: it divides what is left after the metadata by the symbol size, and gives
back one symbol when the varint for the count does not fit.  The block number of
a block source ID is a `uint32`, but the wire format gives it three bytes, so
the metadata carries it modulo `2^24`.

Main results:

* `getRepairFrame_spec`: what `getRepairFrame` writes, and the budget it keeps;
* `getRepairFrame_roundTrip`: for symbols of at least 8 bytes, the frame fits the
  budget, parses back from any bytes that follow it, and its metadata reads back
  as the block's totals, the first symbol's ID (block number modulo `2^24`) and the
  number of symbols it carries;
* `getRepairFrame_blockNumber_truncated`: a block numbered `2^24` is announced as
  block `0`.
-/
namespace QuicFec
open GoBytes

namespace fecFramesParserI

/-- `getRepairFrameMetadataSize`. -/
def getRepairFrameMetadataSize (nss nrs : Nat) (_id : BlockRepairID) (nSymbols : Nat) :
    Except GoError Nat := do
  return (← varIntLen nss) + (← varIntLen nrs) + 8 + (← varIntLen nSymbols)

/-- The loop of `getRepairFrame` that writes the data of the first `nSymbols`
repair symbols. -/
def writeRepairSymbols (symbols : List (Option BlockRepairSymbol)) (nSymbols : Nat) :
    Except GoError Bytes :=
  (List.range nSymbols).foldlM (fun b i => do return b ++ (← deref (← index symbols i)).data) []

/-- The number of symbols `getRepairFrame` sends out of `available`, in the budget
`budget` left after the metadata's prefix: as many as fit, one less when the count
does not fit with them.  The decrement is that of a `uint64`. -/
def repairFrameCount (e budget available : Nat) : Except GoError Nat := do
  let nSymbols := min (← divU64 budget e) available
  let lenSize ← varIntLen nSymbols
  -- not enough size to encode the length: make some place
  return if nSymbols * e + lenSize > budget then subU64 nSymbols 1 else nSymbols

/-- `getRepairFrame`: `none` (Go's `nil`) when not even one symbol fits.  Byte
counts are `uint64`s, which stay far below `2^64`. -/
def getRepairFrame (e : Nat) (block : FECBlock) (maxSize : Nat) :
    Except GoError (Option RepairFrame × Nat) := do
  if maxSize = 0 then return (none, 0)
  -- the type byte
  let maxSize := maxSize - 1
  let first ← deref (← index block.repairSymbols 0)
  let brid : BlockRepairID := ⟨Vector.replicate 4 0, first.blockRepairID.blockSourceID⟩
  -- the metadata size if only one repair symbol is sent
  let minMdSize ← getRepairFrameMetadataSize block.totalNumberOfSourceSymbols
    block.totalNumberOfRepairSymbols brid 1
  if maxSize < minMdSize + e then return (none, 0)
  let b := (← writeVarInt block.totalNumberOfSourceSymbols) ++
    (← writeVarInt block.totalNumberOfRepairSymbols) ++ brid.write
  let nSymbols ← repairFrameCount e (maxSize - b.length) block.repairSymbols.length
  let payload := b ++ (← writeVarInt nSymbols) ++ (← writeRepairSymbols block.repairSymbols nSymbols)
  let cut : Int := (payload.length : Int) - (nSymbols * e : Nat)
  if cut < 0 then throw (.panic "slice bounds out of range")
  return (some ⟨payload.take cut.toNat, payload.drop cut.toNat⟩, nSymbols)

/-- `getRepairFrameMetadata`: the two totals, the block repair ID and the number of
symbols, checked against the length of the symbols (a `uint64` product). -/
def getRepairFrameMetadata (e : Nat) (f : RepairFrame) :
    Except GoError (Nat × Nat × BlockRepairID × Nat) := do
  let (nss, r) ← readVarInt f.metadata
  let (nrs, r) ← readVarInt r
  -- the FEC scheme-specific bytes
  let (fecSchemeSpecific, r) ← readInto 4 r
  let (blockSourceID, r) ← parseBlockSourceID r
  let (nSymbols, _) ← readVarInt r
  if (← modU64 f.repairSymbols.length e) ≠ 0 then
    throw (.error ("getRepairFrameMetadata: len(f.RepairSymbols) (" ++
      toString f.repairSymbols.length ++ ") is not a multiple of E (" ++ toString e ++ ")"))
  if e * nSymbols % 2 ^ 64 ≠ f.repairSymbols.length then
    throw (.error ("getRepairFrameMetadata: len(f.RepairSymbols) (" ++
      toString f.repairSymbols.length ++
      ") does not match the number of symbols announces in the metadata (" ++
      toString nSymbols ++ " symbols -> " ++ toString (nSymbols * e % 2 ^ 64) ++ " bytes)"))
  return (nss, nrs, ⟨fixedArray 4 fecSchemeSpecific, blockSourceID⟩, nSymbols)

/-! ## What `getRepairFrame` writes -/

/-- The metadata of a REPAIR frame before its count of symbols: the two totals and
the block repair ID. -/
def metadataPrefix (nss nrs : Nat) (brid : BlockRepairID) : Bytes :=
  varIntBytes nss ++ varIntBytes nrs ++ brid.write

@[simp] theorem BlockRepairID.write_length (id : BlockRepairID) : id.write.length = 8 := by
  simp [BlockRepairID.write]

section Spec

variable {e : Nat} {block : FECBlock} {symbols : List BlockRepairSymbol}

theorem writeRepairSymbols_eq (hsyms : block.repairSymbols = symbols.map some) {k : Nat}
    (hk : k ≤ symbols.length) :
    writeRepairSymbols block.repairSymbols k = .ok ((symbols.take k).map (·.data)).flatten := by
  induction k with
  | zero => rfl
  | succ k ih =>
    have hk' : k < symbols.length := by omega
    unfold writeRepairSymbols at ih ⊢
    rw [List.range_succ, List.foldlM_append, ih (by omega), ok_bind]
    simp only [List.foldlM_cons, List.foldlM_nil, hsyms, index, List.getElem?_map, List.getElem?_eq_getElem hk', Option.map_some,
      ok_bind, deref_some, pure_eq_ok, List.take_add_one, List.map_append,
      List.flatten_append, Option.toList_some, List.map_cons, List.map_nil, List.flatten_cons,
      List.flatten_nil, List.append_nil]

theorem length_flatten_data {l : List BlockRepairSymbol} (hl : ∀ s ∈ l, s.data.length = e) :
    (l.map (·.data)).flatten.length = l.length * e := by
  induction l with
  | nil => simp
  | cons s l ih =>
    have hs : s.data.length = e := hl s List.mem_cons_self
    have hrest := ih fun t ht => hl t (List.mem_cons_of_mem s ht)
    simp only [List.map_cons, List.flatten_cons, List.length_append, hs, hrest, List.length_cons]
    rw [Nat.succ_mul, Nat.add_comm]

/-- With room for one symbol and its count, `repairFrameCount` sends between one
and all of the available symbols, and either they fit with their count, or the
count did not fit and the dropped symbol did. -/
theorem repairFrameCount_spec {budget available n : Nat} (he : 0 < e) (hav : 0 < available)
    (hroom : e + 1 ≤ budget) (h : repairFrameCount e budget available = .ok n) :
    1 ≤ n ∧ n ≤ available ∧ n ≤ maxVarInt8 ∧
      (n * e + (varIntBytes n).length ≤ budget ∨ (n + 1) * e ≤ budget) := by
  unfold repairFrameCount at h
  rw [divU64_of_pos he, ok_bind] at h
  obtain ⟨lenSize, hls, h⟩ := bind_eq_ok.1 h
  obtain ⟨hmax, rfl⟩ := varIntLen_eq_ok.1 hls
  have hq : 1 ≤ budget / e := (Nat.one_le_div_iff he).2 (by omega)
  have hfits : min (budget / e) available * e ≤ budget :=
    Nat.le_trans (Nat.mul_le_mul_right e (Nat.min_le_left _ _)) (Nat.div_mul_le_self budget e)
  have hone : (varIntBytes 1).length = 1 := rfl
  rw [pure_eq_ok, Except.ok.injEq] at h
  split at h
  case isTrue hdec =>
    -- one symbol less: there were at least two, since one fits with its count
    have h2 : 2 ≤ min (budget / e) available := by
      by_contra hlt
      have h1 : min (budget / e) available = 1 := by omega
      rw [h1, hone] at hdec
      omega
    rw [subU64_of_le (by omega) (by unfold maxVarInt8 at hmax; omega)] at h
    subst h
    refine ⟨by omega, by omega, by omega, Or.inr ?_⟩
    rwa [Nat.sub_add_cancel (by omega)]
  case isFalse hfit =>
    subst h
    exact ⟨by omega, Nat.min_le_right _ _, hmax, Or.inl (by omega)⟩

/-- A `getRepairFrame` that returns a frame wrote the metadata and the first `n`
symbols, with `n` at least one, and kept within the budget left after the
metadata's prefix and the type byte: either the symbols and the count fit, or the
count did not fit one more symbol and that symbol was dropped. -/
theorem getRepairFrame_spec (he : 0 < e) (hsyms : block.repairSymbols = symbols.map some)
    (hne : symbols ≠ []) (hlen : ∀ s ∈ symbols, s.data.length = e) {maxSize : Nat}
    {rf : RepairFrame} {n : Nat} (h : getRepairFrame e block maxSize = .ok (some rf, n)) :
    block.totalNumberOfSourceSymbols ≤ maxVarInt8 ∧ block.totalNumberOfRepairSymbols ≤ maxVarInt8 ∧
      n ≤ maxVarInt8 ∧ 1 ≤ n ∧ n ≤ symbols.length ∧
      (n * e + (varIntBytes n).length ≤ maxSize - 1 - (metadataPrefix block.totalNumberOfSourceSymbols
          block.totalNumberOfRepairSymbols ⟨Vector.replicate 4 0,
            (symbols.head hne).blockRepairID.blockSourceID⟩).length ∨
        (n + 1) * e ≤ maxSize - 1 - (metadataPrefix block.totalNumberOfSourceSymbols
          block.totalNumberOfRepairSymbols ⟨Vector.replicate 4 0,
            (symbols.head hne).blockRepairID.blockSourceID⟩).length) ∧
      rf.metadata = metadataPrefix block.totalNumberOfSourceSymbols block.totalNumberOfRepairSymbols
          ⟨Vector.replicate 4 0, (symbols.head hne).blockRepairID.blockSourceID⟩ ++ varIntBytes n ∧
      rf.repairSymbols = ((symbols.take n).map (·.data)).flatten := by
  unfold getRepairFrame at h
  by_cases h0 : maxSize = 0
  · simp [h0] at h
  have hidx : index block.repairSymbols 0 = .ok (some (symbols.head hne)) := by
    obtain ⟨s, l, rfl⟩ := List.exists_cons_of_ne_nil hne
    simp [hsyms]
  simp only [h0, if_false, hidx, ok_bind, deref_some] at h
  obtain ⟨minMd, hmd, h⟩ := bind_eq_ok.1 h
  simp only [getRepairFrameMetadataSize] at hmd
  obtain ⟨l1, h1, hmd⟩ := bind_eq_ok.1 hmd
  obtain ⟨l2, h2, hmd⟩ := bind_eq_ok.1 hmd
  obtain ⟨l3, h3, hmd⟩ := bind_eq_ok.1 hmd
  obtain ⟨hnss, rfl⟩ := varIntLen_eq_ok.1 h1
  obtain ⟨hnrs, rfl⟩ := varIntLen_eq_ok.1 h2
  obtain ⟨-, rfl⟩ := varIntLen_eq_ok.1 h3
  cases hmd
  by_cases hfit : maxSize - 1 < (varIntBytes block.totalNumberOfSourceSymbols).length +
      (varIntBytes block.totalNumberOfRepairSymbols).length + 8 + (varIntBytes 1).length + e
  · simp [hfit] at h
  simp only [hfit, if_false, writeVarInt_of_le hnss, writeVarInt_of_le hnrs, ok_bind] at h
  generalize hP : varIntBytes block.totalNumberOfSourceSymbols ++
    varIntBytes block.totalNumberOfRepairSymbols ++
    BlockRepairID.write ⟨Vector.replicate 4 0, (symbols.head hne).blockRepairID.blockSourceID⟩ = P at h
  rw [show metadataPrefix _ _ _ = P from hP]
  have hPlen : P.length = (varIntBytes block.totalNumberOfSourceSymbols).length +
      (varIntBytes block.totalNumberOfRepairSymbols).length + 8 := by
    rw [← hP, List.length_append, List.length_append, BlockRepairID.write_length]
  have hone : (varIntBytes 1).length = 1 := rfl
  have hav : block.repairSymbols.length = symbols.length := by rw [hsyms, List.length_map]
  obtain ⟨n', hn, h⟩ := bind_eq_ok.1 h
  obtain ⟨hn1, hnlen, hnmax, hbudget⟩ :=
    repairFrameCount_spec he (by rw [hav]; exact List.length_pos_iff.2 hne) (by omega) hn
  rw [hav] at hnlen
  rw [writeVarInt_of_le hnmax, ok_bind, writeRepairSymbols_eq hsyms hnlen, ok_bind] at h
  -- the cut falls right after the count: the symbols take `n' * e` bytes
  have hD := @length_flatten_data e (symbols.take n') fun s hs => hlen s (List.mem_of_mem_take hs)
  rw [List.length_take, Nat.min_eq_left hnlen] at hD
  generalize hDdef : ((symbols.take n').map (·.data)).flatten = D at h hD
  have hcut : ((P ++ varIntBytes n' ++ D).length : Int) - ((n' * e : Nat) : Int) =
      ((P ++ varIntBytes n').length : Nat) := by
    simp only [List.length_append, hD]; omega
  have hnn : ¬ (((P ++ varIntBytes n').length : Nat) : Int) < 0 := by omega
  rw [hcut, if_neg hnn, Int.toNat_natCast, List.take_left, List.drop_left, pure_eq_ok,
    Except.ok.injEq, Prod.mk.injEq, Option.some.injEq] at h
  obtain ⟨rfl, rfl⟩ := h
  exact ⟨hnss, hnrs, hnmax, hn1, hnlen, hbudget, rfl, hDdef.symm⟩

end Spec

/-! ## Reading a frame back -/

/-- The block source ID read back from its encoding: the block number modulo
`2^24`. -/
theorem parseBlockSourceID_write (b : BlockSourceID) (rest : Bytes) :
    parseBlockSourceID (writeUintN 3 b.blockNumber.toNat ++ b.blockOffset :: rest) =
      .ok (⟨UInt32.ofNat (b.blockNumber.toNat % 2 ^ 24), b.blockOffset⟩, rest) := by
  have hoff : b.blockOffset :: rest = writeUintN 1 b.blockOffset.toNat ++ rest := by
    simp [writeUintN]
  have hmod : b.blockOffset.toNat % 2 ^ 8 = b.blockOffset.toNat :=
    Nat.mod_eq_of_lt b.blockOffset.toNat_lt
  simp only [parseBlockSourceID, hoff, readUintN_writeUintN_three, ok_bind,
    readUintN_writeUintN_one, hmod, UInt8.ofNat_toNat, pure_eq_ok]

theorem readInto_write (id : BlockRepairID) (rest : Bytes) :
    readInto 8 (id.write ++ rest) = .ok (id.write, rest) := by
  have h := @readInto_append id.write (by simp [BlockRepairID.write]) rest
  rwa [BlockRepairID.write_length] at h

section Parse

variable {e : Nat} {rf : RepairFrame} {nss nrs n : Nat} {brid : BlockRepairID}

/-- A REPAIR frame whose metadata is two totals, a block repair ID and a count `n`,
followed by `n * e` bytes of symbols, parses back from its bytes and leaves what
follows them. -/
theorem parseRepairFrame_write (hnss : nss ≤ maxVarInt8) (hnrs : nrs ≤ maxVarInt8)
    (hn : n ≤ maxVarInt8) (hmd : rf.metadata = metadataPrefix nss nrs brid ++ varIntBytes n)
    (hD : rf.repairSymbols.length = n * e) (hD0 : rf.repairSymbols ≠ [])
    (halloc : n * e ≤ maxAlloc) (rest : Bytes) :
    parseRepairFrame e (rf.write ++ rest) = .ok (rf, rest) := by
  have hstart : rf.write ++ rest = REPAIR_FRAME_TYPE :: (rf.metadata ++ (rf.repairSymbols ++ rest)) := by
    simp [RepairFrame.write]
  have hfields : readVarInt (rf.metadata ++ (rf.repairSymbols ++ rest)) =
      .ok (nss, varIntBytes nrs ++ (brid.write ++ (varIntBytes n ++ (rf.repairSymbols ++ rest)))) := by
    rw [hmd, metadataPrefix]
    simp only [List.append_assoc]
    exact readVarInt_varIntBytes hnss _
  have hmd0 : rf.metadata ≠ [] := by simp [hmd, metadataPrefix, varIntBytes_ne_nil]
  have hmdlen : rf.metadata.length ≤ maxAlloc := by
    have := varIntBytes_length_le nss
    have := varIntBytes_length_le nrs
    have := varIntBytes_length_le n
    simp only [hmd, metadataPrefix, List.length_append, BlockRepairID.write_length]
    unfold maxAlloc
    omega
  -- the symbols' size is a `uint64` product, which does not wrap
  have hmod : n * e % 2 ^ 64 = rf.repairSymbols.length := by
    rw [hD]
    exact Nat.mod_eq_of_lt (by unfold maxAlloc at halloc; omega)
  rw [← hD] at halloc
  unfold parseRepairFrame
  simp only [hstart, readByte_cons, ok_bind, hfields, readVarInt_varIntBytes hnrs, readInto_write,
    readVarInt_varIntBytes hn, List.length_append, Nat.add_sub_cancel, hmod, makeSlice_of_le hmdlen,
    makeSlice_of_le halloc]
  simp only [readInto_append hmd0, ok_bind, readInto_append hD0, pure_eq_ok]

/-- The metadata of such a frame reads back as the two totals, the block repair ID
with its block number modulo `2^24`, and the count, and passes both checks against
the symbols' length. -/
theorem getRepairFrameMetadata_write (he : 0 < e) (hnss : nss ≤ maxVarInt8)
    (hnrs : nrs ≤ maxVarInt8) (hn : n ≤ maxVarInt8)
    (hmd : rf.metadata = metadataPrefix nss nrs brid ++ varIntBytes n)
    (hD : rf.repairSymbols.length = n * e) (hlt : n * e < 2 ^ 64) :
    getRepairFrameMetadata e rf = .ok (nss, nrs, ⟨brid.fecSchemeSpecific,
      ⟨UInt32.ofNat (brid.blockSourceID.blockNumber.toNat % 2 ^ 24),
        brid.blockSourceID.blockOffset⟩⟩, n) := by
  have hfss (r : Bytes) :
      readInto 4 (brid.fecSchemeSpecific.toList ++ r) = .ok (brid.fecSchemeSpecific.toList, r) := by
    have h := @readInto_append brid.fecSchemeSpecific.toList
      (by simp) r
    rwa [Vector.length_toList] at h
  have hlast : readVarInt (varIntBytes n) = .ok (n, []) := by
    simpa using readVarInt_varIntBytes hn []
  unfold getRepairFrameMetadata
  simp only [hmd, metadataPrefix, BlockRepairID.write, List.append_assoc, List.singleton_append,
    readVarInt_varIntBytes hnss, ok_bind, readVarInt_varIntBytes hnrs, hfss, parseBlockSourceID_write,
    hlast]
  have hwrap : e * n % 2 ^ 64 = n * e := by
    rw [Nat.mul_comm]
    exact Nat.mod_eq_of_lt hlt
  simp only [hD, modU64_of_pos he, ok_bind, Nat.mul_mod_left, hwrap, ne_eq, not_true_eq_false,
    if_false, fixedArray_toList_self, pure_eq_ok]

end Parse

/-! ## The round trip -/

/-- **REPAIR frames round trip.**  For symbols of at least 8 bytes, a frame that
`getRepairFrame` returns carries between one and all of the block's repair
symbols, fits the budget, parses back from its bytes whatever follows them, and
its metadata reads back as the block's totals, the first symbol's block source ID
with zero scheme-specific bytes and its block number modulo `2^24`, and the
number of symbols it carries, which are the first ones of the block.  The block's
repair data is held in memory, so it is less than Go's largest allocation. -/
theorem getRepairFrame_roundTrip {e : Nat} {block : FECBlock} {symbols : List BlockRepairSymbol}
    (he : 8 ≤ e) (hsyms : block.repairSymbols = symbols.map some) (hne : symbols ≠ [])
    (hlen : ∀ s ∈ symbols, s.data.length = e) (halloc : symbols.length * e ≤ maxAlloc)
    {maxSize : Nat} {rf : RepairFrame} {n : Nat}
    (h : getRepairFrame e block maxSize = .ok (some rf, n)) :
    1 ≤ n ∧ n ≤ block.repairSymbols.length ∧ rf.length ≤ maxSize ∧ rf.write.length = rf.length ∧
      (∀ rest, parseRepairFrame e (rf.write ++ rest) = .ok (rf, rest)) ∧
      getRepairFrameMetadata e rf = .ok (block.totalNumberOfSourceSymbols,
        block.totalNumberOfRepairSymbols, ⟨Vector.replicate 4 0,
          ⟨UInt32.ofNat ((symbols.head hne).blockRepairID.blockSourceID.blockNumber.toNat % 2 ^ 24),
            (symbols.head hne).blockRepairID.blockSourceID.blockOffset⟩⟩, n) ∧
      rf.repairSymbols = ((symbols.take n).map (·.data)).flatten := by
  obtain ⟨hnss, hnrs, hnmax, hn1, hnlen, hbudget, hmd, hrs⟩ :=
    getRepairFrame_spec (by omega) hsyms hne hlen h
  have hD : rf.repairSymbols.length = n * e := by
    rw [hrs, length_flatten_data fun s hs => hlen s (List.mem_of_mem_take hs), List.length_take,
      Nat.min_eq_left hnlen]
  have hnD : n * e ≤ maxAlloc := Nat.le_trans (Nat.mul_le_mul_right e hnlen) halloc
  have hD0 : rf.repairSymbols ≠ [] := by
    rw [← List.length_pos_iff, hD]
    exact Nat.mul_pos hn1 (by omega)
  refine ⟨hn1, by rw [hsyms, List.length_map]; exact hnlen, ?_, ?_,
    parseRepairFrame_write hnss hnrs hnmax hmd hD hD0 hnD, ?_, hrs⟩
  · -- the count takes at most 8 bytes, so dropping a symbol of `e ≥ 8` bytes makes room for it
    have hL := varIntBytes_length_le n
    have he' : e ≤ n * e := Nat.le_mul_of_pos_left e hn1
    rw [Nat.succ_mul] at hbudget
    simp only [RepairFrame.length, hmd, hD, List.length_append]
    omega
  · simp only [RepairFrame.write, RepairFrame.length, List.length_append, List.length_singleton]
  · rw [getRepairFrameMetadata_write (by omega) hnss hnrs hnmax hmd hD
      (by unfold maxAlloc at hnD; omega)]

/-- The round trip for a block of one symbol of 8 bytes and a budget of 100 bytes. -/
theorem getRepairFrame_roundTrip_block_five :
    (∀ rest, parseRepairFrame 8
        (RepairFrame.write ⟨[1, 1, 0, 0, 0, 0, 0, 0, 5, 0, 1], List.replicate 8 7⟩ ++ rest) =
      .ok (⟨[1, 1, 0, 0, 0, 0, 0, 0, 5, 0, 1], List.replicate 8 7⟩, rest)) ∧
    getRepairFrameMetadata 8 ⟨[1, 1, 0, 0, 0, 0, 0, 0, 5, 0, 1], List.replicate 8 7⟩ =
      .ok (1, 1, ⟨Vector.replicate 4 0, ⟨5, 0⟩⟩, 1) := by
  obtain ⟨-, -, -, -, hparse, hmeta, -⟩ := @getRepairFrame_roundTrip 8
    ⟨5, [some ⟨⟨Vector.replicate 4 0, ⟨5, 0⟩⟩, List.replicate 8 7⟩], [], GoMap.empty, GoMap.empty, 1, 1⟩
    [⟨⟨Vector.replicate 4 0, ⟨5, 0⟩⟩, List.replicate 8 7⟩] (by decide) rfl (List.cons_ne_nil _ _)
    (by decide) (by decide) 100 ⟨[1, 1, 0, 0, 0, 0, 0, 0, 5, 0, 1], List.replicate 8 7⟩ 1 (by decide)
  exact ⟨hparse, hmeta⟩

/-- **The block number is cut to three bytes.**  The first repair symbol of block
`2^24` is announced as one of block `0`. -/
theorem getRepairFrame_blockNumber_truncated :
    getRepairFrame 8 ⟨16777216, [some ⟨⟨Vector.replicate 4 0, ⟨16777216, 0⟩⟩, List.replicate 8 0⟩],
        [], GoMap.empty, GoMap.empty, 1, 1⟩ 100 =
      .ok (some ⟨[1, 1, 0, 0, 0, 0, 0, 0, 0, 0, 1], List.replicate 8 0⟩, 1) ∧
    getRepairFrameMetadata 8 ⟨[1, 1, 0, 0, 0, 0, 0, 0, 0, 0, 1], List.replicate 8 0⟩ =
      .ok (1, 1, ⟨Vector.replicate 4 0, ⟨0, 0⟩⟩, 1) := by
  refine ⟨by decide, by decide⟩

end fecFramesParserI

end QuicFec
