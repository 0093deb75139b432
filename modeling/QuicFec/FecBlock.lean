import QuicFec.FecPayload
import QuicFec.Lib.GoMap

/-! # FEC blocks

`internal/fec/block/fec_block.go`: the identifiers of source and repair symbols,
and the FEC block that holds the symbols of one block on either side.

A block keeps its symbols in slices indexed by their offset in the block, a
`uint8`; `nil` (`none`) stands for a symbol that is not there.  Beside each slice
a map records the identifiers the block has been given, and the number of its
entries is what the FEC schemes count as the symbols present.  The sender appends
symbols with `AddSourceSymbol`, which numbers them by the size of the map; the
receiver puts each symbol at the offset its identifier names with
`SetSourceSymbol` and `SetRepairSymbol`, growing the slice with nils on the way;
`GetSourceSymbols` reads the slice back, keeping only the offsets the map names.

Offsets are `uint8`s and lengths are converted to `uint8` before they are
compared with them, so the model keeps that arithmetic.  Two consequences:

* `AddSourceSymbol` numbers the 257th symbol of a block `0` again, so a block of
  more than 256 symbols has symbols `GetSourceSymbols` does not see
  (`getSourceSymbols_addSourceSymbols`);
* the loop that grows a slice counts with a `uint8` up to the number of nils
  to add, inclusive, and never ends when that number is 255: a symbol at offset
  255 for a block whose slice is empty makes the receiver append until memory
  runs out (`setSourceSymbol_offset_255`).

Main results:

* `getSourceSymbols_eq`: what `GetSourceSymbols` returns, whatever the order in
  which Go visits the map;
* `addSourceSymbols_offsets`, `getSourceSymbols_addSourceSymbols`: the sender's
  block after any number of symbols;
* `Holds.setSourceSymbols`, `Holds.setRepairSymbols`: the receiver's block after
  symbols set at distinct offsets, in any order, holds each at its offset and
  records each in its map (`Holds`); padded to its totals it is the block the
  FEC schemes recover (`HoldsAllBut`, `holdsAllBut_of_setSymbols`).
-/
namespace QuicFec
open GoBytes

/-! ## Identifiers -/

/-- `MAX_BLOCK_OFFSET`. -/
def MAX_BLOCK_OFFSET : UInt8 := 0xFF

/-- `BlockSourceID`: a block number (`uint32`) and an offset in the block
(`uint8`). -/
structure BlockSourceID where
  blockNumber : UInt32
  blockOffset : UInt8
  deriving DecidableEq, Repr

namespace BlockSourceID

/-- `EncodeBlockSourceID`: the block number on three bytes, the offset on one. -/
def encodeBlockSourceID (b : BlockSourceID) : Bytes :=
  writeUintN 3 b.blockNumber.toNat ++ writeUintN 1 b.blockOffset.toNat

/-- `ToFPID`. -/
def toFPID (b : BlockSourceID) : Vector UInt8 4 := fixedArray 4 b.encodeBlockSourceID

/-- `NextOffset`. -/
def nextOffset (b : BlockSourceID) : Except GoError BlockSourceID :=
  if b.blockOffset = MAX_BLOCK_OFFSET then .error (.error "next offset over the maximum value")
  else .ok ⟨b.blockNumber, b.blockOffset + 1⟩

end BlockSourceID

/-- `ParseBlockSourceID`. -/
def parseBlockSourceID (r : Bytes) : Except GoError (BlockSourceID × Bytes) := do
  let (number, r) ← readUintN 3 r
  let (offset, r) ← readUintN 1 r
  return (⟨UInt32.ofNat number, UInt8.ofNat offset⟩, r)

/-- `NewBlockSourceID`. -/
def newBlockSourceID (id : Vector UInt8 4) : Except GoError BlockSourceID :=
  (parseBlockSourceID id.toList).map (·.1)

/-- `BlockRepairID`. -/
structure BlockRepairID where
  fecSchemeSpecific : Vector UInt8 4
  blockSourceID : BlockSourceID
  deriving DecidableEq, Repr

/-- `BlockRepairID.Write`; writing into a `bytes.Buffer` does not fail. -/
def BlockRepairID.write (id : BlockRepairID) : Bytes :=
  id.fecSchemeSpecific.toList ++ writeUintN 3 id.blockSourceID.blockNumber.toNat ++
    [id.blockSourceID.blockOffset]

/-- `BlockRepairSymbol`. -/
structure BlockRepairSymbol where
  blockRepairID : BlockRepairID
  data : Bytes
  deriving DecidableEq, Repr

/-! ## Blocks -/

/-- `FECBlock`.  The two totals are `uint64`s that the framework sets. -/
structure FECBlock where
  blockNumber : UInt32
  repairSymbols : List (Option BlockRepairSymbol)
  sourceSymbols : List (Option BlockSourceSymbol)
  sourceSymbolsOffsets : GoMap BlockSourceID UInt8
  repairSymbolsOffsets : GoMap BlockRepairID UInt8
  totalNumberOfSourceSymbols : Nat
  totalNumberOfRepairSymbols : Nat

/-- `NewFECBlock`. -/
def newFECBlock (blockNumber : UInt32) : FECBlock :=
  ⟨blockNumber, [], [], GoMap.empty, GoMap.empty, 0, 0⟩

namespace FECBlock

/-- `AddSourceSymbol`: the new symbol's offset is the size of the map, as a
`uint8`. -/
def addSourceSymbol (f : FECBlock) (ss : BlockSourceSymbol) : FECBlock × BlockSourceID :=
  let id : BlockSourceID := ⟨f.blockNumber, UInt8.ofNat f.sourceSymbolsOffsets.len⟩
  ({ f with
      sourceSymbols := f.sourceSymbols ++ [some ss]
      sourceSymbolsOffsets := f.sourceSymbolsOffsets.insert id id.blockOffset }, id)

/-- The loop `for i := BlockOffset(0); i <= delta; i++` of `SetSourceSymbol` and
`SetRepairSymbol`, which appends a nil each round: `delta + 1` of them, except
that for `delta = 255` the `uint8` counter wraps to `0` before it passes `delta`,
and the loop appends until memory runs out. -/
def appendNils {α : Type} (symbols : List (Option α)) (delta : UInt8) :
    Except GoError (List (Option α)) :=
  if delta = 255 then .error outOfMemory
  else .ok (symbols ++ List.replicate (delta.toNat + 1) none)

/-- The body `SetSourceSymbol` and `SetRepairSymbol` share: grow the slice with
nils up to `offset` when `offset` is not below its length (as `uint8`s), put the
symbol at `offset`, and record `offset` under the symbol's identifier. -/
def setSymbol {α κ : Type} [DecidableEq κ] (symbols : List (Option α))
    (offsets : GoMap κ UInt8) (symbol : α) (id : κ) (offset : UInt8) :
    Except GoError (List (Option α) × GoMap κ UInt8) := do
  let symbols ← (if offset ≥ UInt8.ofNat symbols.length then
      appendNils symbols (offset - UInt8.ofNat symbols.length)
    else pure symbols)
  let symbols ← setIndex symbols offset.toNat (some symbol)
  return (symbols, offsets.insert id offset)

/-- `SetSourceSymbol`. -/
def setSourceSymbol (f : FECBlock) (ss : BlockSourceSymbol) (id : BlockSourceID) :
    Except GoError FECBlock := do
  let (symbols, offsets) ← setSymbol f.sourceSymbols f.sourceSymbolsOffsets ss id id.blockOffset
  return { f with sourceSymbols := symbols, sourceSymbolsOffsets := offsets }

/-- `SetRepairSymbol`. -/
def setRepairSymbol (f : FECBlock) (symbol : BlockRepairSymbol) : Except GoError FECBlock := do
  let (symbols, offsets) ← setSymbol f.repairSymbols f.repairSymbolsOffsets symbol
    symbol.blockRepairID symbol.blockRepairID.blockSourceID.blockOffset
  return { f with repairSymbols := symbols, repairSymbolsOffsets := offsets }

/-- `SetRepairSymbols`. -/
def setRepairSymbols (f : FECBlock) (symbols : List BlockRepairSymbol) : Except GoError FECBlock :=
  symbols.foldlM setRepairSymbol f

/-- `CurrentNumberOfSourceSymbols`. -/
def currentNumberOfSourceSymbols (f : FECBlock) : Nat := f.sourceSymbolsOffsets.len

/-- `CurrentNumberOfRepairSymbols`. -/
def currentNumberOfRepairSymbols (f : FECBlock) : Nat := f.repairSymbolsOffsets.len

/-- One round of the loop of `GetSourceSymbols`: `retVal[idx] = f.SourceSymbols[idx]`
for the offset `idx` of one entry of the map. -/
def getSourceSymbolsStep (symbols : List (Option BlockSourceSymbol))
    (retVal : List (Option BlockSourceSymbol)) (e : BlockSourceID × UInt8) :
    Except GoError (List (Option BlockSourceSymbol)) := do
  let s ← index symbols e.2.toNat
  setIndex retVal e.2.toNat s

/-- `GetSourceSymbols`: a slice as long as the block's, holding the block's symbol
at each offset the map records and nil elsewhere. -/
def getSourceSymbols (f : FECBlock) : Except GoError (List (Option BlockSourceSymbol)) :=
  f.sourceSymbolsOffsets.entries.foldlM (getSourceSymbolsStep f.sourceSymbols)
    (List.replicate f.sourceSymbols.length none)

/-! ## What `GetSourceSymbols` returns -/

/-- What the loop of `GetSourceSymbols` has built after the entries `es`: the
block's symbol at each offset `es` names, nil elsewhere. -/
def collected (symbols : List (Option BlockSourceSymbol)) (es : List (BlockSourceID × UInt8)) :
    List (Option BlockSourceSymbol) :=
  (List.range symbols.length).map fun i =>
    if es.any (fun e => e.2.toNat = i) then symbols.getD i none else none

@[simp] theorem length_collected (symbols : List (Option BlockSourceSymbol))
    (es : List (BlockSourceID × UInt8)) : (collected symbols es).length = symbols.length := by
  simp [collected]

theorem getSourceSymbolsStep_collected {symbols : List (Option BlockSourceSymbol)}
    (es : List (BlockSourceID × UInt8)) {e : BlockSourceID × UInt8}
    (he : e.2.toNat < symbols.length) :
    getSourceSymbolsStep symbols (collected symbols es) e = .ok (collected symbols (es ++ [e])) := by
  rw [getSourceSymbolsStep, index_of_lt he, ok_bind,
    setIndex_of_lt (by rwa [length_collected])]
  congr 1
  apply List.ext_getElem (by simp)
  intro i h1 h2
  by_cases hi : e.2.toNat = i
  · subst hi
    simp [collected, List.getD_eq_getElem?_getD, List.getElem?_eq_getElem he]
  · rw [List.getElem_set_ne hi]
    simp only [collected, List.getElem_map, List.getElem_range, List.any_append, List.any_cons,
      List.any_nil, hi, decide_false, Bool.or_false]

/-- The loop of `GetSourceSymbols` over entries whose offsets are all inside the
block's slice. -/
theorem getSourceSymbolsLoop_eq {symbols : List (Option BlockSourceSymbol)}
    (es : List (BlockSourceID × UInt8)) (h : ∀ e ∈ es, e.2.toNat < symbols.length)
    (pre : List (BlockSourceID × UInt8)) :
    es.foldlM (getSourceSymbolsStep symbols) (collected symbols pre) =
      .ok (collected symbols (pre ++ es)) := by
  induction es generalizing pre with
  | nil => simp
  | cons e es ih =>
    rw [List.foldlM_cons, getSourceSymbolsStep_collected pre (h e List.mem_cons_self), ok_bind,
      ih (fun e' he' => h e' (List.mem_cons_of_mem e he')), List.append_assoc,
      List.singleton_append]

/-- `GetSourceSymbols`, whatever the order in which Go visits the map, as long as
every offset the map records is inside the block's slice. -/
theorem getSourceSymbols_eq {f : FECBlock}
    (h : ∀ e ∈ f.sourceSymbolsOffsets.entries, e.2.toNat < f.sourceSymbols.length) :
    f.getSourceSymbols = .ok (collected f.sourceSymbols f.sourceSymbolsOffsets.entries) := by
  have hnil : collected f.sourceSymbols [] = List.replicate f.sourceSymbols.length none := by
    simp [collected]
  rw [getSourceSymbols, ← hnil, getSourceSymbolsLoop_eq _ h]
  rfl

/-- An offset outside the block's slice makes the loop of `GetSourceSymbols`
panic. -/
theorem lt_of_getSourceSymbolsLoop_ok {symbols : List (Option BlockSourceSymbol)}
    {es : List (BlockSourceID × UInt8)} {init r : List (Option BlockSourceSymbol)}
    (hr : es.foldlM (getSourceSymbolsStep symbols) init = .ok r) :
    ∀ e ∈ es, e.2.toNat < symbols.length := by
  induction es generalizing init with
  | nil => simp
  | cons e es ih =>
    rw [List.foldlM_cons] at hr
    obtain ⟨retVal, hstep, hrest⟩ := bind_eq_ok.1 hr
    obtain ⟨s, hs, -⟩ := bind_eq_ok.1 hstep
    have he : e.2.toNat < symbols.length := by
      unfold index at hs
      split at hs
      · rename_i a ha
        exact (List.getElem?_eq_some_iff.1 ha).1
      · cases hs
    intro e' he'
    rcases List.mem_cons.1 he' with rfl | he'
    · exact he
    · exact ih hrest e' he'

theorem lt_of_getSourceSymbols_ok {f : FECBlock} {r : List (Option BlockSourceSymbol)}
    (hr : f.getSourceSymbols = .ok r) :
    ∀ e ∈ f.sourceSymbolsOffsets.entries, e.2.toNat < f.sourceSymbols.length :=
  lt_of_getSourceSymbolsLoop_ok hr

/-- Only offsets below 256 can be collected, so a block whose `GetSourceSymbols`
holds no nil has at most 256 symbols. -/
theorem getSourceSymbols_length_le {f : FECBlock} {ss : List BlockSourceSymbol}
    (h : f.getSourceSymbols = .ok (ss.map some)) : ss.length ≤ 256 := by
  rw [getSourceSymbols_eq (lt_of_getSourceSymbols_ok h)] at h
  have hr := Except.ok.inj h
  by_contra hlt
  have hlen : 256 < (collected f.sourceSymbols f.sourceSymbolsOffsets.entries).length := by
    rw [hr, List.length_map]
    omega
  have h256 := congrArg (·[256]?) hr
  simp only [collected, List.getElem?_map, List.getElem?_range (by simpa using hlen),
    Option.map_some] at h256
  have hany : f.sourceSymbolsOffsets.entries.any (fun e => e.2.toNat = 256) = false := by
    simp only [List.any_eq_false, decide_eq_true_eq]
    intro e _
    have := e.2.toNat_lt
    omega
  rw [hany, List.getElem?_eq_getElem (show 256 < ss.length by omega)] at h256
  simp at h256

theorem collected_perm (symbols : List (Option BlockSourceSymbol))
    {es es' : List (BlockSourceID × UInt8)} (h : es.Perm es') :
    collected symbols es = collected symbols es' := by
  simp only [collected, h.any_eq]

/-- When the map names every offset that holds a symbol, `GetSourceSymbols` gives
back the block's slice. -/
theorem collected_eq_self {symbols : List (Option BlockSourceSymbol)}
    {es : List (BlockSourceID × UInt8)}
    (h : ∀ i (hi : i < symbols.length), symbols[i] ≠ none → es.any (fun e => e.2.toNat = i)) :
    collected symbols es = symbols := by
  apply List.ext_getElem (by simp)
  intro i h1 h2
  simp only [collected, List.getElem_map, List.getElem_range, List.getD_eq_getElem?_getD,
    List.getElem?_eq_getElem h2, Option.getD_some]
  by_cases hs : symbols[i] = none
  · simp [hs]
  · simp [h i h2 hs]

theorem toNat_ofNat_of_lt {n : Nat} (h : n < 256) : (UInt8.ofNat n).toNat = n := by
  rw [UInt8.toNat_ofNat']
  omega

/-! ## The sender's block -/

/-- The entries of the offsets map of a block that holds the offsets below `m`. -/
def offsetsUpTo (blockNumber : UInt32) (m : Nat) : List (BlockSourceID × UInt8) :=
  (List.range m).map fun i => (⟨blockNumber, UInt8.ofNat i⟩, UInt8.ofNat i)

theorem mem_offsetsUpTo {blockNumber : UInt32} {m : Nat} (hm : m ≤ 256)
    {e : BlockSourceID × UInt8} :
    e ∈ offsetsUpTo blockNumber m ↔ e.2.toNat < m ∧ e = (⟨blockNumber, e.2⟩, e.2) := by
  constructor
  · intro he
    obtain ⟨i, hi, rfl⟩ := List.mem_map.1 he
    rw [List.mem_range] at hi
    exact ⟨by rw [toNat_ofNat_of_lt (by omega)]; exact hi, rfl⟩
  · rintro ⟨hlt, heq⟩
    refine List.mem_map.2 ⟨e.2.toNat, List.mem_range.2 hlt, ?_⟩
    rw [heq]
    simp

@[simp] theorem addSourceSymbol_blockNumber (f : FECBlock) (ss : BlockSourceSymbol) :
    (f.addSourceSymbol ss).1.blockNumber = f.blockNumber := rfl

/-- One `AddSourceSymbol`: the map holds the offsets below the number of symbols
added, up to 256, after which the new symbol is numbered 0 again and the map does
not change. -/
theorem addSourceSymbol_offsets {f : FECBlock} {n : Nat}
    (h : f.sourceSymbolsOffsets.entries.Perm (offsetsUpTo f.blockNumber (min n 256)))
    (ss : BlockSourceSymbol) :
    (f.addSourceSymbol ss).1.sourceSymbolsOffsets.entries.Perm
      (offsetsUpTo f.blockNumber (min (n + 1) 256)) := by
  have hlen : f.sourceSymbolsOffsets.len = min n 256 := by
    rw [GoMap.len, h.length_eq, offsetsUpTo, List.length_map, List.length_range]
  simp only [addSourceSymbol, hlen]
  by_cases hn : n < 256
  · -- a fresh offset: the map grows by one entry
    rw [Nat.min_eq_left (Nat.le_of_lt hn), Nat.min_eq_left (by omega : n + 1 ≤ 256)]
    have hfresh : (⟨f.blockNumber, UInt8.ofNat n⟩ : BlockSourceID) ∉
        f.sourceSymbolsOffsets.entries.map Prod.fst := by
      rw [List.mem_map]
      rintro ⟨e, he, hkey⟩
      have hmem := (mem_offsetsUpTo (by omega)).1 (h.mem_iff.1 he)
      rw [Nat.min_eq_left (Nat.le_of_lt hn)] at hmem
      have hoff : e.2 = UInt8.ofNat n := by
        rw [hmem.2] at hkey
        exact (BlockSourceID.mk.inj hkey).2
      have := hmem.1
      rw [hoff, toNat_ofNat_of_lt hn] at this
      omega
    rw [GoMap.entries_insert_of_not_mem hfresh, offsetsUpTo, List.range_succ, List.map_append]
    exact ((h.trans (by rw [Nat.min_eq_left (Nat.le_of_lt hn)]; rfl)).cons _).trans
      (List.perm_append_singleton _ _).symm
  · -- the 257th symbol and later: offset 0 again, which the map already holds
    rw [Nat.min_eq_right (by omega : 256 ≤ n), Nat.min_eq_right (by omega : 256 ≤ n + 1)]
    rw [Nat.min_eq_right (by omega : 256 ≤ n)] at h
    have hzero : UInt8.ofNat 256 = 0 := by decide
    have hmem : ((⟨f.blockNumber, 0⟩ : BlockSourceID), (0 : UInt8)) ∈
        f.sourceSymbolsOffsets.entries :=
      h.mem_iff.2 ((mem_offsetsUpTo (Nat.le_refl 256)).2 ⟨by simp, rfl⟩)
    rw [hzero]
    exact (GoMap.entries_insert_perm hmem).trans h

/-- `AddSourceSymbol` of each of `ss` in turn, as the sender's `protectSourceSymbol`
does for the symbols of its payloads. -/
def addSourceSymbols (f : FECBlock) (ss : List BlockSourceSymbol) : FECBlock :=
  ss.foldl (fun f s => (f.addSourceSymbol s).1) f

/-- `AddSourceSymbols` from a block that holds the symbols `pre`, numbered in
order. -/
theorem addSourceSymbols_offsets_of {f : FECBlock} {pre : List BlockSourceSymbol}
    (hss : f.sourceSymbols = pre.map some)
    (hoff : f.sourceSymbolsOffsets.entries.Perm (offsetsUpTo f.blockNumber (min pre.length 256)))
    (ss : List BlockSourceSymbol) :
    (f.addSourceSymbols ss).blockNumber = f.blockNumber ∧
      (f.addSourceSymbols ss).sourceSymbols = (pre ++ ss).map some ∧
      (f.addSourceSymbols ss).sourceSymbolsOffsets.entries.Perm
        (offsetsUpTo f.blockNumber (min (pre ++ ss).length 256)) := by
  induction ss generalizing f pre with
  | nil => exact ⟨rfl, by simpa [addSourceSymbols] using hss, by simpa [addSourceSymbols] using hoff⟩
  | cons s ss ih =>
    have hstep := @ih (f.addSourceSymbol s).1 (pre ++ [s]) (by simp [addSourceSymbol, hss])
      (by simpa using addSourceSymbol_offsets hoff s)
    simpa [addSourceSymbols] using hstep

/-- The sender's block after the symbols `ss`: the symbols in order, and the
offsets below the number of symbols, up to 256. -/
theorem addSourceSymbols_offsets (blockNumber : UInt32) (ss : List BlockSourceSymbol) :
    ((newFECBlock blockNumber).addSourceSymbols ss).sourceSymbols = ss.map some ∧
      ((newFECBlock blockNumber).addSourceSymbols ss).sourceSymbolsOffsets.entries.Perm
        (offsetsUpTo blockNumber (min ss.length 256)) := by
  have h := @addSourceSymbols_offsets_of (newFECBlock blockNumber) [] rfl
    (by simp [newFECBlock, GoMap.empty, offsetsUpTo]) ss
  simpa [newFECBlock] using h.2

/-- `GetSourceSymbols` of the sender's block: every symbol, while there are at most
256 of them. -/
theorem getSourceSymbols_addSourceSymbols (blockNumber : UInt32) {ss : List BlockSourceSymbol}
    (h : ss.length ≤ 256) :
    ((newFECBlock blockNumber).addSourceSymbols ss).getSourceSymbols = .ok (ss.map some) := by
  obtain ⟨hss, hoff⟩ := addSourceSymbols_offsets blockNumber ss
  rw [Nat.min_eq_left h] at hoff
  have hin : ∀ e ∈ ((newFECBlock blockNumber).addSourceSymbols ss).sourceSymbolsOffsets.entries,
      e.2.toNat < ((newFECBlock blockNumber).addSourceSymbols ss).sourceSymbols.length := by
    intro e he
    rw [hss, List.length_map]
    exact ((mem_offsetsUpTo h).1 (hoff.mem_iff.1 he)).1
  rw [getSourceSymbols_eq hin, collected_perm _ hoff, hss]
  congr 1
  apply collected_eq_self
  intro i hi _
  rw [List.length_map] at hi
  rw [List.any_eq_true]
  refine ⟨(⟨blockNumber, UInt8.ofNat i⟩, UInt8.ofNat i), ?_, ?_⟩
  · exact List.mem_map.2 ⟨i, List.mem_range.2 hi, rfl⟩
  · simp [toNat_ofNat_of_lt (show i < 256 by omega)]

/-! ## The receiver's block -/

/-- The body of `SetSourceSymbol` and `SetRepairSymbol` on a slice shorter than
256, unless the slice is empty and the offset 255: the slice grown with nils up to
`offset`, with the symbol at `offset`. -/
theorem setSymbol_eq {α κ : Type} [DecidableEq κ] {symbols : List (Option α)} {offset : UInt8}
    (hlen : symbols.length < 256) (h255 : offset.toNat < 255 ∨ 0 < symbols.length)
    (offsets : GoMap κ UInt8) (symbol : α) (id : κ) :
    setSymbol symbols offsets symbol id offset =
      .ok ((symbols ++ List.replicate (offset.toNat + 1 - symbols.length) none).set offset.toNat
        (some symbol), offsets.insert id offset) := by
  have hof : (UInt8.ofNat symbols.length).toNat = symbols.length := toNat_ofNat_of_lt hlen
  unfold setSymbol
  by_cases hge : offset ≥ UInt8.ofNat symbols.length
  · -- the slice grows by `offset - len + 1` nils
    have hle : symbols.length ≤ offset.toNat := by
      rw [← hof]
      exact UInt8.le_iff_toNat_le.1 hge
    have hdelta : (offset - UInt8.ofNat symbols.length).toNat = offset.toNat - symbols.length := by
      rw [UInt8.toNat_sub_of_le _ _ hge, hof]
    have hne : offset - UInt8.ofNat symbols.length ≠ 255 := by
      intro h
      rw [h] at hdelta
      have := offset.toNat_lt
      simp at hdelta
      omega
    rw [if_pos hge, appendNils, if_neg hne, ok_bind, hdelta, setIndex_of_lt (by simp; omega),
      show offset.toNat - symbols.length + 1 = offset.toNat + 1 - symbols.length by omega]
    rfl
  · -- the offset is inside the slice
    have hlt : offset.toNat < symbols.length := by
      rw [← hof]
      exact UInt8.lt_iff_toNat_lt.1 (Nat.not_le.1 hge)
    rw [if_neg hge, pure_eq_ok, ok_bind, setIndex_of_lt hlt,
      show offset.toNat + 1 - symbols.length = 0 by omega]
    simp

/-- A source symbol at offset 255 for a block whose slice is empty (or holds a
multiple of 256 entries) sends `SetSourceSymbol` into its endless loop. -/
theorem setSourceSymbol_offset_255 {f : FECBlock} (h : f.sourceSymbols.length % 256 = 0)
    (ss : BlockSourceSymbol) (blockNumber : UInt32) :
    f.setSourceSymbol ss ⟨blockNumber, 255⟩ = .error outOfMemory := by
  have hzero : UInt8.ofNat f.sourceSymbols.length = 0 := by
    apply UInt8.toNat_inj.1
    rw [UInt8.toNat_ofNat']
    simpa using h
  simp [setSourceSymbol, setSymbol, hzero, appendNils]

/-! ### What the receiver's slices hold -/

section Slots

/-- A slice of `n` slots that holds each symbol of `W` at its offset, and nil
elsewhere. -/
def slotsOf {α : Type} (W : List (α × Nat)) (n : Nat) : List (Option α) :=
  (List.range n).map fun i => (W.find? (·.2 = i)).map (·.1)

variable {α : Type}

@[simp] theorem length_slotsOf (W : List (α × Nat)) (n : Nat) : (slotsOf W n).length = n := by
  simp [slotsOf]

theorem getElem_slotsOf (W : List (α × Nat)) {n i : Nat} (hi : i < (slotsOf W n).length) :
    (slotsOf W n)[i] = (W.find? (·.2 = i)).map (·.1) := by
  simp [slotsOf]

theorem slotsOf_nil (n : Nat) : slotsOf ([] : List (α × Nat)) n = List.replicate n none := by
  apply List.ext_getElem (by simp)
  intro i h1 h2
  simp [slotsOf]

/-- With distinct offsets, the slot of an offset holds the symbol `W` has there. -/
theorem find?_offset_eq {W : List (α × Nat)} (hnd : (W.map (·.2)).Nodup) {x : α × Nat}
    (hx : x ∈ W) : W.find? (·.2 = x.2) = some x := by
  cases found : W.find? (·.2 = x.2) with
  | none => exact absurd (decide_eq_true rfl) (List.find?_eq_none.1 found x hx)
  | some y =>
    have hyx : y.2 = x.2 := by simpa using List.find?_some found
    rw [List.inj_on_of_nodup_map hnd (List.mem_of_find?_eq_some found) hx hyx]

theorem find?_offset_eq_none {W : List (α × Nat)} {i : Nat} (h : ∀ x ∈ W, x.2 ≠ i) :
    W.find? (·.2 = i) = none :=
  List.find?_eq_none.2 fun x hx => by simpa using h x hx

/-- A slice that holds the symbols `W` at their offsets, distinct and inside it,
and nil elsewhere. -/
structure SlotsHold (symbols : List (Option α)) (W : List (α × Nat)) : Prop where
  eq : symbols = slotsOf W symbols.length
  lt : ∀ x ∈ W, x.2 < symbols.length
  nodup : (W.map (·.2)).Nodup

theorem slotsHold_replicate (n : Nat) : SlotsHold (List.replicate n (none : Option α)) [] :=
  ⟨by rw [List.length_replicate, slotsOf_nil], by simp, List.nodup_nil⟩

namespace SlotsHold

variable {symbols : List (Option α)} {W : List (α × Nat)}

theorem getElem_eq (h : SlotsHold symbols W) {i : Nat} (hi : i < symbols.length) :
    symbols[i] = (W.find? (·.2 = i)).map (·.1) := by
  rw [List.getElem_of_eq h.eq hi, getElem_slotsOf]

/-- Nils appended past the last slot keep what a slice holds. -/
theorem append_replicate (h : SlotsHold symbols W) (m : Nat) :
    SlotsHold (symbols ++ List.replicate m none) W := by
  refine ⟨?_, fun x hx => by simpa using Nat.lt_add_right m (h.lt x hx), h.nodup⟩
  apply List.ext_getElem (by simp)
  intro i h1 h2
  rw [List.getElem_append, getElem_slotsOf]
  split
  · exact h.getElem_eq _
  · rename_i hi
    rw [List.getElem_replicate, find?_offset_eq_none fun x hx => by have := h.lt x hx; omega]
    rfl

/-- A symbol put at a free offset inside the slice joins what it holds. -/
theorem set (h : SlotsHold symbols W) {o : Nat} (ho : o < symbols.length) (hnew : ∀ x ∈ W, x.2 ≠ o)
    (a : α) : SlotsHold (symbols.set o (some a)) ((a, o) :: W) := by
  refine ⟨?_, ?_, ?_⟩
  · apply List.ext_getElem (by simp)
    intro i h1 h2
    rw [getElem_slotsOf, List.getElem_set]
    split
    · rename_i hoi
      subst hoi
      simp
    · rename_i hoi
      rw [h.getElem_eq, List.find?_cons_of_neg (by simpa using hoi)]
  · intro x hx
    rcases List.mem_cons.1 hx with rfl | hx
    · simpa using ho
    · simpa using h.lt x hx
  · exact List.nodup_cons.2 ⟨fun hmem => by
      obtain ⟨x, hx, hxo⟩ := List.mem_map.1 hmem
      exact hnew x hx hxo, h.nodup⟩

end SlotsHold

/-- `SetSourceSymbol` and `SetRepairSymbol` on a slice that holds `W`: the symbol
joins it at its offset, and its identifier joins the map. -/
theorem setSymbol_slotsHold {κ : Type} [DecidableEq κ] {symbols : List (Option α)} {W : List (α × Nat)}
    (h : SlotsHold symbols W) (hlen : symbols.length < 256) {offset : UInt8} (h255 : offset.toNat < 255)
    (hnew : ∀ x ∈ W, x.2 ≠ offset.toNat) (offsets : GoMap κ UInt8) (symbol : α) (id : κ) :
    ∃ symbols', setSymbol symbols offsets symbol id offset = .ok (symbols', offsets.insert id offset) ∧
      SlotsHold symbols' ((symbol, offset.toNat) :: W) ∧
      symbols'.length = max symbols.length (offset.toNat + 1) := by
  have hpad := h.append_replicate (offset.toNat + 1 - symbols.length)
  have hplen : (symbols ++ List.replicate (offset.toNat + 1 - symbols.length) none).length =
      max symbols.length (offset.toNat + 1) := by
    simp only [List.length_append, List.length_replicate]
    omega
  refine ⟨_, setSymbol_eq hlen (.inl h255) offsets symbol id, hpad.set (by omega) hnew symbol, ?_⟩
  rw [List.length_set, hplen]

/-- The slots of symbols at distinct offsets depend only on which symbols they are. -/
theorem slotsOf_perm {W T : List (α × Nat)} (h : W.Perm T) (hnd : (T.map (·.2)).Nodup) (n : Nat) :
    slotsOf W n = slotsOf T n := by
  have hndW : (W.map (·.2)).Nodup := (h.map _).nodup_iff.2 hnd
  apply List.ext_getElem (by simp)
  intro i h1 h2
  rw [getElem_slotsOf, getElem_slotsOf]
  by_cases hi : ∃ x ∈ T, x.2 = i
  · obtain ⟨x, hx, rfl⟩ := hi
    rw [find?_offset_eq hndW (h.mem_iff.2 hx), find?_offset_eq hnd hx]
  · simp only [not_exists, not_and] at hi
    rw [find?_offset_eq_none hi, find?_offset_eq_none fun x hx => hi x (h.mem_iff.1 hx)]

/-- The symbols of a list at their indices but the `j`-th fill the slots of the
list's length with the list, a nil at `j`. -/
theorem slotsOf_zipIdx_eraseIdx {W : List (α × Nat)} {l : List α} {j : Nat}
    (h : W.Perm (l.zipIdx.eraseIdx j)) : slotsOf W l.length = (l.map some).set j none := by
  have hnd : ((l.zipIdx.eraseIdx j).map (·.2)).Nodup :=
    ((List.eraseIdx_sublist _ _).map _).nodup (List.nodup_zipIdx_map_snd l)
  rw [slotsOf_perm h hnd]
  apply List.ext_getElem (by simp)
  intro i h1 h2
  rw [getElem_slotsOf, List.getElem_set]
  split
  · rename_i hji
    subst hji
    rw [find?_offset_eq_none]
    · rfl
    intro x hx hxj
    obtain ⟨i', hi', hne, hx'⟩ := List.mem_eraseIdx_iff_getElem.1 hx
    rw [List.getElem_zipIdx] at hx'
    subst hx'
    exact hne (by simpa using hxj)
  · rename_i hji
    have hi : i < l.length := by simpa using h1
    have hmem : (l[i], i) ∈ l.zipIdx.eraseIdx j :=
      List.mem_eraseIdx_iff_getElem.2 ⟨i, by simpa using h1, Ne.symm hji, by simp [List.getElem_zipIdx]⟩
    rw [find?_offset_eq hnd hmem]
    simp

end Slots

/-- A receiver block whose slices hold the source symbols `WS` and the repair
symbols `WR` at their offsets, and whose maps record exactly their identifiers,
the source ones under the block's number. -/
structure Holds (b : FECBlock) (WS : List (BlockSourceSymbol × Nat))
    (WR : List (BlockRepairSymbol × Nat)) : Prop where
  source : SlotsHold b.sourceSymbols WS
  source_len : b.sourceSymbols.length < 256
  sourceOffsets : b.sourceSymbolsOffsets.entries.Perm
    (WS.map fun x => (⟨b.blockNumber, UInt8.ofNat x.2⟩, UInt8.ofNat x.2))
  repair : SlotsHold b.repairSymbols WR
  repair_len : b.repairSymbols.length < 256
  repairOffsets : (b.repairSymbolsOffsets.entries.map Prod.fst).Perm (WR.map (·.1.blockRepairID))

/-- A block the receiver opens: nils in its slices, nothing in its maps. -/
theorem holds_open {b : FECBlock} {n n' : Nat} (hs : b.sourceSymbols = List.replicate n none)
    (hr : b.repairSymbols = List.replicate n' none) (hn : n < 256) (hn' : n' < 256)
    (hms : b.sourceSymbolsOffsets = GoMap.empty) (hmr : b.repairSymbolsOffsets = GoMap.empty) :
    Holds b [] [] where
  source := hs ▸ slotsHold_replicate n
  source_len := by simpa [hs] using hn
  sourceOffsets := by simp [hms, GoMap.empty]
  repair := hr ▸ slotsHold_replicate n'
  repair_len := by simpa [hr] using hn'
  repairOffsets := by simp [hmr, GoMap.empty]

namespace Holds

variable {b : FECBlock} {WS : List (BlockSourceSymbol × Nat)} {WR : List (BlockRepairSymbol × Nat)}

/-- **`SetSourceSymbol`** at a free offset below 255 of a symbol of the block: the
symbol joins the source slice and its identifier the map. -/
theorem setSourceSymbol (hb : Holds b WS WR) (ss : BlockSourceSymbol) {id : BlockSourceID}
    (hid : id.blockNumber = b.blockNumber) (h255 : id.blockOffset.toNat < 255)
    (hnew : ∀ x ∈ WS, x.2 ≠ id.blockOffset.toNat) :
    ∃ symbols offsets, b.setSourceSymbol ss id =
        .ok { b with sourceSymbols := symbols, sourceSymbolsOffsets := offsets } ∧
      Holds { b with sourceSymbols := symbols, sourceSymbolsOffsets := offsets }
        ((ss, id.blockOffset.toNat) :: WS) WR ∧
      symbols.length = max b.sourceSymbols.length (id.blockOffset.toNat + 1) := by
  obtain ⟨symbols, hset, hhold, hlen⟩ :=
    setSymbol_slotsHold hb.source hb.source_len h255 hnew b.sourceSymbolsOffsets ss id
  -- no symbol held has the offset, so the identifier is a new key
  have hkey : id ∉ b.sourceSymbolsOffsets.entries.map Prod.fst := by
    intro hmem
    rw [(hb.sourceOffsets.map Prod.fst).mem_iff, List.map_map, List.mem_map] at hmem
    obtain ⟨x, hx, hxid⟩ := hmem
    have hx256 : x.2 < 256 := lt_trans (hb.source.lt x hx) hb.source_len
    apply hnew x hx
    rw [← congrArg BlockSourceID.blockOffset hxid]
    exact (toNat_ofNat_of_lt hx256).symm
  have hhead : (id, id.blockOffset) =
      ((⟨b.blockNumber, UInt8.ofNat id.blockOffset.toNat⟩ : BlockSourceID), UInt8.ofNat id.blockOffset.toNat) := by
    rw [UInt8.ofNat_toNat, ← hid]
  have hlt : symbols.length < 256 := by
    have := hb.source_len
    omega
  refine ⟨symbols, b.sourceSymbolsOffsets.insert id id.blockOffset, by simp [FECBlock.setSourceSymbol, hset],
    ⟨hhold, hlt, ?_, hb.repair, hb.repair_len, hb.repairOffsets⟩, hlen⟩
  rw [GoMap.entries_insert_of_not_mem hkey, hhead]
  exact hb.sourceOffsets.cons _

/-- **`SetRepairSymbol`** at a free offset below 255 of a symbol with a new
identifier: the symbol joins the repair slice and its identifier the map. -/
theorem setRepairSymbol (hb : Holds b WS WR) {symbol : BlockRepairSymbol}
    (h255 : symbol.blockRepairID.blockSourceID.blockOffset.toNat < 255)
    (hnew : ∀ x ∈ WR, x.2 ≠ symbol.blockRepairID.blockSourceID.blockOffset.toNat)
    (hid : ∀ x ∈ WR, x.1.blockRepairID ≠ symbol.blockRepairID) :
    ∃ symbols offsets, b.setRepairSymbol symbol =
        .ok { b with repairSymbols := symbols, repairSymbolsOffsets := offsets } ∧
      Holds { b with repairSymbols := symbols, repairSymbolsOffsets := offsets } WS
        ((symbol, symbol.blockRepairID.blockSourceID.blockOffset.toNat) :: WR) ∧
      symbols.length = max b.repairSymbols.length (symbol.blockRepairID.blockSourceID.blockOffset.toNat + 1) := by
  obtain ⟨symbols, hset, hhold, hlen⟩ := setSymbol_slotsHold hb.repair hb.repair_len h255 hnew
    b.repairSymbolsOffsets symbol symbol.blockRepairID
  have hkey : symbol.blockRepairID ∉ b.repairSymbolsOffsets.entries.map Prod.fst := by
    rw [hb.repairOffsets.mem_iff, List.mem_map]
    rintro ⟨x, hx, hxid⟩
    exact hid x hx hxid
  have hlt : symbols.length < 256 := by
    have := hb.repair_len
    omega
  refine ⟨symbols, b.repairSymbolsOffsets.insert symbol.blockRepairID
      symbol.blockRepairID.blockSourceID.blockOffset, by simp [FECBlock.setRepairSymbol, hset],
    ⟨hb.source, hb.source_len, hb.sourceOffsets, hhold, hlt, ?_⟩, hlen⟩
  rw [GoMap.entries_insert_of_not_mem hkey, List.map_cons, List.map_cons]
  exact hb.repairOffsets.cons _

/-- `SetSourceSymbol` for symbols of the block at distinct free offsets below
`k ≤ 255`, in any order, on a slice of at most `k` slots. -/
theorem setSourceSymbols {k : Nat} (hk : k ≤ 255) :
    ∀ {xs : List (BlockSourceSymbol × BlockSourceID)} {b : FECBlock} {WS : List (BlockSourceSymbol × Nat)},
      Holds b WS WR → b.sourceSymbols.length ≤ k →
      (∀ x ∈ xs, x.2.blockNumber = b.blockNumber ∧ x.2.blockOffset.toNat < k) →
      (xs.map (·.2.blockOffset.toNat) ++ WS.map (·.2)).Nodup →
      ∃ symbols offsets, xs.foldlM (fun b x => b.setSourceSymbol x.1 x.2) b =
          .ok { b with sourceSymbols := symbols, sourceSymbolsOffsets := offsets } ∧
        Holds { b with sourceSymbols := symbols, sourceSymbolsOffsets := offsets }
          ((xs.map fun x => (x.1, x.2.blockOffset.toNat)).reverse ++ WS) WR ∧ symbols.length ≤ k
  | [], b, _, hb, hlen, _, _ => ⟨b.sourceSymbols, b.sourceSymbolsOffsets, rfl, hb, hlen⟩
  | x :: xs, b, WS, hb, hlen, hxs, hnd => by
    obtain ⟨hid, hoff⟩ := hxs x List.mem_cons_self
    have hnd' := List.nodup_cons.1 hnd
    have hnew : ∀ y ∈ WS, y.2 ≠ x.2.blockOffset.toNat := fun y hy hyx =>
      hnd'.1 (List.mem_append_right _ (List.mem_map.2 ⟨y, hy, hyx⟩))
    obtain ⟨s₁, m₁, h₁, hb₁, hlen₁⟩ := hb.setSourceSymbol x.1 hid (by omega) hnew
    obtain ⟨s₂, m₂, h₂, hb₂, hlen₂⟩ := setSourceSymbols hk hb₁ (show s₁.length ≤ k by omega)
      (fun y hy => hxs y (List.mem_cons_of_mem _ hy)) (List.perm_middle.nodup_iff.2 hnd)
    refine ⟨s₂, m₂, by rw [List.foldlM_cons, h₁, ok_bind]; exact h₂, ?_, hlen₂⟩
    rw [List.map_cons, List.reverse_cons, List.append_assoc, List.singleton_append]
    exact hb₂

/-- `SetRepairSymbols` of symbols with distinct new identifiers, at distinct free
offsets below `m ≤ 255`, on a slice of at most `m` slots. -/
theorem setRepairSymbols {m : Nat} (hm : m ≤ 255) :
    ∀ {ys : List BlockRepairSymbol} {b : FECBlock} {WR : List (BlockRepairSymbol × Nat)},
      Holds b WS WR → b.repairSymbols.length ≤ m →
      (∀ y ∈ ys, y.blockRepairID.blockSourceID.blockOffset.toNat < m) →
      (ys.map (·.blockRepairID.blockSourceID.blockOffset.toNat) ++ WR.map (·.2)).Nodup →
      (ys.map (·.blockRepairID) ++ WR.map (·.1.blockRepairID)).Nodup →
      ∃ symbols offsets, b.setRepairSymbols ys =
          .ok { b with repairSymbols := symbols, repairSymbolsOffsets := offsets } ∧
        Holds { b with repairSymbols := symbols, repairSymbolsOffsets := offsets } WS
          ((ys.map fun y => (y, y.blockRepairID.blockSourceID.blockOffset.toNat)).reverse ++ WR) ∧
        symbols.length ≤ m
  | [], b, _, hb, hlen, _, _, _ => ⟨b.repairSymbols, b.repairSymbolsOffsets, rfl, hb, hlen⟩
  | y :: ys, b, WR, hb, hlen, hys, hnd, hndid => by
    have hnd' := List.nodup_cons.1 hnd
    have hndid' := List.nodup_cons.1 hndid
    obtain ⟨s₁, m₁, h₁, hb₁, hlen₁⟩ := hb.setRepairSymbol (by have := hys y List.mem_cons_self; omega)
      (fun z hz hzy => hnd'.1 (List.mem_append_right _ (List.mem_map.2 ⟨z, hz, hzy⟩)))
      (fun z hz hzy => hndid'.1 (List.mem_append_right _ (List.mem_map.2 ⟨z, hz, hzy⟩)))
    obtain ⟨s₂, m₂, h₂, hb₂, hlen₂⟩ := setRepairSymbols hm hb₁
      (show s₁.length ≤ m by have := hys y List.mem_cons_self; omega)
      (fun z hz => hys z (List.mem_cons_of_mem _ hz)) (List.perm_middle.nodup_iff.2 hnd)
      (List.perm_middle.nodup_iff.2 hndid)
    refine ⟨s₂, m₂, ?_, ?_, hlen₂⟩
    · rw [FECBlock.setRepairSymbols, List.foldlM_cons, h₁, ok_bind]
      exact h₂
    · rw [List.map_cons, List.reverse_cons, List.append_assoc, List.singleton_append]
      exact hb₂

end Holds

/-- A receiver block that holds the source symbols `ss` at their offsets but the
`j`-th, and the repair symbols `rs` from offset 0, with the totals of the block they
come from: the state `SetSourceSymbol`, `SetRepairSymbol` and the padding of
`updateStateForSomeBlock` leave a block in once these symbols have arrived
(`holdsAllBut_of_setSymbols`). -/
structure HoldsAllBut (b : FECBlock) (ss : List BlockSourceSymbol) (j : Nat)
    (rs : List BlockRepairSymbol) : Prop where
  sourceSymbols_eq : b.sourceSymbols = (ss.map some).set j none
  sourceSymbolsOffsets_perm :
    b.sourceSymbolsOffsets.entries.Perm ((offsetsUpTo b.blockNumber ss.length).eraseIdx j)
  repairSymbols_eq : b.repairSymbols = rs.map some
  repairSymbolsOffsets_len : b.repairSymbolsOffsets.len = rs.length
  totalNumberOfSourceSymbols_eq : b.totalNumberOfSourceSymbols = ss.length
  totalNumberOfRepairSymbols_eq : b.totalNumberOfRepairSymbols = rs.length

namespace HoldsAllBut

variable {b : FECBlock} {ss : List BlockSourceSymbol} {j : Nat} {rs : List BlockRepairSymbol}

theorem currentNumberOfSourceSymbols_eq (hb : HoldsAllBut b ss j rs) (hj : j < ss.length) :
    b.currentNumberOfSourceSymbols = ss.length - 1 := by
  rw [currentNumberOfSourceSymbols, GoMap.len, hb.sourceSymbolsOffsets_perm.length_eq,
    List.length_eraseIdx_of_lt (by simpa [offsetsUpTo] using hj)]
  simp [offsetsUpTo]

/-- `GetSourceSymbols` of the receiver's block: its slice, the nil at `j`
included. -/
theorem getSourceSymbols_eq (hb : HoldsAllBut b ss j rs) (hk : ss.length ≤ 256) :
    b.getSourceSymbols = .ok ((ss.map some).set j none) := by
  have hmem : ∀ e ∈ b.sourceSymbolsOffsets.entries,
      e ∈ offsetsUpTo b.blockNumber ss.length := fun e he =>
    (List.eraseIdx_sublist _ j).subset (hb.sourceSymbolsOffsets_perm.mem_iff.1 he)
  have hin : ∀ e ∈ b.sourceSymbolsOffsets.entries, e.2.toNat < b.sourceSymbols.length := by
    intro e he
    rw [hb.sourceSymbols_eq, List.length_set, List.length_map]
    exact ((mem_offsetsUpTo hk).1 (hmem e he)).1
  rw [FECBlock.getSourceSymbols_eq hin, collected_perm _ hb.sourceSymbolsOffsets_perm,
    hb.sourceSymbols_eq]
  congr 1
  apply collected_eq_self
  intro i hi hsome
  -- a slot that holds a symbol is not the `j`-th, so the map names it
  have hij : j ≠ i := by
    rintro rfl
    simp at hsome
  rw [List.length_set, List.length_map] at hi
  rw [List.any_eq_true]
  refine ⟨(⟨b.blockNumber, UInt8.ofNat i⟩, UInt8.ofNat i), ?_, ?_⟩
  · rw [List.mem_eraseIdx_iff_getElem]
    exact ⟨i, by simpa [offsetsUpTo] using hi, Ne.symm hij, by simp [offsetsUpTo]⟩
  · simp [toNat_ofNat_of_lt (show i < 256 by omega)]

end HoldsAllBut

end FECBlock

end QuicFec
