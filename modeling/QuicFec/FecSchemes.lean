import QuicFec.FecBlock
import QuicFec.Lib.ByteXor

/-! # The block FEC schemes

`internal/fec/block/fec_schemes`: the two schemes a block framework can use.

* The XOR scheme makes one repair symbol, the XOR of the block's source symbols,
  and recovers a block that misses exactly one source symbol: the repair symbol
  XOR the others.  Its byte-wise XOR takes one of two code paths: a fast one on the
  architectures where `supportsUnaligned` holds (a constant of the build, so a
  variable here) and unless the scheme was made with `dontOptimize`, and a slow
  one that cuts its result from a `MaxReceivePacketSize`-byte buffer and so
  panics on longer inputs.
* The Reed-Solomon scheme hands the block to `klauspost/reedsolomon`.  That
  library is not modelled: its encoder is a parameter (`Encoder`, and `new` for
  `reedsolomon.New`), so what is proved here holds whatever it computes.

Main results:

* `xor_eq_xorBytes`: on two inputs of one positive length, both code paths
  compute the byte-wise XOR, the slow one below `MaxReceivePacketSize`;
* `xorFECScheme_recovers_erasure`: the XOR scheme gives back the one missing
  source symbol of any block, from the repair symbol it made for that block;
* `recoverSymbols_nil_repair_fails`: the Reed-Solomon scheme dereferences every
  repair slot of the block, so a block with an empty slot makes it fail.
-/
namespace QuicFec
open GoBytes ByteXor

namespace FecSchemes

/-! ## XOR -/

/-- `XORFECScheme`.  The code creates it with `dontOptimize = false`. -/
structure XORFECScheme where
  dontOptimize : Bool
  deriving DecidableEq, Repr

/-- `XORFECSchemeCannotRecoverPacket`. -/
def XORFECSchemeCannotRecoverPacket : GoError := .error "XORFECScheme: cannot recover packet"

/-- `XORFECSchemeCannotGetRepairSymbol`. -/
def XORFECSchemeCannotGetRepairSymbol : GoError := .error "XORFECScheme: cannot get repair symbol"

/-- `XORFECSchemeTooMuchSymbolsNeeded`. -/
def XORFECSchemeTooMuchSymbolsNeeded : GoError :=
  .error "XORFECScheme: cannot generate enough repair symbols"

/-- `fastXORBytes`: `nil` when an input is empty; otherwise the bytes of the common
length XORed (a machine word at a time, then byte by byte: the same bytes), and past
it the longer input's bytes. -/
def fastXORBytes (a b : Bytes) : Bytes :=
  let n := min a.length b.length
  let nMax := max a.length b.length
  if n = 0 then [] else
    (List.range nMax).map fun i =>
      if i < n then a.getD i 0 ^^^ b.getD i 0
      else if b.length > a.length then b.getD i 0 else a.getD i 0

/-- `slowXOR`: the result is cut from a fresh `MaxReceivePacketSize`-byte slice. -/
def slowXOR (a b : Bytes) : Except GoError Bytes := do
  let len := if a.length ≥ b.length then a.length else b.length
  let retVal ← sliceTo (List.replicate MaxReceivePacketSize (0 : UInt8)) len
  return (List.range retVal.length).map fun i =>
    if i ≥ a.length then b.getD i 0
    else if i ≥ b.length then a.getD i 0
    else a.getD i 0 ^^^ b.getD i 0

variable (supportsUnaligned : Bool)

namespace XORFECScheme

/-- `XORFECScheme.XOR`. -/
def xor (f : XORFECScheme) (a b : Bytes) : Except GoError Bytes :=
  if !f.dontOptimize && supportsUnaligned then .ok (fastXORBytes a b) else slowXOR a b

/-- `CanRecoverSymbols`; the totals are `uint64`s, so `Total - 1` wraps at `0`. -/
def canRecoverSymbols (block : FECBlock) : Bool :=
  block.currentNumberOfSourceSymbols = subU64 block.totalNumberOfSourceSymbols 1 &&
    block.currentNumberOfRepairSymbols = 1

/-- One round of the loop of `RecoverSymbols` over the block's source symbols with
their indices: a present symbol is XORed into `current`, a missing one's index
becomes `missing`. -/
def recoverStep (f : XORFECScheme) (acc : Nat × Bytes) (x : Option BlockSourceSymbol × Nat) :
    Except GoError (Nat × Bytes) :=
  match x.1 with
  | some p => do return (acc.1, ← f.xor supportsUnaligned acc.2 p.data)
  | none => pure (x.2, acc.2)

/-- `RecoverSymbols`: the repair symbol XOR the present source symbols, parsed
into a source symbol and stored at the last missing index. -/
def recoverSymbols (f : XORFECScheme) (block : FECBlock) :
    Except GoError (List BlockSourceSymbol × FECBlock) := do
  if !canRecoverSymbols block then throw XORFECSchemeCannotRecoverPacket
  let repair ← deref (← index block.repairSymbols 0)
  let symbols ← block.getSourceSymbols
  let (missing, current) ← symbols.zipIdx.foldlM (f.recoverStep supportsUnaligned) (0, repair.data)
  let recoveredSymbol ← parseBlockSourceSymbol current
  let sourceSymbols ← setIndex block.sourceSymbols missing (some recoveredSymbol)
  return ([recoveredSymbol], { block with sourceSymbols })

/-- One round of the loop of `GetRepairSymbols` that computes the length of the
longest symbol, which nothing then uses: it dereferences every entry. -/
def maxLengthStep (max : Nat) (p : Option BlockSourceSymbol) : Except GoError Nat := do
  let p ← deref p
  return if max < p.data.length then p.data.length else max

/-- One round of the loop of `GetRepairSymbols` that XORs the present symbols,
the first of them as the seed. -/
def repairStep (f : XORFECScheme) (acc : Bool × Bytes) (p : Option BlockSourceSymbol) :
    Except GoError (Bool × Bytes) :=
  match p with
  | some p =>
    if acc.1 then pure (false, p.data)
    else do return (false, ← f.xor supportsUnaligned acc.2 p.data)
  | none => pure acc

/-- `GetRepairSymbols`: one repair symbol at offset 0.  `GetSourceSymbols` is
called twice by the code, for the two loops, and gives the same slice. -/
def getRepairSymbols (f : XORFECScheme) (block : FECBlock) (numberOfSymbols : Nat) :
    Except GoError (List BlockRepairSymbol) := do
  let packets ← block.getSourceSymbols
  let _ ← packets.foldlM maxLengthStep 0
  if packets.length = 0 then throw XORFECSchemeCannotGetRepairSymbol
  if numberOfSymbols > 1 then throw XORFECSchemeTooMuchSymbolsNeeded
  let (_, current) ← packets.foldlM (f.repairStep supportsUnaligned) (true, [])
  return [⟨⟨Vector.replicate 4 0, ⟨block.blockNumber, 0⟩⟩, current⟩]

/-! ### The two code paths of the XOR -/

theorem fastXORBytes_eq {a b : Bytes} (h : 0 < min a.length b.length) :
    fastXORBytes a b = xorBytes a b := by
  rw [fastXORBytes, if_neg (Nat.pos_iff_ne_zero.1 h)]
  apply eq_xorBytes (by simp)
  intro i hi
  rw [List.length_map, List.length_range] at hi
  simp only [List.getD_eq_getElem?_getD, List.getElem?_map, List.getElem?_range hi,
    Option.map_some, Option.getD_some]
  -- past the common length, the shorter input reads as zeroes
  by_cases hn : i < min a.length b.length
  · rw [if_pos hn]
  · rw [if_neg hn]
    by_cases hab : b.length > a.length
    · rw [if_pos hab, @List.getElem?_eq_none _ a i (by omega), Option.getD_none,
        UInt8.zero_xor]
    · rw [if_neg hab, @List.getElem?_eq_none _ b i (by omega), Option.getD_none,
        UInt8.xor_zero]

theorem slowXOR_eq {a b : Bytes} (h : max a.length b.length ≤ MaxReceivePacketSize) :
    slowXOR a b = .ok (xorBytes a b) := by
  have hlen : (if a.length ≥ b.length then a.length else b.length) = max a.length b.length := by
    split <;> omega
  have htake : (List.take (max a.length b.length)
      (List.replicate MaxReceivePacketSize (0 : UInt8))).length = max a.length b.length := by
    simp only [List.length_take, List.length_replicate]
    omega
  rw [slowXOR, hlen, sliceTo, if_pos (by simpa using h), ok_bind, htake]
  congr 1
  apply eq_xorBytes (by simp)
  intro i hi
  rw [List.length_map, List.length_range] at hi
  simp only [List.getD_eq_getElem?_getD, List.getElem?_map, List.getElem?_range hi,
    Option.map_some, Option.getD_some]
  by_cases ha : i ≥ a.length
  · rw [if_pos ha, List.getElem?_eq_none ha, Option.getD_none, UInt8.zero_xor]
  · rw [if_neg ha]
    by_cases hb : i ≥ b.length
    · rw [if_pos hb, List.getElem?_eq_none hb, Option.getD_none, UInt8.xor_zero]
    · rw [if_neg hb]

/-- The XOR takes the fast path, or its inputs of length `E` fit the slow path's
buffer. -/
def XorAccepts (f : XORFECScheme) (E : Nat) : Prop :=
  (!f.dontOptimize && supportsUnaligned) = true ∨ E ≤ MaxReceivePacketSize

/-- On two inputs of one positive length that the XOR accepts, both paths compute
the byte-wise XOR. -/
theorem xor_eq_xorBytes {f : XORFECScheme} {E : Nat} (hacc : XorAccepts supportsUnaligned f E)
    (hE : 0 < E) {a b : Bytes} (ha : a.length = E) (hb : b.length = E) :
    f.xor supportsUnaligned a b = .ok (xorBytes a b) := by
  unfold xor
  by_cases hfast : (!f.dontOptimize && supportsUnaligned) = true
  · rw [if_pos hfast, fastXORBytes_eq (by rw [ha, hb, Nat.min_self]; exact hE)]
  · rw [if_neg hfast]
    exact slowXOR_eq (by rw [ha, hb, Nat.max_self]; exact hacc.resolve_left hfast)

/-- `fastXORBytes` of an empty input is `nil`, whatever the other input. -/
theorem fastXORBytes_of_min_eq_zero {a b : Bytes} (h : min a.length b.length = 0) :
    fastXORBytes a b = [] := by
  rw [fastXORBytes, if_pos h]

/-- **The two paths agree exactly when both inputs are empty or neither is.**  Below
`MaxReceivePacketSize` bytes the slow path computes the byte-wise XOR, the XOR over
the common prefix followed by the longer input's tail; the fast path returns `nil`
as soon as one input is empty, where the slow one copies the other. -/
theorem slowXOR_eq_fastXORBytes_iff {a b : Bytes} (h : max a.length b.length ≤ MaxReceivePacketSize) :
    slowXOR a b = .ok (fastXORBytes a b) ↔ (a = [] ↔ b = []) := by
  rw [slowXOR_eq h, Except.ok.injEq]
  by_cases ha : a = []
  · -- the fast path stops at the empty `a`; the slow one returns `b`
    subst ha
    rw [fastXORBytes_of_min_eq_zero (by simp), nil_xorBytes]
    simp
  · by_cases hb : b = []
    · subst hb
      rw [fastXORBytes_of_min_eq_zero (by simp), xorBytes_nil]
      simp [ha]
    · have hpos : 0 < min a.length b.length :=
        Nat.lt_min.2 ⟨List.length_pos_iff.2 ha, List.length_pos_iff.2 hb⟩
      rw [fastXORBytes_eq hpos]
      simp [ha, hb]

/-- With `a` empty and `b = [1]` the slow path returns `[1]` and the fast one
`nil`. -/
theorem slowXOR_ne_fastXORBytes_empty :
    max ([] : Bytes).length [1].length ≤ MaxReceivePacketSize ∧
      slowXOR [] [1] = .ok [1] ∧ fastXORBytes [] [1] = [] ∧
      ¬ slowXOR [] [1] = .ok (fastXORBytes [] [1]) :=
  ⟨by decide, by rw [slowXOR_eq (by decide)]; rfl, rfl, fun h => by
    simpa using (slowXOR_eq_fastXORBytes_iff (a := []) (b := [1]) (by decide)).1 h⟩

/-- A XOR of two inputs of length `E` that returns shows that the XOR accepts
length `E`. -/
theorem xorAccepts_of_ok {f : XORFECScheme} {E : Nat} {a b c : Bytes}
    (h : f.xor supportsUnaligned a b = .ok c) (ha : a.length = E) (hb : b.length = E) :
    XorAccepts supportsUnaligned f E := by
  unfold xor at h
  by_cases hfast : (!f.dontOptimize && supportsUnaligned) = true
  · exact Or.inl hfast
  · right
    rw [if_neg hfast, slowXOR, ha, hb, if_pos (Nat.le_refl E), sliceTo] at h
    by_contra hgt
    rw [if_neg (by simpa using hgt)] at h
    cases h

/-! ### The loops over equal-length symbols -/

section Loops

variable {f : XORFECScheme} {E : Nat}

/-- The XOR loop of `GetRepairSymbols` once it has its seed: every symbol XORed in
turn. -/
theorem repairLoop_eq (hE : 0 < E) {l : List BlockSourceSymbol}
    (hl : ∀ s ∈ l, s.data.length = E) (hacc : l ≠ [] → XorAccepts supportsUnaligned f E)
    {cur : Bytes} (hcur : cur.length = E) :
    (l.map some).foldlM (f.repairStep supportsUnaligned) (false, cur) =
      .ok (false, (l.map (·.data)).foldl xorBytes cur) := by
  induction l generalizing cur with
  | nil => rfl
  | cons s l ih =>
    have hs := hl s List.mem_cons_self
    have hstep : f.repairStep supportsUnaligned (false, cur) (some s) =
        .ok (false, xorBytes cur s.data) := by
      simp [repairStep, xor_eq_xorBytes supportsUnaligned (hacc (List.cons_ne_nil s l)) hE hcur hs]
    rw [List.map_cons, List.foldlM_cons, hstep, ok_bind]
    exact ih (fun x hx => hl x (List.mem_cons_of_mem s hx))
      (fun _ => hacc (List.cons_ne_nil s l)) (by simp [hcur, hs])

/-- A XOR loop of `GetRepairSymbols` that returns after a first XOR shows that the
XOR accepts the symbols' length. -/
theorem xorAccepts_of_repairLoop {s : BlockSourceSymbol} {l : List BlockSourceSymbol}
    {cur : Bytes} {r : Bool × Bytes} (hcur : cur.length = E) (hs : s.data.length = E)
    (h : ((s :: l).map some).foldlM (f.repairStep supportsUnaligned) (false, cur) = .ok r) :
    XorAccepts supportsUnaligned f E := by
  rw [List.map_cons, List.foldlM_cons] at h
  obtain ⟨acc, hstep, -⟩ := bind_eq_ok.1 h
  simp only [repairStep, Bool.false_eq_true, if_false] at hstep
  obtain ⟨c, hc, -⟩ := bind_eq_ok.1 hstep
  exact xorAccepts_of_ok supportsUnaligned hc hcur hs

/-- The loop of `RecoverSymbols` over present symbols: XORed into `current` in
turn, `missing` left alone. -/
theorem recoverLoop_some (hE : 0 < E) {l : List BlockSourceSymbol}
    (hl : ∀ s ∈ l, s.data.length = E) (hacc : l ≠ [] → XorAccepts supportsUnaligned f E)
    (missing n : Nat) {cur : Bytes} (hcur : cur.length = E) :
    ((l.map some).zipIdx n).foldlM (f.recoverStep supportsUnaligned) (missing, cur) =
      .ok (missing, (l.map (·.data)).foldl xorBytes cur) := by
  induction l generalizing n cur with
  | nil => rfl
  | cons s l ih =>
    have hs := hl s List.mem_cons_self
    have hstep : f.recoverStep supportsUnaligned (missing, cur) (some s, n) =
        .ok (missing, xorBytes cur s.data) := by
      simp [recoverStep, xor_eq_xorBytes supportsUnaligned (hacc (List.cons_ne_nil s l)) hE hcur hs]
    rw [List.map_cons, List.zipIdx_cons, List.foldlM_cons, hstep, ok_bind]
    exact ih (fun x hx => hl x (List.mem_cons_of_mem s hx))
      (fun _ => hacc (List.cons_ne_nil s l)) (n + 1) (by simp [hcur, hs])

/-- The loop of `RecoverSymbols` over a block of equal-length symbols with a nil at
`j`: the others XORed into `current` in order, and `missing = j`. -/
theorem recoverLoop_eraseIdx (hE : 0 < E) {ss : List BlockSourceSymbol}
    (hl : ∀ s ∈ ss, s.data.length = E) {j : Nat} (hj : j < ss.length)
    (hacc : ss.eraseIdx j ≠ [] → XorAccepts supportsUnaligned f E) (missing : Nat) {cur : Bytes} (hcur : cur.length = E) :
    (((ss.map some).set j none).zipIdx).foldlM (f.recoverStep supportsUnaligned) (missing, cur) =
      .ok (j, ((ss.eraseIdx j).map (·.data)).foldl xorBytes cur) := by
  have hpre : ∀ s ∈ ss.take j, s.data.length = E := fun s hs => hl s (List.mem_of_mem_take hs)
  have hpost : ∀ s ∈ ss.drop (j + 1), s.data.length = E :=
    fun s hs => hl s (List.mem_of_mem_drop hs)
  have hsplit : (ss.map some).set j none =
      (ss.take j).map some ++ none :: (ss.drop (j + 1)).map some := by
    rw [List.set_eq_take_append_cons_drop, if_pos (by simpa using hj), List.map_take,
      List.map_drop]
  have hacc' : ∀ l, l ≠ [] → (l = ss.take j ∨ l = ss.drop (j + 1)) →
      XorAccepts supportsUnaligned f E := by
    intro l hne hl
    apply hacc
    apply List.ne_nil_of_length_pos
    rw [List.length_eraseIdx_of_lt hj]
    rcases hl with rfl | rfl
    · have h0 : j ≠ 0 := fun h => hne (by rw [h, List.take_zero])
      omega
    · have h1 : j + 1 < ss.length := by
        by_contra h
        exact hne (List.drop_eq_nil_of_le (by omega))
      omega
  have hlenTake : ((ss.take j).map (some : BlockSourceSymbol → Option BlockSourceSymbol)).length
      = j := by
    simp only [List.length_map, List.length_take]
    omega
  rw [hsplit, List.zipIdx_append, List.foldlM_append, hlenTake,
    recoverLoop_some supportsUnaligned hE hpre (fun h => hacc' _ h (Or.inl rfl)) missing 0 hcur,
    ok_bind, List.zipIdx_cons, List.foldlM_cons]
  have hnone : f.recoverStep supportsUnaligned (missing, (List.map (·.data) (List.take j ss)).foldl
      xorBytes cur) (none, 0 + j) = .ok (j, (List.map (·.data) (List.take j ss)).foldl xorBytes cur) := by
    simp [recoverStep]
  rw [hnone, ok_bind, recoverLoop_some supportsUnaligned hE hpost
      (fun h => hacc' _ h (Or.inr rfl)) j _ (length_foldl_xorBytes hcur
        (fun x hx => by obtain ⟨y, hy, rfl⟩ := List.mem_map.1 hx; exact hpre y hy)),
    List.eraseIdx_eq_take_drop_succ, List.map_append, List.foldl_append]

end Loops

/-- The repair symbol of a block whose source symbols are all there and of one
positive length: the XOR of them all.  Making it, when there are two symbols or
more, shows that the XOR accepts their length. -/
theorem getRepairSymbols_eq {f : XORFECScheme} {sb : FECBlock} {s : BlockSourceSymbol}
    {l : List BlockSourceSymbol} {E : Nat} (hE : 0 < E) (hlen : ∀ x ∈ s :: l, x.data.length = E)
    (hsb : sb.getSourceSymbols = .ok ((s :: l).map some)) {rs : List BlockRepairSymbol}
    (hr : f.getRepairSymbols supportsUnaligned sb 1 = .ok rs) :
    rs = [⟨⟨Vector.replicate 4 0, ⟨sb.blockNumber, 0⟩⟩, ((s :: l).map (·.data)).foldl xorBytes []⟩] ∧
      (l ≠ [] → XorAccepts supportsUnaligned f E) := by
  -- the unused loop dereferences symbols that are all there
  have hmax : ∀ (l : List BlockSourceSymbol) m, ∃ r, (l.map some).foldlM maxLengthStep m = .ok r := by
    intro l
    induction l with
    | nil => exact fun m => ⟨m, rfl⟩
    | cons x l ih =>
      intro m
      obtain ⟨r, hr⟩ := ih (if m < x.data.length then x.data.length else m)
      exact ⟨r, by simpa [maxLengthStep] using hr⟩
  obtain ⟨m, hm⟩ := hmax (s :: l) 0
  rw [getRepairSymbols, hsb, ok_bind, hm, ok_bind] at hr
  simp only [List.length_map, List.length_cons, Nat.add_one_ne_zero, if_false,
    show ¬ (1 > 1) by decide, List.map_cons, List.foldlM_cons] at hr
  have hs := hlen s List.mem_cons_self
  have hl : ∀ x ∈ l, x.data.length = E := fun x hx => hlen x (List.mem_cons_of_mem s hx)
  have hfirst : f.repairStep supportsUnaligned (true, []) (some s) = .ok (false, s.data) := rfl
  rw [hfirst, ok_bind] at hr
  have hacc : l ≠ [] → XorAccepts supportsUnaligned f E := by
    intro hne
    obtain ⟨t, l', rfl⟩ := List.exists_cons_of_ne_nil hne
    obtain ⟨r, hloop, -⟩ := bind_eq_ok.1 hr
    exact xorAccepts_of_repairLoop supportsUnaligned hs (hl t List.mem_cons_self) hloop
  rw [repairLoop_eq supportsUnaligned hE hl hacc hs, ok_bind] at hr
  exact ⟨(Except.ok.inj hr).symm, hacc⟩

/-- The XOR scheme recovers any single erasure.  For a block whose source symbols
`ss` are all there, of one length, and well formed (as `PayloadToSourceSymbols`
makes them), and the repair symbol the scheme made for it, a receiver block that
holds the other source symbols and that repair symbol can be recovered, and
recovering it gives back the missing symbol and stores it in its slot. -/
theorem xorFECScheme_recovers_erasure {f : XORFECScheme} {sb b : FECBlock}
    {ss : List BlockSourceSymbol} {E : Nat} (hne : ss ≠ [])
    (hlen : ∀ s ∈ ss, s.data.length = E)
    (hwf : ∀ s ∈ ss, parseBlockSourceSymbol s.data = .ok s)
    (hsb : sb.getSourceSymbols = .ok (ss.map some)) {rs : List BlockRepairSymbol}
    (hr : f.getRepairSymbols supportsUnaligned sb 1 = .ok rs) {j : Nat} (hj : j < ss.length)
    (hb : FECBlock.HoldsAllBut b ss j rs) :
    canRecoverSymbols b = true ∧
      f.recoverSymbols supportsUnaligned b =
        .ok ([ss[j]], { b with sourceSymbols := ss.map some }) := by
  obtain ⟨s, l, rfl⟩ := List.exists_cons_of_ne_nil hne
  have hE : 0 < E := by
    have hs := hwf s List.mem_cons_self
    rw [← hlen s List.mem_cons_self]
    cases hd : s.data with
    | nil => rw [hd] at hs; cases hs
    | cons _ _ => simp
  obtain ⟨hrs, hacc⟩ := getRepairSymbols_eq supportsUnaligned hE hlen hsb hr
  have hk := FECBlock.getSourceSymbols_length_le hsb
  have hcan : canRecoverSymbols b = true := by
    simp only [canRecoverSymbols, hb.currentNumberOfSourceSymbols_eq hj,
      FECBlock.currentNumberOfRepairSymbols, hb.repairSymbolsOffsets_len,
      hb.totalNumberOfSourceSymbols_eq, hrs, List.length_singleton,
      subU64_of_le (show 1 ≤ (s :: l).length by simp) (by omega), decide_true, Bool.and_self]
  refine ⟨hcan, ?_⟩
  -- the repair symbol is the XOR of all the source symbols
  have hLlen : ∀ x ∈ (s :: l).map (·.data), x.length = E := by
    intro x hx
    obtain ⟨y, hy, rfl⟩ := List.mem_map.1 hx
    exact hlen y hy
  have hX : (((s :: l).map (·.data)).foldl xorBytes []).length = E := by
    rw [List.map_cons, List.foldl_cons, nil_xorBytes]
    exact length_foldl_xorBytes (hlen s List.mem_cons_self)
      (fun x hx => hLlen x (List.mem_cons_of_mem _ hx))
  have hacc' : (s :: l).eraseIdx j ≠ [] → XorAccepts supportsUnaligned f E := by
    intro hne'
    apply hacc
    intro hl
    subst hl
    have : j = 0 := by simpa using hj
    subst this
    simp at hne'
  have hrec : (((s :: l).eraseIdx j).map (·.data)).foldl xorBytes
      (((s :: l).map (·.data)).foldl xorBytes []) = (s :: l)[j].data := by
    rw [← List.eraseIdx_map, foldl_xorBytes_eraseIdx hLlen (by simpa using hj), List.getElem_map]
  have hloop := recoverLoop_eraseIdx supportsUnaligned hE hlen hj hacc' 0 hX
  rw [hrec] at hloop
  have hget : b.getSourceSymbols = .ok (((s :: l).map some).set j none) :=
    hb.getSourceSymbols_eq hk
  have hset : setIndex b.sourceSymbols j (some (s :: l)[j]) = .ok ((s :: l).map some) := by
    have hj' : j < ((s :: l).map some).length := by simpa using hj
    rw [hb.sourceSymbols_eq, setIndex_of_lt (by simpa using hj), List.set_set,
      show some (s :: l)[j] = ((s :: l).map some)[j] from (List.getElem_map some).symm,
      List.set_getElem_self hj']
  rw [recoverSymbols]
  simp only [hcan, Bool.not_true, Bool.false_eq_true, if_false, hb.repairSymbols_eq, hrs,
    List.map_singleton, index_cons_zero, deref_some, hget, ok_bind, pure_eq_ok]
  rw [hloop, ok_bind]
  simp only [hwf _ (List.getElem_mem hj), hset, ok_bind]

/-- Two symbols of two bytes, the second lost: the receiver holds the first and the
repair symbol, and gets the second back. -/
theorem xorFECScheme_recovers_second :
    ∃ b : FECBlock, FECBlock.HoldsAllBut b [⟨[6, 10], 6, [10]⟩, ⟨[1, 20], 1, [20]⟩] 1
        [⟨⟨Vector.replicate 4 0, ⟨0, 0⟩⟩, [7, 30]⟩] ∧
      canRecoverSymbols b = true ∧
      (⟨false⟩ : XORFECScheme).recoverSymbols true b =
        .ok ([⟨[1, 20], 1, [20]⟩],
          { b with sourceSymbols := [some ⟨[6, 10], 6, [10]⟩, some ⟨[1, 20], 1, [20]⟩] }) := by
  let b : FECBlock := ⟨0, [some ⟨⟨Vector.replicate 4 0, ⟨0, 0⟩⟩, [7, 30]⟩],
    [some ⟨[6, 10], 6, [10]⟩, none], ⟨[(⟨0, 0⟩, 0)], by decide⟩,
    ⟨[(⟨Vector.replicate 4 0, ⟨0, 0⟩⟩, 0)], by decide⟩, 2, 1⟩
  have hb : FECBlock.HoldsAllBut b [⟨[6, 10], 6, [10]⟩, ⟨[1, 20], 1, [20]⟩] 1
      [⟨⟨Vector.replicate 4 0, ⟨0, 0⟩⟩, [7, 30]⟩] :=
    ⟨by decide, by decide, by decide, by decide, rfl, rfl⟩
  have hlen : ∀ s ∈ ([⟨[6, 10], 6, [10]⟩, ⟨[1, 20], 1, [20]⟩] : List BlockSourceSymbol),
      s.data.length = 2 := by decide
  exact ⟨b, hb, xorFECScheme_recovers_erasure true (List.cons_ne_nil _ _) hlen (by decide)
    (FECBlock.getSourceSymbols_addSourceSymbols 0 (by decide)) (by decide) (by decide) hb⟩

end XORFECScheme

/-! ## Reed-Solomon -/

/-- What the code uses of a `reedsolomon.Encoder`, on shards given as byte
slices, `nil` (`none`) for a missing one: `Encode` fills the parity shards,
`ReconstructData` the missing data shards. -/
structure Encoder where
  encode : List Bytes → Except GoError (List Bytes)
  reconstructData : List (Option Bytes) → Except GoError (List (Option Bytes))

/-- `ReedSolomonNoRepairSymbolInFECGroup`. -/
def ReedSolomonNoRepairSymbolInFECGroup : GoError :=
  .error "ReedSolomon FEC Scheme: impossible to recover FEC Group with no repair symbol"

namespace ReedSolomonFECScheme

variable (new : Nat → Nat → Except GoError Encoder)

/-- `getEncoder`: `reedsolomon.New(nSourceSymbols, nRepairSymbols)`.  The cache of
the scheme hands back what `New` returned for the same two numbers, so it is not
modelled. -/
def getEncoder (nSourceSymbols nRepairSymbols : Nat) : Except GoError Encoder :=
  new nSourceSymbols nRepairSymbols

/-- `GetRepairSymbols`: the source symbols' data, then `numberOfSymbols` zero shards
as long as the first, encoded; the parity shards become the repair symbols, at
offsets from 0. -/
def getRepairSymbols (block : FECBlock) (numberOfSymbols : Nat) :
    Except GoError (List BlockRepairSymbol) := do
  let sourceSymbols := block.sourceSymbols
  if sourceSymbols.length = 0 then return []
  let symbolLength := (← deref (← index sourceSymbols 0)).data.length
  let data ← sourceSymbols.mapM fun s => do return (← deref s).data
  let reedSolomonInput := data ++ List.replicate numberOfSymbols (List.replicate symbolLength 0)
  let enc ← getEncoder new sourceSymbols.length numberOfSymbols
  let reedSolomonInput ← enc.encode reedSolomonInput
  return ((reedSolomonInput.drop sourceSymbols.length).zipIdx).map fun (symbol, i) =>
    ⟨⟨Vector.replicate 4 0, ⟨block.blockNumber, UInt8.ofNat i⟩⟩, symbol⟩

/-- One round of the loop of `RecoverSymbols` over the block's source symbols: a
present one goes into its shard, a missing one's index is kept. -/
def sourceShardStep (acc : List (Option Bytes) × List Nat)
    (x : Option BlockSourceSymbol × Nat) : Except GoError (List (Option Bytes) × List Nat) :=
  match x.1 with
  | some symbol => do return (← setIndex acc.1 x.2 (some symbol.data), acc.2)
  | none => pure (acc.1, acc.2 ++ [x.2])

/-- One round of the loop of `RecoverSymbols` over the block's repair symbols: the
symbol goes into the shard after the source shards given by its offset. -/
def repairShardStep (k : Nat) (input : List (Option Bytes)) (rs : Option BlockRepairSymbol) :
    Except GoError (List (Option Bytes)) := do
  let rs ← deref rs
  setIndex input (k + rs.blockRepairID.blockSourceID.blockOffset.toNat) (some rs.data)

/-- One round of the last loop of `RecoverSymbols`: the reconstructed shard `i`
parsed and set into the block. -/
def recoveredStep (output : List (Option Bytes)) (acc : FECBlock × List BlockSourceSymbol)
    (i : Nat) : Except GoError (FECBlock × List BlockSourceSymbol) := do
  let recovered ← parseBlockSourceSymbol ((← index output i).getD [])
  let block ← acc.1.setSourceSymbol recovered ⟨acc.1.blockNumber, UInt8.ofNat i⟩
  return (block, acc.2 ++ [recovered])

/-- `RecoverSymbols`.  The totals are `uint64`s, so `n` wraps. -/
def recoverSymbols (block : FECBlock) : Except GoError (List BlockSourceSymbol × FECBlock) := do
  if block.totalNumberOfRepairSymbols = 0 then throw ReedSolomonNoRepairSymbolInFECGroup
  let k := block.totalNumberOfSourceSymbols
  let n := (block.totalNumberOfSourceSymbols + block.totalNumberOfRepairSymbols) % 2 ^ 64
  let enc ← getEncoder new k (subU64 n k)
  let (reedSolomonInput, indicesToRecover) ←
    block.sourceSymbols.zipIdx.foldlM sourceShardStep (List.replicate n none, [])
  let reedSolomonInput ← block.repairSymbols.foldlM (repairShardStep k) reedSolomonInput
  let reedSolomonInput ← enc.reconstructData reedSolomonInput
  let (block, recoveredSymbols) ←
    indicesToRecover.foldlM (recoveredStep reedSolomonInput) (block, [])
  return (recoveredSymbols, block)

/-- `CanRecoverSymbols`. -/
def canRecoverSymbols (block : FECBlock) : Bool :=
  block.currentNumberOfRepairSymbols ≠ 0 && block.totalNumberOfSourceSymbols ≠ 0 &&
    block.currentNumberOfSourceSymbols < block.totalNumberOfSourceSymbols &&
    block.currentNumberOfSourceSymbols + block.currentNumberOfRepairSymbols ≥
      block.totalNumberOfSourceSymbols

/-- `RecoverSymbols` dereferences every repair slot of the block before it hands
the shards to the decoder: a block with an empty slot makes it fail, whatever the
encoder. -/
theorem recoverSymbols_nil_repair_fails {block : FECBlock} (hnil : none ∈ block.repairSymbols) :
    ∃ e, recoverSymbols new block = .error e := by
  unfold recoverSymbols
  by_cases h0 : block.totalNumberOfRepairSymbols = 0
  · exact ⟨ReedSolomonNoRepairSymbolInFECGroup, by simp [h0]⟩
  · simp only [h0, if_false, pure_eq_ok]
    refine bind_error_of fun _ _ => bind_error_of fun _ _ => bind_error_of fun input hrep => ?_
    -- the loop over the repair slots cannot have returned
    exfalso
    obtain ⟨e, he⟩ := foldlM_error_of_mem (f := repairShardStep block.totalNumberOfSourceSymbols)
      (fun _ => ⟨nilDereference, rfl⟩) hnil _
    rw [he] at hrep
    cases hrep

/-- The repair symbols `GetRepairSymbols` returns are numbered from offset 0 in the
block. -/
theorem getRepairSymbols_id {block : FECBlock} {n : Nat} {rs : List BlockRepairSymbol}
    (h : getRepairSymbols new block n = .ok rs) {i : Nat} (hi : i < rs.length) :
    rs[i].blockRepairID = ⟨Vector.replicate 4 0, ⟨block.blockNumber, UInt8.ofNat i⟩⟩ := by
  unfold getRepairSymbols at h
  dsimp only at h
  split at h
  · simp only [pure_eq_ok, Except.ok.injEq] at h
    subst h
    simp at hi
  · obtain ⟨first, -, h⟩ := bind_eq_ok.1 h
    obtain ⟨firstSymbol, -, h⟩ := bind_eq_ok.1 h
    obtain ⟨data, -, h⟩ := bind_eq_ok.1 h
    obtain ⟨enc, -, h⟩ := bind_eq_ok.1 h
    obtain ⟨shards, -, h⟩ := bind_eq_ok.1 h
    rw [pure_eq_ok, Except.ok.injEq] at h
    subst h
    simp

/-- The loop over the source slots of a block none of whose source symbols is
there only collects their indices. -/
theorem sourceShardLoop_none {l : List (Option BlockSourceSymbol × Nat)}
    (hl : ∀ x ∈ l, x.1 = none) (acc : List (Option Bytes) × List Nat) :
    l.foldlM sourceShardStep acc = .ok (acc.1, acc.2 ++ l.map (·.2)) := by
  induction l generalizing acc with
  | nil => simp
  | cons x l ih =>
    have hx : x.1 = none := hl x List.mem_cons_self
    rw [List.foldlM_cons, sourceShardStep, hx, pure_eq_ok, ok_bind,
      ih fun y hy => hl y (List.mem_cons_of_mem x hy)]
    simp

/-- A block none of whose source symbols is there and whose first repair slot is
empty makes `RecoverSymbols` dereference that slot, once its encoder is made. -/
theorem recoverSymbols_first_repair_nil {block : FECBlock} {enc : Encoder}
    (hrs : block.repairSymbols[0]? = some none) (hsrc : ∀ s ∈ block.sourceSymbols, s = none) (hm : block.totalNumberOfRepairSymbols ≠ 0)
    (hsum : block.totalNumberOfSourceSymbols + block.totalNumberOfRepairSymbols < 2 ^ 64)
    (hnew : new block.totalNumberOfSourceSymbols block.totalNumberOfRepairSymbols = .ok enc) :
    recoverSymbols new block = .error nilDereference := by
  have hn : subU64 ((block.totalNumberOfSourceSymbols + block.totalNumberOfRepairSymbols) % 2 ^ 64)
      block.totalNumberOfSourceSymbols = block.totalNumberOfRepairSymbols := by
    rw [Nat.mod_eq_of_lt hsum, subU64_of_le (by omega) hsum]
    omega
  obtain ⟨rest, hrest⟩ : ∃ rest, block.repairSymbols = none :: rest := by
    cases h : block.repairSymbols with
    | nil => simp [h] at hrs
    | cons x rest => simp only [h, List.getElem?_cons_zero, Option.some.injEq] at hrs; exact ⟨rest, by rw [hrs]⟩
  unfold recoverSymbols
  simp only [hm, if_false, getEncoder, hn, hnew, ok_bind,
    sourceShardLoop_none fun x hx => hsrc _ (List.fst_mem_of_mem_zipIdx hx), hrest,
    List.foldlM_cons, repairShardStep, deref_none, error_bind]

end ReedSolomonFECScheme

end FecSchemes

end QuicFec
