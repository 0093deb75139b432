import QuicFec.FecSchemes
import QuicFec.FecPayload
import QuicFec.FlowControl

/-! # The block FEC framework sender

`internal/fec/block/framework_sender.go`: the sender side of the block FEC
framework.  `ProtectPayload` cuts each protected payload into source symbols,
adds them to the current block, and returns the FEC payload ID of the first one.
After every `DEFAULT_K` packets the default redundancy controller
(`NewDefaultRedundancyController`, which `CreateFrameworkSenderFromFECSchemeID`
installs when the configuration gives none) asks for about a sixth as many repair
symbols as the block has source symbols, plus one; the block's scheme makes them,
and the block is queued for sending and replaced by the next one.

The scheme is a parameter: its `GetRepairSymbols`, the XOR scheme's or the
Reed-Solomon scheme's of `FecSchemes`.  The controller's rounding is computed in
binary64 (`Binary64`).  `GetRepairFrame`, which sends the queued blocks, and
`FlushUnprotectedSymbols` are in `RepairQueue`; `HandleRecoveredFrame` only hands
a frame to the frames parser and is not modelled.

**Runs.**  `Reachable` is every sequence of successful `ProtectPayload` calls on a
new sender, each with a payload `preprocessPayload` could have made (`ValidPayload`:
non-empty, a whole number of `E - 1`-byte chunks, at most `MaxReceivePacketSize`
bytes).  With the XOR scheme and the default controller the sender never closes a
block: `reachable_xor_protectPayload` shows that four calls succeed and the fifth
fails with `XORFECSchemeTooMuchSymbolsNeeded`, since the controller asks for two
repair symbols or more and the XOR scheme makes one.  With the Reed-Solomon scheme
every call succeeds (`reachable_reedSolomon_protectPayload`), provided
`reedsolomon.New` and `Encode` do, and each returns the ID `GetNextFPID` gave before it.
-/

namespace QuicFec
open GoBytes Binary64 FecSchemes

/-! ## The redundancy controller -/

/-- `block.RedundancyController`: what the sender asks of its controller. -/
structure RedundancyController where
  ShouldSend : Nat → Bool
  GetNumberOfRepairSymbols : Nat → Nat

/-- `DEFAULT_K`. -/
def DEFAULT_K : Nat := 5

/-- `DEFAULT_N`. -/
def DEFAULT_N : Nat := 6

namespace constantRedundancyController

/-- `ShouldSend`: protect once `DEFAULT_K` packets have been sent. -/
def ShouldSend (nPacketsSinceLastRepair : Nat) : Bool := nPacketsSinceLastRepair ≥ DEFAULT_K

/-- `GetNumberOfRepairSymbols`: `uint(math.Round(float64(N - K) / float64(N) *
float64(n))) + 1`, the constant quotient rounded to binary64 once, the product once. -/
def GetNumberOfRepairSymbols (nSymbolsSinceLastRepair : Nat) : Nat :=
  uint64OfFloat (roundHalfAway (toFloat64
    (toFloat64 (((DEFAULT_N - DEFAULT_K : Nat) : ℚ) / DEFAULT_N) *
      toFloat64 nSymbolsSinceLastRepair))) + 1

end constantRedundancyController

/-- `NewDefaultRedundancyController`.  Its two counts are fields of the Go value that
neither method reads. -/
def NewDefaultRedundancyController : RedundancyController where
  ShouldSend := constantRedundancyController.ShouldSend
  GetNumberOfRepairSymbols := constantRedundancyController.GetNumberOfRepairSymbols

/-- A conversion of a nonnegative integer below `2^64` gives it back. -/
theorem uint64OfFloat_intCast {r : Int} (h : r < 2 ^ 64) :
    uint64OfFloat r = r.toNat := by
  have hlt : ((r : ℚ)) < 2 ^ 64 := by exact_mod_cast h
  simp only [uint64OfFloat, hlt, if_true, truncNat_intCast]

theorem one_le_uint64OfFloat {r : Int} (h : 1 ≤ r) : 1 ≤ uint64OfFloat r := by
  unfold uint64OfFloat
  split
  · rw [truncNat_intCast]
    omega
  · exact Nat.one_le_two_pow

namespace constantRedundancyController

/-- The product the controller rounds is within `(1 ± 2^-53)^3` of `n / 6`. -/
theorem sixth_bounds (n : Nat) :
    (n : ℚ) / 6 * (1 - 1 / 2 ^ 53) ^ 3 ≤
        toFloat64 (toFloat64 (((DEFAULT_N - DEFAULT_K : Nat) : ℚ) / DEFAULT_N) * toFloat64 n) ∧
      toFloat64 (toFloat64 (((DEFAULT_N - DEFAULT_K : Nat) : ℚ) / DEFAULT_N) * toFloat64 n) ≤
        (n : ℚ) / 6 * (1 + 1 / 2 ^ 53) ^ 3 := by
  have hsixth : (((DEFAULT_N - DEFAULT_K : Nat) : ℚ) / DEFAULT_N) = 1 / 6 := by
    norm_num [DEFAULT_N, DEFAULT_K]
  have hn : (0 : ℚ) ≤ n := Nat.cast_nonneg n
  rw [hsixth]
  constructor
  · have h := le_toFloat64_mul (show (0 : ℚ) ≤ 1 / 6 by norm_num) hn
    linarith
  · have h := toFloat64_mul_le (show (0 : ℚ) ≤ 1 / 6 by norm_num) hn
    linarith

/-- From `DEFAULT_K` source symbols on, the controller asks for two repair symbols
or more: `5/6` rounds to one. -/
theorem two_le_GetNumberOfRepairSymbols {n : Nat} (h : DEFAULT_K ≤ n) :
    2 ≤ GetNumberOfRepairSymbols n := by
  have hn : (5 : ℚ) ≤ n := by exact_mod_cast h
  have hhalf : 1 / 2 ≤ toFloat64 (toFloat64 (((DEFAULT_N - DEFAULT_K : Nat) : ℚ) / DEFAULT_N) *
      toFloat64 n) := by
    have hlow := (sixth_bounds n).1
    have hfac : (1 / 2 : ℚ) ≤ 5 / 6 * (1 - 1 / 2 ^ 53) ^ 3 := by norm_num
    have hmono : 5 / 6 * (1 - 1 / 2 ^ 53) ^ 3 ≤ (n : ℚ) / 6 * (1 - 1 / 2 ^ 53) ^ 3 :=
      mul_le_mul_of_nonneg_right (by linarith) (by norm_num)
    linarith
  have := one_le_uint64OfFloat (one_le_roundHalfAway hhalf)
  unfold GetNumberOfRepairSymbols
  omega

/-- For a block of at most 256 source symbols, the controller asks for at most a
sixth of them plus two. -/
theorem GetNumberOfRepairSymbols_le {n : Nat} (h : n ≤ 256) :
    6 * GetNumberOfRepairSymbols n ≤ n + 12 := by
  have hn : (n : ℚ) ≤ 256 := by exact_mod_cast h
  have hbounds := sixth_bounds n
  unfold GetNumberOfRepairSymbols
  set x := toFloat64 (toFloat64 (((DEFAULT_N - DEFAULT_K : Nat) : ℚ) / DEFAULT_N) * toFloat64 n)
  have hx : x ≤ (n : ℚ) / 6 + 1 / 4 := by
    have hfac : (n : ℚ) / 6 * (1 + 1 / 2 ^ 53) ^ 3 ≤ (n : ℚ) / 6 + 1 / 4 := by
      have : (n : ℚ) / 6 * ((1 + 1 / 2 ^ 53) ^ 3 - 1) ≤ 256 / 6 * ((1 + 1 / 2 ^ 53) ^ 3 - 1) :=
        mul_le_mul_of_nonneg_right (by linarith) (by norm_num)
      nlinarith
    linarith [hbounds.2]
  have hx0 : 0 ≤ x := le_trans (by positivity) hbounds.1
  have hr0 := roundHalfAway_nonneg hx0
  have hr : (roundHalfAway x : ℚ) ≤ (n : ℚ) / 6 + 3 / 4 := by linarith [roundHalfAway_le hx0]
  -- the rounded value is an integer at most `n / 6 + 3/4`, far below `2^64`
  have hr6 : 6 * roundHalfAway x ≤ n + 4 := by
    have h' : (6 * roundHalfAway x : ℚ) < (n + 4 : Int) + 1 := by push_cast; linarith
    exact Int.lt_add_one_iff.1 (by exact_mod_cast h')
  rw [uint64OfFloat_intCast (by omega)]
  omega

end constantRedundancyController

/-! ## The sender -/

/-- `BlockFrameworkSender`, without its scheme and controller, which are parameters
of its methods, and its frames parser, which `CreateFrameworkSenderFromFECSchemeID`
builds with the sender's symbol size `e`. -/
structure BlockFrameworkSender where
  currentBlock : FECBlock
  e : Nat
  protectedPacketsSinceLastRepair : List Nat
  nSourceSymbolsSinceLastRepair : Nat
  BlocksToSend : List FECBlock

/-- `NewBlockFrameworkSender`. -/
def NewBlockFrameworkSender (E : Nat) : Except GoError BlockFrameworkSender :=
  if E ≥ MAX_FEC_SYMBOL_SIZE then
    .error (.error ("framework sender symbol size too big: " ++ toString E ++ " > " ++
      toString MAX_FEC_SYMBOL_SIZE))
  else .ok ⟨newFECBlock 0, E, [], 0, []⟩

namespace BlockFrameworkSender

/-- `GetNextFPID`: the ID of the next source symbol of the current block. -/
def GetNextFPID (f : BlockFrameworkSender) : Vector UInt8 4 :=
  BlockSourceID.toFPID ⟨f.currentBlock.blockNumber, UInt8.ofNat f.currentBlock.sourceSymbolsOffsets.len⟩

/-- `protectSourceSymbol`: add the symbol to the current block, and give its ID. -/
def protectSourceSymbol (f : BlockFrameworkSender) (symbol : BlockSourceSymbol) :
    BlockFrameworkSender × Vector UInt8 4 :=
  let r := f.currentBlock.addSourceSymbol symbol
  ({ f with currentBlock := r.1 }, r.2.toFPID)

/-- The loop of `ProtectPayload` over the symbols of a payload, from the `i`-th: each
is protected, and the ID of the first is kept. -/
def protectSourceSymbols (f : BlockFrameworkSender) :
    List BlockSourceSymbol → Nat → Vector UInt8 4 → BlockFrameworkSender × Vector UInt8 4
  | [], _, retval => (f, retval)
  | symbol :: symbols, i, retval =>
    let r := f.protectSourceSymbol symbol
    r.1.protectSourceSymbols symbols (i + 1) (if i = 0 then r.2 else retval)

/-- `sendCurrentBlock`: the block gets its totals and is queued, and the next one
starts. -/
def sendCurrentBlock (f : BlockFrameworkSender) : BlockFrameworkSender :=
  let block := { f.currentBlock with
    totalNumberOfSourceSymbols := f.currentBlock.sourceSymbols.length
    totalNumberOfRepairSymbols := f.currentBlock.repairSymbols.length }
  { f with
    BlocksToSend := f.BlocksToSend ++ [block]
    currentBlock := newFECBlock (block.blockNumber + 1)
    protectedPacketsSinceLastRepair := []
    nSourceSymbolsSinceLastRepair := 0 }

variable (GetRepairSymbols : FECBlock → Nat → Except GoError (List BlockRepairSymbol))
  (rc : RedundancyController)

/-- `GenerateRepairSymbols`: the scheme's repair symbols, set into the block. -/
def GenerateRepairSymbols (block : FECBlock) (numberOfSymbols : Nat) : Except GoError FECBlock := do
  let symbols ← GetRepairSymbols block numberOfSymbols
  block.setRepairSymbols symbols

/-- `ProtectPayload` of a preprocessed payload, with the scheme's `GetRepairSymbols`
and the controller `rc`.  The packet number it is given is not used.  The symbols
are added before the repair symbols are asked for, so a failure there leaves them
in the block. -/
def ProtectPayload (f : BlockFrameworkSender) (payload : Bytes) :
    BlockFrameworkSender × Except GoError (Vector UInt8 4) :=
  if payload.length = 0 then (f, .error (.error "asked to protect an empty payload")) else
  match payloadToSourceSymbols payload f.e true with
  | .error err => (f, .error err)
  | .ok symbols =>
    let r := f.protectSourceSymbols symbols 0 (Vector.replicate 4 0)
    let f := { r.1 with
      protectedPacketsSinceLastRepair := r.1.protectedPacketsSinceLastRepair ++ [symbols.length]
      nSourceSymbolsSinceLastRepair := r.1.nSourceSymbolsSinceLastRepair + symbols.length }
    if rc.ShouldSend f.protectedPacketsSinceLastRepair.length then
      match GenerateRepairSymbols GetRepairSymbols f.currentBlock
          (rc.GetNumberOfRepairSymbols f.nSourceSymbolsSinceLastRepair) with
      | .error err => (f, .error err)
      | .ok block => (sendCurrentBlock { f with currentBlock := block }, .ok r.2)
    else (f, .ok r.2)

/-! ## One call -/

/-- The sender once the symbols of a payload are in the current block and counted,
as `ProtectPayload` has it when it asks its controller. -/
def addPayload (f : BlockFrameworkSender) (symbols : List BlockSourceSymbol) :
    BlockFrameworkSender :=
  { f with
    currentBlock := f.currentBlock.addSourceSymbols symbols
    protectedPacketsSinceLastRepair := f.protectedPacketsSinceLastRepair ++ [symbols.length]
    nSourceSymbolsSinceLastRepair := f.nSourceSymbolsSinceLastRepair + symbols.length }

theorem protectSourceSymbols_fst (f : BlockFrameworkSender) (symbols : List BlockSourceSymbol)
    (i : Nat) (retval : Vector UInt8 4) :
    (f.protectSourceSymbols symbols i retval).1 =
      { f with currentBlock := f.currentBlock.addSourceSymbols symbols } := by
  induction symbols generalizing f i retval with
  | nil => rfl
  | cons s symbols ih =>
    rw [protectSourceSymbols, ih]
    rfl

theorem protectSourceSymbols_snd_of_pos (f : BlockFrameworkSender)
    (symbols : List BlockSourceSymbol) {i : Nat} (hi : 0 < i) (retval : Vector UInt8 4) :
    (f.protectSourceSymbols symbols i retval).2 = retval := by
  induction symbols generalizing f i retval with
  | nil => rfl
  | cons s symbols ih =>
    rw [protectSourceSymbols, if_neg (Nat.ne_of_gt hi), ih _ (by omega)]

/-- The ID the loop keeps is the one of the first symbol: what `GetNextFPID` gave
before it. -/
theorem protectSourceSymbols_snd (f : BlockFrameworkSender) (s : BlockSourceSymbol)
    (symbols : List BlockSourceSymbol) (retval : Vector UInt8 4) :
    (f.protectSourceSymbols (s :: symbols) 0 retval).2 = f.GetNextFPID := by
  rw [protectSourceSymbols, protectSourceSymbols_snd_of_pos _ _ (Nat.succ_pos 0), if_pos rfl]
  rfl

/-- **`ProtectPayload`, once the payload is cut into symbols.**  The symbols are
added and counted; then either the controller waits, or the scheme's repair
symbols are set into the block, which is sent.  The returned ID is what
`GetNextFPID` gave before the call. -/
theorem ProtectPayload_eq {f : BlockFrameworkSender} {payload : Bytes}
    {symbols : List BlockSourceSymbol} (hne : payload ≠ [])
    (hs : payloadToSourceSymbols payload f.e true = .ok symbols) (hsne : symbols ≠ []) :
    f.ProtectPayload GetRepairSymbols rc payload =
      if rc.ShouldSend (f.addPayload symbols).protectedPacketsSinceLastRepair.length then
        match GenerateRepairSymbols GetRepairSymbols (f.addPayload symbols).currentBlock
            (rc.GetNumberOfRepairSymbols (f.addPayload symbols).nSourceSymbolsSinceLastRepair) with
        | .error err => (f.addPayload symbols, .error err)
        | .ok block =>
          (sendCurrentBlock { f.addPayload symbols with currentBlock := block }, .ok f.GetNextFPID)
      else (f.addPayload symbols, .ok f.GetNextFPID) := by
  obtain ⟨s, rest, rfl⟩ := List.exists_cons_of_ne_nil hsne
  have hlen : payload.length ≠ 0 := fun h => hne (List.eq_nil_of_length_eq_zero h)
  simp only [ProtectPayload, hlen, if_false, hs, protectSourceSymbols_fst,
    protectSourceSymbols_snd]
  rfl

end BlockFrameworkSender

/-! ## Payloads -/

/-- A payload `ProtectPayload` may be handed, for the symbol size `E`: not empty, a
whole number of `E - 1`-byte chunks, and at most `MaxReceivePacketSize` bytes, as
`preprocessPayload` makes them (`validPayload_of_preprocessPayload`). -/
structure ValidPayload (E : Nat) (payload : Bytes) : Prop where
  ne : payload ≠ []
  aligned : payload.length % (E - 1) = 0
  le : payload.length ≤ MaxReceivePacketSize

/-- What `preprocessPayload` makes for a packet number in the varint range and
frames to protect is a whole number of chunks. -/
theorem validPayload_of_preprocessPayload {pn : Int} {frames : List Frame} {E : Nat} {w : Bytes}
    {payload : Bytes} (hE : 2 ≤ E) (hE' : E ≤ maxAlloc) (h0 : 0 ≤ pn)
    (hpn : pn.toNat ≤ maxVarInt8) (hw : writeProtectedFrames frames = .ok w) (hne : w ≠ [])
    (hwlen : w.length ≤ maxAlloc) (hp : preprocessPayload pn frames E = .ok payload)
    (hlen : payload.length ≤ MaxReceivePacketSize) : ValidPayload E payload := by
  obtain ⟨k, -, hal, heq⟩ := preprocessPayload_eq hE hE' h0 hpn hw hne hwlen
  rw [hp, Except.ok.injEq] at heq
  subst heq
  exact ⟨by simp [hne], by simpa [Nat.add_assoc] using hal, hlen⟩

/-- Every chunk symbol is its synchronization byte and `c` bytes of the payload. -/
theorem chunkSymbols_data_length (c : Nat) (b : Bool) (n : Nat) :
    ∀ k i (p : Bytes), k * c ≤ p.length → ∀ s ∈ chunkSymbols c b n k i p, s.data.length = c + 1
  | 0, _, _, _, s, hs => absurd hs (by simp [chunkSymbols])
  | k + 1, i, p, hp, s, hs => by
    rw [chunkSymbols_succ, List.mem_cons] at hs
    rcases hs with rfl | hs
    · simp only [List.length_cons, List.length_take]
      rw [Nat.succ_mul] at hp
      omega
    · refine chunkSymbols_data_length c b n k (i + 1) (p.drop c) ?_ s hs
      rw [List.length_drop, Nat.succ_mul] at *
      omega

/-- The symbols of a valid payload: between one and 23 of them, each `E` bytes. -/
theorem payloadToSourceSymbols_valid {E : Nat} {payload : Bytes} (hE : 64 ≤ E)
    (hE' : E < MAX_FEC_SYMBOL_SIZE) (hp : ValidPayload E payload) :
    ∃ symbols, payloadToSourceSymbols payload E true = .ok symbols ∧ symbols ≠ [] ∧
      symbols.length ≤ 23 ∧ ∀ s ∈ symbols, s.data.length = E := by
  have hmax : MAX_FEC_SYMBOL_SIZE = 1232 := rfl
  have hrecv : MaxReceivePacketSize = 1452 := rfl
  have hlen := hp.le
  have hpos : 0 < payload.length := List.length_pos_of_ne_nil hp.ne
  have hdiv := Nat.div_add_mod payload.length (E - 1)
  rw [hp.aligned] at hdiv
  -- `E - 1` is at least 63, so a payload of at most 1452 bytes has at most 23 chunks
  have hn : payload.length / (E - 1) ≤ 23 := by
    rw [Nat.div_le_iff_le_mul_add_pred (by omega)]
    have : 23 * 63 ≤ 23 * (E - 1) := Nat.mul_le_mul_left 23 (by omega)
    omega
  have hn0 : 0 < payload.length / (E - 1) := by
    rcases Nat.eq_zero_or_pos (payload.length / (E - 1)) with h | h
    · rw [h, Nat.mul_zero] at hdiv
      omega
    · exact h
  refine ⟨_, payloadToSourceSymbols_eq (by omega) (by unfold maxAlloc; omega) hp.aligned true,
    ?_, ?_, ?_⟩
  · rw [← List.length_pos_iff, chunkSymbols_length]
    exact hn0
  · rw [chunkSymbols_length]
    exact hn
  · intro s hs
    rw [chunkSymbols_data_length _ _ _ _ _ _ (by rw [Nat.mul_comm] at hdiv; omega) s hs]
    omega

/-! ## The schemes on the sender's block

The current block of the sender is a new block with the symbols of the packets
protected since the last one added in order: `(newFECBlock bn).addSourceSymbols ss`. -/

namespace FECBlock

@[simp] theorem addSourceSymbols_repairSymbols (f : FECBlock) (ss : List BlockSourceSymbol) :
    (f.addSourceSymbols ss).repairSymbols = f.repairSymbols := by
  induction ss generalizing f with
  | nil => rfl
  | cons s ss ih => exact ih _

@[simp] theorem addSourceSymbols_blockNumber (f : FECBlock) (ss : List BlockSourceSymbol) :
    (f.addSourceSymbols ss).blockNumber = f.blockNumber := by
  induction ss generalizing f with
  | nil => rfl
  | cons s ss ih => exact ih _

theorem addSourceSymbols_append (f : FECBlock) (ss ss' : List BlockSourceSymbol) :
    (f.addSourceSymbols ss).addSourceSymbols ss' = f.addSourceSymbols (ss ++ ss') := by
  simp [addSourceSymbols, List.foldl_append]

/-- Setting repair symbols numbered on from the ones a block holds succeeds while
there are fewer than 256. -/
theorem setRepairSymbols_ok :
    ∀ (rs : List BlockRepairSymbol) (b : FECBlock),
      (∀ i (hi : i < rs.length),
        rs[i].blockRepairID.blockSourceID.blockOffset.toNat = b.repairSymbols.length + i) →
      b.repairSymbols.length + rs.length < 256 → ∃ b', b.setRepairSymbols rs = .ok b'
  | [], b, _, _ => ⟨b, rfl⟩
  | r :: rs, b, hoff, hlen => by
    have hr := hoff 0 (by simp)
    simp only [List.getElem_cons_zero, Nat.add_zero] at hr
    simp only [List.length_cons] at hlen
    have hset := setSymbol_eq (show b.repairSymbols.length < 256 by omega)
      (Or.inl (show r.blockRepairID.blockSourceID.blockOffset.toNat < 255 by omega))
      b.repairSymbolsOffsets r r.blockRepairID
    set b₁ : FECBlock := { b with
      repairSymbols := (b.repairSymbols ++ List.replicate
          (r.blockRepairID.blockSourceID.blockOffset.toNat + 1 - b.repairSymbols.length) none).set
        r.blockRepairID.blockSourceID.blockOffset.toNat (some r)
      repairSymbolsOffsets := b.repairSymbolsOffsets.insert r.blockRepairID
        r.blockRepairID.blockSourceID.blockOffset } with hb₁
    have h₁ : b.setRepairSymbol r = .ok b₁ := by
      simp [setRepairSymbol, hset, hb₁]
    have hlen₁ : b₁.repairSymbols.length = b.repairSymbols.length + 1 := by
      simp [hb₁, hr]
    obtain ⟨b', hb'⟩ := setRepairSymbols_ok rs b₁ (fun i hi => by
      have h := hoff (i + 1) (by simp; omega)
      simp only [List.getElem_cons_succ] at h
      rw [h, hlen₁]
      omega) (by omega)
    exact ⟨b', by simp [setRepairSymbols, List.foldlM_cons, h₁] at hb' ⊢; exact hb'⟩

/-- One repair symbol at the next offset of a block holding fewer than 255 is
appended to it. -/
theorem setRepairSymbol_next {b : FECBlock} {r : BlockRepairSymbol}
    (hr : r.blockRepairID.blockSourceID.blockOffset.toNat = b.repairSymbols.length)
    (hlen : b.repairSymbols.length < 255) :
    b.setRepairSymbol r = .ok { b with
      repairSymbols := b.repairSymbols ++ [some r]
      repairSymbolsOffsets :=
        b.repairSymbolsOffsets.insert r.blockRepairID r.blockRepairID.blockSourceID.blockOffset } := by
  have hset := setSymbol_eq (show b.repairSymbols.length < 256 by omega)
    (Or.inl (show r.blockRepairID.blockSourceID.blockOffset.toNat < 255 by omega))
    b.repairSymbolsOffsets r r.blockRepairID
  rw [setRepairSymbol, hset, ok_bind, hr, Nat.add_sub_cancel_left, List.replicate_one,
    List.set_append_right _ _ (Nat.le_refl _), Nat.sub_self, List.set_cons_zero]
  rfl

/-- Repair symbols numbered on from the ones a block holds, fewer than 256 in all,
are appended to them in order. -/
theorem setRepairSymbols_eq : ∀ (rs : List BlockRepairSymbol) (b b' : FECBlock),
    (∀ i (hi : i < rs.length),
      rs[i].blockRepairID.blockSourceID.blockOffset.toNat = b.repairSymbols.length + i) →
    b.repairSymbols.length + rs.length < 256 → b.setRepairSymbols rs = .ok b' →
    b'.repairSymbols = b.repairSymbols ++ rs.map some
  | [], b, b', _, _, h => by
    cases h
    simp
  | r :: rs, b, b', hoff, hlen, h => by
    simp only [List.length_cons] at hlen
    have hr := hoff 0 (by simp)
    simp only [List.getElem_cons_zero, Nat.add_zero] at hr
    rw [setRepairSymbols, List.foldlM_cons, setRepairSymbol_next hr (by omega), ok_bind] at h
    have h' := setRepairSymbols_eq rs _ b' (fun i hi => by
      have := hoff (i + 1) (by simp; omega)
      simp only [List.getElem_cons_succ] at this
      simp only [List.length_append, List.length_singleton]
      omega) (by simp; omega) h
    simpa using h'

end FECBlock

namespace BlockFrameworkSender

theorem maxLengthLoop_ok (l : List BlockSourceSymbol) (m : Nat) :
    ∃ r, (l.map some).foldlM XORFECScheme.maxLengthStep m = (.ok r : Except GoError Nat) := by
  induction l generalizing m with
  | nil => exact ⟨m, rfl⟩
  | cons s l ih =>
    obtain ⟨r, hr⟩ := ih (if m < s.data.length then s.data.length else m)
    exact ⟨r, by simpa [XORFECScheme.maxLengthStep] using hr⟩

/-- The XOR scheme refuses to make more than one repair symbol for the sender's
block. -/
theorem xor_GenerateRepairSymbols (x : FecSchemes.XORFECScheme) (supportsUnaligned : Bool) (bn : UInt32)
    {ss : List BlockSourceSymbol} (hne : ss ≠ []) (hlen : ss.length ≤ 256) {m : Nat}
    (hm : 1 < m) :
    GenerateRepairSymbols (x.getRepairSymbols supportsUnaligned)
        ((newFECBlock bn).addSourceSymbols ss) m = .error XORFECSchemeTooMuchSymbolsNeeded := by
  obtain ⟨r, hr⟩ := maxLengthLoop_ok ss 0
  simp [GenerateRepairSymbols, XORFECScheme.getRepairSymbols,
    FECBlock.getSourceSymbols_addSourceSymbols bn hlen, hr, hne, hm]

/-- What the Reed-Solomon library is assumed to do: `New(k, m)` succeeds for
`1 ≤ k`, `1 ≤ m` and `k + m ≤ 256`, and its encoder's `Encode` succeeds on `k + m`
shards of one length, filling them in place. -/
def ReedSolomonWorks (new : Nat → Nat → Except GoError Encoder) : Prop :=
  ∀ k m, 1 ≤ k → 1 ≤ m → k + m ≤ 256 → ∃ enc, new k m = .ok enc ∧
    ∀ shards : List Bytes, shards.length = k + m → (∀ s ∈ shards, ∀ t ∈ shards, s.length = t.length) →
      ∃ out, enc.encode shards = .ok out ∧ out.length = shards.length

theorem mapM_deref_data (l : List BlockSourceSymbol) :
    (l.map some).mapM (fun s => do return (← deref s).data) = (.ok (l.map (·.data)) :
      Except GoError (List Bytes)) := by
  induction l with
  | nil => rfl
  | cons s l ih =>
    rw [List.map_cons, List.mapM_cons, ih]
    rfl

/-- The Reed-Solomon scheme makes the repair symbols of the sender's block, and
they fit in it. -/
theorem reedSolomon_GenerateRepairSymbols {new : Nat → Nat → Except GoError Encoder}
    (hnew : ReedSolomonWorks new) (bn : UInt32) {ss : List BlockSourceSymbol} {E m : Nat}
    (hne : ss ≠ []) (hE : ∀ s ∈ ss, s.data.length = E) (hm : 1 ≤ m)
    (hkm : ss.length + m < 256) :
    ∃ block, GenerateRepairSymbols (ReedSolomonFECScheme.getRepairSymbols new)
      ((newFECBlock bn).addSourceSymbols ss) m = .ok block := by
  obtain ⟨s₀, rest, rfl⟩ := List.exists_cons_of_ne_nil hne
  obtain ⟨hss, -⟩ := FECBlock.addSourceSymbols_offsets bn (s₀ :: rest)
  obtain ⟨enc, henc, hencode⟩ := hnew (rest.length + 1) m (by omega) hm (by simp at hkm; omega)
  set shards := (s₀ :: rest).map (·.data) ++ List.replicate m (List.replicate s₀.data.length 0)
    with hshardsdef
  have hshards : ∀ s ∈ shards, s.length = E := by
    intro s hs
    rcases List.mem_append.1 hs with hs | hs
    · obtain ⟨t, ht, rfl⟩ := List.mem_map.1 hs
      exact hE t ht
    · rw [(List.mem_replicate.1 hs).2, List.length_replicate]
      exact hE s₀ List.mem_cons_self
  obtain ⟨out, hout, houtlen⟩ := hencode shards (by simp [hshardsdef]; omega)
    (fun s hs t ht => by rw [hshards s hs, hshards t ht])
  set rs := ((out.drop (rest.length + 1)).zipIdx).map fun (p : Bytes × Nat) =>
    (⟨⟨Vector.replicate 4 0, ⟨bn, UInt8.ofNat p.2⟩⟩, p.1⟩ : BlockRepairSymbol) with hrs
  have hget : ReedSolomonFECScheme.getRepairSymbols new ((newFECBlock bn).addSourceSymbols
      (s₀ :: rest)) m = .ok rs := by
    simp only [ReedSolomonFECScheme.getRepairSymbols, ReedSolomonFECScheme.getEncoder, hss,
      mapM_deref_data]
    have hout' : enc.encode (s₀.data :: (rest.map (·.data) ++
        List.replicate m (List.replicate s₀.data.length 0))) = .ok out := by
      simpa [hshardsdef] using hout
    simp [henc, hout', hrs, newFECBlock]
  have hrslen : rs.length = m := by
    simp [hrs, houtlen, hshardsdef]
  obtain ⟨block, hblock⟩ := FECBlock.setRepairSymbols_ok rs ((newFECBlock bn).addSourceSymbols
    (s₀ :: rest)) (fun i hi => by
      rw [ReedSolomonFECScheme.getRepairSymbols_id new hget hi]
      simp [newFECBlock, FECBlock.toNat_ofNat_of_lt (show i < 256 by omega)])
    (by simp [newFECBlock]; simp at hkm; omega)
  exact ⟨block, by simp [GenerateRepairSymbols, hget, hblock]⟩

/-! ## Runs with the default controller -/

variable (GetRepairSymbols : FECBlock → Nat → Except GoError (List BlockRepairSymbol))

/-- What holds of the sender between calls, for the symbol size `E`: the current
block is a new block holding, in order, the symbols of the packets protected since
the last block was sent, each `E` bytes and one to 23 per packet, and fewer than
`DEFAULT_K` packets have been protected since. -/
structure Inv (E : Nat) (f : BlockFrameworkSender) : Prop where
  e : f.e = E
  e_lt : E < MAX_FEC_SYMBOL_SIZE
  block : ∃ ss : List BlockSourceSymbol,
    f.currentBlock = (newFECBlock f.currentBlock.blockNumber).addSourceSymbols ss ∧
      ss.length = f.nSourceSymbolsSinceLastRepair ∧ ∀ s ∈ ss, s.data.length = E
  packets_le : f.protectedPacketsSinceLastRepair.length ≤ f.nSourceSymbolsSinceLastRepair
  symbols_le : f.nSourceSymbolsSinceLastRepair ≤ 23 * f.protectedPacketsSinceLastRepair.length
  packets_lt : f.protectedPacketsSinceLastRepair.length < DEFAULT_K

theorem inv_NewBlockFrameworkSender {E : Nat} {f : BlockFrameworkSender}
    (h : NewBlockFrameworkSender E = .ok f) : Inv E f := by
  unfold NewBlockFrameworkSender at h
  split at h
  · cases h
  · rename_i hlt
    cases h
    exact ⟨rfl, by omega, ⟨[], rfl, rfl, by simp⟩, Nat.le_refl 0, Nat.le_refl 0,
      by simp [DEFAULT_K]⟩

/-- A sent block leaves a new, empty one. -/
theorem inv_sendCurrentBlock {E : Nat} {f : BlockFrameworkSender} (he : f.e = E)
    (hlt : E < MAX_FEC_SYMBOL_SIZE) : Inv E f.sendCurrentBlock :=
  ⟨he, hlt, ⟨[], rfl, rfl, by simp⟩, Nat.le_refl 0, Nat.le_refl 0,
    by simp [sendCurrentBlock, DEFAULT_K]⟩

@[simp] theorem addPayload_e (f : BlockFrameworkSender) (symbols : List BlockSourceSymbol) :
    (f.addPayload symbols).e = f.e := rfl

@[simp] theorem addPayload_packets (f : BlockFrameworkSender) (symbols : List BlockSourceSymbol) :
    (f.addPayload symbols).protectedPacketsSinceLastRepair.length =
      f.protectedPacketsSinceLastRepair.length + 1 := by
  simp [addPayload]

/-- The block once a payload's symbols are added: the symbols so far and the new
ones, between one and 23 more. -/
theorem Inv.addPayload_block {E : Nat} {f : BlockFrameworkSender} (hf : Inv E f)
    {symbols : List BlockSourceSymbol} (hne : symbols ≠ []) (hle : symbols.length ≤ 23)
    (hs : ∀ s ∈ symbols, s.data.length = E) :
    ∃ ss, (f.addPayload symbols).currentBlock =
        (newFECBlock f.currentBlock.blockNumber).addSourceSymbols ss ∧
      ss.length = (f.addPayload symbols).nSourceSymbolsSinceLastRepair ∧ ss ≠ [] ∧
      (f.addPayload symbols).protectedPacketsSinceLastRepair.length ≤ ss.length ∧
      ss.length ≤ 23 * (f.addPayload symbols).protectedPacketsSinceLastRepair.length ∧
      ∀ s ∈ ss, s.data.length = E := by
  obtain ⟨ss, hblock, hlen, hss⟩ := hf.block
  have hpos : 0 < symbols.length := List.length_pos_of_ne_nil hne
  have h1 := hf.packets_le
  have h2 := hf.symbols_le
  refine ⟨ss ++ symbols, ?_, by simp [addPayload, hlen], by simp [hne], ?_, ?_, ?_⟩
  · simp only [addPayload]
    rw [hblock, FECBlock.addSourceSymbols_append, FECBlock.addSourceSymbols_blockNumber]
    rfl
  · simp only [addPayload_packets, List.length_append]
    omega
  · simp only [addPayload_packets, List.length_append]
    omega
  · intro s hs'
    rcases List.mem_append.1 hs' with h | h
    · exact hss s h
    · exact hs s h

/-- **A call that waits.**  Before the `DEFAULT_K`-th packet the controller asks for
nothing: the call succeeds with what `GetNextFPID` gave, and one more packet is
counted. -/
theorem Inv.ProtectPayload_wait {E : Nat} {f : BlockFrameworkSender} (hf : Inv E f)
    (hE : 64 ≤ E) {payload : Bytes} (hp : ValidPayload E payload)
    (hlt : f.protectedPacketsSinceLastRepair.length + 1 < DEFAULT_K) :
    ∃ f', f.ProtectPayload GetRepairSymbols NewDefaultRedundancyController payload =
      (f', .ok f.GetNextFPID) ∧ Inv E f' ∧
      f'.protectedPacketsSinceLastRepair.length = f.protectedPacketsSinceLastRepair.length + 1 := by
  obtain ⟨symbols, hsym, hne, hle, hlen⟩ := payloadToSourceSymbols_valid hE hf.e_lt hp
  obtain ⟨ss, hblock, hsslen, -, h1, h2, hss⟩ := hf.addPayload_block hne hle hlen
  have hwait : NewDefaultRedundancyController.ShouldSend
      (f.addPayload symbols).protectedPacketsSinceLastRepair.length = false := by
    simp only [NewDefaultRedundancyController, constantRedundancyController.ShouldSend,
      addPayload_packets]
    simpa using hlt
  refine ⟨f.addPayload symbols, ?_, ?_, addPayload_packets f symbols⟩
  · rw [ProtectPayload_eq GetRepairSymbols _ hp.ne (hf.e ▸ hsym) hne, hwait]
    rfl
  · refine ⟨hf.e, hf.e_lt, ⟨ss, ?_, hsslen, hss⟩, hsslen ▸ h1, hsslen ▸ h2, by simpa using hlt⟩
    rw [hblock, FECBlock.addSourceSymbols_blockNumber]
    rfl

/-- **A call that closes the block.**  At the `DEFAULT_K`-th packet the block holds
between `DEFAULT_K` and 115 symbols, and the call is what the scheme does with it. -/
theorem Inv.ProtectPayload_close {E : Nat} {f : BlockFrameworkSender} (hf : Inv E f)
    (hE : 64 ≤ E) {payload : Bytes} (hp : ValidPayload E payload)
    (heq : f.protectedPacketsSinceLastRepair.length + 1 = DEFAULT_K) :
    ∃ symbols ss, DEFAULT_K ≤ ss.length ∧ ss.length ≤ 115 ∧ (∀ s ∈ ss, s.data.length = E) ∧
      f.ProtectPayload GetRepairSymbols NewDefaultRedundancyController payload =
        match GenerateRepairSymbols GetRepairSymbols
            ((newFECBlock f.currentBlock.blockNumber).addSourceSymbols ss)
            (constantRedundancyController.GetNumberOfRepairSymbols ss.length) with
        | .error err => (f.addPayload symbols, .error err)
        | .ok block =>
          (sendCurrentBlock { f.addPayload symbols with currentBlock := block }, .ok f.GetNextFPID) := by
  obtain ⟨symbols, hsym, hne, hle, hlen⟩ := payloadToSourceSymbols_valid hE hf.e_lt hp
  obtain ⟨ss, hblock, hsslen, -, h1, h2, hss⟩ := hf.addPayload_block hne hle hlen
  have hpk := addPayload_packets f symbols
  have hsend : NewDefaultRedundancyController.ShouldSend
      (f.addPayload symbols).protectedPacketsSinceLastRepair.length = true := by
    simp only [NewDefaultRedundancyController, constantRedundancyController.ShouldSend, hpk]
    simp [heq]
  refine ⟨symbols, ss, by rw [hpk, heq] at h1; exact h1, by rw [hpk, heq] at h2; simpa [DEFAULT_K] using h2,
    hss, ?_⟩
  rw [ProtectPayload_eq GetRepairSymbols _ hp.ne (hf.e ▸ hsym) hne, hsend, if_pos rfl, hblock,
    ← hsslen]
  rfl

/-- The senders a session holds after successful `ProtectPayload` calls with valid
payloads, from `NewBlockFrameworkSender E`, with the scheme's `getRepairSymbols`
and the controller `controller`. -/
inductive Reachable (getRepairSymbols : FECBlock → Nat → Except GoError (List BlockRepairSymbol))
    (controller : RedundancyController) (E : Nat) : BlockFrameworkSender → Prop
  | init {f : BlockFrameworkSender} : NewBlockFrameworkSender E = .ok f →
      Reachable getRepairSymbols controller E f
  | step {f f' : BlockFrameworkSender} {payload : Bytes} {id : Vector UInt8 4} :
      Reachable getRepairSymbols controller E f → ValidPayload E payload →
      f.ProtectPayload getRepairSymbols controller payload = (f', .ok id) →
      Reachable getRepairSymbols controller E f'

/-- A successful call keeps the invariant and returns what `GetNextFPID` gave. -/
theorem Inv.ProtectPayload_ok {E : Nat} {f f' : BlockFrameworkSender} (hf : Inv E f)
    (hE : 64 ≤ E) {payload : Bytes} (hp : ValidPayload E payload) {id : Vector UInt8 4}
    (h : f.ProtectPayload GetRepairSymbols NewDefaultRedundancyController payload = (f', .ok id)) :
    Inv E f' ∧ id = f.GetNextFPID := by
  rcases Nat.lt_or_ge (f.protectedPacketsSinceLastRepair.length + 1) DEFAULT_K with hlt | hge
  · -- the controller waits
    obtain ⟨f'', h', hinv, -⟩ := Inv.ProtectPayload_wait GetRepairSymbols hf hE hp hlt
    rw [h', Prod.mk.injEq, Except.ok.injEq] at h
    obtain ⟨rfl, rfl⟩ := h
    exact ⟨hinv, rfl⟩
  · -- the block was closed, so the scheme's repair symbols were set and it was sent
    have heq : f.protectedPacketsSinceLastRepair.length + 1 = DEFAULT_K := by
      have := hf.packets_lt
      omega
    obtain ⟨symbols, ss, -, -, -, h'⟩ := Inv.ProtectPayload_close GetRepairSymbols hf hE hp heq
    rw [h'] at h
    split at h
    · simp at h
    · rw [Prod.mk.injEq, Except.ok.injEq] at h
      obtain ⟨rfl, rfl⟩ := h
      exact ⟨inv_sendCurrentBlock hf.e hf.e_lt, rfl⟩

theorem Reachable.inv {E : Nat} (hE : 64 ≤ E) {f : BlockFrameworkSender}
    (hr : Reachable GetRepairSymbols NewDefaultRedundancyController E f) : Inv E f := by
  induction hr with
  | init h => exact inv_NewBlockFrameworkSender h
  | step _ hp h ih => exact (Inv.ProtectPayload_ok GetRepairSymbols ih hE hp h).1

/-- Fed valid payloads, a session reaches every count of packets below `DEFAULT_K`. -/
theorem Reachable.exists_packets {E : Nat} (hE : 64 ≤ E) (hE' : E < MAX_FEC_SYMBOL_SIZE)
    {payload : Bytes} (hp : ValidPayload E payload) :
    ∀ n < DEFAULT_K, ∃ f, Reachable GetRepairSymbols NewDefaultRedundancyController E f ∧
      f.protectedPacketsSinceLastRepair.length = n := by
  intro n
  induction n with
  | zero =>
    intro _
    have hnew : NewBlockFrameworkSender E = .ok ⟨newFECBlock 0, E, [], 0, []⟩ := by
      simp [NewBlockFrameworkSender, Nat.not_le.2 hE']
    exact ⟨_, .init hnew, rfl⟩
  | succ n ih =>
    intro hlt
    obtain ⟨f, hr, hlen⟩ := ih (by omega)
    obtain ⟨f', h, -, hlen'⟩ := Inv.ProtectPayload_wait GetRepairSymbols
      (Reachable.inv GetRepairSymbols hE hr) hE hp (by omega)
    exact ⟨f', .step hr hp h, by omega⟩

/-- **The XOR scheme with the default controller never closes a block.**  Whatever
the symbol size and the payloads, every sender a session can hold has protected
fewer than `DEFAULT_K` packets since its last block; before the `DEFAULT_K`-th a
call succeeds and returns what `GetNextFPID` gave, and the `DEFAULT_K`-th fails:
the controller asks for two repair symbols or more, and the XOR scheme refuses
more than one. -/
theorem reachable_xor_protectPayload {E : Nat} (hE : 64 ≤ E) (x : FecSchemes.XORFECScheme)
    (supportsUnaligned : Bool) {f : BlockFrameworkSender}
    (hr : Reachable (x.getRepairSymbols supportsUnaligned) NewDefaultRedundancyController E f)
    {payload : Bytes} (hp : ValidPayload E payload) :
    f.protectedPacketsSinceLastRepair.length < DEFAULT_K ∧
      (f.protectedPacketsSinceLastRepair.length + 1 < DEFAULT_K →
        ∃ f', f.ProtectPayload (x.getRepairSymbols supportsUnaligned)
          NewDefaultRedundancyController payload = (f', .ok f.GetNextFPID)) ∧
      (f.protectedPacketsSinceLastRepair.length + 1 = DEFAULT_K →
        (f.ProtectPayload (x.getRepairSymbols supportsUnaligned)
          NewDefaultRedundancyController payload).2 = .error XORFECSchemeTooMuchSymbolsNeeded) := by
  have hf := Reachable.inv _ hE hr
  refine ⟨hf.packets_lt, fun hlt => ?_, fun heq => ?_⟩
  · obtain ⟨f', h, -, -⟩ := Inv.ProtectPayload_wait _ hf hE hp hlt
    exact ⟨f', h⟩
  · obtain ⟨symbols, ss, hk, h115, -, h⟩ := Inv.ProtectPayload_close _ hf hE hp heq
    have hm := constantRedundancyController.two_le_GetNumberOfRepairSymbols hk
    have hne : ss ≠ [] := by
      intro hnil
      rw [hnil] at hk
      simp [DEFAULT_K] at hk
    rw [h, xor_GenerateRepairSymbols x supportsUnaligned _ hne (by omega) (by omega)]

/-- A session of the XOR scheme with symbols of 64 bytes, fed the payload
`preprocessPayload` makes of a lone PING frame, fails at its fifth packet. -/
theorem xor_fifth_packet_fails :
    preprocessPayload 1 [Frame.ping] 64 = .ok ([1] ++ List.replicate 61 0 ++ [1]) ∧
    ∃ f, Reachable (FecSchemes.XORFECScheme.getRepairSymbols false ⟨false⟩)
        NewDefaultRedundancyController 64 f ∧
      f.protectedPacketsSinceLastRepair.length = 4 ∧
      (f.ProtectPayload (FecSchemes.XORFECScheme.getRepairSymbols false ⟨false⟩)
        NewDefaultRedundancyController ([1] ++ List.replicate 61 0 ++ [1])).2 =
          .error XORFECSchemeTooMuchSymbolsNeeded := by
  have hp : ValidPayload 64 ([1] ++ List.replicate 61 0 ++ [1]) :=
    ⟨by simp, by decide, by decide⟩
  obtain ⟨f, hr, hlen⟩ := Reachable.exists_packets _ (le_refl 64) (by decide) hp 4 (by decide)
  refine ⟨rfl, f, hr, hlen, ?_⟩
  exact (reachable_xor_protectPayload (le_refl 64) ⟨false⟩ false hr hp).2.2 (by rw [hlen]; rfl)

/-- **The Reed-Solomon scheme with the default controller never fails.**  Whatever
the symbol size and the payloads, and as long as `reedsolomon.New` and `Encode`
succeed, every call of every sender a session can hold succeeds and returns what
`GetNextFPID` gave before it. -/
theorem reachable_reedSolomon_protectPayload {E : Nat} (hE : 64 ≤ E)
    {new : Nat → Nat → Except GoError Encoder} (hnew : ReedSolomonWorks new)
    {f : BlockFrameworkSender}
    (hr : Reachable (ReedSolomonFECScheme.getRepairSymbols new) NewDefaultRedundancyController E f)
    {payload : Bytes} (hp : ValidPayload E payload) :
    ∃ f', f.ProtectPayload (ReedSolomonFECScheme.getRepairSymbols new)
      NewDefaultRedundancyController payload = (f', .ok f.GetNextFPID) := by
  have hf := Reachable.inv _ hE hr
  rcases Nat.lt_or_ge (f.protectedPacketsSinceLastRepair.length + 1) DEFAULT_K with hlt | hge
  · obtain ⟨f', h, -, -⟩ := Inv.ProtectPayload_wait _ hf hE hp hlt
    exact ⟨f', h⟩
  · have heq : f.protectedPacketsSinceLastRepair.length + 1 = DEFAULT_K := by
      have := hf.packets_lt
      omega
    obtain ⟨symbols, ss, hk, h115, hss, h⟩ := Inv.ProtectPayload_close _ hf hE hp heq
    have hm := constantRedundancyController.two_le_GetNumberOfRepairSymbols hk
    have hm' := constantRedundancyController.GetNumberOfRepairSymbols_le (n := ss.length)
      (by omega)
    have hne : ss ≠ [] := by
      intro hnil
      rw [hnil] at hk
      simp [DEFAULT_K] at hk
    obtain ⟨block, hblock⟩ := reedSolomon_GenerateRepairSymbols hnew _
      (m := constantRedundancyController.GetNumberOfRepairSymbols ss.length) hne hss (by omega)
      (by omega)
    rw [h, hblock]
    exact ⟨_, rfl⟩

end BlockFrameworkSender

end QuicFec
