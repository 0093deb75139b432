import QuicFec.Protocol

/-! # Variable-length integers and big-endian words

`internal/utils/varint.go` and `byteorder_big_endian.go`.  A QUIC varint spends
its first two bits on its own length, 1, 2, 4 or 8 bytes, and keeps the value in
the other 6, 14, 30 or 62 bits.  `WriteVarInt` and `VarIntLen` panic on a value
that does not fit into 62 bits; `ReadVarInt` reads whatever the first byte says.

The main facts are the round trip `readVarInt_varIntBytes` — a value written
with `WriteVarInt` reads back, and the reader stops exactly where the encoding
ends — and `varIntLen_eq_length`: `VarIntLen` is the length of that encoding.
-/
namespace QuicFec
open GoBytes

def maxVarInt1 : Nat := 63
def maxVarInt2 : Nat := 16383
def maxVarInt4 : Nat := 1073741823
def maxVarInt8 : Nat := 4611686018427387903

theorem maxVarInt8_eq : maxVarInt8 = 2 ^ 62 - 1 := rfl

/-- The bytes `WriteVarInt` writes for a value that fits into 62 bits. -/
def varIntBytes (i : Nat) : Bytes :=
  if i ≤ maxVarInt1 then [UInt8.ofNat i]
  else if i ≤ maxVarInt2 then [UInt8.ofNat (i >>> 8) ||| 0x40, UInt8.ofNat i]
  else if i ≤ maxVarInt4 then
    [UInt8.ofNat (i >>> 24) ||| 0x80, UInt8.ofNat (i >>> 16), UInt8.ofNat (i >>> 8),
      UInt8.ofNat i]
  else
    [UInt8.ofNat (i >>> 56) ||| 0xc0, UInt8.ofNat (i >>> 48), UInt8.ofNat (i >>> 40),
      UInt8.ofNat (i >>> 32), UInt8.ofNat (i >>> 24), UInt8.ofNat (i >>> 16),
      UInt8.ofNat (i >>> 8), UInt8.ofNat i]

/-- `utils.WriteVarInt`. -/
def writeVarInt (i : Nat) : Except GoError Bytes :=
  if i ≤ maxVarInt8 then .ok (varIntBytes i)
  else .error (.panic "doesn't fit into 62 bits")

/-- `utils.VarIntLen`. -/
def varIntLen (i : Nat) : Except GoError Nat :=
  if i ≤ maxVarInt1 then .ok 1
  else if i ≤ maxVarInt2 then .ok 2
  else if i ≤ maxVarInt4 then .ok 4
  else if i ≤ maxVarInt8 then .ok 8
  else .error (.panic "doesn't fit into 62 bits")

/-- `utils.ReadVarInt`. -/
def readVarInt (r : Bytes) : Except GoError (Nat × Bytes) := do
  let (firstByte, r) ← readByte r
  -- the first two bits of the first byte encode the length
  let len := 1 <<< ((firstByte &&& 0xc0) >>> 6).toNat
  let b1 := (firstByte &&& (0xff - 0xc0)).toNat
  if len = 1 then return (b1, r)
  let (b2, r) ← readByte r
  if len = 2 then return (b2.toNat + b1 <<< 8, r)
  let (b3, r) ← readByte r
  let (b4, r) ← readByte r
  if len = 4 then return (b4.toNat + b3.toNat <<< 8 + b2.toNat <<< 16 + b1 <<< 24, r)
  let (b5, r) ← readByte r
  let (b6, r) ← readByte r
  let (b7, r) ← readByte r
  let (b8, r) ← readByte r
  return (b8.toNat + b7.toNat <<< 8 + b6.toNat <<< 16 + b5.toNat <<< 24 + b4.toNat <<< 32 +
    b3.toNat <<< 40 + b2.toNat <<< 48 + b1 <<< 56, r)

/-! ## The encoding -/

@[simp] theorem writeVarInt_of_le {i : Nat} (h : i ≤ maxVarInt8) :
    writeVarInt i = .ok (varIntBytes i) := by
  simp [writeVarInt, h]

/-- `WriteVarInt` succeeds exactly on the values that fit into 62 bits. -/
theorem writeVarInt_eq_ok {i : Nat} {w : Bytes} :
    writeVarInt i = .ok w ↔ i ≤ maxVarInt8 ∧ varIntBytes i = w := by
  unfold writeVarInt
  split <;> simp [*]

theorem varIntBytes_length (i : Nat) :
    (varIntBytes i).length =
      if i ≤ maxVarInt1 then 1 else if i ≤ maxVarInt2 then 2 else if i ≤ maxVarInt4 then 4 else 8 := by
  unfold varIntBytes
  split_ifs <;> rfl

theorem varIntLen_eq_length {i : Nat} (h : i ≤ maxVarInt8) :
    varIntLen i = .ok (varIntBytes i).length := by
  rw [varIntBytes_length]
  unfold varIntLen
  split_ifs <;> rfl

theorem varIntLen_eq_ok {i l : Nat} :
    varIntLen i = .ok l ↔ i ≤ maxVarInt8 ∧ (varIntBytes i).length = l := by
  by_cases h : i ≤ maxVarInt8
  · simp [varIntLen_eq_length h, h]
  · have h4 : ¬ i ≤ maxVarInt4 := fun h4 => h (Nat.le_trans h4 (by decide))
    have h2 : ¬ i ≤ maxVarInt2 := fun h2 => h4 (Nat.le_trans h2 (by decide))
    have h1 : ¬ i ≤ maxVarInt1 := fun h1 => h2 (Nat.le_trans h1 (by decide))
    simp [varIntLen, h, h1, h2, h4]

theorem varIntLen_of_gt {v : Nat} (hv : maxVarInt8 < v) :
    varIntLen v = .error (.panic "doesn't fit into 62 bits") := by
  have h4 : maxVarInt4 < v := Nat.lt_of_le_of_lt (by decide) hv
  have h2 : maxVarInt2 < v := Nat.lt_of_le_of_lt (by decide) h4
  have h1 : maxVarInt1 < v := Nat.lt_of_le_of_lt (by decide) h2
  simp only [varIntLen, Nat.not_le.mpr hv, Nat.not_le.mpr h4, Nat.not_le.mpr h2, Nat.not_le.mpr h1,
    if_false]

@[simp] theorem varIntBytes_length_eq_one {i : Nat} : (varIntBytes i).length = 1 ↔ i ≤ maxVarInt1 := by
  rw [varIntBytes_length]
  split_ifs <;> simp_all

theorem varIntBytes_ne_nil (i : Nat) : varIntBytes i ≠ [] := by
  unfold varIntBytes
  split_ifs <;> simp

theorem varIntBytes_length_pos (i : Nat) : 0 < (varIntBytes i).length :=
  List.length_pos_iff.mpr (varIntBytes_ne_nil i)

theorem varIntBytes_length_le (i : Nat) : (varIntBytes i).length ≤ 8 := by
  rw [varIntBytes_length]
  split_ifs <;> omega

/-- The length of a varint grows with its value. -/
theorem varIntBytes_length_mono {i j : Nat} (h : i ≤ j) :
    (varIntBytes i).length ≤ (varIntBytes j).length := by
  rw [varIntBytes_length, varIntBytes_length]
  unfold maxVarInt1 maxVarInt2 maxVarInt4
  split_ifs <;> omega

/-! ## Reading it back -/

/-- The first byte of an encoding: the length tag in the top two bits, the high
bits of the value in the other six. -/
theorem tagged_byte (x : Nat) (hx : x < 64) (t : UInt8)
    (ht : t = 0 ∨ t = 0x40 ∨ t = 0x80 ∨ t = 0xc0) :
    (UInt8.ofNat x ||| t) &&& 0xc0 = t ∧ ((UInt8.ofNat x ||| t) &&& (0xff - 0xc0)).toNat = x := by
  obtain ⟨k, rfl⟩ : ∃ k : Fin 64, k.val = x := ⟨⟨x, hx⟩, rfl⟩
  revert k
  rcases ht with rfl | rfl | rfl | rfl <;> decide

/-- The length each tag announces. -/
theorem tag_length : (1 <<< ((0 : UInt8) >>> 6).toNat = 1) ∧ (1 <<< ((0x40 : UInt8) >>> 6).toNat = 2) ∧
    (1 <<< ((0x80 : UInt8) >>> 6).toNat = 4) ∧ (1 <<< ((0xc0 : UInt8) >>> 6).toNat = 8) := by
  decide

theorem readVarInt_one {i : Nat} (h : i ≤ maxVarInt1) (rest : Bytes) :
    readVarInt (UInt8.ofNat i :: rest) = .ok (i, rest) := by
  have hb := tagged_byte i (by unfold maxVarInt1 at h; omega) 0 (.inl rfl)
  simp only [UInt8.or_zero] at hb
  simp only [readVarInt, readByte_cons, hb.1, hb.2, tag_length, bind, Except.bind, pure,
    Except.pure, reduceIte]

theorem readVarInt_two {i : Nat} (h1 : ¬ i ≤ maxVarInt1) (h : i ≤ maxVarInt2) (rest : Bytes) :
    readVarInt ((UInt8.ofNat (i >>> 8) ||| 0x40) :: UInt8.ofNat i :: rest) = .ok (i, rest) := by
  unfold maxVarInt1 maxVarInt2 at *
  have hx : i >>> 8 < 64 := by rw [Nat.shiftRight_eq_div_pow]; omega
  have hb := tagged_byte _ hx 0x40 (.inr (.inl rfl))
  simp only [readVarInt, readByte_cons, hb.1, hb.2, tag_length, bind, Except.bind, pure,
    Except.pure, reduceIte, Nat.reduceEqDiff, Except.ok.injEq, Prod.mk.injEq, and_true]
  simp only [UInt8.toNat_ofNat', Nat.shiftRight_eq_div_pow, Nat.shiftLeft_eq]
  omega

theorem readVarInt_four {i : Nat} (h2 : ¬ i ≤ maxVarInt2) (h : i ≤ maxVarInt4) (rest : Bytes) :
    readVarInt ((UInt8.ofNat (i >>> 24) ||| 0x80) :: UInt8.ofNat (i >>> 16) ::
      UInt8.ofNat (i >>> 8) :: UInt8.ofNat i :: rest) = .ok (i, rest) := by
  unfold maxVarInt2 maxVarInt4 at *
  have hx : i >>> 24 < 64 := by rw [Nat.shiftRight_eq_div_pow]; omega
  have hb := tagged_byte _ hx 0x80 (.inr (.inr (.inl rfl)))
  simp only [readVarInt, readByte_cons, hb.1, hb.2, tag_length, bind, Except.bind, pure,
    Except.pure, reduceIte, Nat.reduceEqDiff, Except.ok.injEq, Prod.mk.injEq, and_true]
  simp only [UInt8.toNat_ofNat', Nat.shiftRight_eq_div_pow, Nat.shiftLeft_eq]
  omega

theorem readVarInt_eight {i : Nat} (h4 : ¬ i ≤ maxVarInt4) (h : i ≤ maxVarInt8) (rest : Bytes) :
    readVarInt ((UInt8.ofNat (i >>> 56) ||| 0xc0) :: UInt8.ofNat (i >>> 48) ::
      UInt8.ofNat (i >>> 40) :: UInt8.ofNat (i >>> 32) :: UInt8.ofNat (i >>> 24) ::
      UInt8.ofNat (i >>> 16) :: UInt8.ofNat (i >>> 8) :: UInt8.ofNat i :: rest) = .ok (i, rest) := by
  unfold maxVarInt4 maxVarInt8 at *
  have hx : i >>> 56 < 64 := by rw [Nat.shiftRight_eq_div_pow]; omega
  have hb := tagged_byte _ hx 0xc0 (.inr (.inr (.inr rfl)))
  simp only [readVarInt, readByte_cons, hb.1, hb.2, tag_length, bind, Except.bind, pure,
    Except.pure, reduceIte, Nat.reduceEqDiff, Except.ok.injEq, Prod.mk.injEq, and_true]
  simp only [UInt8.toNat_ofNat', Nat.shiftRight_eq_div_pow, Nat.shiftLeft_eq]
  omega

/-- **Varint round trip**: `ReadVarInt` reads back what `WriteVarInt` wrote, and
leaves the reader right after it. -/
@[simp] theorem readVarInt_varIntBytes {i : Nat} (h : i ≤ maxVarInt8) (rest : Bytes) :
    readVarInt (varIntBytes i ++ rest) = .ok (i, rest) := by
  unfold varIntBytes
  split_ifs with h1 h2 h4
  · exact readVarInt_one h1 rest
  · exact readVarInt_two h1 h2 rest
  · exact readVarInt_four h2 h4 rest
  · exact readVarInt_eight h4 h rest

/-- A reader consumes a prefix of what it reads from, of one byte at least. -/
theorem readVarInt_consumes {r r' : Bytes} {v : Nat} (h : readVarInt r = .ok (v, r')) :
    ∃ pre, pre ≠ [] ∧ pre ++ r' = r := by
  -- the first byte says how many follow; split the reader into its first eight bytes
  rcases r with _ | ⟨b1, _ | ⟨b2, _ | ⟨b3, _ | ⟨b4, _ | ⟨b5, _ | ⟨b6, _ | ⟨b7, _ | ⟨b8, rest⟩⟩⟩⟩⟩⟩⟩⟩ <;>
    simp only [readVarInt, readByte_cons, readByte_nil, bind, Except.bind, pure, Except.pure] at h <;>
    (try split_ifs at h) <;>
    simp only [Except.ok.injEq, Prod.mk.injEq, reduceCtorEq] at h <;>
    obtain ⟨-, rfl⟩ := h <;>
    first | exact ⟨[b1], List.cons_ne_nil _ _, rfl⟩ | exact ⟨[b1, b2], List.cons_ne_nil _ _, rfl⟩ |
      exact ⟨[b1, b2, b3, b4], List.cons_ne_nil _ _, rfl⟩ |
      exact ⟨[b1, b2, b3, b4, b5, b6, b7, b8], List.cons_ne_nil _ _, rfl⟩

theorem readVarInt_suffix {r r' : Bytes} {v : Nat} (h : readVarInt r = .ok (v, r')) : r' <:+ r :=
  let ⟨pre, _, hpre⟩ := readVarInt_consumes h
  ⟨pre, hpre⟩

theorem readVarInt_length_lt {r r' : Bytes} {v : Nat} (h : readVarInt r = .ok (v, r')) :
    r'.length < r.length := by
  obtain ⟨pre, hne, rfl⟩ := readVarInt_consumes h
  have := List.length_pos_of_ne_nil hne
  rw [List.length_append]
  omega

/-! ## Big-endian words -/

/-- `utils.BigEndian.WriteUint16`, of a `uint16`. -/
def writeUint16 (i : Nat) : Bytes := [UInt8.ofNat (i >>> 8), UInt8.ofNat i]

/-- `utils.BigEndian.ReadUint16`. -/
def readUint16 (r : Bytes) : Except GoError (Nat × Bytes) := do
  let (b2, r) ← readByte r
  let (b1, r) ← readByte r
  return (b1.toNat + b2.toNat <<< 8, r)

/-- `utils.BigEndian.WriteUint32`, of a `uint32`. -/
def writeUint32 (i : Nat) : Bytes :=
  [UInt8.ofNat (i >>> 24), UInt8.ofNat (i >>> 16), UInt8.ofNat (i >>> 8), UInt8.ofNat i]

/-- `utils.BigEndian.ReadUint32`. -/
def readUint32 (r : Bytes) : Except GoError (Nat × Bytes) := do
  let (b4, r) ← readByte r
  let (b3, r) ← readByte r
  let (b2, r) ← readByte r
  let (b1, r) ← readByte r
  return (b1.toNat + b2.toNat <<< 8 + b3.toNat <<< 16 + b4.toNat <<< 24, r)

/-- `utils.BigEndian.WriteUintN`: the low `length` bytes of `i`, most significant
first. -/
def writeUintN (length : Nat) (i : Nat) : Bytes :=
  (List.range length).reverse.map fun j => UInt8.ofNat (i >>> (8 * j))

/-- `utils.BigEndian.ReadUintN`: `length` bytes, most significant first, each XORed
into place. -/
def readUintN (length : Nat) (r : Bytes) : Except GoError (Nat × Bytes) :=
  (List.range length).foldlM (fun (res, r) i => do
    let (bt, r) ← readByte r
    return (res ^^^ bt.toNat <<< ((length - 1 - i) * 8), r)) (0, r)

@[simp] theorem writeUint16_length (i : Nat) : (writeUint16 i).length = 2 := rfl

@[simp] theorem writeUintN_length (length i : Nat) : (writeUintN length i).length = length := by
  simp [writeUintN]

/-- A byte shifted into place above the bits already read XORs in as a sum. -/
theorem shiftLeft_xor_of_lt {a b i : Nat} (hb : b < 2 ^ i) : a <<< i ^^^ b = a <<< i + b := by
  apply Nat.eq_of_testBit_eq
  intro j
  rw [Nat.shiftLeft_eq, Nat.mul_comm, Nat.testBit_two_pow_mul_add a hb, Nat.testBit_xor,
    Nat.testBit_two_pow_mul]
  by_cases hj : j < i
  · simp [hj, show ¬ i ≤ j by omega]
  · have hbj : b < 2 ^ j := Nat.lt_of_lt_of_le hb (Nat.pow_le_pow_right (by decide) (by omega))
    simp [hj, Nat.testBit_lt_two_pow hbj, show i ≤ j by omega]

theorem readUintN_writeUintN_one (i : Nat) (rest : Bytes) :
    readUintN 1 (writeUintN 1 i ++ rest) = .ok (i % 2 ^ 8, rest) := by
  simp [readUintN, writeUintN, List.foldlM, UInt8.toNat_ofNat']

theorem readUintN_writeUintN_three (i : Nat) (rest : Bytes) :
    readUintN 3 (writeUintN 3 i ++ rest) = .ok (i % 2 ^ 24, rest) := by
  simp only [readUintN, writeUintN, List.range_succ, List.range_zero, List.nil_append,
    List.reverse_cons, List.reverse_nil, List.map_cons, List.map_nil, List.cons_append,
    List.foldlM_cons, List.foldlM_nil, readByte_cons, ok_bind, pure_eq_ok, UInt8.toNat_ofNat',
    Nat.zero_xor, Except.ok.injEq, Prod.mk.injEq, and_true, Nat.reduceSub, Nat.reduceMul,
    Nat.shiftRight_zero, Nat.shiftLeft_zero]
  -- the three bytes land on disjoint bits, so the XORs are sums
  have h2 : (i >>> 16 % 2 ^ 8) <<< 16 ^^^ (i >>> 8 % 2 ^ 8) <<< 8 =
      ((i >>> 16 % 2 ^ 8) <<< 8 + i >>> 8 % 2 ^ 8) <<< 8 := by
    rw [← shiftLeft_xor_of_lt (Nat.mod_lt _ (by decide)), Nat.shiftLeft_xor_distrib,
      ← Nat.shiftLeft_add]
  rw [h2, shiftLeft_xor_of_lt (Nat.mod_lt _ (by decide))]
  simp only [Nat.shiftLeft_eq, Nat.shiftRight_eq_div_pow]
  omega

/-- A byte shifted into place below the bytes above it XORs in as a sum. -/
theorem shiftLeft_xor_shiftLeft {a b k j m : Nat} (hb : b < 2 ^ k) (hm : k + j = m) :
    a <<< m ^^^ b <<< j = (a <<< k + b) <<< j := by
  rw [← hm, Nat.shiftLeft_add, ← Nat.shiftLeft_xor_distrib, shiftLeft_xor_of_lt hb]

theorem readUintN_writeUintN_two (i : Nat) (rest : Bytes) :
    readUintN 2 (writeUintN 2 i ++ rest) = .ok (i % 2 ^ 16, rest) := by
  simp only [readUintN, writeUintN, List.range_succ, List.range_zero, List.nil_append,
    List.reverse_cons, List.reverse_nil, List.map_cons, List.map_nil, List.cons_append,
    List.foldlM_cons, List.foldlM_nil, readByte_cons, ok_bind, pure_eq_ok, UInt8.toNat_ofNat',
    Nat.zero_xor, Except.ok.injEq, Prod.mk.injEq, and_true, Nat.reduceSub, Nat.reduceMul,
    Nat.shiftRight_zero, Nat.shiftLeft_zero]
  rw [shiftLeft_xor_of_lt (Nat.mod_lt _ (by decide))]
  simp only [Nat.shiftLeft_eq, Nat.shiftRight_eq_div_pow]
  omega

theorem readUintN_writeUintN_four (i : Nat) (rest : Bytes) :
    readUintN 4 (writeUintN 4 i ++ rest) = .ok (i % 2 ^ 32, rest) := by
  simp only [readUintN, writeUintN, List.range_succ, List.range_zero, List.nil_append,
    List.reverse_cons, List.reverse_nil, List.map_cons, List.map_nil, List.cons_append,
    List.foldlM_cons, List.foldlM_nil, readByte_cons, ok_bind, pure_eq_ok, UInt8.toNat_ofNat',
    Nat.zero_xor, Except.ok.injEq, Prod.mk.injEq, and_true, Nat.reduceSub, Nat.reduceMul,
    Nat.shiftRight_zero, Nat.shiftLeft_zero]
  have hbyte (x : Nat) : x % 2 ^ 8 < 2 ^ 8 := Nat.mod_lt _ (by decide)
  rw [shiftLeft_xor_shiftLeft (hbyte _) (show 8 + 16 = 24 from rfl),
    shiftLeft_xor_shiftLeft (hbyte _) (show 8 + 8 = 16 from rfl), shiftLeft_xor_of_lt (hbyte _)]
  simp only [Nat.shiftLeft_eq, Nat.shiftRight_eq_div_pow]
  omega

/-- **Big-endian round trip** for the lengths of a packet number. -/
theorem readUintN_writeUintN {n : Nat} (h1 : 1 ≤ n) (h4 : n ≤ 4) (i : Nat) (rest : Bytes) :
    readUintN n (writeUintN n i ++ rest) = .ok (i % 2 ^ (8 * n), rest) := by
  obtain rfl | rfl | rfl | rfl : n = 1 ∨ n = 2 ∨ n = 3 ∨ n = 4 := by omega
  · exact readUintN_writeUintN_one i rest
  · exact readUintN_writeUintN_two i rest
  · exact readUintN_writeUintN_three i rest
  · exact readUintN_writeUintN_four i rest

@[simp] theorem readUint16_writeUint16 {i : Nat} (h : i < 2 ^ 16) (rest : Bytes) :
    readUint16 (writeUint16 i ++ rest) = .ok (i, rest) := by
  simp only [writeUint16, readUint16, List.cons_append, List.nil_append, readByte_cons, bind,
    Except.bind, pure, Except.pure, Except.ok.injEq, Prod.mk.injEq, and_true]
  simp only [UInt8.toNat_ofNat', Nat.shiftRight_eq_div_pow, Nat.shiftLeft_eq]
  omega

@[simp] theorem writeUint32_length (i : Nat) : (writeUint32 i).length = 4 := rfl

@[simp] theorem readUint32_writeUint32 {i : Nat} (h : i < 2 ^ 32) (rest : Bytes) :
    readUint32 (writeUint32 i ++ rest) = .ok (i, rest) := by
  simp only [writeUint32, readUint32, List.cons_append, List.nil_append, readByte_cons, ok_bind,
    pure_eq_ok, Except.ok.injEq, Prod.mk.injEq, and_true]
  simp only [UInt8.toNat_ofNat', Nat.shiftRight_eq_div_pow, Nat.shiftLeft_eq]
  omega

theorem readUint16_rest {r r' : Bytes} {v : Nat} (h : readUint16 r = .ok (v, r')) : r' = r.drop 2 := by
  rcases r with _ | ⟨a, _ | ⟨b, rest⟩⟩ <;>
    simp only [readUint16, readByte_cons, readByte_nil, ok_bind, error_bind, pure_eq_ok, reduceCtorEq,
      Except.ok.injEq, Prod.mk.injEq] at h
  exact h.2.symm

/-- A length written as a `uint16` reads back modulo `2^16`. -/
theorem readUint16_writeUint16_mod (i : Nat) (rest : Bytes) :
    readUint16 (writeUint16 i ++ rest) = .ok (i % 2 ^ 16, rest) := by
  simp only [writeUint16, readUint16, List.cons_append, List.nil_append, readByte_cons, ok_bind,
    pure_eq_ok, Except.ok.injEq, Prod.mk.injEq, and_true]
  simp only [UInt8.toNat_ofNat', Nat.shiftRight_eq_div_pow, Nat.shiftLeft_eq]
  omega

end QuicFec
