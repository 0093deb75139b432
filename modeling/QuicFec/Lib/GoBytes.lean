import Mathlib

/-! # Byte readers, byte buffers and unsigned words, as Go has them

The code this development models reads its wire formats through a `bytes.Reader`
and writes them into a `bytes.Buffer`.  A buffer is only ever appended to, so a
written encoding is a list of bytes and writing is `++`.  A reader over `b` that
has consumed a prefix of `b` is determined by what it has not yet consumed, so a
reader is its remaining bytes, and a step that reads returns the bytes it read
together with the reader that is left.

Go has three ways of reading `n` bytes, and they differ exactly on short input:

* `ReadByte` fails with `io.EOF` at the end of the reader;
* `Read` into a fresh `n`-byte buffer fails with `io.EOF` only when the reader is
  already at its end; otherwise it copies what is there, and the rest of the
  buffer keeps its zeroes (`readInto`);
* `io.ReadFull` fails unless `n` bytes are there: `io.EOF` when none is,
  `io.ErrUnexpectedEOF` when some are (`readFull`).

A failed step either returns an error value or panics.  Both stop the
computation that made the step, so both are modelled as the error of an
`Except`, and `GoError.panic` tells the two apart.

Finally `uint64` subtraction wraps around (`subU64`); where the code relies on an
unsigned difference, the model says so.
-/
namespace GoBytes

/-- What a failed step of Go code produced. -/
inductive GoError where
  /-- `io.EOF` -/
  | eof
  /-- `io.ErrUnexpectedEOF` -/
  | unexpectedEOF
  /-- any other error value, by its message -/
  | error (msg : String)
  /-- a run-time panic, by its reason -/
  | panic (msg : String)
  deriving DecidableEq, Repr

/-- The text of an error, as Go's `Error()` prints it. -/
def GoError.message : GoError → String
  | .eof => "EOF"
  | .unexpectedEOF => "unexpected EOF"
  | .error msg => msg
  | .panic msg => msg

/-- The bytes a reader has not consumed yet, or that a buffer holds. -/
abbrev Bytes := List UInt8

/-- `bytes.Reader.ReadByte`. -/
def readByte : Bytes → Except GoError (UInt8 × Bytes)
  | [] => .error .eof
  | b :: rest => .ok (b, rest)

/-- `bytes.Reader.Read` into a fresh buffer of `n` zero bytes: the filled buffer
and the rest of the reader. -/
def readInto (n : Nat) : Bytes → Except GoError (Bytes × Bytes)
  | [] => .error .eof
  | b :: rest =>
    let r := b :: rest
    .ok (r.take n ++ List.replicate (n - r.length) 0, r.drop n)

/-- `io.ReadFull` into a fresh buffer of `n` bytes. -/
def readFull (n : Nat) (r : Bytes) : Except GoError (Bytes × Bytes) :=
  if n ≤ r.length then .ok (r.take n, r.drop n)
  else if r = [] then .error .eof
  else .error .unexpectedEOF

/-- `bytes.Buffer.Read` into a buffer of `n` bytes: the bytes read and what the
buffer still holds.  An empty buffer gives `io.EOF`, except to an empty buffer `p`. -/
def bufferRead (n : Nat) (r : Bytes) : Except GoError (Bytes × Bytes) :=
  if r = [] then (if n = 0 then .ok ([], []) else .error .eof)
  else .ok (r.take n, r.drop n)

/-- `io.CopyN(ioutil.Discard, r, n)`: skip `n` bytes, `io.EOF` when fewer are left. -/
def discardN (n : Nat) (r : Bytes) : Except GoError Bytes :=
  if n ≤ r.length then .ok (r.drop n) else .error .eof

/-- `uint64` subtraction: `a - b` modulo `2^64`. -/
def subU64 (a b : Nat) : Nat := (a + (2 ^ 64 - b % 2 ^ 64)) % 2 ^ 64

/-- The conversion `uint64(x)` of a signed value. -/
def toUint64 (x : Int) : Nat := (x % 2 ^ 64).toNat

/-- The conversion `int64(x)` of an unsigned 64-bit value. -/
def toInt64 (x : Nat) : Int := if x < 2 ^ 63 then x else (x : Int) - 2 ^ 64

/-- `int64` arithmetic: the result wrapped into the signed 64-bit range. -/
def wrapInt64 (x : Int) : Int := toInt64 (toUint64 x)

/-- The largest allocation `make` accepts on a 64-bit platform (`maxAlloc`,
`1 << 48` on amd64). -/
def maxAlloc : Nat := 2 ^ 48

/-- `make([]byte, n)`: panics on a length beyond `maxAlloc`. -/
def makeSlice (n : Nat) : Except GoError Unit :=
  if n > maxAlloc then .error (.panic "makeslice: len out of range") else .ok ()

/-- Indexing `xs[i]`, which panics out of range. -/
def index {α : Type} (xs : List α) (i : Nat) : Except GoError α :=
  match xs[i]? with
  | some a => .ok a
  | none => .error (.panic "index out of range")

/-- Slicing `xs[i:]`, which panics when `i` is beyond the length. -/
def sliceFrom {α : Type} (xs : List α) (i : Nat) : Except GoError (List α) :=
  if i ≤ xs.length then .ok (xs.drop i) else .error (.panic "slice bounds out of range")

/-- Slicing `xs[:n]` of a slice whose capacity is its length. -/
def sliceTo {α : Type} (xs : List α) (n : Nat) : Except GoError (List α) :=
  if n ≤ xs.length then .ok (xs.take n) else .error (.panic "slice bounds out of range")

/-- The assignment `xs[i] = a`, which panics out of range. -/
def setIndex {α : Type} (xs : List α) (i : Nat) (a : α) : Except GoError (List α) :=
  if i < xs.length then .ok (xs.set i a) else .error (.panic "index out of range")

/-- The panic of a nil pointer dereference. -/
def nilDereference : GoError :=
  .panic "runtime error: invalid memory address or nil pointer dereference"

/-- Dereferencing a pointer, `none` being Go's `nil`. -/
def deref {α : Type} : Option α → Except GoError α
  | some a => .ok a
  | none => .error nilDereference

/-- How a loop that appends without end stops: the runtime runs out of memory and
ends the program. -/
def outOfMemory : GoError := .panic "runtime: out of memory"

/-- The panic of an integer division or remainder by zero. -/
def divideByZero : GoError := .panic "runtime error: integer divide by zero"

/-- `a / b` on unsigned integers. -/
def divU64 (a b : Nat) : Except GoError Nat := if b = 0 then .error divideByZero else .ok (a / b)

/-- `a % b` on unsigned integers. -/
def modU64 (a b : Nat) : Except GoError Nat := if b = 0 then .error divideByZero else .ok (a % b)

/-- `a / b` on signed integers, which Go truncates towards zero. -/
def divInt (a b : Int) : Except GoError Int := if b = 0 then .error divideByZero else .ok (a.tdiv b)

/-- `a % b` on signed integers, with the sign of `a`. -/
def modInt (a b : Int) : Except GoError Int := if b = 0 then .error divideByZero else .ok (a.tmod b)

/-- `bytes.Repeat(b, count)`. -/
def repeatBytes (b : Bytes) (count : Int) : Except GoError Bytes := do
  if count < 0 then throw (.panic "bytes: negative Repeat count")
  makeSlice (b.length * count.toNat)
  return (List.replicate count.toNat b).flatten

/-- A fixed-size byte array `[n]byte` filled from `bytes`: what does not come
from `bytes` stays zero. -/
def fixedArray (n : Nat) (bytes : Bytes) : Vector UInt8 n := Vector.ofFn fun i => bytes.getD i 0

/-! ## Steps that fail -/

@[simp] theorem ok_bind {ε α β : Type} (a : α) (f : α → Except ε β) :
    (Except.ok a >>= f) = f a := rfl

@[simp] theorem error_bind {ε α β : Type} (e : ε) (f : α → Except ε β) :
    (Except.error e >>= f) = .error e := rfl

@[simp] theorem pure_eq_ok {ε α : Type} (a : α) : (pure a : Except ε α) = .ok a := rfl

@[simp] theorem throw_eq_error {ε α : Type} (e : ε) : (throw e : Except ε α) = .error e := rfl

/-- A sequence of steps succeeds exactly when its first step does and the rest
succeeds from there. -/
theorem bind_eq_ok {ε α β : Type} {x : Except ε α} {f : α → Except ε β} {b : β} :
    x >>= f = .ok b ↔ ∃ a, x = .ok a ∧ f a = .ok b := by
  cases x with
  | error e => simp
  | ok a => simp

/-- A step whose result, read through `f`, is `b` succeeded with a value that `f`
reads as `b`: a run evaluated to a decidable view of its result is read back so. -/
theorem exists_ok_of_toOption_map {ε α β : Type} {x : Except ε α} {f : α → β} {b : β}
    (h : x.toOption.map f = some b) : ∃ a, x = .ok a ∧ f a = b := by
  cases x with
  | error e => cases h
  | ok a => exact ⟨a, rfl, Option.some.inj h⟩

/-- A sequence of steps fails when, whatever its first step returns, the rest
fails. -/
theorem bind_error_of {ε α β : Type} {x : Except ε α} {f : α → Except ε β}
    (h : ∀ a, x = .ok a → ∃ e, f a = .error e) : ∃ e, x >>= f = .error e := by
  cases x with
  | error e => exact ⟨e, rfl⟩
  | ok a => simpa using h a rfl

/-- A step that can only fail with `e`, followed by steps that fail with `e`. -/
theorem bind_eq_error_of {ε α β : Type} {x : Except ε α} {f : α → Except ε β} {e : ε}
    (hx : ∀ e', x = .error e' → e' = e) (hf : ∀ a, f a = .error e) : x >>= f = .error e := by
  cases x with
  | error e' => rw [hx e' rfl]; rfl
  | ok a => exact hf a

/-- A loop fails when one of the elements it runs over makes every step fail. -/
theorem foldlM_error_of_mem {ε α β : Type} {f : β → α → Except ε β} {a : α}
    (ha : ∀ b, ∃ e, f b a = .error e) {xs : List α} (hmem : a ∈ xs) (b : β) :
    ∃ e, xs.foldlM f b = .error e := by
  induction xs generalizing b with
  | nil => cases hmem
  | cons x xs ih =>
    rw [List.foldlM_cons]
    rcases List.mem_cons.1 hmem with rfl | hmem
    · obtain ⟨e, he⟩ := ha b
      rw [he]
      exact ⟨e, rfl⟩
    · exact bind_error_of (fun b' _ => ih hmem b')

/-- What each step of a loop over a list keeps holds of the loop's result. -/
theorem foldlM_induction {ε α β : Type} {f : β → α → Except ε β} (P : β → Prop) {xs : List α}
    (hf : ∀ b x b', x ∈ xs → P b → f b x = .ok b' → P b') {b b' : β} (hb : P b)
    (h : xs.foldlM f b = .ok b') : P b' := by
  induction xs generalizing b with
  | nil =>
    cases h
    exact hb
  | cons x xs ih =>
    rw [List.foldlM_cons] at h
    obtain ⟨b1, h1, h⟩ := bind_eq_ok.1 h
    have hb1 : P b1 := hf b x b1 (List.mem_cons_self ..) hb h1
    exact ih (fun b y b' hy => hf b y b' (List.mem_cons_of_mem x hy)) hb1 h

/-- What each step of a loop keeps of the elements run over so far and the state
holds of the whole list and the loop's result. -/
theorem foldlM_induction_prefix {ε α β : Type} {f : β → α → Except ε β} (P : List α → β → Prop)
    (hf : ∀ pre b x b', P pre b → f b x = .ok b' → P (pre ++ [x]) b') :
    ∀ {xs : List α} {pre : List α} {b b' : β}, P pre b → xs.foldlM f b = .ok b' → P (pre ++ xs) b'
  | [], pre, _, _, hb, h => by
    cases h
    simpa using hb
  | x :: xs, pre, b, b', hb, h => by
    rw [List.foldlM_cons] at h
    obtain ⟨b₁, h₁, h⟩ := bind_eq_ok.1 h
    have := foldlM_induction_prefix P hf (hf pre b x b₁ hb h₁) h
    rwa [List.append_assoc, List.singleton_append] at this

/-! ## Readers -/

@[simp] theorem readByte_cons (b : UInt8) (rest : Bytes) :
    readByte (b :: rest) = .ok (b, rest) := rfl

@[simp] theorem readByte_nil : readByte [] = .error .eof := rfl

@[simp] theorem readFull_append {pre : Bytes} (rest : Bytes) :
    readFull pre.length (pre ++ rest) = .ok (pre, rest) := by
  simp [readFull]

theorem readFull_append_of_length {pre : Bytes} {n : Nat} (rest : Bytes)
    (h : pre.length = n) : readFull n (pre ++ rest) = .ok (pre, rest) := by
  subst h
  exact readFull_append rest

/-- `io.ReadFull` consumes exactly what it returns. -/
theorem readFull_ok {n : Nat} {r out rest : Bytes} (h : readFull n r = .ok (out, rest)) :
    out.length = n ∧ r = out ++ rest := by
  unfold readFull at h
  split at h
  · rename_i hn
    cases h
    exact ⟨by simp [hn], (List.take_append_drop n r).symm⟩
  · split at h <;> cases h

theorem readFull_short {n : Nat} {r : Bytes} (h : r.length < n) :
    ∃ e, readFull n r = .error e := by
  unfold readFull
  rw [if_neg (by omega)]
  split
  · exact ⟨_, rfl⟩
  · exact ⟨_, rfl⟩

@[simp] theorem readInto_append {pre : Bytes} (hpre : pre ≠ []) (rest : Bytes) :
    readInto pre.length (pre ++ rest) = .ok (pre, rest) := by
  obtain ⟨b, tl, rfl⟩ := List.exists_cons_of_ne_nil hpre
  simp [readInto]

/-- A `Read` that finds fewer bytes than its buffer holds does not fail: it
returns them, zero-filled. -/
theorem readInto_short {n : Nat} {r : Bytes} (hr : r ≠ []) (h : r.length < n) :
    readInto n r = .ok (r ++ List.replicate (n - r.length) 0, []) := by
  obtain ⟨b, tl, rfl⟩ := List.exists_cons_of_ne_nil hr
  have hle : (b :: tl).length ≤ n := Nat.le_of_lt h
  simp only [readInto, List.take_of_length_le hle, List.drop_of_length_le hle]

theorem fixedArray_toList {n : Nat} {bytes : Bytes} (h : bytes.length = n) :
    (fixedArray n bytes).toList = bytes := by
  subst h
  apply List.ext_getElem (by simp)
  intro i h1 h2
  simp [fixedArray, Vector.toList_ofFn]

@[simp] theorem fixedArray_toList_self {n : Nat} (v : Vector UInt8 n) : fixedArray n v.toList = v := by
  apply Vector.ext
  intro i _
  simp [fixedArray]

@[simp] theorem makeSlice_of_le {n : Nat} (h : n ≤ maxAlloc) : makeSlice n = .ok () := by
  simp [makeSlice, Nat.not_lt.mpr h]

theorem index_of_lt {α : Type} {xs : List α} {i : Nat} (h : i < xs.length) :
    index xs i = .ok xs[i] := by
  simp [index, h]

theorem mem_of_index {α : Type} {xs : List α} {i : Nat} {a : α} (h : index xs i = .ok a) : a ∈ xs := by
  unfold index at h
  split at h
  · rename_i a' ha
    cases h
    exact List.mem_of_getElem? ha
  · cases h

@[simp] theorem index_cons_zero {α : Type} (a : α) (xs : List α) : index (a :: xs) 0 = .ok a := rfl

theorem setIndex_of_lt {α : Type} {xs : List α} {i : Nat} (h : i < xs.length) (a : α) :
    setIndex xs i a = .ok (xs.set i a) := if_pos h

@[simp] theorem deref_some {α : Type} (a : α) : deref (some a) = .ok a := rfl

@[simp] theorem deref_none {α : Type} : deref (none : Option α) = .error nilDereference := rfl

theorem sliceFrom_eq_ok {α : Type} {xs ys : List α} {i : Nat} :
    sliceFrom xs i = .ok ys ↔ i ≤ xs.length ∧ xs.drop i = ys := by
  unfold sliceFrom
  split <;> simp [*]

/-- What a slice up to some length returns starts the slice it was taken of. -/
theorem sliceTo_prefix {α : Type} {xs ys : List α} {n : Nat} (h : sliceTo xs n = .ok ys) :
    ys <+: xs := by
  unfold sliceTo at h
  split at h
  · cases h
    exact List.take_prefix n xs
  · cases h

@[simp] theorem divU64_of_pos {a b : Nat} (h : 0 < b) : divU64 a b = .ok (a / b) := by
  simp [divU64, Nat.pos_iff_ne_zero.mp h]

@[simp] theorem modU64_of_pos {a b : Nat} (h : 0 < b) : modU64 a b = .ok (a % b) := by
  simp [modU64, Nat.pos_iff_ne_zero.mp h]

@[simp] theorem divInt_of_pos {a b : Int} (h : 0 < b) : divInt a b = .ok (a.tdiv b) := by
  simp [divInt, Int.ne_of_gt h]

@[simp] theorem modInt_of_pos {a b : Int} (h : 0 < b) : modInt a b = .ok (a.tmod b) := by
  simp [modInt, Int.ne_of_gt h]

theorem modInt_natCast {a b : Nat} (hb : 0 < b) : modInt a b = .ok ((a % b : Nat) : Int) := by
  rw [modInt_of_pos (by omega)]
  rfl

theorem divInt_natCast {a b : Nat} (hb : 0 < b) : divInt a b = .ok ((a / b : Nat) : Int) := by
  rw [divInt_of_pos (by omega)]
  rfl

theorem repeatBytes_zero {n : Nat} (h : n ≤ maxAlloc) :
    repeatBytes [0] n = .ok (List.replicate n 0) := by
  simp [repeatBytes, makeSlice_of_le (by simpa using h)]

/-- `bytes.Repeat` with a negative count panics. -/
theorem repeatBytes_neg {b : Bytes} {count : Int} (h : count < 0) :
    repeatBytes b count = .error (.panic "bytes: negative Repeat count") := by
  simp [repeatBytes, h]

theorem discardN_length {n : Nat} {r r' : Bytes} (h : discardN n r = .ok r') : r'.length + n = r.length := by
  unfold discardN at h
  split at h
  · cases h
    rw [List.length_drop]
    omega
  · cases h

theorem toUint64_of_nonneg {x : Int} (h0 : 0 ≤ x) (h : x < 2 ^ 64) : toUint64 x = x.toNat := by
  unfold toUint64
  rw [Int.emod_eq_of_lt h0 h]

/-- The low `k ≤ 64` bits of `uint64(x)` are those of `x`. -/
theorem toUint64_emod_two_pow (x : Int) {k : Nat} (hk : k ≤ 64) :
    ((toUint64 x % 2 ^ k : Nat) : Int) = x % 2 ^ k := by
  have hnn : 0 ≤ x % 2 ^ 64 := Int.emod_nonneg _ (by decide)
  have hdvd : (2 : Int) ^ k ∣ 2 ^ 64 := ⟨2 ^ (64 - k), by rw [← Int.pow_add, Nat.add_sub_cancel' hk]⟩
  rw [toUint64, Int.natCast_emod, Int.toNat_of_nonneg hnn, Int.natCast_pow]
  exact Int.emod_emod_of_dvd _ hdvd

theorem toInt64_of_lt {x : Nat} (h : x < 2 ^ 63) : toInt64 x = x := by
  simp only [toInt64, if_pos h]

/-- A `uint64` with its top bit set is a negative `int64`. -/
theorem toInt64_neg {x : Nat} (h : 2 ^ 63 ≤ x) (hx : x < 2 ^ 64) : toInt64 x < 0 := by
  simp only [toInt64, if_neg (Nat.not_lt.mpr h)]
  omega

/-- `int64` arithmetic that stays in range does not wrap. -/
theorem wrapInt64_of_nonneg {x : Int} (h0 : 0 ≤ x) (h : x < 2 ^ 63) : wrapInt64 x = x := by
  unfold wrapInt64
  rw [toUint64_of_nonneg h0 (by omega), toInt64_of_lt (by omega)]
  omega

theorem wrapInt64_of_neg {x : Int} (h0 : -2 ^ 63 ≤ x) (h : x < 0) : wrapInt64 x = x := by
  unfold wrapInt64 toUint64 toInt64
  split <;> omega

/-- An `int64` result just past the top of the range wraps to the bottom. -/
theorem wrapInt64_of_ge {x : Int} (h0 : 2 ^ 63 ≤ x) (h : x < 2 ^ 64) : wrapInt64 x = x - 2 ^ 64 := by
  unfold wrapInt64 toUint64 toInt64
  split <;> omega

theorem subU64_of_le {a b : Nat} (hb : b ≤ a) (ha : a < 2 ^ 64) : subU64 a b = a - b := by
  unfold subU64
  rw [Nat.mod_eq_of_lt (by omega : b < 2 ^ 64)]
  omega

/-- A `uint64` difference that goes below zero wraps to a value at least
`2^64 - b`. -/
theorem subU64_of_lt {a b : Nat} (h : a < b) (hb : b < 2 ^ 64) :
    subU64 a b = 2 ^ 64 - b + a := by
  unfold subU64
  rw [Nat.mod_eq_of_lt hb, Nat.mod_eq_of_lt (by omega)]
  omega

end GoBytes
