import Mathlib

/-! # Byte-wise XOR of byte strings

The XOR of two byte strings of different lengths, as the usual implementations
compute it: byte by byte over the common length, and past the end of the shorter
one the bytes of the longer one.  This is the XOR of the two strings padded with
zeroes to the same length, so it is associative and commutative with the empty
string as unit, and a string cancels against itself up to a run of zeroes.

Erasure codes built on it recover one lost string of a family of strings of one
length from the XOR of the whole family and the others (`foldl_xorBytes_eraseIdx`).
-/
namespace ByteXor

/-- Byte-wise XOR; past the end of the shorter string, the longer one's bytes. -/
def xorBytes : List UInt8 → List UInt8 → List UInt8
  | [], bs => bs
  | a :: as, [] => a :: as
  | a :: as, b :: bs => (a ^^^ b) :: xorBytes as bs

@[simp] theorem nil_xorBytes (bs : List UInt8) : xorBytes [] bs = bs := rfl

@[simp] theorem xorBytes_nil (as : List UInt8) : xorBytes as [] = as := by
  cases as <;> rfl

@[simp] theorem cons_xorBytes_cons (a b : UInt8) (as bs : List UInt8) :
    xorBytes (a :: as) (b :: bs) = (a ^^^ b) :: xorBytes as bs := rfl

@[simp] theorem length_xorBytes (as bs : List UInt8) :
    (xorBytes as bs).length = max as.length bs.length := by
  induction as generalizing bs with
  | nil => simp
  | cons a as ih =>
    cases bs with
    | nil => simp
    | cons b bs => simp [ih, Nat.succ_max_succ]

theorem xorBytes_comm (as bs : List UInt8) : xorBytes as bs = xorBytes bs as := by
  induction as generalizing bs with
  | nil => simp
  | cons a as ih =>
    cases bs with
    | nil => simp
    | cons b bs => simp [ih, UInt8.xor_comm]

theorem xorBytes_assoc (as bs cs : List UInt8) :
    xorBytes (xorBytes as bs) cs = xorBytes as (xorBytes bs cs) := by
  induction as generalizing bs cs with
  | nil => simp
  | cons a as ih =>
    cases bs with
    | nil => simp
    | cons b bs =>
      cases cs with
      | nil => simp
      | cons c cs => simp [ih, UInt8.xor_assoc]

/-- Byte `i` of the XOR, with the zero past the end of a string. -/
theorem getD_xorBytes (as bs : List UInt8) (i : Nat) :
    (xorBytes as bs).getD i 0 = as.getD i 0 ^^^ bs.getD i 0 := by
  induction as generalizing bs i with
  | nil => simp
  | cons a as ih =>
    cases bs with
    | nil => simp
    | cons b bs =>
      cases i with
      | zero => simp
      | succ i =>
        simp only [cons_xorBytes_cons, List.getD_cons_succ]
        exact ih bs i

/-- A string as long as the longer of two, whose every byte is theirs XORed, is
their XOR. -/
theorem eq_xorBytes {cs as bs : List UInt8} (hlen : cs.length = max as.length bs.length)
    (h : ∀ i < cs.length, cs.getD i 0 = as.getD i 0 ^^^ bs.getD i 0) : cs = xorBytes as bs := by
  apply List.ext_getElem (by rw [hlen, length_xorBytes])
  intro i h1 h2
  have hc := h i h1
  rw [← getD_xorBytes, List.getD_eq_getElem?_getD, List.getD_eq_getElem?_getD,
    List.getElem?_eq_getElem h1, List.getElem?_eq_getElem h2] at hc
  exact hc

instance : Std.Associative xorBytes := ⟨xorBytes_assoc⟩

instance : Std.Commutative xorBytes := ⟨xorBytes_comm⟩

theorem xorBytes_right_comm (as bs cs : List UInt8) :
    xorBytes (xorBytes as bs) cs = xorBytes (xorBytes as cs) bs := by
  rw [xorBytes_assoc, xorBytes_comm bs, ← xorBytes_assoc]

/-- XOR with a run of zeroes no longer than the string leaves it alone. -/
theorem xorBytes_replicate_zero {as : List UInt8} {n : Nat} (h : n ≤ as.length) :
    xorBytes as (List.replicate n 0) = as := by
  induction as generalizing n with
  | nil => simp_all
  | cons a as ih =>
    cases n with
    | zero => simp
    | succ n => simp [List.replicate_succ, ih (by simpa using h)]

theorem xorBytes_self (as : List UInt8) : xorBytes as as = List.replicate as.length 0 := by
  induction as with
  | nil => rfl
  | cons a as ih => simp [ih, List.replicate_succ]

/-- XOR with a string twice gives back a string at least as long. -/
theorem xorBytes_cancel {as bs : List UInt8} (h : bs.length ≤ as.length) :
    xorBytes (xorBytes as bs) bs = as := by
  rw [xorBytes_assoc, xorBytes_self, xorBytes_replicate_zero h]

/-! ## Folds -/

/-- A fold from any seed is the seed XOR the fold from the empty string. -/
theorem foldl_xorBytes (a : List UInt8) (l : List (List UInt8)) :
    l.foldl xorBytes a = xorBytes a (l.foldl xorBytes []) := by
  have h := @List.foldl_assoc _ xorBytes _ l a []
  rwa [xorBytes_nil] at h

theorem length_foldl_xorBytes_le {E : Nat} {a : List UInt8} {l : List (List UInt8)}
    (ha : a.length ≤ E) (hl : ∀ x ∈ l, x.length ≤ E) : (l.foldl xorBytes a).length ≤ E := by
  induction l generalizing a with
  | nil => exact ha
  | cons x l ih =>
    refine ih ?_ (fun y hy => hl y (List.mem_cons_of_mem x hy))
    rw [length_xorBytes, Nat.max_le]
    exact ⟨ha, hl x List.mem_cons_self⟩

theorem length_foldl_xorBytes {E : Nat} {a : List UInt8} {l : List (List UInt8)}
    (ha : a.length = E) (hl : ∀ x ∈ l, x.length = E) : (l.foldl xorBytes a).length = E := by
  induction l generalizing a with
  | nil => exact ha
  | cons x l ih =>
    refine ih ?_ (fun y hy => hl y (List.mem_cons_of_mem x hy))
    rw [length_xorBytes, ha, hl x List.mem_cons_self, Nat.max_self]

theorem foldl_xorBytes_perm {l₁ l₂ : List (List UInt8)} (h : l₁.Perm l₂) (a : List UInt8) :
    l₁.foldl xorBytes a = l₂.foldl xorBytes a :=
  h.foldl_eq' (fun x _ y _ z => xorBytes_right_comm z x y) a

/-- The erasure-recovery identity: the XOR of a family of strings of one length,
XORed with all of them but the `j`-th, is the `j`-th. -/
theorem foldl_xorBytes_eraseIdx {E : Nat} {l : List (List UInt8)} (hl : ∀ x ∈ l, x.length = E)
    {j : Nat} (hj : j < l.length) :
    (l.eraseIdx j).foldl xorBytes (l.foldl xorBytes []) = l[j] := by
  have hperm := List.getElem_cons_eraseIdx_perm hj
  have hrest : ∀ x ∈ l.eraseIdx j, x.length ≤ E :=
    fun x hx => Nat.le_of_eq (hl x ((List.eraseIdx_sublist l j).subset hx))
  have hY : ((l.eraseIdx j).foldl xorBytes []).length ≤ l[j].length := by
    rw [hl _ (List.getElem_mem hj)]
    exact length_foldl_xorBytes_le (Nat.zero_le E) hrest
  calc (l.eraseIdx j).foldl xorBytes (l.foldl xorBytes [])
      = (l.eraseIdx j).foldl xorBytes ((l[j] :: l.eraseIdx j).foldl xorBytes []) := by
        rw [foldl_xorBytes_perm hperm]
    _ = xorBytes (xorBytes l[j] ((l.eraseIdx j).foldl xorBytes []))
          ((l.eraseIdx j).foldl xorBytes []) := by
        rw [List.foldl_cons, nil_xorBytes, foldl_xorBytes _ (l.eraseIdx j),
          foldl_xorBytes l[j] (l.eraseIdx j)]
    _ = l[j] := xorBytes_cancel hY

end ByteXor
