import Mathlib

/-! # Self-delimiting words

A set `W` of words is self-delimiting when a word can be read off the front of a
list without knowing what follows it: if two words each start the same list, they
are the same word.  A length-prefixed format is the usual example: the first `k`
symbols of a word say how long it is (`LengthPrefixed`, `lengthPrefixed_delimits`).

Words of a self-delimiting set written one after the other are read back one by
one.  A reader that takes whole words off the front of a stream, whatever the
stream holds after the part it has taken, has taken a prefix of the words written
(`SelfDelimiting.prefix_of_flatten_prefix`).
-/

namespace Framing

variable {α : Type}

/-- The words `W` are self-delimiting: every word is nonempty, and two words that
start the same list are equal. -/
structure SelfDelimiting (W : List α → Prop) : Prop where
  ne_nil : ∀ x, W x → x ≠ []
  eq_of_append : ∀ {x y r s : List α}, W x → W y → x ++ r = y ++ s → x = y

/-- The words of at least `k` symbols whose length is `len` of their first `k`
symbols. -/
def LengthPrefixed (k : Nat) (len : List α → Nat) (x : List α) : Prop :=
  k ≤ x.length ∧ x.length = len (x.take k)

/-- **A length-prefixed format is self-delimiting.**  Two such words that start
one list share their first `k` symbols, hence their length. -/
theorem lengthPrefixed_delimits {k : Nat} (hk : 0 < k) (len : List α → Nat) :
    SelfDelimiting (LengthPrefixed k len) where
  ne_nil := fun x hx h => by
    have hlen := hx.1
    rw [h, List.length_nil] at hlen
    omega
  eq_of_append := by
    intro x y r s hx hy h
    have hhead : x.take k = y.take k := by
      have := congrArg (List.take k) h
      rwa [List.take_append_of_le_length hx.1, List.take_append_of_le_length hy.1] at this
    have hlen : x.length = y.length := by rw [hx.2, hy.2, hhead]
    exact (List.append_inj h hlen).1

variable {W : List α → Prop}

/-- **Words read off a stream of words are a prefix of them.**  If the words `xs`,
one after the other, start the words `ys` one after the other, then `xs` is a
prefix of `ys`. -/
theorem SelfDelimiting.prefix_of_flatten_prefix (hW : SelfDelimiting W) :
    ∀ {xs ys : List (List α)}, (∀ x ∈ xs, W x) → (∀ y ∈ ys, W y) → xs.flatten <+: ys.flatten →
      xs <+: ys
  | [], _, _, _, _ => List.nil_prefix
  | x :: xs, [], hx, _, h => by
    simp only [List.flatten_cons, List.flatten_nil] at h
    have hnil : x = [] := List.eq_nil_of_prefix_nil ((List.prefix_append x _).trans h)
    exact absurd hnil (hW.ne_nil x (hx x List.mem_cons_self))
  | x :: xs, y :: ys, hx, hy, h => by
    obtain ⟨t, ht⟩ := h
    simp only [List.flatten_cons, List.append_assoc] at ht
    have hxy : x = y := hW.eq_of_append (hx x List.mem_cons_self) (hy y List.mem_cons_self) ht
    subst hxy
    have hrest : xs.flatten <+: ys.flatten := ⟨t, List.append_cancel_left ht⟩
    exact List.cons_prefix_cons.2 ⟨rfl, hW.prefix_of_flatten_prefix
      (fun x' h' => hx x' (List.mem_cons_of_mem x h')) (fun y' h' => hy y' (List.mem_cons_of_mem x h'))
      hrest⟩

end Framing
