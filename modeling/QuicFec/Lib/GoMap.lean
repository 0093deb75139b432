import Mathlib

/-! # Go maps

A Go `map[K]V` holds at most one value for each key.  It is modelled as the list
of its entries, with the invariant that no key occurs twice carried by the
structure (`GoMap`), so that `len` counts keys as Go's `len(m)` does.  Go visits
the entries of a map in an order of its own choosing; a loop over a map is
modelled as a loop over the list, and what is proved of such a loop holds for
every order of the list (a permutation of the entries).

The lemmas say where an entry of a map comes from after each operation; the
proofs of invariants over maps cite them and never unfold the operations.
-/

/-- `map[κ]ν`: the entries, no key twice. -/
structure GoMap (κ ν : Type) [DecidableEq κ] where
  entries : List (κ × ν)
  keys_nodup : (entries.map Prod.fst).Nodup

namespace GoMap

variable {κ ν : Type} [DecidableEq κ]

/-- A fresh map, as `make(map[κ]ν)` returns it. -/
def empty : GoMap κ ν := ⟨[], List.nodup_nil⟩

/-- The lookup `v, ok := m[k]`: `some v` when `ok`. -/
def get? (m : GoMap κ ν) (k : κ) : Option ν := (m.entries.find? (·.1 = k)).map (·.2)

/-- `delete(m, k)`. -/
def delete (m : GoMap κ ν) (k : κ) : GoMap κ ν where
  entries := m.entries.filter (·.1 ≠ k)
  keys_nodup := (List.filter_sublist.map Prod.fst).nodup m.keys_nodup

/-- The assignment `m[k] = v`. -/
def insert (m : GoMap κ ν) (k : κ) (v : ν) : GoMap κ ν where
  entries := (k, v) :: (m.delete k).entries
  keys_nodup := by
    refine List.nodup_cons.mpr ⟨?_, (m.delete k).keys_nodup⟩
    simp [delete]

/-- `len(m)`. -/
def len (m : GoMap κ ν) : Nat := m.entries.length

theorem mem_of_get? {m : GoMap κ ν} {k : κ} {v : ν} (h : m.get? k = some v) :
    (k, v) ∈ m.entries := by
  obtain ⟨e, he, rfl⟩ := Option.map_eq_some_iff.mp h
  have hk : e.1 = k := by simpa using List.find?_some he
  rw [← hk]
  exact List.mem_of_find?_eq_some he

theorem mem_delete {m : GoMap κ ν} {k : κ} {e : κ × ν} :
    e ∈ (m.delete k).entries ↔ e ∈ m.entries ∧ e.1 ≠ k := by
  simp [delete]

theorem mem_insert {m : GoMap κ ν} {k : κ} {v : ν} {e : κ × ν} :
    e ∈ (m.insert k v).entries ↔ e = (k, v) ∨ (e ∈ m.entries ∧ e.1 ≠ k) := by
  simp [insert, mem_delete]

theorem get?_delete (m : GoMap κ ν) (k k' : κ) :
    (m.delete k).get? k' = if k' = k then none else m.get? k' := by
  unfold get? delete
  split
  · subst k'
    rw [List.find?_eq_none.mpr]
    · rfl
    · intro e he
      simp only [List.mem_filter, decide_eq_true_eq] at he
      simpa using he.2
  · rename_i hne
    rw [List.find?_filter]
    congr 2
    funext e
    by_cases he : e.1 = k'
    · simp [he, hne]
    · simp [he]

theorem get?_insert (m : GoMap κ ν) (k k' : κ) (v : ν) :
    (m.insert k v).get? k' = if k' = k then some v else m.get? k' := by
  by_cases h : k' = k
  · subst h
    simp [insert, get?]
  · have h' : ¬ k = k' := Ne.symm h
    have hrest := get?_delete m k k'
    rw [if_neg h] at hrest
    simp only [get?, insert, List.find?_cons, h', decide_false] at hrest ⊢
    simpa [h] using hrest

theorem entries_nodup (m : GoMap κ ν) : m.entries.Nodup := m.keys_nodup.of_map Prod.fst

/-- Two entries with one key are one entry. -/
theorem eq_of_mem_of_fst_eq {m : GoMap κ ν} {e e' : κ × ν} (he : e ∈ m.entries)
    (he' : e' ∈ m.entries) (h : e.1 = e'.1) : e = e' :=
  List.inj_on_of_nodup_map m.keys_nodup he he' h

/-- Storing under a new key puts the entry in front. -/
theorem entries_insert_of_not_mem {m : GoMap κ ν} {k : κ} (hk : k ∉ m.entries.map Prod.fst)
    (v : ν) : (m.insert k v).entries = (k, v) :: m.entries := by
  have hfilter : m.entries.filter (fun e => decide (e.1 ≠ k)) = m.entries := by
    rw [List.filter_eq_self]
    intro e he
    have hne : e.1 ≠ k := fun h => hk (List.mem_map.2 ⟨e, he, h⟩)
    simpa using hne
  simp only [insert, delete, hfilter]

/-- Storing again the value a key already has leaves the entries the same, up to
order. -/
theorem entries_insert_perm {m : GoMap κ ν} {k : κ} {v : ν} (hkv : (k, v) ∈ m.entries) :
    (m.insert k v).entries.Perm m.entries := by
  rw [List.perm_ext_iff_of_nodup (m.insert k v).entries_nodup m.entries_nodup]
  intro e
  rw [mem_insert]
  constructor
  · rintro (rfl | ⟨he, -⟩)
    · exact hkv
    · exact he
  · intro he
    by_cases hek : e.1 = k
    · exact Or.inl (eq_of_mem_of_fst_eq he hkv hek)
    · exact Or.inr ⟨he, hek⟩

/-- A key is absent exactly when no entry carries it. -/
theorem get?_eq_none_iff {m : GoMap κ ν} {k : κ} : m.get? k = none ↔ ∀ e ∈ m.entries, e.1 ≠ k := by
  simp [get?, List.find?_eq_none]

/-- The lookup finds the one entry a key has. -/
theorem get?_of_mem {m : GoMap κ ν} {k : κ} {v : ν} (h : (k, v) ∈ m.entries) :
    m.get? k = some v := by
  cases hget : m.get? k with
  | none => exact absurd rfl (get?_eq_none_iff.1 hget _ h)
  | some v' =>
      have hsame : (k, v') = (k, v) := eq_of_mem_of_fst_eq (mem_of_get? hget) h rfl
      rw [(Prod.mk.inj hsame).2]

theorem len_delete_of_mem {m : GoMap κ ν} {k : κ} {v : ν} (h : (k, v) ∈ m.entries) :
    (m.delete k).len + 1 = m.len := by
  have hlen := (entries_insert_perm h).length_eq
  simp only [insert, List.length_cons] at hlen
  exact hlen

theorem len_insert_of_not_mem {m : GoMap κ ν} {k : κ} (hk : k ∉ m.entries.map Prod.fst)
    (v : ν) : (m.insert k v).len = m.len + 1 := by
  simp [len, entries_insert_of_not_mem hk]

end GoMap
