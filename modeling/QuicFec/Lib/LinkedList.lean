import Mathlib

/-! # Linked lists with pointers to their elements

Go's `container/list` hands out pointers to its elements, and code keeps them:
it reads and writes an element's value through its pointer, walks from an
element to the next one, and removes elements, whose values stay readable and
writable through the pointers that remain.

The model makes the pointers explicit.  An element is an address; the heap holds
the value at every address ever used, and the list is the addresses of the
elements still linked, front to back.  Pushing takes a fresh address.  The
structure carries the two facts every proof about the list needs: no address is
linked twice, and every linked address has been handed out.

The lemmas say what each operation does to the linked addresses and to the
values, and how a sum over the linked values changes (`total`): the invariants
of a client that counts something over its list are proved from these.
-/

/-- A doubly linked list with pointers to its elements. -/
structure LinkedList (α : Type) where
  /-- the value of every element, linked or not -/
  heap : Nat → α
  /-- the first address not handed out yet -/
  fresh : Nat
  /-- the linked elements, front to back -/
  order : List Nat
  order_nodup : order.Nodup
  order_lt : ∀ e ∈ order, e < fresh

namespace LinkedList

variable {α : Type}

/-- A new list, `list.New()`. -/
def empty [Inhabited α] : LinkedList α where
  heap := fun _ => default
  fresh := 0
  order := []
  order_nodup := List.nodup_nil
  order_lt := by simp

/-- `e.Value`. -/
def get (l : LinkedList α) (e : Nat) : α := l.heap e

/-- `e.Value = v`, for a linked element or one that has left the list. -/
def set (l : LinkedList α) (e : Nat) (v : α) : LinkedList α :=
  { l with heap := Function.update l.heap e v }

/-- A write through a pointer to some fields of `e.Value`. -/
def modify (l : LinkedList α) (e : Nat) (f : α → α) : LinkedList α := l.set e (f (l.get e))

/-- `l.PushBack(v)`; the new element is `l.fresh`. -/
def pushBack (l : LinkedList α) (v : α) : LinkedList α where
  heap := Function.update l.heap l.fresh v
  fresh := l.fresh + 1
  order := l.order ++ [l.fresh]
  order_nodup := by
    refine List.nodup_append.mpr ⟨l.order_nodup, List.nodup_singleton _, ?_⟩
    intro a ha b hb
    rw [List.mem_singleton] at hb
    subst hb
    exact Nat.ne_of_lt (l.order_lt a ha)
  order_lt := by
    intro e he
    rcases List.mem_append.mp he with he | he
    · exact Nat.lt_succ_of_lt (l.order_lt e he)
    · rw [List.mem_singleton.mp he]
      exact Nat.lt_succ_self _

/-- `l.Remove(e)`: `e` is unlinked and keeps its value. -/
def remove (l : LinkedList α) (e : Nat) : LinkedList α where
  heap := l.heap
  fresh := l.fresh
  order := l.order.erase e
  order_nodup := l.order_nodup.erase e
  order_lt := fun a ha => l.order_lt a (List.mem_of_mem_erase ha)

/-- The elements after `e`, nearest first: `e.Next()`, `e.Next().Next()`, … -/
def after (l : LinkedList α) (e : Nat) : List Nat := (l.order.dropWhile (· ≠ e)).drop 1

/-- `l.Len()`. -/
def len (l : LinkedList α) : Nat := l.order.length

/-- Visit the linked elements from the front, the loop
`for e := l.Front(); cont && e != nil; e = e.Next() { cont, err = cb(e) }`: the
callback sees each element and its value, and says whether to go on; an error
stops the walk.  The callback's own variables are the state `s`. -/
def iterate {σ ε : Type} (l : LinkedList α) (cb : Nat → α → σ → Except ε (Bool × σ)) (s : σ) :
    Except ε σ :=
  go l.order s
where
  /-- the walk over the elements left -/
  go : List Nat → σ → Except ε σ
    | [], s => .ok s
    | e :: es, s => do
      let (cont, s) ← cb e (l.get e) s
      if cont then go es s else .ok s

/-- The sum of `f` over the values of the linked elements. -/
def total (l : LinkedList α) (f : α → Nat) : Nat := (l.order.map fun e => f (l.get e)).sum

/-! ## What the operations do -/

@[simp] theorem get_set_self (l : LinkedList α) (e : Nat) (v : α) : (l.set e v).get e = v := by
  simp [get, set]

theorem get_set_of_ne (l : LinkedList α) {e e' : Nat} (v : α) (h : e' ≠ e) :
    (l.set e v).get e' = l.get e' := by
  simp [get, set, h]

@[simp] theorem order_set (l : LinkedList α) (e : Nat) (v : α) : (l.set e v).order = l.order := rfl

@[simp] theorem fresh_set (l : LinkedList α) (e : Nat) (v : α) : (l.set e v).fresh = l.fresh := rfl

@[simp] theorem order_modify (l : LinkedList α) (e : Nat) (f : α → α) :
    (l.modify e f).order = l.order := rfl

@[simp] theorem fresh_modify (l : LinkedList α) (e : Nat) (f : α → α) :
    (l.modify e f).fresh = l.fresh := rfl

theorem get_modify (l : LinkedList α) (e e' : Nat) (f : α → α) :
    (l.modify e f).get e' = if e' = e then f (l.get e) else l.get e' := by
  by_cases h : e' = e
  · subst h
    simp [modify]
  · simp [modify, h, get_set_of_ne]

@[simp] theorem order_pushBack (l : LinkedList α) (v : α) :
    (l.pushBack v).order = l.order ++ [l.fresh] := rfl

@[simp] theorem fresh_pushBack (l : LinkedList α) (v : α) :
    (l.pushBack v).fresh = l.fresh + 1 := rfl

@[simp] theorem get_pushBack_fresh (l : LinkedList α) (v : α) : (l.pushBack v).get l.fresh = v := by
  simp [get, pushBack]

theorem get_pushBack_of_lt (l : LinkedList α) (v : α) {e : Nat} (h : e < l.fresh) :
    (l.pushBack v).get e = l.get e := by
  simp [get, pushBack, Nat.ne_of_lt h]

@[simp] theorem order_remove (l : LinkedList α) (e : Nat) :
    (l.remove e).order = l.order.erase e := rfl

@[simp] theorem fresh_remove (l : LinkedList α) (e : Nat) : (l.remove e).fresh = l.fresh := rfl

@[simp] theorem get_remove (l : LinkedList α) (e e' : Nat) : (l.remove e).get e' = l.get e' := rfl

/-! ## Sums over the linked values -/

/-- A sum over the list depends only on the linked elements and on `f` of their
values. -/
theorem total_congr {l l' : LinkedList α} {f : α → Nat} (ho : l'.order = l.order)
    (hv : ∀ e ∈ l.order, f (l'.get e) = f (l.get e)) : l'.total f = l.total f := by
  unfold total
  rw [ho, List.map_congr_left hv]

theorem total_modify {l : LinkedList α} {f : α → Nat} {e : Nat} {g : α → α}
    (hg : f (g (l.get e)) = f (l.get e)) : (l.modify e g).total f = l.total f := by
  apply total_congr (order_modify l e g)
  intro e' _
  rw [get_modify]
  split
  · subst e'
    exact hg
  · rfl

theorem total_pushBack (l : LinkedList α) (f : α → Nat) (v : α) :
    (l.pushBack v).total f = l.total f + f v := by
  unfold total
  have hold : ∀ e ∈ l.order, f ((l.pushBack v).get e) = f (l.get e) := fun e he => by
    rw [get_pushBack_of_lt _ _ (l.order_lt e he)]
  simp only [order_pushBack, List.map_append, List.map_cons, List.map_nil, List.sum_append,
    List.sum_cons, List.sum_nil, Nat.add_zero, get_pushBack_fresh]
  rw [List.map_congr_left hold]

/-- Unlinking an element takes its value out of the sum. -/
theorem total_remove {l : LinkedList α} (f : α → Nat) {e : Nat} (he : e ∈ l.order) :
    (l.remove e).total f + f (l.get e) = l.total f := by
  unfold total
  have hp := (List.perm_cons_erase he).map fun e => f (l.get e)
  rw [hp.sum_nat, List.map_cons, List.sum_cons, Nat.add_comm]
  rfl

theorem le_total {l : LinkedList α} (f : α → Nat) {e : Nat} (he : e ∈ l.order) :
    f (l.get e) ≤ l.total f := by
  rw [← total_remove f he]
  exact Nat.le_add_left _ _

/-! ## Walks -/

/-- A walk whose callback never stops it and never fails is a fold over the
linked values. -/
theorem iterate_eq_foldl {σ ε : Type} (l : LinkedList α) {cb : Nat → α → σ → Except ε (Bool × σ)}
    {g : σ → α → σ} (hcb : ∀ e v s, cb e v s = .ok (true, g s v)) (s : σ) :
    l.iterate cb s = .ok (l.order.foldl (fun s e => g s (l.get e)) s) := by
  unfold iterate
  suffices ∀ es s, iterate.go l cb es s = .ok (es.foldl (fun s e => g s (l.get e)) s) from this _ s
  intro es
  induction es with
  | nil => intro s; rfl
  | cons e es ih =>
    intro s
    simp only [iterate.go, hcb, List.foldl_cons]
    exact ih _

/-- A walk whose callback collects elements, each at most once as it visits it,
into `acc`: what it collects is a sublist of the linked elements. -/
theorem iterate_sublist {σ ε : Type} (l : LinkedList α) (cb : Nat → α → σ → Except ε (Bool × σ))
    (acc : σ → List Nat)
    (hcb : ∀ e v s c s', cb e v s = .ok (c, s') → acc s' = acc s ∨ acc s' = acc s ++ [e])
    {s s' : σ} (h : l.iterate cb s = .ok s') : ∃ t, acc s' = acc s ++ t ∧ t.Sublist l.order := by
  unfold iterate at h
  suffices ∀ es s, iterate.go l cb es s = .ok s' → ∃ t, acc s' = acc s ++ t ∧ t.Sublist es from
    this _ _ h
  intro es
  induction es with
  | nil =>
    intro s h
    cases h
    exact ⟨[], by simp, List.Sublist.slnil⟩
  | cons e es ih =>
    intro s h
    simp only [iterate.go] at h
    cases hc : cb e (l.get e) s with
    | error err =>
      rw [hc] at h
      cases h
    | ok r =>
      obtain ⟨c, s1⟩ := r
      rw [hc] at h
      -- the suffix collects the rest; this element is collected here or never
      have hrest : ∃ t, acc s' = acc s1 ++ t ∧ t.Sublist es := by
        cases c
        · cases h
          exact ⟨[], by simp, List.nil_sublist _⟩
        · exact ih s1 h
      obtain ⟨t, ht, hsub⟩ := hrest
      rcases hcb e _ s c s1 hc with hacc | hacc
      · exact ⟨t, by rw [ht, hacc], hsub.cons e⟩
      · exact ⟨e :: t, by rw [ht, hacc, List.append_assoc, List.singleton_append], hsub.cons_cons e⟩

/-! ## The elements that pass a test

A client that keeps a pointer to the first element passing a test, and a count of
them, moves the pointer forward from that element when it fails the test or
leaves the list (`find?_after`), and changes the count by one
(`length_filter_erase`). -/

theorem filter_eq_nil_of_head?_filter {P : Nat → Bool} {pre post : List Nat} {e : Nat}
    (he : ((pre ++ e :: post).filter P).head? = some e) (hpre : e ∉ pre) :
    pre.filter P = [] := by
  cases hf : pre.filter P with
  | nil => rfl
  | cons x xs =>
    rw [List.filter_append, hf, List.cons_append, List.head?_cons, Option.some.injEq] at he
    subst he
    exact absurd (List.mem_of_mem_filter (hf ▸ List.mem_cons_self : x ∈ pre.filter P)) hpre

/-- From the first element `e` that passes `P`, the first one after it that passes
a test `Q` agreeing with `P` off `e` is the first of the list without `e` that
passes `Q`. -/
theorem find?_after (l : LinkedList α) {P Q : Nat → Bool} {e : Nat}
    (he : (l.order.filter P).head? = some e) (hQ : ∀ x, x ≠ e → Q x = P x) :
    (l.after e).find? Q = ((l.order.erase e).filter Q).head? := by
  have hmem : e ∈ l.order := List.mem_of_mem_filter (List.mem_of_mem_head? he)
  obtain ⟨pre, post, hsplit⟩ := List.append_of_mem hmem
  have hnd := l.order_nodup
  rw [hsplit] at hnd he
  have hepre : e ∉ pre := fun h => (List.nodup_append.1 hnd).2.2 e h e List.mem_cons_self rfl
  have hP := filter_eq_nil_of_head?_filter he hepre
  have hQpre : pre.filter Q = [] := by
    rw [List.filter_eq_nil_iff] at hP ⊢
    intro x hx
    rw [hQ x (fun h => hepre (h ▸ hx))]
    exact hP x hx
  have hafter : l.after e = post := by
    unfold after
    rw [hsplit, List.dropWhile_append, if_pos (by
      rw [List.isEmpty_iff, List.dropWhile_eq_nil_iff]
      intro x hx
      exact decide_eq_true fun h : x = e => hepre (h ▸ hx))]
    simp
  rw [hafter, hsplit, List.erase_append_right _ hepre, List.erase_cons_head, List.filter_append,
    hQpre, List.nil_append, List.head?_filter]

/-- A test that fails at `e` and agrees with `P` elsewhere picks the elements of
the list without `e` that pass `P`. -/
theorem filter_of_eq_off (l : LinkedList α) {P Q : Nat → Bool} {e : Nat} (hQe : Q e = false)
    (hQ : ∀ x, x ≠ e → Q x = P x) : l.order.filter Q = (l.order.erase e).filter P := by
  have hnd := l.order_nodup
  by_cases he : e ∈ l.order
  · obtain ⟨pre, post, hsplit⟩ := List.append_of_mem he
    rw [hsplit] at hnd ⊢
    have hepre : e ∉ pre := fun h => (List.nodup_append.1 hnd).2.2 e h e List.mem_cons_self rfl
    have hepost : e ∉ post := (List.nodup_cons.1 (List.nodup_append.1 hnd).2.1).1
    rw [List.erase_append_right _ hepre, List.erase_cons_head, List.filter_append,
      List.filter_cons_of_neg (by simp [hQe]), ← List.filter_append]
    apply List.filter_congr
    intro x hx
    exact hQ x fun h =>
      (List.mem_append.1 hx).elim (fun h' => hepre (h ▸ h')) (fun h' => hepost (h ▸ h'))
  · rw [List.erase_of_not_mem he]
    exact List.filter_congr fun x hx => hQ x fun h => he (h ▸ hx)

/-- Taking out an element that is not the first to pass `P` keeps the first. -/
theorem head?_filter_erase (l : LinkedList α) {P : Nat → Bool} {e : Nat}
    (he : (l.order.filter P).head? ≠ some e) :
    ((l.order.erase e).filter P).head? = (l.order.filter P).head? := by
  by_cases hmem : e ∈ l.order
  · obtain ⟨pre, post, hsplit⟩ := List.append_of_mem hmem
    have hnd := l.order_nodup
    rw [hsplit] at hnd he ⊢
    have hepre : e ∉ pre := fun h => (List.nodup_append.1 hnd).2.2 e h e List.mem_cons_self rfl
    rw [List.erase_append_right _ hepre, List.erase_cons_head, List.filter_append,
      List.filter_append, List.filter_cons]
    cases hpre : pre.filter P with
    | cons x xs => rfl
    | nil =>
      rw [List.filter_append, hpre, List.nil_append, List.filter_cons] at he
      split at he
      · simp at he
      · simp [*]
  · rw [List.erase_of_not_mem hmem]

/-- **Moving a pointer to the first element that passes a test** when its element
`e` fails the test from now on, or leaves the list: from `e` to the first element
after it that passes, and the pointer stays where it is when it was not at `e`.
Either way it ends at the first element of the list without `e` that passes. -/
theorem first_erase (l : LinkedList α) {P Q : Nat → Bool} {e : Nat} {first : Option Nat}
    (hfirst : first = (l.order.filter P).head?) (hQ : ∀ x, x ≠ e → Q x = P x) :
    (if first = some e then (l.after e).find? Q else first) = ((l.order.erase e).filter P).head? := by
  have hcongr : (l.order.erase e).filter Q = (l.order.erase e).filter P :=
    List.filter_congr fun x hx => hQ x fun h => l.order_nodup.not_mem_erase (h ▸ hx)
  split
  · rename_i hat
    rw [find?_after l (by rw [← hfirst]; exact hat) hQ, hcongr]
  · rename_i hat
    rw [head?_filter_erase l (by rw [← hfirst]; exact hat), hfirst]

theorem length_filter_erase (l : LinkedList α) (P : Nat → Bool) {e : Nat} (he : e ∈ l.order) :
    (l.order.filter P).length = ((l.order.erase e).filter P).length + if P e then 1 else 0 := by
  rw [((List.perm_cons_erase he).filter P).length_eq]
  by_cases hP : P e <;> simp [hP]

end LinkedList
