import Mathlib

/-! # Sending a queue of items in pieces

A sender that takes items off a queue and sends each of them as one or more
pieces, possibly spread over several rounds, is specified by a relation `P a qs`:
`qs` are pieces that together make up the item `a`.  What it sends is right when
the pieces, in order, are the pieces of the items, one list per item
(`List.Forall₂ P S Ps` with the pieces sent `Ps.flatten`).

`Emitted P S E R` is the invariant of such a sender in mid-run: `E` has been sent
from the items `S`, and `R` is left, where the item at the head of `R` may be what
is left of an item already partly sent.  It says that whatever pieces the items
left are cut into, `E` followed by them are the pieces of the items `S`.  It holds
at the start (`emitted_refl`), is extended by sending an item whole
(`emitted_whole`) or cutting a piece off the head item (`emitted_cut`), composes
(`Emitted.trans`), and once nothing is left it is the specification
(`Emitted.flatten_of_nil`).  `Emitted.congr` replaces the pieces sent by pieces
equal up to a map `g` that `P` does not see.
-/

namespace Emission

variable {α β γ : Type}

/-- `E` has been sent from the items `S`, with `R` left: `E`, followed by any
pieces of the items `R`, are pieces of the items `S`. -/
def Emitted (P : α → List β → Prop) (S : List α) (E : List β) (R : List α) : Prop :=
  ∀ Qs, List.Forall₂ P R Qs → ∃ Ps, List.Forall₂ P S Ps ∧ E ++ Qs.flatten = Ps.flatten

variable {P : α → List β → Prop}

theorem emitted_refl (S : List α) : Emitted P S [] S :=
  fun Qs hQs => ⟨Qs, hQs, rfl⟩

theorem Emitted.trans {S R R' : List α} {E X : List β} (h : Emitted P S E R)
    (h' : Emitted P R X R') : Emitted P S (E ++ X) R' := by
  intro Qs hQs
  obtain ⟨Qs₁, hQs₁, hX⟩ := h' Qs hQs
  obtain ⟨Ps, hPs, hE⟩ := h Qs₁ hQs₁
  refine ⟨Ps, hPs, ?_⟩
  rw [List.append_assoc, hX, hE]

/-- The head item sent as the pieces `qs`. -/
theorem emitted_whole {a : α} {qs : List β} (hp : P a qs) (R : List α) :
    Emitted P (a :: R) qs R :=
  fun Qs hQs => ⟨qs :: Qs, .cons hp hQs, rfl⟩

/-- The piece `q` cut off the head item `a`, which leaves `a'`: any pieces of `a'`
after `q` are pieces of `a`. -/
theorem emitted_cut {a a' : α} {q : β} (hcut : ∀ qs, P a' qs → P a (q :: qs)) (R : List α) :
    Emitted P (a :: R) [q] (a' :: R) := by
  intro Qs hQs
  cases hQs with
  | cons hp hR => exact ⟨_, .cons (hcut _ hp) hR, rfl⟩

theorem Emitted.flatten_of_nil {S : List α} {E : List β} (h : Emitted P S E []) :
    ∃ Ps, List.Forall₂ P S Ps ∧ E = Ps.flatten := by
  obtain ⟨Ps, hPs, hE⟩ := h [] .nil
  exact ⟨Ps, hPs, by simpa using hE⟩

/-- A list whose image is that of a flattened list of lists is cut the same way. -/
theorem exists_flatten_of_map_eq (g : β → γ) :
    ∀ {l : List β} {L : List (List β)}, l.map g = L.flatten.map g →
      ∃ L', l = L'.flatten ∧ List.Forall₂ (fun x y => x.map g = y.map g) L' L
  | l, [], h => ⟨[], by simpa using h, .nil⟩
  | l, x :: L, h => by
    rw [List.flatten_cons, List.map_append] at h
    obtain ⟨l₁, l₂, rfl, h₁, h₂⟩ := List.map_eq_append_iff.1 h
    obtain ⟨L', rfl, hL'⟩ := exists_flatten_of_map_eq g h₂
    exact ⟨l₁ :: L', rfl, .cons h₁ hL'⟩

theorem forall₂_of_map_eq (g : β → γ) (hP : ∀ a qs qs', qs.map g = qs'.map g → P a qs → P a qs') :
    ∀ {S : List α} {Ps Ps' : List (List β)}, List.Forall₂ P S Ps →
      List.Forall₂ (fun x y => x.map g = y.map g) Ps' Ps → List.Forall₂ P S Ps'
  | _, _, _, .nil, .nil => .nil
  | _, _, _, .cons hp hS, .cons hq hPs => .cons (hP _ _ _ hq.symm hp) (forall₂_of_map_eq g hP hS hPs)

/-- Pieces equal up to `g`, when `P` does not see what `g` forgets. -/
theorem Emitted.congr (g : β → γ) (hP : ∀ a qs qs', qs.map g = qs'.map g → P a qs → P a qs')
    {S R : List α} {E E' : List β} (hE : E.map g = E'.map g) (h : Emitted P S E R) :
    Emitted P S E' R := by
  intro Qs hQs
  obtain ⟨Ps, hPs, heq⟩ := h Qs hQs
  have hmap : (E' ++ Qs.flatten).map g = Ps.flatten.map g := by
    rw [List.map_append, ← hE, ← List.map_append, heq]
  obtain ⟨Ps', hflat, hrel⟩ := exists_flatten_of_map_eq g hmap
  exact ⟨Ps', forall₂_of_map_eq g hP hPs hrel, hflat⟩

end Emission
