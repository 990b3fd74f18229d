import Mathlib.Data.List.Basic
import Mathlib.Data.List.Induction

/-! # Elements in the order of their first appearance

A list that grows by the elements it does not have yet keeps each element once, in the place where
it appears first.
-/

namespace Lending

variable {α : Type} [BEq α] [LawfulBEq α] {xs ys : List α}

/-- Every element of a list once, in the order in which they first appear. -/
structure InFirstOrder (xs ys : List α) : Prop where
  nodup : ys.Nodup
  mem_iff : ∀ x, x ∈ ys ↔ x ∈ xs
  ordered : ys.Pairwise fun a b => xs.idxOf a < xs.idxOf b

theorem inFirstOrder_foldl (xs : List α) : InFirstOrder xs
    (xs.foldl (fun seen y => if seen.contains y then seen else seen ++ [y]) []) := by
  -- The list grows at its end, where an element is new or has a place before.
  induction xs using List.reverseRecOn with
  | nil => exact ⟨.nil, by simp, .nil⟩
  | append_singleton xs x ih =>
    rw [List.foldl_append, List.foldl_cons, List.foldl_nil]
    generalize xs.foldl (fun seen y => if seen.contains y then seen else seen ++ [y]) [] = ys at ih
    have hord : ys.Pairwise fun a b => (xs ++ [x]).idxOf a < (xs ++ [x]).idxOf b := by
      refine ih.ordered.imp_of_mem fun ha hb h => ?_
      rw [List.idxOf_append_of_mem ((ih.mem_iff _).mp ha),
        List.idxOf_append_of_mem ((ih.mem_iff _).mp hb)]
      exact h
    by_cases hx : x ∈ ys
    · rw [if_pos (by simpa using hx)]
      refine ⟨ih.nodup, fun y => ?_, hord⟩
      rw [List.mem_append, ih.mem_iff, List.mem_singleton]
      constructor
      · exact .inl
      · rintro (h | rfl)
        · exact h
        · exact (ih.mem_iff _).mp hx
    · rw [if_neg (by simpa using hx)]
      have hxs : x ∉ xs := fun h => hx ((ih.mem_iff x).mpr h)
      have hnodup : (ys ++ [x]).Nodup := List.nodup_append.mpr
        ⟨ih.nodup, by simp, by simpa using fun y hy => ne_of_mem_of_not_mem hy hx⟩
      refine ⟨hnodup, fun y => by simp [ih.mem_iff], ?_⟩
      refine List.pairwise_append.mpr ⟨hord, List.pairwise_singleton _ _, fun a ha b hb => ?_⟩
      obtain rfl := List.mem_singleton.mp hb
      have ha := (ih.mem_iff a).mp ha
      rw [List.idxOf_append_of_mem ha, List.idxOf_append_of_notMem hxs]
      exact Nat.lt_add_right _ (List.idxOf_lt_length_of_mem ha)

theorem InFirstOrder.find?_eq_some (h : InFirstOrder xs ys) {p : α → Bool} {x : α}
    {before after : List α} (hx : xs = before ++ x :: after) (hp : p x)
    (hb : ∀ y ∈ before, p y = false) : ys.find? p = some x := by
  have hxb : x ∉ before := fun hm => by simp [hb x hm] at hp
  have hi : xs.idxOf x = before.length := by
    rw [hx, List.idxOf_append_of_notMem hxb, List.idxOf_cons_self, Nat.add_zero]
  obtain ⟨as, bs, hys⟩ := List.append_of_mem ((h.mem_iff x).mpr (by simp [hx]))
  refine List.find?_eq_some_iff_append.mpr ⟨hp, as, bs, hys, fun a ha => ?_⟩
  have hlt : xs.idxOf a < xs.idxOf x := by
    have ho := h.ordered
    rw [hys] at ho
    exact (List.pairwise_append.mp ho).2.2 a ha x List.mem_cons_self
  have hab : a ∈ before := by
    by_contra hn
    rw [hi, hx, List.idxOf_append_of_notMem hn] at hlt
    omega
  simp [hb a hab]

end Lending
