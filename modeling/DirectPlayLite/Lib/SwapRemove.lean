import Mathlib.Data.List.Basic
import Mathlib.Data.List.Perm.Basic

/-!
# Removal that fills the hole with the last item

The order of the items is not kept, everything else is; parallel lists stay parallel.
-/

namespace SwapRemove

variable {α β : Type}

/-- Write the last item over the one at an index and drop the last. -/
def swapRemove (xs : List α) (index : Nat) : List α :=
  match xs.getLast? with
  | none => xs
  | some last => (xs.set index last).dropLast

theorem swapRemove_concat (xs : List α) (last : α) (index : Nat) :
    swapRemove (xs ++ [last]) index = xs.set index last := by
  rw [swapRemove, List.getLast?_concat]
  show ((xs ++ [last]).set index last).dropLast = _
  rcases Nat.lt_or_ge index xs.length with hlt | hge
  · simp only [List.set_append_left _ _ hlt, List.dropLast_concat]
  · rw [List.set_eq_of_length_le hge]
    rcases Nat.eq_or_lt_of_le hge with heq | hlt
    · simp [← heq]
    · rw [List.set_eq_of_length_le]
      · exact List.dropLast_concat
      · rw [List.length_append]
        exact hlt

theorem swapRemove_length (xs : List α) (index : Nat) :
    (swapRemove xs index).length = xs.length - 1 := by
  rcases List.eq_nil_or_concat' xs with rfl | ⟨rest, last, rfl⟩
  · rfl
  · simp [swapRemove_concat]

theorem perm_set_last {xs : List α} {index : Nat} {x : α} (last : α)
    (h : (xs ++ [last])[index]? = some x) :
    (xs ++ [last]).Perm (x :: xs.set index last) := by
  induction xs generalizing index with
  | nil =>
      cases index with
      | zero =>
          cases h
          exact List.Perm.refl _
      | succ index => cases h
  | cons head rest ih =>
      cases index with
      | zero =>
          cases h
          have hend : (rest ++ [last]).Perm ([last] ++ rest) :=
            List.perm_append_comm
          exact hend.cons x
      | succ index =>
          exact ((ih h).cons head).trans (List.Perm.swap x head _)

theorem perm_swapRemove {xs : List α} {index : Nat} {x : α}
    (h : xs[index]? = some x) : xs.Perm (x :: swapRemove xs index) := by
  rcases List.eq_nil_or_concat' xs with rfl | ⟨rest, last, rfl⟩
  · cases h
  · rw [swapRemove_concat]
    exact perm_set_last last h

theorem zip_set (xs : List α) (ys : List β) (index : Nat) (x : α) (y : β) :
    (xs.set index x).zip (ys.set index y) = (xs.zip ys).set index (x, y) := by
  induction xs generalizing ys index with
  | nil => simp
  | cons head xs ih =>
      cases ys with
      | nil => simp
      | cons other ys =>
          cases index with
          | zero => rfl
          | succ index =>
              simp only [List.set_cons_succ, List.zip_cons_cons, ih]

theorem zip_swapRemove {xs : List α} {ys : List β}
    (h : xs.length = ys.length) (index : Nat) :
    (swapRemove xs index).zip (swapRemove ys index) =
      swapRemove (xs.zip ys) index := by
  rcases List.eq_nil_or_concat' xs with rfl | ⟨xs, x, rfl⟩
  · rw [List.length_eq_zero_iff.mp h.symm]
    rfl
  · rcases List.eq_nil_or_concat' ys with rfl | ⟨ys, y, rfl⟩
    · simp at h
    · have hlength : xs.length = ys.length := by simpa using h
      rw [swapRemove_concat, swapRemove_concat, List.zip_append hlength, zip_set]
      exact (swapRemove_concat _ _ _).symm

theorem getElem?_swapRemove {xs : List α} {index i : Nat} {x : α}
    (h : (swapRemove xs index)[i]? = some x) :
    xs[i]? = some x ∨ i = index ∧ xs.getLast? = some x := by
  rcases List.eq_nil_or_concat' xs with rfl | ⟨rest, last, rfl⟩
  · cases h
  · rw [swapRemove_concat, List.getElem?_set] at h
    split at h
    · rename_i hsame
      split at h
      · refine Or.inr ⟨hsame.symm, ?_⟩
        rw [List.getLast?_concat, h]
      · cases h
    · refine Or.inl ?_
      rw [List.getElem?_append_left (List.getElem?_eq_some_iff.mp h).1, h]

end SwapRemove
