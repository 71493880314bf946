import Mathlib.Data.Multiset.AddSub
import Mathlib.Data.Multiset.Count

/-!
# Counting activations

Procedures of one kind stand for a right, such as that to a buffer, which is held
as long as one of them is active.
-/

namespace Monitor

variable {P : Type}

def tokens (kind : P -> Bool) (M : Multiset P) : Nat :=
  M.countP fun p => kind p = true

section Tokens

variable {kind : P -> Bool} {p : P} {M : Multiset P}

@[simp] theorem tokens_zero : tokens kind (0 : Multiset P) = 0 := rfl

theorem tokens_cons_of_true (h : kind p = true) :
    tokens kind (p ::ₘ M) = tokens kind M + 1 :=
  Multiset.countP_cons_of_pos _ h

theorem tokens_cons_of_false (h : kind p = false) :
    tokens kind (p ::ₘ M) = tokens kind M :=
  Multiset.countP_cons_of_neg _ (by simp [h])

theorem tokens_pos (hmem : p ∈ M) (h : kind p = true) : 0 < tokens kind M :=
  Multiset.countP_pos.mpr ⟨p, hmem, h⟩

theorem tokens_eq_zero :
    tokens kind M = 0 ↔ forall p, p ∈ M -> kind p = false := by
  simp [tokens, Multiset.countP_eq_zero]

theorem tokens_le {M' : Multiset P} (h : M ≤ M') :
    tokens kind M ≤ tokens kind M' :=
  Multiset.countP_le_of_le _ h

variable [DecidableEq P]

theorem tokens_erase_of_true (hmem : p ∈ M) (h : kind p = true) :
    tokens kind (M.erase p) + 1 = tokens kind M := by
  conv_rhs => rw [← Multiset.cons_erase hmem, tokens_cons_of_true h]

theorem tokens_erase_of_false (h : kind p = false) :
    tokens kind (M.erase p) = tokens kind M := by
  by_cases hmem : p ∈ M
  · conv_rhs => rw [← Multiset.cons_erase hmem, tokens_cons_of_false h]
  · rw [Multiset.erase_of_notMem hmem]

end Tokens

end Monitor
