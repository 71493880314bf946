import Mathlib.Algebra.GroupWithZero.Nat
import Mathlib.Data.List.Basic
import Mathlib.Data.List.GetD
import Mathlib.Data.List.Pairwise

/-!
# Stores into a memory

A memory gives a cell for every address.  A number of stores changes nothing outside of
them, and what has been stored apart from all others is there afterwards.
-/

namespace Stores

structure Region where
  start : Nat
  length : Nat
deriving Repr, DecidableEq

namespace Region

def stop (r : Region) : Nat := r.start + r.length

def Apart (r r' : Region) : Prop := r.stop ≤ r'.start ∨ r'.stop ≤ r.start

def Within (r r' : Region) : Prop := r'.start ≤ r.start ∧ r.stop ≤ r'.stop

@[simp] theorem apart_iff {r r' : Region} :
    r.Apart r' ↔ r.start + r.length ≤ r'.start ∨ r'.start + r'.length ≤ r.start := Iff.rfl

@[simp] theorem within_iff {r r' : Region} :
    r.Within r' ↔ r'.start ≤ r.start ∧ r.start + r.length ≤ r'.start + r'.length := Iff.rfl

end Region

/-- Cells that are stored from an address on. -/
structure Store (Cell : Type) where
  start : Nat
  cells : List Cell

variable {Cell : Type}

def Store.region (w : Store Cell) : Region := ⟨w.start, w.cells.length⟩

def store (memory : Nat -> Cell) (w : Store Cell) : Nat -> Cell := fun address =>
  if address < w.start then memory address
  else w.cells.getD (address - w.start) (memory address)

def storeAll (memory : Nat -> Cell) (writes : List (Store Cell)) : Nat -> Cell :=
  writes.foldl store memory

def load (memory : Nat -> Cell) (r : Region) : List Cell :=
  (List.range r.length).map fun i => memory (r.start + i)

structure Isolated (writes : List (Store Cell)) (w : Store Cell) : Prop where
  mem : w ∈ writes
  apart : forall other, other ∈ writes -> other = w ∨ other.region.Apart w.region

section Rules

variable {memory : Nat -> Cell} {w : Store Cell} {writes : List (Store Cell)}
  {r : Region} {address : Nat}

theorem store_outside (h : address < w.start ∨ w.region.stop ≤ address) :
    store memory w address = memory address := by
  unfold store
  rcases h with hbefore | hbehind
  · rw [if_pos hbefore]
  · have hstart : ¬ address < w.start :=
      Nat.not_lt_of_le (Nat.le_trans (Nat.le_add_right _ _) hbehind)
    have hlength : w.cells.length ≤ address - w.start := Nat.le_sub_of_add_le' hbehind
    rw [if_neg hstart, List.getD_eq_default _ _ hlength]

theorem storeAll_outside (hwithin : forall w, w ∈ writes -> w.region.Within r)
    (h : address < r.start ∨ r.stop ≤ address) :
    storeAll memory writes address = memory address := by
  induction writes generalizing memory with
  | nil => rfl
  | cons w rest ih =>
      have hw := hwithin w List.mem_cons_self
      have hrest : storeAll (store memory w) rest address = store memory w address :=
        ih fun other hother => hwithin other (List.mem_cons_of_mem _ hother)
      show storeAll (store memory w) rest address = _
      rw [hrest, store_outside]
      exact h.imp (fun hbefore => Nat.lt_of_lt_of_le hbefore hw.1)
        (fun hbehind => Nat.le_trans hw.2 hbehind)

theorem load_store (memory : Nat -> Cell) (w : Store Cell) :
    load (store memory w) w.region = w.cells := by
  apply List.ext_getElem
  · simp [load, Store.region]
  · intro i _ hi
    have hstart : ¬ w.start + i < w.start := Nat.not_lt_of_le (Nat.le_add_right _ _)
    simp only [load, Store.region, List.getElem_map, List.getElem_range, store]
    rw [if_neg hstart, Nat.add_sub_cancel_left, List.getD_eq_getElem _ _ hi]

theorem load_store_apart (h : w.region.Apart r) :
    load (store memory w) r = load memory r := by
  unfold load
  apply List.map_congr_left
  intro i hi
  have hi : i < r.length := List.mem_range.mp hi
  apply store_outside
  rcases h with hbehind | hbefore
  · exact Or.inr (Nat.le_trans hbehind (Nat.le_add_right _ _))
  · exact Or.inl (Nat.lt_of_lt_of_le (Nat.add_lt_add_left hi _) hbefore)

theorem load_storeAll_apart (h : forall w, w ∈ writes -> w.region.Apart r) :
    load (storeAll memory writes) r = load memory r := by
  induction writes generalizing memory with
  | nil => rfl
  | cons w rest ih =>
      have hrest : load (storeAll (store memory w) rest) r = load (store memory w) r :=
        ih fun other hother => h other (List.mem_cons_of_mem _ hother)
      exact hrest.trans (load_store_apart (h w List.mem_cons_self))

theorem Isolated.load {m : Nat -> Cell} (h : Isolated writes w) :
    load (storeAll m writes) w.region = w.cells := by
  rcases h with ⟨hmem, hapart⟩
  induction writes generalizing m with
  | nil => cases hmem
  | cons first rest ih =>
      have hrest : forall other, other ∈ rest -> other = w ∨ other.region.Apart w.region :=
        fun other hother => hapart other (List.mem_cons_of_mem _ hother)
      show Stores.load (storeAll (store m first) rest) w.region = _
      by_cases hlater : w ∈ rest
      · exact ih hlater hrest
      · have hfirst : w = first := (List.mem_cons.mp hmem).resolve_right hlater
        rw [load_storeAll_apart]
        · rw [hfirst]
          exact load_store m first
        · intro other hother
          apply (hrest other hother).resolve_left
          intro hsame
          exact hlater (hsame ▸ hother)

instance : Std.Symm fun w w' : Store Cell => w.region.Apart w'.region where
  symm := fun _ _ => Or.symm

theorem isolated_of_pairwise
    (h : writes.Pairwise fun w w' => w.region.Apart w'.region) (hmem : w ∈ writes) :
    Isolated writes w where
  mem := hmem
  apart := by
    intro other hother
    by_cases hsame : other = w
    · exact Or.inl hsame
    · exact Or.inr (h.forall hother hmem hsame)

def Touch (writes : List (Store Cell)) (regions : List Region) : Prop :=
  forall w, w ∈ writes -> exists r, r ∈ regions ∧ w.region.Within r

theorem Touch.nil (regions : List Region) : Touch ([] : List (Store Cell)) regions := by
  intro w hw
  cases hw

theorem Touch.append {writes' : List (Store Cell)} {regions regions' : List Region}
    (h : Touch writes regions) (h' : Touch writes' regions') :
    Touch (writes ++ writes') (regions ++ regions') := by
  intro w hw
  rcases List.mem_append.mp hw with hw | hw
  · rcases h w hw with ⟨r, hr, hwithin⟩
    exact ⟨r, List.mem_append_left _ hr, hwithin⟩
  · rcases h' w hw with ⟨r, hr, hwithin⟩
    exact ⟨r, List.mem_append_right _ hr, hwithin⟩

theorem Touch.within {regions : List Region} (h : Touch writes regions)
    (hregions : forall r', r' ∈ regions -> r'.Within r) :
    forall w, w ∈ writes -> w.region.Within r := by
  intro w hw
  rcases h w hw with ⟨r', hr', hwithin⟩
  have houter := hregions r' hr'
  exact ⟨Nat.le_trans houter.1 hwithin.1, Nat.le_trans hwithin.2 houter.2⟩

theorem Touch.apart {regions : List Region} (h : Touch writes regions)
    (hregions : forall r', r' ∈ regions -> r'.Apart r) :
    forall w, w ∈ writes -> w.region.Apart r := by
  intro w hw
  rcases h w hw with ⟨r', hr', hwithin⟩
  apply (hregions r' hr').imp
  · exact Nat.le_trans hwithin.2
  · intro hbefore
    exact Nat.le_trans hbefore hwithin.1

theorem Isolated.between {before behind : List (Store Cell)} {regions regions' : List Region}
    (h : Isolated writes w) (hbefore : Touch before regions) (hbehind : Touch behind regions')
    (hapart : forall r, r ∈ regions ++ regions' -> r.Apart w.region) :
    Isolated (before ++ writes ++ behind) w where
  mem := List.mem_append_left _ (List.mem_append_right _ h.mem)
  apart := by
    intro other hother
    rcases List.mem_append.mp hother with hother | hother
    · rcases List.mem_append.mp hother with hother | hother
      · exact Or.inr (hbefore.apart
          (fun r hr => hapart r (List.mem_append_left _ hr)) other hother)
      · exact h.apart other hother
    · exact Or.inr (hbehind.apart
        (fun r hr => hapart r (List.mem_append_right _ hr)) other hother)

end Rules

/-!
## Blocks one behind another
-/

def starts : Nat -> List Nat -> List Nat
  | _, [] => []
  | start, length :: rest => start :: starts (start + length) rest

def laid : Nat -> List Nat -> List Region
  | _, [] => []
  | start, length :: rest => ⟨start, length⟩ :: laid (start + length) rest

theorem starts_append (start : Nat) (lengths lengths' : List Nat) :
    starts start (lengths ++ lengths') =
      starts start lengths ++ starts (start + lengths.sum) lengths' := by
  induction lengths generalizing start with
  | nil => rfl
  | cons length rest ih =>
      rw [List.cons_append, starts, starts, ih, List.sum_cons, Nat.add_assoc,
        List.cons_append]

theorem laid_within {start : Nat} {lengths : List Nat} {r : Region}
    (h : r ∈ laid start lengths) : r.Within ⟨start, lengths.sum⟩ := by
  induction lengths generalizing start with
  | nil => cases h
  | cons length rest ih =>
      unfold Region.Within Region.stop at ih ⊢
      rw [List.sum_cons]
      rcases List.mem_cons.mp h with rfl | hrest
      · dsimp only
        omega
      · have hwithin := ih hrest
        dsimp only at hwithin ⊢
        omega

theorem laid_pairwise (start : Nat) (lengths : List Nat) :
    (laid start lengths).Pairwise Region.Apart := by
  induction lengths generalizing start with
  | nil => exact List.Pairwise.nil
  | cons length rest ih =>
      apply List.Pairwise.cons
      · intro r hr
        exact Or.inl (laid_within hr).1
      · exact ih (start + length)

end Stores
