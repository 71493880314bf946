import DirectPlayLite.Address.Components
import Mathlib.Data.List.Forall2
import Mathlib.Data.List.Nodup
import Mathlib.Logic.Function.Basic

/-!
# Components behind pointers

An address owns its components by pointers: `delete` frees them, and what is read
through a pointer to a freed component is not defined.  The calls are modelled on
the components and addresses that have been allocated and have no outcome where
the code reads or frees what is not there.
-/

namespace DirectPlayLite

/-!
## The calls
-/

structure AddressObject where
  components : List Nat
  userData : List UInt8

/-- What has been allocated and not freed, the pointers from `next` on being new. -/
structure AddressSpace where
  component : Nat -> Option Component
  address : Nat -> Option AddressObject
  next : Nat

namespace AddressSpace

open Function (update)

def deleteComponent (s : AddressSpace) (p : Nat) : Option AddressSpace :=
  (s.component p).map fun _ => { s with component := update s.component p none }

def newComponent (s : AddressSpace) (c : Component) : AddressSpace :=
  { s with component := update s.component s.next (some c), next := s.next + 1 }

def newAddress (s : AddressSpace) (userData : List UInt8) : AddressSpace :=
  { s with
    address := update s.address s.next (some { components := [], userData })
    next := s.next + 1 }

def setComponents (s : AddressSpace) (a : Nat) (object : AddressObject)
    (components : List Nat) : AddressSpace :=
  { s with address := update s.address a (some { object with components }) }

def putUserData (s : AddressSpace) (a : Nat) (object : AddressObject)
    (userData : List UInt8) : AddressSpace :=
  { s with address := update s.address a (some { object with userData }) }

def deleteAll (s : AddressSpace) : List Nat -> Option AddressSpace
  | [] => some s
  | p :: rest => do
      let s <- s.deleteComponent p
      s.deleteAll rest

def clearComponents (s : AddressSpace) (a : Nat) : Option AddressSpace := do
  let object <- s.address a
  let s <- s.deleteAll object.components
  some (s.setComponents a object [])

def cloneAll (s : AddressSpace) (a : Nat) : List Nat -> Option AddressSpace
  | [] => some s
  | p :: rest => do
      let c <- s.component p
      let object <- s.address a
      ((s.newComponent c.clone).setComponents a object
        (object.components ++ [s.next])).cloneAll a rest

def replaceComponents (s : AddressSpace) (a : Nat) (src : List Nat) :
    Option AddressSpace := do
  let s <- s.clearComponents a
  s.cloneAll a src

def setEqual (s : AddressSpace) (a src : Nat) : Option AddressSpace := do
  let source <- s.address src
  let s <- s.replaceComponents a source.components
  let source <- s.address src
  let object <- s.address a
  some (s.putUserData a object source.userData)

def duplicate (s : AddressSpace) (a : Nat) : Option (AddressSpace × Nat) := do
  let source <- s.address a
  let copied <- (s.newAddress source.userData).replaceComponents s.next
    source.components
  some (copied, s.next)

def clear (s : AddressSpace) (a : Nat) : Option AddressSpace := do
  let s <- s.clearComponents a
  let object <- s.address a
  some (s.putUserData a object [])

def setUserData (s : AddressSpace) (a : Nat) (userData : List UInt8) :
    Option AddressSpace := do
  let object <- s.address a
  some (s.putUserData a object userData)

def release (s : AddressSpace) (a : Nat) : Option AddressSpace := do
  let s <- s.clearComponents a
  some { s with address := update s.address a none }

/-- The position of the first component of a name, read one by one. -/
def findName (s : AddressSpace) (name : WString) : List Nat -> Option (Option Nat)
  | [] => some none
  | p :: rest => do
      let c <- s.component p
      if c.name = name then some (some 0)
      else (s.findName name rest).map (Option.map (· + 1))

def addComponent (multiByteToWideChar : Memory -> DWORD -> WString)
    (s : AddressSpace) (a : Nat) (name : WString) (data : Memory)
    (dataSize dataType : DWORD) : Option (HRESULT × AddressSpace) := do
  let object <- s.address a
  let existing <- s.findName name object.components
  match DirectPlay8Address.newComponent multiByteToWideChar data dataSize dataType,
      existing with
  | .error result, _ => some (result, s)
  | .ok value, some index => do
      let p <- object.components[index]?
      let s' <- (s.newComponent { name, value }).deleteComponent p
      some (sOk, s'.setComponents a object (object.components.set index s.next))
  | .ok value, none =>
      some (sOk, (s.newComponent { name, value }).setComponents a object
        (if name = keyProvider then s.next :: object.components
          else object.components ++ [s.next]))

/-!
## What an address contains
-/

def componentsAt (s : AddressSpace) : List Nat -> Option (List Component)
  | [] => some []
  | p :: rest => do
      let c <- s.component p
      let cs <- s.componentsAt rest
      some (c :: cs)

/-- An address as its components and its user data. -/
def contents (s : AddressSpace) (a : Nat) : Option DirectPlay8Address := do
  let object <- s.address a
  let components <- s.componentsAt object.components
  some { components, userData := object.userData }

def Stores (s : AddressSpace) : List Nat -> List Component -> Prop :=
  List.Forall₂ fun p c => s.component p = some c

theorem componentsAt_eq_some {s : AddressSpace} {ps : List Nat}
    {cs : List Component} : s.componentsAt ps = some cs ↔ s.Stores ps cs := by
  induction ps generalizing cs with
  | nil =>
      rw [componentsAt, Stores, List.forall₂_nil_left_iff, Option.some.injEq]
      exact eq_comm
  | cons p rest ih =>
      rw [componentsAt, Stores, List.forall₂_cons_left_iff]
      cases hp : s.component p with
      | none => simp
      | some c =>
          cases hrest : s.componentsAt rest with
          | none =>
              constructor
              · intro h
                cases h
              · intro h
                rcases h with ⟨c', cs', _, hcs, _⟩
                have hsome := ih.mpr hcs
                rw [hrest] at hsome
                cases hsome
          | some found =>
              constructor
              · intro h
                cases h
                exact ⟨c, found, rfl, ih.mp hrest, rfl⟩
              · intro h
                rcases h with ⟨c', cs', hc, hcs, rfl⟩
                have hsome := ih.mpr hcs
                rw [hrest] at hsome
                cases hc
                cases hsome
                rfl

theorem contents_eq_some {s : AddressSpace} {a : Nat} {x : DirectPlay8Address} :
    s.contents a = some x ↔
      exists object, s.address a = some object ∧
        s.Stores object.components x.components ∧
        object.userData = x.userData := by
  rw [contents]
  cases ha : s.address a with
  | none => simp
  | some object =>
      cases hcs : s.componentsAt object.components with
      | none =>
          constructor
          · intro h
            rw [Option.bind_eq_bind, Option.bind_some, hcs] at h
            cases h
          · intro h
            rcases h with ⟨object', hobject, hstores, _⟩
            cases hobject
            rw [componentsAt_eq_some.mpr hstores] at hcs
            cases hcs
      | some found =>
          have hfound := componentsAt_eq_some.mp hcs
          rw [Option.bind_eq_bind, Option.bind_some, hcs]
          constructor
          · intro h
            cases h
            exact ⟨object, rfl, hfound, rfl⟩
          · intro h
            rcases h with ⟨object', hobject, hstores, hdata⟩
            cases hobject
            rw [componentsAt_eq_some.mpr hstores] at hcs
            cases hcs
            cases x
            cases hdata
            rfl

/-!
## Ownership
-/

/--
Every pointer of an address leads to a component that has not been freed and is
its own only.
-/
structure WellOwned (s : AddressSpace) : Prop where
  live : forall a object, s.address a = some object ->
    forall p, p ∈ object.components -> exists c, s.component p = some c
  distinct : forall a object, s.address a = some object -> object.components.Nodup
  apart : forall a b object other, s.address a = some object ->
    s.address b = some other -> a ≠ b ->
    forall p, p ∈ object.components -> p ∉ other.components
  fresh : forall p, s.next ≤ p -> s.component p = none ∧ s.address p = none

/--
One address has come to hold other components, which were its own or are new,
and the components of the others have been left alone.
-/
structure Renewed (s s' : AddressSpace) (a : Nat) (object : AddressObject) :
    Prop where
  address : s'.address = update s.address a (some object)
  live : forall p, p ∈ object.components -> exists c, s'.component p = some c
  distinct : object.components.Nodup
  owned : forall p, p ∈ object.components ->
    s.next ≤ p ∨ exists before, s.address a = some before ∧ p ∈ before.components
  others : forall b other, b ≠ a -> s.address b = some other ->
    forall p, p ∈ other.components -> s'.component p = s.component p
  fresh : forall p, s'.next ≤ p -> s'.component p = none
  next : s.next ≤ s'.next ∧ a < s'.next

section Ownership

variable {s s' : AddressSpace} {a b : Nat} {object : AddressObject}

theorem WellOwned.lt_next (h : s.WellOwned) {p : Nat} {c : Component}
    (hp : s.component p = some c) : p < s.next := by
  by_cases hlt : p < s.next
  · exact hlt
  · rw [(h.fresh p (by omega)).1] at hp
    cases hp

theorem WellOwned.address_lt (h : s.WellOwned) (ha : s.address a = some object) :
    a < s.next := by
  by_cases hlt : a < s.next
  · exact hlt
  · rw [(h.fresh a (by omega)).2] at ha
    cases ha

theorem WellOwned.pointer_lt (h : s.WellOwned) (ha : s.address a = some object)
    {p : Nat} (hp : p ∈ object.components) : p < s.next := by
  rcases h.live a object ha p hp with ⟨c, hc⟩
  exact h.lt_next hc

theorem WellOwned.renewed (h : s.WellOwned) (hrenewed : Renewed s s' a object) :
    s'.WellOwned := by
  have hself : s'.address a = some object := by
    rw [hrenewed.address, Function.update_self]
  have hother : forall b, b ≠ a -> s'.address b = s.address b := by
    intro b hb
    rw [hrenewed.address, Function.update_of_ne hb]
  have hnew : forall b other, b ≠ a -> s.address b = some other ->
      forall p, p ∈ object.components -> p ∉ other.components := by
    intro b other hb hbother p hp hpother
    rcases hrenewed.owned p hp with hfresh | ⟨before, hbefore, hpbefore⟩
    · have hlt := h.pointer_lt hbother hpother
      omega
    · exact h.apart a b before other hbefore hbother (Ne.symm hb) p hpbefore hpother
  constructor
  · intro b found hb p hp
    by_cases hsame : b = a
    · subst hsame
      rw [hself] at hb
      cases hb
      exact hrenewed.live p hp
    · rw [hother b hsame] at hb
      rw [hrenewed.others b found hsame hb p hp]
      exact h.live b found hb p hp
  · intro b found hb
    by_cases hsame : b = a
    · subst hsame
      rw [hself] at hb
      cases hb
      exact hrenewed.distinct
    · rw [hother b hsame] at hb
      exact h.distinct b found hb
  · intro b b' found found' hb hb' hne p hp hp'
    by_cases hsame : b = a
    · subst hsame
      rw [hself] at hb
      cases hb
      rw [hother b' (Ne.symm hne)] at hb'
      exact hnew b' found' (Ne.symm hne) hb' p hp hp'
    · rw [hother b hsame] at hb
      by_cases hsame' : b' = a
      · subst hsame'
        rw [hself] at hb'
        cases hb'
        exact hnew b found hsame hb p hp' hp
      · rw [hother b' hsame'] at hb'
        exact h.apart b b' found found' hb hb' hne p hp hp'
  · intro p hp
    have hnext := hrenewed.next
    constructor
    · exact hrenewed.fresh p hp
    · rw [hother p (by omega)]
      exact (h.fresh p (by omega)).2

theorem Stores.congr {ps : List Nat} {cs : List Component} (h : s.Stores ps cs)
    (hsame : forall p, p ∈ ps -> s'.component p = s.component p) :
    s'.Stores ps cs := by
  induction h with
  | nil => exact .nil
  | @cons p c ps cs hp _ ih =>
      have hfirst := hsame p List.mem_cons_self
      have hrest := ih fun q hq => hsame q (List.mem_cons_of_mem _ hq)
      exact .cons (hfirst.trans hp) hrest

theorem Renewed.contents_other (h : Renewed s s' a object) (hb : b ≠ a) :
    s'.contents b = s.contents b := by
  apply Option.ext
  intro x
  rw [contents_eq_some, contents_eq_some, h.address, Function.update_of_ne hb]
  constructor
  · intro hafter
    rcases hafter with ⟨other, hother, hstores, hdata⟩
    refine ⟨other, hother, hstores.congr ?_, hdata⟩
    intro p hp
    exact (h.others b other hb hother p hp).symm
  · intro hbefore
    rcases hbefore with ⟨other, hother, hstores, hdata⟩
    refine ⟨other, hother, hstores.congr ?_, hdata⟩
    intro p hp
    exact h.others b other hb hother p hp

end Ownership

/-!
## What the operations do
-/

section Operations

variable {s s' : AddressSpace} {a b : Nat} {object : AddressObject}
  {x y : DirectPlay8Address}

def without (s : AddressSpace) (ps : List Nat) : Nat -> Option Component :=
  fun p => if p ∈ ps then none else s.component p

theorem deleteAll_eq {ps : List Nat} (hdistinct : ps.Nodup)
    (hlive : forall p, p ∈ ps -> exists c, s.component p = some c) :
    s.deleteAll ps = some { s with component := s.without ps } := by
  induction ps generalizing s with
  | nil => rfl
  | cons p rest ih =>
      rcases List.nodup_cons.mp hdistinct with ⟨hp, hrest⟩
      rcases hlive p List.mem_cons_self with ⟨c, hc⟩
      have hdeleted : s.deleteComponent p =
          some { s with component := update s.component p none } := by
        rw [deleteComponent, hc]
        rfl
      have hstill : forall q, q ∈ rest ->
          exists c, update s.component p none q = some c := by
        intro q hq
        have hne : q ≠ p := fun heq => hp (heq ▸ hq)
        rcases hlive q (List.mem_cons_of_mem _ hq) with ⟨c', hc'⟩
        exact ⟨c', by rw [Function.update_of_ne hne, hc']⟩
      rw [deleteAll, hdeleted, Option.bind_eq_bind, Option.bind_some, ih hrest hstill]
      have hboth : (fun q => if q ∈ rest then none else update s.component p none q) =
          s.without (p :: rest) := by
        funext q
        by_cases hq : q = p
        · subst hq
          simp [without]
        · simp [without, hq]
      rw [← hboth]
      rfl

def cleared (s : AddressSpace) (a : Nat) (object : AddressObject) : AddressSpace :=
  { s with
    component := s.without object.components
    address := update s.address a (some { object with components := [] }) }

theorem WellOwned.clearComponents (h : s.WellOwned)
    (ha : s.address a = some object) :
    s.clearComponents a = some (s.cleared a object) := by
  rw [AddressSpace.clearComponents, ha, Option.bind_eq_bind, Option.bind_some,
    deleteAll_eq (h.distinct a object ha) (h.live a object ha)]
  rfl

theorem WellOwned.cleared (h : s.WellOwned) (ha : s.address a = some object) :
    Renewed s (s.cleared a object) a { object with components := [] } where
  address := rfl
  live := by simp
  distinct := List.nodup_nil
  owned := by simp
  others := by
    intro b other hb hother p hp
    have hnot := h.apart b a other object hother ha hb p hp
    exact if_neg hnot
  fresh := by
    intro p hp
    have hnone := (h.fresh p hp).1
    simp [AddressSpace.cleared, without, hnone]
  next := ⟨Nat.le_refl _, h.address_lt ha⟩

/--
Cloning appends new pointers to the components of the address, and what stood
behind the old pointers is still there.
-/
theorem cloneAll_eq {src : List Nat} {cs : List Component}
    (hstores : s.Stores src cs) (hold : forall p, p ∈ src -> p < s.next)
    (ha : s.address a = some object) :
    exists s', s.cloneAll a src = some s' ∧
      s'.next = s.next + src.length ∧
      s'.address = update s.address a (some { object with
        components := object.components ++ List.range' s.next src.length }) ∧
      (forall p, p < s.next ∨ s'.next ≤ p -> s'.component p = s.component p) ∧
      s'.Stores (List.range' s.next src.length) (cs.map Component.clone) := by
  induction src generalizing s object cs with
  | nil =>
      rw [Stores, List.forall₂_nil_left_iff] at hstores
      subst hstores
      refine ⟨s, rfl, rfl, ?_, fun p _ => rfl, .nil⟩
      simp [← ha]
  | cons p rest ih =>
      rw [Stores, List.forall₂_cons_left_iff] at hstores
      rcases hstores with ⟨c, cs, hp, hrest, rfl⟩
      have hsame : forall q, q < s.next ->
          (s.newComponent c.clone).component q = s.component q := by
        intro q hq
        exact Function.update_of_ne (by omega) _ _
      have hnext : Stores ((s.newComponent c.clone).setComponents a object
          (object.components ++ [s.next])) rest cs :=
        Stores.congr hrest fun q hq => hsame q (hold q (List.mem_cons_of_mem _ hq))
      have hself : ((s.newComponent c.clone).setComponents a object
          (object.components ++ [s.next])).address a =
          some { object with components := object.components ++ [s.next] } :=
        Function.update_self _ _ _
      have hless : forall q, q ∈ rest -> q < s.next + 1 := by
        intro q hq
        have hlt := hold q (List.mem_cons_of_mem _ hq)
        omega
      rcases ih hnext hless hself with
        ⟨s', hcloned, hlast, haddress, hkept, hfound⟩
      have hlast' : s'.next = s.next + (rest.length + 1) := by
        rw [hlast]
        show s.next + 1 + rest.length = s.next + (rest.length + 1)
        omega
      refine ⟨s', ?_, hlast', ?_, ?_, ?_⟩
      · rw [cloneAll, hp, Option.bind_eq_bind, Option.bind_some, ha,
          Option.bind_eq_bind, Option.bind_some, hcloned]
      · rw [haddress]
        show update (update s.address a _) a _ = _
        rw [Function.update_idem, List.length_cons, List.range'_succ,
          List.append_assoc]
        rfl
      · intro q hq
        have hnew : q ≠ s.next := by
          rcases hq with hq | hq
          · omega
          · omega
        have hstep : s'.component q = (s.newComponent c.clone).component q := by
          apply hkept q
          rcases hq with hq | hq
          · exact Or.inl (Nat.lt_succ_of_lt hq)
          · exact Or.inr hq
        rw [hstep]
        exact Function.update_of_ne hnew _ _
      · have hfirst : s'.component s.next = some c.clone := by
          rw [hkept s.next (Or.inl (Nat.lt_succ_self _))]
          exact Function.update_self _ _ _
        rw [List.length_cons, List.range'_succ, List.map_cons]
        exact .cons hfirst hfound

theorem WellOwned.replaceComponents (h : s.WellOwned)
    (ha : s.address a = some object) {src : List Nat} {cs : List Component}
    (hstores : s.Stores src cs) (hlt : forall p, p ∈ src -> p < s.next)
    (hapart : forall p, p ∈ src -> p ∉ object.components) :
    exists s' components, s.replaceComponents a src = some s' ∧
      Renewed s s' a { object with components } ∧
      s'.Stores components (cs.map Component.clone) := by
  have hcleared := h.clearComponents ha
  have hsrc : Stores (s.cleared a object) src cs :=
    Stores.congr hstores fun p hp => if_neg (hapart p hp)
  have hself : (s.cleared a object).address a =
      some { object with components := [] } := Function.update_self _ _ _
  rcases cloneAll_eq hsrc hlt hself with
    ⟨s', hcloned, hnext, haddress, hkept, hfound⟩
  refine ⟨s', List.range' s.next src.length, ?_, ?_, hfound⟩
  · rw [AddressSpace.replaceComponents, hcleared, Option.bind_eq_bind,
      Option.bind_some, hcloned]
  · have hlength : s'.next = s.next + src.length := hnext
    have ha_lt := h.address_lt ha
    constructor
    · rw [haddress]
      show update (update s.address a _) a _ = _
      rw [Function.update_idem]
      rfl
    · intro p hp
      rcases List.mem_iff_getElem.mp hp with ⟨i, hi, rfl⟩
      have hrelated := List.Forall₂.get hfound hi
        (by rw [← List.Forall₂.length_eq hfound]; exact hi)
      exact ⟨_, hrelated⟩
    · exact List.nodup_range'
    · intro p hp
      exact Or.inl (List.mem_range'_1.mp hp).1
    · intro b other hb hother p hp
      have hplt := h.pointer_lt hother hp
      rw [hkept p (Or.inl hplt)]
      exact if_neg (h.apart b a other object hother ha hb p hp)
    · intro p hp
      rw [hkept p (Or.inr hp)]
      have hnone := (h.fresh p (by omega)).1
      simp [AddressSpace.cleared, without, hnone]
    · omega

theorem Renewed.putUserData (h : Renewed s s' a object) (userData : List UInt8) :
    Renewed s (s'.putUserData a object userData) a { object with userData } where
  address := by
    show update s'.address a _ = _
    rw [h.address, Function.update_idem]
  live := h.live
  distinct := h.distinct
  owned := h.owned
  others := h.others
  fresh := h.fresh
  next := h.next

theorem Renewed.contents (h : Renewed s s' a object) {cs : List Component}
    (hstores : s'.Stores object.components cs) :
    s'.contents a = some { components := cs, userData := object.userData } := by
  rw [contents_eq_some]
  refine ⟨object, ?_, hstores, rfl⟩
  rw [h.address, Function.update_self]

theorem WellOwned.setEqual (h : s.WellOwned) (hne : a ≠ b)
    (hy : s.contents a = some y) (hx : s.contents b = some x) :
    exists s' object, s.setEqual a b = some s' ∧ Renewed s s' a object ∧
      s'.contents a = some (y.setEqual x) := by
  rcases contents_eq_some.mp hx with ⟨source, hb, hstores, hdata⟩
  rcases contents_eq_some.mp hy with ⟨object, ha, _, _⟩
  rcases h.replaceComponents ha hstores (fun p hp => h.pointer_lt hb hp)
    (h.apart b a source object hb ha (Ne.symm hne)) with
    ⟨s', components, hreplaced, hrenewed, hclones⟩
  have hsource : s'.address b = some source := by
    rw [hrenewed.address, Function.update_of_ne (Ne.symm hne), hb]
  have hself : s'.address a = some { object with components } := by
    rw [hrenewed.address, Function.update_self]
  have hput := hrenewed.putUserData source.userData
  refine ⟨_, _, ?_, hput, ?_⟩
  · simp only [AddressSpace.setEqual, hb, hreplaced, hsource, hself,
      Option.bind_eq_bind, Option.bind_some]
  · rw [hput.contents hclones, DirectPlay8Address.setEqual, hdata]

theorem WellOwned.setEqual_self (h : s.WellOwned) (hx : s.contents a = some x) :
    s.setEqual a a = if x.components = [] then some s else none := by
  rcases contents_eq_some.mp hx with ⟨object, ha, hstores, hdata⟩
  have hcleared := h.clearComponents ha
  have hself : (s.cleared a object).address a =
      some { object with components := [] } := Function.update_self _ _ _
  rw [AddressSpace.setEqual, ha, Option.bind_eq_bind, Option.bind_some,
    AddressSpace.replaceComponents, hcleared, Option.bind_eq_bind, Option.bind_some]
  cases hps : object.components with
  | nil =>
      rw [hps, Stores, List.forall₂_nil_left_iff] at hstores
      rw [if_pos hstores]
      simp only [cloneAll, hself, Option.bind_some]
      have hwithout : s.without object.components = s.component := by
        funext p
        simp [without, hps]
      have hobject : some { object with components := [] } = s.address a := by
        rw [ha, ← hps]
      rw [putUserData, AddressSpace.cleared, hwithout, Function.update_idem, hobject,
        Function.update_eq_self]
  | cons p rest =>
      rw [hps, Stores, List.forall₂_cons_left_iff] at hstores
      rcases hstores with ⟨c, cs, _, _, hcs⟩
      have hfreed : (s.cleared a object).component p = none := by
        simp [AddressSpace.cleared, without, hps]
      rw [hcs, if_neg (List.cons_ne_nil c cs), cloneAll, hfreed]
      rfl

theorem WellOwned.newAddress (h : s.WellOwned) (userData : List UInt8) :
    Renewed s (s.newAddress userData) s.next { components := [], userData } := by
  constructor
  · rfl
  · simp
  · exact List.nodup_nil
  · simp
  · intro b other _ _ p _
    rfl
  · intro p hp
    exact (h.fresh p (Nat.le_of_succ_le hp)).1
  · exact ⟨Nat.le_succ _, Nat.lt_succ_self _⟩

theorem WellOwned.duplicate (h : s.WellOwned) (hx : s.contents a = some x) :
    exists s' s'' object, s.duplicate a = some (s'', s.next) ∧
      Renewed s s' s.next { components := [], userData := x.userData } ∧
      Renewed s' s'' s.next object ∧
      s''.contents s.next = some (DirectPlay8Address.empty.setEqual x) := by
  rcases contents_eq_some.mp hx with ⟨source, ha, hstores, hdata⟩
  have hnew := h.newAddress x.userData
  have hself : (s.newAddress x.userData).address s.next =
      some { components := [], userData := x.userData } := Function.update_self _ _ _
  rcases (h.renewed hnew).replaceComponents hself
    (Stores.congr hstores fun _ _ => rfl)
    (fun p hp => Nat.lt_succ_of_lt (h.pointer_lt ha hp)) (by simp) with
    ⟨s'', components, hreplaced, hrenewed, hclones⟩
  refine ⟨_, s'', _, ?_, hnew, hrenewed, ?_⟩
  · rw [AddressSpace.duplicate, ha, Option.bind_eq_bind, Option.bind_some, hdata,
      hreplaced]
    rfl
  · rw [hrenewed.contents hclones]
    rfl

theorem Stores.length_eq {ps : List Nat} {cs : List Component}
    (h : s.Stores ps cs) : ps.length = cs.length :=
  List.Forall₂.length_eq h

theorem findName_eq {ps : List Nat} {cs : List Component} (h : s.Stores ps cs)
    (name : WString) :
    s.findName name ps = some (cs.findIdx? fun c => c.name == name) := by
  induction h with
  | nil => rfl
  | @cons p c ps cs hp _ ih =>
      rw [findName, hp, Option.bind_eq_bind, Option.bind_some, ih, List.findIdx?_cons]
      by_cases hname : c.name = name
      · rw [if_pos hname, hname]
        simp
      · rw [if_neg hname]
        simp [hname]

theorem place_eq (cs : List Component) (c : Component) :
    DirectPlay8Address.place cs c =
      match cs.findIdx? fun other => other.name == c.name with
      | some index => cs.set index c
      | none => if c.name = keyProvider then c :: cs else cs ++ [c] := by
  rw [DirectPlay8Address.place]
  cases hfound : cs.findIdx? fun other => other.name == c.name with
  | none =>
      rw [List.findIdx?_eq_none_iff] at hfound
      have hnone : (cs.any fun other => other.name == c.name) = false := by
        rw [List.any_eq_false]
        intro other hother
        rw [hfound other hother]
        exact Bool.false_ne_true
      rw [hnone]
      rfl
  | some index =>
      rcases List.findIdx?_eq_some_iff_findIdx_eq.mp hfound with ⟨hlt, hindex⟩
      have hthere : (cs.any fun other => other.name == c.name) = true := by
        rw [List.any_eq_true]
        rcases List.findIdx?_eq_some_iff_getElem.mp hfound with ⟨_, hname, _⟩
        exact ⟨cs[index], List.getElem_mem hlt, hname⟩
      have hbefore : (cs.takeWhile fun other => other.name != c.name) =
          cs.take index := by
        rw [List.takeWhile_eq_take_findIdx_not, ← hindex]
        simp only [bne, Bool.not_not]
      have hlength : (cs.take index).length = index := by
        rw [List.length_take]
        omega
      rw [if_pos hthere]
      dsimp only
      rw [hbefore, hlength, List.set_eq_take_append_cons_drop, if_pos hlt]

theorem Stores.set {ps : List Nat} {cs : List Component} (h : s.Stores ps cs)
    {index p : Nat} {c : Component} (hp : s'.component p = some c)
    (hothers : forall i q, i ≠ index -> ps[i]? = some q ->
      s'.component q = s.component q) :
    s'.Stores (ps.set index p) (cs.set index c) := by
  induction h generalizing index with
  | nil => exact .nil
  | @cons q d ps cs hq hrest ih =>
      cases index with
      | zero =>
          have hkept : Stores s' ps cs := by
            apply Stores.congr hrest
            intro r hr
            rcases List.getElem?_of_mem hr with ⟨i, hi⟩
            exact hothers (i + 1) r (Nat.succ_ne_zero i) hi
          exact .cons hp hkept
      | succ index =>
          have hfirst := hothers 0 q (by omega) rfl
          refine .cons (hfirst.trans hq) (ih ?_)
          intro i r hi hr
          exact hothers (i + 1) r (by omega) hr

theorem newComponent_keeps (c : Component) {p : Nat} (hp : p < s.next) :
    (s.newComponent c).component p = s.component p :=
  Function.update_of_ne (by omega) _ _

theorem WellOwned.placeNew (h : s.WellOwned) (ha : s.address a = some object)
    (c : Component) {components : List Nat} (hdistinct : components.Nodup)
    (howned : forall p, p ∈ components -> p = s.next ∨ p ∈ object.components) :
    Renewed s ((s.newComponent c).setComponents a object components) a
      { object with components } where
  address := rfl
  live := by
    intro p hp
    rcases howned p hp with rfl | hold
    · exact ⟨c, Function.update_self _ _ _⟩
    · rcases h.live a object ha p hold with ⟨d, hd⟩
      exact ⟨d, (newComponent_keeps c (h.lt_next hd)).trans hd⟩
  distinct := hdistinct
  owned := by
    intro p hp
    rcases howned p hp with rfl | hold
    · exact Or.inl (Nat.le_refl _)
    · exact Or.inr ⟨object, ha, hold⟩
  others := by
    intro b other _ hother p hp
    exact newComponent_keeps c (h.pointer_lt hother hp)
  fresh := by
    intro p hp
    have hlt : s.next < p := hp
    show update s.component s.next (some c) p = none
    rw [Function.update_of_ne (by omega)]
    exact (h.fresh p (by omega)).1
  next := ⟨Nat.le_succ _, Nat.lt_succ_of_lt (h.address_lt ha)⟩

theorem WellOwned.placeOver (h : s.WellOwned) (ha : s.address a = some object)
    (c : Component) {index p : Nat} (hp : object.components[index]? = some p) :
    exists s', (s.newComponent c).deleteComponent p = some s' ∧
      s'.component s.next = some c ∧
      (forall i q, i ≠ index -> object.components[i]? = some q ->
        s'.component q = s.component q) ∧
      Renewed s (s'.setComponents a object (object.components.set index s.next)) a
        { object with components := object.components.set index s.next } := by
  have hmem := List.mem_of_getElem? hp
  have hplt := h.pointer_lt ha hmem
  have hnext : s.next ∉ object.components := by
    intro hnew
    have hlt := h.pointer_lt ha hnew
    omega
  rcases h.live a object ha p hmem with ⟨d, hd⟩
  have hdeleted : (s.newComponent c).deleteComponent p =
      some { s.newComponent c with
        component := update (s.newComponent c).component p none } := by
    rw [deleteComponent, newComponent_keeps c hplt, hd]
    rfl
  have hkept : forall q, q < s.next -> q ≠ p ->
      update (s.newComponent c).component p none q = s.component q := by
    intro q hq hne
    rw [Function.update_of_ne hne, newComponent_keeps c hq]
  have hself : update (s.newComponent c).component p none s.next = some c := by
    rw [Function.update_of_ne (by omega)]
    exact Function.update_self _ _ _
  have hindexed : forall i q, i ≠ index -> object.components[i]? = some q ->
      q ≠ p := by
    intro i q hi hq heq
    subst heq
    have hlt := (List.getElem?_eq_some_iff.mp hq).1
    exact hi ((List.getElem?_inj hlt (h.distinct a object ha)).mp (hq.trans hp.symm))
  refine ⟨_, hdeleted, hself, ?_, ?_⟩
  · intro i q hi hq
    exact hkept q (h.pointer_lt ha (List.mem_of_getElem? hq)) (hindexed i q hi hq)
  · constructor
    · rfl
    · intro q hq
      rcases List.getElem?_of_mem hq with ⟨i, hi⟩
      rw [List.getElem?_set] at hi
      split at hi
      · split at hi
        · cases hi
          exact ⟨c, hself⟩
        · cases hi
      · rename_i hne
        have hq' := List.mem_of_getElem? hi
        rcases h.live a object ha q hq' with ⟨e, he⟩
        have hsame := hkept q (h.pointer_lt ha hq') (hindexed i q (Ne.symm hne) hi)
        exact ⟨e, hsame.trans he⟩
    · exact List.Nodup.set (h.distinct a object ha) hnext
    · intro q hq
      rcases List.mem_or_eq_of_mem_set hq with hold | rfl
      · exact Or.inr ⟨object, ha, hold⟩
      · exact Or.inl (Nat.le_refl _)
    · intro b other hb hother q hq
      have hne : q ≠ p := by
        intro heq
        subst heq
        exact h.apart a b object other ha hother (Ne.symm hb) q hmem hq
      exact hkept q (h.pointer_lt hother hq) hne
    · intro q hq
      have hlt : s.next < q := hq
      show update (update s.component s.next (some c)) p none q = none
      rw [Function.update_of_ne (by omega), Function.update_of_ne (by omega)]
      exact (h.fresh q (by omega)).1
    · exact ⟨Nat.le_succ _, Nat.lt_succ_of_lt (h.address_lt ha)⟩

theorem WellOwned.addComponent (h : s.WellOwned) (hx : s.contents a = some x)
    (multiByteToWideChar : Memory -> DWORD -> WString) (name : WString)
    (data : Memory) (dataSize dataType : DWORD) :
    exists s', s.addComponent multiByteToWideChar a name data dataSize dataType =
        some ((x.addComponent multiByteToWideChar name data dataSize dataType).1, s') ∧
      (s' = s ∨ exists object, Renewed s s' a object) ∧
      s'.contents a =
        some (x.addComponent multiByteToWideChar name data dataSize dataType).2 := by
  rcases contents_eq_some.mp hx with ⟨object, ha, hstores, hdata⟩
  have hexisting := findName_eq hstores name
  rw [AddressSpace.addComponent, DirectPlay8Address.addComponent]
  simp only [ha, hexisting, Option.bind_eq_bind, Option.bind_some]
  cases hnew : DirectPlay8Address.newComponent multiByteToWideChar data dataSize
      dataType with
  | error result => exact ⟨s, rfl, Or.inl rfl, hx⟩
  | ok value =>
      have hplace := place_eq x.components { name, value }
      cases hindex : x.components.findIdx? fun c => c.name == name with
      | some index =>
          rw [hindex] at hplace
          have hlt := (List.findIdx?_eq_some_iff_findIdx_eq.mp hindex).1
          rw [← hstores.length_eq] at hlt
          have hp := List.getElem?_eq_getElem hlt
          rcases h.placeOver ha { name, value } hp with
            ⟨s', hdeleted, hself, hkept, hrenewed⟩
          have hset : Stores s' _ _ := hstores.set hself hkept
          refine ⟨s'.setComponents a object (object.components.set index s.next), ?_,
            Or.inr ⟨_, hrenewed⟩, ?_⟩
          · simp only [hp, Option.bind_some, hdeleted]
          · dsimp only at hplace ⊢
            rw [hrenewed.contents hset, hplace, hdata]
      | none =>
          rw [hindex] at hplace
          have hnext : s.next ∉ object.components := by
            intro hnew
            have hlt := h.pointer_lt ha hnew
            omega
          have hfirst : (s.next :: object.components).Nodup :=
            List.nodup_cons.mpr ⟨hnext, h.distinct a object ha⟩
          have hlast : (object.components ++ [s.next]).Nodup :=
            List.nodup_append_comm.mpr hfirst
          have hself : (s.newComponent { name, value }).component s.next =
              some { name, value } := Function.update_self _ _ _
          have hold : Stores (s.newComponent { name, value }) object.components
              x.components :=
            hstores.congr fun p hp => newComponent_keeps _ (h.pointer_lt ha hp)
          refine ⟨_, rfl, ?_⟩
          dsimp only at hplace ⊢
          rw [hplace]
          split
          · have hrenewed := h.placeNew ha { name, value } hfirst (by simp)
            have hput : Stores (s.newComponent { name, value })
                (s.next :: object.components) _ := .cons hself hold
            exact ⟨Or.inr ⟨_, hrenewed⟩, by rw [hrenewed.contents hput, hdata]⟩
          · have hrenewed := h.placeNew ha { name, value } hlast (by simp [or_comm])
            have hput : Stores (s.newComponent { name, value })
                (object.components ++ [s.next]) _ :=
              List.rel_append hold (.cons hself .nil)
            exact ⟨Or.inr ⟨_, hrenewed⟩, by rw [hrenewed.contents hput, hdata]⟩

end Operations

end AddressSpace
end DirectPlayLite
