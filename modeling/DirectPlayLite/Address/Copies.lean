import DirectPlayLite.Address.Space

/-!
# Copies of addresses

A clone of a string takes half of it, for its length is passed on as a size in
bytes; and `SetEqual` frees the components of the address before it clones those
of the other, which may be the same.
-/

namespace DirectPlayLite
namespace AddressSpace

open Function (update)

/-!
## Runs
-/

def initial : AddressSpace :=
  { component := fun _ => none, address := fun _ => none, next := 0 }

/-- What some calls, none of which has gone wrong, lead to. -/
inductive Reached (multiByteToWideChar : Memory -> DWORD -> WString) :
    AddressSpace -> Prop where
  | initial : Reached multiByteToWideChar initial
  | create {s : AddressSpace} :
      Reached multiByteToWideChar s ->
      Reached multiByteToWideChar (s.newAddress [])
  | addComponent {s s' : AddressSpace} {a : Nat} {name : WString} {data : Memory}
      {dataSize dataType : DWORD} {result : HRESULT} :
      Reached multiByteToWideChar s ->
      s.addComponent multiByteToWideChar a name data dataSize dataType =
        some (result, s') ->
      Reached multiByteToWideChar s'
  | setUserData {s s' : AddressSpace} {a : Nat} {userData : List UInt8} :
      Reached multiByteToWideChar s ->
      s.setUserData a userData = some s' ->
      Reached multiByteToWideChar s'
  | clear {s s' : AddressSpace} {a : Nat} :
      Reached multiByteToWideChar s ->
      s.clear a = some s' ->
      Reached multiByteToWideChar s'
  | setEqual {s s' : AddressSpace} {a src : Nat} :
      Reached multiByteToWideChar s ->
      s.setEqual a src = some s' ->
      Reached multiByteToWideChar s'
  | duplicate {s s' : AddressSpace} {a copy : Nat} :
      Reached multiByteToWideChar s ->
      s.duplicate a = some (s', copy) ->
      Reached multiByteToWideChar s'
  | release {s s' : AddressSpace} {a : Nat} :
      Reached multiByteToWideChar s ->
      s.release a = some s' ->
      Reached multiByteToWideChar s'

section Runs

variable {multiByteToWideChar : Memory -> DWORD -> WString}
  {s s' : AddressSpace} {a b : Nat} {object : AddressObject}
  {x y : DirectPlay8Address}

theorem initial_wellOwned : initial.WellOwned := by
  constructor
  · intro a object ha
    cases ha
  · intro a object ha
    cases ha
  · intro a b object other ha
    cases ha
  · intro p _
    exact ⟨rfl, rfl⟩

theorem WellOwned.contents_some (h : s.WellOwned) (ha : s.address a = some object) :
    exists x, s.contents a = some x := by
  have hall : forall ps, (forall p, p ∈ ps -> exists c, s.component p = some c) ->
      exists cs, s.Stores ps cs := by
    intro ps hlive
    induction ps with
    | nil => exact ⟨[], .nil⟩
    | cons p rest ih =>
        rcases hlive p List.mem_cons_self with ⟨c, hc⟩
        rcases ih fun q hq => hlive q (List.mem_cons_of_mem _ hq) with ⟨cs, hcs⟩
        exact ⟨c :: cs, .cons hc hcs⟩
  rcases hall object.components (h.live a object ha) with ⟨cs, hcs⟩
  exact ⟨{ components := cs, userData := object.userData },
    contents_eq_some.mpr ⟨object, ha, hcs, rfl⟩⟩

theorem WellOwned.setUserData (h : s.WellOwned) (ha : s.address a = some object)
    (userData : List UInt8) :
    Renewed s (s.putUserData a object userData) a { object with userData } := by
  constructor
  · rfl
  · exact h.live a object ha
  · exact h.distinct a object ha
  · intro p hp
    exact Or.inr ⟨object, ha, hp⟩
  · intro b other _ _ p _
    rfl
  · intro p hp
    exact (h.fresh p hp).1
  · exact ⟨Nat.le_refl _, h.address_lt ha⟩

theorem WellOwned.released (h : s.WellOwned) (ha : s.address a = some object) :
    ({ s.cleared a object with
      address := update (s.cleared a object).address a none } :
        AddressSpace).WellOwned := by
  have hcleared := h.renewed (h.cleared ha)
  have hkept : forall b other, update (s.cleared a object).address a none b =
      some other -> (s.cleared a object).address b = some other := by
    intro b other hb
    by_cases hsame : b = a
    · subst hsame
      rw [Function.update_self] at hb
      cases hb
    · rwa [Function.update_of_ne hsame] at hb
  constructor
  · intro b other hb
    exact hcleared.live b other (hkept b other hb)
  · intro b other hb
    exact hcleared.distinct b other (hkept b other hb)
  · intro b c other another hb hc
    exact hcleared.apart b c other another (hkept b other hb) (hkept c another hc)
  · intro p hp
    rcases hcleared.fresh p hp with ⟨hcomponent, haddress⟩
    refine ⟨hcomponent, ?_⟩
    by_cases hsame : p = a
    · subst hsame
      exact Function.update_self _ _ _
    · exact (Function.update_of_ne hsame _ _).trans haddress

theorem Reached.wellOwned (h : s.Reached multiByteToWideChar) : s.WellOwned := by
  induction h with
  | initial => exact initial_wellOwned
  | create _ ih => exact ih.renewed (ih.newAddress [])
  | @addComponent s s' a name data dataSize dataType result _ hcall ih =>
      cases ha : s.address a with
      | none => simp [AddressSpace.addComponent, ha] at hcall
      | some object =>
          rcases ih.contents_some ha with ⟨x, hx⟩
          rcases ih.addComponent hx multiByteToWideChar name data dataSize dataType
            with ⟨s'', hadded, hrenewed, _⟩
          rw [hadded] at hcall
          cases hcall
          rcases hrenewed with rfl | ⟨object', hrenewed⟩
          · exact ih
          · exact ih.renewed hrenewed
  | @setUserData s s' a userData _ hcall ih =>
      cases ha : s.address a with
      | none => simp [AddressSpace.setUserData, ha] at hcall
      | some object =>
          simp only [AddressSpace.setUserData, ha, Option.bind_eq_bind,
            Option.bind_some] at hcall
          cases hcall
          exact ih.renewed (ih.setUserData ha userData)
  | @clear s s' a _ hcall ih =>
      cases ha : s.address a with
      | none =>
          simp [AddressSpace.clear, AddressSpace.clearComponents, ha] at hcall
      | some object =>
          have hself : (s.cleared a object).address a =
              some { object with components := [] } := Function.update_self _ _ _
          simp only [AddressSpace.clear, ih.clearComponents ha, hself,
            Option.bind_eq_bind, Option.bind_some] at hcall
          cases hcall
          exact ih.renewed ((ih.cleared ha).putUserData [])
  | @setEqual s s' a src _ hcall ih =>
      cases hsrc : s.address src with
      | none => simp [AddressSpace.setEqual, hsrc] at hcall
      | some source =>
          cases ha : s.address a with
          | none =>
              simp [AddressSpace.setEqual, AddressSpace.replaceComponents,
                AddressSpace.clearComponents, hsrc, ha] at hcall
          | some object =>
              rcases ih.contents_some hsrc with ⟨x, hx⟩
              rcases ih.contents_some ha with ⟨y, hy⟩
              by_cases hne : a = src
              · subst hne
                rw [ih.setEqual_self hx] at hcall
                split at hcall
                · cases hcall
                  exact ih
                · cases hcall
              · rcases ih.setEqual hne hy hx with ⟨s'', object', hset, hrenewed, _⟩
                rw [hset] at hcall
                cases hcall
                exact ih.renewed hrenewed
  | @duplicate s s' a copy _ hcall ih =>
      cases ha : s.address a with
      | none => simp [AddressSpace.duplicate, ha] at hcall
      | some object =>
          rcases ih.contents_some ha with ⟨x, hx⟩
          rcases ih.duplicate hx with ⟨t, s'', object', hcopied, hnew, hrenewed, _⟩
          rw [hcopied] at hcall
          cases hcall
          exact (ih.renewed hnew).renewed hrenewed
  | @release s s' a _ hcall ih =>
      cases ha : s.address a with
      | none =>
          simp [AddressSpace.release, AddressSpace.clearComponents, ha] at hcall
      | some object =>
          simp only [AddressSpace.release, ih.clearComponents ha,
            Option.bind_eq_bind, Option.bind_some] at hcall
          cases hcall
          exact ih.released ha

/-!
## Exact copies
-/

/-- `Duplicate` makes a new address that contains the same and leaves the old one. -/
def Duplicates (s : AddressSpace) (a : Nat) : Prop :=
  exists s' copy, s.duplicate a = some (s', copy) ∧ s.contents copy = none ∧
    s'.contents copy = s.contents a ∧ s'.contents a = s.contents a

/-- `SetEqual` makes an address contain what another does and leaves that one. -/
def SetsEqual (s : AddressSpace) (b a : Nat) : Prop :=
  exists s', s.setEqual b a = some s' ∧ s'.contents b = s.contents a ∧
    s'.contents a = s.contents a

end Runs

end AddressSpace

def DirectPlay8Address.StringsEmpty (x : DirectPlay8Address) : Prop :=
  forall c, c ∈ x.components -> forall value, c.value = .string value -> value = []

theorem ComponentValue.clone_eq_iff (v : ComponentValue) :
    v.clone = v ↔ forall value, v = .string value -> value = [] := by
  cases v with
  | string value =>
      rw [ComponentValue.clone, string.injEq]
      have hmod : (UInt32.ofNat value.length).toNat ≤ value.length := by
        rw [UInt32.toNat_ofNat']
        exact Nat.mod_le _ _
      constructor
      · intro htake other hother
        cases hother
        have hlength := congrArg List.length htake
        rw [List.length_take] at hlength
        apply List.length_eq_zero_iff.mp
        omega
      · intro hall
        rw [hall value rfl]
        rfl
  | dword value => simp [ComponentValue.clone]
  | guid value => simp [ComponentValue.clone]

theorem DirectPlay8Address.clones_eq_iff (x : DirectPlay8Address) :
    x.components.map Component.clone = x.components ↔ x.StringsEmpty := by
  have hself : x.components.map id = x.components := List.map_id _
  constructor
  · intro hclones c hc
    have hall := List.map_inj_left.mp (hclones.trans hself.symm)
    have hvalue := congrArg Component.value (hall c hc)
    exact (ComponentValue.clone_eq_iff c.value).mp hvalue
  · intro hempty
    apply (List.map_congr_left _).trans hself
    intro c hc
    have hvalue := (ComponentValue.clone_eq_iff c.value).mpr (hempty c hc)
    rw [Component.clone, hvalue]
    rfl

namespace AddressSpace

section Exactness

variable {multiByteToWideChar : Memory -> DWORD -> WString}
  {s : AddressSpace} {a b : Nat} {x y : DirectPlay8Address}

theorem WellOwned.duplicates_iff (h : s.WellOwned) (hx : s.contents a = some x) :
    s.Duplicates a ↔ x.StringsEmpty := by
  rcases contents_eq_some.mp hx with ⟨object, ha, _, _⟩
  have hne : a ≠ s.next := by
    have hlt := h.address_lt ha
    omega
  have hfree : s.contents s.next = none := by
    rw [AddressSpace.contents, (h.fresh s.next (Nat.le_refl _)).2]
    rfl
  rcases h.duplicate hx with ⟨t, s'', object', hcopied, hnew, hrenewed, hcontents⟩
  have hkept : s''.contents a = s.contents a := by
    rw [hrenewed.contents_other hne, hnew.contents_other hne]
  rw [← DirectPlay8Address.clones_eq_iff]
  constructor
  · intro hduplicates
    rcases hduplicates with ⟨s', copy, hcall, _, hsame, _⟩
    rw [hcopied] at hcall
    cases hcall
    rw [hcontents, hx] at hsame
    exact congrArg DirectPlay8Address.components (Option.some.inj hsame)
  · intro hclones
    refine ⟨s'', s.next, hcopied, hfree, ?_, hkept⟩
    rw [hcontents, hx, DirectPlay8Address.setEqual, hclones]

theorem WellOwned.setsEqual_iff (h : s.WellOwned) (hx : s.contents a = some x)
    (hy : s.contents b = some y) :
    s.SetsEqual b a ↔ if a = b then x.components = [] else x.StringsEmpty := by
  by_cases hne : b = a
  · subst hne
    rw [if_pos rfl, SetsEqual, h.setEqual_self hx]
    constructor
    · intro hset
      rcases hset with ⟨s', hcall, _⟩
      split at hcall
      · assumption
      · cases hcall
    · intro hempty
      exact ⟨s, if_pos hempty, rfl, rfl⟩
  · rw [if_neg (Ne.symm hne), ← DirectPlay8Address.clones_eq_iff]
    rcases h.setEqual hne hy hx with ⟨s'', object, hset, hrenewed, hcontents⟩
    constructor
    · intro hsets
      rcases hsets with ⟨s', hcall, hsame, _⟩
      rw [hset] at hcall
      cases hcall
      rw [hcontents, hx] at hsame
      exact congrArg DirectPlay8Address.components (Option.some.inj hsame)
    · intro hclones
      refine ⟨s'', hset, ?_, hrenewed.contents_other (Ne.symm hne)⟩
      rw [hcontents, hx, DirectPlay8Address.setEqual, hclones]

/--
Addresses are copied as they are exactly when all their strings are empty, and an
address can be set equal to itself exactly when it has no components.
-/
theorem copies_exact_iff (h : s.Reached multiByteToWideChar) :
    (forall a x, s.contents a = some x -> (s.Duplicates a ↔ x.StringsEmpty)) ∧
      forall a b x y, s.contents a = some x -> s.contents b = some y ->
        (s.SetsEqual b a ↔ if a = b then x.components = [] else x.StringsEmpty) := by
  have howned := h.wellOwned
  constructor
  · intro a x hx
    exact howned.duplicates_iff hx
  · intro a b x y hx hy
    exact howned.setsEqual_iff hx hy

/-- Two addresses, the first with the string `a` as its component `n`. -/
def stringSpace : AddressSpace :=
  (((initial.newAddress []).newComponent ⟨[110], .string [97]⟩).setComponents 0
    ⟨[], []⟩ [1]).newAddress []

theorem stringSpace_reached : stringSpace.Reached fun _ _ => [] := by
  have hadded : (initial.newAddress []).addComponent (fun _ _ => []) 0 [110]
      (bufferOf [97, 0] fun _ => 0) 2 dpnaDatatypeString =
        some (sOk, ((initial.newAddress []).newComponent
          ⟨[110], .string [97]⟩).setComponents 0 ⟨[], []⟩ [1]) := rfl
  exact .create (.addComponent (.create .initial) hadded)

theorem copies_exact_iff_string :
    (forall a x, stringSpace.contents a = some x ->
        (stringSpace.Duplicates a ↔ x.StringsEmpty)) ∧
      forall a b x y, stringSpace.contents a = some x ->
        stringSpace.contents b = some y ->
          (stringSpace.SetsEqual b a ↔
            if a = b then x.components = [] else x.StringsEmpty) :=
  copies_exact_iff stringSpace_reached

/-- The string is lost in a copy, and with it the address that is its own source. -/
theorem stringSpace_not_copied :
    ¬ forall (multiByteToWideChar : Memory -> DWORD -> WString) (s : AddressSpace),
      s.Reached multiByteToWideChar ->
        (forall a x, s.contents a = some x -> s.Duplicates a) ∧
          forall a b x y, s.contents a = some x -> s.contents b = some y ->
            s.SetsEqual b a := by
  intro hall
  have hcontents : stringSpace.contents 0 =
      some ⟨[⟨[110], .string [97]⟩], []⟩ := by decide
  rcases stringSpace_reached.wellOwned.duplicate hcontents with
    ⟨_, _, _, hcopied, _, _, hclone⟩
  rcases (hall _ stringSpace stringSpace_reached).1 0 _ hcontents with
    ⟨s', copy, hcall, _, hsame, _⟩
  rw [hcopied] at hcall
  cases hcall
  rw [hclone, hcontents] at hsame
  revert hsame
  decide

end Exactness

end AddressSpace
end DirectPlayLite
