import DirectPlayLite.Address.Components
import Mathlib.Data.Finset.Card
import Mathlib.Logic.Function.Basic

/-!
# Histories of addresses

Whatever has been asked of some addresses, the components of each stand in the
order in which their names were first added, the provider alone going to the front.
-/

namespace DirectPlayLite

/-!
## Requests
-/

/-- What is asked of an address; `SetEqual` names the object it copies. -/
inductive AddressRequest where
  | addComponent (name : WString) (data : Memory) (dataSize dataType : DWORD)
  | setSP (guid : GUID)
  | setDevice (guid : GUID)
  | setEqual (src : Nat)
  | clear

/-- An address with the names it took over last and those added since. -/
structure TracedAddress where
  address : DirectPlay8Address
  taken : List WString
  added : List WString

namespace TracedAddress

variable (multiByteToWideChar : Memory -> DWORD -> WString)

def new : TracedAddress :=
  { address := .empty, taken := [], added := [] }

/-- All names added since the last `Clear`, or taken over by `SetEqual`. -/
def allNames (traced : TracedAddress) : List WString :=
  traced.taken ++ traced.added

/-- The address behind a call that adds a component if it returns `S_OK`. -/
def behind (traced : TracedAddress) (name : WString)
    (outcome : HRESULT × DirectPlay8Address) : TracedAddress :=
  { traced with
    address := outcome.2
    added := if outcome.1 = sOk then traced.added ++ [name] else traced.added }

def after (all : Nat -> TracedAddress) (traced : TracedAddress) :
    AddressRequest -> TracedAddress
  | .addComponent name data dataSize dataType =>
      traced.behind name (traced.address.addComponent multiByteToWideChar name
        data dataSize dataType)
  | .setSP guid =>
      traced.behind keyProvider (traced.address.setSP multiByteToWideChar guid)
  | .setDevice guid =>
      traced.behind keyDevice
        (traced.address.setDevice multiByteToWideChar guid)
  | .setEqual src =>
      { address := traced.address.setEqual (all src).address
        taken := (all src).address.names
        added := [] }
  | .clear =>
      { address := traced.address.clear, taken := [], added := [] }

/-- All addresses after some requests, each made of the object with an index. -/
def run (history : List (Nat × AddressRequest)) : Nat -> TracedAddress :=
  history.foldl (fun all (index, request) =>
    Function.update all index (after multiByteToWideChar all (all index) request))
    fun _ => new

end TracedAddress

/-!
## The order of the names
-/

/-- The names without repetitions, each where it stands first. -/
def firsts (names : List WString) : List WString :=
  names.foldl (fun seen name => if name ∈ seen then seen else seen ++ [name]) []

theorem firsts_concat (names : List WString) (name : WString) :
    firsts (names ++ [name]) =
      if name ∈ firsts names then firsts names else firsts names ++ [name] := by
  rw [firsts, List.foldl_append]
  rfl

theorem mem_firsts {names : List WString} {name : WString} :
    name ∈ firsts names ↔ name ∈ names := by
  induction names using List.reverseRecOn with
  | nil => rfl
  | append_singleton names last ih =>
      rw [firsts_concat]
      split
      · rename_i hlast
        rw [List.mem_append, ih, List.mem_singleton]
        constructor
        · exact Or.inl
        · rintro (hname | rfl)
          · exact hname
          · exact ih.mp hlast
      · rw [List.mem_append, List.mem_append, ih]

theorem firsts_nodup (names : List WString) : (firsts names).Nodup := by
  induction names using List.reverseRecOn with
  | nil => exact List.nodup_nil
  | append_singleton names last ih =>
      rw [firsts_concat]
      split
      · exact ih
      · rename_i hlast
        rw [List.nodup_append]
        refine ⟨ih, List.nodup_singleton last, ?_⟩
        intro name hname other hother
        rw [List.mem_singleton.mp hother]
        rintro rfl
        exact hlast hname

theorem firsts_of_nodup {names : List WString} (h : names.Nodup) :
    firsts names = names := by
  induction names using List.reverseRecOn with
  | nil => rfl
  | append_singleton names last ih =>
      rw [List.nodup_append] at h
      rw [firsts_concat, ih h.1, if_neg]
      intro hlast
      exact h.2.2 last hlast last (List.mem_singleton_self last) rfl

def arranged (names : List WString) : List WString :=
  (firsts names).filter (· = keyProvider) ++
    (firsts names).filter (· ≠ keyProvider)

theorem mem_arranged {names : List WString} {name : WString} :
    name ∈ arranged names ↔ name ∈ names := by
  by_cases hname : name = keyProvider <;>
    simp [arranged, mem_firsts, hname]

theorem arranged_nodup (names : List WString) : (arranged names).Nodup := by
  rw [arranged, List.nodup_append]
  refine ⟨(firsts_nodup names).filter _, (firsts_nodup names).filter _, ?_⟩
  intro name hname other hother
  simp only [List.mem_filter, decide_eq_true_eq] at hname hother
  rintro rfl
  exact hother.2 hname.2

theorem arranged_first {names : List WString}
    (h : keyProvider ∈ arranged names) :
    (arranged names)[0]? = some keyProvider := by
  have hthere : keyProvider ∈ (firsts names).filter (· = keyProvider) := by
    simpa [mem_firsts] using mem_arranged.mp h
  rw [arranged]
  cases hcase : (firsts names).filter (· = keyProvider) with
  | nil =>
      rw [hcase] at hthere
      cases hthere
  | cons first rest =>
      have hfirst : first ∈ (firsts names).filter (· = keyProvider) := by
        rw [hcase]
        exact List.mem_cons_self
      have hsame := (List.mem_filter.mp hfirst).2
      rw [List.cons_append, List.getElem?_cons_zero, decide_eq_true_eq.mp hsame]

theorem putName_arranged (names : List WString) (name : WString) :
    DirectPlay8Address.putName (arranged names) name =
      arranged (names ++ [name]) := by
  rw [DirectPlay8Address.putName]
  by_cases hthere : name ∈ names
  · rw [if_pos (mem_arranged.mpr hthere), arranged, arranged, firsts_concat,
      if_pos (mem_firsts.mpr hthere)]
  · rw [if_neg (mt mem_arranged.mp hthere), arranged, arranged, firsts_concat,
      if_neg (mt mem_firsts.mp hthere), List.filter_append, List.filter_append]
    split
    · rename_i hprovider
      subst hprovider
      have hnone : (firsts names).filter (· = keyProvider) = [] := by
        rw [List.filter_eq_nil_iff]
        intro other hother hsame
        rw [decide_eq_true_eq.mp hsame] at hother
        exact hthere (mem_firsts.mp hother)
      simp [hnone]
    · rename_i hother
      simp [hother]

theorem arranged_arranged (names : List WString) :
    arranged (arranged names) = arranged names := by
  rw [arranged, firsts_of_nodup (arranged_nodup names), arranged,
    List.filter_append, List.filter_append, List.filter_filter,
    List.filter_filter, List.filter_filter, List.filter_filter]
  simp

/-!
## Runs
-/

section Runs

variable {multiByteToWideChar : Memory -> DWORD -> WString}

namespace TracedAddress

/-- The components stand in the order of the names. -/
def InOrder (traced : TracedAddress) : Prop :=
  traced.address.names = arranged traced.allNames

theorem new_inOrder : new.InOrder := rfl

theorem behind_inOrder {traced : TracedAddress} (h : traced.InOrder)
    {name : WString} {data : Memory} {dataSize dataType : DWORD} :
    (traced.behind name (traced.address.addComponent multiByteToWideChar name
      data dataSize dataType)).InOrder := by
  unfold InOrder allNames at h
  unfold InOrder allNames behind
  by_cases hok : (traced.address.addComponent multiByteToWideChar name data
      dataSize dataType).1 = sOk
  · rw [if_pos hok, ← List.append_assoc, ← putName_arranged, ← h]
    exact DirectPlay8Address.addComponent_names hok
  · rw [if_neg hok, DirectPlay8Address.addComponent_error hok]
    exact h

theorem after_inOrder {all : Nat -> TracedAddress} {traced : TracedAddress}
    (hall : forall index, (all index).InOrder) (h : traced.InOrder)
    (request : AddressRequest) :
    (traced.after multiByteToWideChar all request).InOrder := by
  cases request with
  | addComponent name data dataSize dataType => exact behind_inOrder h
  | setSP guid => exact behind_inOrder h
  | setDevice guid => exact behind_inOrder h
  | setEqual src =>
      have hsrc : (all src).address.names = arranged (all src).allNames :=
        hall src
      show (traced.address.setEqual (all src).address).names =
        arranged ((all src).address.names ++ [])
      rw [DirectPlay8Address.setEqual_names, List.append_nil, hsrc,
        arranged_arranged]
  | clear => rfl

theorem run_inOrder (history : List (Nat × AddressRequest)) (index : Nat) :
    (run multiByteToWideChar history index).InOrder := by
  induction history using List.reverseRecOn generalizing index with
  | nil => exact new_inOrder
  | append_singleton history last ih =>
      rw [run, List.foldl_append]
      show (Function.update (run multiByteToWideChar history) last.1 _
        index).InOrder
      by_cases hsame : index = last.1
      · subst hsame
        rw [Function.update_self]
        exact after_inOrder ih (ih last.1) last.2
      · rw [Function.update_of_ne hsame]
        exact ih index

end TracedAddress

theorem find_of_nodup {address : DirectPlay8Address}
    (h : address.names.Nodup) {index : Nat} {c : Component}
    (hc : address.components[index]? = some c) :
    address.components.find? (·.name == c.name) = some c := by
  have hmem := List.mem_of_getElem? hc
  cases hfind : address.components.find? (·.name == c.name) with
  | none =>
      have hno := List.find?_eq_none.mp hfind c hmem
      simp at hno
  | some found =>
      have hname : found.name = c.name := by
        simpa using List.find?_some hfind
      have hsame := List.inj_on_of_nodup_map h (List.mem_of_find?_eq_some hfind)
        hmem hname
      rw [hsame]

/-- What holds of the components of an address, given the names added to it. -/
structure ComponentsOk (traced : TracedAddress) : Prop where
  distinct : traced.address.names.Nodup
  /-- The provider, if there is one, is the first component. -/
  provider : forall index, traced.address.names[index]? = some keyProvider ->
    index = 0
  /-- The others stand in the order in which they were first added. -/
  others : traced.address.names.filter (· ≠ keyProvider) =
    (firsts traced.allNames).filter (· ≠ keyProvider)
  number : traced.address.getNumComponents =
    UInt32.ofNat traced.allNames.toFinset.card
  /-- A component is reported alike by its name and by its index. -/
  reported : forall (index : DWORD) (c : Component) (hasName : Bool)
    (nameLen : DWORD) (hasBuffer : Bool) (bufferSize : DWORD),
    traced.address.components[index.toNat]? = some c ->
    c.name.length < nameLen.toNat -> hasName = true ->
    exists reported,
      traced.address.getComponentByName c.name hasBuffer bufferSize =
        some reported ∧
      traced.address.getComponentByIndex index hasName nameLen hasBuffer
        bufferSize =
        some ⟨reported, UInt32.ofNat (c.name.length + 1), some c.name⟩

theorem TracedAddress.InOrder.componentsOk {traced : TracedAddress}
    (h : traced.InOrder) : ComponentsOk traced where
  distinct := by
    rw [h]
    exact arranged_nodup _
  provider := by
    intro index hindex
    have hnodup : traced.address.names.Nodup := by
      rw [h]
      exact arranged_nodup _
    have hmem := List.mem_of_getElem? hindex
    have hfirst : traced.address.names[0]? = some keyProvider := by
      rw [h]
      rw [h] at hmem
      exact arranged_first hmem
    have hlt : index < traced.address.names.length :=
      (List.getElem?_eq_some_iff.mp hindex).1
    exact (List.getElem?_inj hlt hnodup).mp (hindex.trans hfirst.symm)
  others := by
    rw [h, arranged, List.filter_append, List.filter_filter, List.filter_filter]
    simp
  number := by
    have hcard : traced.address.names.toFinset = traced.allNames.toFinset := by
      ext name
      rw [List.mem_toFinset, List.mem_toFinset, h, mem_arranged]
    have hnodup : traced.address.names.Nodup := by
      rw [h]
      exact arranged_nodup _
    rw [← hcard, List.toFinset_card_of_nodup hnodup,
      DirectPlay8Address.getNumComponents, DirectPlay8Address.names,
      List.length_map]
  reported := by
    intro index c hasName nameLen hasBuffer bufferSize hc hlong hname
    have hnodup : traced.address.names.Nodup := by
      rw [h]
      exact arranged_nodup _
    refine ⟨c.getComponent hasBuffer bufferSize, ?_, ?_⟩
    · rw [DirectPlay8Address.getComponentByName, find_of_nodup hnodup hc]
      rfl
    · rw [DirectPlay8Address.getComponentByIndex, hc, Option.map_some,
        if_pos ⟨hlong, hname⟩]

/--
Whatever is asked of some addresses, their components are kept in order, and a
component that cannot be added changes nothing.
-/
theorem components_kept (multiByteToWideChar : Memory -> DWORD -> WString)
    (history : List (Nat × AddressRequest)) (index : Nat) :
    ComponentsOk (TracedAddress.run multiByteToWideChar history index) ∧
      forall (name : WString) (data : Memory) (dataSize dataType : DWORD)
        (result : HRESULT) (address : DirectPlay8Address),
        (TracedAddress.run multiByteToWideChar history
          index).address.addComponent multiByteToWideChar name data dataSize
          dataType = (result, address) ->
        result ≠ sOk ->
        address = (TracedAddress.run multiByteToWideChar history index).address := by
  constructor
  · exact (TracedAddress.run_inOrder history index).componentsOk
  · intro name data dataSize dataType result address hadd hresult
    have herror : ((TracedAddress.run multiByteToWideChar history
        index).address.addComponent multiByteToWideChar name data dataSize
        dataType).1 ≠ sOk := by
      rw [hadd]
      exact hresult
    rw [← DirectPlay8Address.addComponent_error herror, hadd]

/-- A device set before the provider, and a component of an unknown type. -/
theorem components_kept_unknown_type :
    ((TracedAddress.run (fun _ _ => [])
      [(0, .setDevice (Vector.replicate 16 1)),
        (0, .setSP (Vector.replicate 16 2))] 0).address.addComponent
          (fun _ _ => []) [97] (fun _ => 0) 4 9).2 =
      (TracedAddress.run (fun _ _ => [])
        [(0, .setDevice (Vector.replicate 16 1)),
          (0, .setSP (Vector.replicate 16 2))] 0).address :=
  (components_kept (fun _ _ => []) _ 0).2 [97] (fun _ => 0) 4 9 _ _ rfl
    (by decide)

end Runs

end DirectPlayLite
