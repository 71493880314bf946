import DirectPlayLite.Packet.Deserialiser
import DirectPlayLite.Peer.Codes

/-!
# Addresses

A `DirectPlay8Address` is a vector of named components.  A component is replaced
where it stands; a new one goes to the end, and the provider to the front.
-/

namespace DirectPlayLite

open LittleEndian

def dpnErrBufferTooSmall : HRESULT := makeDPNHRESULT 0x100
def dpnErrDoesNotExist : HRESULT := makeDPNHRESULT 0x180

def dpnaDatatypeString : DWORD := 1
def dpnaDatatypeDword : DWORD := 2
def dpnaDatatypeGuid : DWORD := 3
def dpnaDatatypeStringAnsi : DWORD := 5

def keyProvider : WString := "provider".toList.map fun c => UInt16.ofNat c.toNat

def keyDevice : WString := "device".toList.map fun c => UInt16.ofNat c.toNat

/-!
## Components
-/

inductive ComponentValue where
  | string (value : WString)
  | dword (value : DWORD)
  | guid (value : GUID)
deriving DecidableEq

structure Component where
  name : WString
  value : ComponentValue
deriving DecidableEq

/-- What a `get_component` returns and writes to where its arguments point. -/
structure Reported where
  result : HRESULT
  bufferSize : DWORD
  dataType : DWORD
  buffer : Option (List UInt8)
deriving DecidableEq

/-- `wcsncpy`: stops at a terminator and fills up with zeros. -/
def wcsncpy (value : WString) : WString :=
  value.takeWhile (· != 0) ++
    List.replicate (value.length - (value.takeWhile (· != 0)).length) 0

namespace ComponentValue

def dataType : ComponentValue -> DWORD
  | string _ => dpnaDatatypeString
  | dword _ => dpnaDatatypeDword
  | guid _ => dpnaDatatypeGuid

def bytes : ComponentValue -> List UInt8
  | string value => unitsToBytes (wcsncpy value)
  | dword value => bytes32 value
  | guid value => value.toList

def size : ComponentValue -> Nat
  | string value => 2 * value.length
  | dword _ => 4
  | guid _ => 16

/-- `clone`, which passes a number of characters where one of bytes is meant. -/
def clone : ComponentValue -> ComponentValue
  | string value => string (value.take ((UInt32.ofNat value.length).toNat / 2))
  | dword value => dword value
  | guid value => guid value

end ComponentValue

namespace Component

def clone (c : Component) : Component := { c with value := c.value.clone }

def getComponent (c : Component) (hasBuffer : Bool) (bufferSize : DWORD) :
    Reported :=
  { result :=
      if c.value.size ≤ bufferSize.toNat ∧ hasBuffer then sOk
      else dpnErrBufferTooSmall
    bufferSize := UInt32.ofNat c.value.size
    dataType := c.value.dataType
    buffer :=
      if c.value.size ≤ bufferSize.toNat ∧ hasBuffer then some c.value.bytes
      else none }

end Component

/-!
## Addresses
-/

structure DirectPlay8Address where
  components : List Component
  userData : List UInt8
deriving DecidableEq

namespace DirectPlay8Address

def empty : DirectPlay8Address := { components := [], userData := [] }

def clear (_ : DirectPlay8Address) : DirectPlay8Address := empty

def setEqual (_ src : DirectPlay8Address) : DirectPlay8Address :=
  { components := src.components.map Component.clone, userData := src.userData }

def getNumComponents (address : DirectPlay8Address) : DWORD :=
  UInt32.ofNat address.components.length

def getComponentByName (address : DirectPlay8Address) (name : WString)
    (hasBuffer : Bool) (bufferSize : DWORD) : Option Reported :=
  (address.components.find? (·.name == name)).map
    (·.getComponent hasBuffer bufferSize)

structure ReportedByIndex where
  reported : Reported
  nameLen : DWORD
  name : Option WString
deriving DecidableEq

def getComponentByIndex (address : DirectPlay8Address) (index : DWORD)
    (hasName : Bool) (nameLen : DWORD) (hasBuffer : Bool) (bufferSize : DWORD) :
    Option ReportedByIndex :=
  (address.components[index.toNat]?).map fun c =>
    let reported := c.getComponent hasBuffer bufferSize
    if c.name.length < nameLen.toNat ∧ hasName then
      { reported, nameLen := UInt32.ofNat (c.name.length + 1), name := some c.name }
    else
      { reported := { reported with result := dpnErrBufferTooSmall }
        nameLen := UInt32.ofNat (c.name.length + 1), name := none }

section Adding

-- `MultiByteToWideChar` with `CP_ACP`; nothing is converted when it fails
variable (multiByteToWideChar : Memory -> DWORD -> WString)

def newComponent (data : Memory) (dataSize dataType : DWORD) :
    Except HRESULT ComponentValue :=
  if dataType = dpnaDatatypeString then
    .ok (.string (bytesToUnits (data.read 0 (2 * (dataSize.toNat / 2)))))
  else if dataType = dpnaDatatypeStringAnsi then
    let wide := multiByteToWideChar data dataSize
    if wide.length = 0 then .error dpnErrInvalidParam
    else .ok (.string (wide.take ((UInt32.ofNat (wide.length * 2)).toNat / 2)))
  else if dataType = dpnaDatatypeDword then
    if dataSize ≠ 4 then .error dpnErrInvalidParam
    else .ok (.dword (word32 (data.read 0 4)))
  else if dataType = dpnaDatatypeGuid then
    if dataSize ≠ 16 then .error dpnErrInvalidParam
    else .ok (.guid (Vector.ofFn fun i => data i.val))
  else .error eNotImpl

/-- Put a component where one of its name stands, or to the front or the end. -/
def place (components : List Component) (c : Component) : List Component :=
  if components.any (·.name == c.name) then
    let before := components.takeWhile (·.name != c.name)
    before ++ c :: components.drop (before.length + 1)
  else if c.name = keyProvider then c :: components
  else components ++ [c]

def addComponent (address : DirectPlay8Address) (name : WString) (data : Memory)
    (dataSize dataType : DWORD) : HRESULT × DirectPlay8Address :=
  match newComponent multiByteToWideChar data dataSize dataType with
  | .error result => (result, address)
  | .ok value =>
      (sOk, { address with
        components := place address.components { name, value } })

/-- The bytes of a GUID, as the interface functions pass them on. -/
def guidMemory (guid : GUID) : Memory := fun i => guid.toList.getD i 0

def setSP (address : DirectPlay8Address) (guid : GUID) :
    HRESULT × DirectPlay8Address :=
  addComponent multiByteToWideChar address keyProvider (guidMemory guid) 16
    dpnaDatatypeGuid

def setDevice (address : DirectPlay8Address) (guid : GUID) :
    HRESULT × DirectPlay8Address :=
  addComponent multiByteToWideChar address keyDevice (guidMemory guid) 16
    dpnaDatatypeGuid

end Adding

/-!
## Names
-/

def names (address : DirectPlay8Address) : List WString :=
  address.components.map Component.name

def putName (names : List WString) (name : WString) : List WString :=
  if name ∈ names then names
  else if name = keyProvider then name :: names
  else names ++ [name]

theorem place_names (components : List Component) (c : Component) :
    (place components c).map Component.name =
      putName (components.map Component.name) c.name := by
  have hany : components.any (·.name == c.name) = true ↔
      c.name ∈ components.map Component.name := by
    simp [List.any_eq_true, List.mem_map]
  rw [place, putName]
  split
  · rename_i hthere
    rw [if_pos (hany.mp hthere)]
    clear hany
    induction components with
    | nil => cases hthere
    | cons first rest ih =>
        by_cases hname : first.name = c.name
        · simp [hname]
        · have hrest : rest.any (·.name == c.name) = true := by
            simpa [hname] using hthere
          simpa [List.takeWhile_cons, hname] using ih hrest
  · rename_i hnew
    rw [if_neg (mt hany.mpr hnew)]
    split
    · rfl
    · rw [List.map_append]
      rfl

theorem setEqual_names (address src : DirectPlay8Address) :
    (address.setEqual src).names = src.names := by
  simp [names, setEqual, Component.clone, Function.comp_def]

theorem addComponent_error {multiByteToWideChar : Memory -> DWORD -> WString}
    {address : DirectPlay8Address} {name : WString} {data : Memory}
    {dataSize dataType : DWORD}
    (h : (address.addComponent multiByteToWideChar name data dataSize
      dataType).1 ≠ sOk) :
    (address.addComponent multiByteToWideChar name data dataSize
      dataType).2 = address := by
  unfold addComponent at h ⊢
  split
  · rfl
  · rename_i hnew
    rw [hnew] at h
    exact absurd rfl h

theorem newComponent_error {multiByteToWideChar : Memory -> DWORD -> WString}
    {data : Memory} {dataSize dataType : DWORD} {result : HRESULT}
    (h : newComponent multiByteToWideChar data dataSize dataType =
      .error result) : result ≠ sOk := by
  unfold newComponent at h
  dsimp only at h
  repeat' split at h
  all_goals cases h
  all_goals decide

theorem addComponent_names {multiByteToWideChar : Memory -> DWORD -> WString}
    {address : DirectPlay8Address} {name : WString} {data : Memory}
    {dataSize dataType : DWORD}
    (h : (address.addComponent multiByteToWideChar name data dataSize
      dataType).1 = sOk) :
    (address.addComponent multiByteToWideChar name data dataSize
      dataType).2.names = putName address.names name := by
  unfold addComponent at h ⊢
  split
  · rename_i result hnew
    rw [hnew] at h
    exact absurd h (newComponent_error hnew)
  · exact place_names _ _

end DirectPlay8Address

end DirectPlayLite
