import DirectPlayLite.Lib.Scanning
import DirectPlayLite.Address.Values
import DirectPlayLite.Peer.Procedures

/-!
# Addresses of hosts

The IP address and the port of a host are components of its address.  They are written
by `create_host_address`, and read by `Connect` and by the constructor of
`HostEnumerator`.
-/

namespace DirectPlayLite

open LittleEndian Scanning

def keyHostname : WString := "hostname".toList.map fun c => UInt16.ofNat c.toNat

def keyPort : WString := "port".toList.map fun c => UInt16.ofNat c.toNat

def discoveryPort : UInt16 := 6073

def htonl (x : UInt32) : UInt32 := word32 (bytes32 x).reverse

def inaddrBroadcast : UInt32 := 0xFFFFFFFF

/-- `inet_ntop` of an IPv4 address in network byte order. -/
def inetNtop (ip : UInt32) : List UInt8 :=
  let bytes := bytes32 ip
  dotted (bytes.getD 0 0) (bytes.getD 1 0) (bytes.getD 2 0) (bytes.getD 3 0)

/-- What an IPX address starts with: the network address, and two zero bytes. -/
def ipxPrefix : List UInt8 := "00000000,0000".toList.map fun c => UInt8.ofNat c.toNat

/-- The literal part of the format `Connect` scans. -/
def ipxFormat : WString := "00000000,0000".toList.map fun c => UInt16.ofNat c.toNat

namespace DirectPlay8Address

section Building

variable (multiByteToWideChar : Memory -> DWORD -> WString)

/-- The text of `hostname` in `create_host_address`. -/
def hostnameOf (serviceProvider : GUID) (sa : SockAddr) : List UInt8 :=
  if serviceProvider = clsidDP8SPTcpip then inetNtop sa.ip
  else ipxPrefix ++ printHex 8 (htonl sa.ip).toNat

def createHostAddress (serviceProvider : GUID) (sa : SockAddr) (beyond : Memory) :
    DirectPlay8Address :=
  let hostname := hostnameOf serviceProvider sa
  let address := (empty.setSP multiByteToWideChar serviceProvider).2
  let address := (address.addComponent multiByteToWideChar keyHostname
    (bufferOf (hostname ++ [0]) beyond) (UInt32.ofNat (hostname.length + 1))
    dpnaDatatypeStringAnsi).2
  (address.addComponent multiByteToWideChar keyPort
    (bufferOf (bytes32 sa.port.toUInt32) beyond) 4 dpnaDatatypeDword).2

end Building

/-- `GetComponentByName`, where it returns `S_OK`. -/
def found (address : DirectPlay8Address) (name : WString) (bufferSize : DWORD) :
    Option Reported :=
  (address.getComponentByName name true bufferSize).filter (·.result = sOk)

/-- `GetSP`, but for the code it returns when it fails. -/
def getSP (address : DirectPlay8Address) : Option GUID :=
  (address.found keyProvider 16).bind fun reported =>
    if reported.dataType = dpnaDatatypeGuid then
      reported.buffer.map fun bytes => Vector.ofFn fun i => bytes.getD i 0
    else none

end DirectPlay8Address

/-!
## Reading an address
-/

/-- The local buffer for the host name, with what is behind it in memory. -/
structure HostnameBuffer where
  before : WString
  beyond : WString
  size : before.length = 128

/-- The string that starts at the buffer once a component has been copied to it. -/
def HostnameBuffer.text (buffer : HostnameBuffer) (hostname : Reported) : WString :=
  let value := bytesToUnits (hostname.buffer.getD [])
  cString (value ++ buffer.before.drop value.length ++ buffer.beyond)

def checkedPort (port : Reported) : Except HRESULT UInt16 :=
  let portValue := word32 (port.buffer.getD [])
  if port.dataType ≠ dpnaDatatypeDword ∨ 65535 < portValue then
    .error dpnErrInvalidHostAddress
  else .ok portValue.toUInt16

section Reading

variable (inetPtonW : WString -> Option UInt32)

/-- The IP address in a host name, for one of the two service providers. -/
def hostnameIp (hostSp : GUID) (text : WString) : Option UInt32 :=
  if hostSp = clsidDP8SPTcpip then inetPtonW text
  else (scan ipxFormat 8 text).map htonl

def connectAddr (hostAddr : DirectPlay8Address) (buffer : HostnameBuffer) :
    Except HRESULT SockAddr :=
  match hostAddr.getSP with
  | none => .error dpnErrInvalidHostAddress
  | some hostSp =>
      match hostAddr.found keyHostname 256 with
      | none => .error dpnErrInvalidHostAddress
      | some hostname =>
          if hostname.dataType ≠ dpnaDatatypeString then .error dpnErrInvalidHostAddress
          else if hostSp ≠ clsidDP8SPTcpip ∧ hostSp ≠ clsidDP8SPIpx then
            .error dpnErrInvalidHostAddress
          else
            match hostnameIp inetPtonW hostSp (buffer.text hostname) with
            | none => .error dpnErrInvalidHostAddress
            | some ip =>
                match hostAddr.found keyPort 4 with
                | none => .error dpnErrInvalidHostAddress
                | some port => (checkedPort port).map fun port => ⟨ip, port⟩

/-- Where the constructor of `HostEnumerator` finds the IP address. -/
def HostEnumerator.sendIp (host : DirectPlay8Address) (hostSp : GUID)
    (buffer : HostnameBuffer) : Except HRESULT UInt32 :=
  match host.found keyHostname 256 with
  | none => .ok inaddrBroadcast
  | some hostname =>
      if hostname.dataType ≠ dpnaDatatypeString then .error dpnErrInvalidHostAddress
      else if hostSp ≠ clsidDP8SPTcpip ∧ hostSp ≠ clsidDP8SPIpx then .ok inaddrBroadcast
      else
        match hostnameIp inetPtonW hostSp (buffer.text hostname) with
        | none => .error dpnErrInvalidHostAddress
        | some ip => .ok ip

/-- The part of the constructor of `HostEnumerator` that reads the addresses. -/
def HostEnumerator.sendAddr (deviceInfo host : Option DirectPlay8Address)
    (buffer : HostnameBuffer) : Except HRESULT SockAddr :=
  match deviceInfo with
  | none => .error dpnErrInvalidParam
  | some deviceInfo =>
      match deviceInfo.getSP with
      | none => .error dpnErrInvalidDeviceAddress
      | some serviceProvider =>
          match host with
          | none => .ok ⟨inaddrBroadcast, discoveryPort⟩
          | some host =>
              match host.getSP with
              | none => .error dpnErrInvalidHostAddress
              | some hostSp =>
                  if hostSp ≠ serviceProvider then .error dpnErrInvalidParam
                  else
                    match sendIp inetPtonW host hostSp buffer with
                    | .error result => .error result
                    | .ok ip =>
                        match host.found keyPort 4 with
                        | none => .ok ⟨ip, discoveryPort⟩
                        | some port => (checkedPort port).map fun port => ⟨ip, port⟩

end Reading

/-!
## What the conversions are relied on for
-/

structure KeepsAscii (multiByteToWideChar : Memory -> DWORD -> WString) : Prop where
  kept : forall (bytes : List UInt8) (beyond : Memory), bytes.length < 2 ^ 32 ->
    (forall c, c ∈ bytes -> c < 128) ->
      multiByteToWideChar (bufferOf bytes beyond) (UInt32.ofNat bytes.length) =
        bytes.map widen

structure ReadsDotted (inetPtonW : WString -> Option UInt32) : Prop where
  reads : forall ip, inetPtonW ((inetNtop ip).map widen) = some ip

/-- `InetPtonW` reads nothing else, and the longest is `255.255.255.255`. -/
structure OnlyDotted (inetPtonW : WString -> Option UInt32) : Prop where
  only : forall text ip, inetPtonW text = some ip ->
    text.length ≤ 15 ∧ forall c, c ∈ text -> isDotted c = true

def asciiWide (data : Memory) (dataSize : DWORD) : WString :=
  (data.read 0 dataSize.toNat).map widen

def dottedIp (text : WString) : Option UInt32 :=
  (readDotted text).map fun (a, b, c, d) => word32 [a, b, c, d]

theorem Memory.read_bufferOf (bytes : List UInt8) (beyond : Memory) :
    (bufferOf bytes beyond).read 0 bytes.length = bytes := by
  apply List.ext_getElem (by simp)
  intro i hi _
  have hlt : i < bytes.length := by simpa using hi
  simp [Memory.read, bufferOf, hlt]

theorem asciiWide_keeps : KeepsAscii asciiWide where
  kept := by
    intro bytes beyond hlength _
    rw [asciiWide, UInt32.toNat_ofNat', Nat.mod_eq_of_lt hlength, Memory.read_bufferOf]

theorem dottedIp_reads : ReadsDotted dottedIp where
  reads := by
    intro ip
    rw [dottedIp, inetNtop, readDotted_dotted, Option.map_some]
    exact congrArg some (word32_bytes32 ip)

theorem dottedIp_only : OnlyDotted dottedIp where
  only := by
    intro text ip h
    rcases Option.map_eq_some_iff.mp h with ⟨numbers, hread, _⟩
    exact readDotted_some hread

/-!
## The address that is built
-/

theorem ipxPrefix_printable : forall c, c ∈ ipxPrefix -> Printable c := by
  have hall : (ipxPrefix.all fun c => Printable c) = true := by decide
  intro c hc
  exact of_decide_eq_true (List.all_eq_true.mp hall c hc)

theorem hostnameOf_printable {serviceProvider : GUID} {sa : SockAddr} {c : UInt8}
    (h : c ∈ DirectPlay8Address.hostnameOf serviceProvider sa) : Printable c := by
  unfold DirectPlay8Address.hostnameOf at h
  split at h
  · exact dotted_printable h
  · rcases List.mem_append.mp h with hprefix | hdigits
    · exact ipxPrefix_printable c hprefix
    · exact printHex_printable hdigits

theorem hostnameOf_length_le (serviceProvider : GUID) (sa : SockAddr) :
    (DirectPlay8Address.hostnameOf serviceProvider sa).length ≤ 21 := by
  unfold DirectPlay8Address.hostnameOf
  split
  · exact (dotted_length_le _ _ _ _).trans (by decide)
  · rw [List.length_append, printHex_length]
    decide

theorem ofFn_guidMemory (guid : GUID) :
    (Vector.ofFn fun i : Fin 16 => DirectPlay8Address.guidMemory guid i) = guid := by
  ext i hi
  simp [DirectPlay8Address.guidMemory]

section Building

variable {multiByteToWideChar : Memory -> DWORD -> WString}

theorem setSP_empty (serviceProvider : GUID) :
    (DirectPlay8Address.empty.setSP multiByteToWideChar serviceProvider).2 =
      { components := [⟨keyProvider, .guid serviceProvider⟩], userData := [] } := by
  have hnew : DirectPlay8Address.newComponent multiByteToWideChar
      (DirectPlay8Address.guidMemory serviceProvider) 16 dpnaDatatypeGuid =
        .ok (.guid serviceProvider) := by
    unfold DirectPlay8Address.newComponent
    rw [if_neg (by decide), if_neg (by decide), if_neg (by decide), if_pos rfl,
      if_neg (by decide), ofFn_guidMemory]
  rw [DirectPlay8Address.setSP, DirectPlay8Address.addComponent, hnew]
  rfl

theorem newComponent_hostname (hansi : KeepsAscii multiByteToWideChar)
    {hostname : List UInt8} (beyond : Memory)
    (hprintable : forall c, c ∈ hostname -> Printable c) (hlength : hostname.length ≤ 21) :
    DirectPlay8Address.newComponent multiByteToWideChar
        (bufferOf (hostname ++ [0]) beyond) (UInt32.ofNat (hostname.length + 1))
        dpnaDatatypeStringAnsi =
      .ok (.string (hostname.map widen ++ [0])) := by
  have hascii : forall c, c ∈ hostname ++ [0] -> c < 128 := by
    intro c hc
    rcases List.mem_append.mp hc with hname | hend
    · exact (hprintable c hname).1
    · rw [List.mem_singleton.mp hend]
      decide
  have hsize : (hostname ++ [0]).length < 2 ^ 32 := by
    rw [List.length_append, List.length_singleton]
    omega
  have hwide : multiByteToWideChar (bufferOf (hostname ++ [0]) beyond)
      (UInt32.ofNat (hostname.length + 1)) = hostname.map widen ++ [0] := by
    have hkept := hansi.kept (hostname ++ [0]) beyond hsize hascii
    rw [List.map_append, List.length_append] at hkept
    exact hkept
  have hcount : (UInt32.ofNat ((hostname.map widen ++ [0]).length * 2)).toNat / 2 =
      (hostname.map widen ++ [0]).length := by
    rw [UInt32.toNat_ofNat', Nat.mod_eq_of_lt]
    · omega
    · rw [List.length_append, List.length_map, List.length_singleton]
      omega
  unfold DirectPlay8Address.newComponent
  rw [if_neg (by decide), if_pos rfl]
  dsimp only
  rw [hwide, if_neg (by simp), hcount, List.take_length]

theorem createHostAddress_eq (hansi : KeepsAscii multiByteToWideChar)
    (serviceProvider : GUID) (sa : SockAddr) (beyond : Memory) :
    DirectPlay8Address.createHostAddress multiByteToWideChar serviceProvider sa beyond =
      { components :=
          [⟨keyProvider, .guid serviceProvider⟩,
            ⟨keyHostname, .string ((DirectPlay8Address.hostnameOf serviceProvider sa).map
              widen ++ [0])⟩,
            ⟨keyPort, .dword sa.port.toUInt32⟩]
        userData := [] } := by
  have hname := newComponent_hostname hansi beyond
    (fun c hc => hostnameOf_printable hc)
    (hostnameOf_length_le serviceProvider sa)
  have hport : DirectPlay8Address.newComponent multiByteToWideChar
      (bufferOf (bytes32 sa.port.toUInt32) beyond) 4 dpnaDatatypeDword =
        .ok (.dword sa.port.toUInt32) := by
    have hread : (bufferOf (bytes32 sa.port.toUInt32) beyond).read 0 4 =
        bytes32 sa.port.toUInt32 := Memory.read_bufferOf (bytes32 sa.port.toUInt32) beyond
    unfold DirectPlay8Address.newComponent
    rw [if_neg (by decide), if_neg (by decide), if_pos rfl, if_neg (by decide), hread,
      word32_bytes32]
  rw [DirectPlay8Address.createHostAddress]
  simp only [setSP_empty, DirectPlay8Address.addComponent, hname, hport]
  rfl

end Building

/-!
## What is found in an address
-/

def DirectPlay8Address.valueOf (address : DirectPlay8Address) (name : WString) :
    Option ComponentValue :=
  (address.components.find? (·.name == name)).map Component.value

section Finding

variable {address : DirectPlay8Address} {name : WString} {bufferSize : DWORD}

def reportOf (value : ComponentValue) : Reported where
  result := sOk
  bufferSize := UInt32.ofNat value.size
  dataType := value.dataType
  buffer := some value.bytes

theorem found_eq_some {reported : Reported} :
    address.found name bufferSize = some reported ↔
      exists value, address.valueOf name = some value ∧
        value.size ≤ bufferSize.toNat ∧ reported = reportOf value := by
  rw [DirectPlay8Address.found, DirectPlay8Address.getComponentByName,
    DirectPlay8Address.valueOf]
  cases address.components.find? (·.name == name) with
  | none => simp
  | some c =>
      by_cases hsize : c.value.size ≤ bufferSize.toNat
      · simp [Component.getComponent, hsize, Option.filter, reportOf, eq_comm]
      · have hsmall : dpnErrBufferTooSmall ≠ sOk := by decide
        simp [Component.getComponent, hsize, Option.filter, hsmall]

theorem found_of_valueOf (bufferSize : DWORD) {value : ComponentValue}
    (h : address.valueOf name = some value)
    (hsize : value.size ≤ bufferSize.toNat) :
    address.found name bufferSize = some (reportOf value) :=
  found_eq_some.mpr ⟨value, h, hsize, rfl⟩

theorem getSP_of_valueOf {serviceProvider : GUID}
    (h : address.valueOf keyProvider = some (.guid serviceProvider)) :
    address.getSP = some serviceProvider := by
  have hguid : (Vector.ofFn fun i : Fin 16 => serviceProvider.toList.getD i 0) =
      serviceProvider := ofFn_guidMemory serviceProvider
  have hfound := found_of_valueOf 16 h (Nat.le_refl 16)
  have htype : (reportOf (.guid serviceProvider)).dataType = dpnaDatatypeGuid := rfl
  rw [DirectPlay8Address.getSP, hfound, Option.bind_some, if_pos htype]
  exact congrArg some hguid

end Finding

/-!
## What is in the buffer
-/

theorem zero_not_mem_cString (s : WString) : 0 ∉ cString s := by
  intro h
  have hne := List.mem_takeWhile_imp h
  cases hne

theorem wcsncpy_eq (value : WString) :
    wcsncpy value =
      cString value ++ List.replicate (value.length - (cString value).length) 0 := rfl

section Buffers

variable (buffer : HostnameBuffer) {value : WString}

theorem text_eq :
    buffer.text (reportOf (.string value)) =
      cString (wcsncpy value ++ (buffer.before.drop value.length ++ buffer.beyond)) := by
  have hunits : bytesToUnits (((reportOf (.string value)).buffer).getD []) =
      wcsncpy value := bytesToUnits_unitsToBytes (wcsncpy value)
  rw [HostnameBuffer.text, hunits, wcsncpy_length, List.append_assoc]

theorem text_of_mem (h : 0 ∈ value) :
    buffer.text (reportOf (.string value)) = cString value := by
  have hlt : (cString value).length < value.length := by
    have hle : (cString value).length ≤ value.length :=
      (List.takeWhile_sublist _).length_le
    apply Nat.lt_of_le_of_ne hle
    intro heq
    have hsame : cString value = value :=
      (List.takeWhile_prefix _).eq_of_length heq
    rw [← hsame] at h
    exact zero_not_mem_cString value h
  obtain ⟨k, hk⟩ : exists k, value.length - (cString value).length = k + 1 :=
    ⟨value.length - (cString value).length - 1, by omega⟩
  rw [text_eq, wcsncpy_eq, hk, List.replicate_succ, List.append_assoc, List.cons_append,
    cString_append_zero (zero_not_mem_cString value)]

theorem text_of_not_mem (h : 0 ∉ value) :
    buffer.text (reportOf (.string value)) =
      value ++ cString (buffer.before.drop value.length ++ buffer.beyond) := by
  rw [text_eq, wcsncpy_eq, cString_eq_self h, Nat.sub_self, List.replicate_zero,
    List.append_nil, cString_append h]

end Buffers

/-!
## Connecting back
-/

theorem htonl_htonl (x : UInt32) : htonl (htonl x) = x := by
  have hlength : (bytes32 x).reverse.length = 4 := by
    rw [List.length_reverse, bytes32_length]
  rw [htonl, htonl, bytes32_word32 hlength, List.reverse_reverse, word32_bytes32]

theorem hostnameIp_hostnameOf {inetPtonW : WString -> Option UInt32}
    (hread : ReadsDotted inetPtonW) (serviceProvider : GUID) (sa : SockAddr) :
    hostnameIp inetPtonW serviceProvider
      ((DirectPlay8Address.hostnameOf serviceProvider sa).map widen) = some sa.ip := by
  unfold hostnameIp DirectPlay8Address.hostnameOf
  split
  · exact hread.reads sa.ip
  · have hformat : ipxPrefix.map widen = ipxFormat := by decide
    have hscan := scan_printHex ipxFormat [] (w := 8) (by decide) (htonl sa.ip).toNat
    have hlt : (htonl sa.ip).toNat < 16 ^ 8 := (htonl sa.ip).toNat_lt
    rw [List.append_nil, Nat.mod_eq_of_lt hlt, UInt32.ofNat_toNat] at hscan
    rw [List.map_append, hformat, hscan, Option.map_some, htonl_htonl]

theorem checkedPort_reportOf (port : UInt16) :
    checkedPort (reportOf (.dword port.toUInt32)) = .ok port := by
  have hport : word32 (((reportOf (.dword port.toUInt32)).buffer).getD []) =
      port.toUInt32 := word32_bytes32 port.toUInt32
  have hle : ¬65535 < port.toUInt32 := by
    rw [UInt32.lt_iff_toNat_lt, UInt16.toNat_toUInt32]
    exact Nat.not_lt.mpr (Nat.le_of_lt_succ port.toNat_lt)
  have htype : ¬(reportOf (.dword port.toUInt32)).dataType ≠ dpnaDatatypeDword :=
    not_not.mpr rfl
  rw [checkedPort, hport, if_neg (not_or.mpr ⟨htype, hle⟩)]
  simp

/--
Both readers find the IP address and the port that an address of a host was built
of, whatever is in memory.
-/
theorem createHostAddress_parsed {multiByteToWideChar : Memory -> DWORD -> WString}
    {inetPtonW : WString -> Option UInt32} (hansi : KeepsAscii multiByteToWideChar)
    (hread : ReadsDotted inetPtonW) {serviceProvider : GUID}
    (hsp : serviceProvider = clsidDP8SPTcpip ∨ serviceProvider = clsidDP8SPIpx)
    (sa : SockAddr) (beyond : Memory) (buffer : HostnameBuffer)
    {deviceInfo : DirectPlay8Address} (hdevice : deviceInfo.getSP = some serviceProvider) :
    let address :=
      DirectPlay8Address.createHostAddress multiByteToWideChar serviceProvider sa beyond
    connectAddr inetPtonW address buffer = .ok sa ∧
      HostEnumerator.sendAddr inetPtonW (some deviceInfo) (some address) buffer =
        .ok sa := by
  dsimp only
  rw [createHostAddress_eq hansi]
  generalize haddress : DirectPlay8Address.mk _ _ = address
  have hname : address.valueOf keyHostname =
      some (.string ((DirectPlay8Address.hostnameOf serviceProvider sa).map widen ++
        [0])) := by
    rw [← haddress]
    rfl
  have hport : address.valueOf keyPort = some (.dword sa.port.toUInt32) := by
    rw [← haddress]
    rfl
  have hgetSP : address.getSP = some serviceProvider := by
    apply getSP_of_valueOf
    rw [← haddress]
    rfl
  have hsize : (ComponentValue.string ((DirectPlay8Address.hostnameOf serviceProvider
      sa).map widen ++ [0])).size ≤ (256 : DWORD).toNat := by
    have hle := hostnameOf_length_le serviceProvider sa
    show 2 * _ ≤ 256
    rw [List.length_append, List.length_map, List.length_singleton]
    omega
  have hzero : 0 ∉ (DirectPlay8Address.hostnameOf serviceProvider sa).map widen :=
    zero_not_mem_widen fun c hc => hostnameOf_printable hc
  have htext : buffer.text (reportOf (.string
      ((DirectPlay8Address.hostnameOf serviceProvider sa).map widen ++ [0]))) =
        (DirectPlay8Address.hostnameOf serviceProvider sa).map widen := by
    rw [text_of_mem buffer (by simp), cString_append_zero hzero]
  have hfoundName := found_of_valueOf _ hname hsize
  have hfoundPort := found_of_valueOf 4 hport (Nat.le_refl 4)
  have hip := hostnameIp_hostnameOf hread serviceProvider sa
  have hknown : ¬(serviceProvider ≠ clsidDP8SPTcpip ∧
      serviceProvider ≠ clsidDP8SPIpx) := by
    intro hneither
    rcases hsp with htcp | hipx
    · exact hneither.1 htcp
    · exact hneither.2 hipx
  have htype : forall value, (reportOf (.string value)).dataType = dpnaDatatypeString :=
    fun _ => rfl
  constructor
  · simp [connectAddr, hgetSP, hfoundName, htype, hknown, htext, hip, hfoundPort,
      checkedPort_reportOf, Except.map]
  · simp [HostEnumerator.sendAddr, HostEnumerator.sendIp, hdevice, hgetSP, hfoundName,
      htype, hknown, htext, hip, hfoundPort, checkedPort_reportOf, Except.map]

def deviceOf (serviceProvider : GUID) : DirectPlay8Address where
  components := [⟨keyProvider, .guid serviceProvider⟩]
  userData := []

def bufferFull (c : UInt16) : HostnameBuffer where
  before := List.replicate 128 c
  beyond := [c]
  size := List.length_replicate

/-- `127.0.0.1` as an address of the IPX service provider. -/
theorem createHostAddress_parsed_ipx :
    let address := DirectPlay8Address.createHostAddress asciiWide clsidDP8SPIpx
      ⟨0x0100007f, 2309⟩ (fun _ => 0)
    connectAddr dottedIp address (bufferFull 49) = .ok ⟨0x0100007f, 2309⟩ ∧
      HostEnumerator.sendAddr dottedIp (some (deviceOf clsidDP8SPIpx)) (some address)
        (bufferFull 49) = .ok ⟨0x0100007f, 2309⟩ :=
  createHostAddress_parsed asciiWide_keeps dottedIp_reads (Or.inr rfl) _ _ _
    (getSP_of_valueOf rfl)

end DirectPlayLite
