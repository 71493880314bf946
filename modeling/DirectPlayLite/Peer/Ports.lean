import Mathlib.Data.List.Chain
import DirectPlayLite.Address.Hosts
import DirectPlayLite.Peer.Failing

/-!
# The port of a host

`Host` is given device addresses with 32-bit ports and keeps the port they name in a
16-bit variable, which is zero as long as there is none.
-/

namespace DirectPlayLite

open Monitor Program LittleEndian

namespace DirectPlay8Address

def devicePort (address : DirectPlay8Address) : Option DWORD :=
  (address.found keyPort 4).bind fun reported =>
    if reported.dataType = dpnaDatatypeDword then
      reported.buffer.map word32
    else none

def deviceInfo (address : DirectPlay8Address) : DeviceInfo :=
  ⟨address.getSP, address.devicePort⟩

end DirectPlay8Address

def devicePorts (devices : List DeviceInfo) : List DWORD :=
  devices.filterMap DeviceInfo.port

/-!
## Lists of addresses `Host` accepts
-/

def IsSupported (sp : GUID) : Prop := sp = clsidDP8SPTcpip ∨ sp = clsidDP8SPIpx

/-- All addresses have one supported service provider, if any behind the first. -/
def Provides (sp : GUID) (devices : List DeviceInfo) : Prop :=
  exists used, IsSupported used ∧ (sp = guidNull ∨ sp = used) ∧
    forall device, device ∈ devices -> device.serviceProvider = some used

/-- A port that is not zero in 16 bits is followed by what these are. -/
def LeadsOn (port next : DWORD) : Prop :=
  port.toUInt16 = 0 ∨ port.toUInt16.toUInt32 = next

/-- Every port lets `Host` go on to the one behind it. -/
abbrev Chained (ports : List DWORD) : Prop := ports.IsChain LeadsOn

/-- What `Host` can accept is no port above 65535. -/
def PortsFit (devices : List DeviceInfo) : Prop :=
  Provides guidNull devices -> Chained (devicePorts devices) ->
    forall port, port ∈ devicePorts devices -> port ≤ 65535

section Devices

variable {sp sp' : GUID} {port port' : UInt16} {device : DeviceInfo}
  {devices : List DeviceInfo}

theorem IsSupported.ne_null (h : IsSupported sp) : sp ≠ guidNull := by
  rcases h with rfl | rfl
  · decide
  · decide

theorem provides_cons {thisSp : GUID} (hthis : device.serviceProvider = some thisSp) :
    Provides sp (device :: devices) ↔
      (sp = guidNull ∨ thisSp = sp) ∧ IsSupported thisSp ∧ Provides thisSp devices := by
  constructor
  · intro h
    rcases h with ⟨used, hused, hcome, hall⟩
    have hhead := hall device List.mem_cons_self
    rw [hthis] at hhead
    cases hhead
    exact ⟨hcome.imp_right Eq.symm, hused, thisSp, hused, Or.inr rfl,
      fun other hother => hall other (List.mem_cons_of_mem _ hother)⟩
  · intro h
    rcases h with ⟨hcome, hsupported, used, _, hnull | hsame, hall⟩
    · exact absurd hnull hsupported.ne_null
    · subst hsame
      refine ⟨thisSp, hsupported, hcome.imp_right Eq.symm, ?_⟩
      intro other hother
      rcases List.mem_cons.mp hother with rfl | hrest
      · exact hthis
      · exact hall other hrest

theorem devicePorts_cons : devicePorts (device :: devices) =
    device.port.toList ++ devicePorts devices := by
  rw [devicePorts, List.filterMap_cons]
  cases device.port <;> rfl

theorem leadsOn_iff {next : DWORD} :
    LeadsOn port.toUInt32 next ↔ port = 0 ∨ port.toUInt32 = next := by
  rw [LeadsOn, UInt16.toUInt16_toUInt32]

theorem toUInt32_toUInt16 {next : DWORD} (h : next ≤ 65535) :
    next.toUInt16.toUInt32 = next := by
  have hle : next.toNat ≤ 65535 := h
  apply UInt32.toNat_inj.mp
  rw [UInt16.toNat_toUInt32, UInt32.toNat_toUInt16]
  exact Nat.mod_eq_of_lt (Nat.lt_succ_of_le hle)

theorem chained_toUInt16 {next : DWORD} {ports : List DWORD} :
    Chained (next.toUInt16.toUInt32 :: ports) ↔ Chained (next :: ports) := by
  cases ports with
  | nil => simp only [Chained, List.isChain_singleton]
  | cons head rest =>
      simp only [Chained, List.isChain_cons_cons, LeadsOn, UInt16.toUInt16_toUInt32]

theorem readDevices_ok (hsp : sp = guidNull ∨ IsSupported sp) :
    (exists accepted, Action.readDevices sp port devices = .ok accepted) ↔
      Provides sp devices ∧ Chained (port.toUInt32 :: devicePorts devices) := by
  fun_induction Action.readDevices sp port devices with
  | case1 sp port =>
      have hprovides : Provides sp [] := by
        rcases hsp with rfl | hsupported
        · exact ⟨clsidDP8SPTcpip, Or.inl rfl, Or.inl rfl, by simp⟩
        · exact ⟨sp, hsupported, Or.inr rfl, by simp⟩
      exact ⟨fun _ => ⟨hprovides, List.isChain_singleton _⟩, fun _ => ⟨_, rfl⟩⟩
  | case2 sp port device rest hnone =>
      constructor
      · simp
      · intro h
        rcases h.1 with ⟨used, _, _, hall⟩
        have hhead := hall device List.mem_cons_self
        rw [hnone] at hhead
        cases hhead
  | case3 sp port device rest thisSp hthis hother =>
      rw [provides_cons hthis]
      constructor
      · simp
      · intro h
        exact absurd (h.1.1.resolve_left hother.1) hother.2
  | case4 sp port device rest thisSp hthis hcome hunsupported =>
      rw [provides_cons hthis]
      constructor
      · simp
      · intro h
        exact absurd h.1.2.1 (not_or.mpr hunsupported)
  | case5 sp port device rest thisSp hthis hcome hsupported hnone ih =>
      have hused : IsSupported thisSp := or_iff_not_and_not.mpr hsupported
      rw [ih (Or.inr hused), provides_cons hthis, devicePorts_cons, hnone]
      simp only [or_iff_not_and_not.mpr hcome, hused, true_and, Option.toList, List.nil_append]
  | case6 sp port device rest thisSp hthis hcome hsupported next hnext hother =>
      rw [devicePorts_cons, hnext]
      constructor
      · simp
      · intro h
        have hleads := leadsOn_iff.mp (List.isChain_cons_cons.mp h.2).1
        exact absurd (hleads.resolve_left hother.1) hother.2
  | case7 sp port device rest thisSp hthis hcome hsupported next hnext hsame ih =>
      have hused : IsSupported thisSp := or_iff_not_and_not.mpr hsupported
      have hleads : LeadsOn port.toUInt32 next := leadsOn_iff.mpr (or_iff_not_and_not.mpr hsame)
      rw [ih (Or.inr hused), provides_cons hthis, devicePorts_cons, hnext,
        chained_toUInt16]
      simp only [or_iff_not_and_not.mpr hcome, hused, hleads, true_and, Option.toList,
        List.singleton_append, Chained, List.isChain_cons_cons]

theorem readDevices_port (h : Action.readDevices sp port devices = .ok (sp', port'))
    (hfit : forall next, next ∈ devicePorts devices -> next ≤ 65535) :
    (port ≠ 0 -> port' = port) ∧
      forall next, next ∈ devicePorts devices -> next ≠ 0 -> port'.toUInt32 = next := by
  fun_induction Action.readDevices sp port devices with
  | case1 sp port =>
      cases h
      exact ⟨fun _ => rfl, by intro _ h; cases h⟩
  | case5 sp port device rest thisSp hthis hcome hsupported hnone ih =>
      rw [devicePorts_cons, hnone] at hfit ⊢
      exact ih h hfit
  | case7 sp port device rest thisSp hthis hcome hsupported next hnext hsame ih =>
      rw [devicePorts_cons, hnext] at hfit ⊢
      have hkept : next.toUInt16.toUInt32 = next :=
        toUInt32_toUInt16 (hfit next List.mem_cons_self)
      rcases ih h fun other hother => hfit other (List.mem_cons_of_mem _ hother) with
        ⟨hstays, hrest⟩
      have hbehind : next ≠ 0 -> port'.toUInt32 = next := by
        intro hnonzero
        rw [hstays, hkept]
        intro hzero
        rw [hzero] at hkept
        exact hnonzero hkept.symm
      constructor
      · intro hport
        have hsame : port.toUInt32 = next := (or_iff_not_and_not.mpr hsame).resolve_left hport
        rw [← hsame, UInt16.toUInt16_toUInt32] at hstays
        exact hstays hport
      · intro other hother hnonzero
        rcases List.mem_cons.mp hother with rfl | hlater
        · exact hbehind hnonzero
        · exact hrest other hlater hnonzero
  | _ => cases h

theorem readDevices_single {single : DWORD} (hport : port = 0 ∨ port.toUInt32 = single)
    (hsingle : single ≤ 65535)
    (hall : forall next, next ∈ devicePorts devices -> next = single) :
    Action.readDevices sp port devices ≠ .error dpnErrInvalidParam := by
  fun_induction Action.readDevices sp port devices with
  | case1 | case2 | case3 | case4 =>
      intro h
      cases h
  | case5 sp port device rest thisSp hthis hcome hsupported hnone ih =>
      rw [devicePorts_cons, hnone] at hall
      exact ih hport hall
  | case6 sp port device rest thisSp hthis hcome hsupported next hnext hother =>
      rw [devicePorts_cons, hnext] at hall
      have hnext : next = single := hall next List.mem_cons_self
      rw [hnext] at hother
      exact absurd (hport.resolve_left hother.1) hother.2
  | case7 sp port device rest thisSp hthis hcome hsupported next hnext hsame ih =>
      rw [devicePorts_cons, hnext] at hall
      have hnext : next = single := hall next List.mem_cons_self
      rw [hnext] at ih ⊢
      exact ih (Or.inr (toUInt32_toUInt16 hsingle))
        fun other hother => hall other (List.mem_cons_of_mem _ hother)

theorem readDevices_ne_sOk : Action.readDevices sp port devices ≠ .error sOk := by
  fun_induction Action.readDevices sp port devices with
  | case5 | case7 => assumption
  | _ =>
      intro h
      cases h

end Devices

/-!
## Sockets that are bound
-/

def Query.binds : Query -> Option (MainSocket × UInt16)
  | .createUdpSocket _ port => some (.udp, port)
  | .createListenerSocket _ port => some (.listener, port)
  | _ => none

/-- What the thread has tried to bind, latest first, and whether it has been bound. -/
def Deeds.bindings (past : Deeds) : List (MainSocket × UInt16 × Bool) :=
  past.answers.filterMap fun entry =>
    entry.1.binds.map fun (which, port) => (which, port, entry.2.ret != -1)

/-- Both sockets have been bound to the port, and nothing else has been tried. -/
def Deeds.BindsTo (port : UInt16) (past : Deeds) : Prop :=
  past.bindings = [(.listener, port, true), (.udp, port, true)]

/-- `Host` refuses the call for something that is not in its addresses. -/
def Refused (appDesc : ApplicationDesc) (devices : List DeviceInfo) (past : Deeds) :
    Prop :=
  appDesc.sizeOk = false ∨ hasFlag appDesc.flags dpnSessionClientServer ∨ devices = [] ∨
    exists answer, (Query.coCreateGuid, answer) ∈ past.answers ∧
      answer.result = dpnErrInvalidParam

/-- What a call of `Host` makes of the ports of its addresses. -/
structure HostsOnPorts (appDesc : ApplicationDesc) (devices : List DeviceInfo)
    (past : Deeds) : Prop where
  bound : (Method.host, sOk) ∈ past.returned -> forall port,
    port ∈ devicePorts devices -> port ≠ 0 ->
      exists bound : UInt16, bound.toUInt32 = port ∧ past.BindsTo bound
  /-- A port that is named alone is not refused for being several. -/
  single : forall port, port ≤ 65535 ->
    (forall next, next ∈ devicePorts devices -> next = port) ->
    (Method.host, dpnErrInvalidParam) ∈ past.returned -> Refused appDesc devices past

structure Going (bindings : List (MainSocket × UInt16 × Bool)) (past : Deeds) : Prop where
  running : past.returned = []
  bindings : past.bindings = bindings

section Hosting

variable {E : Around} {specs : Specs DirectPlay8Peer Command Query Answer Proc Fault}
  {p : Proc} {s : DirectPlay8Peer} {past : Deeds}
  {bindings : List (MainSocket × UInt16 × Bool)} {appDesc : ApplicationDesc}
  {devices : List DeviceInfo} {port : UInt16}

theorem Going.answer {query : Query} {answer : Answer} (h : Going bindings past)
    (hquery : query.binds = none) :
    Going bindings ((s, .answer p query answer) :: past) := by
  constructor
  · exact h.running
  · rw [← h.bindings]
    simp only [Deeds.bindings, Deeds.answers, List.filterMap_cons, hquery, Option.map_none]

theorem Going.error {result : HRESULT} (h : Going bindings past) (hresult : result ≠ sOk)
    (hrefused : result = dpnErrInvalidParam ->
      (forall port, port ≤ 65535 ->
        ¬ forall next, next ∈ devicePorts devices -> next = port) ∨
      Refused appDesc devices past) :
    HostsOnPorts appDesc devices ((s, .exec p (.log (.returned .host result))) :: past) := by
  have hreturned : Deeds.returned ((s, .exec p (.log (.returned .host result))) :: past) =
      (.host, result) :: past.returned := rfl
  constructor
  · intro hok
    rw [hreturned, h.running, List.mem_singleton] at hok
    cases hok
    exact absurd rfl hresult
  · intro port hport hall hinvalid
    rw [hreturned, h.running, List.mem_singleton] at hinvalid
    cases hinvalid
    exact (hrefused rfl).resolve_left fun hseveral => hseveral port hport hall

theorem Going.ok (h : Going bindings past)
    (hbound : forall next, next ∈ devicePorts devices -> next ≠ 0 ->
      exists bound : UInt16, bound.toUInt32 = next ∧
        bindings = [(.listener, bound, true), (.udp, bound, true)]) :
    HostsOnPorts appDesc devices ((s, .exec p (.log (.returned .host sOk))) :: past) := by
  have hreturned : Deeds.returned ((s, .exec p (.log (.returned .host sOk))) :: past) =
      (.host, sOk) :: past.returned := rfl
  constructor
  · intro _ next hnext hnonzero
    rcases hbound next hnext hnonzero with ⟨bound, hsame, hbindings⟩
    exact ⟨bound, hsame, h.bindings.trans hbindings⟩
  · intro port _ _ hinvalid
    rw [hreturned, h.running, List.mem_singleton] at hinvalid
    cases hinvalid

def BindsWhatItOpens (port : UInt16) (s : DirectPlay8Peer) (past : Deeds) : Prop :=
  exists bindings, Going bindings past ∧ (port ≠ 0 -> s.udpSocket ≠ -1 ->
    bindings = [(.listener, port, true), (.udp, port, true)])

theorem createSockets_binds (h : Going [] past) :
    allows machine E specs p (Action.createSockets 0 port (pure ()))
      (fun _ => BindsWhatItOpens port) s past := by
  rw [Action.createSockets]
  apply allows_query
  intro udp
  rw [allows_perform]
  split
  · rename_i hnone
    exact ⟨_, ⟨h.running, rfl⟩, fun _ hudp => absurd hnone hudp⟩
  · rename_i hudp
    apply allows_query
    intro listener
    rw [allows_perform]
    split
    · exact ⟨_, ⟨h.running, rfl⟩, fun _ hclosed => absurd rfl hclosed⟩
    · rename_i hlistener
      refine ⟨_, ⟨h.running, rfl⟩, fun _ _ => ?_⟩
      show (MainSocket.listener, port, listener.ret != -1) ::
        (MainSocket.udp, port, udp.ret != -1) :: past.bindings = _
      rw [h.bindings, bne_iff_ne.mpr hudp, bne_iff_ne.mpr hlistener]

inductive Command.Binds : Command -> Prop where
  | setSocket (which : MainSocket) (sock : Int) : Binds (.setSocket which sock)
  | setLocalAddress (ip : UInt32) (port : UInt16) : Binds (.setLocalAddress ip port)

theorem binds_stable :
    Stable machine E Command.Binds fun _ (past : Deeds) => past.returned = [] where
  exec := by
    intro p command s past hbinds h
    cases hbinds with
    | setSocket => exact h
    | setLocalAddress => exact h
  others := fun _ _ _ _ h => h
  noted := by
    intro s s' past label hquiet h
    rw [← h, Deeds.returned, List.filterMap_cons]
    split
    · rfl
    · rename_i hsome
      split at hsome
      · rename_i heq
        exact absurd heq (hquiet _ _)
      · cases hsome

theorem createHostSockets_binds (h : Going [] past) :
    allows machine E specs p (Action.createHostSockets port)
      (fun _ => BindsWhatItOpens port) s past := by
  by_cases hport : port = 0
  · have huses : (Action.createHostSockets port).Uses (Locked Command.Binds) :=
      Action.uses_createHostSockets .setSocket (.setLocalAddress 0)
    apply allows_mono (allows_of_uses huses binds_stable
      (fun _ _ _ _ _ hcalls => hcalls.elim) h.running)
    intro _ s' past' hrunning
    exact ⟨Deeds.bindings past', ⟨hrunning, rfl⟩, fun hnonzero => absurd hport hnonzero⟩
  · unfold Action.createHostSockets
    rw [if_neg hport]
    exact createSockets_binds h

theorem openDiscovery_binds {post : Bool -> DirectPlay8Peer -> Deeds -> Prop}
    (h : Going bindings past)
    (hpost : forall opened s' past', Going bindings past' -> post opened s' past') :
    allows machine E specs p (Action.openDiscovery appDesc) post s past := by
  unfold Action.openDiscovery
  split
  · exact hpost true s past h
  · apply allows_query
    intro discovery
    rw [allows_perform]
    split
    · exact hpost _ _ _ ⟨h.running, h.bindings⟩
    · apply allows_query
      intro events
      exact hpost _ _ _ ⟨h.running, h.bindings⟩

theorem startHosting_binds {ctx : Context} (h : Going bindings past)
    (hbound : forall next, next ∈ devicePorts devices -> next ≠ 0 ->
      exists bound : UInt16, bound.toUInt32 = next ∧
        bindings = [(.listener, bound, true), (.udp, bound, true)]) :
    allows machine E specs p (Action.startHosting ctx)
      (fun _ _ => HostsOnPorts appDesc devices) s past := by
  rw [Action.startHosting]
  iterate 6 rw [allows_perform]
  rw [allows_get]
  apply allows_raise
  intro s' cp _
  rw [allows_perform]
  exact Going.ok ⟨h.running, h.bindings⟩ hbound

theorem dpnErrGeneric_refused (past : Deeds) : dpnErrGeneric = dpnErrInvalidParam ->
    (forall port, port ≤ 65535 ->
      ¬ forall next, next ∈ devicePorts devices -> next = port) ∨
    Refused appDesc devices past := by
  intro hsame
  exact absurd hsame (by decide)

theorem hostOn_binds {args : HostArgs} (h : Going [] past)
    (hport : forall next, next ∈ devicePorts args.devices -> next ≠ 0 ->
      port.toUInt32 = next) :
    allows machine E specs p (Action.hostOn args port)
      (fun _ _ => HostsOnPorts args.appDesc args.devices) s past := by
  have hgeneric : forall {bindings s past}, Going bindings past ->
      HostsOnPorts args.appDesc args.devices
        ((s, .exec p (.log (.returned .host dpnErrGeneric))) :: past) :=
    fun hgoing => hgoing.error (by decide) (dpnErrGeneric_refused _)
  rw [Action.hostOn, bind_eq, allows_bind]
  apply allows_mono (createHostSockets_binds h)
  intro _ s₁ past₁ h₁
  rcases h₁ with ⟨bindings, hgoing, hbindings⟩
  rw [allows_get]
  split
  · exact hgeneric hgoing
  · rename_i hudp
    rw [bind_eq, allows_bind]
    apply selectMainSockets_allows hgoing
    · intro sock answer past hgoing
      exact hgoing.answer rfl
    · intro selected past₂ h₂
      split
      · exact hgeneric h₂
      · rw [bind_eq, allows_bind]
        apply openDiscovery_binds h₂
        intro opened s₃ past₃ h₃
        split
        · exact hgeneric h₃
        · apply startHosting_binds h₃
          intro next hnext hnonzero
          have hsame := hport next hnext hnonzero
          refine ⟨port, hsame, hbindings ?_ hudp⟩
          intro hzero
          rw [hzero] at hsame
          exact hnonzero hsame.symm

theorem setDescription_binds {name : WString} {desc : ApplicationDesc}
    (h : Going bindings past) :
    allows machine E specs p (Action.setDescription name desc)
      (fun _ _ => Going bindings) s past := by
  unfold Action.setDescription
  iterate 2 rw [allows_perform]
  split
  · split
    · trivial
    · exact ⟨h.running, h.bindings⟩
  · exact ⟨h.running, h.bindings⟩

theorem going_nil : Going [] [] := ⟨rfl, rfl⟩

theorem host_binds {args : HostArgs} (hfit : PortsFit args.devices) :
    allows machine E specs p (Action.host args)
      (fun _ _ => HostsOnPorts args.appDesc args.devices) s [] := by
  have herror : forall {result : HRESULT}, result ≠ sOk -> result ≠ dpnErrInvalidParam ->
      HostsOnPorts args.appDesc args.devices
        [(s, .exec p (.log (.returned .host result)))] :=
    fun hresult hother =>
      going_nil.error hresult fun hsame => absurd hsame hother
  rw [Action.host, allows_get]
  split
  iterate 5 exact herror (by decide) (by decide)
  -- the states `Host` can be called in, which are all handled alike
  all_goals
    split
    · rename_i hargs
      exact going_nil.error (by decide) fun _ =>
        Or.inr (hargs.imp_right fun hrest => hrest.imp_right Or.inl)
    · apply allows_query
      intro created
      rw [allows_perform]
      split
      · rename_i hfailed
        have hgoing : Going [] [(s, .exec p (.session (.setInstanceGuid created.guid))),
            (s, .answer p .coCreateGuid created)] := ⟨rfl, rfl⟩
        exact hgoing.error hfailed fun hsame =>
          Or.inr (Or.inr (Or.inr (Or.inr ⟨created, List.mem_singleton_self _, hsame⟩)))
      · rw [allows_perform, bind_eq, allows_bind]
        apply allows_mono (setDescription_binds (show Going [] _ from ⟨rfl, rfl⟩))
        intro _ s₁ past₁ h₁
        split
        · rename_i error hread
          apply h₁.error
          · rintro rfl
            exact readDevices_ne_sOk hread
          · rintro rfl
            refine Or.inl fun port hport hall => ?_
            exact readDevices_single (Or.inl rfl) hport hall hread
        · rename_i sp port hread
          rw [allows_perform]
          have haccepted := (readDevices_ok (Or.inl rfl)).mp ⟨_, hread⟩
          apply hostOn_binds
          · exact ⟨h₁.running, h₁.bindings⟩
          · exact (readDevices_port hread (hfit haccepted.1 haccepted.2.tail)).2

end Hosting

def plainHostArgs (devices : List DeviceInfo) : HostArgs :=
  { plainSession with devices }

def initialisedObject : DirectPlay8Peer := { DirectPlay8Peer.zeroed with state := .initialised }

theorem host_succeeds {devices : List DeviceInfo} {accepted : GUID × UInt16}
    (hne : devices ≠ []) (hread : Action.readDevices guidNull 0 devices = .ok accepted) :
    exists s' past, Returns machine Around.still (.host (plainHostArgs devices))
      initialisedObject s' past ∧ (Method.host, sOk) ∈ Deeds.returned past := by
  have hcalls : (Run.calls (Config.initial initialisedObject)
      (.host (plainHostArgs devices)) (fun _ => {})).any
      (fun v => decide ((Method.host, sOk) ∈ Deeds.returned v.past)) = true := by
    rcases accepted with ⟨sp, port⟩
    simp only [Run.calls, View.start, machine, Proc.body, Action.host, plainHostArgs, hne,
      hread, or_false, Action.hostOn, Action.createHostSockets]
    by_cases hport : port = 0
    · simp only [hport, if_true]
      rfl
    · simp only [hport, if_false]
      rfl
  rcases (Option.any_eq_true _ _).mp hcalls with ⟨v, hv, hok⟩
  have hreturns := Run.calls_returns hv
  exact ⟨v.state, v.past, hreturns, of_decide_eq_true hok⟩

/--
`Host` keeps to the ports it is given exactly when it accepts no list with a port above
65535.
-/
theorem host_ports_iff (addresses : List DirectPlay8Address) :
    (forall (E : Around) (appDesc : ApplicationDesc) (playerCtx : Context)
      (s s' : DirectPlay8Peer) (past : Deeds),
      Returns machine E
        (.host ⟨appDesc, addresses.map DirectPlay8Address.deviceInfo, playerCtx⟩)
        s s' past ->
      HostsOnPorts appDesc (addresses.map DirectPlay8Address.deviceInfo) past) ↔
    PortsFit (addresses.map DirectPlay8Address.deviceInfo) := by
  generalize addresses.map DirectPlay8Address.deviceInfo = devices
  constructor
  · intro h hprovides hchained port hport
    have hne : devices ≠ [] := by
      rintro rfl
      cases hport
    have hchain : Chained ((0 : UInt16).toUInt32 :: devicePorts devices) :=
      List.isChain_cons.mpr ⟨fun _ _ => Or.inl rfl, hchained⟩
    rcases (readDevices_ok (Or.inl rfl)).mpr ⟨hprovides, hchain⟩ with ⟨accepted, hread⟩
    rcases host_succeeds hne hread with ⟨s', past, hreturns, hok⟩
    by_cases hzero : port = 0
    · rw [hzero]
      decide
    · rcases (h _ _ _ _ _ _ hreturns).bound hok port hport hzero with ⟨bound, rfl, _⟩
      exact Nat.le_of_lt_succ bound.toNat_lt
  · intro hfit E appDesc playerCtx s s' past hreturns
    exact hreturns.allowed (unspecified E) (host_binds hfit)

def wideAddress : DirectPlay8Address :=
  let address := (DirectPlay8Address.empty.setSP (fun _ _ => []) clsidDP8SPTcpip).2
  (address.addComponent (fun _ _ => []) keyPort (bufferOf (bytes32 65537) fun _ => 0) 4
    dpnaDatatypeDword).2

theorem wideAddress_read :
    Action.readDevices guidNull 0 [wideAddress.deviceInfo] = .ok (clsidDP8SPTcpip, 1) := by
  decide +kernel

theorem host_ports_wrap :
    ¬ forall (addresses : List DirectPlay8Address) (E : Around)
      (appDesc : ApplicationDesc) (playerCtx : Context) (s s' : DirectPlay8Peer)
      (past : Deeds),
      Returns machine E
        (.host ⟨appDesc, addresses.map DirectPlay8Address.deviceInfo, playerCtx⟩)
        s s' past ->
      HostsOnPorts appDesc (addresses.map DirectPlay8Address.deviceInfo) past := by
  intro hclaim
  rcases host_succeeds (by decide) wideAddress_read with ⟨s', past, hreturns, hok⟩
  have hhosts := hclaim [wideAddress] _ _ _ _ _ _ hreturns
  have hport : 65537 ∈ devicePorts ([wideAddress].map DirectPlay8Address.deviceInfo) := by
    decide +kernel
  rcases hhosts.bound hok 65537 hport (by decide) with ⟨bound, hbound, _⟩
  have hlt : bound.toUInt32.toNat < 2 ^ 16 := bound.toNat_lt
  rw [hbound] at hlt
  exact absurd hlt (by decide)

end DirectPlayLite
