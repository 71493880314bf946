import DirectPlayLite.Address.Hosts

/-!
# What a host name is read with

A host name is copied to a local buffer without a terminator, and then read up to the
first one.  Where the component has none, what was in the buffer before is read too.
-/

namespace DirectPlayLite

open Scanning

/-- Two buffers that differ in what was in them at most. -/
def HostnameBuffer.SameBeyond (b b' : HostnameBuffer) : Prop := b.beyond = b'.beyond

/-- A host name, without a terminator, that an IP address may begin with. -/
structure Unfinished (inetPtonW : WString -> Option UInt32) (hostSp : GUID)
    (value : WString) : Prop where
  unterminated : 0 ∉ value
  short : value.length < 128
  continues :
    hostSp = clsidDP8SPTcpip ∧ (exists more ip, inetPtonW (value ++ more) = some ip) ∨
      hostSp = clsidDP8SPIpx ∧ Pending ipxFormat 8 value

/-- An address from which an unfinished host name is read. -/
def Exposed (inetPtonW : WString -> Option UInt32) (address : DirectPlay8Address) :
    Prop :=
  exists hostSp value, address.getSP = some hostSp ∧
    address.valueOf keyHostname = some (.string value) ∧
    Unfinished inetPtonW hostSp value

def PortFits (address : DirectPlay8Address) : Prop :=
  forall reported, address.found keyPort 4 = some reported ->
    exists port, checkedPort reported = .ok port

/-- What is read from an address does not depend on what was in the buffer before. -/
structure Steady (inetPtonW : WString -> Option UInt32) (address : DirectPlay8Address) :
    Prop where
  connect : forall b b' : HostnameBuffer, b.SameBeyond b' ->
    connectAddr inetPtonW address b = connectAddr inetPtonW address b'
  enumerate : forall (deviceInfo : Option DirectPlay8Address) (b b' : HostnameBuffer),
    b.SameBeyond b' ->
      HostEnumerator.sendAddr inetPtonW deviceInfo (some address) b =
        HostEnumerator.sendAddr inetPtonW deviceInfo (some address) b'

section Names

variable {inetPtonW : WString -> Option UInt32} {hostSp : GUID} {value : WString}

def bufferWith (offset : Nat) (text : WString) (h : offset + text.length ≤ 128) :
    HostnameBuffer where
  before :=
    List.replicate offset 0 ++ (text ++ List.replicate (128 - (offset + text.length)) 0)
  beyond := [0]
  size := by
    simp only [List.length_append, List.length_replicate]
    omega

theorem text_bufferWith {text : WString} (h : value.length + text.length ≤ 128)
    (hvalue : 0 ∉ value) (htext : 0 ∉ text) :
    (bufferWith value.length text h).text (reportOf (.string value)) = value ++ text := by
  have hdrop : (bufferWith value.length text h).before.drop value.length =
      text ++ List.replicate (128 - (value.length + text.length)) 0 :=
    List.drop_left' List.length_replicate
  have hzeros : forall n, cString (List.replicate n 0 ++ [0]) = [] := by
    intro n
    cases n with
    | zero => rfl
    | succ n => rfl
  rw [text_of_not_mem _ hvalue, hdrop, List.append_assoc, cString_append htext]
  show value ++ (text ++ cString (_ ++ [0])) = _
  rw [hzeros, List.append_nil]

theorem hostnameIp_finished
    (hvalue : value.length ≤ 128)
    (hknown : hostSp = clsidDP8SPTcpip ∨ hostSp = clsidDP8SPIpx)
    (h : ¬Unfinished inetPtonW hostSp value) {b b' : HostnameBuffer}
    (hbeyond : b.SameBeyond b') :
    hostnameIp inetPtonW hostSp (b.text (reportOf (.string value))) =
      hostnameIp inetPtonW hostSp (b'.text (reportOf (.string value))) := by
  by_cases hzero : 0 ∈ value
  · rw [text_of_mem b hzero, text_of_mem b' hzero]
  by_cases hshort : value.length < 128
  · -- whatever follows, no IP address begins so, or it has been read
    rw [text_of_not_mem b hzero, text_of_not_mem b' hzero]
    unfold hostnameIp
    split
    · rename_i htcp
      have hnone : forall more, inetPtonW (value ++ more) = none := by
        intro more
        cases hread : inetPtonW (value ++ more) with
        | none => rfl
        | some ip => exact absurd ⟨hzero, hshort, Or.inl ⟨htcp, more, ip, hread⟩⟩ h
      rw [hnone, hnone]
    · rename_i hother
      have hipx := hknown.resolve_left hother
      have hended : ¬Pending ipxFormat 8 value :=
        fun hpending => h ⟨hzero, hshort, Or.inr ⟨hipx, hpending⟩⟩
      rw [scan_append _ (by decide) hended, scan_append _ (by decide) hended]
  · -- the buffer is full
    have hfull : value.length = 128 := by omega
    have hdrop : forall buffer : HostnameBuffer, buffer.before.drop value.length = [] := by
      intro buffer
      rw [hfull, ← buffer.size, List.drop_length]
    rw [text_of_not_mem b hzero, text_of_not_mem b' hzero, hdrop, hdrop, hbeyond]

theorem hostnameIp_unfinished (honly : OnlyDotted inetPtonW)
    (h : Unfinished inetPtonW hostSp value) :
    exists b b' : HostnameBuffer, b.SameBeyond b' ∧
      hostnameIp inetPtonW hostSp (b.text (reportOf (.string value))) ≠
        hostnameIp inetPtonW hostSp (b'.text (reportOf (.string value))) := by
  have hshort := h.short
  rcases h.continues with ⟨htcp, more, ip, hread⟩ | ⟨hipx, hprefix | hnumber⟩
  · -- the buffer goes on with the rest of the address, or with a letter
    rcases honly.only _ _ hread with ⟨hlength, hdotted⟩
    rw [List.length_append] at hlength
    have hmore : 0 ∉ more := by
      intro hzero
      exact absurd (hdotted 0 (List.mem_append_right value hzero)) (by decide)
    have hfits : value.length + more.length ≤ 128 := by omega
    have hroom : value.length + [(90 : UInt16)].length ≤ 128 := hshort
    refine ⟨bufferWith value.length more hfits, bufferWith value.length [90] hroom, rfl, ?_⟩
    rw [text_bufferWith hfits h.unterminated hmore,
      text_bufferWith hroom h.unterminated (by decide), hostnameIp, hostnameIp,
      if_pos htcp, if_pos htcp, hread]
    intro heq
    rcases honly.only _ _ heq.symm with ⟨_, hletter⟩
    exact absurd (hletter 90 (by simp)) (by decide)
  · -- it goes on with the rest of the format and a digit, or with nothing
    rcases hprefix with ⟨more, hmore⟩
    have hformat : (ipxFormat ++ [49]).length = 14 := by decide
    have hclean : 0 ∉ more ++ [49] := by
      have hzero : 0 ∉ ipxFormat ++ [49] := by decide
      rw [← hmore, List.append_assoc] at hzero
      intro hmem
      exact hzero (List.mem_append_right value hmem)
    have hfits : value.length + (more ++ [49]).length ≤ 128 := by
      rw [← hmore, List.append_assoc, List.length_append] at hformat
      omega
    have hroom : value.length + ([] : WString).length ≤ 128 := Nat.le_of_lt hshort
    have hnone : scan ipxFormat 8 value = none := scan_prefix ⟨more, hmore⟩
    have hsome : scan ipxFormat 8 (value ++ (more ++ [49])) = some 1 := by
      rw [← List.append_assoc, hmore]
      decide
    refine ⟨bufferWith value.length (more ++ [49]) hfits, bufferWith value.length [] hroom,
      rfl, ?_⟩
    have hother : ¬hostSp = clsidDP8SPTcpip := by
      rw [hipx]
      decide
    rw [text_bufferWith hfits h.unterminated hclean,
      text_bufferWith hroom h.unterminated (by decide), hostnameIp, hostnameIp,
      if_neg hother, if_neg hother, List.append_nil, hnone, hsome]
    intro heq
    cases heq
  · -- it goes on with one digit or another
    rcases hnumber with ⟨rest, rfl, hpending⟩
    have hfits : forall c : UInt16, (ipxFormat ++ rest).length + [c].length ≤ 128 :=
      fun _ => hshort
    refine ⟨bufferWith _ [49] (hfits 49), bufferWith _ [50] (hfits 50), rfl, ?_⟩
    have hother : ¬hostSp = clsidDP8SPTcpip := by
      rw [hipx]
      decide
    rw [text_bufferWith (hfits 49) h.unterminated (by decide),
      text_bufferWith (hfits 50) h.unterminated (by decide), hostnameIp, hostnameIp,
      if_neg hother, if_neg hother, scan, scan, List.append_assoc, List.append_assoc,
      scanLiteral_append, scanLiteral_append, Option.bind_some, Option.bind_some]
    intro heq
    have hinjective : Function.Injective htonl := fun x y hxy => by
      rw [← htonl_htonl x, hxy, htonl_htonl]
    exact scanHex_pending [] (by decide) hpending
      (Option.map_injective hinjective heq)

end Names

section Addresses

variable {inetPtonW : WString -> Option UInt32} {address : DirectPlay8Address}
  {hostSp : GUID}

theorem port_refused (h : ¬PortFits address) :
    exists reported, address.found keyPort 4 = some reported ∧
      checkedPort reported = .error dpnErrInvalidHostAddress := by
  rcases Classical.not_forall.mp h with ⟨reported, hfound⟩
  rcases Classical.not_imp.mp hfound with ⟨hsome, hrefused⟩
  refine ⟨reported, hsome, ?_⟩
  unfold checkedPort at hrefused ⊢
  dsimp only at hrefused ⊢
  split at hrefused
  · rename_i hinvalid
    rw [if_pos hinvalid]
  · exact absurd ⟨_, rfl⟩ hrefused

theorem hostnameIp_agrees (h : ¬(Exposed inetPtonW address ∧ PortFits address))
    (hsp : address.getSP = some hostSp) {hostname : Reported}
    (hfound : address.found keyHostname 256 = some hostname)
    (htype : hostname.dataType = dpnaDatatypeString)
    (hknown : hostSp = clsidDP8SPTcpip ∨ hostSp = clsidDP8SPIpx) :
    (forall b b' : HostnameBuffer, b.SameBeyond b' ->
      hostnameIp inetPtonW hostSp (b.text hostname) =
        hostnameIp inetPtonW hostSp (b'.text hostname)) ∨
      exists reported, address.found keyPort 4 = some reported ∧
        checkedPort reported = .error dpnErrInvalidHostAddress := by
  rcases found_eq_some.mp hfound with ⟨value, hvalue, hsize, rfl⟩
  cases value with
  | dword dword =>
      have hother : dpnaDatatypeDword ≠ dpnaDatatypeString := by decide
      exact absurd htype hother
  | guid guid =>
      have hother : dpnaDatatypeGuid ≠ dpnaDatatypeString := by decide
      exact absurd htype hother
  | string value =>
      have hlength : value.length ≤ 128 := by
        have hbytes : 2 * value.length ≤ 256 := hsize
        omega
      by_cases hunfinished : Unfinished inetPtonW hostSp value
      · apply Or.inr
        apply port_refused
        intro hfits
        exact h ⟨⟨hostSp, value, hsp, hvalue, hunfinished⟩, hfits⟩
      · apply Or.inl
        intro b b' hbeyond
        exact hostnameIp_finished hlength hknown hunfinished hbeyond

theorem connect_steady (h : ¬(Exposed inetPtonW address ∧ PortFits address))
    {b b' : HostnameBuffer} (hbeyond : b.SameBeyond b') :
    connectAddr inetPtonW address b = connectAddr inetPtonW address b' := by
  unfold connectAddr
  cases hsp : address.getSP with
  | none => rfl
  | some hostSp =>
      cases hfound : address.found keyHostname 256 with
      | none => rfl
      | some hostname =>
          dsimp only
          by_cases htype : hostname.dataType ≠ dpnaDatatypeString
          · rw [if_pos htype, if_pos htype]
          by_cases hother : hostSp ≠ clsidDP8SPTcpip ∧ hostSp ≠ clsidDP8SPIpx
          · rw [if_neg htype, if_pos hother, if_neg htype, if_pos hother]
          rw [if_neg htype, if_neg hother, if_neg htype, if_neg hother]
          rcases hostnameIp_agrees h hsp hfound (not_not.mp htype)
              (or_iff_not_and_not.mpr hother) with
            hagrees | ⟨reported, hport, hrefused⟩
          · rw [hagrees b b' hbeyond]
          · rw [hport]
            dsimp only
            rw [hrefused]
            cases hostnameIp inetPtonW hostSp (b.text hostname) <;>
              cases hostnameIp inetPtonW hostSp (b'.text hostname) <;> rfl

theorem sendIp_agrees (h : ¬(Exposed inetPtonW address ∧ PortFits address))
    (hsp : address.getSP = some hostSp) {b b' : HostnameBuffer}
    (hbeyond : b.SameBeyond b') :
    HostEnumerator.sendIp inetPtonW address hostSp b =
        HostEnumerator.sendIp inetPtonW address hostSp b' ∨
      (exists reported, address.found keyPort 4 = some reported ∧
        checkedPort reported = .error dpnErrInvalidHostAddress) ∧
      forall b result, HostEnumerator.sendIp inetPtonW address hostSp b = .error result ->
        result = dpnErrInvalidHostAddress := by
  unfold HostEnumerator.sendIp
  cases hfound : address.found keyHostname 256 with
  | none => exact Or.inl rfl
  | some hostname =>
      dsimp only
      by_cases htype : hostname.dataType ≠ dpnaDatatypeString
      · rw [if_pos htype, if_pos htype]
        exact Or.inl rfl
      by_cases hother : hostSp ≠ clsidDP8SPTcpip ∧ hostSp ≠ clsidDP8SPIpx
      · rw [if_neg htype, if_pos hother, if_neg htype, if_pos hother]
        exact Or.inl rfl
      simp only [if_neg htype, if_neg hother]
      rcases hostnameIp_agrees h hsp hfound (not_not.mp htype)
          (or_iff_not_and_not.mpr hother) with
        hagrees | hrefused
      · rw [hagrees b b' hbeyond]
        exact Or.inl rfl
      · apply Or.inr
        refine ⟨hrefused, ?_⟩
        intro b result hresult
        split at hresult <;> cases hresult
        rfl

theorem enumerate_steady (h : ¬(Exposed inetPtonW address ∧ PortFits address))
    (deviceInfo : Option DirectPlay8Address) {b b' : HostnameBuffer}
    (hbeyond : b.SameBeyond b') :
    HostEnumerator.sendAddr inetPtonW deviceInfo (some address) b =
      HostEnumerator.sendAddr inetPtonW deviceInfo (some address) b' := by
  unfold HostEnumerator.sendAddr
  cases deviceInfo with
  | none => rfl
  | some deviceInfo =>
      dsimp only
      cases deviceInfo.getSP with
      | none => rfl
      | some serviceProvider =>
          cases hsp : address.getSP with
          | none => rfl
          | some hostSp =>
              dsimp only
              by_cases hdifferent : hostSp ≠ serviceProvider
              · rw [if_pos hdifferent, if_pos hdifferent]
              rw [if_neg hdifferent, if_neg hdifferent]
              rcases sendIp_agrees h hsp hbeyond with
                hagrees | ⟨⟨reported, hport, hrefused⟩, herror⟩
              · rw [hagrees]
              · -- both end with the same error, at the host name or at the port
                rw [hport]
                refine Eq.trans (b := Except.error dpnErrInvalidHostAddress) ?_ (Eq.symm ?_)
                all_goals
                  split
                  · rename_i result hip
                    rw [herror _ result hip]
                  · dsimp only
                    rw [hrefused]
                    rfl

theorem sendAddr_eq (inetPtonW : WString -> Option UInt32) {value : WString}
    (hsp : address.getSP = some hostSp)
    (hname : address.valueOf keyHostname = some (.string value))
    (hlength : value.length ≤ 128)
    (hknown : hostSp = clsidDP8SPTcpip ∨ hostSp = clsidDP8SPIpx)
    (hfits : PortFits address) :
    exists port, forall b : HostnameBuffer,
      HostEnumerator.sendAddr inetPtonW (some (deviceOf hostSp)) (some address) b =
        match hostnameIp inetPtonW hostSp (b.text (reportOf (.string value))) with
        | none => .error dpnErrInvalidHostAddress
        | some ip => .ok ⟨ip, port⟩ := by
  have hdevice : (deviceOf hostSp).getSP = some hostSp := getSP_of_valueOf rfl
  have hsize : (ComponentValue.string value).size ≤ (256 : DWORD).toNat := by
    show 2 * value.length ≤ 256
    omega
  have hfound := found_of_valueOf _ hname hsize
  have htype : ¬(reportOf (.string value)).dataType ≠ dpnaDatatypeString :=
    not_not.mpr rfl
  have hsame : ¬hostSp ≠ hostSp := not_not.mpr rfl
  have hother : ¬(hostSp ≠ clsidDP8SPTcpip ∧ hostSp ≠ clsidDP8SPIpx) := by
    intro hneither
    rcases hknown with htcp | hipx
    · exact hneither.1 htcp
    · exact hneither.2 hipx
  unfold HostEnumerator.sendAddr HostEnumerator.sendIp
  simp only [hdevice, hsp, hfound, if_neg hsame, if_neg htype, if_neg hother]
  cases hport : address.found keyPort 4 with
  | none =>
      refine ⟨discoveryPort, ?_⟩
      intro b
      cases hostnameIp inetPtonW hostSp (b.text (reportOf (.string value))) <;> rfl
  | some reported =>
      rcases hfits reported hport with ⟨port, haccepted⟩
      refine ⟨port, ?_⟩
      intro b
      dsimp only
      rw [haccepted]
      cases hostnameIp inetPtonW hostSp (b.text (reportOf (.string value))) <;> rfl

/--
What `Connect` and the constructor of `HostEnumerator` read from an address depends on
the address alone exactly if no unfinished host name is read from it.
-/
theorem steady_iff (honly : OnlyDotted inetPtonW) (address : DirectPlay8Address) :
    Steady inetPtonW address ↔ ¬(Exposed inetPtonW address ∧ PortFits address) := by
  constructor
  · rintro h ⟨⟨hostSp, value, hsp, hname, hunfinished⟩, hfits⟩
    have hknown : hostSp = clsidDP8SPTcpip ∨ hostSp = clsidDP8SPIpx := by
      rcases hunfinished.continues with ⟨htcp, _⟩ | ⟨hipx, _⟩
      · exact Or.inl htcp
      · exact Or.inr hipx
    rcases sendAddr_eq inetPtonW hsp hname (Nat.le_of_lt hunfinished.short)
      hknown hfits with ⟨port, hsend⟩
    rcases hostnameIp_unfinished honly hunfinished with ⟨b, b', hbeyond, hne⟩
    have heq := h.enumerate (some (deviceOf hostSp)) b b' hbeyond
    rw [hsend, hsend] at heq
    apply hne
    revert heq
    cases hostnameIp inetPtonW hostSp (b.text (reportOf (.string value))) <;>
      cases hostnameIp inetPtonW hostSp (b'.text (reportOf (.string value))) <;>
      intro heq <;> cases heq <;> rfl
  · intro h
    constructor
    · intro b b' hbeyond
      exact connect_steady h hbeyond
    · intro deviceInfo b b' hbeyond
      exact enumerate_steady h deviceInfo hbeyond

end Addresses

def hostOf (serviceProvider : GUID) (hostname : WString) (port : DWORD) :
    DirectPlay8Address where
  components :=
    [⟨keyProvider, .guid serviceProvider⟩, ⟨keyHostname, .string hostname⟩,
      ⟨keyPort, .dword port⟩]
  userData := []

def localhost : WString := "127.0.0.1".toList.map fun c => UInt16.ofNat c.toNat

theorem steady_iff_localhost :
    Steady dottedIp (hostOf clsidDP8SPTcpip (localhost ++ [0]) 6073) ↔
      ¬(Exposed dottedIp (hostOf clsidDP8SPTcpip (localhost ++ [0]) 6073) ∧
        PortFits (hostOf clsidDP8SPTcpip (localhost ++ [0]) 6073)) :=
  steady_iff dottedIp_only _

/-- A digit that was in the buffer makes another IP address of it. -/
theorem not_steady_localhost :
    ¬Steady dottedIp (hostOf clsidDP8SPTcpip localhost 6073) := by
  intro h
  have heq := h.connect (bufferWith 9 [] (by decide)) (bufferWith 9 [50] (by decide)) rfl
  revert heq
  decide

end DirectPlayLite
