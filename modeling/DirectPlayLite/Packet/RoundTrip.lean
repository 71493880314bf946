import DirectPlayLite.Packet.Deserialiser

/-!
# Serialising and reading back

A packet built by any sequence of appends is read back field by field.  The
decoder's cursor runs through the encoded fields in step with the appends, so
that its field pointers are the offsets at which the encodings start.
-/

namespace DirectPlayLite

open LittleEndian

namespace Append

def offsets (pos : Nat) : List Append -> List Nat
  | [] => []
  | call :: rest => pos :: offsets (pos + call.encode.length) rest

@[simp] theorem offsets_length (pos : Nat) (calls : List Append) :
    (offsets pos calls).length = calls.length := by
  induction calls generalizing pos with
  | nil => rfl
  | cons call rest ih => simp [offsets, ih]

theorem holds_at_offset {mem : Memory} {pos : Nat} {calls : List Append}
    (hmem : mem.Holds pos (encodeAll calls)) {i : Nat}
    (hi : i < calls.length) (hoff : i < (offsets pos calls).length) :
    mem.Holds (offsets pos calls)[i] (calls[i]).encode := by
  induction calls generalizing pos i with
  | nil => simp at hi
  | cons call rest ih =>
      rw [encodeAll_cons, Memory.holds_append] at hmem
      cases i with
      | zero => simpa [offsets] using hmem.1
      | succ i =>
          have hrest : i < rest.length := by simpa using hi
          simpa [offsets] using ih hmem.2 hrest (by simpa using hrest)

theorem value_length_lt {calls : List Append} {call : Append}
    (hcall : call ∈ calls) {bound : Nat}
    (hall : 8 + (encodeAll calls).length < bound) :
    8 + call.value.length < bound := by
  have hle : call.encode.length ≤ (encodeAll calls).length := by
    rcases List.append_of_mem hcall with ⟨before, after, rfl⟩
    rw [encodeAll_append, encodeAll_cons]
    simp only [List.length_append]
    omega
  rw [encode_length] at hle
  omega

end Append

namespace PacketDeserialiser

/-!
## An encoded field in memory
-/

theorem chunkType_of_holds {mem : Memory} {off : Nat} {call : Append}
    (h : mem.Holds off call.encode) : chunkType mem off = call.fieldType := by
  rw [Append.encode, tlvHeader, List.append_assoc, Memory.holds_append] at h
  have htype : mem.read off 4 = bytes32 call.fieldType := by
    simpa [Memory.Holds] using h.1
  rw [chunkType, htype, word32_bytes32]

theorem chunkValueLength_of_holds {mem : Memory} {off : Nat} {call : Append}
    (h : mem.Holds off call.encode) (hlen : call.value.length < 2 ^ 32) :
    (chunkValueLength mem off).toNat = call.value.length := by
  rw [Append.encode, tlvHeader, List.append_assoc, Memory.holds_append,
    Memory.holds_append, bytes32_length] at h
  have hread : mem.read (off + 4) 4
      = bytes32 (UInt32.ofNat call.value.length) := by
    simpa [Memory.Holds] using h.2.1
  rw [chunkValueLength, hread, word32_bytes32, UInt32.toNat_ofNat',
    Nat.mod_eq_of_lt hlen]

theorem chunkValue_of_holds {mem : Memory} {off : Nat} {call : Append}
    (h : mem.Holds off call.encode) :
    mem.read (off + sizeofTLVChunk) call.value.length = call.value := by
  rw [Append.encode, Memory.holds_append, tlvHeader_length] at h
  exact h.2

/-!
## The decoder keeps in step with the appends
-/

theorem fieldChain_encodeAll {w : Nat} {mem : Memory} {pos : Nat}
    {calls : List Append} (hmem : mem.Holds pos (Append.encodeAll calls))
    (h32 : 8 + (Append.encodeAll calls).length < 2 ^ 32) (hw : 32 ≤ w) :
    FieldChain w mem pos (Append.encodeAll calls).length
      (Append.offsets pos calls) := by
  induction calls generalizing pos with
  | nil => exact FieldChain.done pos
  | cons call rest ih =>
      have hpow : 2 ^ 32 ≤ 2 ^ w := Nat.pow_le_pow_right (by decide) hw
      have hparts := hmem
      rw [Append.encodeAll_cons, Memory.holds_append] at hparts
      rw [Append.encodeAll_cons, List.length_append, Append.encode_length] at h32 ⊢
      have hlen := chunkValueLength_of_holds hparts.1 (by omega)
      have hsize : chunkSize w mem pos = call.encode.length := by
        rw [chunkSize, hlen, Append.encode_length]
        apply Nat.mod_eq_of_lt
        have hheader : sizeofTLVChunk = 8 := rfl
        omega
      have hcall := Append.encode_length call
      have hrest := ih hparts.2 (by omega)
      refine FieldChain.field ?_ ?_ ?_
      · show 8 ≤ _
        omega
      · omega
      · rw [hsize, hcall, Nat.add_sub_cancel_left, ← hcall]
        exact hrest

def ofAppends (mem : Memory) (calls : List Append) : PacketDeserialiser :=
  { memory := mem, header := 0
    fields := Append.offsets sizeofTLVChunk calls }

theorem header_of_serialise {type : UInt32} {calls : List Append}
    {mem : Memory} (hmem : mem.Holds 0 (serialise type calls).rawPacket) :
    chunkType mem 0 = type ∧
      chunkValueLength mem 0
        = UInt32.ofNat (Append.encodeAll calls).length ∧
      mem.Holds sizeofTLVChunk (Append.encodeAll calls) := by
  rw [serialise_rawPacket, tlvHeader, List.append_assoc, Memory.holds_append,
    Memory.holds_append, bytes32_length, bytes32_length] at hmem
  have htype : mem.read 0 4 = bytes32 type := by
    simpa [Memory.Holds] using hmem.1
  have htotal : mem.read (0 + 4) 4
      = bytes32 (UInt32.ofNat (Append.encodeAll calls).length) := by
    simpa [Memory.Holds] using hmem.2.1
  refine ⟨?_, ?_, hmem.2.2⟩
  · rw [chunkType, htype, word32_bytes32]
  · rw [chunkValueLength, htotal, word32_bytes32]

theorem constructs_serialise {w : Nat} (hw : 32 ≤ w) {type : UInt32}
    {calls : List Append} {mem : Memory} {size : Nat}
    (h32 : (serialise type calls).rawPacket.length < 2 ^ 32)
    (hmem : mem.Holds 0 (serialise type calls).rawPacket)
    (hsize : (serialise type calls).rawPacket.length ≤ size) :
    Constructs w mem size (.ok (ofAppends mem calls)) := by
  rcases header_of_serialise hmem with ⟨_, htotal, hbody⟩
  rw [serialise_rawPacket_length] at h32 hsize
  have hlen : (chunkValueLength mem 0).toNat
      = (Append.encodeAll calls).length := by
    rw [htotal, UInt32.toNat_ofNat', Nat.mod_eq_of_lt (by omega)]
  have hheader : sizeofTLVChunk = 8 := rfl
  refine constructs_ok_iff.mpr ⟨by omega, ?_, rfl, rfl, ?_⟩
  · rw [chunkSize, hlen]
    exact Nat.le_trans (Nat.mod_le _ _) hsize
  · rw [hlen]
    exact fieldChain_encodeAll hbody h32 hw

/-!
## What the getters report
-/

/-- How each accessor answers for a field appended by the given call. -/
def ReadsBack (pd : PacketDeserialiser) (index : Nat) : Append -> Prop
  | .null =>
      pd.isNull index = .ok true ∧
      pd.getDword index = .error .typeMismatch ∧
      pd.getData index = .error .typeMismatch ∧
      pd.getWstring index = .error .typeMismatch ∧
      pd.getGuid index = .error .typeMismatch
  | .dword word =>
      pd.isNull index = .ok false ∧
      pd.getDword index = .ok word ∧
      pd.getData index = .error .typeMismatch ∧
      pd.getWstring index = .error .typeMismatch ∧
      pd.getGuid index = .error .typeMismatch
  | .data bytes =>
      pd.isNull index = .ok false ∧
      pd.getDword index = .error .typeMismatch ∧
      pd.getData index = .ok bytes ∧
      pd.getWstring index = .error .typeMismatch ∧
      pd.getGuid index = .error .typeMismatch
  | .wstring string =>
      pd.isNull index = .ok false ∧
      pd.getDword index = .error .typeMismatch ∧
      pd.getData index = .error .typeMismatch ∧
      pd.getWstring index = .ok string ∧
      pd.getGuid index = .error .typeMismatch
  | .guid id =>
      pd.isNull index = .ok false ∧
      pd.getDword index = .error .typeMismatch ∧
      pd.getData index = .error .typeMismatch ∧
      pd.getWstring index = .error .typeMismatch ∧
      pd.getGuid index = .ok id

section ReadsBack

variable {pd : PacketDeserialiser} {index : Nat}

theorem ReadsBack.getDword {word : DWORD} (h : pd.ReadsBack index (.dword word)) :
    pd.getDword index = .ok word := h.2.1

theorem ReadsBack.getData {bytes : List UInt8} (h : pd.ReadsBack index (.data bytes)) :
    pd.getData index = .ok bytes := h.2.2.1

theorem ReadsBack.getWstring {string : WString}
    (h : pd.ReadsBack index (.wstring string)) :
    pd.getWstring index = .ok string := h.2.2.2.1

theorem ReadsBack.getGuid {id : GUID} (h : pd.ReadsBack index (.guid id)) :
    pd.getGuid index = .ok id := h.2.2.2.2

end ReadsBack

def MissingAt (pd : PacketDeserialiser) (index : Nat) : Prop :=
  pd.isNull index = .error .missingField ∧
    pd.getDword index = .error .missingField ∧
    pd.getData index = .error .missingField ∧
    pd.getWstring index = .error .missingField ∧
    pd.getGuid index = .error .missingField

theorem missingAt_of_le {pd : PacketDeserialiser} {index : Nat}
    (h : pd.numFields ≤ index) : pd.MissingAt index := by
  have hnone : pd.fields[index]? = none := List.getElem?_eq_none h
  simp [MissingAt, isNull, getDword, getData, getWstring, getGuid, getField,
    hnone, Except.map]

theorem getField_of_encode {pd : PacketDeserialiser} {index field : Nat}
    {call : Append} (hfield : pd.fields[index]? = some field)
    (hmem : pd.memory.Holds field call.encode)
    (hlen : call.value.length < 2 ^ 32) (type : UInt32)
    (lengthOk : Nat -> Bool) :
    pd.getField index type lengthOk =
      if call.fieldType ≠ type then .error .typeMismatch
      else if !lengthOk call.value.length then .error .malformed
      else .ok call.value := by
  rw [getField, hfield]
  simp only [chunkType_of_holds hmem, chunkValueLength_of_holds hmem hlen,
    chunkValue_of_holds hmem]

theorem guidOfBytes_toList (id : GUID) : guidOfBytes id.toList = id := by
  apply Vector.ext
  intro i hi
  simp [guidOfBytes]

theorem readsBack_of_encode {pd : PacketDeserialiser} {index field : Nat}
    {call : Append} (hfield : pd.fields[index]? = some field)
    (hmem : pd.memory.Holds field call.encode)
    (hlen : call.value.length < 2 ^ 32) : pd.ReadsBack index call := by
  have hget := getField_of_encode hfield hmem hlen
  have hnull : pd.isNull index
      = .ok (call.fieldType == fieldTypeNull) := by
    rw [isNull, hfield]
    simp only [chunkType_of_holds hmem]
  cases call with
  | null =>
      simp [ReadsBack, hnull, getDword, getData, getWstring, getGuid, hget,
        Append.fieldType, fieldTypeNull, fieldTypeDword, fieldTypeData,
        fieldTypeWstring, fieldTypeGuid, Except.map]
  | dword word =>
      simp [ReadsBack, hnull, getDword, getData, getWstring, getGuid, hget,
        Append.fieldType, Append.value, fieldTypeNull, fieldTypeDword,
        fieldTypeData, fieldTypeWstring, fieldTypeGuid, Except.map]
  | data bytes =>
      simp [ReadsBack, hnull, getDword, getData, getWstring, getGuid, hget,
        Append.fieldType, Append.value, fieldTypeNull, fieldTypeDword,
        fieldTypeData, fieldTypeWstring, fieldTypeGuid, Except.map]
  | wstring string =>
      simp [ReadsBack, hnull, getDword, getData, getWstring, getGuid, hget,
        Append.fieldType, Append.value, fieldTypeNull, fieldTypeDword,
        fieldTypeData, fieldTypeWstring, fieldTypeGuid, Except.map,
        bytesToUnits_unitsToBytes]
  | guid id =>
      simp [ReadsBack, hnull, getDword, getData, getWstring, getGuid, hget,
        Append.fieldType, Append.value, fieldTypeNull, fieldTypeDword,
        fieldTypeData, fieldTypeWstring, fieldTypeGuid, Except.map,
        guidOfBytes_toList]

/-!
## Strict prefixes
-/

theorem constructs_incomplete_of_prefix {w : Nat} (hw : 32 ≤ w)
    {type : UInt32} {calls : List Append}
    (h32 : (serialise type calls).rawPacket.length < 2 ^ 32)
    {received missing : List UInt8}
    (hsplit : (serialise type calls).rawPacket = received ++ missing)
    (hmissing : missing ≠ []) (beyond : Memory) :
    Constructs w (bufferOf received beyond) received.length
      (.error .incomplete) := by
  refine ⟨0, ?_⟩
  have hheader : sizeofTLVChunk = 8 := rfl
  have hpow : 2 ^ 32 ≤ 2 ^ w := Nat.pow_le_pow_right (by decide) hw
  have hlt : received.length < (serialise type calls).rawPacket.length := by
    have hpos : 0 < missing.length := List.length_pos_iff.mpr hmissing
    rw [hsplit, List.length_append]
    omega
  rw [serialise_rawPacket_length] at h32 hlt
  rw [construct, if_pos]
  by_cases hshort : received.length < sizeofTLVChunk
  · exact Or.inl hshort
  · -- The header has arrived whole, so the declared length can be trusted.
    apply Or.inr
    have hprefix : tlvHeader type (UInt32.ofNat (Append.encodeAll calls).length)
        = received.take 8 := by
      have htake := congrArg (List.take 8) hsplit
      rwa [serialise_rawPacket, List.take_append_of_le_length (by simp),
        List.take_of_length_le (by simp),
        List.take_append_of_le_length (by omega)] at htake
    have hholds : (bufferOf received beyond).Holds 0
        (tlvHeader type (UInt32.ofNat (Append.encodeAll calls).length)) := by
      have hall := bufferOf_holds (received.take 8) (received.drop 8) beyond
      rwa [List.take_append_drop, ← hprefix] at hall
    rw [tlvHeader, Memory.holds_append, bytes32_length] at hholds
    have hread : (bufferOf received beyond).read (0 + 4) 4
        = bytes32 (UInt32.ofNat (Append.encodeAll calls).length) := by
      simpa [Memory.Holds] using hholds.2
    have hlen : (chunkValueLength (bufferOf received beyond) 0).toNat
        = (Append.encodeAll calls).length := by
      rw [chunkValueLength, hread, word32_bytes32, UInt32.toNat_ofNat',
        Nat.mod_eq_of_lt (by omega)]
    rw [chunkSize, hlen, Nat.mod_eq_of_lt (by omega)]
    omega

/-!
## The round trip
-/

theorem serialise_readsBack {w : Nat} (hw : 32 ≤ w) (type : UInt32)
    (calls : List Append)
    (h32 : (serialise type calls).rawPacket.length < 2 ^ 32)
    (extra : List UInt8) (beyond : Memory) :
    exists pd,
      Constructs w (bufferOf ((serialise type calls).rawPacket ++ extra) beyond)
          ((serialise type calls).rawPacket ++ extra).length (.ok pd) ∧
        pd.packetType = type ∧
        pd.numFields = calls.length ∧
        forall (i : Nat) (hi : i < calls.length), pd.ReadsBack i calls[i] := by
  have hmem := bufferOf_holds (serialise type calls).rawPacket extra beyond
  rcases header_of_serialise hmem with ⟨htype, _, hbody⟩
  refine ⟨ofAppends _ calls, ?_, htype, ?_, ?_⟩
  · exact constructs_serialise hw h32 hmem (by simp)
  · simp [numFields, ofAppends]
  · intro i hi
    have hoff : i < (Append.offsets sizeofTLVChunk calls).length := by
      simpa using hi
    have hlen := Append.value_length_lt (List.getElem_mem hi)
      (by rwa [serialise_rawPacket_length] at h32)
    exact readsBack_of_encode (List.getElem?_eq_getElem hoff)
      (Append.holds_at_offset hbody hi hoff) (by omega)

/--
Reading back a serialised packet of fewer than `2 ^ 32` bytes yields its type
and its fields in order, whatever follows it, and no strict prefix is accepted.
-/
theorem serialise_roundTrip {w : Nat} (hw : 32 ≤ w) (type : UInt32)
    (calls : List Append)
    (h32 : (serialise type calls).rawPacket.length < 2 ^ 32) :
    (forall (extra : List UInt8) (beyond : Memory), exists pd,
      Constructs w (bufferOf ((serialise type calls).rawPacket ++ extra) beyond)
          ((serialise type calls).rawPacket ++ extra).length (.ok pd) ∧
        pd.packetType = type ∧
        pd.numFields = calls.length ∧
        (forall (i : Nat) (hi : i < calls.length), pd.ReadsBack i calls[i]) ∧
        (forall i, calls.length ≤ i -> pd.MissingAt i)) ∧
      forall (received missing : List UInt8) (beyond : Memory),
        (serialise type calls).rawPacket = received ++ missing ->
        missing ≠ [] ->
        Constructs w (bufferOf received beyond) received.length
          (.error .incomplete) := by
  constructor
  · intro extra beyond
    rcases serialise_readsBack hw type calls h32 extra beyond with
      ⟨pd, hpd, htype, hcount, hreads⟩
    refine ⟨pd, hpd, htype, hcount, hreads, ?_⟩
    intro i hi
    exact missingAt_of_le (hcount.trans_le hi)
  · intro received missing beyond hsplit hmissing
    exact constructs_incomplete_of_prefix hw h32 hsplit hmissing beyond

/-- The round trip of a packet with one field of every kind. -/
theorem serialise_roundTrip_allKinds :
    (32 ≤ 32 ∧
      (serialise 7 [.null, .dword 5, .data [1, 2], .wstring [65],
        .guid guidNull]).rawPacket.length < 2 ^ 32) ∧
    exists pd,
      Constructs 32
          (bufferOf ((serialise 7 [.null, .dword 5, .data [1, 2], .wstring [65],
            .guid guidNull]).rawPacket ++ [9]) fun _ => 0)
          ((serialise 7 [.null, .dword 5, .data [1, 2], .wstring [65],
            .guid guidNull]).rawPacket ++ [9]).length (.ok pd) ∧
        pd.packetType = 7 := by
  have hlen : (serialise 7 [.null, .dword 5, .data [1, 2], .wstring [65],
      .guid guidNull]).rawPacket.length < 2 ^ 32 := by decide
  rcases (serialise_roundTrip (Nat.le_refl 32) 7 _ hlen).1 [9] (fun _ => 0) with
    ⟨pd, hpd, htype, _⟩
  exact ⟨⟨Nat.le_refl 32, hlen⟩, pd, hpd, htype⟩

end PacketDeserialiser
end DirectPlayLite
