import DirectPlayLite.Packet.Deserialiser

/-!
# The grammar of packets

A packet is a header and as many bytes as it declares, which are fields one after
another.  With a `size_t` of more than 32 bits the constructor accepts exactly the
buffers that begin with a packet, and what it records can be written out again.
-/

namespace DirectPlayLite

open LittleEndian

structure Field where
  type : UInt32
  value : List UInt8
  fits : value.length < 2 ^ 32

def Field.encode (field : Field) : List UInt8 :=
  tlvHeader field.type (UInt32.ofNat field.value.length) ++ field.value

theorem Field.encode_length (field : Field) :
    field.encode.length = sizeofTLVChunk + field.value.length := by
  rw [Field.encode, List.length_append, tlvHeader_length]
  rfl

inductive Splits : List UInt8 -> Prop where
  | nil : Splits []
  | field (field : Field) {rest : List UInt8} :
      Splits rest -> Splits (field.encode ++ rest)

def BeginsWithPacket (buffer : List UInt8) : Prop :=
  exists (type : UInt32) (value behind : List UInt8),
    value.length < 2 ^ 32 ∧ Splits value ∧
      buffer = tlvHeader type (UInt32.ofNat value.length) ++ (value ++ behind)

/-- The number of bytes the header at the start of a buffer declares. -/
def declaredLength (buffer : List UInt8) : Nat :=
  (word32 ((buffer.drop 4).take 4)).toNat

/-- The buffer ends within the header or within what the header declares. -/
def CutShort (buffer : List UInt8) : Prop :=
  buffer.length < sizeofTLVChunk ∨
    buffer.length < sizeofTLVChunk + declaredLength buffer

/-!
## Reading a buffer
-/

theorem bufferOf_read {buffer : List UInt8} {beyond : Memory} {off len : Nat}
    (h : off + len ≤ buffer.length) :
    (bufferOf buffer beyond).read off len = (buffer.drop off).take len := by
  apply List.ext_getElem
  · rw [Memory.read_length, List.length_take, List.length_drop]
    omega
  · intro i hi _
    rw [Memory.read_length] at hi
    have hlt : off + i < buffer.length := by omega
    simp [Memory.read, bufferOf, List.getElem?_eq_getElem hlt]

theorem chunkValueLength_zero {buffer : List UInt8} (beyond : Memory)
    (h : sizeofTLVChunk ≤ buffer.length) :
    (chunkValueLength (bufferOf buffer beyond) 0).toNat =
      declaredLength buffer := by
  have hheader : sizeofTLVChunk = 8 := rfl
  rw [chunkValueLength, bufferOf_read (by omega), declaredLength, Nat.zero_add]

def chunkBytes (mem : Memory) (off : Nat) : List UInt8 :=
  tlvHeader (chunkType mem off) (chunkValueLength mem off) ++
    mem.read (off + sizeofTLVChunk) (chunkValueLength mem off).toNat

theorem chunkBytes_eq (mem : Memory) (off : Nat) :
    chunkBytes mem off =
      mem.read off (sizeofTLVChunk + (chunkValueLength mem off).toNat) := by
  have htype : bytes32 (chunkType mem off) = mem.read off 4 :=
    bytes32_word32 (Memory.read_length mem off 4)
  have hlength : bytes32 (chunkValueLength mem off) = mem.read (off + 4) 4 :=
    bytes32_word32 (Memory.read_length mem (off + 4) 4)
  have hheader : sizeofTLVChunk = 4 + 4 := rfl
  rw [chunkBytes, tlvHeader, htype, hlength, Memory.read_add, hheader,
    Memory.read_add]

theorem chunkSize_of_wide {w : Nat} (hw : 32 < w) (mem : Memory) (off : Nat) :
    chunkSize w mem off =
      sizeofTLVChunk + (chunkValueLength mem off).toNat := by
  have hheader : sizeofTLVChunk = 8 := rfl
  have hpow : 2 ^ 33 ≤ 2 ^ w := Nat.pow_le_pow_right (by decide) hw
  have hlength := (chunkValueLength mem off).toNat_lt
  rw [chunkSize]
  apply Nat.mod_eq_of_lt
  omega

/-!
## What the loop accepts
-/

namespace PacketDeserialiser

variable {w : Nat} {mem : Memory}

theorem FieldChain.splits (hw : 32 < w) {pos remain : Nat} {chain : List Nat}
    (h : FieldChain w mem pos remain chain) : Splits (mem.read pos remain) := by
  induction h with
  | done pos => exact Splits.nil
  | @field pos remain rest hheader hsize hrest ih =>
      have hwide := chunkSize_of_wide hw mem pos
      let value := mem.read (pos + sizeofTLVChunk)
        (chunkValueLength mem pos).toNat
      have hlength : value.length = (chunkValueLength mem pos).toNat :=
        Memory.read_length mem _ _
      have hfits : value.length < 2 ^ 32 := by
        rw [hlength]
        exact (chunkValueLength mem pos).toNat_lt
      have hencode : (Field.mk (chunkType mem pos) value hfits).encode =
          mem.read pos (chunkSize w mem pos) := by
        rw [hwide, ← chunkBytes_eq, Field.encode, chunkBytes]
        simp only [hlength, UInt32.ofNat_toNat]
        rfl
      have hsplit : mem.read pos remain =
          (Field.mk (chunkType mem pos) value hfits).encode ++
            mem.read (pos + chunkSize w mem pos)
              (remain - chunkSize w mem pos) := by
        rw [hencode, ← Memory.read_add, Nat.add_sub_cancel' hsize]
      rw [hsplit]
      exact Splits.field _ ih

theorem FieldChain.rewrites (hw : 32 < w) {pos remain : Nat} {chain : List Nat}
    (h : FieldChain w mem pos remain chain) :
    chain.flatMap (chunkBytes mem) = mem.read pos remain := by
  induction h with
  | done pos => rfl
  | @field pos remain rest hheader hsize hrest ih =>
      rw [List.flatMap_cons, ih, chunkBytes_eq, ← chunkSize_of_wide hw,
        ← Memory.read_add, Nat.add_sub_cancel' hsize]

theorem FieldChain.of_splits (hw : 32 < w) {bytes : List UInt8} {pos : Nat}
    (h : Splits bytes) (hmem : mem.Holds pos bytes) :
    exists chain, FieldChain w mem pos bytes.length chain := by
  induction h generalizing pos with
  | nil => exact ⟨[], FieldChain.done pos⟩
  | @field field rest _ ih =>
      rcases Memory.holds_append.mp hmem with ⟨hfield, hrest⟩
      have hparts := hfield
      rw [Field.encode, tlvHeader, List.append_assoc, Memory.holds_append,
        Memory.holds_append, bytes32_length] at hparts
      have hread : mem.read (pos + 4) 4 =
          bytes32 (UInt32.ofNat field.value.length) := by
        simpa [Memory.Holds] using hparts.2.1
      have hlength : (chunkValueLength mem pos).toNat = field.value.length := by
        rw [chunkValueLength, hread, word32_bytes32, UInt32.toNat_ofNat',
          Nat.mod_eq_of_lt field.fits]
      have hsize : chunkSize w mem pos = field.encode.length := by
        rw [chunkSize_of_wide hw, hlength, Field.encode_length]
      rcases ih hrest with ⟨chain, hchain⟩
      refine ⟨pos :: chain, FieldChain.field ?_ ?_ ?_⟩
      · rw [List.length_append, Field.encode_length]
        omega
      · rw [List.length_append, hsize]
        omega
      · rw [hsize, List.length_append, Nat.add_sub_cancel_left]
        exact hchain

theorem fieldLoop_total (hw : 32 < w) (mem : Memory) {fuel remain : Nat}
    (pos : Nat) (acc : List Nat) (hfuel : remain < fuel) :
    fieldLoop w mem fuel pos remain acc = some (.error .malformed) ∨
      exists fields, fieldLoop w mem fuel pos remain acc = some (.ok fields) := by
  induction fuel generalizing pos remain acc with
  | zero => omega
  | succ fuel ih =>
      rw [fieldLoop]
      split
      · split
        · exact Or.inl rfl
        · have hwide := chunkSize_of_wide hw mem pos
          have hheader : sizeofTLVChunk = 8 := rfl
          exact ih _ _ (by omega)
      · exact Or.inr ⟨acc, rfl⟩

/-!
## What the constructor accepts
-/

/-- The packet type, the declared length and every recorded field, in order. -/
def rewrite (pd : PacketDeserialiser) : List UInt8 :=
  tlvHeader pd.packetType (chunkValueLength pd.memory pd.header) ++
    pd.fields.flatMap (chunkBytes pd.memory)

/-- Which buffers the constructor accepts, and how it rejects the others. -/
structure Classifies (w : Nat) (buffer : List UInt8) (beyond : Memory) :
    Prop where
  accepted : (exists pd,
      Constructs w (bufferOf buffer beyond) buffer.length (.ok pd)) ↔
    BeginsWithPacket buffer
  incomplete :
    Constructs w (bufferOf buffer beyond) buffer.length (.error .incomplete) ↔
      CutShort buffer
  malformed :
    Constructs w (bufferOf buffer beyond) buffer.length (.error .malformed) ↔
      ¬ BeginsWithPacket buffer ∧ ¬ CutShort buffer
  /-- What is recorded of an accepted buffer is what it begins with. -/
  rewritten : forall pd,
    Constructs w (bufferOf buffer beyond) buffer.length (.ok pd) ->
    pd.rewrite = buffer.take (sizeofTLVChunk + declaredLength buffer)

section Classification

variable {buffer : List UInt8} (beyond : Memory)

theorem construct_incomplete_iff (hw : 32 < w) :
    (buffer.length < sizeofTLVChunk ∨
      buffer.length < chunkSize w (bufferOf buffer beyond) 0) ↔
      CutShort buffer := by
  by_cases hheader : buffer.length < sizeofTLVChunk
  · exact iff_of_true (Or.inl hheader) (Or.inl hheader)
  · rw [CutShort, chunkSize_of_wide hw, chunkValueLength_zero beyond (by omega)]

theorem declared_read (hlong : ¬ CutShort buffer) :
    (bufferOf buffer beyond).read sizeofTLVChunk (declaredLength buffer) =
      (buffer.drop sizeofTLVChunk).take (declaredLength buffer) := by
  apply bufferOf_read
  rw [CutShort] at hlong
  omega

theorem beginsWithPacket_iff :
    BeginsWithPacket buffer ↔
      ¬ CutShort buffer ∧
        Splits ((buffer.drop sizeofTLVChunk).take (declaredLength buffer)) := by
  constructor
  · rintro ⟨type, value, behind, hfits, hsplits, rfl⟩
    have hdeclared : declaredLength
        (tlvHeader type (UInt32.ofNat value.length) ++ (value ++ behind)) =
          value.length := by
      rw [declaredLength, tlvHeader, List.append_assoc,
        List.drop_left' (bytes32_length type),
        List.take_left' (bytes32_length _), word32_bytes32, UInt32.toNat_ofNat',
        Nat.mod_eq_of_lt hfits]
    have hheader : sizeofTLVChunk = 8 := rfl
    constructor
    · rw [CutShort, hdeclared]
      simp only [List.length_append, tlvHeader_length]
      omega
    · rw [hdeclared, hheader, List.drop_left' (tlvHeader_length _ _),
        List.take_left' rfl]
      exact hsplits
  · rintro ⟨hlong, hsplits⟩
    rw [CutShort] at hlong
    have hheader : sizeofTLVChunk = 8 := rfl
    let value := (buffer.drop sizeofTLVChunk).take (declaredLength buffer)
    have hlength : value.length = declaredLength buffer := by
      rw [List.length_take, List.length_drop]
      omega
    have hfits : value.length < 2 ^ 32 := by
      rw [hlength]
      exact UInt32.toNat_lt _
    refine ⟨word32 (buffer.take 4), value,
      (buffer.drop sizeofTLVChunk).drop (declaredLength buffer), hfits, hsplits,
      ?_⟩
    have htype : bytes32 (word32 (buffer.take 4)) = buffer.take 4 :=
      bytes32_word32 (by rw [List.length_take]; omega)
    have hdeclared : bytes32 (UInt32.ofNat value.length) =
        (buffer.drop 4).take 4 := by
      rw [hlength, declaredLength, UInt32.ofNat_toNat]
      exact bytes32_word32 (by rw [List.length_take, List.length_drop]; omega)
    have hfirst : buffer.take 4 ++ (buffer.drop 4).take 4 =
        buffer.take sizeofTLVChunk := List.take_add.symm
    rw [tlvHeader, htype, hdeclared, List.take_append_drop, hfirst]
    exact (List.take_append_drop sizeofTLVChunk buffer).symm

theorem constructs_of_long (hw : 32 < w) (hlong : ¬ CutShort buffer) :
    Constructs w (bufferOf buffer beyond) buffer.length (.error .malformed) ∨
      exists pd,
        Constructs w (bufferOf buffer beyond) buffer.length (.ok pd) := by
  have hpass := mt (construct_incomplete_iff beyond hw).mp hlong
  let declared := (chunkValueLength (bufferOf buffer beyond) 0).toNat
  have hloop := fieldLoop_total hw (bufferOf buffer beyond) sizeofTLVChunk []
    (Nat.lt_succ_self declared)
  rcases hloop with herror | ⟨fields, hfields⟩
  · refine Or.inl ⟨declared + 1, ?_⟩
    rw [construct, if_neg hpass, herror]
    rfl
  · refine Or.inr ⟨⟨bufferOf buffer beyond, 0, fields⟩, declared + 1, ?_⟩
    rw [construct, if_neg hpass, hfields]
    rfl

theorem constructs_incomplete (hw : 32 < w) (hshort : CutShort buffer) :
    Constructs w (bufferOf buffer beyond) buffer.length (.error .incomplete) :=
  ⟨0, by rw [construct, if_pos ((construct_incomplete_iff beyond hw).mpr hshort)]⟩

theorem accepted_iff (hw : 32 < w) :
    (exists pd, Constructs w (bufferOf buffer beyond) buffer.length (.ok pd)) ↔
      BeginsWithPacket buffer := by
  rw [beginsWithPacket_iff]
  constructor
  · rintro ⟨pd, hpd⟩
    rcases constructs_ok_iff.mp hpd with ⟨hheader, hsize, _, _, hchain⟩
    have hlong : ¬ CutShort buffer := by
      rw [← construct_incomplete_iff beyond hw]
      omega
    have hsplits := hchain.splits hw
    rw [chunkValueLength_zero beyond hheader, declared_read beyond hlong] at hsplits
    exact ⟨hlong, hsplits⟩
  · rintro ⟨hlong, hsplits⟩
    have hpass := mt (construct_incomplete_iff beyond hw).mp hlong
    have hheader : sizeofTLVChunk ≤ buffer.length := by omega
    have hholds : (bufferOf buffer beyond).Holds sizeofTLVChunk
        ((buffer.drop sizeofTLVChunk).take (declaredLength buffer)) := by
      rw [Memory.Holds, ← declared_read beyond hlong,
        Memory.read_length]
    rcases FieldChain.of_splits hw hsplits hholds with ⟨chain, hchain⟩
    refine ⟨⟨bufferOf buffer beyond, 0, chain⟩,
      constructs_ok_iff.mpr ⟨hheader, by omega, rfl, rfl, ?_⟩⟩
    rw [chunkValueLength_zero beyond hheader]
    rwa [← declared_read beyond hlong, Memory.read_length] at hchain

theorem rewrite_of_constructs (hw : 32 < w) {pd : PacketDeserialiser}
    (h : Constructs w (bufferOf buffer beyond) buffer.length (.ok pd)) :
    pd.rewrite = buffer.take (sizeofTLVChunk + declaredLength buffer) := by
  rcases constructs_ok_iff.mp h with ⟨hheader, hsize, hmem, hzero, hchain⟩
  have hdeclared := chunkValueLength_zero beyond hheader
  have hwide := chunkSize_of_wide hw (bufferOf buffer beyond) 0
  have hall : chunkBytes (bufferOf buffer beyond) 0 =
      buffer.take (sizeofTLVChunk + declaredLength buffer) := by
    rw [chunkBytes_eq, hdeclared, bufferOf_read (by omega), List.drop_zero]
  rw [rewrite, packetType, hmem, hzero, hchain.rewrites hw, ← hall, chunkBytes,
    Nat.zero_add]

end Classification

/-- The constructor decides the grammar, whatever lies behind the buffer. -/
theorem constructs_classifies (hw : 32 < w) (buffer : List UInt8)
    (beyond : Memory) : Classifies w buffer beyond where
  accepted := accepted_iff beyond hw
  incomplete := by
    constructor
    · intro hincomplete
      by_contra hlong
      rcases constructs_of_long beyond hw hlong with
        hmalformed | ⟨pd, hpd⟩
      · cases hincomplete.unique hmalformed
      · cases hincomplete.unique hpd
    · exact constructs_incomplete beyond hw
  malformed := by
    constructor
    · intro hmalformed
      constructor
      · intro hpacket
        rcases (accepted_iff beyond hw).mpr hpacket with ⟨pd, hpd⟩
        cases hmalformed.unique hpd
      · intro hshort
        cases hmalformed.unique (constructs_incomplete beyond hw hshort)
    · rintro ⟨hother, hlong⟩
      rcases constructs_of_long beyond hw hlong with
        hmalformed | haccepted
      · exact hmalformed
      · exact absurd ((accepted_iff beyond hw).mp haccepted) hother
  rewritten := fun _ => rewrite_of_constructs beyond hw

/-- A 64-bit `size_t`, and a packet of one field with a byte behind it. -/
theorem constructs_classifies_64 :
    Classifies 64 (tlvHeader 1 8 ++ tlvHeader fieldTypeNull 0 ++ [7])
      fun _ => 0 :=
  constructs_classifies (by decide) _ _

end PacketDeserialiser

end DirectPlayLite
