import DirectPlayLite.Packet.Deserialiser

/-!
# Bounds of a received packet

On Win32 the sums `sizeof(TLVChunk) + value_length` are made in 32 bits.  The
constructor keeps every recorded field inside the buffer as long as no such sum
wraps; a length of `2 ^ 32 - 8` or more passes the comparison as a small number.
-/

namespace DirectPlayLite
namespace PacketDeserialiser

open LittleEndian

/-- Header, declared value and every recorded field lie below `packetSize`. -/
def InsideBuffer (pd : PacketDeserialiser) (packetSize : Nat) : Prop :=
  pd.header + sizeofTLVChunk + (chunkValueLength pd.memory pd.header).toNat
      ≤ packetSize ∧
    forall field, field ∈ pd.fields ->
      field + sizeofTLVChunk + (chunkValueLength pd.memory field).toNat
        ≤ packetSize

/-- `sizeof(TLVChunk) + value_length` fits in 32 bits. -/
def LengthFits (mem : Memory) (off : Nat) : Prop :=
  (chunkValueLength mem off).toNat < 2 ^ 32 - sizeofTLVChunk

/--
Whenever the declared sizes, added modulo `2 ^ 32`, use up the packet exactly,
none of them wraps.
-/
def NoLengthWraps (mem : Memory) (packetSize : Nat) : Prop :=
  forall chain,
    sizeofTLVChunk ≤ packetSize ->
    chunkSize 32 mem 0 ≤ packetSize ->
    FieldChain 32 mem sizeofTLVChunk (chunkValueLength mem 0).toNat chain ->
    forall off, off ∈ 0 :: chain -> LengthFits mem off

theorem chunkSize_of_lengthFits {mem : Memory} {off : Nat}
    (h : LengthFits mem off) :
    chunkSize 32 mem off =
      sizeofTLVChunk + (chunkValueLength mem off).toNat := by
  have hpos : sizeofTLVChunk = 8 := rfl
  unfold LengthFits at h
  unfold chunkSize
  apply Nat.mod_eq_of_lt
  omega

theorem FieldChain.inside {mem : Memory} {pos remain : Nat}
    {chain : List Nat} (h : FieldChain 32 mem pos remain chain)
    (hfits : forall off, off ∈ chain -> LengthFits mem off) :
    forall off, off ∈ chain ->
      off + sizeofTLVChunk + (chunkValueLength mem off).toNat
        ≤ pos + remain := by
  induction h with
  | done pos => simp
  | @field pos remain rest hheader hsize _ ih =>
      have hhead := chunkSize_of_lengthFits (hfits pos (by simp))
      intro off hoff
      rcases List.mem_cons.mp hoff with rfl | hrest
      · omega
      · have htail := ih (fun o ho => hfits o (List.mem_cons_of_mem _ ho)) off hrest
        omega

/--
The constructor's bounds guarantee holds of a buffer exactly when no declared
length on its chain wraps.
-/
theorem inside_iff_noLengthWraps (mem : Memory) (packetSize : UInt32) :
    (forall pd, Constructs 32 mem packetSize.toNat (.ok pd) ->
        pd.InsideBuffer packetSize.toNat) ↔
      NoLengthWraps mem packetSize.toNat := by
  have hsize32 : packetSize.toNat < 2 ^ 32 := packetSize.toNat_lt
  have hpos : sizeofTLVChunk = 8 := rfl
  constructor
  · intro hinside chain hheader hsize hchain off hoff
    have hpd : Constructs 32 mem packetSize.toNat
        (.ok { memory := mem, header := 0, fields := chain }) :=
      constructs_ok_iff.mpr ⟨hheader, hsize, rfl, rfl, hchain⟩
    rcases hinside _ hpd with ⟨hdeclared, hfields⟩
    unfold LengthFits
    rcases List.mem_cons.mp hoff with rfl | hfield
    · simp only at hdeclared
      omega
    · have hoffInside := hfields off hfield
      simp only at hoffInside
      omega
  · intro hfits pd hpd
    rcases constructs_ok_iff.mp hpd with ⟨hheader, hsize, rfl, hzero, hchain⟩
    have hall := hfits pd.fields hheader hsize hchain
    have hdeclared := chunkSize_of_lengthFits (hall 0 (by simp))
    refine ⟨by rw [hzero]; omega, ?_⟩
    intro field hfield
    have hin := FieldChain.inside hchain
      (fun off hoff => hall off (List.mem_cons_of_mem _ hoff)) field hfield
    omega

/--
Twenty bytes: a packet of type 1 declaring twelve value bytes, whose first field
declares `2 ^ 32 - 4` bytes.  Its size wraps to four, so the cursor moves on to
the last eight bytes, which form an empty field.
-/
def wrappingPacket : List UInt8 :=
  tlvHeader 1 12 ++ tlvHeader fieldTypeData 0xFFFFFFFC ++ bytes32 0

/-- The constructor accepts the wrapping packet with its first field outside. -/
theorem wrappingPacket_escapes :
    ¬ forall (mem : Memory) (packetSize : UInt32) (pd : PacketDeserialiser),
      Constructs 32 mem packetSize.toNat (.ok pd) ->
        pd.InsideBuffer packetSize.toNat := by
  intro hall
  have hpd : Constructs 32 (bufferOf wrappingPacket fun _ => 0) 20
      (.ok { memory := bufferOf wrappingPacket fun _ => 0, header := 0,
             fields := [8, 12] }) := ⟨3, rfl⟩
  have hinside := (hall _ 20 _ hpd).2 8 (by simp)
  revert hinside
  decide

end PacketDeserialiser
end DirectPlayLite
