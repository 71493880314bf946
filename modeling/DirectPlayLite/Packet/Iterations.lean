import DirectPlayLite.Packet.Bounds
import DirectPlayLite.Peer.Codes

/-!
# Iterations of the field loop

What bounds the field loop is that every field takes its eight header bytes off
what remains.  On Win32 a declared length from `2 ^ 32 - 8` on wraps the size of
the field to less than eight, and `2 ^ 32 - 8` itself to nothing at all.
-/

namespace DirectPlayLite
namespace PacketDeserialiser

open LittleEndian

/--
After some iterations that have not thrown, the loop stands at a position with
some bytes of the declared value remaining.
-/
inductive Iterated (w : Nat) (mem : Memory) : Nat -> Nat -> Nat -> Prop where
  | begin :
      Iterated w mem 0 sizeofTLVChunk (chunkValueLength mem 0).toNat
  | iterate {count pos remain : Nat} :
      Iterated w mem count pos remain ->
      0 < remain ->
      sizeofTLVChunk ≤ remain ->
      chunkSize w mem pos ≤ remain ->
      Iterated w mem (count + 1) (pos + chunkSize w mem pos)
        (remain - chunkSize w mem pos)

/-- The check before the loop lets the packet pass. -/
def HeaderPasses (mem : Memory) (packetSize : Nat) : Prop :=
  sizeofTLVChunk ≤ packetSize ∧ chunkSize 32 mem 0 ≤ packetSize

/--
The constructor is through with its loop after at most `packetSize / 8`
iterations, the last of which may throw, and every iteration that does not throw
leaves less than there was.
-/
structure EndsInTime (mem : Memory) (packetSize : Nat) : Prop where
  returns : exists result,
    construct 32 (packetSize / 8 + 1) mem packetSize = some result
  bounded : HeaderPasses mem packetSize ->
    forall count pos remain, Iterated 32 mem count pos remain ->
      0 < remain -> count + 1 ≤ packetSize / 8
  decreases : HeaderPasses mem packetSize ->
    forall count pos remain, Iterated 32 mem count pos remain ->
      sizeofTLVChunk ≤ remain -> chunkSize 32 mem pos ≤ remain ->
      remain - chunkSize 32 mem pos < remain

/-!
## The fields that follow each other
-/

/--
The fields at some offsets lie one behind the other, by the sizes they declare,
in so many bytes from a position on.
-/
inductive FieldsFrom (mem : Memory) : Nat -> Nat -> List Nat -> Prop where
  | nil (pos remain : Nat) : FieldsFrom mem pos remain []
  | cons {pos remain : Nat} {rest : List Nat} :
      sizeofTLVChunk ≤ remain ->
      chunkSize 32 mem pos ≤ remain ->
      FieldsFrom mem (pos + chunkSize 32 mem pos)
        (remain - chunkSize 32 mem pos) rest ->
      FieldsFrom mem pos remain (pos :: rest)

def sizesOf (mem : Memory) (fields : List Nat) : Nat :=
  (fields.map (chunkSize 32 mem)).sum

/-- Neither the header nor a field that the loop can come to makes its sum wrap. -/
def LengthsFit (mem : Memory) (packetSize : Nat) : Prop :=
  HeaderPasses mem packetSize ->
    forall fields,
      FieldsFrom mem sizeofTLVChunk (chunkValueLength mem 0).toNat fields ->
        forall off, off ∈ 0 :: fields -> LengthFits mem off

/-- No field that the loop can come to declares `2 ^ 32 - 8` bytes. -/
def NoneEmptied (mem : Memory) (packetSize : Nat) : Prop :=
  HeaderPasses mem packetSize ->
    forall fields,
      FieldsFrom mem sizeofTLVChunk (chunkValueLength mem 0).toNat fields ->
        forall off, off ∈ fields ->
          (chunkValueLength mem off).toNat ≠ 2 ^ 32 - sizeofTLVChunk

section Fields

variable {mem : Memory} {pos remain : Nat} {fields : List Nat}

theorem sizesOf_concat (fields : List Nat) (off : Nat) :
    sizesOf mem (fields ++ [off]) = sizesOf mem fields + chunkSize 32 mem off := by
  simp [sizesOf]

theorem FieldsFrom.concat (h : FieldsFrom mem pos remain fields)
    (hheader : sizeofTLVChunk ≤ remain - sizesOf mem fields)
    (hsize : chunkSize 32 mem (pos + sizesOf mem fields) ≤
      remain - sizesOf mem fields) :
    FieldsFrom mem pos remain (fields ++ [pos + sizesOf mem fields]) := by
  induction h with
  | nil pos remain => exact .cons hheader hsize (.nil _ _)
  | @cons pos remain rest hfirst hfits _ ih =>
      have hsum : sizesOf mem (pos :: rest) =
          chunkSize 32 mem pos + sizesOf mem rest := by
        simp [sizesOf]
      rw [hsum] at hheader hsize ⊢
      rw [← Nat.add_assoc] at hsize ⊢
      rw [← Nat.sub_sub] at hheader hsize
      exact .cons hfirst hfits (ih hheader hsize)

theorem FieldsFrom.reached {count : Nat} (h : FieldsFrom mem pos remain fields)
    (hpos : Iterated 32 mem count pos remain) :
    forall off, off ∈ fields ->
      exists countThere remainThere,
        Iterated 32 mem countThere off remainThere ∧
          sizeofTLVChunk ≤ remainThere ∧ chunkSize 32 mem off ≤ remainThere := by
  induction h generalizing count with
  | nil pos remain => simp
  | @cons pos remain rest hheader hsize _ ih =>
      intro off hoff
      rcases List.mem_cons.mp hoff with rfl | hrest
      · exact ⟨count, remain, hpos, hheader, hsize⟩
      · have hlong : sizeofTLVChunk = 8 := rfl
        exact ih (hpos.iterate (by omega) hheader hsize) off hrest

theorem Iterated.comesBy {count : Nat} (h : Iterated 32 mem count pos remain) :
    exists fields,
      FieldsFrom mem sizeofTLVChunk (chunkValueLength mem 0).toNat fields ∧
        fields.length = count ∧
        pos = sizeofTLVChunk + sizesOf mem fields ∧
        remain = (chunkValueLength mem 0).toNat - sizesOf mem fields := by
  induction h with
  | begin => exact ⟨[], .nil _ _, rfl, rfl, rfl⟩
  | @iterate count pos remain _ _ hheader hsize ih =>
      rcases ih with ⟨fields, hfields, hcount, rfl, rfl⟩
      refine ⟨fields ++ [sizeofTLVChunk + sizesOf mem fields],
        hfields.concat hheader hsize, ?_, ?_, ?_⟩
      · rw [List.length_append, hcount]
        rfl
      · rw [sizesOf_concat, Nat.add_assoc]
      · rw [sizesOf_concat, Nat.sub_sub]

end Fields

/-!
## When the loop ends in time
-/

theorem iterated_of_fieldLoop_none {w : Nat} {mem : Memory}
    {fuel count pos remain : Nat} {acc : List Nat}
    (hpos : Iterated w mem count pos remain)
    (h : fieldLoop w mem fuel pos remain acc = none) :
    exists posThere remainThere,
      Iterated w mem (count + fuel) posThere remainThere := by
  induction fuel generalizing count pos remain acc with
  | zero => exact ⟨pos, remain, hpos⟩
  | succ fuel ih =>
      rw [fieldLoop] at h
      split at h
      · rename_i hleft
        split at h
        · cases h
        · rename_i hgood
          have hnext := hpos.iterate hleft (by omega) (by omega)
          have hlast := ih hnext h
          rwa [Nat.add_assoc, Nat.add_comm 1 fuel] at hlast
      · cases h

theorem Iterated.previous {w : Nat} {mem : Memory} {count pos remain : Nat}
    (h : Iterated w mem (count + 1) pos remain) :
    exists posBefore remainBefore,
      Iterated w mem count posBefore remainBefore ∧ 0 < remainBefore := by
  cases h with
  | iterate hbefore hleft => exact ⟨_, _, hbefore, hleft⟩

theorem construct_returns {mem : Memory} {packetSize bound : Nat}
    (hbounded : HeaderPasses mem packetSize ->
      forall count pos remain, Iterated 32 mem count pos remain ->
        0 < remain -> count + 1 ≤ bound) :
    exists result, construct 32 (bound + 1) mem packetSize = some result := by
  unfold construct
  split
  · exact ⟨_, rfl⟩
  · rename_i hlong
    cases hloop : fieldLoop 32 mem (bound + 1) sizeofTLVChunk
        (chunkValueLength mem 0).toNat [] with
    | none =>
        rcases iterated_of_fieldLoop_none .begin hloop with ⟨pos, remain, hlast⟩
        rw [Nat.zero_add] at hlast
        rcases hlast.previous with ⟨posBefore, remainBefore, hbefore, hleft⟩
        have hcount := hbounded ⟨by omega, by omega⟩ _ _ _ hbefore hleft
        omega
    | some result => exact ⟨_, rfl⟩

section Bounds

variable {mem : Memory}

theorem chunkSize_eq_zero_iff (mem : Memory) (off : Nat) :
    chunkSize 32 mem off = 0 ↔
      (chunkValueLength mem off).toNat = 2 ^ 32 - sizeofTLVChunk := by
  have hheader : sizeofTLVChunk = 8 := rfl
  have hlength := (chunkValueLength mem off).toNat_lt
  unfold chunkSize
  omega

theorem fieldLoop_stays {pos remain : Nat}
    (hheader : sizeofTLVChunk ≤ remain)
    (hzero : chunkSize 32 mem pos = 0)
    (fuel : Nat) (acc : List Nat) :
    fieldLoop 32 mem fuel pos remain acc = none := by
  have hlong : sizeofTLVChunk = 8 := rfl
  induction fuel generalizing acc with
  | zero => rfl
  | succ fuel ih =>
      rw [fieldLoop, if_pos (by omega), if_neg (by omega), hzero]
      exact ih (acc ++ [pos])

theorem fieldLoop_of_iterated {count pos remain fuel : Nat}
    {result : Except PacketError (List Nat)}
    (h : Iterated 32 mem count pos remain)
    (hloop : fieldLoop 32 mem fuel sizeofTLVChunk
      (chunkValueLength mem 0).toNat [] = some result) :
    exists fuelThere accThere,
      fieldLoop 32 mem fuelThere pos remain accThere = some result := by
  induction h with
  | begin => exact ⟨fuel, [], hloop⟩
  | iterate hiterated hleft hheader hsize ih =>
      rcases ih with ⟨fuelThere, accThere, hthere⟩
      cases fuelThere with
      | zero => cases hthere
      | succ fuelThere =>
          rw [fieldLoop, if_pos hleft, if_neg (by omega)] at hthere
          exact ⟨_, _, hthere⟩

theorem Iterated.count_le {packetSize count pos remain : Nat}
    (hnone : NoneEmptied mem packetSize)
    (hpasses : HeaderPasses mem packetSize)
    (h : Iterated 32 mem count pos remain) :
    count + remain ≤ (chunkValueLength mem 0).toNat := by
  induction h with
  | begin => omega
  | @iterate count pos remain hiterated _ hheader hsize ih =>
      rcases hiterated.comesBy with ⟨fields, hfields, rfl, rfl, rfl⟩
      have hlast := hnone hpasses _ (hfields.concat hheader hsize) _
        List.mem_concat_self
      rw [ne_eq, ← chunkSize_eq_zero_iff] at hlast
      omega

theorem ends_iff_noneEmptied (mem : Memory) (packetSize : Nat) :
    (exists result, Constructs 32 mem packetSize result) ↔
      NoneEmptied mem packetSize := by
  constructor
  · rintro ⟨result, fuel, hresult⟩ hpasses fields hfields off hoff hwraps
    have hzero := (chunkSize_eq_zero_iff mem off).mpr hwraps
    rcases hfields.reached .begin off hoff with
      ⟨count, remain, hiterated, hlong, hsize⟩
    have hchecked : ¬ (packetSize < sizeofTLVChunk ∨
        packetSize < chunkSize 32 mem 0) := by
      rcases hpasses with ⟨hheader, hdeclared⟩
      omega
    unfold construct at hresult
    rw [if_neg hchecked] at hresult
    cases hloop : fieldLoop 32 mem fuel sizeofTLVChunk
        (chunkValueLength mem 0).toNat [] with
    | none => simp [hloop] at hresult
    | some through =>
        rcases fieldLoop_of_iterated hiterated hloop with ⟨_, _, hthere⟩
        rw [fieldLoop_stays hlong hzero] at hthere
        cases hthere
  · intro hnone
    have hbounded : HeaderPasses mem packetSize ->
        forall count pos remain, Iterated 32 mem count pos remain ->
          0 < remain -> count + 1 ≤ (chunkValueLength mem 0).toNat := by
      intro hpasses count pos remain hiterated hremain
      have hcount := hiterated.count_le hnone hpasses
      omega
    rcases construct_returns hbounded with ⟨result, hresult⟩
    exact ⟨result, _, hresult⟩

theorem FieldsFrom.sizes {pos remain : Nat} {fields : List Nat}
    (h : FieldsFrom mem pos remain fields)
    (hfits : forall off, off ∈ fields -> LengthFits mem off) :
    sizeofTLVChunk * fields.length ≤ sizesOf mem fields := by
  induction h with
  | nil pos remain => simp
  | @cons pos remain rest _ _ _ ih =>
      have hsum : sizesOf mem (pos :: rest) =
          chunkSize 32 mem pos + sizesOf mem rest := by
        simp [sizesOf]
      have hfirst := chunkSize_of_lengthFits (hfits pos (by simp))
      have hrest := ih fun off hoff => hfits off (List.mem_cons_of_mem _ hoff)
      rw [hsum, hfirst, List.length_cons, Nat.mul_add]
      omega

theorem Iterated.bounded {packetSize count pos remain : Nat}
    (hfits : LengthsFit mem packetSize)
    (hpasses : HeaderPasses mem packetSize)
    (h : Iterated 32 mem count pos remain)
    (hremain : 0 < remain) :
    count + 1 ≤ packetSize / 8 := by
  have hlong : sizeofTLVChunk = 8 := rfl
  rcases h.comesBy with ⟨fields, hfields, rfl, rfl, rfl⟩
  have hall := hfits hpasses fields hfields
  have hheader := chunkSize_of_lengthFits (hall 0 List.mem_cons_self)
  have hsizes := hfields.sizes fun off hoff =>
    hall off (List.mem_cons_of_mem _ hoff)
  have hpacket := hpasses.2
  rw [hlong] at hsizes
  omega

/--
The field loop ends in time, whatever lies behind the packet, when no declared
length makes its sum wrap; and it ends at all exactly when no field declares
`2 ^ 32 - 8` bytes.
-/
theorem endsInTime_of_lengthsFit (mem : Memory) (packetSize : Nat) :
    (LengthsFit mem packetSize -> EndsInTime mem packetSize) ∧
      ((exists result, Constructs 32 mem packetSize result) ↔
        NoneEmptied mem packetSize) := by
  have hheader : sizeofTLVChunk = 8 := rfl
  refine ⟨fun hfits => ?_, ends_iff_noneEmptied mem packetSize⟩
  have hbounded : HeaderPasses mem packetSize ->
      forall count pos remain, Iterated 32 mem count pos remain ->
        0 < remain -> count + 1 ≤ packetSize / 8 :=
    fun hpasses _ _ _ hiterated hremain => hiterated.bounded hfits hpasses hremain
  constructor
  · exact construct_returns hbounded
  · exact hbounded
  · intro hpasses count pos remain hiterated hlong hsize
    rcases hiterated.comesBy with ⟨fields, hfields, rfl, rfl, rfl⟩
    have hlast := hfits hpasses _ (hfields.concat hlong hsize) _
      (List.mem_cons_of_mem _ List.mem_concat_self)
    rw [chunkSize_of_lengthFits hlast]
    omega

end Bounds

def twoFieldsPacket : List UInt8 :=
  tlvHeader 1 24 ++ (tlvHeader fieldTypeDword 4 ++ bytes32 7) ++
    (tlvHeader fieldTypeData 4 ++ bytes32 9)

theorem twoFieldsPacket_endsInTime :
    EndsInTime (bufferOf twoFieldsPacket fun _ => 0) 32 := by
  apply (endsInTime_of_lengthsFit (bufferOf twoFieldsPacket fun _ => 0) 32).1
  intro _ fields hfields off hoff
  have hheader : LengthFits (bufferOf twoFieldsPacket fun _ => 0) 0 := by
    unfold LengthFits
    decide
  have hfirst : LengthFits (bufferOf twoFieldsPacket fun _ => 0) 8 := by
    unfold LengthFits
    decide
  have hsecond : LengthFits (bufferOf twoFieldsPacket fun _ => 0) 20 := by
    unfold LengthFits
    decide
  have hsize8 : chunkSize 32 (bufferOf twoFieldsPacket fun _ => 0) 8 = 12 := by
    decide
  have hsize20 : chunkSize 32 (bufferOf twoFieldsPacket fun _ => 0) 20 = 12 := by
    decide
  have hlong : sizeofTLVChunk = 8 := rfl
  have hvalue :
      (chunkValueLength (bufferOf twoFieldsPacket fun _ => 0) 0).toNat = 24 := by
    decide
  rcases List.mem_cons.mp hoff with rfl | hoff
  · exact hheader
  rw [hvalue, hlong] at hfields
  cases hfields with
  | nil => cases hoff
  | cons _ _ hrest =>
      rcases List.mem_cons.mp hoff with rfl | hoff
      · exact hfirst
      rw [hsize8] at hrest
      cases hrest with
      | nil => cases hoff
      | cons _ _ hrest =>
          rcases List.mem_cons.mp hoff with rfl | hoff
          · exact hsecond
          rw [hsize20] at hrest
          cases hrest with
          | nil => cases hoff
          | cons hmore _ _ => omega

/-!
## A packet without an end
-/

/--
Sixteen bytes: a packet of type 1 declaring eight value bytes, whose only field
declares `2 ^ 32 - 8`.  Its size wraps to nothing, so the cursor stays on it.
-/
def endlessPacket : List UInt8 :=
  tlvHeader 1 8 ++ tlvHeader fieldTypeData 0xFFFFFFF8

theorem endlessPacket_size (beyond : Memory) :
    chunkSize 32 (bufferOf endlessPacket beyond) 8 = 0 := by
  have hpacket := bufferOf_holds endlessPacket [] beyond
  rw [List.append_nil] at hpacket
  have hfield := (Memory.holds_append.mp hpacket).2
  rw [tlvHeader_length, tlvHeader, Memory.holds_append, bytes32_length] at hfield
  have hread := hfield.2
  rw [Memory.Holds, bytes32_length] at hread
  rw [chunkSize_eq_zero_iff, chunkValueLength, hread, word32_bytes32]
  rfl

/-- The constructor does not get through with the packet. -/
theorem endlessPacket_neverEnds :
    ¬ forall (mem : Memory) (packetSize : Nat),
      packetSize ≤ maxPacketSize -> EndsInTime mem packetSize := by
  intro hall
  have hsmall : 16 ≤ maxPacketSize := by
    unfold maxPacketSize
    omega
  have hends := hall (bufferOf endlessPacket fun _ => 0) 16 hsmall
  rcases hends.returns with ⟨result, hresult⟩
  have hloop := fieldLoop_stays (Nat.le_refl sizeofTLVChunk)
    (endlessPacket_size fun _ => 0) (16 / 8 + 1) []
  unfold construct at hresult
  rw [if_neg (by decide)] at hresult
  have hsize : (chunkValueLength (bufferOf endlessPacket fun _ => 0) 0).toNat = 8 :=
    rfl
  have hheader : sizeofTLVChunk = 8 := rfl
  rw [hheader] at hloop
  rw [hsize, hheader, hloop] at hresult
  cases hresult

end PacketDeserialiser
end DirectPlayLite
