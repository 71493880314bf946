import DirectPlayLite.Packet.Serialiser

/-!
# Packet deserialiser

The constructor walks the fields of a received packet in place and keeps a
pointer to each; the getters read through these pointers.  Memory is a total
function from offsets behind the start of the packet, so that a read past the
end of the received bytes yields whatever lies there.  The length checks add in
`size_t`, whose width is a parameter.
-/

namespace DirectPlayLite

open LittleEndian

inductive PacketError where
  | incomplete
  | malformed
  | missingField
  | typeMismatch
deriving Repr, DecidableEq

/-!
## Memory
-/

/-- The bytes from the start of the packet on. -/
abbrev Memory := Nat -> UInt8

def Memory.read (mem : Memory) (off len : Nat) : List UInt8 :=
  (List.range len).map fun i => mem (off + i)

def bufferOf (bytes : List UInt8) (beyond : Memory) : Memory :=
  fun i => bytes.getD i (beyond i)

@[simp] theorem Memory.read_length (mem : Memory) (off len : Nat) :
    (mem.read off len).length = len := by
  simp [Memory.read]

theorem Memory.read_add (mem : Memory) (off m n : Nat) :
    mem.read off (m + n) = mem.read off m ++ mem.read (off + m) n := by
  simp [Memory.read, List.range_add, Nat.add_assoc, Function.comp_def]

def Memory.Holds (mem : Memory) (off : Nat) (bytes : List UInt8) : Prop :=
  mem.read off bytes.length = bytes

theorem Memory.holds_append {mem : Memory} {off : Nat}
    {xs ys : List UInt8} :
    mem.Holds off (xs ++ ys) ↔
      mem.Holds off xs ∧ mem.Holds (off + xs.length) ys := by
  unfold Memory.Holds
  rw [List.length_append, Memory.read_add]
  constructor
  · intro h
    exact List.append_inj h (by simp)
  · intro h
    rw [h.1, h.2]

theorem bufferOf_holds (bytes rest : List UInt8) (beyond : Memory) :
    (bufferOf (bytes ++ rest) beyond).Holds 0 bytes := by
  apply List.ext_getElem (by simp)
  intro i _ hi
  simp [Memory.read, bufferOf, List.getElem?_append_left hi,
    List.getElem?_eq_getElem hi]

/-!
## Chunks in memory
-/

def chunkType (mem : Memory) (off : Nat) : UInt32 :=
  word32 (mem.read off 4)

def chunkValueLength (mem : Memory) (off : Nat) : UInt32 :=
  word32 (mem.read (off + 4) 4)

/-- `sizeof(TLVChunk) + chunk->value_length` in a `size_t` of `w` bits. -/
def chunkSize (w : Nat) (mem : Memory) (off : Nat) : Nat :=
  (sizeofTLVChunk + (chunkValueLength mem off).toNat) % 2 ^ w

structure PacketDeserialiser where
  memory : Memory
  header : Nat
  fields : List Nat

namespace PacketDeserialiser

/-- The `while(value_remain > 0)` loop; `none` when the fuel runs out. -/
def fieldLoop (w : Nat) (mem : Memory) :
    Nat -> Nat -> Nat -> List Nat -> Option (Except PacketError (List Nat))
  | 0, _, _, _ => none
  | fuel + 1, pos, valueRemain, fields =>
      if valueRemain > 0 then
        if valueRemain < sizeofTLVChunk ∨ valueRemain < chunkSize w mem pos then
          some (.error .malformed)
        else
          fieldLoop w mem fuel (pos + chunkSize w mem pos)
            (valueRemain - chunkSize w mem pos) (fields ++ [pos])
      else
        some (.ok fields)

/--
`PacketDeserialiser::PacketDeserialiser`, with fuel for the loop.  The header is
read only when the buffer is large enough to hold one.
-/
def construct (w fuel : Nat) (mem : Memory) (packetSize : Nat) :
    Option (Except PacketError PacketDeserialiser) :=
  if packetSize < sizeofTLVChunk ∨ packetSize < chunkSize w mem 0 then
    some (.error .incomplete)
  else
    (fieldLoop w mem fuel sizeofTLVChunk (chunkValueLength mem 0).toNat []).map
      fun result => result.map fun fields =>
        { memory := mem, header := 0, fields := fields }

def Constructs (w : Nat) (mem : Memory) (packetSize : Nat)
    (result : Except PacketError PacketDeserialiser) : Prop :=
  exists fuel, construct w fuel mem packetSize = some result

def packetType (pd : PacketDeserialiser) : UInt32 :=
  chunkType pd.memory pd.header

def numFields (pd : PacketDeserialiser) : Nat := pd.fields.length

def isNull (pd : PacketDeserialiser) (index : Nat) :
    Except PacketError Bool :=
  match pd.fields[index]? with
  | none => .error .missingField
  | some field => .ok (chunkType pd.memory field == fieldTypeNull)

/--
The part the four getters share: the field must exist, have the getter's type
and pass the getter's check of its length.
-/
def getField (pd : PacketDeserialiser) (index : Nat) (type : UInt32)
    (lengthOk : Nat -> Bool) : Except PacketError (List UInt8) :=
  match pd.fields[index]? with
  | none => .error .missingField
  | some field =>
      if chunkType pd.memory field ≠ type then
        .error .typeMismatch
      else if !lengthOk (chunkValueLength pd.memory field).toNat then
        .error .malformed
      else
        .ok (pd.memory.read (field + sizeofTLVChunk)
          (chunkValueLength pd.memory field).toNat)

def getDword (pd : PacketDeserialiser) (index : Nat) :
    Except PacketError DWORD :=
  (pd.getField index fieldTypeDword (· == 4)).map word32

def getData (pd : PacketDeserialiser) (index : Nat) :
    Except PacketError (List UInt8) :=
  pd.getField index fieldTypeData fun _ => true

def getWstring (pd : PacketDeserialiser) (index : Nat) :
    Except PacketError WString :=
  (pd.getField index fieldTypeWstring (· % 2 == 0)).map bytesToUnits

/-- The first sixteen bytes of a value, short values being padded. -/
def guidOfBytes (bytes : List UInt8) : GUID :=
  Vector.ofFn fun i => bytes.getD i.val 0

def getGuid (pd : PacketDeserialiser) (index : Nat) :
    Except PacketError GUID :=
  (pd.getField index fieldTypeGuid (· == 16)).map guidOfBytes

/-!
## More fuel does not change the result
-/

theorem fieldLoop_succ {w : Nat} {mem : Memory} {fuel pos remain : Nat}
    {fields : List Nat} {result : Except PacketError (List Nat)}
    (h : fieldLoop w mem fuel pos remain fields = some result) :
    fieldLoop w mem (fuel + 1) pos remain fields = some result := by
  induction fuel generalizing pos remain fields with
  | zero => cases h
  | succ fuel ih =>
      rw [fieldLoop] at h ⊢
      split
      · rename_i hpos
        rw [if_pos hpos] at h
        split
        · rename_i hbad
          rwa [if_pos hbad] at h
        · rename_i hbad
          rw [if_neg hbad] at h
          exact ih h
      · rename_i hpos
        rwa [if_neg hpos] at h

theorem fieldLoop_mono {w : Nat} {mem : Memory} {fuel fuel' pos remain : Nat}
    {fields : List Nat} {result : Except PacketError (List Nat)}
    (hle : fuel ≤ fuel')
    (h : fieldLoop w mem fuel pos remain fields = some result) :
    fieldLoop w mem fuel' pos remain fields = some result := by
  induction hle with
  | refl => exact h
  | step _ ih => exact fieldLoop_succ ih

theorem construct_mono {w : Nat} {mem : Memory} {fuel fuel' size : Nat}
    {result : Except PacketError PacketDeserialiser} (hle : fuel ≤ fuel')
    (h : construct w fuel mem size = some result) :
    construct w fuel' mem size = some result := by
  unfold construct at h ⊢
  split
  · rename_i hshort
    rwa [if_pos hshort] at h
  · rename_i hshort
    rw [if_neg hshort] at h
    cases hloop : fieldLoop w mem fuel sizeofTLVChunk
        (chunkValueLength mem 0).toNat [] with
    | none =>
        rw [hloop] at h
        cases h
    | some loopResult =>
        rw [hloop] at h
        rw [fieldLoop_mono hle hloop]
        exact h

theorem Constructs.unique {w : Nat} {mem : Memory} {size : Nat}
    {r r' : Except PacketError PacketDeserialiser}
    (h : Constructs w mem size r) (h' : Constructs w mem size r') : r = r' := by
  rcases h with ⟨fuel, h⟩
  rcases h' with ⟨fuel', h'⟩
  have hmax := construct_mono (Nat.le_max_left fuel fuel') h
  have hmax' := construct_mono (Nat.le_max_right fuel fuel') h'
  exact Option.some.inj (hmax.symm.trans hmax')

/-!
## The chain of declared fields

The fields the cursor visits when the declared sizes, each taken in `size_t`,
use up the declared value exactly.
-/

inductive FieldChain (w : Nat) (mem : Memory) :
    Nat -> Nat -> List Nat -> Prop where
  | done (pos : Nat) : FieldChain w mem pos 0 []
  | field {pos remain : Nat} {rest : List Nat} :
      sizeofTLVChunk ≤ remain ->
      chunkSize w mem pos ≤ remain ->
      FieldChain w mem (pos + chunkSize w mem pos)
        (remain - chunkSize w mem pos) rest ->
      FieldChain w mem pos remain (pos :: rest)

theorem fieldLoop_ok_chain {w : Nat} {mem : Memory} {fuel pos remain : Nat}
    {acc fields : List Nat}
    (h : fieldLoop w mem fuel pos remain acc = some (.ok fields)) :
    exists chain, fields = acc ++ chain ∧ FieldChain w mem pos remain chain := by
  induction fuel generalizing pos remain acc with
  | zero => cases h
  | succ fuel ih =>
      rw [fieldLoop] at h
      split at h
      · split at h
        · cases h
        · rename_i hbad
          rcases ih h with ⟨chain, hfields, hchain⟩
          refine ⟨pos :: chain, ?_, ?_⟩
          · rw [hfields, List.append_assoc]
            rfl
          · exact FieldChain.field (by omega) (by omega) hchain
      · rename_i hzero
        have hremain : remain = 0 := by omega
        subst hremain
        cases h
        exact ⟨[], by simp, FieldChain.done pos⟩

theorem FieldChain.fieldLoop {w : Nat} {mem : Memory} {pos remain : Nat}
    {chain : List Nat} (h : FieldChain w mem pos remain chain)
    (acc : List Nat) :
    fieldLoop w mem (chain.length + 1) pos remain acc =
      some (.ok (acc ++ chain)) := by
  induction h generalizing acc with
  | done pos => simp [PacketDeserialiser.fieldLoop]
  | field hheader hsize _ ih =>
      have hpos : sizeofTLVChunk = 8 := rfl
      rw [List.length_cons, PacketDeserialiser.fieldLoop, if_pos (by omega),
        if_neg (by omega), ih, List.append_assoc]
      rfl

theorem constructs_ok_iff {w : Nat} {mem : Memory} {size : Nat}
    {pd : PacketDeserialiser} :
    Constructs w mem size (.ok pd) ↔
      sizeofTLVChunk ≤ size ∧ chunkSize w mem 0 ≤ size ∧
        pd.memory = mem ∧ pd.header = 0 ∧
        FieldChain w mem sizeofTLVChunk (chunkValueLength mem 0).toNat
          pd.fields := by
  constructor
  · rintro ⟨fuel, h⟩
    unfold construct at h
    split at h
    · cases h
    · rename_i hlong
      cases hloop : PacketDeserialiser.fieldLoop w mem fuel sizeofTLVChunk
          (chunkValueLength mem 0).toNat [] with
      | none =>
          rw [hloop] at h
          cases h
      | some result =>
          rw [hloop] at h
          cases result with
          | error e => cases h
          | ok fields =>
              rcases fieldLoop_ok_chain hloop with ⟨chain, hfields, hchain⟩
              cases h
              rw [hfields]
              exact ⟨by omega, by omega, rfl, rfl, hchain⟩
  · rintro ⟨hheader, hsize, hmem, hzero, hchain⟩
    refine ⟨pd.fields.length + 1, ?_⟩
    rw [construct, if_neg (by omega), hchain.fieldLoop]
    cases pd
    simp_all [Except.map]

end PacketDeserialiser
end DirectPlayLite
