import DirectPlayLite.Lib.LittleEndian
import Mathlib.Data.List.Induction

/-!
# Packet serialiser

A packet is a `TLVChunk` whose value is a run of further chunks, its fields.
The serialiser keeps the whole packet in one byte vector and, on each append,
adds the size of the new field to the `value_length` stored in the first eight
bytes.
-/

namespace DirectPlayLite

open LittleEndian

/-- A Windows `DWORD`, and the 32-bit identifiers that are typedefs of it. -/
abbrev DWORD := UInt32

/-- The sixteen bytes of a `GUID`, in memory order. -/
abbrev GUID := Vector UInt8 16

/-- A `std::wstring`, as the 16-bit units of the Windows `wchar_t`. -/
abbrev WString := List UInt16

instance : LawfulBEq WString := inferInstance

def guidNull : GUID := Vector.replicate 16 0

/-!
## Field types
-/

def fieldTypeNull : UInt32 := 0
def fieldTypeDword : UInt32 := 1
def fieldTypeData : UInt32 := 2
def fieldTypeWstring : UInt32 := 3
def fieldTypeGuid : UInt32 := 4

/-- `sizeof(TLVChunk)`: a 32-bit type and a 32-bit value length. -/
def sizeofTLVChunk : Nat := 8

def tlvHeader (type valueLength : UInt32) : List UInt8 :=
  bytes32 type ++ bytes32 valueLength

@[simp] theorem tlvHeader_length (type valueLength : UInt32) :
    (tlvHeader type valueLength).length = 8 := by
  simp [tlvHeader]

structure PacketSerialiser where
  sbuf : List UInt8
deriving Repr, DecidableEq

namespace PacketSerialiser

def new (type : UInt32) : PacketSerialiser :=
  { sbuf := tlvHeader type 0 }

def rawPacket (ps : PacketSerialiser) : List UInt8 := ps.sbuf

def addValueLength (sbuf : List UInt8) (added : Nat) : List UInt8 :=
  sbuf.take 4 ++
    bytes32 (word32 ((sbuf.drop 4).take 4) + UInt32.ofNat added) ++
    sbuf.drop 8

/-- What every append does: a field header, the value, and the new total. -/
def appendChunk (ps : PacketSerialiser) (type : UInt32) (value : List UInt8) :
    PacketSerialiser :=
  { sbuf :=
      addValueLength
        (ps.sbuf ++ tlvHeader type (UInt32.ofNat value.length) ++ value)
        (sizeofTLVChunk + value.length) }

def appendNull (ps : PacketSerialiser) : PacketSerialiser :=
  ps.appendChunk fieldTypeNull []

def appendDword (ps : PacketSerialiser) (value : DWORD) : PacketSerialiser :=
  ps.appendChunk fieldTypeDword (bytes32 value)

def appendData (ps : PacketSerialiser) (data : List UInt8) :
    PacketSerialiser :=
  ps.appendChunk fieldTypeData data

def appendWstring (ps : PacketSerialiser) (string : WString) :
    PacketSerialiser :=
  ps.appendChunk fieldTypeWstring (unitsToBytes string)

def appendGuid (ps : PacketSerialiser) (guid : GUID) : PacketSerialiser :=
  ps.appendChunk fieldTypeGuid guid.toList

end PacketSerialiser

/-!
## Sequences of appends
-/

/-- One call of an append function with its argument. -/
inductive Append where
  | null
  | dword (word : DWORD)
  | data (bytes : List UInt8)
  | wstring (string : WString)
  | guid (id : GUID)
deriving Repr, DecidableEq

namespace Append

def fieldType : Append -> UInt32
  | null => fieldTypeNull
  | dword _ => fieldTypeDword
  | data _ => fieldTypeData
  | wstring _ => fieldTypeWstring
  | guid _ => fieldTypeGuid

def value : Append -> List UInt8
  | null => []
  | dword word => bytes32 word
  | data bytes => bytes
  | wstring string => unitsToBytes string
  | guid id => id.toList

def encode (call : Append) : List UInt8 :=
  tlvHeader call.fieldType (UInt32.ofNat call.value.length) ++ call.value

@[simp] theorem encode_length (call : Append) :
    call.encode.length = 8 + call.value.length := by
  simp [encode]

def apply (ps : PacketSerialiser) : Append -> PacketSerialiser
  | null => ps.appendNull
  | dword word => ps.appendDword word
  | data bytes => ps.appendData bytes
  | wstring string => ps.appendWstring string
  | guid id => ps.appendGuid id

theorem apply_eq_appendChunk (ps : PacketSerialiser) (call : Append) :
    apply ps call = ps.appendChunk call.fieldType call.value := by
  cases call <;> rfl

def encodeAll (calls : List Append) : List UInt8 := calls.flatMap encode

@[simp] theorem encodeAll_nil : encodeAll [] = [] := rfl

theorem encodeAll_cons (call : Append) (rest : List Append) :
    encodeAll (call :: rest) = call.encode ++ encodeAll rest := by
  simp [encodeAll]

theorem encodeAll_append (xs ys : List Append) :
    encodeAll (xs ++ ys) = encodeAll xs ++ encodeAll ys := by
  simp [encodeAll]

end Append

/-- A packet of the given type with the given appends made in order. -/
def serialise (type : UInt32) (calls : List Append) : PacketSerialiser :=
  calls.foldl Append.apply (PacketSerialiser.new type)

/-!
## The bytes of a serialised packet

The running total in the header is the number of bytes behind it, modulo
`2 ^ 32`, after every append.
-/

namespace PacketSerialiser

theorem addValueLength_header (type total : UInt32) (body : List UInt8)
    (added : Nat) :
    addValueLength (tlvHeader type total ++ body) added =
      tlvHeader type (total + UInt32.ofNat added) ++ body := by
  have htype : (tlvHeader type total ++ body).take 4 = bytes32 type := by
    rw [tlvHeader, List.append_assoc, List.take_append_of_le_length (by simp),
      List.take_of_length_le (by simp)]
  have htail : (tlvHeader type total ++ body).drop 4
      = bytes32 total ++ body := by
    rw [tlvHeader, List.append_assoc, List.drop_append_of_le_length (by simp),
      List.drop_of_length_le (by simp), List.nil_append]
  have htotal : (bytes32 total ++ body).take 4 = bytes32 total := by
    rw [List.take_append_of_le_length (by simp),
      List.take_of_length_le (by simp)]
  have hbody : (tlvHeader type total ++ body).drop 8 = body := by
    rw [List.drop_append_of_le_length (by simp),
      List.drop_of_length_le (by simp), List.nil_append]
  rw [addValueLength, htype, htail, htotal, hbody, word32_bytes32, tlvHeader]

theorem appendChunk_header (type : UInt32) (body value : List UInt8)
    (fieldType : UInt32) :
    ({ sbuf := tlvHeader type (UInt32.ofNat body.length) ++ body } :
        PacketSerialiser).appendChunk fieldType value =
      { sbuf :=
          tlvHeader type
              (UInt32.ofNat
                (body ++
                  (tlvHeader fieldType (UInt32.ofNat value.length) ++
                    value)).length) ++
            (body ++
              (tlvHeader fieldType (UInt32.ofNat value.length) ++ value)) } := by
  have htotal : UInt32.ofNat body.length
        + UInt32.ofNat (sizeofTLVChunk + value.length) =
      UInt32.ofNat
        (body ++
          (tlvHeader fieldType (UInt32.ofNat value.length) ++ value)).length := by
    rw [← UInt32.ofNat_add]
    congr 1
    simp [sizeofTLVChunk]
  rw [appendChunk]
  simp only [List.append_assoc]
  rw [addValueLength_header, htotal]

end PacketSerialiser

theorem serialise_concat (type : UInt32) (calls : List Append)
    (call : Append) :
    serialise type (calls ++ [call]) = Append.apply (serialise type calls) call := by
  simp [serialise]

theorem serialise_rawPacket (type : UInt32) (calls : List Append) :
    (serialise type calls).rawPacket =
      tlvHeader type (UInt32.ofNat (Append.encodeAll calls).length) ++
        Append.encodeAll calls := by
  suffices h : serialise type calls =
      { sbuf := tlvHeader type (UInt32.ofNat (Append.encodeAll calls).length) ++
          Append.encodeAll calls } by
    rw [h]
    rfl
  induction calls using List.reverseRecOn with
  | nil => rfl
  | append_singleton calls call ih =>
      rw [serialise_concat, ih, Append.apply_eq_appendChunk,
        PacketSerialiser.appendChunk_header, Append.encodeAll_append,
        Append.encodeAll_cons, Append.encodeAll_nil, List.append_nil]
      rfl

theorem serialise_rawPacket_length (type : UInt32) (calls : List Append) :
    (serialise type calls).rawPacket.length =
      8 + (Append.encodeAll calls).length := by
  rw [serialise_rawPacket, List.length_append, tlvHeader_length]

end DirectPlayLite
