import Mathlib.Data.Nat.Basic
import Mathlib.Data.List.Basic
import Mathlib.Tactic.Ring

/-!
# Little-endian byte strings

Natural numbers of a fixed byte width as lists of bytes, least significant byte
first, and the round trips between the two.  Fixed-width machine words of every
size are read and written through these two functions.
-/

namespace LittleEndian

/-- The low `width` bytes of a number, least significant first. -/
def toBytes : Nat -> Nat -> List UInt8
  | 0, _ => []
  | width + 1, n => UInt8.ofNat n :: toBytes width (n / 256)

def ofBytes : List UInt8 -> Nat
  | [] => 0
  | b :: rest => b.toNat + 256 * ofBytes rest

@[simp] theorem ofBytes_nil : ofBytes [] = 0 := rfl

theorem ofBytes_cons (b : UInt8) (rest : List UInt8) :
    ofBytes (b :: rest) = b.toNat + 256 * ofBytes rest := rfl

@[simp] theorem toBytes_length (width n : Nat) :
    (toBytes width n).length = width := by
  induction width generalizing n with
  | zero => rfl
  | succ width ih => simp [toBytes, ih]

theorem ofBytes_toBytes (width n : Nat) :
    ofBytes (toBytes width n) = n % 256 ^ width := by
  induction width generalizing n with
  | zero => simp [toBytes, Nat.mod_one]
  | succ width ih =>
      have hsplit : n % 256 ^ (width + 1)
          = n % 256 + 256 * (n / 256 % 256 ^ width) := by
        rw [Nat.pow_succ', Nat.mod_mul]
      rw [toBytes, ofBytes_cons, ih, hsplit, UInt8.toNat_ofNat']

theorem ofBytes_lt (bs : List UInt8) : ofBytes bs < 256 ^ bs.length := by
  induction bs with
  | nil => simp
  | cons b rest ih =>
      have hb : b.toNat < 256 := b.toNat_lt
      rw [ofBytes_cons, List.length_cons, Nat.pow_succ']
      omega

theorem toBytes_ofBytes (bs : List UInt8) :
    toBytes bs.length (ofBytes bs) = bs := by
  induction bs with
  | nil => rfl
  | cons b rest ih =>
      have hb : b.toNat < 256 := b.toNat_lt
      have hlow : UInt8.ofNat (b.toNat + 256 * ofBytes rest) = b := by
        apply UInt8.toNat_inj.mp
        rw [UInt8.toNat_ofNat']
        omega
      have hhigh : (b.toNat + 256 * ofBytes rest) / 256 = ofBytes rest := by
        omega
      rw [List.length_cons, toBytes, ofBytes_cons, hlow, hhigh, ih]

/-!
## Words of two and four bytes
-/

def bytes16 (x : UInt16) : List UInt8 := toBytes 2 x.toNat

def word16 (bs : List UInt8) : UInt16 := UInt16.ofNat (ofBytes bs)

def bytes32 (x : UInt32) : List UInt8 := toBytes 4 x.toNat

def word32 (bs : List UInt8) : UInt32 := UInt32.ofNat (ofBytes bs)

@[simp] theorem bytes16_length (x : UInt16) : (bytes16 x).length = 2 :=
  toBytes_length 2 _

@[simp] theorem bytes32_length (x : UInt32) : (bytes32 x).length = 4 :=
  toBytes_length 4 _

@[simp] theorem word16_bytes16 (x : UInt16) : word16 (bytes16 x) = x := by
  apply UInt16.toNat_inj.mp
  have hx : x.toNat < 2 ^ 16 := x.toNat_lt
  rw [word16, bytes16, ofBytes_toBytes, UInt16.toNat_ofNat']
  omega

@[simp] theorem word32_bytes32 (x : UInt32) : word32 (bytes32 x) = x := by
  apply UInt32.toNat_inj.mp
  have hx : x.toNat < 2 ^ 32 := x.toNat_lt
  rw [word32, bytes32, ofBytes_toBytes, UInt32.toNat_ofNat']
  omega

theorem word32_toNat {bs : List UInt8} (h : bs.length = 4) :
    (word32 bs).toNat = ofBytes bs := by
  have hlt := ofBytes_lt bs
  rw [h] at hlt
  rw [word32, UInt32.toNat_ofNat']
  omega

theorem bytes32_word32 {bs : List UInt8} (h : bs.length = 4) :
    bytes32 (word32 bs) = bs := by
  rw [bytes32, word32_toNat h, ← h, toBytes_ofBytes]

theorem bytes16_word16 {bs : List UInt8} (h : bs.length = 2) :
    bytes16 (word16 bs) = bs := by
  have hlt := ofBytes_lt bs
  rw [h] at hlt
  have hvalue : (word16 bs).toNat = ofBytes bs := by
    rw [word16, UInt16.toNat_ofNat']
    omega
  rw [bytes16, hvalue, ← h, toBytes_ofBytes]

/-!
## Strings of two-byte units
-/

def unitsToBytes (units : List UInt16) : List UInt8 :=
  units.flatMap bytes16

/-- The 16-bit units of a byte string, a last odd byte being dropped. -/
def bytesToUnits : List UInt8 -> List UInt16
  | a :: b :: rest => word16 [a, b] :: bytesToUnits rest
  | _ => []

@[simp] theorem unitsToBytes_length (units : List UInt16) :
    (unitsToBytes units).length = 2 * units.length := by
  induction units with
  | nil => rfl
  | cons u rest ih =>
      rw [unitsToBytes, List.flatMap_cons, List.length_append, bytes16_length,
        ← unitsToBytes, ih, List.length_cons]
      ring

theorem bytesToUnits_unitsToBytes (units : List UInt16) :
    bytesToUnits (unitsToBytes units) = units := by
  induction units with
  | nil => rfl
  | cons u rest ih =>
      have hu : word16 (bytes16 u) = u := word16_bytes16 u
      rw [unitsToBytes, List.flatMap_cons, ← unitsToBytes]
      simp only [bytes16, toBytes] at hu ⊢
      rw [List.cons_append, List.cons_append, List.nil_append, bytesToUnits,
        hu, ih]

theorem unitsToBytes_bytesToUnits {count : Nat} {bytes : List UInt8}
    (h : bytes.length = 2 * count) :
    unitsToBytes (bytesToUnits bytes) = bytes := by
  induction count generalizing bytes with
  | zero =>
      rw [List.length_eq_zero_iff.mp h]
      rfl
  | succ count ih =>
      match bytes, h with
      | a :: b :: rest, h =>
          have hrest : rest.length = 2 * count := by
            rw [List.length_cons, List.length_cons] at h
            omega
          have hpair : bytes16 (word16 [a, b]) = [a, b] := bytes16_word16 rfl
          rw [bytesToUnits, unitsToBytes, List.flatMap_cons, ← unitsToBytes,
            ih hrest, hpair]
          rfl

theorem unitsToBytes_inj {units units' : List UInt16}
    (h : unitsToBytes units = unitsToBytes units') : units = units' := by
  rw [← bytesToUnits_unitsToBytes units, h, bytesToUnits_unitsToBytes]

end LittleEndian
