import Mathlib.Data.List.Basic
import Mathlib.Data.List.TakeWhile
import Mathlib.Tactic.Ring

/-!
# Numbers in text

Hexadecimal and dotted decimal notation, as C prints them into narrow strings and
scans them out of wide ones, and what of a text a scan depends on.
-/

namespace Scanning

def widen (c : UInt8) : UInt16 := UInt16.ofNat c.toNat

def cString (memory : List UInt16) : List UInt16 := memory.takeWhile (· != 0)

@[simp] theorem cString_cons_zero (s : List UInt16) : cString (0 :: s) = [] := rfl

theorem cString_cons {c : UInt16} {s : List UInt16} (h : c ≠ 0) :
    cString (c :: s) = c :: cString s :=
  List.takeWhile_cons_of_pos (bne_iff_ne.mpr h)

theorem cString_append {s rest : List UInt16} (h : 0 ∉ s) :
    cString (s ++ rest) = s ++ cString rest := by
  induction s with
  | nil => rfl
  | cons c s ih =>
      have hc : c ≠ 0 := by
        intro hzero
        exact h (hzero ▸ List.mem_cons_self)
      rw [List.cons_append, cString_cons hc, ih (List.not_mem_of_not_mem_cons h)]
      rfl

theorem cString_append_zero {s rest : List UInt16} (h : 0 ∉ s) :
    cString (s ++ 0 :: rest) = s := by
  rw [cString_append h, cString_cons_zero, List.append_nil]

theorem exists_behind_cString (s : List UInt16) :
    exists rest, s ++ [0] = cString s ++ 0 :: rest := by
  induction s with
  | nil => exact ⟨[], rfl⟩
  | cons c s ih =>
      by_cases hc : c = 0
      · subst hc
        exact ⟨s ++ [0], rfl⟩
      · rcases ih with ⟨rest, hrest⟩
        rw [cString_cons hc, List.cons_append, hrest]
        exact ⟨rest, rfl⟩

theorem cString_eq_self {s : List UInt16} (h : 0 ∉ s) : cString s = s := by
  have happend : cString (s ++ []) = s ++ cString [] := cString_append h
  rw [List.append_nil] at happend
  exact happend.trans (List.append_nil s)

/-!
## Hexadecimal notation
-/

def hexDigit (d : Nat) : UInt8 := UInt8.ofNat (if d < 10 then 48 + d else 55 + d)

/-- `%0wX` of a number that has at most `w` digits. -/
def printHex : Nat -> Nat -> List UInt8
  | 0, _ => []
  | w + 1, n => printHex w (n / 16) ++ [hexDigit (n % 16)]

def hexValue (c : UInt16) : Option Nat :=
  if 48 ≤ c ∧ c ≤ 57 then some (c.toNat - 48)
  else if 65 ≤ c ∧ c ≤ 70 then some (c.toNat - 55)
  else if 97 ≤ c ∧ c ≤ 102 then some (c.toNat - 87)
  else none

def isHex (c : UInt16) : Bool := (hexValue c).isSome

def value (digits : List UInt16) : Nat :=
  digits.foldl (fun n c => n * 16 + (hexValue c).getD 0) 0

def isSpace (c : UInt16) : Bool := c == 32 || 9 ≤ c && c ≤ 13

def signed : List UInt16 -> Bool × List UInt16
  | [] => (false, [])
  | c :: rest => if c = 45 then (true, rest) else if c = 43 then (false, rest)
      else (false, c :: rest)

def unprefixed : List UInt16 -> List UInt16
  | a :: b :: rest => if a = 48 ∧ (b = 120 ∨ b = 88) then rest else a :: b :: rest
  | s => s

def convertHex (field : List UInt16) : Option UInt32 :=
  let digits := (unprefixed (signed field).2).takeWhile isHex
  if digits = [] then none
  else if (signed field).1 then some (-UInt32.ofNat (value digits))
  else some (UInt32.ofNat (value digits))

def scanHex (w : Nat) (s : List UInt16) : Option UInt32 :=
  convertHex ((s.dropWhile isSpace).take w)

def scanLiteral : List UInt16 -> List UInt16 -> Option (List UInt16)
  | [], s => some s
  | _ :: _, [] => none
  | l :: literal, c :: s => if c = l then scanLiteral literal s else none

def scan (literal : List UInt16) (w : Nat) (s : List UInt16) : Option UInt32 :=
  (scanLiteral literal s).bind (scanHex w)

theorem hexValue_hexDigit {d : Nat} (h : d < 16) :
    hexValue (widen (hexDigit d)) = some d := by
  revert d
  decide

theorem hexValue_lt {c : UInt16} {d : Nat} (h : hexValue c = some d) : d < 16 := by
  unfold hexValue at h
  split at h
  · rename_i hdigit
    have hle : c.toNat ≤ 57 := hdigit.2
    cases h
    omega
  split at h
  · rename_i hupper
    have hle : c.toNat ≤ 70 := hupper.2
    cases h
    omega
  split at h
  · rename_i hlower
    have hle : c.toNat ≤ 102 := hlower.2
    cases h
    omega
  · cases h

theorem foldl_value (digits : List UInt16) (n : Nat) :
    digits.foldl (fun n c => n * 16 + (hexValue c).getD 0) n =
      n * 16 ^ digits.length + value digits := by
  induction digits generalizing n with
  | nil => simp [value]
  | cons c digits ih =>
      rw [value, List.foldl_cons, List.foldl_cons, ih, ih, List.length_cons]
      ring

theorem value_append (xs ys : List UInt16) :
    value (xs ++ ys) = value xs * 16 ^ ys.length + value ys := by
  rw [value, List.foldl_append, foldl_value]
  rfl

theorem value_cons (c : UInt16) (digits : List UInt16) :
    value (c :: digits) = (hexValue c).getD 0 * 16 ^ digits.length + value digits := by
  rw [value, List.foldl_cons, foldl_value, Nat.zero_mul, Nat.zero_add]

theorem value_lt (digits : List UInt16) : value digits < 16 ^ digits.length := by
  induction digits with
  | nil => decide
  | cons c digits ih =>
      have hdigit : (hexValue c).getD 0 ≤ 15 := by
        cases hc : hexValue c with
        | none => exact Nat.zero_le _
        | some d => exact Nat.le_of_lt_succ (hexValue_lt hc)
      have hmul := Nat.mul_le_mul_right (16 ^ digits.length) hdigit
      rw [value_cons, List.length_cons, Nat.pow_succ]
      omega

@[simp] theorem printHex_length (w n : Nat) : (printHex w n).length = w := by
  induction w generalizing n with
  | zero => rfl
  | succ w ih => rw [printHex, List.length_append, ih, List.length_singleton]

theorem mem_printHex {w n : Nat} {c : UInt8} (h : c ∈ printHex w n) :
    exists d, d < 16 ∧ c = hexDigit d := by
  induction w generalizing n with
  | zero => cases h
  | succ w ih =>
      rcases List.mem_append.mp h with hleft | hright
      · exact ih hleft
      · exact ⟨n % 16, Nat.mod_lt _ (by decide), List.mem_singleton.mp hright⟩

theorem value_printHex (w n : Nat) : value ((printHex w n).map widen) = n % 16 ^ w := by
  induction w generalizing n with
  | zero => simp [printHex, value, Nat.mod_one]
  | succ w ih =>
      have hlast : value [widen (hexDigit (n % 16))] = n % 16 := by
        rw [value_cons, hexValue_hexDigit (Nat.mod_lt _ (by decide))]
        simp [value]
      rw [printHex, List.map_append, value_append, ih, List.map_singleton, hlast,
        List.length_singleton, Nat.pow_one, Nat.pow_succ', Nat.mod_mul]
      omega

theorem hexDigit_plain {d : Nat} (h : d < 16) :
    isHex (widen (hexDigit d)) = true ∧ isSpace (widen (hexDigit d)) = false ∧
      widen (hexDigit d) ≠ 45 ∧ widen (hexDigit d) ≠ 43 ∧
      widen (hexDigit d) ≠ 120 ∧ widen (hexDigit d) ≠ 88 ∧
      widen (hexDigit d) ≠ 0 := by
  revert d
  decide

/-!
## Reading back
-/

theorem signed_append {s rest : List UInt16} (h : s ≠ []) :
    signed (s ++ rest) = ((signed s).1, (signed s).2 ++ rest) := by
  cases s with
  | nil => exact absurd rfl h
  | cons c s =>
      rw [List.cons_append, signed, signed]
      split
      · rfl
      split <;> rfl

theorem signed_cons {c : UInt16} {rest : List UInt16} (hminus : c ≠ 45) (hplus : c ≠ 43) :
    signed (c :: rest) = (false, c :: rest) := by
  rw [signed, if_neg hminus, if_neg hplus]

theorem unprefixed_cons {c : UInt16} {rest : List UInt16} (h : c ≠ 48) :
    unprefixed (c :: rest) = c :: rest := by
  cases rest with
  | nil => rfl
  | cons b rest => rw [unprefixed, if_neg (fun hboth => h hboth.1)]

theorem unprefixed_cons_cons {a b : UInt16} {rest : List UInt16} (hlower : b ≠ 120)
    (hupper : b ≠ 88) : unprefixed (a :: b :: rest) = a :: b :: rest := by
  rw [unprefixed, if_neg]
  rintro ⟨_, hx | hx⟩
  · exact hlower hx
  · exact hupper hx

theorem unprefixed_append {a b : UInt16} {s rest : List UInt16} :
    unprefixed (a :: b :: s ++ rest) = unprefixed (a :: b :: s) ++ rest := by
  rw [List.cons_append, List.cons_append, unprefixed, unprefixed]
  split <;> rfl

theorem scanLiteral_append (literal s : List UInt16) :
    scanLiteral literal (literal ++ s) = some s := by
  induction literal with
  | nil => rfl
  | cons l literal ih =>
      rw [List.cons_append, scanLiteral, if_pos rfl]
      exact ih

theorem scan_printHex (literal rest : List UInt16) {w : Nat} (hw : 1 < w) (n : Nat) :
    scan literal w (literal ++ (printHex w n).map widen ++ rest) =
      some (UInt32.ofNat (n % 16 ^ w)) := by
  have hplain : forall c, c ∈ (printHex w n).map widen -> isHex c = true ∧
      isSpace c = false ∧ c ≠ 45 ∧ c ≠ 43 ∧ c ≠ 120 ∧ c ≠ 88 ∧ c ≠ 0 := by
    intro c hc
    rcases List.mem_map.mp hc with ⟨narrow, hnarrow, rfl⟩
    rcases mem_printHex hnarrow with ⟨d, hd, rfl⟩
    exact hexDigit_plain hd
  have hvalue := value_printHex w n
  have hlength : ((printHex w n).map widen).length = w := by simp
  generalize (printHex w n).map widen = digits at hplain hvalue hlength
  match digits with
  | [] | [_] =>
      rw [← hlength] at hw
      exact absurd hw (by simp)
  | a :: b :: s =>
      rcases hplain a List.mem_cons_self with ⟨_, hspace, hminus, hplus, _⟩
      rcases hplain b (List.mem_cons_of_mem a List.mem_cons_self) with
        ⟨_, _, _, _, hlower, hupper, _⟩
      have hall : (a :: b :: s).takeWhile isHex = a :: b :: s :=
        List.takeWhile_eq_self_iff.mpr fun c hc => (hplain c hc).1
      have hfield : (((a :: b :: s) ++ rest).dropWhile isSpace).take w =
          a :: b :: s := by
        rw [List.cons_append, List.dropWhile_cons_of_neg (by simp [hspace]),
          ← List.cons_append, ← hlength, List.take_left]
      rw [List.append_assoc, scan, scanLiteral_append, Option.bind_some, scanHex, hfield,
        convertHex]
      rw [signed_cons hminus hplus, unprefixed_cons_cons hlower hupper, hall, hvalue]
      rfl

/-!
## What a scan depends on
-/

/-- The number of a scan may go on behind a text. -/
def PendingHex (w : Nat) (s : List UInt16) : Prop :=
  (s.dropWhile isSpace).length < w ∧
    forall c, c ∈ unprefixed (signed (s.dropWhile isSpace)).2 -> isHex c = true

/-- A scan has not come to an end at the end of a text. -/
def Pending (literal : List UInt16) (w : Nat) (s : List UInt16) : Prop :=
  s <+: literal ∨ exists rest, s = literal ++ rest ∧ PendingHex w rest

theorem scanLiteral_some {literal s rest : List UInt16}
    (h : scanLiteral literal s = some rest) : s = literal ++ rest := by
  induction literal generalizing s with
  | nil =>
      cases h
      rfl
  | cons l literal ih =>
      cases s with
      | nil => cases h
      | cons c s =>
          rw [scanLiteral] at h
          split at h
          · rename_i hc
            rw [hc, ih h]
            rfl
          · cases h

theorem scanLiteral_none {literal s : List UInt16} (rest : List UInt16)
    (h : scanLiteral literal s = none) (hs : ¬s <+: literal) :
    scanLiteral literal (s ++ rest) = none := by
  induction literal generalizing s with
  | nil => cases h
  | cons l literal ih =>
      cases s with
      | nil => exact absurd List.nil_prefix hs
      | cons c s =>
          rw [scanLiteral] at h
          rw [List.cons_append, scanLiteral]
          split at h
          · rename_i hc
            rw [if_pos hc]
            apply ih h
            intro hprefix
            exact hs (List.cons_prefix_cons.mpr ⟨hc, hprefix⟩)
          · rename_i hc
            rw [if_neg hc]

theorem convertHex_append {field : List UInt16} (rest : List UInt16)
    (h : ¬forall c, c ∈ unprefixed (signed field).2 -> isHex c = true) :
    convertHex (field ++ rest) = convertHex field := by
  have hfield : field ≠ [] := by
    intro hnil
    rw [hnil] at h
    exact h (fun c hc => by cases hc)
  have hbody : unprefixed ((signed field).2 ++ rest) =
      unprefixed (signed field).2 ++ rest := by
    generalize (signed field).2 = body at h
    match body with
    | [] => exact absurd (fun c hc => by cases hc) h
    | [c] =>
        have hc : c ≠ 48 := by
          intro hzero
          apply h
          intro c' hc'
          rw [List.mem_singleton.mp hc', hzero]
          rfl
        rw [unprefixed_cons hc]
        exact unprefixed_cons hc
    | a :: b :: s => exact unprefixed_append
  have hdigits : (unprefixed (signed field).2 ++ rest).takeWhile isHex =
      (unprefixed (signed field).2).takeWhile isHex := by
    rw [List.takeWhile_append, if_neg]
    intro hlength
    apply h
    rw [← List.takeWhile_eq_self_iff]
    exact (List.takeWhile_prefix isHex).eq_of_length hlength
  rw [convertHex, convertHex, signed_append hfield]
  dsimp only
  rw [hbody, hdigits]

theorem scanHex_append {w : Nat} {s : List UInt16} (rest : List UInt16) (hw : 0 < w)
    (h : ¬PendingHex w s) : scanHex w (s ++ rest) = scanHex w s := by
  have hsome : s.dropWhile isSpace ≠ [] := by
    intro hnil
    apply h
    rw [PendingHex, hnil]
    exact ⟨hw, fun c hc => by cases hc⟩
  have hdrop : (s ++ rest).dropWhile isSpace = s.dropWhile isSpace ++ rest := by
    rw [List.dropWhile_append, if_neg]
    rw [List.isEmpty_iff]
    exact hsome
  rw [scanHex, scanHex, hdrop]
  by_cases hlength : (s.dropWhile isSpace).length < w
  · rw [List.take_append, List.take_of_length_le (Nat.le_of_lt hlength)]
    exact convertHex_append _ fun hall => h ⟨hlength, hall⟩
  · rw [List.take_append_of_le_length (Nat.le_of_not_lt hlength)]

theorem scan_append {literal : List UInt16} {w : Nat} {s : List UInt16}
    (rest : List UInt16) (hw : 0 < w) (h : ¬Pending literal w s) :
    scan literal w (s ++ rest) = scan literal w s := by
  rcases not_or.mp h with ⟨hliteral, hnumber⟩
  rw [scan, scan]
  cases hscan : scanLiteral literal s with
  | none => rw [scanLiteral_none rest hscan hliteral]
  | some behind =>
      have hs := scanLiteral_some hscan
      have hpending : ¬PendingHex w behind := fun hp => hnumber ⟨behind, hs, hp⟩
      rw [hs, List.append_assoc, scanLiteral_append, Option.bind_some, Option.bind_some]
      exact scanHex_append rest hw hpending

theorem scan_prefix {literal : List UInt16} {w : Nat} {s : List UInt16}
    (h : s <+: literal) : scan literal w s = none := by
  rw [scan]
  cases hscan : scanLiteral literal s with
  | none => rfl
  | some behind =>
      have hs := scanLiteral_some hscan
      have hlength := h.length_le
      rw [hs, List.length_append] at hlength
      have hnil : behind = [] := List.length_eq_zero_iff.mp (by omega)
      rw [hnil, Option.bind_some]
      simp [scanHex, convertHex, signed, unprefixed]

theorem convertHex_digit {field tail : List UInt16} {c : UInt16} (hc : isHex c = true)
    (hminus : c ≠ 45) (hplus : c ≠ 43) (hzero : c ≠ 48) (hlower : c ≠ 120)
    (hupper : c ≠ 88)
    (h : forall c, c ∈ unprefixed (signed field).2 -> isHex c = true) :
    convertHex (field ++ c :: tail) =
      let number := UInt32.ofNat
        (value (unprefixed (signed field).2 ++ c :: tail.takeWhile isHex))
      some (if (signed field).1 then -number else number) := by
  have hsigned : signed (field ++ c :: tail) =
      ((signed field).1, (signed field).2 ++ c :: tail) := by
    cases field with
    | nil => exact signed_cons hminus hplus
    | cons a s => exact signed_append (List.cons_ne_nil a s)
  have hbody : unprefixed ((signed field).2 ++ c :: tail) =
      unprefixed (signed field).2 ++ c :: tail := by
    match (signed field).2 with
    | [] => exact unprefixed_cons hzero
    | [a] => exact unprefixed_cons_cons hlower hupper
    | a :: b :: s => exact unprefixed_append
  have hdigits : (unprefixed (signed field).2 ++ c :: tail).takeWhile isHex =
      unprefixed (signed field).2 ++ c :: tail.takeWhile isHex := by
    rw [List.takeWhile_append_of_pos h, List.takeWhile_cons_of_pos hc]
  rw [convertHex, hsigned]
  dsimp only
  rw [hbody, hdigits, if_neg (by simp)]
  split <;> rfl

theorem signed_length_le (s : List UInt16) : (signed s).2.length ≤ s.length := by
  cases s with
  | nil => exact Nat.le_refl 0
  | cons c s =>
      rw [signed]
      split
      · exact Nat.le_succ _
      split
      · exact Nat.le_succ _
      · exact Nat.le_refl _

theorem unprefixed_length_le (s : List UInt16) : (unprefixed s).length ≤ s.length := by
  match s with
  | [] | [_] => exact Nat.le_refl _
  | a :: b :: s =>
      rw [unprefixed]
      split
      · exact Nat.le_add_right _ 2
      · exact Nat.le_refl _

theorem value_digit_ne (xs ys : List UInt16) (hlength : xs.length + ys.length < 8) :
    UInt32.ofNat (value (xs ++ 49 :: ys)) ≠ UInt32.ofNat (value (xs ++ 50 :: ys)) := by
  have hlt : forall c, value (xs ++ c :: ys) < 2 ^ 32 := by
    intro c
    calc value (xs ++ c :: ys)
        < 16 ^ (xs ++ c :: ys).length := value_lt _
      _ ≤ 16 ^ 8 := by
        apply Nat.pow_le_pow_right (by decide)
        rw [List.length_append, List.length_cons]
        omega
      _ = 2 ^ 32 := by decide
  have hone : value (xs ++ 49 :: ys) + 16 ^ ys.length = value (xs ++ 50 :: ys) := by
    rw [value_append, value_append, value_cons, value_cons, List.length_cons,
      List.length_cons, show (hexValue 49).getD 0 = 1 by decide,
      show (hexValue 50).getD 0 = 2 by decide]
    ring
  have hpos : 0 < 16 ^ ys.length := Nat.pow_pos (by decide)
  intro heq
  have hmod := congrArg UInt32.toNat heq
  rw [UInt32.toNat_ofNat', UInt32.toNat_ofNat', Nat.mod_eq_of_lt (hlt 49),
    Nat.mod_eq_of_lt (hlt 50)] at hmod
  omega

theorem scanHex_pending {w : Nat} {s : List UInt16} (tail : List UInt16) (hw : w ≤ 8)
    (h : PendingHex w s) : scanHex w (s ++ 49 :: tail) ≠ scanHex w (s ++ 50 :: tail) := by
  rcases h with ⟨hlength, hall⟩
  have hfield : forall c, isSpace c = false ->
      ((s ++ c :: tail).dropWhile isSpace).take w =
        s.dropWhile isSpace ++ c :: tail.take (w - (s.dropWhile isSpace).length - 1) := by
    intro c hc
    have hdrop : (s ++ c :: tail).dropWhile isSpace = s.dropWhile isSpace ++ c :: tail := by
      rw [List.dropWhile_append]
      split
      · rename_i hnil
        rw [List.isEmpty_iff.mp hnil, List.dropWhile_cons_of_neg (by simp [hc])]
        rfl
      · rfl
    rw [hdrop, List.take_append, List.take_of_length_le (Nat.le_of_lt hlength)]
    obtain ⟨k, hk⟩ : exists k, w - (s.dropWhile isSpace).length = k + 1 :=
      ⟨w - (s.dropWhile isSpace).length - 1, by omega⟩
    rw [hk, List.take_succ_cons]
    rfl
  rw [scanHex, scanHex, hfield 49 (by decide), hfield 50 (by decide),
    convertHex_digit (by decide) (by decide) (by decide) (by decide) (by decide)
      (by decide) hall,
    convertHex_digit (by decide) (by decide) (by decide) (by decide) (by decide)
      (by decide) hall]
  have hnumber : (unprefixed (signed (s.dropWhile isSpace)).2).length +
      ((tail.take (w - (s.dropWhile isSpace).length - 1)).takeWhile isHex).length < 8 := by
    have hsigned := signed_length_le (s.dropWhile isSpace)
    have hbody := unprefixed_length_le (signed (s.dropWhile isSpace)).2
    have htail := (List.takeWhile_sublist (l := tail.take
      (w - (s.dropWhile isSpace).length - 1)) isHex).length_le
    have htake := List.length_take_le (w - (s.dropWhile isSpace).length - 1) tail
    omega
  have hne := value_digit_ne _ _ hnumber
  dsimp only
  split
  · intro heq
    exact hne (UInt32.neg_inj.mp (Option.some.inj heq))
  · intro heq
    exact hne (Option.some.inj heq)

/-!
## Dotted decimal notation
-/

def decimal (n : UInt8) : List UInt8 :=
  (Nat.toDigits 10 n.toNat).map fun c => UInt8.ofNat c.toNat

def dotted (a b c d : UInt8) : List UInt8 :=
  decimal a ++ 46 :: decimal b ++ 46 :: decimal c ++ 46 :: decimal d

def isDecimal (c : UInt16) : Bool := 48 ≤ c && c ≤ 57

def decimalValue (digits : List UInt16) : Nat :=
  digits.foldl (fun n c => n * 10 + (c.toNat - 48)) 0

/-- A number of one to three digits, and what is behind it. -/
def readDecimal (s : List UInt16) : Option (UInt8 × List UInt16) :=
  let digits := s.takeWhile isDecimal
  if 0 < digits.length ∧ digits.length ≤ 3 ∧ decimalValue digits < 256 then
    some (UInt8.ofNat (decimalValue digits), s.dropWhile isDecimal)
  else none

def readDot : List UInt16 -> Option (List UInt16)
  | c :: rest => if c = 46 then some rest else none
  | [] => none

/-- The whole of a text as four numbers with dots between them. -/
def readDotted (s : List UInt16) : Option (UInt8 × UInt8 × UInt8 × UInt8) := do
  let (a, s) <- readDecimal s
  let s <- readDot s
  let (b, s) <- readDecimal s
  let s <- readDot s
  let (c, s) <- readDecimal s
  let s <- readDot s
  let (d, s) <- readDecimal s
  if s = [] then some (a, b, c, d) else none

theorem decimal_printed (n : Fin 256) :
    ((decimal (UInt8.ofNat n)).map widen).all isDecimal ∧
      0 < (decimal (UInt8.ofNat n)).length ∧ (decimal (UInt8.ofNat n)).length ≤ 3 ∧
        decimalValue ((decimal (UInt8.ofNat n)).map widen) = n := by
  revert n
  decide +kernel

def EndsNumber (rest : List UInt16) : Prop :=
  rest.takeWhile isDecimal = [] ∧ rest.dropWhile isDecimal = rest

theorem readDecimal_decimal (n : UInt8) {rest : List UInt16} (h : EndsNumber rest) :
    readDecimal ((decimal n).map widen ++ rest) = some (n, rest) := by
  have hprinted := decimal_printed ⟨n.toNat, n.toNat_lt⟩
  rw [UInt8.ofNat_toNat, List.all_eq_true] at hprinted
  rcases hprinted with ⟨hdigits, hpos, hle, hvalue⟩
  have htake : ((decimal n).map widen ++ rest).takeWhile isDecimal =
      (decimal n).map widen := by
    rw [List.takeWhile_append_of_pos hdigits, h.1, List.append_nil]
  have hdrop : ((decimal n).map widen ++ rest).dropWhile isDecimal = rest := by
    rw [List.dropWhile_append_of_pos hdigits, h.2]
  have hlt : n.toNat < 256 := n.toNat_lt
  rw [readDecimal]
  simp [htake, hdrop, hvalue, hpos, hle, hlt]

theorem endsNumber_dot (rest : List UInt16) : EndsNumber (46 :: rest) := ⟨rfl, rfl⟩

theorem readDotted_dotted (a b c d : UInt8) :
    readDotted ((dotted a b c d).map widen) = some (a, b, c, d) := by
  have hdot : widen 46 = 46 := rfl
  have hend := readDecimal_decimal d (show EndsNumber [] from ⟨rfl, rfl⟩)
  rw [List.append_nil] at hend
  simp only [dotted, List.map_append, List.map_cons, hdot, List.append_assoc,
    List.cons_append]
  simp only [readDotted, readDecimal_decimal _ (endsNumber_dot _), readDot,
    Option.bind_eq_bind, Option.bind_some, if_true, hend]

/-- What may stand in dotted decimal notation. -/
def isDotted (c : UInt16) : Bool := isDecimal c || c == 46

theorem readDecimal_some {s rest : List UInt16} {n : UInt8}
    (h : readDecimal s = some (n, rest)) :
    exists digits, s = digits ++ rest ∧ digits.length ≤ 3 ∧
      forall c, c ∈ digits -> isDotted c = true := by
  rw [readDecimal] at h
  split at h
  · rename_i hdigits
    cases h
    refine ⟨s.takeWhile isDecimal, (List.takeWhile_append_dropWhile).symm, hdigits.2.1, ?_⟩
    intro c hc
    rw [isDotted, List.mem_takeWhile_imp hc]
    rfl
  · cases h

theorem readDot_some {s rest : List UInt16} (h : readDot s = some rest) :
    s = 46 :: rest := by
  cases s with
  | nil => cases h
  | cons c s =>
      rw [readDot] at h
      split at h
      · rename_i hc
        cases h
        rw [hc]
      · cases h

theorem readDotted_some {s : List UInt16} {numbers : UInt8 × UInt8 × UInt8 × UInt8}
    (h : readDotted s = some numbers) :
    s.length ≤ 15 ∧ forall c, c ∈ s -> isDotted c = true := by
  simp only [readDotted, Option.bind_eq_bind, Option.bind_eq_some_iff, Prod.exists] at h
  rcases h with ⟨_, _, h₁, _, h₂, _, _, h₃, _, h₄, _, _, h₅, _, h₆, _, _, h₇, hend⟩
  split at hend
  · rename_i hnil
    rcases readDecimal_some h₁ with ⟨first, rfl, hfirst, hfirst'⟩
    cases readDot_some h₂
    rcases readDecimal_some h₃ with ⟨second, rfl, hsecond, hsecond'⟩
    cases readDot_some h₄
    rcases readDecimal_some h₅ with ⟨third, rfl, hthird, hthird'⟩
    cases readDot_some h₆
    rcases readDecimal_some h₇ with ⟨fourth, rfl, hfourth, hfourth'⟩
    cases hnil
    have hdot : isDotted 46 = true := rfl
    constructor
    · simp only [List.length_append, List.length_cons, List.length_nil]
      omega
    · simp only [List.mem_append, List.mem_cons, List.not_mem_nil, or_false]
      intro c hc
      rcases hc with hc | rfl | hc | rfl | hc | rfl | hc
      · exact hfirst' c hc
      · exact hdot
      · exact hsecond' c hc
      · exact hdot
      · exact hthird' c hc
      · exact hdot
      · exact hfourth' c hc
  · cases hend

/-!
## Printed characters
-/

def Printable (c : UInt8) : Prop := c < 128 ∧ c ≠ 0

instance (c : UInt8) : Decidable (Printable c) := inferInstanceAs (Decidable (_ ∧ _))

theorem widen_toNat (c : UInt8) : (widen c).toNat = c.toNat := by
  have hlt : c.toNat < 2 ^ 16 := c.toNat_lt.trans (by decide)
  rw [widen, UInt16.toNat_ofNat', Nat.mod_eq_of_lt hlt]

theorem printable_of_isDecimal {c : UInt8} (h : isDecimal (widen c) = true) :
    Printable c := by
  have hrange : 48 ≤ c.toNat ∧ c.toNat ≤ 57 := by
    rw [isDecimal, Bool.and_eq_true, decide_eq_true_eq, decide_eq_true_eq,
      UInt16.le_iff_toNat_le, UInt16.le_iff_toNat_le, widen_toNat] at h
    exact h
  constructor
  · have hlt : c.toNat < 128 := by omega
    exact hlt
  · intro hzero
    rw [hzero] at hrange
    exact absurd hrange.1 (by decide)

theorem dotted_printable {a b c d ch : UInt8} (h : ch ∈ dotted a b c d) :
    Printable ch := by
  have hdecimal : forall n, ch ∈ decimal n -> Printable ch := by
    intro n hn
    have hprinted := (decimal_printed ⟨n.toNat, n.toNat_lt⟩).1
    rw [UInt8.ofNat_toNat, List.all_eq_true] at hprinted
    exact printable_of_isDecimal (hprinted _ (List.mem_map_of_mem hn))
  simp only [dotted, List.mem_append, List.mem_cons] at h
  rcases h with ((hn | rfl | hn) | rfl | hn) | rfl | hn
  · exact hdecimal a hn
  · decide
  · exact hdecimal b hn
  · decide
  · exact hdecimal c hn
  · decide
  · exact hdecimal d hn

theorem dotted_length_le (a b c d : UInt8) : (dotted a b c d).length ≤ 15 := by
  have hdecimal : forall n : UInt8, (decimal n).length ≤ 3 := by
    intro n
    have hprinted := (decimal_printed ⟨n.toNat, n.toNat_lt⟩).2.2.1
    rw [UInt8.ofNat_toNat] at hprinted
    exact hprinted
  have ha := hdecimal a
  have hb := hdecimal b
  have hc := hdecimal c
  have hd := hdecimal d
  simp only [dotted, List.length_append, List.length_cons]
  omega

theorem hexDigit_printable {d : Nat} (h : d < 16) : Printable (hexDigit d) := by
  revert d
  decide

theorem printHex_printable {w n : Nat} {c : UInt8} (h : c ∈ printHex w n) :
    Printable c := by
  rcases mem_printHex h with ⟨d, hd, rfl⟩
  exact hexDigit_printable hd

theorem zero_not_mem_widen {s : List UInt8} (h : forall c, c ∈ s -> Printable c) :
    0 ∉ s.map widen := by
  intro hzero
  rcases List.mem_map.mp hzero with ⟨c, hc, hwiden⟩
  have hnat := congrArg UInt16.toNat hwiden
  rw [widen_toNat] at hnat
  exact (h c hc).2 (UInt8.toNat_inj.mp hnat)

end Scanning
