import Mathlib.Data.String.Basic

/-!
# Hexadecimal digits

The digits that `encoding/hex` reads, those of lower case, and the bytes of a text of digits.
-/

namespace Hex

def isHex (c : Char) : Bool := c.isDigit || ('a' ≤ c && c ≤ 'f') || ('A' ≤ c && c ≤ 'F')

/-- The class `[0-9a-f]`. -/
def isLowerHex (c : Char) : Bool := c.isDigit || ('a' ≤ c && c ≤ 'f')

def hexVal (c : Char) : Nat :=
  if c.isDigit then c.toNat - '0'.toNat
  else if 'a' ≤ c then c.toNat - 'a'.toNat + 10
  else c.toNat - 'A'.toNat + 10

/-- `hex.DecodeString`: the bytes of an even number of digits. -/
def decode : List Char → Option (List Nat)
  | [] => some []
  | a :: b :: rest =>
      if isHex a && isHex b then (decode rest).map fun bytes => (hexVal a * 16 + hexVal b) :: bytes
      else none
  | [_] => none

/-- `hex.EncodeToString`. -/
def encode : List UInt8 → List Char
  | [] => []
  | b :: bytes =>
      Nat.digitChar (b.toNat / 16) :: Nat.digitChar (b.toNat % 16) :: encode bytes

/-! ## Code points -/

variable {c : Char}

theorem le_iff_toNat {d : Char} : c ≤ d ↔ c.toNat ≤ d.toNat := Iff.rfl

theorem isDigit_iff_toNat : c.isDigit = true ↔ 48 ≤ c.toNat ∧ c.toNat ≤ 57 := by
  simp only [Char.isDigit, Bool.and_eq_true, decide_eq_true_eq]
  exact Iff.rfl

theorem isHex_iff_toNat :
    isHex c = true ↔ (48 ≤ c.toNat ∧ c.toNat ≤ 57) ∨ (97 ≤ c.toNat ∧ c.toNat ≤ 102) ∨
      (65 ≤ c.toNat ∧ c.toNat ≤ 70) := by
  simp only [isHex, Bool.or_eq_true, Bool.and_eq_true, decide_eq_true_eq, isDigit_iff_toNat,
    le_iff_toNat, or_assoc]
  exact Iff.rfl

theorem isLowerHex_iff_toNat :
    isLowerHex c = true ↔ (48 ≤ c.toNat ∧ c.toNat ≤ 57) ∨ (97 ≤ c.toNat ∧ c.toNat ≤ 102) := by
  simp only [isLowerHex, Bool.or_eq_true, Bool.and_eq_true, decide_eq_true_eq, isDigit_iff_toNat,
    le_iff_toNat]
  exact Iff.rfl

theorem toLower_eq_iff_toNat : c.toLower = c ↔ ¬ (65 ≤ c.toNat ∧ c.toNat ≤ 90) := by
  unfold Char.toLower
  split
  · rename_i h
    refine iff_of_false (fun he => ?_) (not_not_intro h)
    have hval := congrArg Char.val he
    simp at hval
  · rename_i h
    exact iff_of_true rfl h

theorem utf8Size_of_toNat (h : c.toNat ≤ 127) : c.utf8Size = 1 :=
  Char.utf8Size_eq_one_iff.mpr h

theorem utf8Size_of_isHex (h : isHex c = true) : c.utf8Size = 1 := by
  rw [isHex_iff_toNat] at h
  exact utf8Size_of_toNat (by omega)

/-- A lower-case digit is a digit that lower case keeps. -/
theorem isLowerHex_iff : isLowerHex c = true ↔ isHex c = true ∧ c.toLower = c := by
  rw [isLowerHex_iff_toNat, isHex_iff_toNat, toLower_eq_iff_toNat]
  omega

theorem digitChar_hex {n : Nat} (h : n < 16) :
    isHex (Nat.digitChar n) = true ∧ hexVal (Nat.digitChar n) = n := by
  have all : ∀ n < 16, isHex (Nat.digitChar n) = true ∧ hexVal (Nat.digitChar n) = n := by decide
  exact all n h

/-! ## Decoding -/

theorem decode_isSome : ∀ {cs : List Char}, cs.length % 2 = 0 → cs.all isHex = true →
    (decode cs).isSome = true
  | [], _, _ => rfl
  | [_], h, _ => by cases h
  | a :: b :: rest, h, hall => by
      simp only [List.all_cons, Bool.and_eq_true] at hall
      have hlen : rest.length % 2 = 0 := by
        simp only [List.length_cons] at h
        omega
      have hrest : (decode rest).isSome = true := decode_isSome hlen hall.2.2
      rw [decode, hall.1, hall.2.1]
      simpa using hrest

theorem isHex_of_decode {cs : List Char} (h : (decode cs).isSome = true) :
    ∀ c ∈ cs, isHex c = true := by
  fun_induction decode cs with
  | case1 => simp
  | case2 a b rest hab ih =>
      rw [Bool.and_eq_true] at hab
      rw [Option.isSome_map] at h
      simp only [List.forall_mem_cons]
      exact ⟨hab.1, hab.2, ih h⟩
  | case3 => cases h
  | case4 => cases h

/-! ## Encoding -/

theorem length_encode (bytes : List UInt8) : (encode bytes).length = 2 * bytes.length := by
  induction bytes with
  | nil => rfl
  | cons b bytes ih =>
      simp only [encode, List.length_cons, ih]
      omega

theorem decode_encode (bytes : List UInt8) :
    decode (encode bytes) = some (bytes.map UInt8.toNat) := by
  induction bytes with
  | nil => rfl
  | cons b bytes ih =>
      have hb := b.toNat_lt
      obtain ⟨hhigh, hhighVal⟩ := digitChar_hex (n := b.toNat / 16) (by omega)
      obtain ⟨hlow, hlowVal⟩ := digitChar_hex (n := b.toNat % 16) (by omega)
      have hsum : b.toNat / 16 * 16 + b.toNat % 16 = b.toNat := by omega
      simp [encode, decode, hhigh, hlow, hhighVal, hlowVal, ih, hsum]

theorem isLowerHex_digitChar {n : Nat} (h : n < 16) : isLowerHex (Nat.digitChar n) = true := by
  have all : ∀ n < 16, isLowerHex (Nat.digitChar n) = true := by decide
  exact all n h

theorem isLowerHex_encode (bytes : List UInt8) : ∀ c ∈ encode bytes, isLowerHex c = true := by
  induction bytes with
  | nil => nofun
  | cons b bytes ih =>
      have hb := b.toNat_lt
      simp only [encode, List.forall_mem_cons]
      exact ⟨isLowerHex_digitChar (by omega), isLowerHex_digitChar (by omega), ih⟩

theorem digitChar_hexVal (h : isLowerHex c = true) :
    hexVal c < 16 ∧ Nat.digitChar (hexVal c) = c := by
  have all : ∀ n < 103, isLowerHex (Char.ofNat n) = true →
      hexVal (Char.ofNat n) < 16 ∧ Nat.digitChar (hexVal (Char.ofNat n)) = Char.ofNat n := by decide
  have hlt : c.toNat < 103 := by
    rw [isLowerHex_iff_toNat] at h
    omega
  have hc := all c.toNat hlt
  rw [Char.ofNat_toNat] at hc
  exact hc h

/-- Lower-case digits are those of the bytes they stand for. -/
theorem encode_decode {cs : List Char} {ns : List Nat} (hlower : ∀ c ∈ cs, isLowerHex c = true)
    (h : decode cs = some ns) : encode (ns.map UInt8.ofNat) = cs := by
  induction cs using decode.induct generalizing ns with
  | case1 =>
      cases h
      rfl
  | case2 a b rest hhex ih =>
      rw [decode, if_pos hhex] at h
      obtain ⟨ns, hrest, rfl⟩ := Option.map_eq_some_iff.mp h
      simp only [List.forall_mem_cons] at hlower
      obtain ⟨ha, hb, hlower⟩ := hlower
      obtain ⟨halt, haeq⟩ := digitChar_hexVal ha
      obtain ⟨hblt, hbeq⟩ := digitChar_hexVal hb
      have hbyte : (UInt8.ofNat (hexVal a * 16 + hexVal b)).toNat = hexVal a * 16 + hexVal b := by
        rw [UInt8.toNat_ofNat', Nat.mod_eq_of_lt (by omega)]
      have hhigh : (hexVal a * 16 + hexVal b) / 16 = hexVal a := by omega
      have hlow : (hexVal a * 16 + hexVal b) % 16 = hexVal b := by omega
      simp only [List.map_cons, encode, hbyte, hhigh, hlow, haeq, hbeq, ih hlower hrest]
  | case3 a b rest hhex =>
      rw [decode, if_neg hhex] at h
      cases h
  | case4 => cases h

theorem encode_injective : Function.Injective encode := by
  intro a b h
  have hdecoded := decode_encode a
  rw [h, decode_encode b] at hdecoded
  exact List.map_injective_iff.mpr (fun _ _ => UInt8.toNat_inj.mp) (Option.some.inj hdecoded).symm

end Hex
