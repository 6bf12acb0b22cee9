import Mathlib.Data.List.Basic
import RbhTrade.Lib.Decimal
import RbhTrade.Lib.Hex

/-!
# The bytes of texts

The UTF-8 bytes of a text, and byte strings that are cut at a mark.
-/

namespace Bytes

/-- The bytes of a text. -/
def ofText (s : String) : List UInt8 := s.toByteArray.data.toList

theorem ofText_eq (s : String) : ofText s = s.toList.flatMap String.utf8EncodeChar := by
  have h : s.toByteArray = s.toList.utf8Encode := by
    rw [← String.toByteArray_ofList, String.ofList_toList]
  rw [ofText, h, List.utf8Encode, List.data_toByteArray]

theorem length_ofText (s : String) : (ofText s).length = s.utf8ByteSize := rfl

theorem ofText_injective : Function.Injective ofText := by
  intro s t h
  rw [← String.toByteArray_inj, ← ByteArray.ext_iff.symm]
  exact Array.toList_inj.mp h

/-- The characters of bytes as `utf8.DecodeRune` reads them, one after the other. A byte that starts
no character is read as the replacement character. -/
def decodeFrom : Nat → List UInt8 → List Char
  | n + 1, b :: bs =>
      match ByteArray.utf8DecodeChar? (b :: bs).toByteArray 0 with
      | some c => c :: decodeFrom n ((b :: bs).drop c.utf8Size)
      | none => '\ufffd' :: decodeFrom n bs
  | _, _ => []

/-- The text that bytes are read as. -/
def toText (bytes : List UInt8) : String := String.ofList (decodeFrom bytes.length bytes)

theorem decodeFrom_encode (cs : List Char) (n : Nat)
    (hn : (cs.flatMap String.utf8EncodeChar).length ≤ n) :
    decodeFrom n (cs.flatMap String.utf8EncodeChar) = cs := by
  induction cs generalizing n with
  | nil => cases n <;> rfl
  | cons c cs ih =>
      have hc := String.length_utf8EncodeChar c
      have hpos := Char.utf8Size_pos c
      rw [List.flatMap_cons] at hn ⊢
      rw [List.length_append, hc] at hn
      cases n with
      | zero => omega
      | succ n =>
          have hread : ByteArray.utf8DecodeChar?
              (String.utf8EncodeChar c ++ cs.flatMap String.utf8EncodeChar).toByteArray 0 =
              some c := by
            rw [List.toByteArray_append]
            exact ByteArray.utf8DecodeChar?_utf8EncodeChar_append
          have hdrop :
              (String.utf8EncodeChar c ++ cs.flatMap String.utf8EncodeChar).drop c.utf8Size =
                cs.flatMap String.utf8EncodeChar := by
            rw [← hc, List.drop_left]
          cases hbytes : String.utf8EncodeChar c ++ cs.flatMap String.utf8EncodeChar with
          | nil =>
              rw [hbytes] at hread
              cases hread
          | cons b bs =>
              rw [hbytes] at hread hdrop
              simp only [decodeFrom, hread, hdrop]
              rw [ih n (by omega)]

theorem toText_ofText (s : String) : toText (ofText s) = s := by
  rw [toText, ofText_eq, decodeFrom_encode _ _ (Nat.le_refl _), String.ofList_toList]

/-- Valid bytes are those of a text. -/
theorem isValidUTF8_iff {bytes : List UInt8} :
    bytes.toByteArray.IsValidUTF8 ↔ ∃ s, ofText s = bytes := by
  constructor
  · intro h
    refine ⟨String.ofByteArray _ h, ?_⟩
    show bytes.toByteArray.data.toList = bytes
    rw [List.data_toByteArray]
  · rintro ⟨s, rfl⟩
    have hs : (ofText s).toByteArray = s.toByteArray := by
      rw [ByteArray.ext_iff, List.data_toByteArray]
      exact Array.toArray_toList
    rw [hs]
    exact s.isValidUTF8

/-- Only the character zero has a byte zero. -/
theorem zero_mem_encodeChar {c : Char} (h : 0 ∈ String.utf8EncodeChar c) : c.toNat = 0 := by
  have hbyte : ∀ n < 256, (0 : UInt8) = UInt8.ofNat n → n = 0 := by
    intro n hn he
    have := congrArg UInt8.toNat he
    rw [UInt8.toNat_ofNat', Nat.mod_eq_of_lt hn] at this
    exact this.symm
  unfold String.utf8EncodeChar at h
  dsimp only at h
  have hlow : c.val.toNat = c.toNat := rfl
  split at h
  · have := hbyte c.val.toNat (by omega) (List.mem_singleton.mp h)
    omega
  · split at h
    · simp only [List.mem_cons, List.not_mem_nil, or_false] at h
      rcases h with h | h <;> exact absurd (hbyte _ (by omega) h) (by omega)
    · split at h
      · simp only [List.mem_cons, List.not_mem_nil, or_false] at h
        rcases h with h | h | h <;> exact absurd (hbyte _ (by omega) h) (by omega)
      · simp only [List.mem_cons, List.not_mem_nil, or_false] at h
        rcases h with h | h | h | h <;> exact absurd (hbyte _ (by omega) h) (by omega)

theorem zero_notMem_ofText {s : String} (h : ∀ c ∈ s.toList, c.toNat ≠ 0) : 0 ∉ ofText s := by
  rw [ofText_eq, List.mem_flatMap]
  rintro ⟨c, hc, hzero⟩
  exact h c hc (zero_mem_encodeChar hzero)

theorem zero_notMem_toString (n : Nat) : 0 ∉ ofText (toString n) := by
  refine zero_notMem_ofText fun c hc => ?_
  rw [Decimal.toList_toString] at hc
  have := Hex.isDigit_iff_toNat.mp (Decimal.isDigit_toDigits hc)
  omega

/-! ## Marks -/

variable {α : Type} {mark : α} {u v x y : List α}

/-- What stands before the first mark and what follows it. -/
theorem cut_first_inj (hu : mark ∉ u) (hv : mark ∉ v) (h : u ++ mark :: x = v ++ mark :: y) :
    u = v ∧ x = y := by
  induction u generalizing v with
  | nil =>
      cases v with
      | nil => exact ⟨rfl, (List.cons.inj h).2⟩
      | cons d v => exact absurd ((List.cons.inj h).1 ▸ List.mem_cons_self) hv
  | cons d u ih =>
      cases v with
      | nil => exact absurd ((List.cons.inj h).1 ▸ List.mem_cons_self) hu
      | cons e v =>
          obtain ⟨rfl, htail⟩ := List.cons.inj h
          obtain ⟨rfl, he⟩ := ih (fun hc => hu (List.mem_cons_of_mem d hc))
            (fun hc => hv (List.mem_cons_of_mem d hc)) htail
          exact ⟨rfl, he⟩

/-- What stands before the last mark and what follows it. -/
theorem cut_last_inj (hx : mark ∉ x) (hy : mark ∉ y) (h : u ++ mark :: x = v ++ mark :: y) :
    u = v ∧ x = y := by
  have hreverse := congrArg List.reverse h
  simp only [List.reverse_append, List.reverse_cons, List.append_assoc, List.singleton_append]
    at hreverse
  obtain ⟨hxy, huv⟩ := cut_first_inj (by simpa using hx) (by simpa using hy) hreverse
  exact ⟨List.reverse_injective huv, List.reverse_injective hxy⟩

/-- The parts, each with the mark after it. -/
def terminated (mark : α) (parts : List (List α)) : List α := parts.flatMap (· ++ [mark])

theorem terminated_cons_cons (p : List α) (parts : List (List α)) :
    terminated mark (u :: p :: parts) = terminated mark ((u ++ mark :: p) :: parts) := by
  simp [terminated]

/-- As many parts without a mark can be read back from the end, whatever stands before them. -/
theorem terminated_inj {parts parts' : List (List α)} (hlen : parts.length = parts'.length)
    (hparts : ∀ p ∈ parts, mark ∉ p) (hparts' : ∀ p ∈ parts', mark ∉ p)
    (h : terminated mark (u :: parts) = terminated mark (v :: parts')) : u = v ∧
    parts = parts' := by
  induction parts generalizing u v parts' with
  | nil =>
      obtain rfl := List.length_eq_zero_iff.mp hlen.symm
      exact ⟨by simpa [terminated] using h, rfl⟩
  | cons p parts ih =>
      cases parts' with
      | nil => cases hlen
      | cons q parts' =>
          rw [List.forall_mem_cons] at hparts hparts'
          -- The first two parts and the mark between them are one part of the same text.
          rw [terminated_cons_cons, terminated_cons_cons] at h
          obtain ⟨hfirst, rfl⟩ := ih (Nat.succ.inj hlen) hparts.2 hparts'.2 h
          obtain ⟨rfl, rfl⟩ := cut_last_inj hparts.1 hparts'.1 hfirst
          exact ⟨rfl, rfl⟩

end Bytes
