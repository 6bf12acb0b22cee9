import Mathlib.Data.List.DropRight
import Mathlib.Data.Nat.Digits.Lemmas

/-!
# Words and strings of the contract ABI

A word is a number written in 32 bytes, the highest first. A dynamic string that is the only value
of an answer is a word that says where it starts, a word that says how long it is, and its bytes
with zeros up to a whole word. `encode_iff` reads that layout back from any byte string of the right
length. Some contracts answer with one word that holds a short string, zeros after it.
-/

namespace Abi

/-! ## Words -/

/-- The number that bytes write, the highest byte first. -/
def number (bytes : List UInt8) : Nat := Nat.ofDigits 256 (bytes.reverse.map UInt8.toNat)

/-- The word of a number below `2 ^ 256`. -/
def word (n : Nat) : List UInt8 := ((Nat.digitsAppend 256 32 n).map UInt8.ofNat).reverse

theorem length_word {n : Nat} (hn : n < 256 ^ 32) : (word n).length = 32 := by
  rw [word, List.length_reverse, List.length_map, Nat.length_digitsAppend (by decide) 32 hn]

theorem number_word {n : Nat} (hn : n < 256 ^ 32) : number (word n) = n := by
  have hbytes : ((Nat.digitsAppend 256 32 n).map UInt8.ofNat).map UInt8.toNat =
      Nat.digitsAppend 256 32 n := by
    rw [List.map_map]
    refine (List.map_congr_left fun i hi => ?_).trans (List.map_id _)
    exact UInt8.toNat_ofNat_of_lt (Nat.lt_of_mem_digitsAppend (by decide) 32 i hi)
  rw [number, word, List.reverse_reverse, hbytes]
  exact (Nat.setInvOn_digitsAppend_ofDigits (by decide) 32).2 hn

theorem word_number {bytes : List UInt8} (hlen : bytes.length = 32) :
    word (number bytes) = bytes := by
  have hdigits : Nat.digitsAppend 256 32 (number bytes) = bytes.reverse.map UInt8.toNat := by
    refine (Nat.setInvOn_digitsAppend_ofDigits (by decide) 32).1 ⟨?_, fun x hx => ?_⟩
    · rw [List.length_map, List.length_reverse, hlen]
    · obtain ⟨b, -, rfl⟩ := List.mem_map.mp hx
      exact b.toNat_lt
  rw [word, hdigits, List.map_map]
  have hid : (UInt8.ofNat ∘ UInt8.toNat) = id := funext fun b => UInt8.ofNat_toNat
  rw [hid, List.map_id, List.reverse_reverse]

/-- A word is determined by its number. -/
theorem number_eq_iff {bytes : List UInt8} {n : Nat} (hlen : bytes.length = 32)
    (hn : n < 256 ^ 32) :
    number bytes = n ↔ bytes = word n := by
  constructor
  · rintro rfl
    exact (word_number hlen).symm
  · rintro rfl
    exact number_word hn

/-! ## Strings -/

/-- The length of a string in whole words. -/
def wholeWords (n : Nat) : Nat := (n + 31) / 32 * 32

theorem le_wholeWords (n : Nat) : n ≤ wholeWords n := by
  unfold wholeWords
  omega

/-- The encoding of a dynamic string. -/
def encode (s : List UInt8) : List UInt8 :=
  word 32 ++ (word s.length ++ (s ++ List.replicate (wholeWords s.length - s.length) 0))

/-- A string of at most 32 bytes in one word. -/
def padded (s : List UInt8) : List UInt8 := s ++ List.replicate (32 - s.length) 0

theorem length_encode {s : List UInt8} (hs : s.length < 256 ^ 32) :
    (encode s).length = 64 + wholeWords s.length := by
  have := le_wholeWords s.length
  simp only [encode, List.length_append, length_word (by decide : 32 < 256 ^ 32), length_word hs,
    List.length_replicate]
  omega

theorem length_padded {s : List UInt8} (hs : s.length ≤ 32) : (padded s).length = 32 := by
  rw [padded, List.length_append, List.length_replicate]
  omega

/-- A byte string is an encoding if it has the length, the two words and the zeros of one. -/
theorem eq_encode_iff {data s : List UInt8} (hs : s.length < 256 ^ 32) :
    data = encode s ↔
      data.length = 64 + wholeWords s.length ∧ number (data.take 32) = 32 ∧
        number ((data.drop 32).take 32) = s.length ∧ (data.drop 64).take s.length = s ∧
        data.drop (64 + s.length) = List.replicate (data.length - (64 + s.length)) 0 := by
  have hfirst : (word 32).length = 32 := length_word (by decide)
  have hsecond : (word s.length).length = 32 := length_word hs
  constructor
  · rintro rfl
    have hlen := length_encode hs
    have hdrop : (encode s).drop 32 =
        word s.length ++ (s ++ List.replicate (wholeWords s.length - s.length) 0) := by
      rw [encode, List.drop_left' hfirst]
    have hrest : (encode s).drop 64 = s ++ List.replicate (wholeWords s.length - s.length) 0 := by
      rw [show 64 = 32 + 32 from rfl, ← List.drop_drop, hdrop, List.drop_left' hsecond]
    refine ⟨hlen, ?_, ?_, ?_, ?_⟩
    · rw [encode, List.take_left' hfirst, number_word (by decide)]
    · rw [hdrop, List.take_left' hsecond, number_word hs]
    · rw [hrest, List.take_left' rfl]
    · rw [← List.drop_drop, hrest, List.drop_left' rfl, hlen]
      congr 1
      omega
  · rintro ⟨hlen, hoffset, hlength, htext, hzeros⟩
    have hlt : 64 ≤ data.length := by omega
    have hword : data.take 32 = word 32 := by
      refine (number_eq_iff ?_ (by decide)).mp hoffset
      rw [List.length_take]
      omega
    have hcount : (data.drop 32).take 32 = word s.length := by
      refine (number_eq_iff ?_ hs).mp hlength
      rw [List.length_take, List.length_drop]
      omega
    have hpad : data.length - (64 + s.length) = wholeWords s.length - s.length := by omega
    calc data = data.take 32 ++ data.drop 32 := (List.take_append_drop 32 data).symm
      _ = data.take 32 ++ ((data.drop 32).take 32 ++ data.drop 64) := by
          rw [show data.drop 64 = (data.drop 32).drop 32 by rw [List.drop_drop],
            List.take_append_drop 32 (data.drop 32), List.take_append_drop]
      _ = data.take 32 ++ ((data.drop 32).take 32 ++
            ((data.drop 64).take s.length ++ data.drop (64 + s.length))) := by
          rw [← List.drop_drop, List.take_append_drop]
      _ = encode s := by rw [hword, hcount, htext, hzeros, hpad, encode]

/-- One word holds a string if the string is what stands before the zeros at its end. -/
theorem eq_padded_iff {data s : List UInt8} (hlen : data.length = 32)
    (hlast : ∀ h : s ≠ [], s.getLast h ≠ 0) :
    data.rdropWhile (· = 0) = s ↔ s.length ≤ 32 ∧ data = padded s := by
  constructor
  · rintro rfl
    have hsplit := List.rdropWhile_append_rtakeWhile (p := fun b : UInt8 => decide (b = 0))
      (l := data)
    have hzeros : data.rtakeWhile (· = 0) =
        List.replicate (32 - (data.rdropWhile (· = 0)).length) 0 := by
      refine List.eq_replicate_iff.mpr ⟨?_, fun b hb => ?_⟩
      · have := congrArg List.length hsplit
        rw [List.length_append, hlen] at this
        omega
      · simpa using List.mem_rtakeWhile_imp hb
    refine ⟨hlen ▸ (List.rdropWhile_prefix _ data).length_le, ?_⟩
    rw [padded, ← hzeros, hsplit]
  · rintro ⟨-, rfl⟩
    have hdrop : ∀ k, (s ++ List.replicate k (0 : UInt8)).rdropWhile (· = 0) = s := by
      intro k
      induction k with
      | zero =>
          rw [List.replicate_zero, List.append_nil, List.rdropWhile_eq_self_iff]
          exact fun h => by simpa using hlast h
      | succ k ih =>
          rw [List.replicate_succ', ← List.append_assoc,
            List.rdropWhile_concat_pos _ _ _ (by decide), ih]
    exact hdrop _

end Abi
