import RbhTrade.Lib.Abi
import RbhTrade.Lib.Bytes
import RbhTrade.Lib.FixedPoint

/-!
# Names and symbols of tokens

How `chainquery` reads the answer of a contract to `name()` or `symbol()`: as the ABI encoding of a
dynamic string, or as one word with zeros at its end. The string must be short, valid UTF-8 and
without control characters. `abiText_exact` says that these two forms are all that is read, and that
each of them is read back as its string.
-/

namespace RbhTrade.Query

open Abi FixedPoint

/-! ## Reading an answer -/

/-- `wordUint`. -/
def wordUint (data : List UInt8) : Option Nat := if data.length = 32 then
    some (number data) else none

/-- `unicode.IsControl`. -/
def isControl (r : Char) : Bool := r.toNat < 0x20 || (0x7f ≤ r.toNat && r.toNat < 0xa0)

/-- The bytes of the string in an answer. -/
def abiBytes (data : List UInt8) : Option (List UInt8) :=
  if data.length = 32 then some (data.rdropWhile (· = 0))
  else do
    guard (64 ≤ data.length)
    -- The slices are whole words, so the errors that the source ignores here do not occur.
    let offset ← wordUint (data.take 32)
    let n ← wordUint ((data.drop 32).take 32)
    guard (offset = 32 ∧ n < 2 ^ 64 ∧ n ≤ 128)
    guard (data.length = 64 + (n + 31) / 32 * 32 ∧
      data.drop (64 + n) = List.replicate (data.length - (64 + n)) 0)
    some ((data.drop 64).take n)

/-- `abiText`. -/
def abiText (data : List UInt8) : Option (List UInt8) := do
  let text ← abiBytes data
  guard (text ≠ [] ∧ text.length ≤ 128 ∧ text.toByteArray.IsValidUTF8)
  guard (((Bytes.toText text).toList.all fun r => !isControl r) = true)
  some text

/-! ## What is read -/

/-- A string of 1 to 128 bytes that are valid UTF-8, without control characters. -/
structure Displayable (s : List UInt8) : Prop where
  positive : 1 ≤ s.length
  short : s.length ≤ 128
  text : ∃ t, Bytes.ofText t = s ∧ ∀ r ∈ t.toList, isControl r = false

/-- An answer that stands for a string. -/
def Answers (s data : List UInt8) : Prop := data = encode s ∨ (s.length ≤ 32 ∧ data = padded s)

theorem Displayable.not_zero_mem {s : List UInt8} (h : Displayable s) : 0 ∉ s := by
  obtain ⟨t, rfl, ht⟩ := h.text
  refine Bytes.zero_notMem_ofText fun r hr hzero => ?_
  have := ht r hr
  rw [isControl, hzero] at this
  cases this

theorem Displayable.last_ne_zero {s : List UInt8} (h : Displayable s) (hs : s ≠ []) :
    s.getLast hs ≠ 0 :=
  fun hzero => h.not_zero_mem (hzero ▸ List.getLast_mem hs)

/-- The checks on the bytes of the string. -/
theorem abiText_eq_some {data s : List UInt8} :
    abiText data = some s ↔ abiBytes data = some s ∧ Displayable s := by
  unfold abiText
  rw [Option.bind_eq_bind, Option.bind_eq_some_iff]
  constructor
  · rintro ⟨text, hbytes, h⟩
    rw [guard_bind, guard_bind] at h
    obtain ⟨⟨hne, hshort, hvalid⟩, hcontrol, h⟩ := h
    obtain rfl := Option.some.inj h
    obtain ⟨t, rfl⟩ := Bytes.isValidUTF8_iff.mp hvalid
    rw [Bytes.toText_ofText, List.all_eq_true] at hcontrol
    exact ⟨hbytes, List.length_pos_iff.mpr hne, hshort, t, rfl, fun r hr => by
      simpa using hcontrol r hr⟩
  · rintro ⟨hbytes, h⟩
    obtain ⟨t, rfl, ht⟩ := h.text
    refine ⟨_, hbytes, guard_bind.mpr ⟨⟨?_, h.short, Bytes.isValidUTF8_iff.mpr ⟨t, rfl⟩⟩, ?_⟩⟩
    · exact List.length_pos_iff.mp h.positive
    · refine guard_bind.mpr ⟨?_, rfl⟩
      rw [Bytes.toText_ofText, List.all_eq_true]
      exact fun r hr => by simpa using ht r hr

/-- An answer that is not one word is read as the encoding of a string of at most 128 bytes. -/
theorem abiBytes_eq_some {data s : List UInt8} (hlen : data.length ≠ 32) :
    abiBytes data = some s ↔ s.length ≤ 128 ∧ data = encode s := by
  rw [abiBytes, if_neg hlen, guard_bind]
  constructor
  · rintro ⟨hlong, h⟩
    obtain ⟨offset, hoffset, h⟩ := Option.bind_eq_some_iff.mp h
    obtain ⟨n, hn, h⟩ := Option.bind_eq_some_iff.mp h
    rw [guard_bind, guard_bind] at h
    obtain ⟨⟨rfl, -, hshort⟩, ⟨hwhole, hzeros⟩, h⟩ := h
    obtain ⟨-, hoffset⟩ := Option.ite_none_right_eq_some.mp hoffset
    obtain ⟨-, hn⟩ := Option.ite_none_right_eq_some.mp hn
    obtain rfl := Option.some.inj h
    have hs : ((data.drop 64).take n).length = n := by
      rw [List.length_take, List.length_drop]
      omega
    rw [eq_encode_iff (by rw [hs]; omega), hs]
    exact ⟨hshort, hwhole, Option.some.inj hoffset, Option.some.inj hn, rfl, hzeros⟩
  · rintro ⟨hshort, hdata⟩
    obtain ⟨hwhole, hoffset, hn, htext, hzeros⟩ := (eq_encode_iff (by omega)).mp hdata
    have hword : ∀ word : List UInt8, word.length = 32 → wordUint word = some (number word) :=
      fun word h => if_pos h
    have hlong : 64 ≤ data.length := by omega
    refine ⟨hlong, ?_⟩
    rw [hword (data.take 32) (by rw [List.length_take]; omega),
      hword ((data.drop 32).take 32) (by rw [List.length_take, List.length_drop]; omega), hoffset,
      hn]
    refine guard_bind.mpr ⟨⟨rfl, by omega, hshort⟩, guard_bind.mpr ⟨⟨hwhole, hzeros⟩, ?_⟩⟩
    rw [htext]

/-- An answer is read as a string if it stands for it. -/
theorem abiBytes_iff_answers {data s : List UInt8} (h : Displayable s) :
    abiBytes data = some s ↔ Answers s data := by
  have hlt : s.length < 256 ^ 32 := Nat.lt_of_le_of_lt h.short (by decide)
  by_cases hlen : data.length = 32
  · rw [abiBytes, if_pos hlen, Option.some.injEq, eq_padded_iff hlen h.last_ne_zero]
    refine ⟨.inr, fun ha => ha.resolve_left ?_⟩
    rintro rfl
    rw [length_encode hlt] at hlen
    omega
  · rw [abiBytes_eq_some hlen]
    constructor
    · exact fun ha => .inl ha.2
    · rintro (ha | ⟨hs, rfl⟩)
      · exact ⟨h.short, ha⟩
      · exact absurd (length_padded hs) hlen

/-- What `abiText` reads are the displayable strings in their two forms. Any other answer is
refused, and each form is read back. -/
theorem abiText_exact :
    (∀ data s, abiText data = some s ↔ Displayable s ∧ Answers s data) ∧
    (∀ data, abiText data = none ↔ ∀ s, Displayable s → ¬ Answers s data) ∧
    ∀ s, Displayable s →
      abiText (encode s) = some s ∧ (s.length ≤ 32 → abiText (padded s) = some s) := by
  have hread : ∀ data s, abiText data = some s ↔ Displayable s ∧ Answers s data := by
    intro data s
    rw [abiText_eq_some, and_comm]
    exact and_congr_right abiBytes_iff_answers
  refine ⟨hread, fun data => ?_, fun s hs => ⟨?_, fun hlen => ?_⟩⟩
  · rw [Option.eq_none_iff_forall_ne_some]
    exact forall_congr' fun s => (not_congr (hread data s)).trans not_and
  · exact (hread _ s).mpr ⟨hs, .inl rfl⟩
  · exact (hread _ s).mpr ⟨hs, .inr ⟨hlen, rfl⟩⟩

end RbhTrade.Query
