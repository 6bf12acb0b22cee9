import Mathlib.Data.List.DropRight
import RbhTrade.Lib.Decimal

/-!
# Decimal notation with a fixed number of places

A number of units is written with its whole part and, after a point, its places without the trailing
zeros. With the number of places fixed, the notation and the number of units determine each other:
the whole part has no leading zero, and the places are digits of a known length.
-/

namespace FixedPoint

open Decimal

theorem guard_bind {α : Type} {p : Prop} {_ : Decidable p} {f : Unit → Option α} {a : α} :
    (guard p >>= f) = some a ↔ p ∧ f () = some a := by
  by_cases h : p <;> simp [guard, h]

/-! ## Digits -/

theorem digitsFrom_append (acc : Nat) (xs ys : List Char) :
    digitsFrom acc (xs ++ ys) = (digitsFrom acc xs).bind fun n => digitsFrom n ys := by
  induction xs generalizing acc with
  | nil => rfl
  | cons x xs ih =>
      simp only [List.cons_append, digitsFrom]
      cases digit? x with
      | none => rfl
      | some d => exact ih _

/-- A number read so far is shifted by the digits that follow it. -/
theorem digitsFrom_eq (acc : Nat) (cs : List Char) :
    digitsFrom acc cs = (digitsFrom 0 cs).map (acc * 10 ^ cs.length + ·) := by
  induction cs generalizing acc with
  | nil => simp [digitsFrom]
  | cons c cs ih =>
      simp only [digitsFrom, Nat.mul_zero, Nat.zero_add]
      cases digit? c with
      | none => rfl
      | some d =>
          dsimp only
          rw [ih (10 * acc + d), ih d, Option.map_map]
          congr 1
          funext n
          simp only [Function.comp_apply, List.length_cons, Nat.pow_succ]
          grind

theorem digitsFrom_zeros (acc n : Nat) :
    digitsFrom acc (List.replicate n '0') = some (acc * 10 ^ n) := by
  induction n generalizing acc with
  | zero => simp [digitsFrom]
  | succ n ih =>
      rw [List.replicate_succ, digitsFrom]
      show digitsFrom (10 * acc + 0) _ = _
      rw [ih, Nat.pow_succ]
      congr 1
      grind

/-- Digits of one length with one value are the same. -/
theorem digitsFrom_inj {xs ys : List Char} {acc n : Nat} (hlen : xs.length = ys.length)
    (hx : digitsFrom acc xs = some n) (hy : digitsFrom acc ys = some n) : xs = ys := by
  induction xs generalizing ys acc with
  | nil => exact (List.length_eq_zero_iff.mp hlen.symm).symm
  | cons x xs ih =>
      cases ys with
      | nil => cases hlen
      | cons y ys =>
          have hlen' : xs.length = ys.length := Nat.succ.inj hlen
          cases hdx : digit? x with
          | none => simp [digitsFrom, hdx] at hx
          | some a =>
              cases hdy : digit? y with
              | none => simp [digitsFrom, hdy] at hy
              | some b =>
                  simp only [digitsFrom, hdx] at hx
                  simp only [digitsFrom, hdy] at hy
                  have hmx := digitsFrom_lt hx
                  have hmy := digitsFrom_lt hy
                  rw [hlen'] at hmx
                  -- Both values lie between the same multiples of the weight of the first digit.
                  obtain rfl : a = b := by
                    rcases Nat.lt_trichotomy a b with hab | hab | hab
                    · have := Nat.mul_le_mul_right (10 ^ ys.length)
                        (show 10 * acc + a + 1 ≤ 10 * acc + b by omega)
                      omega
                    · exact hab
                    · have := Nat.mul_le_mul_right (10 ^ ys.length)
                        (show 10 * acc + b + 1 ≤ 10 * acc + a by omega)
                      omega
                  rw [(digit?_eq_some hdx).2, (digit?_eq_some hdy).2, ih hlen' hx hy]

/-! ## Places -/

/-- The digits of a whole number. -/
structure Whole (w : List Char) : Prop where
  ne_nil : w ≠ []
  digits : ∀ c ∈ w, c.isDigit = true
  lead : 1 < w.length → w.head? ≠ some '0'

theorem Whole.eq_toDigits {w : List Char} (h : Whole w) {n : Nat} (hn : digitsFrom 0 w = some n) :
    w = Nat.toDigits 10 n := by
  cases w with
  | nil => exact absurd rfl h.ne_nil
  | cons c cs =>
      refine (toDigits_digitsFrom hn ?_).symm
      rintro rfl
      by_contra hcs
      exact h.lead (by simpa using List.length_pos_iff.mpr hcs) rfl

theorem Whole.toDigits (n : Nat) : Whole (Nat.toDigits 10 n) where
  ne_nil := Nat.toDigits_ne_nil
  digits := fun _ hc => isDigit_toDigits hc
  lead := by
    intro hlen hlead
    rw [toDigits_leading hlead] at hlen
    exact absurd hlen (by decide)

/-- The whole part and all places of a number of units. -/
structure Places (places units : Nat) (w g : List Char) : Prop where
  whole : Whole w
  digits : ∀ c ∈ g, c.isDigit = true
  length : g.length = places
  value : digitsFrom 0 (w ++ g) = some units

section Places

variable {p u : Nat} {w g w' g' : List Char}

/-- The units of the parts. -/
theorem Places.parts (h : Places p u w g) :
    digitsFrom 0 w = some (u / 10 ^ p) ∧ digitsFrom 0 g = some (u % 10 ^ p) := by
  obtain ⟨m, hm⟩ := digitsFrom_of_isDigit h.whole.digits 0
  obtain ⟨n, hn⟩ := digitsFrom_of_isDigit h.digits 0
  have hvalue := h.value
  have hlt := (digitsFrom_lt hn).2
  rw [digitsFrom_append, hm, Option.bind_some, digitsFrom_eq, hn, Option.map_some, h.length,
    Option.some.injEq] at hvalue
  rw [h.length, Nat.zero_add, Nat.one_mul] at hlt
  have hpos : 0 < 10 ^ p := Nat.pow_pos (by decide)
  rw [hm, hn, ← hvalue, Nat.mul_comm, Nat.mul_add_div hpos, Nat.mul_add_mod, Nat.div_eq_of_lt hlt,
    Nat.mod_eq_of_lt hlt, Nat.add_zero]
  exact ⟨rfl, rfl⟩

theorem Places.unique (h : Places p u w g) (h' : Places p u w' g') : w = w' ∧ g = g' :=
  ⟨(h.whole.eq_toDigits h.parts.1).trans (h'.whole.eq_toDigits h'.parts.1).symm,
    digitsFrom_inj (h.length.trans h'.length.symm) h.parts.2 h'.parts.2⟩

end Places

/-! ## The notation -/

/-- Digits without their trailing zeros. -/
def trim (f : List Char) : List Char := f.rdropWhile (· = '0')

/-- The whole part, and the places after a point unless there is none. -/
def write (w f : List Char) : List Char := if f ≠ [] then w ++ '.' :: f else w

theorem trim_append_zeros (f : List Char) (n : Nat) :
    trim (f ++ List.replicate n '0') = trim f := by
  induction n with
  | zero => simp
  | succ n ih =>
      rw [List.replicate_succ', ← List.append_assoc, trim,
        List.rdropWhile_concat_pos _ _ _ (by simp)]
      exact ih

theorem trim_trim (f : List Char) : trim (trim f) = trim f := List.rdropWhile_idempotent _ _

/-- The trailing zeros that are trimmed. -/
theorem trim_append (f : List Char) :
    trim f ++ List.replicate (f.length - (trim f).length) '0' = f := by
  have hsplit := List.rdropWhile_append_rtakeWhile (p := fun c => decide (c = '0')) (l := f)
  have hzeros : ∀ c ∈ f.rtakeWhile (fun c => decide (c = '0')), c = '0' := fun c hc => by
    simpa using List.mem_rtakeWhile_imp hc
  have hlength := congrArg List.length hsplit
  rw [List.length_append] at hlength
  conv_rhs => rw [← hsplit]
  rw [trim, List.eq_replicate_iff.mpr ⟨rfl, hzeros⟩]
  congr 2
  omega

theorem length_trim_le (f : List Char) : (trim f).length ≤ f.length := by
  have hlength := congrArg List.length (trim_append f)
  rw [List.length_append] at hlength
  omega

theorem length_write_trim_le (w f : List Char) :
    (write w (trim f)).length ≤ (write w f).length := by
  have := length_trim_le f
  unfold write
  split <;> split
  · simpa using this
  · rename_i hne heq
    rw [not_not.mp heq] at hne
    exact absurd rfl hne
  · simp
  · exact le_refl _

theorem point_notMem {f : List Char} (h : ∀ c ∈ f, c.isDigit = true) : '.' ∉ f := fun hmem =>
  absurd (h '.' hmem) (by decide)

/-- The parts of a written number. -/
theorem splitOn_write {w f : List Char} (hw : ∀ c ∈ w, c.isDigit = true)
    (hf : ∀ c ∈ f, c.isDigit = true) :
    (write w f).splitOn '.' = if f ≠ [] then [w, f] else [w] := by
  have hparts : ∀ parts : List (List Char), (∀ part ∈ parts, ∀ c ∈ part, c.isDigit = true) →
      parts ≠ [] → (List.intercalate ['.'] parts).splitOn '.' = parts := fun parts h =>
    List.splitOn_intercalate '.' fun l hl => point_notMem (h l hl)
  unfold write
  split
  · have := hparts [w, f] (by simpa using ⟨hw, hf⟩) (by simp)
    simpa using this
  · have := hparts [w] (by simpa using hw) (by simp)
    simpa using this

/-! ## Written numbers -/

/-- The characters write a number of units with at most the given places. -/
structure Written (places units : Nat) (cs w f : List Char) : Prop where
  fits : f.length ≤ places
  places : Places places units w (f ++ List.replicate (places - f.length) '0')
  text : cs = write w f

section Written

variable {p u u' : Nat} {cs cs' w f w' f' : List Char}

theorem Written.digits (h : Written p u cs w f) : ∀ c ∈ f, c.isDigit = true := fun c hc =>
  h.places.digits c (List.mem_append_left _ hc)

/-- Digits before and after the point make a written number. -/
theorem Written.of_value (hw : Whole w) (hf : ∀ c ∈ f, c.isDigit = true) (hfits : f.length ≤ p)
    (hvalue : digitsFrom 0 (w ++ (f ++ List.replicate (p - f.length) '0')) = some u) :
    Written p u (write w f) w f where
  fits := hfits
  places :=
    { whole := hw
      digits := by
        intro c hc
        rcases List.mem_append.mp hc with hc | hc
        · exact hf c hc
        · rw [List.eq_of_mem_replicate hc]
          decide
      length := by
        rw [List.length_append, List.length_replicate]
        omega
      value := hvalue }
  text := rfl

/-- The notation without trailing zeros is of the same number. -/
theorem Written.trim (h : Written p u cs w f) : Written p u (write w (trim f)) w (trim f) := by
  have hlen := length_trim_le f
  have hfits := h.fits
  have hzeros : FixedPoint.trim f ++ List.replicate (p - (FixedPoint.trim f).length) '0' =
      f ++ List.replicate (p - f.length) '0' := by
    have hsplit : p - (FixedPoint.trim f).length =
        (f.length - (FixedPoint.trim f).length) + (p - f.length) := by omega
    rw [hsplit, List.replicate_add, ← List.append_assoc, trim_append]
  exact ⟨by omega, hzeros ▸ h.places, rfl⟩

/-- A number whose last place is not zero has all its places written. -/
theorem Written.length_eq (h : Written p u cs w f) (hu : u % 10 ≠ 0) : f.length = p := by
  have hvalue := h.places.value
  rw [← List.append_assoc, digitsFrom_append] at hvalue
  obtain ⟨n, -, hzeros⟩ := Option.bind_eq_some_iff.mp hvalue
  rw [digitsFrom_zeros, Option.some.injEq] at hzeros
  cases hk : p - f.length with
  | zero =>
      have := h.fits
      omega
  | succ k =>
      rw [hk, Nat.pow_succ, ← Nat.mul_assoc] at hzeros
      omega

/-- Numbers are equal where their notations without trailing zeros are. -/
theorem Written.write_trim_inj (h : Written p u cs w f) (h' : Written p u cs' w' f') :
    write w (FixedPoint.trim f) = write w' (FixedPoint.trim f') := by
  obtain ⟨rfl, hplaces⟩ := h.places.unique h'.places
  rw [← trim_append_zeros f (p - f.length), hplaces, trim_append_zeros]

theorem write_inj (hw : ∀ c ∈ w, c.isDigit = true) (hf : ∀ c ∈ f, c.isDigit = true)
    (hw' : ∀ c ∈ w', c.isDigit = true) (hf' : ∀ c ∈ f', c.isDigit = true)
    (h : write w f = write w' f') : w = w' ∧ f = f' := by
  have hsplit := splitOn_write hw hf
  rw [h, splitOn_write hw' hf'] at hsplit
  by_cases hnil : f = [] <;> by_cases hnil' : f' = [] <;> simp_all

/-- A text has one number of units. -/
theorem Written.units_eq (h : Written p u cs w f) (h' : Written p u' cs w' f') : u = u' := by
  obtain ⟨rfl, rfl⟩ := write_inj h.places.whole.digits h.digits h'.places.whole.digits h'.digits
    (h.text.symm.trans h'.text)
  exact Option.some.inj (h.places.value.symm.trans h'.places.value)

theorem Written.isDigit_or_point (h : Written p u cs w f) :
    ∀ c ∈ cs, c.isDigit = true ∨ c = '.' := by
  rw [h.text]
  intro c hc
  unfold write at hc
  split at hc
  · rcases List.mem_append.mp hc with hc | hc
    · exact .inl (h.places.whole.digits c hc)
    · rcases List.mem_cons.mp hc with rfl | hc
      · exact .inr rfl
      · exact .inl (h.digits c hc)
  · exact .inl (h.places.whole.digits c hc)

end Written

end FixedPoint
