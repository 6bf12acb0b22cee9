import RbhTrade.Lib.GoTime

/-!
# Schema primitives of the MANUAL tables

The scalar functions that the MANUAL triggers call. A call that fails aborts the statement, so a
comparison is `none` where the function returns an error.
-/

namespace RbhTrade

open GoTime

/-! ## Errors and identifiers -/

/-- The errors of `tradeapi`: `rejectManualInput` with its code, the sentinels, an error of the
database or of `encoding/json`, or that of a context which is done. -/
inductive ManualErr where
  | rejected (code : String)
  | invalid
  | conflict
  | notFound
  | wallet
  | signing
  | identity
  | integrity
  | cipher
  | sql
  | json
  | done
deriving DecidableEq

/-- The characters of an identifier. -/
def idChar (c : Char) : Bool :=
  c.isLower || c.isUpper || c.isDigit || "._:-".toList.contains c

/-- `validID`. -/
def validID (value : String) : Bool :=
  0 < value.utf8ByteSize && value.utf8ByteSize ≤ 128 && value.toList.all idChar

/-- `math.MaxInt64`. -/
def maxInt64 : Nat := 2 ^ 63 - 1

/-! ## Amounts -/

/-- `manualSQLUint`: a canonical text of at most 256 bits. No such text is longer than the 78
characters the function allows. -/
def u256 (text : String) : Option Nat :=
  match Decimal.canonical? text with
  | some n => if n < 2 ^ 256 then some n else none
  | none => none

/-- `manual_u256_add`. -/
def u256Add (a b : String) : Option String :=
  match u256 a, u256 b with
  | some m, some n => if m + n < 2 ^ 256 then some (toString (m + n)) else none
  | _, _ => none

/-- `manual_u256_cmp`. -/
def u256Cmp (a b : String) : Option Ordering :=
  match u256 a, u256 b with
  | some m, some n => some (compare m n)
  | _, _ => none

/-- `manual_u256_cmp(a,b)<=0`. -/
def U256Le (a b : String) : Prop := u256Cmp a b = some .lt ∨ u256Cmp a b = some .eq
deriving Decidable

/-- The running total of `manual_u256_sum_json`. -/
def u256SumFrom (total : Nat) : List String → Option Nat
  | [] => some total
  | item :: items =>
      match u256 item with
      | some n => if total + n < 2 ^ 256 then u256SumFrom (total + n) items else none
      | none => none

/-- `manual_u256_sum_json(json_group_array(…))`. -/
def u256Sum (items : List String) : Option String := (u256SumFrom 0 items).map toString

theorem u256_eq_some {text : String} {n : Nat} :
    u256 text = some n ↔ text = toString n ∧ n < 2 ^ 256 := by
  unfold u256
  cases hc : Decimal.canonical? text with
  | none =>
      simp only [reduceCtorEq, false_iff]
      rintro ⟨ht, -⟩
      rw [Decimal.canonical?_eq_some.mpr ht] at hc
      cases hc
  | some m =>
      have hm := Decimal.canonical?_eq_some.mp hc
      by_cases hlt : m < 2 ^ 256
      · simp only [if_pos hlt, Option.some.injEq]
        constructor
        · rintro rfl
          exact ⟨hm, hlt⟩
        · rintro ⟨ht, -⟩
          rw [Decimal.canonical?_eq_some.mpr ht] at hc
          exact (Option.some.inj hc).symm
      · simp only [if_neg hlt, reduceCtorEq, false_iff]
        rintro ⟨ht, hn⟩
        rw [Decimal.canonical?_eq_some.mpr ht] at hc
        exact hlt (Option.some.inj hc ▸ hn)

/-! ## Times -/

/-- `manualSQLTime` and `CanonicalTime`: the text Go formats a UTC instant of the years 1970 to 9998
as. -/
def canonicalTime (text : String) : Option Instant :=
  match parseRFC3339Nano text with
  | some t =>
      if t ≠ zeroInstant ∧ 1970 ≤ yearOf t ∧ yearOf t ≤ 9998 ∧ formatRFC3339Nano t = text then
        some t
      else none
  | none => none

/-- `manual_time_cmp`. -/
def timeCmp (a b : String) : Option Ordering :=
  match canonicalTime a, canonicalTime b with
  | some x, some y => some (compare x y)
  | _, _ => none

/-- `manual_time_shift_seconds`. -/
def timeShift (text : String) (seconds : Int) : Option String :=
  match canonicalTime text with
  | some t =>
      let shifted := t + seconds * nanosPerSecond
      if -31536000 ≤ seconds ∧ seconds ≤ 31536000 ∧ 1970 ≤ yearOf shifted ∧
          yearOf shifted ≤ 9998 then
        some (formatRFC3339Nano shifted)
      else none
  | none => none

/-- `manual_time_cmp(a,b)<0`. -/
def TimeBefore (a b : String) : Prop := timeCmp a b = some .lt
deriving Decidable

/-- `manual_time_cmp(a,b)>=0`. -/
def TimeNotBefore (a b : String) : Prop := timeCmp a b = some .eq ∨ timeCmp a b = some .gt
deriving Decidable

end RbhTrade
