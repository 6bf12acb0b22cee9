import Mathlib.Data.List.TakeWhile
import RbhTrade.Lib.Bytes
import RbhTrade.Lib.Calendar

/-!
# The order of RFC 3339 texts

The times that a store compares as text are written by `formatRFC3339Nano`, which drops the
trailing zeros of the fraction. Within years 0 to 9999 such a text reads back as the instant it was
written for (`parse_format`), and `format_lt_iff` says exactly how the order of the texts differs
from that of the instants: an instant that another one of the same second truncates sorts before
it, since a digit is smaller than the `Z` that closes the shorter text. All other pairs sort alike.
-/

namespace GoTime

open Decimal

/-! ## Lists in lexicographic order -/

section Lex

variable {α : Type*} [LT α]

/-- Texts of one length that differ are ordered whatever follows them. -/
theorem append_lt_append_of_length_eq {u v : List α} (h : u < v) (hlen : u.length = v.length)
    (x y : List α) : u ++ x < v ++ y := by
  induction u generalizing v with
  | nil =>
      cases v with
      | nil => cases h
      | cons b v => simp at hlen
  | cons a u ih =>
      cases v with
      | nil => simp at hlen
      | cons b v =>
          simp only [List.length_cons, Nat.add_right_cancel_iff] at hlen
          simp only [List.cons_append, List.cons_lt_cons_iff] at h ⊢
          obtain hab | ⟨rfl, huv⟩ := h
          · exact .inl hab
          · exact .inr ⟨rfl, ih huv hlen⟩

/-- Of two texts neither of which continues the other, the order does not depend on what follows. -/
theorem append_lt_append_of_apart {u v : List α} (hu : ¬ u <+: v) (hv : ¬ v <+: u)
    (x y : List α) : u ++ x < v ++ y ↔ u < v := by
  induction u generalizing v with
  | nil => exact absurd List.nil_prefix hu
  | cons a u ih =>
      cases v with
      | nil => exact absurd List.nil_prefix hv
      | cons b v =>
          simp only [List.cons_append, List.cons_lt_cons_iff]
          by_cases hab : a = b
          · subst hab
            rw [ih (fun h => hu (List.cons_prefix_cons.mpr ⟨rfl, h⟩))
              (fun h => hv (List.cons_prefix_cons.mpr ⟨rfl, h⟩))]
          · simp [hab]

end Lex

/-! ## Numbers of a fixed width -/

/-- The last `width` decimal digits of `n`. -/
def fixed : Nat → Nat → List Char
  | 0, _ => []
  | width + 1, n => fixed width (n / 10) ++ [Nat.digitChar (n % 10)]

@[simp] theorem length_fixed (width n : Nat) : (fixed width n).length = width := by
  induction width generalizing n with
  | zero => rfl
  | succ width ih => simp [fixed, ih]

theorem fixed_zero (width : Nat) : fixed width 0 = List.replicate width '0' := by
  induction width with
  | zero => rfl
  | succ width ih =>
      rw [fixed, Nat.zero_div, ih, List.replicate_succ']
      rfl

variable {c : Char} {n width m nanos : Nat} {t : Instant} {x : List Char}

theorem mem_fixed (h : c ∈ fixed width n) :
    ∃ d < 10, c = Nat.digitChar d := by
  induction width generalizing n with
  | zero => simp [fixed] at h
  | succ width ih =>
      simp only [fixed, List.mem_append, List.mem_singleton] at h
      obtain h | rfl := h
      · exact ih h
      · exact ⟨n % 10, Nat.mod_lt _ (by decide), rfl⟩

theorem pad_eq_fixed (hw : 0 < width) (hn : n < 10 ^ width) :
    pad width n = fixed width n := by
  induction width generalizing n with
  | zero => omega
  | succ width ih =>
      by_cases hlt : n < 10
      · rw [pad, Nat.toDigits_of_lt_base hlt, fixed, Nat.div_eq_of_lt hlt, fixed_zero,
          Nat.mod_eq_of_lt hlt]
        simp
      · have hdiv : n / 10 < 10 ^ width := by
          rw [Nat.div_lt_iff_lt_mul (by decide)]
          rwa [Nat.pow_succ] at hn
        have hpos : 0 < width := by
          rcases Nat.eq_zero_or_pos width with rfl | h
          · simp at hn
            omega
          · exact h
        rw [fixed, ← ih hpos hdiv, pad, pad, Nat.toDigits_of_base_le (by decide) (by omega)]
        simp

theorem digitChar_lt (h : m < n) (hn : n < 10) : Nat.digitChar m < Nat.digitChar n := by
  have all : ∀ n < 10, ∀ m < n, Nat.digitChar m < Nat.digitChar n := by decide
  exact all n hn m h

/-- Numbers of one width sort like their texts. -/
theorem fixed_lt (h : m < n) (hn : n < 10 ^ width) :
    fixed width m < fixed width n := by
  induction width generalizing m n with
  | zero => simp at hn; omega
  | succ width ih =>
      rw [Nat.pow_succ] at hn
      rw [fixed, fixed]
      by_cases hdiv : m / 10 = n / 10
      · rw [hdiv]
        refine List.append_left_lt ?_
        exact List.cons_lt_cons_iff.mpr (.inl (digitChar_lt (by omega) (by omega)))
      · have hlt : m / 10 < n / 10 := by omega
        have hbound : n / 10 < 10 ^ width := by omega
        exact append_lt_append_of_length_eq (ih hlt hbound) (by simp) _ _

/-! ## Reading a fixed width back -/

theorem twoDigits_pad (hn : n < 100) (rest : List Char) :
    twoDigits (pad 2 n ++ rest) = some (n, rest) := by
  rw [pad_eq_fixed (by decide) hn]
  simp only [fixed, List.nil_append, List.cons_append, twoDigits,
    digit?_digitChar (Nat.mod_lt _ (by decide : 0 < 10)), Option.bind_eq_bind, Option.bind_some,
    Option.pure_def]
  congr 2
  omega

theorem oneOrTwoDigits_pad (hn : n < 100) (rest : List Char) :
    oneOrTwoDigits (pad 2 n ++ rest) = some (n, rest) := by
  rw [pad_eq_fixed (by decide) hn]
  simp only [fixed, List.nil_append, List.cons_append, oneOrTwoDigits,
    digit?_digitChar (Nat.mod_lt _ (by decide : 0 < 10)), Option.bind_eq_bind, Option.bind_some,
    Option.pure_def]
  congr 2
  omega

theorem fourDigits_pad (hn : n < 10000) (rest : List Char) :
    fourDigits (pad 4 n ++ rest) = some (n, rest) := by
  rw [pad_eq_fixed (by decide) hn]
  simp only [fixed, List.nil_append, List.cons_append, fourDigits,
    digit?_digitChar (Nat.mod_lt _ (by decide : 0 < 10)), Option.bind_eq_bind, Option.bind_some,
    Option.pure_def]
  congr 2
  omega

/-! ## Fractions -/

/-- The fraction's digits without the trailing zeros. -/
def fractionDigits (nanos : Nat) : List Char :=
  ((pad 9 nanos).reverse.dropWhile (· == '0')).reverse

theorem formatFraction_eq (nanos : Nat) : formatFraction nanos =
    if (fractionDigits nanos).isEmpty then [] else '.' :: fractionDigits nanos := rfl

/-- What the trimming drops is zeros. -/
theorem fractionDigits_append_zeros (h : nanos < 10 ^ 9) :
    ∃ k, fixed 9 nanos = fractionDigits nanos ++ List.replicate k '0' := by
  refine ⟨((fixed 9 nanos).reverse.takeWhile (· == '0')).length, ?_⟩
  have hzeros : (fixed 9 nanos).reverse.takeWhile (· == '0') =
      List.replicate ((fixed 9 nanos).reverse.takeWhile (· == '0')).length '0' := by
    refine List.eq_replicate_iff.mpr ⟨rfl, fun c hc => ?_⟩
    simpa using List.mem_takeWhile_imp hc
  rw [fractionDigits, pad_eq_fixed (by decide) h]
  conv_lhs => rw [← List.reverse_reverse (fixed 9 nanos),
    ← List.takeWhile_append_dropWhile (p := (· == '0')) (l := (fixed 9 nanos).reverse),
    List.reverse_append, hzeros, List.reverse_replicate]

/-- The value of a text of digits. -/
def digitsValue (digits : List Char) : Nat :=
  digits.foldl (fun n c => 10 * n + (c.toNat - '0'.toNat)) 0

theorem foldl_digits (digits : List Char) (n : Nat) :
    digits.foldl (fun n c => 10 * n + (c.toNat - '0'.toNat)) n =
      n * 10 ^ digits.length + digitsValue digits := by
  induction digits generalizing n with
  | nil => simp [digitsValue]
  | cons c digits ih =>
      rw [digitsValue, List.foldl_cons, List.foldl_cons, ih, ih, List.length_cons, Nat.pow_succ,
        Nat.add_mul, Nat.add_mul, Nat.mul_comm 10 n, Nat.mul_assoc, Nat.mul_comm 10]
      omega

theorem digitsValue_append (u v : List Char) :
    digitsValue (u ++ v) = digitsValue u * 10 ^ v.length + digitsValue v := by
  rw [digitsValue, List.foldl_append, foldl_digits]
  rfl

theorem digitsValue_zeros (k : Nat) : digitsValue (List.replicate k '0') = 0 := by
  induction k with
  | zero => rfl
  | succ k ih => rw [List.replicate_succ', digitsValue_append, ih]; rfl

theorem digitsValue_fixed (h : n < 10 ^ width) :
    digitsValue (fixed width n) = n := by
  induction width generalizing n with
  | zero =>
      simp only [Nat.pow_zero, Nat.lt_one_iff] at h
      subst h
      rfl
  | succ width ih =>
      rw [Nat.pow_succ] at h
      have hlast : digitsValue [Nat.digitChar (n % 10)] = n % 10 := by
        simp [digitsValue, Nat.toNat_digitChar_of_lt_ten (Nat.mod_lt n (by decide : 0 < 10))]
      rw [fixed, digitsValue_append, ih (by omega), hlast, List.length_singleton]
      omega

theorem fractionDigits_mem (h : nanos < 10 ^ 9) (hc : c ∈ fractionDigits nanos) :
    ∃ d < 10, c = Nat.digitChar d := by
  obtain ⟨k, hk⟩ := fractionDigits_append_zeros h
  have hmem : c ∈ fixed 9 nanos := by
    rw [hk]
    exact List.mem_append_left _ hc
  exact mem_fixed hmem

theorem fractionNanos_fractionDigits (h : nanos < 10 ^ 9) :
    fractionNanos (fractionDigits nanos) = nanos := by
  obtain ⟨k, hk⟩ := fractionDigits_append_zeros h
  have hlen : (fractionDigits nanos).length + k = 9 := by
    have := congrArg List.length hk
    simpa using this.symm
  have hvalue := digitsValue_fixed h
  rw [hk, digitsValue_append, digitsValue_zeros, List.length_replicate, Nat.add_zero] at hvalue
  rw [fractionNanos, List.take_of_length_le (by omega),
    show 9 - (fractionDigits nanos).length = k by omega]
  exact hvalue

/-- Different fractions have different digits. -/
theorem fractionDigits_inj (hm : m < 10 ^ 9) (hn : n < 10 ^ 9)
    (h : fractionDigits m = fractionDigits n) : m = n := by
  rw [← fractionNanos_fractionDigits hm, ← fractionNanos_fractionDigits hn, h]

theorem parseFraction_formatFraction (h : nanos < 10 ^ 9) :
    parseFraction (formatFraction nanos ++ ['Z']) = (nanos, ['Z']) := by
  have hvalue := fractionNanos_fractionDigits h
  have hdigit : ∀ c ∈ fractionDigits nanos, (digit? c).isSome = true := by
    intro c hc
    obtain ⟨d, hd, rfl⟩ := fractionDigits_mem h hc
    rw [digit?_digitChar hd]
    rfl
  rw [formatFraction_eq]
  cases hds : fractionDigits nanos with
  | nil =>
      rw [hds] at hvalue
      rw [← hvalue]
      rfl
  | cons d ds =>
      rw [hds] at hvalue hdigit
      have htake : ((d :: ds) ++ ['Z']).takeWhile (fun x => (digit? x).isSome) = d :: ds := by
        have hstop : ['Z'].takeWhile (fun x => (digit? x).isSome) = [] := rfl
        rw [List.takeWhile_append_of_pos hdigit, hstop, List.append_nil]
      simp only [List.isEmpty_cons, Bool.false_eq_true, if_false, List.cons_append, parseFraction,
        true_or, true_and, hdigit d List.mem_cons_self, if_true]
      rw [← List.cons_append, htake, hvalue]
      simp

/-! ## Texts of instants -/

/-- The instants whose year the format has four digits for. -/
def FourDigitYear (t : Instant) : Prop := 0 ≤ yearOf t ∧ yearOf t < 10000
deriving Decidable

/-- The text of a second, up to the fraction. -/
def secondText (seconds : Int) : List Char :=
  let (year, month, day) := civilOfDays (seconds / 86400)
  let ofDay := (seconds % 86400).toNat
  formatYear year ++ '-' :: pad 2 month ++ '-' :: pad 2 day ++ 'T' :: pad 2 (ofDay / 3600) ++
    ':' :: pad 2 (ofDay / 60 % 60) ++ ':' :: pad 2 (ofDay % 60)

/-- The text after the seconds. -/
def fractionText (nanos : Nat) : List Char := formatFraction nanos ++ ['Z']

/-- The nanoseconds of an instant within its second. -/
def nanosOf (t : Instant) : Nat := (t % nanosPerSecond).toNat

theorem nanosOf_lt (t : Instant) : nanosOf t < 10 ^ 9 := by
  unfold nanosOf nanosPerSecond
  omega

theorem lt_iff_nanosOf (s t : Int) : s < t ↔ s / nanosPerSecond < t / nanosPerSecond ∨
    s / nanosPerSecond = t / nanosPerSecond ∧ nanosOf s < nanosOf t := by
  unfold nanosOf nanosPerSecond
  omega

theorem eq_of_nanosOf {s t : Int} (hsec : s / nanosPerSecond = t / nanosPerSecond)
    (h : nanosOf s = nanosOf t) : s = t := by
  unfold nanosOf nanosPerSecond at h
  unfold nanosPerSecond at hsec
  omega

theorem toList_format (t : Instant) : (formatRFC3339Nano t).toList =
    secondText (t / nanosPerSecond) ++ fractionText (nanosOf t) := by
  simp only [formatRFC3339Nano, secondText, fractionText, nanosOf, String.toList_ofList,
    List.append_assoc]

theorem yearOf_eq (t : Instant) : yearOf t = (civilOfDays (t / nanosPerSecond / 86400)).1 := by
  have hdays : ∀ n : Int, n / 86400000000000 = n / 1000000000 / 86400 := by omega
  exact congrArg (fun d => (civilOfDays d).1) (hdays t)

theorem expectChar_cons (c : Char) (rest : List Char) : expectChar c (c :: rest) = some rest :=
  if_pos rfl

theorem guard_of {p : Prop} [Decidable p] (h : p) : (guard p : Option Unit) = some () := if_pos h

/-- A written time reads back. -/
theorem parse_format (h : FourDigitYear t) :
    parseRFC3339Nano (formatRFC3339Nano t) = some t := by
  obtain ⟨hy0, hy⟩ := h
  rw [yearOf_eq] at hy0 hy
  have hdate := daysOfCivil_civilOfDays (t / nanosPerSecond / 86400)
  have hvalid := civilOfDays_valid (t / nanosPerSecond / 86400)
  have htail := parseFraction_formatFraction (nanosOf_lt t)
  unfold parseRFC3339Nano
  rw [toList_format, secondText, fractionText]
  generalize civilOfDays (t / nanosPerSecond / 86400) = date at *
  obtain ⟨y, month, day⟩ := date
  obtain ⟨year, rfl⟩ := Int.eq_ofNat_of_zero_le hy0
  obtain ⟨o, ho⟩ : ∃ o, o = (t / nanosPerSecond % 86400).toNat := ⟨_, rfl⟩
  obtain ⟨hm1, hm12, hd1, hd⟩ := hvalid
  simp only at hdate hm1 hm12 hd1 hd hy
  have hday : day < 100 := by
    have : daysIn month year ≤ 31 := by unfold daysIn; split_ifs <;> decide
    omega
  have hofDay : (o : Int) = t / nanosPerSecond % 86400 := by omega
  have hnanos : (nanosOf t : Int) = t % nanosPerSecond := by unfold nanosOf nanosPerSecond; omega
  simp only [← ho, List.append_assoc, List.cons_append]
  -- the parser's statements in their order
  refine Option.bind_eq_some_iff.mpr ⟨_, fourDigits_pad (by omega) _, ?_⟩
  refine Option.bind_eq_some_iff.mpr ⟨_, expectChar_cons _ _, ?_⟩
  refine Option.bind_eq_some_iff.mpr ⟨_, twoDigits_pad (by omega) _, ?_⟩
  refine Option.bind_eq_some_iff.mpr ⟨_, guard_of ⟨hm1, hm12⟩, ?_⟩
  refine Option.bind_eq_some_iff.mpr ⟨_, expectChar_cons _ _, ?_⟩
  refine Option.bind_eq_some_iff.mpr ⟨_, twoDigits_pad hday _, ?_⟩
  refine Option.bind_eq_some_iff.mpr ⟨_, expectChar_cons _ _, ?_⟩
  refine Option.bind_eq_some_iff.mpr ⟨_, oneOrTwoDigits_pad (by omega) _, ?_⟩
  refine Option.bind_eq_some_iff.mpr ⟨_, guard_of (by omega), ?_⟩
  refine Option.bind_eq_some_iff.mpr ⟨_, expectChar_cons _ _, ?_⟩
  refine Option.bind_eq_some_iff.mpr ⟨_, twoDigits_pad (by omega) _, ?_⟩
  refine Option.bind_eq_some_iff.mpr ⟨_, guard_of (by omega), ?_⟩
  refine Option.bind_eq_some_iff.mpr ⟨_, expectChar_cons _ _, ?_⟩
  refine Option.bind_eq_some_iff.mpr ⟨_, twoDigits_pad (by omega) _, ?_⟩
  refine Option.bind_eq_some_iff.mpr ⟨_, guard_of (by omega), ?_⟩
  simp only [htail]
  refine Option.bind_eq_some_iff.mpr ⟨_, rfl, ?_⟩
  refine Option.bind_eq_some_iff.mpr ⟨_, guard_of ⟨hd1, hd⟩, ?_⟩
  refine congrArg some ?_
  rw [Int.toNat_natCast, hdate, hnanos]
  unfold nanosPerSecond at *
  omega

/-! ## Order -/

theorem length_pad (hw : 0 < width) (hn : n < 10 ^ width) :
    (pad width n).length = width := by
  rw [pad_eq_fixed hw hn, length_fixed]

theorem pad_append_lt (hw : 0 < width) (h : m < n) (hn : n < 10 ^ width) (x y : List Char) :
    pad width m ++ x < pad width n ++ y := by
  rw [pad_eq_fixed hw (by omega), pad_eq_fixed hw hn]
  exact append_lt_append_of_length_eq (fixed_lt h hn) (by simp) x y

/-- Two texts that agree on a field and the separator after it. -/
theorem field_lt {y : List Char} (field : List Char) (c : Char) (h : x < y) :
    field ++ c :: x < field ++ c :: y :=
  List.append_left_lt (List.cons_lt_cons_iff.mpr (.inr ⟨rfl, h⟩))

/-- The year, month and day of the texts of two days. -/
theorem date_lt {s t : Int} (h : s < t) (hs : 0 ≤ (civilOfDays s).1)
    (ht : (civilOfDays t).1 < 10000) (x y : List Char) :
    formatYear (civilOfDays s).1 ++
        '-' :: (pad 2 (civilOfDays s).2.1 ++ '-' :: (pad 2 (civilOfDays s).2.2 ++ x)) <
      formatYear (civilOfDays t).1 ++
        '-' :: (pad 2 (civilOfDays t).2.1 ++ '-' :: (pad 2 (civilOfDays t).2.2 ++ y)) := by
  have hmonth := (civilOfDays_valid t).month_le
  have hday := (civilOfDays_valid t).day_lt
  obtain hyear | ⟨hyear, hmonth' | ⟨hmonth', hday'⟩⟩ := civilOfDays_lt h
  · rw [formatYear, formatYear, if_neg (by omega), if_neg (by omega)]
    exact pad_append_lt (by decide) (by omega) (by omega) _ _
  · rw [hyear]
    exact field_lt _ _ (pad_append_lt (by decide) hmonth' (by omega) _ _)
  · rw [hyear, hmonth']
    exact field_lt _ _ (field_lt _ _ (pad_append_lt (by decide) hday' (by omega) _ _))

/-- The hour, minute and second of two texts of one day. -/
theorem clock_lt {o o' : Nat} (h : o < o') (ho : o' < 86400) :
    pad 2 (o / 3600) ++ ':' :: (pad 2 (o / 60 % 60) ++ ':' :: pad 2 (o % 60)) <
      pad 2 (o' / 3600) ++ ':' :: (pad 2 (o' / 60 % 60) ++ ':' :: pad 2 (o' % 60)) := by
  by_cases hhour : o / 3600 = o' / 3600
  · rw [hhour]
    refine field_lt _ _ ?_
    by_cases hminute : o / 60 % 60 = o' / 60 % 60
    · rw [hminute]
      refine field_lt _ _ ?_
      have hlt : pad 2 (o % 60) ++ [] < pad 2 (o' % 60) ++ [] :=
        pad_append_lt (by decide) (by omega) (by omega) [] []
      simpa using hlt
    · exact pad_append_lt (by decide) (by omega) (by omega) _ _
  · exact pad_append_lt (by decide) (by omega) (by omega) _ _

/-- The texts of whole seconds sort like the seconds. -/
theorem secondText_lt {s t : Int} (h : s < t) (hs : 0 ≤ (civilOfDays (s / 86400)).1)
    (ht : (civilOfDays (t / 86400)).1 < 10000) : secondText s < secondText t := by
  simp only [secondText, List.append_assoc, List.cons_append]
  by_cases hday : s / 86400 = t / 86400
  · rw [hday]
    exact field_lt _ _ (field_lt _ _ (field_lt _ _ (clock_lt (by omega) (by omega))))
  · exact date_lt (by omega) hs ht _ _

theorem length_secondText {n : Int} (h0 : 0 ≤ (civilOfDays (n / 86400)).1)
    (h : (civilOfDays (n / 86400)).1 < 10000) : (secondText n).length = 19 := by
  have hmonth := (civilOfDays_valid (n / 86400)).month_le
  have hday := (civilOfDays_valid (n / 86400)).day_lt
  unfold secondText
  generalize civilOfDays (n / 86400) = date at *
  obtain ⟨year, month, day⟩ := date
  simp only at h0 h hmonth hday
  simp only [formatYear, if_neg (not_lt.mpr h0), List.length_append, List.length_cons]
  rw [length_pad (by decide) (by omega), length_pad (by decide) (by omega),
    length_pad (by decide) (by omega), length_pad (by decide) (by omega),
    length_pad (by decide) (by omega), length_pad (by decide) (by omega)]

/-- A fraction whose digits another one continues is the smaller of the two. -/
theorem le_of_fractionDigits_initial (hm : m < 10 ^ 9) (hn : n < 10 ^ 9)
    (h : fractionDigits m <+: fractionDigits n) : m ≤ n := by
  obtain ⟨rest, hrest⟩ := h
  obtain ⟨k, hk⟩ := fractionDigits_append_zeros hm
  obtain ⟨l, hl⟩ := fractionDigits_append_zeros hn
  have hvm := digitsValue_fixed hm
  have hvn := digitsValue_fixed hn
  have hlen : k = rest.length + l := by
    have hm9 := congrArg List.length hk
    have hn9 := congrArg List.length hl
    rw [← hrest] at hn9
    simp only [length_fixed, List.length_append, List.length_replicate] at hm9 hn9
    omega
  rw [hk, digitsValue_append, digitsValue_zeros, List.length_replicate, hlen] at hvm
  rw [hl, ← hrest, List.append_assoc, digitsValue_append, List.length_append,
    List.length_replicate] at hvn
  omega

theorem fractionText_of_nil (h : fractionDigits nanos = []) :
    fractionText nanos = ['Z'] := by
  rw [fractionText, formatFraction_eq, h]
  rfl

theorem fractionText_of_ne_nil (h : fractionDigits nanos ≠ []) :
    fractionText nanos = '.' :: (fractionDigits nanos ++ ['Z']) := by
  rw [fractionText, formatFraction_eq, if_neg (by simpa using h), List.cons_append]

/-- A fraction that truncates another one sorts after it. -/
theorem fractionText_lt_of_initial (hm : m < 10 ^ 9) (hn : n < 10 ^ 9) (hne : m ≠ n)
    (h : fractionDigits m <+: fractionDigits n) : fractionText n < fractionText m := by
  obtain ⟨rest, hrest⟩ := h
  cases rest with
  | nil =>
      rw [List.append_nil] at hrest
      exact absurd (fractionDigits_inj hm hn hrest) hne
  | cons c rest =>
      have hc : c < 'Z' := by
        obtain ⟨d, hd, rfl⟩ := fractionDigits_mem hn (c := c) (by rw [← hrest]; simp)
        have all : ∀ d < 10, Nat.digitChar d < 'Z' := by decide
        exact all d hd
      rw [fractionText_of_ne_nil (by rw [← hrest]; simp)]
      by_cases hnil : fractionDigits m = []
      · rw [fractionText_of_nil hnil]
        exact List.cons_lt_cons_iff.mpr (.inl (by decide))
      · rw [fractionText_of_ne_nil hnil, ← hrest, List.append_assoc]
        refine List.cons_lt_cons_iff.mpr (.inr ⟨rfl, List.append_left_lt ?_⟩)
        exact List.cons_lt_cons_iff.mpr (.inl hc)

/-- Other fractions sort like their values. -/
theorem fractionText_lt_of_apart (hn : n < 10 ^ 9) (h : m < n)
    (hpre : ¬ fractionDigits m <+: fractionDigits n) : fractionText m < fractionText n := by
  have hm : m < 10 ^ 9 := by omega
  have hpre' : ¬ fractionDigits n <+: fractionDigits m := fun hp =>
    absurd (le_of_fractionDigits_initial hn hm hp) (by omega)
  have hmne : fractionDigits m ≠ [] := fun he => hpre (he ▸ List.nil_prefix)
  have hnne : fractionDigits n ≠ [] := fun he => hpre' (he ▸ List.nil_prefix)
  have hfixed := fixed_lt h hn
  obtain ⟨k, hk⟩ := fractionDigits_append_zeros hm
  obtain ⟨l, hl⟩ := fractionDigits_append_zeros hn
  rw [hk, hl, append_lt_append_of_apart hpre hpre'] at hfixed
  rw [fractionText_of_ne_nil hmne, fractionText_of_ne_nil hnne]
  refine List.cons_lt_cons_iff.mpr (.inr ⟨rfl, ?_⟩)
  exact (append_lt_append_of_apart hpre hpre' _ _).mpr hfixed

/-- `s` is `t` cut off after one of the digits of its fraction, or after the second. -/
def Truncates (s t : Instant) : Prop :=
  s ≠ t ∧ s / nanosPerSecond = t / nanosPerSecond ∧
    fractionDigits (nanosOf s) <+: fractionDigits (nanosOf t)
deriving Decidable

theorem Truncates.lt {s : Instant} (h : Truncates s t) : s < t := by
  obtain ⟨hne, hsec, hpre⟩ := h
  have hle := le_of_fractionDigits_initial (nanosOf_lt s) (nanosOf_lt t) hpre
  exact (lt_iff_nanosOf s t).mpr
    (.inr ⟨hsec, lt_of_le_of_ne hle fun he => hne (eq_of_nanosOf hsec he)⟩)

theorem format_lt_of_truncates {s : Instant} (h : Truncates s t) :
    formatRFC3339Nano t < formatRFC3339Nano s := by
  obtain ⟨hne, hsec, hpre⟩ := h
  have hnanos : nanosOf s ≠ nanosOf t := fun he => hne (eq_of_nanosOf hsec he)
  show (formatRFC3339Nano t).toList < (formatRFC3339Nano s).toList
  rw [toList_format, toList_format, hsec]
  exact List.append_left_lt (fractionText_lt_of_initial (nanosOf_lt s) (nanosOf_lt t) hnanos hpre)

theorem format_lt_of_lt {s : Instant} (hs : FourDigitYear s) (ht : FourDigitYear t) (h : s < t)
    (hno : ¬ Truncates s t) : formatRFC3339Nano s < formatRFC3339Nano t := by
  unfold FourDigitYear at hs ht
  rw [yearOf_eq] at hs ht
  show (formatRFC3339Nano s).toList < (formatRFC3339Nano t).toList
  rw [toList_format, toList_format]
  obtain hlt | ⟨hsec, hnanos⟩ := (lt_iff_nanosOf s t).mp h
  · exact append_lt_append_of_length_eq (secondText_lt hlt hs.1 ht.2)
      (by rw [length_secondText hs.1 hs.2, length_secondText ht.1 ht.2]) _ _
  · rw [hsec]
    refine List.append_left_lt (fractionText_lt_of_apart (nanosOf_lt t) hnanos fun hpre => ?_)
    exact hno ⟨h.ne, hsec, hpre⟩

/-- The order of texts: chronological except where one instant truncates the other. -/
theorem format_lt_iff {s : Instant} (hs : FourDigitYear s) (ht : FourDigitYear t) :
    formatRFC3339Nano s < formatRFC3339Nano t ↔ (s < t ∧ ¬ Truncates s t) ∨ Truncates t s := by
  constructor
  · intro h
    by_cases hts : Truncates t s
    · exact .inr hts
    · refine .inl ⟨?_, fun hst => String.lt_asymm h (format_lt_of_truncates hst)⟩
      by_contra hle
      obtain rfl | hlt := (not_lt.mp hle).eq_or_lt
      · exact String.lt_irrefl _ h
      · exact String.lt_asymm h (format_lt_of_lt ht hs hlt hts)
  · rintro (⟨hlt, hno⟩ | htr)
    · exact format_lt_of_lt hs ht hlt hno
    · exact format_lt_of_truncates htr

example : formatRFC3339Nano 500000000 < formatRFC3339Nano 0 := by decide

/-! ## Uniqueness -/

theorem isSome_of_digitsFrom {acc : Nat} {cs : List Char} (h : digitsFrom acc cs = some n)
    (hc : c ∈ cs) : (digit? c).isSome = true := by
  induction cs generalizing acc with
  | nil => cases hc
  | cons d cs ih =>
      cases hd : digit? d with
      | none => simp [digitsFrom, hd] at h
      | some v =>
          simp only [digitsFrom, hd] at h
          obtain rfl | hc := List.mem_cons.mp hc
          · rw [hd]
            rfl
          · exact ih h hc

/-- A number reads back from its digits, however wide the field is. -/
theorem digitsFrom_pad (width n : Nat) : digitsFrom 0 (pad width n) = some n := by
  have hzeros : ∀ k cs, digitsFrom 0 (List.replicate k '0' ++ cs) = digitsFrom 0 cs := by
    intro k cs
    induction k with
    | zero => rfl
    | succ k ih => exact ih
  rw [pad, hzeros, digitsFrom_toDigits]

theorem pad_inj (h : pad width m = pad width n) : m = n := by
  have hm := digitsFrom_pad width m
  rw [h, digitsFrom_pad] at hm
  exact (Option.some.inj hm).symm

theorem dash_notMem_pad (width n : Nat) : '-' ∉ pad width n := by
  intro h
  have hd := isSome_of_digitsFrom (digitsFrom_pad width n) h
  cases hd

theorem pad_ne_nil (hw : 0 < width) : pad width n ≠ [] := by
  intro h
  have hlen := congrArg List.length h
  simp only [pad, List.length_append, List.length_replicate, List.length_nil] at hlen
  omega

/-- A text is cut at the first occurrence of a separator in one way. -/
theorem formatYear_inj {y y' : Int} {x' : List Char}
    (h : formatYear y ++ '-' :: x = formatYear y' ++ '-' :: x') : y = y' ∧ x = x' := by
  -- A year that is not negative starts with a digit.
  have hhead : ∀ (n : Nat) (z z' : List Char), pad 4 n ++ z ≠ '-' :: z' := by
    intro n z z' hc
    obtain ⟨c, cs, hp⟩ := List.exists_cons_of_ne_nil (pad_ne_nil (n := n) (by decide : 0 < 4))
    rw [hp] at hc
    refine dash_notMem_pad 4 n ?_
    rw [hp, ← (List.cons.inj hc).1]
    exact List.mem_cons_self
  unfold formatYear at h
  split at h <;> split at h
  · obtain ⟨hp, rfl⟩ := Bytes.cut_first_inj (dash_notMem_pad 4 _) (dash_notMem_pad 4 _)
      (List.cons.inj h).2
    have := pad_inj hp
    exact ⟨by omega, rfl⟩
  · exact absurd h.symm (hhead _ _ _)
  · exact absurd h (hhead _ _ _)
  · obtain ⟨hp, rfl⟩ := Bytes.cut_first_inj (dash_notMem_pad 4 _) (dash_notMem_pad 4 _) h
    have := pad_inj hp
    exact ⟨by omega, rfl⟩

theorem pad_append_inj (hw : 0 < width) (hm : m < 10 ^ width) (hn : n < 10 ^ width) {y : List Char}
    (h : pad width m ++ x = pad width n ++ y) :
    m = n ∧ x = y := by
  obtain ⟨hp, rfl⟩ := List.append_inj h (by rw [length_pad hw hm, length_pad hw hn])
  exact ⟨pad_inj hp, rfl⟩

/-- A two-digit field and the separator after it. -/
theorem twoDigitField_inj (hm : m < 100) (hn : n < 100) {y : List Char}
    (h : pad 2 m ++ c :: x = pad 2 n ++ c :: y) : m = n ∧ x = y := by
  obtain ⟨rfl, htail⟩ := pad_append_inj (by decide) hm hn h
  exact ⟨rfl, (List.cons.inj htail).2⟩

theorem fractionText_inj (hm : m < 10 ^ 9) (hn : n < 10 ^ 9) (h : fractionText m = fractionText n) :
    m = n := by
  have hparse := congrArg (fun text => (parseFraction text).1) h
  simpa only [fractionText, parseFraction_formatFraction hm, parseFraction_formatFraction hn]
    using hparse

/-- A second is its day and its time of day. -/
theorem eq_of_clock {m n : Int} (hday : m / 86400 = n / 86400)
    (hhour : (m % 86400).toNat / 3600 = (n % 86400).toNat / 3600)
    (hminute : (m % 86400).toNat / 60 % 60 = (n % 86400).toNat / 60 % 60)
    (hsecond : (m % 86400).toNat % 60 = (n % 86400).toNat % 60) : m = n := by
  omega

/-- Different instants have different texts, in any year. -/
theorem format_injective : Function.Injective formatRFC3339Nano := by
  intro s t h
  have hlist := congrArg String.toList h
  rw [toList_format, toList_format] at hlist
  simp only [secondText, List.append_assoc, List.cons_append] at hlist
  have hmonth_lt : ∀ days, (civilOfDays days).2.1 < 100 := fun days => by
    have := (civilOfDays_valid days).month_le
    omega
  have hday_lt : ∀ days, (civilOfDays days).2.2 < 100 := fun days => by
    have := (civilOfDays_valid days).day_lt
    omega
  obtain ⟨hyear, hlist⟩ := formatYear_inj hlist
  obtain ⟨hmonth, hlist⟩ := twoDigitField_inj (hmonth_lt _) (hmonth_lt _) hlist
  obtain ⟨hday, hlist⟩ := twoDigitField_inj (hday_lt _) (hday_lt _) hlist
  obtain ⟨hhour, hlist⟩ := twoDigitField_inj (by omega) (by omega) hlist
  obtain ⟨hminute, hlist⟩ := twoDigitField_inj (by omega) (by omega) hlist
  obtain ⟨hsecond, hlist⟩ := pad_append_inj (by decide) (by omega) (by omega) hlist
  have hdays : s / nanosPerSecond / 86400 = t / nanosPerSecond / 86400 := by
    rw [← daysOfCivil_civilOfDays (s / nanosPerSecond / 86400), hyear, hmonth, hday,
      daysOfCivil_civilOfDays]
  exact eq_of_nanosOf (eq_of_clock hdays hhour hminute hsecond)
    (fractionText_inj (nanosOf_lt s) (nanosOf_lt t) hlist)

/-! ## The characters of a time -/

theorem isDigit_of_mem_pad (h : c ∈ pad width n) : c.isDigit = true := by
  rcases List.mem_append.mp h with h | h
  · rw [List.eq_of_mem_replicate h]
    rfl
  · exact Nat.isDigit_of_mem_toDigits (by decide) (by decide) h

theorem isDigit_of_mem_formatYear {year : Int} (h0 : 0 ≤ year) (h : c ∈ formatYear year) :
    c.isDigit = true := by
  rw [formatYear, if_neg (not_lt.mpr h0)] at h
  exact isDigit_of_mem_pad h

theorem mem_secondText {n : Int} (h0 : 0 ≤ (civilOfDays (n / 86400)).1) (h : c ∈ secondText n) :
    c.isDigit = true ∨ c ∈ ['-', 'T', ':'] := by
  unfold secondText at h
  simp only [List.cons_append, List.append_assoc, List.mem_append, List.mem_cons] at h
  rcases h with h | rfl | h | rfl | h | rfl | h | rfl | h | rfl | h
  · exact .inl (isDigit_of_mem_formatYear h0 h)
  · exact .inr (by decide)
  · exact .inl (isDigit_of_mem_pad h)
  · exact .inr (by decide)
  · exact .inl (isDigit_of_mem_pad h)
  · exact .inr (by decide)
  · exact .inl (isDigit_of_mem_pad h)
  · exact .inr (by decide)
  · exact .inl (isDigit_of_mem_pad h)
  · exact .inr (by decide)
  · exact .inl (isDigit_of_mem_pad h)

theorem mem_fractionText (h : c ∈ fractionText nanos) :
    c.isDigit = true ∨ c ∈ ['.', 'Z'] := by
  rcases List.mem_append.mp h with h | h
  · rw [formatFraction_eq] at h
    split at h
    · cases h
    · rcases List.mem_cons.mp h with rfl | h
      · exact .inr (by decide)
      · rw [fractionDigits, List.mem_reverse] at h
        exact .inl (isDigit_of_mem_pad (List.mem_reverse.mp ((List.dropWhile_sublist _).subset h)))
  · rw [List.mem_singleton.mp h]
    exact .inr (by decide)

theorem length_fractionText (h : nanos < 10 ^ 9) : (fractionText nanos).length ≤ 11 := by
  obtain ⟨k, hk⟩ := fractionDigits_append_zeros h
  have hlen := congrArg List.length hk
  simp only [length_fixed, List.length_append] at hlen
  rw [fractionText, formatFraction_eq]
  split <;> simp only [List.length_append, List.length_cons, List.length_nil] <;> omega

theorem mem_format (h : FourDigitYear t) (hc : c ∈ (formatRFC3339Nano t).toList) :
    c.isDigit = true ∨ c ∈ ['-', 'T', ':', '.', 'Z'] := by
  obtain ⟨h0, -⟩ := h
  rw [yearOf_eq] at h0
  rw [toList_format] at hc
  rcases List.mem_append.mp hc with hc | hc
  · exact (mem_secondText h0 hc).imp_right (List.mem_append_left ['.', 'Z'])
  · exact (mem_fractionText hc).imp_right (List.mem_append_right ['-', 'T', ':'])

theorem length_format (h : FourDigitYear t) : (formatRFC3339Nano t).length ≤ 30 := by
  obtain ⟨h0, h⟩ := h
  rw [yearOf_eq] at h0 h
  have hseconds := length_secondText h0 h
  have hfraction := length_fractionText (nanosOf_lt t)
  rw [← String.length_toList, toList_format, List.length_append]
  omega

end GoTime
