import Mathlib.Algebra.Group.Nat.Defs
import Mathlib.Data.Nat.Basic

/-!
# Decimal texts

Reading and printing whole numbers in base ten, as the arbitrary-precision integers of Go do it.
A text is canonical when it is what its value prints as, so canonical texts and natural numbers
correspond one to one.
-/

namespace Decimal

def digit? (c : Char) : Option Nat :=
  if '0' ≤ c ∧ c ≤ '9' then some (c.toNat - '0'.toNat) else none

/-- The value of a string of digits that follow a number read so far. -/
def digitsFrom (acc : Nat) : List Char → Option Nat
  | [] => some acc
  | c :: cs =>
      match digit? c with
      | some d => digitsFrom (10 * acc + d) cs
      | none => none

/-- `new(big.Int).SetString(text, 10)`: an optional sign and at least one digit. -/
def bigInt? (text : String) : Option Int :=
  match text.toList with
  | '-' :: c :: cs => (digitsFrom 0 (c :: cs)).map fun n => -(n : Int)
  | '+' :: c :: cs => (digitsFrom 0 (c :: cs)).map fun n => (n : Int)
  | c :: cs => (digitsFrom 0 (c :: cs)).map fun n => (n : Int)
  | [] => none

/-- The value of a canonical text. -/
def canonical? (text : String) : Option Nat :=
  match bigInt? text with
  | some (.ofNat n) => if toString n = text then some n else none
  | _ => none

/-! ## Printed numbers -/

theorem digit?_digitChar {d : Nat} (h : d < 10) : digit? (Nat.digitChar d) = some d := by
  have all : ∀ d < 10, digit? (Nat.digitChar d) = some d := by decide
  exact all d h

/-- Printing in front of a text shifts the number that the text continues. -/
theorem digitsFrom_toDigitsCore (fuel n : Nat) (cs : List Char) (h : n < fuel) :
    digitsFrom 0 (Nat.toDigitsCore 10 fuel n cs) = digitsFrom n cs := by
  induction fuel generalizing n cs with
  | zero => omega
  | succ fuel ih =>
      have hd : digit? (Nat.digitChar (n % 10)) = some (n % 10) :=
        digit?_digitChar (Nat.mod_lt n (by decide))
      rw [Nat.toDigitsCore]
      split
      · rename_i hzero
        simp only [digitsFrom, hd]
        congr 1
        omega
      · rename_i hne
        rw [ih (n / 10) _ (by omega)]
        simp only [digitsFrom, hd]
        congr 1
        omega

theorem digitsFrom_toDigits (n : Nat) : digitsFrom 0 (Nat.toDigits 10 n) = some n := by
  rw [Nat.toDigits, digitsFrom_toDigitsCore _ _ _ (Nat.lt_succ_self n)]
  rfl

theorem toList_toString (n : Nat) : (toString n).toList = Nat.toDigits 10 n := by
  show (Nat.repr n).toList = _
  simp [Nat.repr]

variable {n : Nat} {cs : List Char}

/-- A text of digits that reads as a number starts with a digit, so it carries no sign. -/
theorem bigInt?_of_digits {text : String} (h : digitsFrom 0 text.toList = some n)
    (hne : text.toList ≠ []) : bigInt? text = some n := by
  unfold bigInt?
  cases hl : text.toList with
  | nil => exact absurd hl hne
  | cons c cs =>
      rw [hl] at h
      have hc : digit? c ≠ none := by
        intro hc
        simp [digitsFrom, hc] at h
      split
      · rename_i he
        cases he
        exact absurd (by decide) hc
      · rename_i he
        cases he
        exact absurd (by decide) hc
      · rename_i he
        cases he
        rw [h]
        rfl
      · rename_i he
        cases he

theorem bigInt?_toString (n : Nat) : bigInt? (toString n) = some (n : Int) := by
  have h : digitsFrom 0 (toString n).toList = some n := by
    rw [toList_toString, digitsFrom_toDigits]
  refine bigInt?_of_digits h fun he => ?_
  rw [toList_toString, Nat.toDigits, Nat.toDigitsCore] at he
  split at he
  · cases he
  · have := digitsFrom_toDigitsCore n (n / 10) [Nat.digitChar (n % 10)] (by omega)
    rw [he] at this
    simp only [digitsFrom, digit?_digitChar (Nat.mod_lt n (by decide))] at this
    simp only [Option.some.injEq] at this
    omega

/-- The sign of a printed negative number is read, and then its digits. -/
theorem bigInt?_toString_int (n : Int) : bigInt? (toString n) = some n := by
  cases n with
  | ofNat n => exact bigInt?_toString n
  | negSucc n =>
      have htext : (toString (Int.negSucc n)).toList = '-' :: Nat.toDigits 10 (n + 1) := by
        show ("-" ++ Nat.repr (n + 1)).toList = _
        simp [Nat.repr]
      have hdigits := digitsFrom_toDigits (n + 1)
      unfold bigInt?
      rw [htext]
      cases hd : Nat.toDigits 10 (n + 1) with
      | nil => simp [hd, digitsFrom] at hdigits
      | cons c cs =>
          rw [hd] at hdigits
          simp only [hdigits]
          rfl

theorem toString_int_inj {m n : Int} (h : toString m = toString n) : m = n :=
  Option.some.inj ((bigInt?_toString_int m).symm.trans (h ▸ bigInt?_toString_int n))

theorem toString_nat_inj {m : Nat} (h : toString m = toString n) : m = n :=
  Int.ofNat.inj (toString_int_inj (m := m) (n := n) h)

theorem canonical?_eq_some {text : String} :
    canonical? text = some n ↔ text = toString n := by
  constructor
  · intro h
    unfold canonical? at h
    split at h
    · rename_i m _
      split at h
      · rename_i ht
        cases h
        exact ht.symm
      · cases h
    · cases h
  · rintro rfl
    have hb := bigInt?_toString n
    unfold canonical?
    rw [hb]
    simp

/-! ## Digits without a leading zero -/

theorem digit?_eq_some {c : Char} {d : Nat} (h : digit? c = some d) :
    d < 10 ∧ c = Nat.digitChar d := by
  unfold digit? at h
  split at h
  · rename_i hc
    have hlow : 48 ≤ c.toNat := Char.le_def.mp hc.1
    have hhigh : c.toNat ≤ 57 := Char.le_def.mp hc.2
    have hd : c.toNat - 48 = d := Option.some.inj h
    have hchar : ∀ d < 10, Char.ofNat (d + 48) = Nat.digitChar d := by decide
    refine ⟨by omega, ?_⟩
    rw [← hchar d (by omega), show d + 48 = c.toNat by omega, Char.ofNat_toNat]
  · cases h

theorem isDigit_iff_digit? {c : Char} : c.isDigit = true ↔ ∃ d, digit? c = some d := by
  constructor
  · intro h
    refine ⟨c.toNat - '0'.toNat, if_pos ?_⟩
    simpa [Char.isDigit, Char.le_def] using h
  · rintro ⟨d, h⟩
    obtain ⟨hd, rfl⟩ := digit?_eq_some h
    have all : ∀ d < 10, (Nat.digitChar d).isDigit = true := by decide
    exact all d hd

/-- Digits that follow a positive number continue what it prints. -/
theorem toDigits_append {acc : Nat} (hacc : 0 < acc) (h : digitsFrom acc cs = some n) :
    Nat.toDigits 10 acc ++ cs = Nat.toDigits 10 n := by
  induction cs generalizing acc with
  | nil =>
      cases h
      exact List.append_nil _
  | cons c cs ih =>
      cases hc : digit? c with
      | none => simp [digitsFrom, hc] at h
      | some d =>
          simp only [digitsFrom, hc] at h
          obtain ⟨hd, rfl⟩ := digit?_eq_some hc
          have hshift := Nat.toDigits_append_toDigits (b := 10) (by decide) hacc hd
          rw [Nat.toDigits_of_lt_base hd] at hshift
          calc Nat.toDigits 10 acc ++ Nat.digitChar d :: cs
              = (Nat.toDigits 10 acc ++ [Nat.digitChar d]) ++ cs := by simp
            _ = Nat.toDigits 10 (10 * acc + d) ++ cs := by rw [hshift]
            _ = Nat.toDigits 10 n := ih (by omega) h

/-- Digits without a leading zero are what their value prints. -/
theorem toDigits_digitsFrom {c : Char} (h : digitsFrom 0 (c :: cs) = some n)
    (hlead : c = '0' → cs = []) :
    Nat.toDigits 10 n = c :: cs := by
  cases hc : digit? c with
  | none => simp [digitsFrom, hc] at h
  | some d =>
      simp only [digitsFrom, hc, Nat.mul_zero, Nat.zero_add] at h
      obtain ⟨hd, rfl⟩ := digit?_eq_some hc
      cases d with
      | zero =>
          obtain rfl := hlead rfl
          cases h
          rfl
      | succ d =>
          have happend := toDigits_append (Nat.succ_pos d) h
          rw [Nat.toDigits_of_lt_base hd] at happend
          exact happend.symm

theorem digitsFrom_of_isDigit (h : ∀ c ∈ cs, c.isDigit = true) (acc : Nat) :
    ∃ n, digitsFrom acc cs = some n := by
  induction cs generalizing acc with
  | nil => exact ⟨acc, rfl⟩
  | cons c cs ih =>
      obtain ⟨d, hd⟩ := isDigit_iff_digit?.mp (h c List.mem_cons_self)
      obtain ⟨n, hn⟩ := ih (fun x hx => h x (List.mem_cons_of_mem _ hx)) (10 * acc + d)
      exact ⟨n, by simp only [digitsFrom, hd, hn]⟩

theorem isDigit_toDigits {c : Char} (h : c ∈ Nat.toDigits 10 n) : c.isDigit = true :=
  Nat.isDigit_of_mem_toDigits (by decide) (by decide) h

/-- A number prints with a leading zero only when it is zero. -/
theorem toDigits_leading (h : (Nat.toDigits 10 n).head? = some '0') : n = 0 := by
  induction n using Nat.strongRecOn with
  | ind n ih =>
      rw [Nat.toDigits_eq_if (by decide)] at h
      split at h
      · rename_i hn
        have all : ∀ n < 10, [Nat.digitChar n].head? = some '0' → n = 0 := by decide
        exact all n hn h
      · rename_i hn
        cases hd : Nat.toDigits 10 (n / 10) with
        | nil => exact absurd hd Nat.toDigits_ne_nil
        | cons d ds =>
            rw [hd] at h
            have := ih (n / 10) (by omega) (by rw [hd]; exact h)
            omega

/-- The texts that numbers print as: digits without a leading zero. -/
theorem eq_toString_iff {text : String} :
    (∃ n : Nat, text = toString n) ↔
      text.toList ≠ [] ∧ (∀ c ∈ text.toList, c.isDigit = true) ∧
        (text ≠ "0" → text.toList.head? ≠ some '0') := by
  constructor
  · rintro ⟨n, rfl⟩
    rw [toList_toString]
    refine ⟨Nat.toDigits_ne_nil, fun c => isDigit_toDigits, fun hne hlead => hne ?_⟩
    rw [toDigits_leading hlead]
    rfl
  · rintro ⟨hne, hdigits, hlead⟩
    obtain ⟨n, hn⟩ := digitsFrom_of_isDigit hdigits 0
    refine ⟨n, ?_⟩
    rw [← String.toList_inj, toList_toString]
    cases hl : text.toList with
    | nil => exact absurd hl hne
    | cons c cs =>
        rw [hl] at hn
        refine (toDigits_digitsFrom hn ?_).symm
        rintro rfl
        by_cases hzero : text = "0"
        · rw [hzero] at hl
          exact (List.cons.inj hl).2.symm
        · exact absurd (by rw [hl]; rfl) (hlead hzero)

/-! ## The order of printed numbers -/

theorem digitsFrom_lt {acc : Nat} (h : digitsFrom acc cs = some n) :
    acc * 10 ^ cs.length ≤ n ∧ n < (acc + 1) * 10 ^ cs.length := by
  induction cs generalizing acc with
  | nil =>
      cases h
      simp
  | cons c cs ih =>
      cases hc : digit? c with
      | none => simp [digitsFrom, hc] at h
      | some d =>
          simp only [digitsFrom, hc] at h
          have hd := (digit?_eq_some hc).1
          obtain ⟨hlow, hhigh⟩ := ih h
          rw [List.length_cons, Nat.pow_succ]
          constructor
          · calc acc * (10 ^ cs.length * 10) = (10 * acc) * 10 ^ cs.length := by ac_rfl
              _ ≤ (10 * acc + d) * 10 ^ cs.length := Nat.mul_le_mul_right _ (by omega)
              _ ≤ n := hlow
          · calc n < (10 * acc + d + 1) * 10 ^ cs.length := hhigh
              _ ≤ (10 * (acc + 1)) * 10 ^ cs.length := Nat.mul_le_mul_right _ (by omega)
              _ = (acc + 1) * (10 ^ cs.length * 10) := by ac_rfl

theorem digitChar_lt {a b : Nat} (ha : a < 10) (hb : b < 10) :
    Nat.digitChar a < Nat.digitChar b ↔ a < b := by
  have all : ∀ a < 10, ∀ b < 10, Nat.digitChar a < Nat.digitChar b ↔ a < b := by decide
  exact all a ha b hb

/-- Digits of one length are ordered as their values. -/
theorem digitsFrom_lt_iff {xs ys : List Char} {acc m : Nat} (hlen : xs.length = ys.length)
    (hx : digitsFrom acc xs = some m) (hy : digitsFrom acc ys = some n) : xs < ys ↔ m < n := by
  induction xs generalizing ys acc with
  | nil =>
      obtain rfl := List.length_eq_zero_iff.mp hlen.symm
      cases hx
      cases hy
      simp
  | cons x xs ih =>
      cases ys with
      | nil => cases hlen
      | cons y ys =>
          have hlen' : xs.length = ys.length := Nat.succ.inj hlen
          cases hdx : digit? x with
          | none => simp [digitsFrom, hdx] at hx
          | some a =>
              cases hdy : digit? y with
              | none => simp [digitsFrom, hdy] at hy
              | some b =>
                  simp only [digitsFrom, hdx] at hx
                  simp only [digitsFrom, hdy] at hy
                  obtain ⟨ha, rfl⟩ := digit?_eq_some hdx
                  obtain ⟨hb, rfl⟩ := digit?_eq_some hdy
                  have hmx := digitsFrom_lt hx
                  have hny := digitsFrom_lt hy
                  rw [hlen'] at hmx
                  rw [List.cons_lt_cons_iff, digitChar_lt ha hb]
                  -- A smaller first digit decides; after equal ones the rest does.
                  rcases Nat.lt_trichotomy a b with hab | rfl | hab
                  · have hstep := Nat.mul_le_mul_right (10 ^ ys.length)
                      (show 10 * acc + a + 1 ≤ 10 * acc + b by omega)
                    exact iff_of_true (.inl hab) (by omega)
                  · simp only [lt_irrefl, false_or, true_and]
                    exact ih hlen' hx hy
                  · have hstep := Nat.mul_le_mul_right (10 ^ ys.length)
                      (show 10 * acc + b + 1 ≤ 10 * acc + a by omega)
                    have hne : Nat.digitChar a ≠ Nat.digitChar b := by
                      intro he
                      have hlt := (digitChar_lt hb ha).mpr hab
                      rw [he, digitChar_lt hb hb] at hlt
                      omega
                    refine iff_of_false ?_ (by omega)
                    rintro (hlt | ⟨he, -⟩)
                    · omega
                    · exact hne he

theorem length_toString (n : Nat) : (toString n).length = (Nat.toDigits 10 n).length := by
  rw [← String.length_toList, toList_toString]

/-- A number is larger where its text is longer, or as long and later in the order of texts. -/
theorem lt_iff_toString {m : Nat} :
    m < n ↔ (toString m).length < (toString n).length ∨
      (toString m).length = (toString n).length ∧ toString m < toString n := by
  have hpos : ∀ n : Nat, 0 < (Nat.toDigits 10 n).length := fun n => Nat.length_toDigits_pos
  have hlonger : ∀ {m n : Nat}, (Nat.toDigits 10 m).length < (Nat.toDigits 10 n).length →
    m < n := by
    intro m n h
    have hm := (Nat.length_toDigits_le_iff (b := 10) (by decide) (hpos m)).mp (le_refl _)
    have hn := mt (Nat.length_toDigits_le_iff (b := 10) (n := n) (by decide) (hpos m)).mpr
      (by omega)
    omega
  simp only [length_toString]
  rcases Nat.lt_trichotomy (Nat.toDigits 10 m).length (Nat.toDigits 10 n).length with h | h | h
  · exact iff_of_true (hlonger h) (.inl h)
  · have horder := digitsFrom_lt_iff h (digitsFrom_toDigits m) (digitsFrom_toDigits n)
    rw [← toList_toString m, ← toList_toString n] at horder
    rw [h]
    simp only [lt_irrefl, false_or, true_and]
    exact horder.symm
  · have := hlonger h
    exact iff_of_false (by omega) (by omega)

end Decimal
