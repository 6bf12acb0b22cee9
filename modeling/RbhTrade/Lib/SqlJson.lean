import Mathlib.Algebra.Group.Int.Defs
import Mathlib.Data.List.Dedup
import Mathlib.Data.Nat.Log
import RbhTrade.Lib.Json

/-!
# JSON functions of SQLite

`json_type`, `json_extract` and `json_each` on a parsed text, and the comparison of the SQL values
they give. A condition is modelled by its being true, so a comparison with NULL, which is unknown,
does not hold, and neither does its opposite.
-/

namespace SqlJson

open Json

/-! ## SQL values -/

/-- An SQL value. An integer outside the 64-bit range is the nearest double; a number with a
fraction or an exponent is kept as it is written. -/
inductive Scalar where
  | null
  | int (n : Int)
  | double (n : Int)
  | real (literal : List Char)
  | text (s : String)
deriving DecidableEq

/-- The nearest double of a natural number of more than 53 bits, ties to even. -/
def nearestDouble (n : Nat) : Nat :=
  let unit := 2 ^ (n.log2 - 52)
  let q := n / unit
  let r := n % unit
  (if unit < 2 * r ∨ (2 * r = unit ∧ q % 2 = 1) then q + 1 else q) * unit

/-- The value of an integer literal. -/
def Scalar.ofInt (n : Int) : Scalar :=
  if -2 ^ 63 ≤ n ∧ n < 2 ^ 63 then .int n
  else if n < 0 then .double (-(nearestDouble n.natAbs : Int))
  else .double (nearestDouble n.natAbs)

/-- `a = b`. -/
def Scalar.eq : Scalar → Scalar → Bool
  | .text s, .text t => s = t
  | .int m, .int n => m = n
  | .int m, .double n => m = n
  | .double m, .int n => m = n
  | .double m, .double n => m = n
  | .real l, .real l' => l = l'
  | _, _ => false

@[simp]
theorem Scalar.eq_text {s t : String} : (Scalar.text s).eq (.text t) = true ↔ s = t :=
  decide_eq_true_iff

/-- `a < b`: numbers come before texts. -/
def Scalar.lt : Scalar → Scalar → Bool
  | .null, _ => false
  | _, .null => false
  | .text s, .text t => s < t
  | .text _, _ => false
  | _, .text _ => true
  | .int m, .int n => m < n
  | .int m, .double n => m < n
  | .double m, .int n => m < n
  | .double m, .double n => m < n
  | _, _ => false

/-- `a <= b`. -/
def Scalar.le (a b : Scalar) : Bool := a.lt b || a.eq b

/-- `a != b`. -/
def Scalar.ne (a b : Scalar) : Bool := a ≠ .null && b ≠ .null && !a.eq b

/-- `a BETWEEN low AND high`. -/
def Scalar.between (a low high : Scalar) : Bool := low.le a && a.le high

/-- `typeof(a)='integer'`. -/
def Scalar.isInt : Scalar → Bool
  | .int _ => true
  | _ => false

/-- The text that a text function is given. Numbers are no argument of one here. -/
def Scalar.text? : Scalar → Option String
  | .text s => some s
  | _ => none

/-! ## Values of a text -/

/-- The results of `json_type`. -/
inductive Kind where
  | null
  | true
  | false
  | integer
  | real
  | text
  | array
  | object
deriving DecidableEq

/-- A literal without a fraction and an exponent. -/
def isInteger (literal : List Char) : Bool := literal.all fun c => c.isDigit || c = '-'

/-- `json_type`. -/
def kind : Value → Kind
  | .null => .null
  | .bool b => if b then .true else .false
  | .num l => if isInteger l then .integer else .real
  | .str _ => .text
  | .arr _ => .array
  | .obj _ => .object

/-- The SQL value of a JSON value. -/
def scalar : Value → Scalar
  | .null => .null
  | .bool b => .int (if b then 1 else 0)
  | .num l =>
      match Decimal.bigInt? (String.ofList l) with
      | some n => .ofInt n
      | none => .real l
  | .str l => .text (unescape l)
  | .arr vs => .text (Value.arr vs).render
  | .obj ms => .text (Value.obj ms).render

/-- The first member of the key. -/
def member (key : String) : List (List Char × Value) → Option Value
  | [] => none
  | (k, v) :: ms => if unescape k = key then some v else member key ms

/-- The value at `$.key.key…`. -/
def at? : Value → List String → Option Value
  | v, [] => some v
  | .obj ms, key :: path => (member key ms).bind (at? · path)
  | _, _ :: _ => none

/-- `json_extract`. -/
def extract (v : Value) (path : List String) : Scalar := ((at? v path).map scalar).getD .null

/-- `json_type(v,path)`, `none` for NULL. -/
def type? (v : Value) (path : List String) : Option Kind := (at? v path).map kind

/-- The members that `json_each` lists, by key; a value that is no object has none. -/
def members : Value → List (String × Value)
  | .obj ms => ms.map fun m => (unescape m.1, m.2)
  | _ => []

/-- The items that `json_each` lists for an array; any other value but an object is listed
itself. -/
def items : Value → List Value
  | .arr vs => vs
  | .obj ms => ms.map Prod.snd
  | v => [v]

/-- `json_array_length`, zero for a value that is no array. -/
def arrayLength : Value → Nat
  | .arr vs => vs.length
  | _ => 0

/-- The keys that `json_each` lists are the given ones, in any order and each once. -/
def HasKeys (keys : List String) (v : Value) : Prop :=
  (members v).length = keys.length ∧ ((members v).map Prod.fst).dedup.length = keys.length ∧
    ∀ m ∈ members v, m.1 ∈ keys
deriving Decidable

/-! ## Values that are marshaled -/

variable {n : Nat}

section Marshaled

@[simp]
theorem kind_text (s : String) : kind (.text s) = .text := rfl

@[simp]
theorem scalar_text (s : String) : scalar (.text s) = .text s := by
  simp [Value.text, scalar]

@[simp]
theorem kind_nat (n : Nat) : kind (.nat n) = .integer := by
  have h : isInteger (Nat.toDigits 10 n) = true := by
    refine List.all_eq_true.mpr fun c hc => ?_
    simp [Decimal.isDigit_toDigits hc]
  simp [Value.nat, kind, h]

@[simp]
theorem scalar_nat (n : Nat) : scalar (.nat n) = .ofInt n := by
  have h : String.ofList (Nat.toDigits 10 n) = toString n := by
    rw [← String.toList_inj, Decimal.toList_toString, String.toList_ofList]
  simp only [Value.nat, scalar]
  rw [h, Decimal.bigInt?_toString]

@[simp]
theorem member_struct (key : String) (fields : List (String × Value)) :
    member key (fields.map fun f => (escape f.1, f.2)) = List.lookup key fields := by
  induction fields with
  | nil => rfl
  | cons f fields ih =>
      rw [List.map_cons, member, unescape_escape, ih, List.lookup_cons]
      by_cases h : f.1 = key
      · simp [h]
      · have hne : (key == f.1) = false := by simpa using fun he : key = f.1 => h he.symm
        rw [if_neg h, hne]

@[simp]
theorem at?_struct (key : String) (path : List String) (fields : List (String × Value)) :
    at? (.struct fields) (key :: path) = (List.lookup key fields).bind (at? · path) := by
  rw [Value.struct, at?, member_struct]

@[simp]
theorem at?_nil (v : Value) : at? v [] = some v := by
  cases v <;> rfl

@[simp]
theorem members_struct (fields : List (String × Value)) : members (.struct fields) = fields := by
  simp [Value.struct, members, Function.comp_def]

variable {path : List String}

theorem type?_nat {v : Value} (h : at? v path = some (.nat n)) :
    type? v path = some .integer := by
  rw [type?, h, Option.map_some, kind_nat]

theorem type?_text {v : Value} {s : String} (h : at? v path = some (.text s)) :
    type? v path = some .text := by
  rw [type?, h, Option.map_some, kind_text]

theorem extract_nat {v : Value} (h : at? v path = some (.nat n)) :
    extract v path = .ofInt n := by
  rw [extract, h, Option.map_some, Option.getD_some, scalar_nat]

theorem extract_text {v : Value} {s : String} (h : at? v path = some (.text s)) :
    extract v path = .text s := by
  rw [extract, h, Option.map_some, Option.getD_some, scalar_text]

theorem hasKeys_struct {fields : List (String × Value)} {keys : List String}
    (h : fields.map Prod.fst = keys) (hnodup : keys.Nodup) : HasKeys keys (.struct fields) := by
  subst h
  rw [HasKeys, members_struct, hnodup.dedup, List.length_map]
  exact ⟨rfl, rfl, fun m hm => List.mem_map_of_mem hm⟩

end Marshaled

/-! ## Numbers outside the 64-bit range -/

theorem le_nearestDouble {k : Nat} (hk : 53 ≤ k) (h : 2 ^ k ≤ n) : 2 ^ k ≤ nearestDouble n := by
  have hn : n ≠ 0 := by have := Nat.two_pow_pos k; omega
  have hlog : k ≤ n.log2 := (Nat.le_log2 hn).mpr h
  have hpow : 2 ^ n.log2 ≤ n := Nat.log2_self_le hn
  have hsplit : 2 ^ 52 * 2 ^ (n.log2 - 52) = 2 ^ n.log2 := by
    rw [← Nat.pow_add]
    congr 1
    omega
  have hq : 2 ^ 52 ≤ n / 2 ^ (n.log2 - 52) :=
    (Nat.le_div_iff_mul_le (Nat.two_pow_pos _)).mpr (by rw [hsplit]; exact hpow)
  have hround : n / 2 ^ (n.log2 - 52) * 2 ^ (n.log2 - 52) ≤ nearestDouble n := by
    unfold nearestDouble
    simp only
    split
    · exact Nat.mul_le_mul_right _ (Nat.le_succ _)
    · exact le_refl _
  calc 2 ^ k ≤ 2 ^ n.log2 := Nat.pow_le_pow_right (by decide) hlog
    _ = 2 ^ 52 * 2 ^ (n.log2 - 52) := hsplit.symm
    _ ≤ n / 2 ^ (n.log2 - 52) * 2 ^ (n.log2 - 52) := Nat.mul_le_mul_right _ hq
    _ ≤ nearestDouble n := hround

theorem Scalar.ofInt_cases (n : Nat) :
    (n < 2 ^ 63 ∧ Scalar.ofInt n = .int n) ∨
      ∃ d : Int, 2 ^ 63 ≤ d ∧ 2 ^ 63 ≤ n ∧ Scalar.ofInt n = .double d := by
  unfold Scalar.ofInt
  by_cases h : n < 2 ^ 63
  · exact .inl ⟨h, if_pos ⟨by omega, by omega⟩⟩
  · have hn : 2 ^ 63 ≤ n := Nat.not_lt.mp h
    refine .inr ⟨nearestDouble n, ?_, hn, ?_⟩
    · exact_mod_cast le_nearestDouble (by decide) hn
    · rw [if_neg (by omega), if_neg (by omega), Int.natAbs_natCast]

-- From here on `Scalar.ofInt_cases` says what the value is; evaluating the comparison with `2 ^ 63`
-- on a variable only fails slowly.
attribute [irreducible] Scalar.ofInt

theorem Scalar.ofInt_eq {k : Int} (hk : k < 2 ^ 63) :
    (Scalar.ofInt n).eq (.int k) = true ↔ (n : Int) = k := by
  obtain ⟨hn, h⟩ | ⟨d, hd, hn, h⟩ := Scalar.ofInt_cases n <;> rw [h]
  · simp [Scalar.eq]
  · simp only [Scalar.eq, decide_eq_true_eq]
    exact iff_of_false (by omega) (by omega)
theorem Scalar.ofInt_between {low high : Int} (hhigh : high < 2 ^ 63) :
    (Scalar.ofInt n).between (.int low) (.int high) = true ↔ low ≤ n ∧ (n : Int) ≤ high := by
  obtain ⟨hn, h⟩ | ⟨d, hd, hn, h⟩ := Scalar.ofInt_cases n <;> rw [h]
  · simp [Scalar.between, Scalar.le, Scalar.lt, Scalar.eq]
    omega
  · simp only [Scalar.between, Scalar.le, Scalar.lt, Scalar.eq, Bool.and_eq_true, Bool.or_eq_true,
      decide_eq_true_eq]
    exact iff_of_false (by omega) (by omega)

theorem Scalar.isInt_ofInt : (Scalar.ofInt n).isInt = true ↔ n < 2 ^ 63 := by
  obtain ⟨hn, h⟩ | ⟨d, hd, hn, h⟩ := Scalar.ofInt_cases n <;> rw [h]
  · exact iff_of_true rfl hn
  · exact iff_of_false Bool.false_ne_true (by omega)

theorem Scalar.zero_lt_ofInt : (Scalar.int 0).lt (.ofInt n) = true ↔ 0 < n := by
  obtain ⟨hn, h⟩ | ⟨d, hd, hn, h⟩ := Scalar.ofInt_cases n <;> rw [h] <;>
    simp only [Scalar.lt, decide_eq_true_eq] <;> omega

theorem Scalar.ofInt_le {m : Nat} (hn : n < 2 ^ 63) :
    (Scalar.ofInt m).le (.ofInt n) = true ↔ m ≤ n := by
  obtain ⟨-, h⟩ | ⟨-, -, hn', -⟩ := Scalar.ofInt_cases n
  · rw [h]
    obtain ⟨hm, h'⟩ | ⟨d, hd, hm, h'⟩ := Scalar.ofInt_cases m <;> rw [h']
    · simp only [Scalar.le, Scalar.lt, Scalar.eq, Bool.or_eq_true, decide_eq_true_eq]
      omega
    · simp only [Scalar.le, Scalar.lt, Scalar.eq, Bool.or_eq_true, decide_eq_true_eq]
      exact iff_of_false (by omega) (by omega)
  · exact absurd hn (Nat.not_lt.mpr hn')

end SqlJson
