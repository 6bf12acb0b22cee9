import Mathlib.Algebra.GroupWithZero.Nat
import Mathlib.Data.List.Forall2
import RbhTrade.Lib.Json
import RbhTrade.Lib.SqlText

/-!
# Structures in JSON texts

How `encoding/json` fills the fields of a structure from the members of an object. A member belongs
to the field of its name, or else to the first field whose name differs only in case; a later member
overwrites an earlier one, a null leaves a field as it is, and a value of the wrong kind fails.
Reading the object that a structure is marshaled to gives each field its own value.

A marshaled structure whose texts are plain is bounded by the lengths of its names and values.
-/

namespace Json

/-! ## The fields of a structure -/

/-- The members of an object; a null is read as no members. -/
def members? : Value → Option (List (String × Value))
  | .null => some []
  | .obj ms => some (ms.map fun m => (unescape m.1, m.2))
  | _ => none

/-- The case folding of a name. Two letters outside ASCII fold to one inside. -/
def foldChar (c : Char) : Char :=
  if c = '\u017f' then 's' else if c = '\u212a' then 'k' else c.toLower

/-- The field that a member belongs to. -/
def fieldName? (names : List String) (key : String) : Option String :=
  if key ∈ names then some key
  else names.find? fun name => name.toList.map foldChar = key.toList.map foldChar

/-- The values of the members that belong to a field, in their order. -/
def fieldValues (names : List String) (members : List (String × Value)) (name : String) :
    List Value :=
  (members.filter fun m => fieldName? names m.1 = some name).map Prod.snd

/-- Every member belongs to a field, as `DisallowUnknownFields` asks. -/
def noUnknown (names : List String) (members : List (String × Value)) : Bool :=
  members.all fun m => (fieldName? names m.1).isSome

/-- A field after the values that belong to it. -/
def fill {α : Type} (read : Value → Option α) (zero : α) (values : List Value) : Option α :=
  values.foldlM (fun x v => match v with
    | .null => some x
    | v => read v) zero

def readText : Value → Option String
  | .str l => some (unescape l)
  | _ => none

/-- An unsigned integer below the bound. -/
def readNat (bound : Nat) : Value → Option Nat
  | .num l =>
      match Decimal.digitsFrom 0 l with
      | some n => if l ≠ [] ∧ n < bound then some n else none
      | none => none
  | _ => none

def readBool : Value → Option Bool
  | .bool b => some b
  | _ => none

/-- A slice after the values that belong to it: a null makes it nil. An item that is null is the
zero value. -/
def fillSlice {α : Type} (read : Value → Option α) (zero : α) (values : List Value) :
    Option (Option (List α)) :=
  values.foldlM (fun _ v => match v with
    | .null => some none
    | .arr vs => (vs.mapM fun v => fill read zero [v]).map some
    | _ => none) none

/-- A pointer after the values that belong to it: a null makes it nil, and any other value is read
into what it points to, or into a new zero value. -/
def fillPointer {α : Type} (into : α → Value → Option α) (zero : α) (values : List Value) :
    Option (Option α) :=
  values.foldlM (fun p v => match v with
    | .null => some none
    | v => (into (p.getD zero) v).map some) none

/-- The first value of a text, as `Decoder.Decode` reads it; what follows it is left. -/
def firstValue? (text : String) : Option Value :=
  (parseValue text.toList.length text.toList).map Prod.fst

variable {v : Value} {names : List String} {members fields : List (String × Value)} {n : Nat}

theorem firstValue?_of_parse {text : String} (h : parse text = some v) :
    firstValue? text = some v := by
  unfold parse at h
  unfold firstValue?
  split at h
  · rename_i hparse
    rw [hparse]
    obtain ⟨-, he⟩ := Option.ite_none_right_eq_some.mp h
    exact he
  · cases h

/-! ## Reading a marshaled structure -/

theorem firstValue?_render (h : v.Marshaled) : firstValue? v.render = some v := by
  have hv := parseValue_print v v.print.length [] h (le_refl _) .nil
  rw [List.append_nil] at hv
  simp only [firstValue?, Value.render, String.toList_ofList, hv]
  rfl

@[simp]
theorem members?_struct (fields : List (String × Value)) :
    members? (.struct fields) = some fields := by
  simp [Value.struct, members?, unescape_escape, Function.comp_def]

theorem fieldName?_mem {key : String} (h : key ∈ names) :
    fieldName? names key = some key := if_pos h

theorem noUnknown_of_mem (hsub : ∀ m ∈ members, m.1 ∈ names) : noUnknown names members = true := by
  refine List.all_eq_true.mpr fun m hm => ?_
  rw [fieldName?_mem (hsub m hm)]
  rfl

theorem noUnknown_self (hnames : fields.map Prod.fst = names) : noUnknown names fields = true :=
  noUnknown_of_mem fun _ hf => hnames ▸ List.mem_map_of_mem hf

theorem fieldValues_nil (names : List String) (name : String) : fieldValues names [] name = [] :=
  rfl

theorem fieldValues_cons (names : List String) (key : String) (v : Value)
    (members : List (String × Value)) (name : String) :
    fieldValues names ((key, v) :: members) name =
      if fieldName? names key = some name then v :: fieldValues names members name
      else fieldValues names members name := by
  simp only [fieldValues, List.filter_cons, decide_eq_true_eq]
  split <;> rfl

/-- Members with field names belong to the fields of their names. -/
theorem fieldValues_eq (hsub : ∀ m ∈ members, m.1 ∈ names) (name : String) :
    fieldValues names members name = (members.filter fun m => m.1 = name).map Prod.snd := by
  rw [fieldValues]
  congr 1
  refine List.filter_congr fun m hm => ?_
  simp [fieldName?_mem (hsub m hm)]

theorem fieldValues_absent {name : String} (hsub : ∀ m ∈ members, m.1 ∈ names)
    (h : name ∉ members.map Prod.fst) :
    fieldValues names members name = [] := by
  rw [fieldValues_eq hsub, List.map_eq_nil_iff, List.filter_eq_nil_iff]
  intro m hm hname
  exact h (List.mem_map.mpr ⟨m, hm, of_decide_eq_true hname⟩)

/-- Each of several members with distinct field names is the one value of its field. -/
theorem fieldValues_mem (hsub : ∀ m ∈ members, m.1 ∈ names) (hnodup : (members.map Prod.fst).Nodup)
    :
    ∀ m ∈ members, fieldValues names members m.1 = [m.2] := by
  rintro ⟨name, v⟩ h
  rw [fieldValues_eq hsub]
  clear hsub
  induction members with
  | nil => cases h
  | cons m members ih =>
      rw [List.map_cons, List.nodup_cons] at hnodup
      rcases List.mem_cons.mp h with rfl | h
      · have hrest : members.filter (fun m => m.1 = name) = [] := by
          refine List.filter_eq_nil_iff.mpr fun m hm => ?_
          rw [decide_eq_true_eq]
          intro hname
          exact hnodup.1 (List.mem_map.mpr ⟨m, hm, hname⟩)
        rw [List.filter_cons_of_pos (by simp), hrest]
        rfl
      · have hne : m.1 ≠ name := by
          intro hname
          exact hnodup.1 (List.mem_map.mpr ⟨_, h, hname.symm⟩)
        rw [List.filter_cons_of_neg (by simpa using hne)]
        exact ih hnodup.2 h

/-- Each field of a structure with distinct names has its own value. -/
theorem fieldValues_self (names : List String) (fields : List (String × Value))
    (hnames : fields.map Prod.fst = names) (hnodup : names.Nodup) :
    ∀ f ∈ fields, fieldValues names fields f.1 = [f.2] :=
  fieldValues_mem (fun _ hf => hnames ▸ List.mem_map_of_mem hf) (hnames ▸ hnodup)

theorem fill_nil {α : Type} (read : Value → Option α) (zero : α) : fill read zero [] = some zero :=
  rfl

theorem fill_text (s : String) : fill readText "" [.text s] = some s := by
  simp [fill, readText, Value.text, unescape_escape]

theorem readNat_nat {bound : Nat} (h : n < bound) : readNat bound (.nat n) = some n := by
  have hne : Nat.toDigits 10 n ≠ [] := Nat.toDigits_ne_nil
  simp only [readNat, Value.nat, Decimal.digitsFrom_toDigits]
  exact if_pos ⟨hne, h⟩

theorem readNat_eq_some {bound : Nat} : readNat bound v = some n ↔
    ∃ l, v = .num l ∧ l ≠ [] ∧ Decimal.digitsFrom 0 l = some n ∧ n < bound := by
  cases v with
  | num l =>
      simp only [readNat, Value.num.injEq]
      cases hdigits : Decimal.digitsFrom 0 l with
      | none => simp [hdigits]
      | some m =>
          simp only [Option.ite_none_right_eq_some, Option.some.injEq, exists_eq_left', hdigits]
          constructor
          · rintro ⟨⟨hne, hlt⟩, rfl⟩
            exact ⟨hne, rfl, hlt⟩
          · rintro ⟨hne, rfl, hlt⟩
            exact ⟨⟨hne, hlt⟩, rfl⟩
  | _ => simp [readNat]

theorem fillPointer_one {α : Type} {into : α → Value → Option α} {zero : α} (h : v ≠ .null) :
    fillPointer into zero [v] = (into zero v).map some := by
  cases v with
  | null => exact absurd rfl h
  | _ => simp [fillPointer]

theorem fill_nat {bound : Nat} (h : n < bound) : fill (readNat bound) 0 [.nat n] = some n := by
  simp [fill, Value.nat, ← readNat_nat h]

theorem fill_bool (b : Bool) : fill readBool false [.bool b] = some b := by
  simp [fill, readBool]

theorem fill_struct {α : Type} {read : Value → Option α} {zero x : α}
    (h : read (.struct fields) = some x) :
    fill read zero [.struct fields] = some x := by
  simp [fill, Value.struct, ← h]

theorem fillSlice_arr {α : Type} {read : Value → Option α} {zero : α} {json : α → Value}
    (h : ∀ a, fill read zero [json a] = some a) (as : List α) :
    fillSlice read zero [.arr (as.map json)] = some (some as) := by
  have hitems : (as.map json).mapM (fun v => fill read zero [v]) = some as := by
    induction as with
    | nil => rfl
    | cons a as ih => simp [h, ih]
  simp [fillSlice, hitems]

/-! ## How long a structure is -/

/-- A printable character of one byte that is written as itself. -/
def isPlain (c : Char) : Bool :=
  ' ' ≤ c && c ≤ '~' && c ≠ '"' && c ≠ '\\' && c ≠ '<' && c ≠ '>' && c ≠ '&'

def Plain (s : String) : Prop := ∀ c ∈ s.toList, isPlain c = true

instance (s : String) : Decidable (Plain s) :=
  decidable_of_iff (s.toList.all isPlain = true) List.all_eq_true

/-- The text of the value has single-byte characters only, at most the given number. -/
def Value.Fits (v : Value) (n : Nat) : Prop :=
  (∀ c ∈ v.print, c.utf8Size = 1) ∧ v.print.length ≤ n

theorem utf8Size_of_isPlain {c : Char} (h : isPlain c = true) : c.utf8Size = 1 := by
  simp only [isPlain, Bool.and_eq_true, decide_eq_true_eq] at h
  refine Hex.utf8Size_of_toNat ?_
  have hle : c.toNat ≤ '~'.toNat := h.1.1.1.1.1.2
  exact Nat.le_trans hle (by decide)

theorem escapeChar_plain {c : Char} (h : isPlain c = true) : escapeChar c = [c] := by
  simp only [isPlain, Bool.and_eq_true, decide_eq_true_eq] at h
  obtain ⟨⟨⟨⟨⟨⟨hlow, hhigh⟩, hquote⟩, hback⟩, hlt⟩, hgt⟩, hamp⟩ := h
  have hspace : ¬ c < ' ' := not_lt.mpr hlow
  have hnot : ∀ d : Char, d < ' ' ∨ '~' < d → c ≠ d := by
    rintro d hd rfl
    exact hd.elim hspace (not_lt.mpr hhigh)
  unfold escapeChar
  rw [if_neg (not_or.mpr ⟨hquote, hback⟩), if_neg (hnot _ (by decide)), if_neg (hnot _ (by decide)),
    if_neg (hnot _ (by decide)), if_neg (hnot _ (by decide)), if_neg (hnot _ (by decide)),
    if_neg (by simp [hspace, hlt, hgt, hamp]), if_neg (hnot _ (by decide)),
    if_neg (hnot _ (by decide))]

theorem escape_plain {s : String} (h : Plain s) : escape s = s.toList := by
  have hall : ∀ cs : List Char, (∀ c ∈ cs, isPlain c = true) → cs.flatMap escapeChar = cs := by
    intro cs hcs
    induction cs with
    | nil => rfl
    | cons c cs ih =>
        rw [List.flatMap_cons, escapeChar_plain (hcs c List.mem_cons_self),
          ih fun d hd => hcs d (List.mem_cons_of_mem _ hd)]
        rfl
  exact hall s.toList h

theorem Value.fits_of_print (h : v.print.all (·.utf8Size = 1) = true) (hn : v.print.length ≤ n) :
    v.Fits n :=
  ⟨fun c hc => of_decide_eq_true (List.all_eq_true.mp h c hc), hn⟩

theorem Value.Fits.mono {m : Nat} (h : v.Fits m) (hmn : m ≤ n) : v.Fits n :=
  ⟨h.1, Nat.le_trans h.2 hmn⟩

theorem Value.fits_text {s : String} (h : Plain s) (hn : s.length ≤ n) :
    (Value.text s).Fits (n + 2) := by
  rw [Value.Fits, Value.text, Value.print, escape_plain h]
  constructor
  · intro c hc
    simp only [List.mem_cons, List.cons_append, List.mem_append, List.not_mem_nil, or_false] at hc
    rcases hc with rfl | hc | rfl
    · decide
    · exact utf8Size_of_isPlain (h c hc)
    · decide
  · simp only [List.length_cons, List.cons_append, List.length_append, String.length_toList,
      List.length_nil]
    omega

/-- A range of characters without the five that are written otherwise. -/
theorem isPlain_of_range {c : Char} (lo hi : Char) (hlo : lo ≤ c) (hhi : c ≤ hi)
    (hrange : ' ' ≤ lo ∧ hi ≤ '~')
    (hout : ['"', '\\', '<', '>', '&'].all (fun d => d < lo ∨ hi < d) = true) :
    isPlain c = true := by
  have hnot : ∀ d ∈ ['"', '\\', '<', '>', '&'], c ≠ d := by
    rintro d hd rfl
    exact (of_decide_eq_true (List.all_eq_true.mp hout c hd)).elim (not_lt.mpr hlo) (not_lt.mpr hhi)
  simp only [List.forall_mem_cons, List.not_mem_nil, false_imp_iff, implies_true, and_true] at hnot
  simp only [isPlain, Bool.and_eq_true, decide_eq_true_eq]
  exact ⟨⟨⟨⟨⟨⟨le_trans hrange.1 hlo, le_trans hhi hrange.2⟩, hnot.1⟩, hnot.2.1⟩, hnot.2.2.1⟩,
    hnot.2.2.2.1⟩, hnot.2.2.2.2⟩

theorem isPlain_of_isDigit {c : Char} (h : c.isDigit = true) : isPlain c = true := by
  simp only [Char.isDigit, Bool.and_eq_true, decide_eq_true_eq] at h
  exact isPlain_of_range '0' '9' h.1 h.2 (by decide) (by decide)

theorem isPlain_of_isHex {c : Char} (h : Hex.isHex c = true) : isPlain c = true := by
  simp only [Hex.isHex, Bool.or_eq_true, Bool.and_eq_true, decide_eq_true_eq] at h
  obtain (h | h) | h := h
  · exact isPlain_of_isDigit h
  · exact isPlain_of_range 'a' 'f' h.1 h.2 (by decide) (by decide)
  · exact isPlain_of_range 'A' 'F' h.1 h.2 (by decide) (by decide)

theorem Value.fits_nat {m : Nat} (hn : 0 < n) (h : m < 10 ^ n) : (Value.nat m).Fits n := by
  constructor
  · intro c hc
    exact utf8Size_of_isPlain (isPlain_of_isDigit (Decimal.isDigit_toDigits hc))
  · exact (Nat.length_toDigits_le_iff (by decide) hn).mpr h

theorem Value.fits_uint64 (x : UInt64) : (Value.nat x.toNat).Fits 20 :=
  Value.fits_nat (by decide) (lt_trans x.toNat_lt (by decide))

/-- The text of a number. -/
theorem Value.fits_decimal {m : Nat} (hn : 0 < n) (h : m < 10 ^ n) :
    (Value.text (toString m)).Fits (n + 2) := by
  refine Value.fits_text (fun c hc => ?_) ?_
  · rw [Decimal.toList_toString] at hc
    exact isPlain_of_isDigit (Decimal.isDigit_toDigits hc)
  · rw [Decimal.length_toString]
    exact (Nat.length_toDigits_le_iff (by decide) hn).mpr h

theorem Value.fits_bool (b : Bool) : (Value.bool b).Fits 5 := by
  cases b <;> exact Value.fits_of_print (by decide) (by decide)

theorem printItems_fits {vs : List Value} (h : ∀ v ∈ vs, v.Fits n) :
    (∀ c ∈ printItems vs, c.utf8Size = 1) ∧ (printItems vs).length ≤ vs.length * (n + 1) := by
  induction vs with
  | nil => exact ⟨by simp [printItems], by simp [printItems]⟩
  | cons v vs ih =>
      obtain ⟨hv, hrest⟩ := List.forall_mem_cons.mp h
      obtain ⟨hchars, hlength⟩ := ih hrest
      constructor
      · intro c hc
        simp only [printItems, List.cons_append, List.mem_cons, List.mem_append] at hc
        rcases hc with rfl | hc | hc
        · decide
        · exact hv.1 c hc
        · exact hchars c hc
      · have := hv.2
        simp only [printItems, List.cons_append, List.length_cons, List.length_append, Nat.add_mul]
        omega

theorem Value.fits_arr {vs : List Value} (h : ∀ v ∈ vs, v.Fits n) :
    (Value.arr vs).Fits (vs.length * (n + 1) + 2) := by
  cases vs with
  | nil => exact Value.fits_of_print (by decide) (by simp [Value.print])
  | cons v vs =>
      obtain ⟨hv, hrest⟩ := List.forall_mem_cons.mp h
      obtain ⟨hchars, hlength⟩ := printItems_fits hrest
      constructor
      · intro c hc
        simp only [Value.print, List.cons_append, List.mem_cons, List.mem_append, List.not_mem_nil,
          or_false] at hc
        rcases hc with rfl | (hc | hc) | rfl
        · decide
        · exact hv.1 c hc
        · exact hchars c hc
        · decide
      · have := hv.2
        simp only [Value.print, List.cons_append, List.length_cons, List.length_append, Nat.add_mul,
          List.length_nil]
        omega

/-- A bound for the members of a structure with the names, given one for each value. -/
def membersBound (names : List String) (bounds : List Nat) : Nat :=
  (names.map fun name => name.length + 4).sum + bounds.sum

theorem printMembers_fits {bounds : List Nat}
    (h : List.Forall₂ (fun f n => Value.Fits f.2 n) fields bounds)
    (hplain : ∀ f ∈ fields, Plain f.1) :
    (∀ c ∈ printMembers (fields.map fun f => (escape f.1, f.2)), c.utf8Size = 1) ∧
      (printMembers (fields.map fun f => (escape f.1, f.2))).length ≤
        membersBound (fields.map Prod.fst) bounds := by
  induction h with
  | nil => exact ⟨by simp [printMembers], by simp [printMembers, membersBound]⟩
  | @cons f n fields bounds hv _ ih =>
      obtain ⟨hname, hrest⟩ := List.forall_mem_cons.mp hplain
      obtain ⟨hchars, hlength⟩ := ih hrest
      rw [List.map_cons, printMembers, escape_plain hname]
      constructor
      · intro c hc
        simp only [List.cons_append, List.mem_cons, List.mem_append] at hc
        rcases hc with rfl | rfl | (hc | rfl | rfl | hc) | hc
        · decide
        · decide
        · exact utf8Size_of_isPlain (hname c hc)
        · decide
        · decide
        · exact hv.1 c hc
        · exact hchars c hc
      · have := hv.2
        simp only [membersBound, List.map_cons, List.sum_cons, List.cons_append, List.length_cons,
          List.length_append, String.length_toList] at hlength ⊢
        omega

theorem Value.fits_struct (names : List String) (bounds : List Nat)
    (hnames : fields.map Prod.fst = names) (hplain : ∀ name ∈ names, Plain name)
    (hn : membersBound names bounds + 2 ≤ n)
    (h : List.Forall₂ (fun f n => Value.Fits f.2 n) fields bounds) :
    (Value.struct fields).Fits n := by
  subst hnames
  refine Value.Fits.mono ?_ hn
  cases h with
  | nil => exact Value.fits_of_print (by decide) (by decide)
  | @cons f m fields bounds hv hrest =>
      have hplains := List.forall_mem_map.mp hplain
      obtain ⟨hname, hrestPlain⟩ := List.forall_mem_cons.mp hplains
      obtain ⟨hchars, hlength⟩ := printMembers_fits hrest hrestPlain
      rw [Value.Fits, Value.struct, List.map_cons, Value.print, escape_plain hname]
      constructor
      · intro c hc
        simp only [List.cons_append, List.mem_cons, List.mem_append, List.not_mem_nil, or_false]
          at hc
        rcases hc with rfl | rfl | ((hc | rfl | rfl | hc) | hc) | rfl
        · decide
        · decide
        · exact utf8Size_of_isPlain (hname c hc)
        · decide
        · decide
        · exact hv.1 c hc
        · exact hchars c hc
        · decide
      · have := hv.2
        simp only [membersBound, List.map_cons, List.sum_cons, List.cons_append, List.length_cons,
          List.length_append, String.length_toList, List.length_nil] at hlength ⊢
        omega

theorem Value.Fits.utf8ByteSize_le (h : v.Fits n) :
    v.render.utf8ByteSize ≤ n := by
  rw [SqlText.utf8ByteSize_eq_length (by simpa [Value.render] using h.1)]
  simpa [Value.render] using h.2

end Json
