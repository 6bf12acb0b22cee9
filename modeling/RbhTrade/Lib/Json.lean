import Mathlib.Data.Option.Basic
import RbhTrade.Lib.Decimal
import RbhTrade.Lib.Hex

/-!
# JSON texts

Values with the literals of their strings and numbers as they are written, so that a compact text
and its value determine each other: `parse_render` reads back what is printed. A string literal
stands for the text that `unescape` reads from it, and `escape` is the literal Go writes for a text.
-/

namespace Json

open Decimal Hex

/-- A JSON value. A key is a string literal too. -/
inductive Value where
  | null
  | bool (b : Bool)
  | num (literal : List Char)
  | str (literal : List Char)
  | arr (items : List Value)
  | obj (members : List (List Char × Value))

/-! ## Printing -/

mutual

/-- The compact text of a value. -/
def Value.print : Value → List Char
  | .null => "null".toList
  | .bool true => "true".toList
  | .bool false => "false".toList
  | .num l => l
  | .str l => '"' :: l ++ ['"']
  | .arr [] => ['[', ']']
  | .arr (v :: vs) => '[' :: v.print ++ printItems vs ++ [']']
  | .obj [] => ['\x7b', '\x7d']
  | .obj ((k, v) :: ms) => '\x7b' :: '"' :: k ++ '"' :: ':' :: v.print ++ printMembers ms ++
      ['\x7d']

def printItems : List Value → List Char
  | [] => []
  | v :: vs => ',' :: v.print ++ printItems vs

def printMembers : List (List Char × Value) → List Char
  | [] => []
  | (k, v) :: ms => ',' :: '"' :: k ++ '"' :: ':' :: v.print ++ printMembers ms

end

/-! ## Literals -/

/-- The code unit of four hexadecimal digits. -/
def unit (a b c d : Char) : Nat := ((hexVal a * 16 + hexVal b) * 16 + hexVal c) * 16 + hexVal d

/-- The characters that may follow a backslash. -/
def isEscape (c : Char) : Bool := "\"\\/bfnrt".toList.contains c

/-- The literal of a string up to its closing quote, and what follows it. -/
def scanString : List Char → Option (List Char × List Char)
  | [] => none
  | '"' :: rest => some ([], rest)
  | '\\' :: 'u' :: a :: b :: c :: d :: rest =>
      if isHex a && isHex b && isHex c && isHex d then
        (scanString rest).map fun x => ('\\' :: 'u' :: a :: b :: c :: d :: x.1, x.2)
      else none
  | '\\' :: c :: rest =>
      if isEscape c then (scanString rest).map fun x => ('\\' :: c :: x.1, x.2) else none
  | c :: rest => if c < ' ' then none else (scanString rest).map fun x => (c :: x.1, x.2)

/-- An optional part of a number: a mark, an optional sign and digits. -/
def scanPart (mark : Char → Bool) (signed : Bool) (cs : List Char) :
    Option (List Char × List Char) :=
  match cs with
  | m :: rest =>
      if mark m then
        let sign := if signed then rest.take 1 |>.filter (fun c => c = '+' ∨ c = '-') else []
        let rest := rest.drop sign.length
        let digits := rest.takeWhile Char.isDigit
        if digits = [] then none
        else some (m :: sign ++ digits, rest.dropWhile Char.isDigit)
      else some ([], cs)
  | [] => some ([], [])

/-- The literal of a number, and what follows it. -/
def scanNumber (cs : List Char) : Option (List Char × List Char) := do
  let sign := cs.take 1 |>.filter (fun c => c = '-')
  let cs := cs.drop sign.length
  let digits := cs.takeWhile Char.isDigit
  guard (digits ≠ [] ∧ (digits.head? = some '0' → digits.length = 1))
  let (frac, cs) ← scanPart (fun c => c = '.') false (cs.dropWhile Char.isDigit)
  let (exp, cs) ← scanPart (fun c => c = 'e' ∨ c = 'E') true cs
  some (sign ++ digits ++ frac ++ exp, cs)

/-! ## Parsing -/

def isWs (c : Char) : Bool := c = ' ' || c = '\n' || c = '\r' || c = '\t'

def skipWs (cs : List Char) : List Char := cs.dropWhile isWs

/-- A key with its colon, and what follows. -/
def parseKey (cs : List Char) : Option (List Char × List Char) :=
  match skipWs cs with
  | '"' :: cs =>
      match scanString cs with
      | none => none
      | some (k, cs) =>
          match skipWs cs with
          | ':' :: cs => some (k, cs)
          | _ => none
  | _ => none

mutual

/-- One value at the head of a text, and what follows it; the fuel bounds the nesting. -/
def parseValue : Nat → List Char → Option (Value × List Char)
  | 0, _ => none
  | n + 1, cs =>
      match skipWs cs with
      | '"' :: cs => (scanString cs).map fun x => (.str x.1, x.2)
      | '[' :: cs =>
          match skipWs cs with
          | ']' :: rest => some (.arr [], rest)
          | _ => do
              let (v, cs) ← parseValue n cs
              let (vs, cs) ← parseItems n cs
              some (.arr (v :: vs), cs)
      | '\x7b' :: cs =>
          match skipWs cs with
          | '\x7d' :: rest => some (.obj [], rest)
          | _ => do
              let (k, cs) ← parseKey cs
              let (v, cs) ← parseValue n cs
              let (ms, cs) ← parseMembers n cs
              some (.obj ((k, v) :: ms), cs)
      | 'n' :: 'u' :: 'l' :: 'l' :: rest => some (.null, rest)
      | 't' :: 'r' :: 'u' :: 'e' :: rest => some (.bool true, rest)
      | 'f' :: 'a' :: 'l' :: 's' :: 'e' :: rest => some (.bool false, rest)
      | cs => (scanNumber cs).map fun x => (.num x.1, x.2)

/-- The items of an array after one of them. -/
def parseItems : Nat → List Char → Option (List Value × List Char)
  | 0, _ => none
  | n + 1, cs =>
      match skipWs cs with
      | ']' :: rest => some ([], rest)
      | ',' :: cs => do
          let (v, cs) ← parseValue n cs
          let (vs, cs) ← parseItems n cs
          some (v :: vs, cs)
      | _ => none

/-- The members of an object after one of them. -/
def parseMembers : Nat → List Char → Option (List (List Char × Value) × List Char)
  | 0, _ => none
  | n + 1, cs =>
      match skipWs cs with
      | '\x7d' :: rest => some ([], rest)
      | ',' :: cs => do
          let (k, cs) ← parseKey cs
          let (v, cs) ← parseValue n cs
          let (ms, cs) ← parseMembers n cs
          some ((k, v) :: ms, cs)
      | _ => none

end

/-- The value of a text. -/
def parse (text : String) : Option Value :=
  match parseValue text.toList.length text.toList with
  | some (v, rest) => if skipWs rest = [] then some v else none
  | none => none

/-- The text of a value. -/
def Value.render (v : Value) : String := String.ofList v.print

/-! ## Texts in literals -/

/-- A character of a literal, or the code unit of an escape. -/
inductive Piece where
  | char (c : Char)
  | unit (n : Nat)

/-- What an escape of one character stands for. -/
def unescapeChar (c : Char) : Char :=
  if c = 'b' then '\x08' else if c = 'f' then '\x0c' else if c = 'n' then '\n'
  else if c = 'r' then '\r' else if c = 't' then '\t' else c

def pieces : List Char → List Piece
  | [] => []
  | '\\' :: 'u' :: a :: b :: c :: d :: rest => .unit (unit a b c d) :: pieces rest
  | '\\' :: c :: rest => .char (unescapeChar c) :: pieces rest
  | c :: rest => .char c :: pieces rest

/-- A code unit that stands alone; half of a surrogate pair is replaced. -/
def unitChar (n : Nat) : Char :=
  if 0xd800 ≤ n ∧ n < 0xe000 then '�' else Char.ofNat n

/-- The characters of the pieces, a surrogate pair as one. -/
def chars : List Piece → List Char
  | [] => []
  | .char c :: rest => c :: chars rest
  | [.unit n] => [unitChar n]
  | .unit n :: .char c :: rest => unitChar n :: c :: chars rest
  | .unit n :: .unit m :: rest =>
      if 0xd800 ≤ n ∧ n < 0xdc00 ∧ 0xdc00 ≤ m ∧ m < 0xe000 then
        Char.ofNat (0x10000 + (n - 0xd800) * 1024 + (m - 0xdc00)) :: chars rest
      else unitChar n :: chars (.unit m :: rest)

/-- The text of a literal. -/
def unescape (literal : List Char) : String := String.ofList (chars (pieces literal))

/-- The literal of a character, as `encoding/json` writes it with HTML escapes on. -/
def escapeChar (c : Char) : List Char :=
  if c = '"' ∨ c = '\\' then ['\\', c]
  else if c = '\x08' then ['\\', 'b'] else if c = '\x0c' then ['\\', 'f']
  else if c = '\n' then ['\\', 'n'] else if c = '\r' then ['\\', 'r']
  else if c = '\t' then ['\\', 't']
  else if c < ' ' ∨ c = '<' ∨ c = '>' ∨ c = '&' then
    ['\\', 'u', '0', '0', Nat.digitChar (c.toNat / 16), Nat.digitChar (c.toNat % 16)]
  else if c = '\u2028' then "\\u2028".toList else if c = '\u2029' then "\\u2029".toList
  else [c]

/-- The literal that `json.Marshal` writes for a text. -/
def escape (text : String) : List Char := text.toList.flatMap escapeChar

/-- The value that `json.Marshal` writes for a text. -/
def Value.text (s : String) : Value := .str (escape s)

/-- The value that `json.Marshal` writes for an unsigned integer. -/
def Value.nat (n : Nat) : Value := .num (Nat.toDigits 10 n)

/-- The value that `json.Marshal` writes for a structure with the fields. -/
def Value.struct (fields : List (String × Value)) : Value :=
  .obj (fields.map fun f => (escape f.1, f.2))

/-! ## Reading what `escape` writes -/

theorem scanString_escape_short (c : Char) (rest : List Char) (h : isEscape c = true) :
    scanString ('\\' :: c :: rest) = (scanString rest).map fun x => ('\\' :: c :: x.1, x.2) := by
  have hu : c ≠ 'u' := by rintro rfl; exact absurd h (by decide)
  rw [scanString, if_pos h]
  rintro a b c d rest' rfl
  exact absurd rfl hu

theorem scanString_plain (c : Char) (rest : List Char) (hq : c ≠ '"') (hb : c ≠ '\\')
    (hc : ¬ c < ' ') :
    scanString (c :: rest) = (scanString rest).map fun x => (c :: x.1, x.2) := by
  rw [scanString, if_neg hc]
  · exact hq
  · intro _ _ _ _ _ he _
    exact absurd he hb
  · intro _ _ he
    exact absurd he hb

/-- The forms an escaped character takes, each with the text it stands for. -/
theorem escapeChar_cases (c : Char) :
    (∃ e, isEscape e = true ∧ unescapeChar e = c ∧ escapeChar c = ['\\', e]) ∨
    (∃ x y z w, (isHex x && isHex y && isHex z && isHex w) = true ∧ unit x y z w = c.toNat ∧
      c.toNat < 0xd800 ∧ escapeChar c = ['\\', 'u', x, y, z, w]) ∨
    (c ≠ '"' ∧ c ≠ '\\' ∧ ¬ c < ' ' ∧ escapeChar c = [c]) := by
  generalize hl : escapeChar c = l
  unfold escapeChar at hl
  split at hl
  · rename_i h
    subst hl
    obtain rfl | rfl := h
    · exact .inl ⟨'"', by decide, by decide, rfl⟩
    · exact .inl ⟨'\\', by decide, by decide, rfl⟩
  rename_i hquote
  obtain ⟨hq, hb⟩ := not_or.mp hquote
  split at hl
  · rename_i h
    exact .inl ⟨'b', by decide, h.symm, hl.symm⟩
  split at hl
  · rename_i h
    exact .inl ⟨'f', by decide, h.symm, hl.symm⟩
  split at hl
  · rename_i h
    exact .inl ⟨'n', by decide, h.symm, hl.symm⟩
  split at hl
  · rename_i h
    exact .inl ⟨'r', by decide, h.symm, hl.symm⟩
  split at hl
  · rename_i h
    exact .inl ⟨'t', by decide, h.symm, hl.symm⟩
  split at hl
  · rename_i h
    have hlt : c.toNat < 256 := by
      obtain h | rfl | rfl | rfl := h
      · exact lt_trans (Char.lt_def.mp h) (by decide)
      all_goals decide
    obtain ⟨hi, hiv⟩ := digitChar_hex (n := c.toNat / 16) (by omega)
    obtain ⟨lo, lov⟩ := digitChar_hex (n := c.toNat % 16) (by omega)
    refine .inr (.inl ⟨_, _, _, _, ?_, ?_, ?_, hl.symm⟩)
    · rw [hi, lo]
      decide
    · have h0 : hexVal '0' = 0 := by decide
      simp only [unit, hiv, lov, h0]
      omega
    · omega
  rename_i hctl
  split at hl
  · rename_i h
    subst h hl
    exact .inr (.inl ⟨'2', '0', '2', '8', by decide, by decide, by decide, rfl⟩)
  split at hl
  · rename_i h
    subst h hl
    exact .inr (.inl ⟨'2', '0', '2', '9', by decide, by decide, by decide, rfl⟩)
  · exact .inr (.inr ⟨hq, hb, fun h => hctl (.inl h), hl.symm⟩)

theorem scanString_escapeChar (c : Char) (rest : List Char) :
    scanString (escapeChar c ++ rest) =
      (scanString rest).map fun x => (escapeChar c ++ x.1, x.2) := by
  obtain ⟨e, he, -, h⟩ | ⟨x, y, z, w, hx, -, -, h⟩ | ⟨hq, hb, hc, h⟩ := escapeChar_cases c
  · rw [h]; exact scanString_escape_short e rest he
  · rw [h]
    show scanString ('\\' :: 'u' :: x :: y :: z :: w :: rest) = _
    rw [scanString, if_pos hx]
    rfl
  · rw [h]; exact scanString_plain c rest hq hb hc

/-- A literal that `escape` writes is scanned up to its closing quote. -/
theorem scanString_escape (s : String) (rest : List Char) :
    scanString (escape s ++ '"' :: rest) = some (escape s, rest) := by
  unfold escape
  induction s.toList with
  | nil => rfl
  | cons c cs ih =>
      rw [List.flatMap_cons, List.append_assoc, scanString_escapeChar, ih]
      rfl

theorem unitChar_of_lt {n : Nat} (h : n < 0xd800) : unitChar n = Char.ofNat n := by
  unfold unitChar
  rw [if_neg (by omega)]

theorem chars_unit {n : Nat} (h : n < 0xd800) (is : List Piece) :
    chars (.unit n :: is) = Char.ofNat n :: chars is := by
  cases is with
  | nil => simp [chars, unitChar_of_lt h]
  | cons i is =>
      cases i with
      | char c => simp [chars, unitChar_of_lt h]
      | unit m => rw [chars, if_neg (by omega), unitChar_of_lt h]

theorem chars_escapeChar (c : Char) (rest : List Char) :
    chars (pieces (escapeChar c ++ rest)) = c :: chars (pieces rest) := by
  obtain ⟨e, he, hc, h⟩ | ⟨x, y, z, w, -, hv, hlt, h⟩ | ⟨-, hb, -, h⟩ := escapeChar_cases c
  · have hu : e ≠ 'u' := by rintro rfl; exact absurd he (by decide)
    rw [h]
    show chars (pieces ('\\' :: e :: rest)) = _
    rw [pieces]
    · simp [chars, hc]
    · rintro a b c d rest' rfl
      exact absurd rfl hu
  · rw [h]
    show chars (pieces ('\\' :: 'u' :: x :: y :: z :: w :: rest)) = _
    rw [pieces, hv, chars_unit hlt, Char.ofNat_toNat]
  · rw [h]
    show chars (pieces (c :: rest)) = _
    rw [pieces]
    · simp [chars]
    · intro _ _ _ _ _ he _
      exact absurd he hb
    · intro _ _ he
      exact absurd he hb

/-- A literal that `escape` writes stands for its text. -/
@[simp]
theorem unescape_escape (s : String) : unescape (escape s) = s := by
  have h : ∀ cs : List Char, chars (pieces (cs.flatMap escapeChar)) = cs := by
    intro cs
    induction cs with
    | nil => rfl
    | cons c cs ih => rw [List.flatMap_cons, chars_escapeChar, ih]
  unfold unescape escape
  rw [h, String.ofList_toList]

/-! ## Reading what a natural number prints -/

/-- No character that would continue a whole number comes first. -/
def Ends (rest : List Char) : Prop :=
  ∀ c ∈ rest.head?, c.isDigit = false ∧ c ≠ '.' ∧ c ≠ 'e' ∧ c ≠ 'E'

theorem Ends.nil : Ends [] := by
  intro c hc
  cases hc

variable {rest : List Char}

theorem Ends.cons {c : Char} (h : c.isDigit = false ∧ c ≠ '.' ∧ c ≠ 'e' ∧ c ≠ 'E') :
    Ends (c :: rest) := by
  intro d hd
  cases hd
  exact h

theorem takeWhile_digits {ds : List Char} (hd : ∀ c ∈ ds, c.isDigit = true) (hr : Ends rest) :
    (ds ++ rest).takeWhile Char.isDigit = ds ∧ (ds ++ rest).dropWhile Char.isDigit = rest := by
  have hrest : rest.takeWhile Char.isDigit = [] ∧ rest.dropWhile Char.isDigit = rest := by
    cases rest with
    | nil => exact ⟨rfl, rfl⟩
    | cons c rest => simp [(hr c rfl).1]
  rw [List.takeWhile_append_of_pos hd, List.dropWhile_append_of_pos hd, hrest.1, hrest.2]
  simp

theorem scanPart_ends {mark : Char → Bool} {signed : Bool} (h : ∀ c ∈ rest.head?, mark c = false) :
    scanPart mark signed rest = some ([], rest) := by
  cases rest with
  | nil => rfl
  | cons c rest => simp [scanPart, h c rfl]

theorem scanNumber_toDigits (n : Nat) (hr : Ends rest) :
    scanNumber (Nat.toDigits 10 n ++ rest) = some (Nat.toDigits 10 n, rest) := by
  have hne : Nat.toDigits 10 n ≠ [] := Nat.toDigits_ne_nil
  have hsign : ((Nat.toDigits 10 n ++ rest).take 1).filter (fun c => c = '-') = [] := by
    cases hd : Nat.toDigits 10 n with
    | nil => exact absurd hd hne
    | cons d ds =>
        have hdigit := isDigit_toDigits (n := n) (c := d) (by simp [hd])
        have : d ≠ '-' := by rintro rfl; exact absurd hdigit (by decide)
        simp [this]
  obtain ⟨htake, hdrop⟩ := takeWhile_digits (fun c h => isDigit_toDigits (n := n) h) hr
  have hlead : (Nat.toDigits 10 n).head? = some '0' → (Nat.toDigits 10 n).length = 1 := by
    intro h
    rw [toDigits_leading h]
    decide
  unfold scanNumber
  simp only [hsign, List.length_nil, List.drop_zero, htake, hdrop]
  rw [scanPart_ends (by intro c hc; simpa using (hr c hc).2.1)]
  simp only [Option.bind_eq_bind, Option.bind_some]
  rw [scanPart_ends (by intro c hc; simpa using (hr c hc).2.2)]
  rw [guard, if_pos ⟨hne, hlead⟩]
  simp

/-! ## Reading what a value prints -/

mutual

/-- Strings and keys are as `escape` writes them and numbers are natural. -/
def Value.Marshaled : Value → Prop
  | .null => True
  | .bool _ => True
  | .num l => ∃ n, l = Nat.toDigits 10 n
  | .str l => ∃ s, l = escape s
  | .arr vs => MarshaledItems vs
  | .obj ms => MarshaledMembers ms

def MarshaledItems : List Value → Prop
  | [] => True
  | v :: vs => v.Marshaled ∧ MarshaledItems vs

def MarshaledMembers : List (List Char × Value) → Prop
  | [] => True
  | (k, v) :: ms => (∃ s, k = escape s) ∧ v.Marshaled ∧ MarshaledMembers ms

end

theorem isWs_digit {c : Char} (h : c.isDigit = true) : isWs c = false := by
  simp only [isWs, Bool.or_eq_false_iff, decide_eq_false_iff_not]
  refine ⟨⟨⟨?_, ?_⟩, ?_⟩, ?_⟩ <;> (rintro rfl; exact absurd h (by decide))

theorem skipWs_cons {c : Char} (cs : List Char) (h : isWs c = false) :
    skipWs (c :: cs) = c :: cs := by
  simp [skipWs, h]

theorem Value.marshaled_text (s : String) : (Value.text s).Marshaled := ⟨s, rfl⟩

theorem Value.marshaled_nat (n : Nat) : (Value.nat n).Marshaled := ⟨n, rfl⟩

theorem Value.marshaled_arr {vs : List Value} (h : ∀ v ∈ vs, v.Marshaled) :
    (Value.arr vs).Marshaled := by
  show MarshaledItems vs
  induction vs with
  | nil => trivial
  | cons v vs ih =>
      exact ⟨h v List.mem_cons_self, ih fun w hw => h w (List.mem_cons_of_mem _ hw)⟩

theorem Value.marshaled_struct {fields : List (String × Value)}
    (h : ∀ f ∈ fields, f.2.Marshaled) : (Value.struct fields).Marshaled := by
  rw [Value.struct, Value.Marshaled]
  induction fields with
  | nil => trivial
  | cons f fields ih =>
      exact ⟨⟨f.1, rfl⟩, h f List.mem_cons_self, ih fun g hg => h g (List.mem_cons_of_mem _ hg)⟩

/-- A digit starts no token but a number. -/
theorem parseValue_number {n : Nat} {c : Char} {cs : List Char} (h : c.isDigit = true) :
    parseValue (n + 1) (c :: cs) = (scanNumber (c :: cs)).map fun x => (.num x.1, x.2) := by
  rw [parseValue, skipWs_cons _ (isWs_digit h)]
  split
  all_goals first | rfl | skip
  all_goals
    rename_i he
    simp only [List.cons.injEq] at he
    rw [he.1] at h
    exact absurd h (by decide)

theorem parseKey_escape (s : String) (cs : List Char) :
    parseKey ('"' :: escape s ++ '"' :: ':' :: cs) = some (escape s, cs) := by
  rw [parseKey, List.cons_append, skipWs_cons _ (by decide)]
  simp only [scanString_escape]
  rw [skipWs_cons _ (by decide)]
  rfl

theorem ends_items (vs : List Value) (rest : List Char) : Ends (printItems vs ++ ']' :: rest) := by
  cases vs with
  | nil => exact .cons (by decide)
  | cons v vs => simp only [printItems, List.cons_append]; exact .cons (by decide)

theorem ends_members (ms : List (List Char × Value)) (rest : List Char) :
    Ends (printMembers ms ++ '\x7d' :: rest) := by
  cases ms with
  | nil => exact .cons (by decide)
  | cons m ms => simp only [printMembers, List.cons_append]; exact .cons (by decide)

theorem print_pos {v : Value} (h : v.Marshaled) : 0 < v.print.length := by
  cases v with
  | null => decide
  | bool b => cases b <;> decide
  | num l =>
      obtain ⟨n, rfl⟩ := h
      exact Nat.length_toDigits_pos
  | str l => simp [Value.print]
  | arr vs => cases vs <;> simp [Value.print]
  | obj ms => cases ms <;> simp [Value.print]

/-- The first character of a value is no blank and closes nothing. -/
theorem print_head {v : Value} (h : v.Marshaled) :
    ∃ c cs, v.print = c :: cs ∧ isWs c = false ∧ c ≠ ']' := by
  cases v with
  | null => exact ⟨_, _, rfl, by decide, by decide⟩
  | bool b => cases b <;> exact ⟨_, _, rfl, by decide, by decide⟩
  | num l =>
      obtain ⟨n, rfl⟩ := h
      cases hd : Nat.toDigits 10 n with
      | nil => exact absurd hd Nat.toDigits_ne_nil
      | cons d ds =>
          have hdigit := isDigit_toDigits (n := n) (c := d) (by simp [hd])
          refine ⟨d, ds, rfl, isWs_digit hdigit, ?_⟩
          rintro rfl
          exact absurd hdigit (by decide)
  | str l => exact ⟨_, _, rfl, by decide, by decide⟩
  | arr vs => cases vs <;> exact ⟨_, _, rfl, by decide, by decide⟩
  | obj ms => cases ms <;> exact ⟨_, _, rfl, by decide, by decide⟩

mutual

theorem parseValue_print : ∀ (v : Value) (n : Nat) (rest : List Char), v.Marshaled →
    v.print.length ≤ n → Ends rest → parseValue n (v.print ++ rest) = some (v, rest)
  | v, 0, _, hv, hn, _ => absurd (print_pos hv) (by omega)
  | .null, n + 1, rest, _, _, _ => by
      show parseValue (n + 1) ('n' :: 'u' :: 'l' :: 'l' :: rest) = _
      rw [parseValue, skipWs_cons _ (by decide)]
      rfl
  | .bool true, n + 1, rest, _, _, _ => by
      show parseValue (n + 1) ('t' :: 'r' :: 'u' :: 'e' :: rest) = _
      rw [parseValue, skipWs_cons _ (by decide)]
      rfl
  | .bool false, n + 1, rest, _, _, _ => by
      show parseValue (n + 1) ('f' :: 'a' :: 'l' :: 's' :: 'e' :: rest) = _
      rw [parseValue, skipWs_cons _ (by decide)]
      rfl
  | .num l, n + 1, rest, hv, _, hr => by
      obtain ⟨k, rfl⟩ := hv
      have hscan := scanNumber_toDigits k hr
      cases hd : Nat.toDigits 10 k with
      | nil => exact absurd hd Nat.toDigits_ne_nil
      | cons d ds =>
          have hdigit := isDigit_toDigits (n := k) (c := d) (by simp [hd])
          rw [hd, List.cons_append] at hscan
          rw [Value.print, List.cons_append, parseValue_number hdigit, hscan]
          rfl
  | .str l, n + 1, rest, hv, _, _ => by
      obtain ⟨s, rfl⟩ := hv
      show parseValue (n + 1) ('"' :: (escape s ++ ['"']) ++ rest) = _
      rw [List.cons_append, parseValue, skipWs_cons _ (by decide)]
      simp [scanString_escape]
  | .arr [], n + 1, rest, _, _, _ => by
      show parseValue (n + 1) ('[' :: ']' :: rest) = _
      rw [parseValue, skipWs_cons _ (by decide)]
      simp only
      rw [skipWs_cons _ (by decide)]
      rfl
  | .arr (v :: vs), n + 1, rest, hv, hn, hr => by
      obtain ⟨hv, hvs⟩ := hv
      obtain ⟨c, cs, hc, hws, hclose⟩ := print_head hv
      simp only [Value.print, List.length_append, List.length_cons, List.length_nil] at hn
      have hval := parseValue_print v n (printItems vs ++ ']' :: rest) hv (by omega)
        (ends_items vs rest)
      have hitems := parseItems_print vs n rest hvs (by omega)
      rw [hc, List.cons_append] at hval
      show parseValue (n + 1) ('[' :: v.print ++ printItems vs ++ [']'] ++ rest) = _
      rw [hc]
      simp only [List.cons_append, List.append_assoc, List.nil_append]
      rw [parseValue, skipWs_cons _ (by decide)]
      simp only
      rw [skipWs_cons _ hws]
      split
      · rename_i he
        simp only [List.cons.injEq] at he
        exact absurd he.1 hclose
      · simp [hval, hitems]
  | .obj [], n + 1, rest, _, _, _ => by
      show parseValue (n + 1) ('\x7b' :: '\x7d' :: rest) = _
      rw [parseValue, skipWs_cons _ (by decide)]
      simp only
      rw [skipWs_cons _ (by decide)]
      rfl
  | .obj ((k, v) :: ms), n + 1, rest, hv, hn, hr => by
      obtain ⟨⟨s, rfl⟩, hv, hms⟩ := hv
      simp only [Value.print, List.length_append, List.length_cons, List.length_nil] at hn
      have hval := parseValue_print v n (printMembers ms ++ '\x7d' :: rest) hv (by omega)
        (ends_members ms rest)
      have hmem := parseMembers_print ms n rest hms (by omega)
      have hkey := parseKey_escape s (v.print ++ (printMembers ms ++ '\x7d' :: rest))
      rw [List.cons_append] at hkey
      rw [Value.print]
      simp only [List.cons_append, List.append_assoc, List.nil_append]
      rw [parseValue, skipWs_cons _ (by decide)]
      simp only
      rw [skipWs_cons _ (by decide)]
      simp [hkey, hval, hmem]

theorem parseItems_print : ∀ (vs : List Value) (n : Nat) (rest : List Char), MarshaledItems vs →
    (printItems vs).length + 1 ≤ n →
    parseItems n (printItems vs ++ ']' :: rest) = some (vs, rest)
  | _, 0, _, _, hn => absurd hn (by omega)
  | [], n + 1, rest, _, _ => by
      show parseItems (n + 1) (']' :: rest) = _
      rw [parseItems, skipWs_cons _ (by decide)]
      rfl
  | v :: vs, n + 1, rest, hv, hn => by
      obtain ⟨hv, hvs⟩ := hv
      simp only [printItems, List.length_append, List.length_cons] at hn
      have hval := parseValue_print v n (printItems vs ++ ']' :: rest) hv (by omega)
        (ends_items vs rest)
      have hitems := parseItems_print vs n rest hvs (by omega)
      rw [printItems]
      simp only [List.cons_append, List.append_assoc]
      rw [parseItems, skipWs_cons _ (by decide)]
      simp [hval, hitems]

theorem parseMembers_print : ∀ (ms : List (List Char × Value)) (n : Nat) (rest : List Char),
    MarshaledMembers ms → (printMembers ms).length + 1 ≤ n →
    parseMembers n (printMembers ms ++ '\x7d' :: rest) = some (ms, rest)
  | _, 0, _, _, hn => absurd hn (by omega)
  | [], n + 1, rest, _, _ => by
      show parseMembers (n + 1) ('\x7d' :: rest) = _
      rw [parseMembers, skipWs_cons _ (by decide)]
      rfl
  | (k, v) :: ms, n + 1, rest, hv, hn => by
      obtain ⟨⟨s, rfl⟩, hv, hms⟩ := hv
      simp only [printMembers, List.length_append, List.length_cons] at hn
      have hval := parseValue_print v n (printMembers ms ++ '\x7d' :: rest) hv (by omega)
        (ends_members ms rest)
      have hmem := parseMembers_print ms n rest hms (by omega)
      have hkey := parseKey_escape s (v.print ++ (printMembers ms ++ '\x7d' :: rest))
      rw [List.cons_append] at hkey
      rw [printMembers]
      simp only [List.cons_append, List.append_assoc]
      rw [parseMembers, skipWs_cons _ (by decide)]
      simp [hkey, hval, hmem]

end

/-- The text of a marshaled value is read as that value. -/
theorem parse_render {v : Value} (h : v.Marshaled) : parse v.render = some v := by
  have hv := parseValue_print v v.print.length [] h (le_refl _) .nil
  rw [List.append_nil] at hv
  simp only [parse, Value.render, String.toList_ofList, hv]
  rfl

end Json
