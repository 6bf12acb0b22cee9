import Mathlib.Data.String.Basic

/-!
# Text functions of SQLite

`length`, `substr` and `GLOB` see a text up to its first NUL character only, while `=` and `<`
compare whole texts. A constraint that uses the former leaves what follows a NUL character free.
-/

namespace SqlText

/-- What the text functions see. -/
def visible (text : String) : List Char := text.toList.takeWhile (· ≠ '\x00')

/-- `length(text)`. -/
def length (text : String) : Nat := (visible text).length

/-- `text NOT GLOB '*[^…]*'` for the class of characters. -/
def allIn (cls : Char → Bool) (text : String) : Bool := (visible text).all cls

/-- `substr(text,start,count)` with a positive start. -/
def substr (text : String) (start count : Nat) : String :=
  String.ofList (((visible text).drop (start - 1)).take count)

/-- `substr(text,start)` with a positive start. -/
def substrFrom (text : String) (start : Nat) : String :=
  String.ofList ((visible text).drop (start - 1))

/-- No NUL character. -/
def NoNul (text : String) : Prop := '\x00' ∉ text.toList
deriving Decidable

variable {text : String}

theorem visible_of_noNul (h : NoNul text) : visible text = text.toList := by
  have hall : ∀ c ∈ text.toList, decide (c ≠ '\x00') = true := by
    intro c hc
    rw [decide_eq_true_eq]
    rintro rfl
    exact h hc
  have happend : (text.toList ++ []).takeWhile (· ≠ '\x00') = text.toList ++ [] :=
    List.takeWhile_append_of_pos hall
  rwa [List.append_nil] at happend

theorem length_of_noNul (h : NoNul text) : length text = text.length := by
  rw [length, visible_of_noNul h, String.length_toList]

theorem allIn_of_noNul (h : NoNul text) (cls : Char → Bool) :
    allIn cls text = text.toList.all cls := by
  rw [allIn, visible_of_noNul h]

/-- A text of single-byte characters has as many bytes as characters. -/
theorem utf8ByteSize_eq_length (h : ∀ c ∈ text.toList, c.utf8Size = 1) :
    text.utf8ByteSize = text.length := by
  have hlen : ∀ cs : List Char, (∀ c ∈ cs, c.utf8Size = 1) → String.utf8Len cs = cs.length := by
    intro cs hcs
    induction cs with
    | nil => rfl
    | cons c cs ih =>
        rw [String.utf8Len_cons, hcs c List.mem_cons_self,
          ih fun d hd => hcs d (List.mem_cons_of_mem _ hd), List.length_cons]
  rw [← String.length_toList, ← hlen text.toList h, ← String.utf8ByteSize_ofList,
    String.ofList_toList]
theorem length_le (text : String) : length text ≤ text.length := by
  rw [← String.length_toList]
  exact (List.takeWhile_sublist _).length_le

end SqlText
