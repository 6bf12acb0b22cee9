import Mathlib.Data.List.Basic

/-!
# Texts joined with a separator

The text of several parts with a separator between them, and the finitely many ways to cut a text
into parts again. If no part holds the separator, there is one way for their number.
-/

namespace Joined

/-- The parts with the separator between them. -/
def join (sep : Char) (parts : List String) : String :=
  String.ofList (List.intercalate [sep] (parts.map String.toList))

/-- The text does not hold the separator. -/
def Plain (sep : Char) (text : String) : Prop := sep ∉ text.toList
deriving Decidable

variable {sep : Char} {xs ys : List String}

theorem splitOn_join (hne : xs ≠ []) (h : ∀ x ∈ xs, Plain sep x) :
    (join sep xs).toList.splitOn sep = xs.map String.toList := by
  unfold join
  rw [String.toList_ofList]
  refine List.splitOn_intercalate sep (fun l hl => ?_) (by simpa using hne)
  obtain ⟨x, hx, rfl⟩ := List.mem_map.mp hl
  exact h x hx

/-- Texts of plain parts are equal only if the parts are. -/
theorem join_inj (hxs : xs ≠ []) (hys : ys ≠ []) (hx : ∀ x ∈ xs, Plain sep x)
    (hy : ∀ y ∈ ys, Plain sep y) (h : join sep xs = join sep ys) : xs = ys := by
  have hmap : xs.map String.toList = ys.map String.toList := by
    rw [← splitOn_join hxs hx, h, splitOn_join hys hy]
  exact List.map_injective_iff.mpr (fun _ _ => String.toList_inj.mp) hmap

end Joined
