import Mathlib.Data.List.Basic

/-!
# Consecutive numbers

Parts and bounds of a list of consecutive numbers.
-/

namespace Ranges

theorem take_range' (n m k : Nat) : (List.range' n m).take k = List.range' n (min k m) := by
  induction k generalizing n m with
  | zero => simp
  | succ k ih =>
      cases m with
      | zero => simp
      | succ m => rw [List.range'_succ, List.take_succ_cons, ih, Nat.succ_min_succ,
          List.range'_succ]

theorem drop_range' (n m k : Nat) : (List.range' n m).drop k = List.range' (n + k) (m - k) := by
  induction k generalizing n m with
  | zero => simp
  | succ k ih =>
      cases m with
      | zero => simp
      | succ m =>
          rw [List.range'_succ, List.drop_succ_cons, ih, Nat.succ_sub_succ, Nat.add_assoc,
            Nat.add_comm 1 k]

/-- The numbers above a bound. -/
theorem filter_range' {n m : Nat} (hn : n ≤ m) :
    (List.range' 1 m).filter (fun k => n < k) = List.range' (n + 1) (m - n) := by
  have hsplit : List.range' 1 m = List.range' 1 n ++ List.range' (n + 1) (m - n) := by
    rw [Nat.add_comm n 1, List.range'_append_1, Nat.add_sub_cancel' hn]
  have hlow : (List.range' 1 n).filter (fun k => n < k) = [] := by
    refine List.filter_eq_nil_iff.mpr fun k hk => ?_
    have := (List.mem_range'_1.mp hk).2
    simp only [decide_eq_true_eq]
    omega
  have hhigh : (List.range' (n + 1) (m - n)).filter (fun k => n < k) =
      List.range' (n + 1) (m - n) := by
    refine List.filter_eq_self.mpr fun k hk => ?_
    have := (List.mem_range'_1.mp hk).1
    simp only [decide_eq_true_eq]
    omega
  rw [hsplit, List.filter_append, hlow, hhigh, List.nil_append]

theorem max?_range' (n k : Nat) : (List.range' n (k + 1)).max? = some (n + k) := by
  refine List.max?_eq_some_iff.mpr ⟨List.mem_range'_1.mpr ?_, fun b hb => ?_⟩
  · omega
  · have := (List.mem_range'_1.mp hb).2
    omega

theorem min?_range' (n k : Nat) : (List.range' n (k + 1)).min? = some n := by
  refine List.min?_eq_some_iff.mpr ⟨List.mem_range'_1.mpr ?_, fun b hb => ?_⟩
  · omega
  · exact (List.mem_range'_1.mp hb).1

theorem getLastD_range' (n m d : Nat) : (List.range' n (m + 1)).getLastD d = n + m := by
  rw [List.range'_concat, List.getLastD_eq_getLast?, List.getLast?_concat]
  simp

end Ranges
