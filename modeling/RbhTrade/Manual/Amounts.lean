import Mathlib.Algebra.Order.BigOperators.Group.List
import RbhTrade.Manual.Policies
import RbhTrade.Store.ManualUnits

/-!
# Amounts in SQL and in Go

The scalar functions of `manual_math.go` and the arithmetic of `manualrisk` read the same decimal
texts and give the same sums and orders. A sum over an array is the checked addition of its items in
any order: what is added only grows, so a partial total passes the bound only if the whole one does.
-/

namespace RbhTrade

open Risk

theorem u256_eq_uint256 (text : String) : u256 text = uint256 text true := by
  refine Option.ext fun n => ?_
  rw [u256_eq_some, uint256_eq_some]
  simp

theorem u256_toString {n : Nat} (h : n < 2 ^ 256) : u256 (toString n) = some n :=
  u256_eq_some.mpr ⟨rfl, h⟩

theorem u256_eq_none {text : String} : u256 text = none ↔ ∀ n < 2 ^ 256, text ≠ toString n := by
  rw [Option.eq_none_iff_forall_not_mem]
  simp only [Option.mem_def, u256_eq_some]
  exact ⟨fun h n hlt heq => h n ⟨heq, hlt⟩, fun h n hn => h n hn.2 hn.1⟩

/-! ## Two amounts -/

theorem u256Add_eq_some {a b c : String} :
    u256Add a b = some c ↔ ∃ m n, a = toString m ∧ b = toString n ∧ m + n < 2 ^ 256 ∧
      c = toString (m + n) := by
  constructor
  · intro h
    unfold u256Add at h
    split at h
    · rename_i m n hm hn
      obtain ⟨hlt, h⟩ := Option.ite_none_right_eq_some.mp h
      exact ⟨m, n, (u256_eq_some.mp hm).1, (u256_eq_some.mp hn).1, hlt, (Option.some.inj h).symm⟩
    · cases h
  · rintro ⟨m, n, rfl, rfl, hlt, rfl⟩
    unfold u256Add
    rw [u256_toString (by omega), u256_toString (by omega)]
    exact if_pos hlt

theorem u256Add_eq_none {a b : String} :
    u256Add a b = none ↔ u256 a = none ∨ u256 b = none ∨
      ∃ m n, a = toString m ∧ b = toString n ∧ 2 ^ 256 ≤ m + n := by
  unfold u256Add
  cases ha : u256 a with
  | none => simp
  | some m =>
      cases hb : u256 b with
      | none => simp
      | some n =>
          obtain ⟨rfl, -⟩ := u256_eq_some.mp ha
          obtain ⟨rfl, -⟩ := u256_eq_some.mp hb
          simp only [reduceCtorEq, false_or, ite_eq_right_iff, imp_false, not_lt]
          constructor
          · exact fun h => ⟨m, n, rfl, rfl, h⟩
          · rintro ⟨m', n', hm, hn, h⟩
            rwa [Decimal.toString_nat_inj hm, Decimal.toString_nat_inj hn]

/-- The SQL addition is that of two quantities of any unit. -/
theorem u256Add_eq_add {u : RiskUnit} (hu : u.validate = true) (a b : String) :
    u256Add a b = (add ⟨u, a⟩ ⟨u, b⟩).map Quantity.units := by
  unfold u256Add add Quantity.validate
  rw [u256_eq_uint256, u256_eq_uint256]
  cases ha : uint256 a true with
  | none => simp
  | some m =>
      cases hb : uint256 b true with
      | none => simp
      | some n =>
          simp only [hu, Option.isSome_some, Bool.and_self, Bool.true_eq_false, ne_eq,
            not_true_eq_false, or_self, if_false]
          by_cases hlt : m + n < 2 ^ 256
          · rw [if_pos hlt, if_neg (Nat.not_le.mpr hlt), Option.map_some]
          · rw [if_neg hlt, if_pos (Nat.not_lt.mp hlt), Option.map_none]

theorem u256Cmp_eq_some {a b : String} {o : Ordering} :
    u256Cmp a b = some o ↔ ∃ m n, uint256 a true = some m ∧ uint256 b true = some n ∧
      o = compare m n := by
  unfold u256Cmp
  rw [u256_eq_uint256, u256_eq_uint256]
  cases uint256 a true with
  | none => simp
  | some m =>
      cases uint256 b true with
      | none => simp
      | some n => simp [eq_comm]

theorem u256Cmp_eq_none {a b : String} : u256Cmp a b = none ↔ u256 a = none ∨ u256 b = none := by
  unfold u256Cmp
  cases u256 a with
  | none => simp
  | some m => cases u256 b <;> simp

/-! ## The sum of an array -/

variable {items : List String}

theorem u256SumFrom_eq_some {total n : Nat} (htotal : total < 2 ^ 256) :
    u256SumFrom total items = some n ↔ ∃ ns : List Nat, items = ns.map toString ∧
      total + ns.sum = n ∧ n < 2 ^ 256 := by
  induction items generalizing total with
  | nil =>
      simp only [u256SumFrom, Option.some.injEq, List.nil_eq, List.map_eq_nil_iff]
      constructor
      · rintro rfl
        exact ⟨[], rfl, by simp, htotal⟩
      · rintro ⟨ns, rfl, rfl, -⟩
        simp
  | cons item items ih =>
      constructor
      · intro h
        unfold u256SumFrom at h
        split at h
        · rename_i m hm
          obtain ⟨hlt, h⟩ := Option.ite_none_right_eq_some.mp h
          obtain ⟨ns, rfl, hsum, hn⟩ := (ih hlt).mp h
          exact ⟨m :: ns, by rw [(u256_eq_some.mp hm).1, List.map_cons],
            by rw [List.sum_cons, ← Nat.add_assoc, hsum], hn⟩
        · cases h
      · rintro ⟨ns, hitems, hsum, hn⟩
        cases ns with
        | nil => cases hitems
        | cons m ns =>
            obtain ⟨rfl, rfl⟩ := List.cons.inj hitems
            rw [List.sum_cons] at hsum
            rw [u256SumFrom, u256_toString (by omega)]
            dsimp only
            rw [if_pos (by omega)]
            exact (ih (by omega)).mpr ⟨ns, rfl, by omega, hn⟩

theorem u256Sum_eq_some {c : String} :
    u256Sum items = some c ↔ ∃ ns : List Nat, items = ns.map toString ∧ ns.sum < 2 ^ 256 ∧
      c = toString ns.sum := by
  rw [u256Sum, Option.map_eq_some_iff]
  constructor
  · rintro ⟨n, h, rfl⟩
    obtain ⟨ns, rfl, hsum, hn⟩ := (u256SumFrom_eq_some (by decide)).mp h
    rw [Nat.zero_add] at hsum
    exact ⟨ns, rfl, hsum ▸ hn, by rw [hsum]⟩
  · rintro ⟨ns, rfl, hn, rfl⟩
    exact ⟨ns.sum, (u256SumFrom_eq_some (by decide)).mpr ⟨ns, rfl, Nat.zero_add _, hn⟩, rfl⟩

/-- Adding the items one by one to a total. -/
theorem foldlM_u256Add {total : Nat} (htotal : total < 2 ^ 256) :
    items.foldlM u256Add (toString total) = (u256SumFrom total items).map toString := by
  induction items generalizing total with
  | nil => rfl
  | cons item items ih =>
      rw [List.foldlM_cons, Option.bind_eq_bind, u256SumFrom, u256Add, u256_toString htotal]
      cases u256 item with
      | none => rfl
      | some n =>
          dsimp only
          split
          · rename_i hlt
            rw [Option.bind_some, ih hlt]
          · rfl

/-- A permutation of printed numbers prints a permutation of the numbers. -/
theorem perm_map_toString {ns : List Nat} (h : items.Perm (ns.map toString)) :
    ∃ ns' : List Nat, ns'.Perm ns ∧ items = ns'.map toString := by
  let value := fun s : String => (Decimal.canonical? s).getD 0
  have hvalue : ∀ n : Nat, value (toString n) = n := fun n => by
    simp only [value, Decimal.canonical?_eq_some.mpr rfl, Option.getD_some]
  have hns : (ns.map toString).map value = ns := by
    rw [List.map_map, show value ∘ toString = id from funext hvalue, List.map_id]
  refine ⟨items.map value, hns ▸ h.map value, ?_⟩
  rw [List.map_map]
  refine (List.map_id items).symm.trans (List.map_congr_left fun s hs => ?_)
  obtain ⟨n, -, rfl⟩ := List.mem_map.mp (h.subset hs)
  exact congrArg toString (hvalue n).symm

theorem u256Sum_perm {items' : List String} (h : items.Perm items') :
    u256Sum items = u256Sum items' := by
  have hle : ∀ {items items' : List String}, items.Perm items' → ∀ c, u256Sum items = some c →
      u256Sum items' = some c := by
    intro items items' h c hc
    obtain ⟨ns, rfl, hlt, rfl⟩ := u256Sum_eq_some.mp hc
    obtain ⟨ns', hns, rfl⟩ := perm_map_toString h.symm
    exact u256Sum_eq_some.mpr ⟨ns', rfl, hns.sum_eq ▸ hlt, by rw [hns.sum_eq]⟩
  exact Option.ext fun c => ⟨hle h c, hle h.symm c⟩

/-- A sum fails where an item is no amount or the total passes the bound. -/
theorem u256Sum_eq_none :
    u256Sum items = none ↔ (∃ s ∈ items, u256 s = none) ∨
      ∃ ns : List Nat, items = ns.map toString ∧ 2 ^ 256 ≤ ns.sum := by
  constructor
  · intro h
    by_cases hall : ∃ s ∈ items, u256 s = none
    · exact .inl hall
    · right
      simp only [not_exists, not_and] at hall
      obtain ⟨ns, hns⟩ : ∃ ns : List Nat, items = ns.map toString := by
        clear h
        induction items with
        | nil => exact ⟨[], rfl⟩
        | cons s items ih =>
            obtain ⟨n, hn⟩ := Option.ne_none_iff_exists'.mp (hall s List.mem_cons_self)
            obtain ⟨ns, rfl⟩ := ih fun x hx => hall x (List.mem_cons_of_mem _ hx)
            exact ⟨n :: ns, by rw [(u256_eq_some.mp hn).1, List.map_cons]⟩
      refine ⟨ns, hns, Nat.not_lt.mp fun hlt => ?_⟩
      rw [u256Sum_eq_some.mpr ⟨ns, hns, hlt, rfl⟩] at h
      cases h
  · intro h
    rw [Option.eq_none_iff_forall_not_mem]
    intro c hc
    obtain ⟨ns, rfl, hlt, -⟩ := u256Sum_eq_some.mp hc
    obtain ⟨s, hs, hnone⟩ | ⟨ns', hns, hle⟩ := h
    · obtain ⟨n, hn, rfl⟩ := List.mem_map.mp hs
      exact u256_eq_none.mp hnone n (lt_of_le_of_lt (List.le_sum_of_mem hn) hlt) rfl
    · have hinj : Function.Injective (toString : Nat → String) :=
        fun m n => Decimal.toString_nat_inj
      rw [List.map_injective_iff.mpr hinj hns] at hlt
      omega

/-- The items of an array of strings. -/
theorem manualSQLSum_strings {raw : String} {literals : List (List Char)}
    (h : Json.parse raw = some (.arr (literals.map .str))) :
    manualSQLSum raw = u256Sum (literals.map Json.unescape) := by
  have hitem : ∀ l, Json.fill Json.readText "" [.str l] = some (Json.unescape l) := fun l => by
    simp [Json.fill, Json.readText]
  have hitems : (literals.map Json.Value.str).mapM (fun item => Json.fill Json.readText "" [item]) =
      some (literals.map Json.unescape) := by
    clear h
    induction literals with
    | nil => rfl
    | cons l literals ih => simp [hitem, ih]
  rw [manualSQLSum, h]
  dsimp only
  rw [hitems, Option.bind_some]

/-- The SQL functions and `manualrisk` add and compare the same texts alike, and fail on the same. A
sum over an array of strings is the exact total, or the checked addition of its items in any
order. -/
theorem u256_functions_exact :
    (∀ u : RiskUnit, u.validate = true → ∀ a b : String,
      u256Add a b = (add ⟨u, a⟩ ⟨u, b⟩).map Quantity.units) ∧
    (∀ a b c : String, u256Add a b = some c ↔ ∃ m n : Nat, a = toString m ∧ b = toString n ∧
      m + n < 2 ^ 256 ∧ c = toString (m + n)) ∧
    (∀ a b : String, u256Add a b = none ↔ (∀ n < 2 ^ 256, a ≠ toString n) ∨
      (∀ n < 2 ^ 256, b ≠ toString n) ∨
      ∃ m n : Nat, a = toString m ∧ b = toString n ∧ 2 ^ 256 ≤ m + n) ∧
    (∀ (a b : String) (o : Ordering), u256Cmp a b = some o ↔
      ∃ m n, uint256 a true = some m ∧ uint256 b true = some n ∧ o = compare m n) ∧
    (∀ a b : String, u256Cmp a b = none ↔ (∀ n < 2 ^ 256, a ≠ toString n) ∨
      ∀ n < 2 ^ 256, b ≠ toString n) ∧
    ∀ (raw : String) (literals : List (List Char)),
      Json.parse raw = some (.arr (literals.map .str)) → ∀ items : List String,
      items.Perm (literals.map Json.unescape) →
        manualSQLSum raw = items.foldlM u256Add "0" ∧
        (items = [] → manualSQLSum raw = some "0") ∧
        (∀ c : String, manualSQLSum raw = some c ↔ ∃ ns : List Nat, items = ns.map toString ∧
          ns.sum < 2 ^ 256 ∧ c = toString ns.sum) ∧
        (manualSQLSum raw = none ↔ (∃ s ∈ items, ∀ n < 2 ^ 256, s ≠ toString n) ∨
          ∃ ns : List Nat, items = ns.map toString ∧ 2 ^ 256 ≤ ns.sum) := by
  refine ⟨fun u hu a b => u256Add_eq_add hu a b, fun a b c => u256Add_eq_some, fun a b => ?_,
    fun a b o => u256Cmp_eq_some, fun a b => ?_, fun raw literals hraw items hperm => ?_⟩
  · rw [u256Add_eq_none, u256_eq_none, u256_eq_none]
  · rw [u256Cmp_eq_none, u256_eq_none, u256_eq_none]
  · have hsum : manualSQLSum raw = u256Sum items :=
      (manualSQLSum_strings hraw).trans (u256Sum_perm hperm).symm
    refine ⟨?_, ?_, fun c => ?_, ?_⟩
    · exact hsum.trans (foldlM_u256Add (by decide)).symm
    · rintro rfl
      exact hsum
    · rw [hsum, u256Sum_eq_some]
    · simp only [hsum, u256Sum_eq_none, u256_eq_none]

end RbhTrade
