import RbhTrade.Lib.Tables

/-!
# Ledgers with aggregates

A ledger is an append-only list of entries. A table of aggregates keeps, for each key, how many
entries count under the key and what their values sum to. The table is exact when every row shows
these two numbers and every key under which an entry counts has a row. Posting an entry that counts
under one key, and adding it to the row of that key, keeps the table exact.

Entries, keys and rows are of arbitrary types; `shows u c n` says that the row `u` records the count
`c` and the sum `n`, in whatever form the row stores them.
-/

namespace Ledger

open Tables

variable {ε κ υ : Type*}

/-- The aggregates agree with the entries. -/
structure Exact (counts : κ → ε → Prop) [∀ k, DecidablePred (counts k)] (value : ε → Nat)
    (key : υ → κ) (shows : υ → Nat → Nat → Prop) (rows : List υ) (entries : List ε) : Prop where
  keys : NoConflict (fun x y => key x = key y) rows
  exact : ∀ u ∈ rows, shows u (affected (counts (key u)) entries)
    (total (counts (key u)) value entries)
  covered : ∀ e ∈ entries, ∀ k, counts k e → ∃ u ∈ rows, key u = k

namespace Exact

variable {counts counts' : κ → ε → Prop} [∀ k, DecidablePred (counts k)]
  [∀ k, DecidablePred (counts' k)] {value : ε → Nat} {key : υ → κ} {shows : υ → Nat → Nat → Prop}
  {rows : List υ} {entries : List ε}

theorem nil : Exact counts value key shows [] [] := by
  refine ⟨.nil, fun u hu => ?_, fun e he => ?_⟩
  · cases hu
  · cases he

/-- Only what the rule says about the entries matters. -/
theorem congr (h : Exact counts value key shows rows entries)
    (hc : ∀ e ∈ entries, ∀ k, counts' k e ↔ counts k e) :
    Exact counts' value key shows rows entries := by
  refine ⟨h.keys, fun u hu => ?_, fun e he k hk => h.covered e he k ((hc e he k).mp hk)⟩
  rw [affected_congr fun e he => hc e he (key u), total_congr fun e he => hc e he (key u)]
  exact h.exact u hu

/-- An entry that counts nowhere. -/
theorem skip (h : Exact counts value key shows rows entries) {e : ε} (he : ∀ k, ¬ counts k e) :
    Exact counts value key shows rows (entries ++ [e]) := by
  refine ⟨h.keys, fun u hu => ?_, fun x hx k hk => ?_⟩
  · rw [affected_append, affected_singleton, if_neg (he _), total_append, total_singleton,
      if_neg (he _)]
    exact h.exact u hu
  · obtain hx | hx := List.mem_append.mp hx
    · exact h.covered x hx k hk
    · exact absurd hk (List.mem_singleton.mp hx ▸ he k)

/-- A row for a key that has none. -/
theorem openRow (h : Exact counts value key shows rows entries) {u : υ}
    (hno : ∀ x ∈ rows, key x ≠ key u) (hu : shows u 0 0) :
    Exact counts value key shows (rows ++ [u]) entries := by
  have hnone : ∀ e ∈ entries, ¬ counts (key u) e := fun e he hc => by
    obtain ⟨x, hx, hxk⟩ := h.covered e he (key u) hc
    exact hno x hx hxk
  refine ⟨h.keys.append hno, fun x hx => ?_, fun e he k hk => ?_⟩
  · obtain hx | hx := List.mem_append.mp hx
    · exact h.exact x hx
    · obtain rfl := List.mem_singleton.mp hx
      have hzero : affected (counts (key x)) entries = 0 := by
        by_contra hne
        obtain ⟨e, he, hc⟩ := affected_pos_iff.mp (Nat.pos_of_ne_zero hne)
        exact hnone e he hc
      rw [hzero, total_eq_zero hnone]
      exact hu
  · obtain ⟨x, hx, hxk⟩ := h.covered e he k hk
    exact ⟨x, List.mem_append_left _ hx, hxk⟩

section Post

variable {e : ε} {k : κ}

theorem affected_post (he : ∀ j, counts j e ↔ j = k) (j : κ) [Decidable (j = k)] :
    affected (counts j) (entries ++ [e]) =
      affected (counts j) entries + if j = k then 1 else 0 := by
  rw [affected_append, affected_singleton]
  simp only [he]

theorem total_post (he : ∀ j, counts j e ↔ j = k) (j : κ) [Decidable (j = k)] :
    total (counts j) value (entries ++ [e]) =
      total (counts j) value entries + if j = k then value e else 0 := by
  rw [total_append, total_singleton]
  simp only [he]

/-- Post an entry and add it to the row of its key. -/
theorem post_update [DecidableEq κ] (h : Exact counts value key shows rows entries) {f : υ → υ}
    (he : ∀ j, counts j e ↔ j = k) (hrow : ∃ u ∈ rows, key u = k) (hkey : ∀ u, key (f u) = key u)
    (hf : ∀ u ∈ rows, key u = k → ∀ c n, shows u c n → shows (f u) (c + 1) (n + value e)) :
    Exact counts value key shows (updateWhere (key · = k) f rows) (entries ++ [e]) := by
  have hkeys : ∀ j, (∃ u ∈ updateWhere (key · = k) f rows, key u = j) ↔ ∃ u ∈ rows, key u = j :=
    fun j => exists_updateWhere_iff fun u _ => by rw [hkey]
  refine ⟨?_, fun u hu => ?_, fun x hx j hj => (hkeys j).mpr ?_⟩
  · refine h.keys.updateWhere fun x y hxy => ?_
    split at hxy <;> split at hxy <;> simpa only [hkey] using hxy
  · rw [affected_post he, total_post he]
    obtain ⟨hu, hne⟩ | ⟨x, hx, hxk, rfl⟩ := mem_updateWhere_cases hu
    · rw [if_neg hne, if_neg hne]
      exact h.exact u hu
    · rw [hkey, if_pos hxk, if_pos hxk]
      exact hf x hx hxk _ _ (h.exact x hx)
  · obtain hx | hx := List.mem_append.mp hx
    · exact h.covered x hx j hj
    · rw [List.mem_singleton.mp hx] at hj
      rw [(he j).mp hj]
      exact hrow

/-- Post the first entry of a key, with a row of its own. -/
theorem post_insert [DecidableEq κ] (h : Exact counts value key shows rows entries) {u : υ}
    (he : ∀ j, counts j e ↔ j = k) (hno : ∀ x ∈ rows, key x ≠ k) (hk : key u = k)
    (hu : shows u 1 (value e)) :
    Exact counts value key shows (rows ++ [u]) (entries ++ [e]) := by
  -- Without a row, no entry counted under the key so far.
  have hnone : ∀ x ∈ entries, ¬ counts k x := fun x hx hc => by
    obtain ⟨y, hy, hyk⟩ := h.covered x hx k hc
    exact hno y hy hyk
  refine ⟨?_, fun x hx => ?_, fun x hx j hj => ?_⟩
  · exact h.keys.append fun x hx hc => hno x hx (hc.trans hk)
  · rw [affected_post he, total_post he]
    obtain hx | hx := List.mem_append.mp hx
    · rw [if_neg (hno x hx), if_neg (hno x hx)]
      exact h.exact x hx
    · obtain rfl := List.mem_singleton.mp hx
      have hzero : affected (counts k) entries = 0 := by
        by_contra hne
        obtain ⟨y, hy, hc⟩ := affected_pos_iff.mp (Nat.pos_of_ne_zero hne)
        exact hnone y hy hc
      rw [hk, if_pos rfl, if_pos rfl, total_eq_zero hnone, hzero, Nat.zero_add, Nat.zero_add]
      exact hu
  · obtain hx | hx := List.mem_append.mp hx
    · obtain ⟨y, hy, hyk⟩ := h.covered x hx j hj
      exact ⟨y, List.mem_append_left [u] hy, hyk⟩
    · rw [List.mem_singleton.mp hx] at hj
      exact ⟨u, List.mem_append_right rows (List.mem_singleton_self u),
        hk.trans ((he j).mp hj).symm⟩

end Post

end Exact

end Ledger
