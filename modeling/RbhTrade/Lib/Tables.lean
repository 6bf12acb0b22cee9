import Mathlib.Algebra.Ring.Nat
import Mathlib.Data.List.Count
import Mathlib.Data.List.Nodup
import Mathlib.Data.List.Pairwise
import Mathlib.Data.List.Perm.Subperm

/-!
# Relational tables

A table is the list of its rows in insertion order. `updateWhere` is an `UPDATE … SET … WHERE`
statement, `affected` the row count such a statement reports, and `insertUnique` an `INSERT` under
a uniqueness constraint. A constraint is a symmetric relation that two rows of the table may not
be in; a primary key is the constraint that two rows share their key, and a partial unique index
is the same relation restricted to the rows that satisfy the predicate of the index.

Everything here is about lists of rows of an arbitrary type.
-/

namespace Tables

variable {ρ κ : Type*}

/-- `UPDATE t SET f WHERE p`. -/
def updateWhere (p : ρ → Prop) [DecidablePred p] (f : ρ → ρ) (t : List ρ) : List ρ :=
  t.map fun r => if p r then f r else r

/-- The number of rows an `UPDATE … WHERE p` changes. -/
def affected (p : ρ → Prop) [DecidablePred p] (t : List ρ) : Nat :=
  t.countP fun r => decide (p r)

/-- `SELECT … WHERE p`, of which only the first row is scanned. -/
def selectRow (p : ρ → Prop) [DecidablePred p] (t : List ρ) : Option ρ :=
  t.find? fun r => decide (p r)

/-- `INSERT`, refused when the new row conflicts with a stored one. -/
def insertUnique (conflict : ρ → ρ → Prop) [DecidableRel conflict] (r : ρ) (t : List ρ) :
    Option (List ρ) :=
  if ∃ x ∈ t, conflict x r then none else some (t ++ [r])

/-! ## Updates -/

variable {key : ρ → κ} {q : ρ → Prop} {r : ρ} {t' t : List ρ}

section Update

variable {p : ρ → Prop} [DecidablePred p] {f : ρ → ρ} {t : List ρ}

theorem mem_updateWhere :
    r ∈ updateWhere p f t ↔ ∃ x ∈ t, (if p x then f x else x) = r := by
  simp [updateWhere]

/-- A row of the updated table is an untouched old row or the new value of a touched one. -/
theorem mem_updateWhere_cases (h : r ∈ updateWhere p f t) :
    (r ∈ t ∧ ¬ p r) ∨ ∃ x ∈ t, p x ∧ r = f x := by
  obtain ⟨x, hx, hr⟩ := mem_updateWhere.mp h
  by_cases hp : p x
  · exact .inr ⟨x, hx, hp, by simpa [hp] using hr.symm⟩
  · rw [if_neg hp] at hr
    exact .inl (hr ▸ ⟨hx, hp⟩)

theorem mem_updateWhere_of_mem {x : ρ} (hx : x ∈ t) :
    (if p x then f x else x) ∈ updateWhere p f t :=
  mem_updateWhere.mpr ⟨x, hx, rfl⟩

theorem mem_updateWhere_of_not {x : ρ} (hx : x ∈ t) (hp : ¬ p x) : x ∈ updateWhere p f t := by
  simpa [hp] using mem_updateWhere_of_mem (p := p) (f := f) hx

theorem mem_updateWhere_of_pos {x : ρ} (hx : x ∈ t) (hp : p x) : f x ∈ updateWhere p f t := by
  simpa [hp] using mem_updateWhere_of_mem (p := p) (f := f) hx

/-- A row that is gone after an update meets its `WHERE` clause. -/
theorem of_not_mem_updateWhere (ht : t' = updateWhere p f t) (hr : r ∈ t) (hgone : r ∉ t') :
    p r := by
  by_contra hp
  exact hgone (ht ▸ mem_updateWhere_of_not hr hp)

/-- A condition that the assignment neither makes nor breaks is met by some row as before. -/
theorem exists_updateWhere_iff (hf : ∀ r, p r → (q (f r) ↔ q r)) :
    (∃ r ∈ updateWhere p f t, q r) ↔ ∃ r ∈ t, q r := by
  constructor
  · rintro ⟨r, hr, hq⟩
    obtain ⟨hr, -⟩ | ⟨x, hx, hp, rfl⟩ := mem_updateWhere_cases hr
    · exact ⟨r, hr, hq⟩
    · exact ⟨x, hx, (hf x hp).mp hq⟩
  · rintro ⟨r, hr, hq⟩
    by_cases hp : p r
    · exact ⟨f r, mem_updateWhere_of_pos hr hp, (hf r hp).mpr hq⟩
    · exact ⟨r, mem_updateWhere_of_not hr hp, hq⟩

/-- Two updates with the same assignment that match the same rows. -/
theorem updateWhere_congr [DecidablePred q] (h : ∀ r ∈ t, p r ↔ q r) :
    updateWhere p f t = updateWhere q f t :=
  List.map_congr_left fun r hr => by simp only [h r hr]

/-- An update that matches no row is the identity. -/
theorem updateWhere_eq_self (h : ∀ r ∈ t, ¬ p r) : updateWhere p f t = t := by
  unfold updateWhere
  conv_rhs => rw [← List.map_id t]
  exact List.map_congr_left fun r hr => by simp [h r hr]

/-- Rows that are neither reached nor made by an update stay as they are. -/
theorem filter_updateWhere {c : ρ → Prop} [DecidablePred c] (h : ∀ r ∈ t, p r → ¬ c r ∧ ¬ c (f r)) :
    (updateWhere p f t).filter c = t.filter c := by
  induction t with
  | nil => rfl
  | cons r t ih =>
      have hrest := ih fun x hx => h x (List.mem_cons_of_mem r hx)
      by_cases hp : p r
      · obtain ⟨hr, hf⟩ := h r List.mem_cons_self hp
        simpa [updateWhere, hp, hr, hf] using hrest
      · by_cases hc : c r <;> simpa [updateWhere, hp, hc] using hrest

/-- Columns that the assignment leaves alone keep their values, row by row. -/
theorem map_updateWhere (key : ρ → κ) (hf : ∀ r, p r → key (f r) = key r) :
    (updateWhere p f t).map key = t.map key := by
  unfold updateWhere
  rw [List.map_map]
  refine List.map_congr_left fun r _ => ?_
  by_cases hp : p r
  · simp [hp, hf r hp]
  · simp [hp]

/-- The values that an update leaves in a column, over rows whose selection it does not change. -/
theorem map_filter_updateWhere [DecidablePred q] {g : κ → κ} (hq : ∀ r, p r → (q (f r) ↔ q r))
    (hg : ∀ r ∈ t, q r → key (if p r then f r else r) = g (key r)) :
    ((updateWhere p f t).filter q).map key = ((t.filter q).map key).map g := by
  induction t with
  | nil => rfl
  | cons r t ih =>
      have hrest := ih fun x hx => hg x (List.mem_cons_of_mem r hx)
      have hrow := hg r List.mem_cons_self
      have hsel : q (if p r then f r else r) ↔ q r := by
        split
        · exact hq r (by assumption)
        · exact Iff.rfl
      by_cases hqr : q r
      · simpa [updateWhere, hsel, hqr, hrow hqr] using hrest
      · simpa [updateWhere, hsel, hqr] using hrest

/-- Rows that the update does not reach keep their values. -/
theorem column_eq [DecidablePred q] (ht : t' = updateWhere p f t) (hf : ∀ r, p r → (q (f r) ↔ q r))
    (hp : ∀ r ∈ t, q r → ¬ p r) :
    (t'.filter q).map key = (t.filter q).map key := by
  rw [ht, map_filter_updateWhere (g := id) hf fun r hr hqr => by rw [if_neg (hp r hr hqr)]; rfl,
    List.map_id]

/-- Rows that the update reaches all get the one value. -/
theorem column_const [DecidablePred q] {value : κ} (ht : t' = updateWhere p f t)
    (hf : ∀ r, p r → (q (f r) ↔ q r)) (hp : ∀ r ∈ t, q r → p r) (hkey : ∀ r, key (f r) = value) :
    (t'.filter q).map key = ((t.filter q).map key).map fun _ => value := by
  rw [ht, map_filter_updateWhere (g := fun _ => value) hf fun r hr hqr => by
    rw [if_pos (hp r hr hqr)]
    exact hkey r]

theorem affected_pos_iff : 0 < affected p t ↔ ∃ r ∈ t, p r := by
  simp [affected, List.countP_pos_iff]

/-- Rows with distinct keys that inject into the rows of another table. -/
theorem affected_le_affected {σ : Type*} {q : σ → Prop} [DecidablePred q] {u : List σ}
    (key : ρ → κ) (key' : σ → κ) (hnodup : (t.map key).Nodup)
    (h : ∀ r ∈ t, p r → ∃ x ∈ u, q x ∧ key' x = key r) : affected p t ≤ affected q u := by
  have hsub : (t.filter fun r => decide (p r)).map key ⊆
      (u.filter fun x => decide (q x)).map key' := by
    intro k hk
    obtain ⟨r, hr, rfl⟩ := List.mem_map.mp hk
    obtain ⟨hr, hp⟩ := List.mem_filter.mp hr
    obtain ⟨x, hx, hq, he⟩ := h r hr (of_decide_eq_true hp)
    exact List.mem_map.mpr ⟨x, List.mem_filter.mpr ⟨hx, decide_eq_true hq⟩, he⟩
  have hnd := hnodup.sublist (List.filter_sublist (p := fun r => decide (p r)).map key)
  have hle := (List.subperm_of_subset hnd hsub).length_le
  rwa [List.length_map, List.length_map, ← List.countP_eq_length_filter,
    ← List.countP_eq_length_filter] at hle

theorem exists_of_affected_eq_one (h : affected p t = 1) : ∃ r ∈ t, p r :=
  affected_pos_iff.mp (by omega)

end Update

/-! ## Reads -/

section Select

variable {p : ρ → Prop} [DecidablePred p] {t : List ρ} {r : ρ}

theorem selectRow_mem (h : selectRow p t = some r) : r ∈ t := List.mem_of_find?_eq_some h

theorem selectRow_prop (h : selectRow p t = some r) : p r := by
  simpa using List.find?_some h

theorem selectRow_eq_none : selectRow p t = none ↔ ∀ r ∈ t, ¬ p r := by
  simp [selectRow]

theorem selectRow_append (u : List ρ) :
    selectRow p (t ++ u) = (selectRow p t).or (selectRow p u) := by
  simp [selectRow, List.find?_append]

/-- An update that does not change which rows are selected reaches the row that is read. -/
theorem selectRow_updateWhere [DecidablePred q] {f : ρ → ρ} (hf : ∀ r, q r → (p (f r) ↔ p r)) :
    selectRow p (updateWhere q f t) = (selectRow p t).map fun r => if q r then f r else r := by
  induction t with
  | nil => rfl
  | cons r t ih =>
      have hr : p (if q r then f r else r) ↔ p r := by
        split
        · exact hf r (by assumption)
        · exact Iff.rfl
      unfold selectRow updateWhere at *
      by_cases hp : p r
      · simp [hr, hp]
      · simpa [hr, hp] using ih

/-- A scan that succeeds on every row of a result yields the items of its rows. -/
theorem mapM_scan_ok {ι ε : Type*} {f : ρ → Except ε ι} (h : ∀ r ∈ t, ∃ i, f r = .ok i) :
    ∃ items, t.mapM f = .ok items ∧ (∀ r ∈ t, ∃ i ∈ items, f r = .ok i) ∧
      ∀ i ∈ items, ∃ r ∈ t, f r = .ok i := by
  induction t with
  | nil =>
      refine ⟨[], rfl, ?_, ?_⟩ <;>
        · intro x hx
          cases hx
  | cons r t ih =>
      obtain ⟨i, hi⟩ := h r List.mem_cons_self
      obtain ⟨items, hitems, hrow, hitem⟩ := ih fun x hx => h x (List.mem_cons_of_mem r hx)
      refine ⟨i :: items, ?_, fun x hx => ?_, fun y hy => ?_⟩
      · rw [List.mapM_cons, hi, hitems]
        rfl
      · obtain rfl | hx := List.mem_cons.mp hx
        · exact ⟨i, List.mem_cons_self, hi⟩
        · obtain ⟨y, hy, hxy⟩ := hrow x hx
          exact ⟨y, List.mem_cons_of_mem i hy, hxy⟩
      · obtain rfl | hy := List.mem_cons.mp hy
        · exact ⟨r, List.mem_cons_self, hi⟩
        · obtain ⟨x, hx, hxy⟩ := hitem y hy
          exact ⟨x, List.mem_cons_of_mem r hx, hxy⟩

end Select

/-! ## Keys -/

/-- The rows of a table are determined by the key. -/
def KeyUnique (key : ρ → κ) (t : List ρ) : Prop := (t.map key).Nodup

theorem KeyUnique.eq (h : KeyUnique key t) {x y : ρ} (hx : x ∈ t) (hy : y ∈ t)
    (he : key x = key y) : x = y :=
  List.inj_on_of_nodup_map h hx hy he

theorem KeyUnique.updateWhere {p : ρ → Prop} [DecidablePred p] {f : ρ → ρ} (h : KeyUnique key t)
    (hf : ∀ r, p r → key (f r) = key r) :
    KeyUnique key (updateWhere p f t) := by
  unfold KeyUnique
  rwa [map_updateWhere key hf]

theorem KeyUnique.append (h : KeyUnique key t) (hr : ∀ x ∈ t, key x ≠ key r) :
    KeyUnique key (t ++ [r]) := by
  unfold KeyUnique
  rw [List.map_append, List.nodup_append]
  refine ⟨h, by simp, ?_⟩
  rintro a ha b hb rfl
  obtain ⟨x, hx, rfl⟩ := List.mem_map.mp ha
  simp only [List.map_cons, List.map_nil, List.mem_singleton] at hb
  exact hr x hx hb

/-! ## Inserts -/

theorem insertUnique_eq_some {conflict : ρ → ρ → Prop} [DecidableRel conflict] :
    insertUnique conflict r t = some t' ↔ (∀ x ∈ t, ¬ conflict x r) ∧ t' = t ++ [r] := by
  unfold insertUnique
  split
  · rename_i h
    simp only [reduceCtorEq, false_iff]
    rintro ⟨hn, -⟩
    obtain ⟨x, hx, hc⟩ := h
    exact hn x hx hc
  · rename_i h
    push Not at h
    simp only [Option.some.injEq]
    exact ⟨fun e => ⟨h, e.symm⟩, fun e => e.2.symm⟩

/-! ## Sums -/

section Total

variable {p q : ρ → Prop} [DecidablePred p] [DecidablePred q] {value : ρ → Nat} {t : List ρ}

/-- The sum of a column over the rows that satisfy a condition. -/
def total (p : ρ → Prop) [DecidablePred p] (value : ρ → Nat) (t : List ρ) : Nat :=
  ((t.filter (p ·)).map value).sum

@[simp] theorem total_nil : total p value [] = 0 := rfl

theorem total_append (u : List ρ) : total p value (t ++ u) = total p value t + total p value u := by
  simp [total]

theorem total_singleton (r : ρ) : total p value [r] = if p r then value r else 0 := by
  by_cases h : p r <;> simp [total, h]

/-- Two conditions that select the same rows. -/
theorem total_congr (h : ∀ r ∈ t, p r ↔ q r) : total p value t = total q value t := by
  have hrows : t.filter (p ·) = t.filter (q ·) :=
    List.filter_congr fun r hr => by simp only [h r hr]
  rw [total, total, hrows]

theorem affected_congr (h : ∀ r ∈ t, p r ↔ q r) : affected p t = affected q t :=
  List.countP_congr fun r hr => by simpa using h r hr

theorem affected_append (u : List ρ) : affected p (t ++ u) = affected p t + affected p u :=
  List.countP_append

theorem affected_singleton (r : ρ) : affected p [r] = if p r then 1 else 0 := by
  by_cases h : p r <;> simp [affected, h]

theorem total_cons (r : ρ) :
    total p value (r :: t) = (if p r then value r else 0) + total p value t := by
  by_cases h : p r <;> simp [total, h]

/-- A part of the rows adds up to no more than all of them. -/
theorem total_le_total (h : ∀ r, p r → q r) : total p value t ≤ total q value t := by
  induction t with
  | nil => exact Nat.le_refl _
  | cons r t ih =>
      rw [total_cons, total_cons]
      refine Nat.add_le_add ?_ ih
      by_cases hr : p r
      · rw [if_pos hr, if_pos (h r hr)]
      · rw [if_neg hr]
        exact Nat.zero_le _

/-- Rows left out that would not be selected. -/
theorem total_filter (h : ∀ r, p r → q r) : total p value (t.filter (q ·)) = total p value t := by
  have hrows : t.filter (fun r => decide (p r) && decide (q r)) = t.filter (p ·) :=
    List.filter_congr fun r _ => by simpa using h r
  unfold total
  rw [List.filter_filter, hrows]

theorem affected_filter (h : ∀ r, p r → q r) : affected p (t.filter (q ·)) = affected p t := by
  unfold affected
  rw [List.countP_filter]
  exact List.countP_congr fun r _ => by simpa using h r

theorem total_perm {u : List ρ} (h : t.Perm u) : total p value t = total p value u :=
  ((h.filter _).map value).sum_nat

theorem affected_perm {u : List ρ} (h : t.Perm u) : affected p t = affected p u := h.countP_eq _

/-- Rows that are not selected add nothing. -/
theorem total_eq_zero (h : ∀ r ∈ t, ¬ p r) : total p value t = 0 := by
  unfold total
  rw [List.filter_eq_nil_iff.mpr fun r hr => by simpa using h r hr]
  rfl

end Total

/-! ## Constraints -/

/-- No two rows of the table are in conflict. -/
def NoConflict (conflict : ρ → ρ → Prop) (t : List ρ) : Prop :=
  t.Pairwise fun x y => ¬ conflict x y

instance (conflict : ρ → ρ → Prop) [DecidableRel conflict] (t : List ρ) :
    Decidable (NoConflict conflict t) := inferInstanceAs (Decidable (List.Pairwise _ _))

section NoConflict

variable {conflict : ρ → ρ → Prop} {t t' : List ρ}

theorem NoConflict.nil : NoConflict conflict [] := List.Pairwise.nil

theorem NoConflict.append (h : NoConflict conflict t) (hr : ∀ x ∈ t, ¬ conflict x r) :
    NoConflict conflict (t ++ [r]) :=
  List.pairwise_append.mpr ⟨h, List.pairwise_singleton _ _, fun x hx y hy => by
    rw [List.mem_singleton.mp hy]
    exact hr x hx⟩

theorem NoConflict.insertUnique [DecidableRel conflict] (h : NoConflict conflict t)
    (ht : insertUnique conflict r t = some t') : NoConflict conflict t' := by
  obtain ⟨hr, rfl⟩ := insertUnique_eq_some.mp ht
  exact h.append hr

/-- A change of rows that creates no conflict. -/
theorem NoConflict.map {g : ρ → ρ} (h : NoConflict conflict t)
    (hg : ∀ x ∈ t, ∀ y ∈ t, conflict (g x) (g y) → conflict x y) :
    NoConflict conflict (t.map g) := by
  refine List.pairwise_map.mpr (List.Pairwise.imp_of_mem ?_ h)
  exact fun hx hy hxy hc => hxy (hg _ hx _ hy hc)

/-- An update that creates no conflict. -/
theorem NoConflict.updateWhere {p : ρ → Prop} [DecidablePred p] {f : ρ → ρ}
    (h : NoConflict conflict t)
    (hf : ∀ x y, conflict (if p x then f x else x) (if p y then f y else y) → conflict x y) :
    NoConflict conflict (updateWhere p f t) :=
  h.map fun x _ y _ hc => hf x y hc

/-- Rows that pairwise conflict are at most one. -/
theorem NoConflict.affected_le_one {p : ρ → Prop} [DecidablePred p] (h : NoConflict conflict t)
    (hp : ∀ x ∈ t, ∀ y ∈ t, p x → p y → conflict x y) : affected p t ≤ 1 := by
  induction t with
  | nil => simp [affected]
  | cons r t ih =>
      obtain ⟨hr, ht⟩ := List.pairwise_cons.mp h
      have hpt : ∀ x ∈ t, ∀ y ∈ t, p x → p y → conflict x y := fun x hx y hy =>
        hp x (List.mem_cons_of_mem r hx) y (List.mem_cons_of_mem r hy)
      by_cases hpr : p r
      · have hnone : affected p t = 0 := by
          by_contra hne
          obtain ⟨x, hx, hpx⟩ := affected_pos_iff.mp (Nat.pos_of_ne_zero hne)
          exact hr x hx (hp r List.mem_cons_self x (List.mem_cons_of_mem r hx) hpr hpx)
        unfold affected at hnone ⊢
        simp [hpr, hnone]
      · have := ih ht hpt
        unfold affected at this ⊢
        rwa [List.countP_cons_of_neg (by simpa using hpr)]

theorem NoConflict.affected_eq_one {p : ρ → Prop} [DecidablePred p] (h : NoConflict conflict t)
    (hp : ∀ x ∈ t, ∀ y ∈ t, p x → p y → conflict x y) {r : ρ} (hr : r ∈ t) (hpr : p r) :
    affected p t = 1 :=
  Nat.le_antisymm (h.affected_le_one hp) (affected_pos_iff.mpr ⟨r, hr, hpr⟩)

theorem NoConflict.eq (h : NoConflict conflict t) (hsymm : ∀ x y, conflict x y → conflict y x)
    {x y : ρ} (hx : x ∈ t) (hy : y ∈ t) (hc : conflict x y) : x = y := by
  by_contra hne
  have : Std.Symm fun a b => ¬ conflict a b := ⟨fun a b hab hba => hab (hsymm b a hba)⟩
  exact List.Pairwise.forall h hx hy hne hc

end NoConflict

end Tables
