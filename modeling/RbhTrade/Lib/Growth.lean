import Mathlib.Data.List.Basic

/-!
# Logs with generations

A log that grows at its end. The first entry has generation one, and each later one has the
generation after that of the entry before it, is not below it, and is not written after a latched
entry. So the generations count the entries, the entries rise, and a latched entry is the last.
-/

namespace Growth

variable {ρ : Type*}

/-- The logs that grow entry by entry. -/
inductive Grown (gen : ρ → Nat) (latched : ρ → Prop) (le : ρ → ρ → Prop) : List ρ → Prop where
  | nil : Grown gen latched le []
  | first {x : ρ} (hgen : gen x = 1) : Grown gen latched le [x]
  | next {l : List ρ} {x y : ρ} (h : Grown gen latched le (l ++ [x])) (hopen : ¬ latched x)
      (hgen : gen y = gen x + 1) (hle : le x y) : Grown gen latched le (l ++ [x] ++ [y])

variable {gen : ρ → Nat} {latched : ρ → Prop} {le : ρ → ρ → Prop} {l : List ρ} {x : ρ}

theorem Grown.generations (h : Grown gen latched le l) : l.map gen = List.range' 1 l.length := by
  -- The generation of the last entry is the length.
  suffices hlast : l.map gen = List.range' 1 l.length ∧
      ∀ l' x, l = l' ++ [x] → gen x = l.length from hlast.1
  induction h with
  | nil => simp
  | @first x hgen =>
      refine ⟨by simp [hgen], fun l' y hl => ?_⟩
      obtain ⟨-, rfl⟩ : l' = [] ∧ y = x := by simpa [List.append_eq_singleton_iff] using hl.symm
      exact hgen
  | @next l x y h hopen hgen hle ih =>
      obtain ⟨hmap, hlen⟩ := ih
      have hx := hlen l x rfl
      have hlen : (l ++ [x] ++ [y]).length = (l ++ [x]).length + 1 := by simp
      have hy : gen y = (l ++ [x] ++ [y]).length := by rw [hgen, hx, hlen]
      refine ⟨?_, fun l' z hl => ?_⟩
      · rw [List.map_append, hmap, List.map_singleton, hlen, List.range'_1_concat, hgen, hx,
          Nat.add_comm 1]
      · obtain ⟨-, hz⟩ := List.append_inj' hl rfl
        obtain rfl : y = z := by simpa using hz
        exact hy

/-- No generation is above that of the last entry. -/
theorem Grown.gen_le_last (h : Grown gen latched le (l ++ [x])) {z : ρ} (hz : z ∈ l ++ [x]) :
    gen z ≤ gen x := by
  generalize hm : l ++ [x] = m at h
  induction h generalizing l x with
  | nil => simp at hm
  | @first y hgen =>
      obtain ⟨rfl, rfl⟩ : l = [] ∧ x = y := by simpa [List.append_eq_singleton_iff] using hm
      simp at hz
      exact hz ▸ Nat.le_refl _
  | @next l' y y' h hopen hgen hle ih =>
      obtain ⟨rfl, hx⟩ := List.append_inj' hm rfl
      obtain rfl : x = y' := by simpa using hx
      obtain hz | hz := List.mem_append.mp hz
      · exact Nat.le_trans (ih hz rfl) (hgen ▸ Nat.le_succ _)
      · exact List.mem_singleton.mp hz ▸ Nat.le_refl _

/-- An entry whose generation is the greatest is the last one. -/
theorem Grown.last_of_max (h : Grown gen latched le l) (hx : x ∈ l)
    (hmax : ∀ y ∈ l, gen y ≤ gen x) : ∃ l', l = l' ++ [x] := by
  cases h with
  | nil => simp at hx
  | first hgen => exact ⟨[], by rw [List.mem_singleton.mp hx]; rfl⟩
  | @next l y z h hopen hgen hle =>
      obtain hx | hx := List.mem_append.mp hx
      · have hle := h.gen_le_last hx
        have hz := hmax z (List.mem_append_right _ (List.mem_singleton_self z))
        omega
      · exact ⟨l ++ [y], by rw [List.mem_singleton.mp hx]⟩

/-- The log after one more entry. -/
theorem Grown.snoc {y : ρ} (h : Grown gen latched le l) (hx : x ∈ l)
    (hmax : ∀ y ∈ l, gen y ≤ gen x) (hopen : ¬ latched x) (hgen : gen y = gen x + 1)
    (hle : le x y) : Grown gen latched le (l ++ [y]) := by
  obtain ⟨l', rfl⟩ := h.last_of_max hx hmax
  exact .next h hopen hgen hle

theorem Grown.rising (h : Grown gen latched le l) (htrans : ∀ x y z, le x y → le y z → le x z) :
    l.Pairwise le := by
  suffices hlast : l.Pairwise le ∧ ∀ l' x, l = l' ++ [x] → ∀ z ∈ l', le z x from hlast.1
  induction h with
  | nil => simp
  | @first x hgen =>
      refine ⟨List.pairwise_singleton _ _, fun l' y hl z hz => ?_⟩
      obtain ⟨rfl, -⟩ : l' = [] ∧ y = x := by simpa [List.append_eq_singleton_iff] using hl.symm
      simp at hz
  | @next l x y h hopen hgen hle ih =>
      obtain ⟨hpair, hbelow⟩ := ih
      have hy : ∀ z ∈ l ++ [x], le z y := by
        intro z hz
        obtain hz | hz := List.mem_append.mp hz
        · exact htrans z x y (hbelow l x rfl z hz) hle
        · exact List.mem_singleton.mp hz ▸ hle
      refine ⟨List.pairwise_append.mpr ⟨hpair, List.pairwise_singleton _ _, fun z hz y' hy' => ?_⟩,
        fun l' z hl => ?_⟩
      · exact List.mem_singleton.mp hy' ▸ hy z hz
      · obtain ⟨rfl, hz⟩ := List.append_inj' hl rfl
        obtain rfl : y = z := by simpa using hz
        exact hy

/-- Only the last entry is latched. -/
theorem Grown.latched_max (h : Grown gen latched le l) (hx : x ∈ l) (hl : latched x) :
    ∀ y ∈ l, gen y ≤ gen x := by
  induction h with
  | nil => simp at hx
  | first hgen =>
      rw [List.mem_singleton.mp hx]
      simp
  | @next l y z h hopen hgen hle ih =>
      obtain hx | hx := List.mem_append.mp hx
      · -- A latched entry before the last would be the last of its log, which is open.
        obtain ⟨l', hl'⟩ := h.last_of_max hx (ih hx)
        obtain ⟨-, hy⟩ := List.append_inj' hl' rfl
        obtain rfl : y = x := by simpa using hy
        exact absurd hl hopen
      · obtain rfl := List.mem_singleton.mp hx
        exact fun w hw => (h.next hopen hgen hle).gen_le_last hw

end Growth
