import Mathlib.Data.List.Nodup

/-!
# Exclusive claims

The at-most-once pattern: holders claim keys, a claimed key may be spent once, and a key is handed
out only while nobody holds it and nobody spent it. `Exclusive held spent` is the invariant of that
pattern for a set of holders with `held` the key of each and `spent` the keys used so far; it
survives handing out a fresh key, giving a claim up and spending it. At most one use of each key is
then `Exclusive.count_le_one`.

A model keeps its own program counters and reads `held` off them, so the lemmas are stated for the
update of an arbitrary function `counter` followed by a projection.
-/

namespace Claims

variable {W S κ : Type*}

/-- No two holders share a key, no held key was spent, and no key was spent twice. -/
structure Exclusive (held : W → Option κ) (spent : List κ) : Prop where
  inj : ∀ {w w' k}, held w = some k → held w' = some k → w = w'
  unspent : ∀ {w k}, held w = some k → k ∉ spent
  nodup : spent.Nodup

theorem Exclusive.start {held : W → Option κ} (h : ∀ w, held w = none) : Exclusive held [] where
  inj := fun hw => by simp [h] at hw
  unspent := fun _ => List.not_mem_nil
  nodup := List.nodup_nil

theorem Exclusive.count_le_one [DecidableEq κ] {held : W → Option κ} {spent : List κ}
    (h : Exclusive held spent) (k : κ) : spent.count k ≤ 1 :=
  List.nodup_iff_count_le_one.mp h.nodup k

/-- A key nobody holds and nobody spent. -/
def Fresh (held : W → Option κ) (spent : List κ) (k : κ) : Prop :=
  (∀ w, held w ≠ some k) ∧ k ∉ spent

/-! ## What may happen to the holders -/

section Change

variable {held held' : W → Option κ} {spent : List κ} {w u : W} {k : κ}

/-- Holders that give claims up keep claims exclusive. -/
theorem Exclusive.weaken (h : Exclusive held spent)
    (old : ∀ {v k'}, held' v = some k' → held v = some k') : Exclusive held' spent :=
  ⟨fun hv hv' => h.inj (old hv) (old hv'), fun hv => h.unspent (old hv), h.nodup⟩

/-- Handing out a fresh key keeps claims exclusive. -/
theorem Exclusive.issue (h : Exclusive held spent) (hfresh : Fresh held spent k)
    (old : ∀ {v k'}, held' v = some k' → held v = some k' ∨ (v = w ∧ k' = k)) :
    Exclusive held' spent := by
  refine ⟨?_, ?_, h.nodup⟩
  · intro v v' k' hv hv'
    rcases old hv with hv | ⟨hvw, hk⟩ <;> rcases old hv' with hv' | ⟨hvw', hk'⟩
    · exact h.inj hv hv'
    · exact absurd (hk' ▸ hv) (hfresh.1 v)
    · exact absurd (hk ▸ hv') (hfresh.1 v')
    · rw [hvw, hvw']
  · intro v k' hv
    rcases old hv with hv | ⟨rfl, rfl⟩
    · exact h.unspent hv
    · exact hfresh.2

/-- Spending a held key ends the claim. -/
theorem Exclusive.use (h : Exclusive held spent) (hw : held w = some k)
    (old : ∀ {v k'}, held' v = some k' → held v = some k' ∧ v ≠ w) :
    Exclusive held' (k :: spent) := by
  refine ⟨fun hv hv' => h.inj (old hv).1 (old hv').1, ?_,
    List.nodup_cons.mpr ⟨h.unspent hw, h.nodup⟩⟩
  intro v k' hv hmem
  obtain ⟨hv, hne⟩ := old hv
  rcases List.mem_cons.mp hmem with rfl | hmem
  · exact hne (h.inj hv hw)
  · exact h.unspent hv hmem

end Change

/-! ## Holders with program counters -/

section Counter

variable [DecidableEq W] {key : S → Option κ} {counter : W → S} {spent : List κ} {w : W} {x : S}
  {k : κ}

theorem held_update (v : W) :
    (key ∘ Function.update counter w x) v = if v = w then key x else (key ∘ counter) v := by
  by_cases h : v = w
  · subst h
    simp
  · simp [h]

/-- A claim after an update is an old one of another holder, or the one of the updated holder. -/
theorem held_update_cases {v : W} {k' : κ} (h : (key ∘ Function.update counter w x) v = some k') :
    ((key ∘ counter) v = some k' ∧ v ≠ w) ∨ (v = w ∧ key x = some k') := by
  rw [held_update] at h
  split at h
  · exact .inr ⟨by assumption, h⟩
  · exact .inl ⟨h, by assumption⟩

/-- A holder that moves on with the claim it had, or with none, keeps claims exclusive. -/
theorem Exclusive.move (h : Exclusive (key ∘ counter) spent)
    (hx : ∀ k, key x = some k → key (counter w) = some k) :
    Exclusive (key ∘ Function.update counter w x) spent := by
  refine h.weaken fun hv => ?_
  rcases held_update_cases hv with ⟨hv, -⟩ | ⟨rfl, hk⟩
  · exact hv
  · exact hx _ hk

/-- A holder that takes a fresh key keeps claims exclusive. -/
theorem Exclusive.grant (h : Exclusive (key ∘ counter) spent)
    (hfresh : Fresh (key ∘ counter) spent k) (hx : key x = some k) :
    Exclusive (key ∘ Function.update counter w x) spent := by
  refine h.issue (w := w) hfresh fun hv => ?_
  rcases held_update_cases hv with ⟨hv, -⟩ | ⟨rfl, hk⟩
  · exact .inl hv
  · rw [hx] at hk
    exact .inr ⟨rfl, (Option.some.inj hk).symm⟩

/-- A holder that spends its key and moves on without one keeps claims exclusive. -/
theorem Exclusive.spend (h : Exclusive (key ∘ counter) spent) (hw : key (counter w) = some k)
    (hx : key x = none) : Exclusive (key ∘ Function.update counter w x) (k :: spent) := by
  refine h.use (w := w) hw fun hv => ?_
  rcases held_update_cases hv with hv | ⟨rfl, hk⟩
  · exact hv
  · rw [hx] at hk
    cases hk

end Counter

end Claims
