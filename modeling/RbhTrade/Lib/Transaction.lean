import Mathlib.Tactic.Basic
import Mathlib.Logic.Basic

/-!
# Transactions

A transaction reads and writes a state and either commits, returning a value and the new state, or
fails with an error. A failed transaction has no new state, so rolling it back needs no rule of its
own: its caller keeps the state it started from.

The `_ok` lemmas invert a successful transaction one statement at a time. A proof about a
transaction rewrites its success with them and reads off, in the order of the program text, the
conditions that held and the writes that were made.
-/

/-- A transaction over states `σ` with errors `ε`. -/
abbrev Tx (ε σ α : Type) := StateT σ (Except ε) α

namespace Tx

variable {ε ε' σ α β : Type}

/-- Read a value from the current state. -/
def query (f : σ → α) : Tx ε σ α := fun s => .ok (f s, s)

/-- Write the state. -/
def exec (f : σ → σ) : Tx ε σ Unit := fun s => .ok ((), f s)

/-- Roll back with an error. -/
def fail (e : ε) : Tx ε σ α := fun _ => .error e

/-- Roll back with an error unless the condition holds. -/
def require (c : Prop) [Decidable c] (e : ε) : Tx ε σ Unit := fun s =>
  if c then .ok ((), s) else .error e

/-- The value of an optional query result; its absence rolls back. -/
def expect (o : Option α) (e : ε) : Tx ε σ α := fun s =>
  match o with
  | some a => .ok (a, s)
  | none => .error e

/-- The value of a computation outside the state; its error rolls back. -/
def ofExcept (x : Except ε α) : Tx ε σ α := fun s =>
  match x with
  | .ok a => .ok (a, s)
  | .error e => .error e

/-- Replace the state by an optional new one; its absence rolls back. -/
def put? (f : σ → Option σ) (e : ε) : Tx ε σ Unit := fun s =>
  match f s with
  | some s' => .ok ((), s')
  | none => .error e

/-- The same transaction with its errors renamed. -/
def mapErr (f : ε → ε') (m : Tx ε σ α) : Tx ε' σ α := fun s =>
  match m s with
  | .ok x => .ok x
  | .error e => .error (f e)

/-- Run a check and hand its error to the rest of the transaction instead of rolling back. -/
def attempt (m : Tx ε σ α) : Tx ε' σ (Except ε α) := fun s =>
  match m s with
  | .ok (a, s') => .ok (.ok a, s')
  | .error e => .ok (.error e, s)

/-- The state a caller is left with: the committed one, or the old one after a rollback. -/
def stateAfter (m : Tx ε σ α) (s : σ) : σ :=
  match m s with
  | .ok (_, s') => s'
  | .error _ => s

variable {c : Prop} {k : α → Tx ε σ β} {o : Option α}

section Inversion

variable {s s' : σ} {a : α} {b : β} {e : ε}

variable {f : α → Tx ε σ β} {m : Tx ε σ α}

theorem bind_ok :
    (m >>= f) s = .ok (b, s') ↔ ∃ a s₁, m s = .ok (a, s₁) ∧ f a s₁ = .ok (b, s') := by
  show (m s >>= fun x => f x.1 x.2) = _ ↔ _
  cases hm : m s with
  | error e => simp [bind, Except.bind]
  | ok x =>
      obtain ⟨a, s₁⟩ := x
      constructor
      · exact fun h => ⟨a, s₁, rfl, h⟩
      · rintro ⟨a', s₂, he, h⟩
        cases he
        exact h

/-- A statement that commits hands its result and its state on. -/
theorem bind_of_ok (h : m s = .ok (a, s₁)) :
    (m >>= f) s = f a s₁ := by
  simp only [bind, StateT.bind, Except.bind, h]

/-- A statement that fails ends the transaction. -/
theorem bind_of_error (h : m s = .error e) :
    (m >>= f) s = .error e := by
  simp only [bind, StateT.bind, Except.bind, h]

theorem require_error [Decidable c] (h : ¬ c) :
    (require c e : Tx ε σ Unit) s = .error e := if_neg h

theorem expect_error : (expect (none : Option α) e : Tx ε σ α) s = .error e := rfl

/-- An attempt always goes on. -/
theorem attempt_total (m : Tx ε σ α) (s : σ) : ∃ x s', (m.attempt : Tx ε' σ _) s = .ok (x, s') := by
  unfold attempt
  cases m s with
  | ok y => exact ⟨_, _, rfl⟩
  | error e => exact ⟨_, _, rfl⟩

theorem pure_ok {a' : α} : (pure a : Tx ε σ α) s = .ok (a', s') ↔ a = a' ∧ s = s' := by
  show (Except.ok (a, s) : Except ε (α × σ)) = _ ↔ _
  simp

theorem query_ok {f : σ → α} : (query f : Tx ε σ α) s = .ok (a, s') ↔ f s = a ∧ s = s' := by
  simp [query]

theorem exec_ok {f : σ → σ} {u : Unit} :
    (exec f : Tx ε σ Unit) s = .ok (u, s') ↔ f s = s' := by
  simp [exec]

theorem fail_ok : ¬ (fail e : Tx ε σ α) s = .ok (a, s') := by
  simp [fail]

theorem require_ok [Decidable c] {u : Unit} :
    (require c e : Tx ε σ Unit) s = .ok (u, s') ↔ c ∧ s = s' := by
  unfold require
  split <;> simp [*]

theorem expect_ok :
    (expect o e : Tx ε σ α) s = .ok (a, s') ↔ o = some a ∧ s = s' := by
  cases o <;> simp [expect]

theorem ofExcept_ok {x : Except ε α} :
    (ofExcept x : Tx ε σ α) s = .ok (a, s') ↔ x = .ok a ∧ s = s' := by
  cases x <;> simp [ofExcept]

theorem put?_ok {f : σ → Option σ} {u : Unit} :
    (put? f e : Tx ε σ Unit) s = .ok (u, s') ↔ f s = some s' := by
  unfold put?
  cases f s <;> simp

theorem ite_ok [Decidable c] {m₁ m₂ : Tx ε σ α} :
    (if c then m₁ else m₂) s = .ok (a, s') ↔
      (c ∧ m₁ s = .ok (a, s')) ∨ (¬ c ∧ m₂ s = .ok (a, s')) := by
  split <;> simp [*]

theorem mapErr_ok {f : ε → ε'} :
    m.mapErr f s = .ok (a, s') ↔ m s = .ok (a, s') := by
  unfold mapErr
  cases m s <;> simp

theorem attempt_ok {x : Except ε α} :
    (m.attempt : Tx ε' σ _) s = .ok (x, s') ↔
      (∃ a, x = .ok a ∧ m s = .ok (a, s')) ∨ (∃ e, x = .error e ∧ m s = .error e ∧ s' = s) := by
  unfold attempt
  cases m s with
  | ok y =>
      obtain ⟨b, s₁⟩ := y
      simp only [Except.ok.injEq, Prod.mk.injEq, reduceCtorEq, false_and, and_false,
        exists_false, or_false]
      exact ⟨fun ⟨hx, hs⟩ => ⟨b, hx.symm, rfl, hs⟩, fun ⟨c, hx, hb, hs⟩ => ⟨hb ▸ hx.symm, hs⟩⟩
  | error e' =>
      simp only [Except.ok.injEq, Prod.mk.injEq, reduceCtorEq, and_false, exists_false,
        Except.error.injEq, false_or]
      exact ⟨fun ⟨hx, hs⟩ => ⟨e', hx.symm, rfl, hs.symm⟩,
        fun ⟨c, hx, he, hs⟩ => ⟨he ▸ hx.symm, hs.symm⟩⟩

/-! Sequencing after one statement. These leave no equation between states behind, so a long
transaction unfolds into the conjunction of its conditions. -/

theorem query_bind {f : σ → α} : (query f >>= k) s = k (f s) s := rfl

theorem exec_bind {f : σ → σ} {k : Unit → Tx ε σ β} : (exec f >>= k) s = k () (f s) := rfl

theorem pure_bind_apply : (pure a >>= k) s = k a s := rfl

/-- A check that holds. -/
theorem require_bind_of [Decidable c] {k : Unit → Tx ε σ β} (hc : c) :
    (require c e >>= k) s = k () s :=
  bind_of_ok (require_ok.mpr ⟨hc, rfl⟩)

/-- A row that is found. -/
theorem expect_bind_of (ho : o = some a) :
    (expect o e >>= k) s = k a s :=
  bind_of_ok (expect_ok.mpr ⟨ho, rfl⟩)

theorem require_bind_ok [Decidable c] {k : Unit → Tx ε σ β} :
    (require c e >>= k) s = .ok (b, s') ↔ c ∧ k () s = .ok (b, s') := by
  simp only [bind_ok, require_ok]
  exact ⟨fun ⟨_, _, ⟨hc, hs⟩, h⟩ => ⟨hc, hs ▸ h⟩, fun ⟨hc, h⟩ => ⟨(), s, ⟨hc, rfl⟩, h⟩⟩

theorem expect_bind_ok :
    (expect o e >>= k) s = .ok (b, s') ↔ ∃ a, o = some a ∧ k a s = .ok (b, s') := by
  simp only [bind_ok, expect_ok]
  exact ⟨fun ⟨a, _, ⟨ho, hs⟩, h⟩ => ⟨a, ho, hs ▸ h⟩, fun ⟨a, ho, h⟩ => ⟨a, s, ⟨ho, rfl⟩, h⟩⟩

theorem ofExcept_bind_ok {x : Except ε α} :
    (ofExcept x >>= k) s = .ok (b, s') ↔ ∃ a, x = .ok a ∧ k a s = .ok (b, s') := by
  simp only [bind_ok, ofExcept_ok]
  exact ⟨fun ⟨a, _, ⟨hx, hs⟩, h⟩ => ⟨a, hx, hs ▸ h⟩, fun ⟨a, hx, h⟩ => ⟨a, s, ⟨hx, rfl⟩, h⟩⟩

/-! A transaction that fails does so at one statement. -/

theorem require_bind_error [Decidable c] {k : Unit → Tx ε σ β} {e' : ε} :
    (require c e >>= k) s = .error e' ↔ (¬ c ∧ e = e') ∨ (c ∧ k () s = .error e') := by
  by_cases hc : c
  · rw [require_bind_of hc]
    simp [hc]
  · rw [bind_of_error (require_error hc)]
    simp [hc]

theorem expect_bind_error {e' : ε} :
    (expect o e >>= k) s = .error e' ↔
      (o = none ∧ e = e') ∨ ∃ a, o = some a ∧ k a s = .error e' := by
  cases o with
  | none =>
      rw [bind_of_error expect_error]
      simp
  | some a =>
      rw [expect_bind_of rfl]
      simp

theorem ite_error [Decidable c] {m₁ m₂ : Tx ε σ α} :
    (if c then m₁ else m₂) s = .error e ↔
      (c ∧ m₁ s = .error e) ∨ (¬ c ∧ m₂ s = .error e) := by
  split <;> simp [*]

theorem put?_bind_ok {f : σ → Option σ} {k : Unit → Tx ε σ β} :
    (put? f e >>= k) s = .ok (b, s') ↔ ∃ s₁, f s = some s₁ ∧ k () s₁ = .ok (b, s') := by
  simp only [bind_ok, put?_ok]
  exact ⟨fun ⟨_, s₁, hf, h⟩ => ⟨s₁, hf, h⟩, fun ⟨s₁, hf, h⟩ => ⟨(), s₁, hf, h⟩⟩

theorem stateAfter_ok (h : m s = .ok (a, s')) : m.stateAfter s = s' := by
  simp [stateAfter, h]

theorem stateAfter_error (h : m s = .error e) : m.stateAfter s = s := by
  simp [stateAfter, h]

/-- What holds of every committed state and of the old state holds after the call. -/
theorem stateAfter_cases (P : σ → Prop) (hs : P s) (hc : ∀ a s', m s = .ok (a, s') → P s') :
    P (m.stateAfter s) := by
  unfold stateAfter
  split
  · exact hc _ _ (by assumption)
  · exact hs

end Inversion

/-! ## Commits -/

/-- The transaction commits in the state. -/
def Commits (m : Tx ε σ α) (s : σ) : Prop := ∃ a s', m s = .ok (a, s')

namespace Commits

variable {m : Tx ε σ α} {s s₁ : σ}

/-- Statement by statement: the first commits, and the rest in the state it leaves. -/
theorem bind {a : α} (h : m s = .ok (a, s₁)) (hk : Commits (k a) s₁) :
    Commits (m >>= k) s := by
  obtain ⟨b, s', hb⟩ := hk
  exact ⟨b, s', bind_ok.mpr ⟨a, s₁, h, hb⟩⟩

theorem query {f : σ → α} (hk : Commits (k (f s)) s) :
    Commits (query f >>= k) s :=
  bind rfl hk

theorem require [Decidable c] {e : ε} {k : Unit → Tx ε σ β} (hc : c) (hk : Commits (k ()) s) :
    Commits (require c e >>= k) s :=
  bind (require_ok.mpr ⟨hc, rfl⟩) hk

theorem expect {e : ε} {a : α} (ho : o = some a) (hk : Commits (k a) s) :
    Commits (expect o e >>= k) s :=
  bind (expect_ok.mpr ⟨ho, rfl⟩) hk

theorem of_isOk (h : (m s).isOk = true) : Commits m s := by
  cases hm : m s with
  | ok r => exact ⟨r.1, r.2, hm⟩
  | error e => rw [hm] at h; cases h

end Commits

/-! ## Invariants

What every statement of a transaction keeps, the transaction keeps. -/

/-- A commit keeps the property. -/
def Preserves (P : σ → Prop) (m : Tx ε σ α) : Prop := ∀ ⦃s a s'⦄, P s → m s = .ok (a, s') → P s'

namespace Preserves

variable {P : σ → Prop} {m : Tx ε σ α}

theorem stateAfter (h : Preserves P m) {s : σ} (hs : P s) : P (m.stateAfter s) :=
  stateAfter_cases P hs fun _ _ hok => h hs hok

theorem bind (hm : Preserves P m) (hk : ∀ a, Preserves P (k a)) :
    Preserves P (m >>= k) := by
  intro s b s' hs h
  obtain ⟨a, s₁, ha, hb⟩ := bind_ok.mp h
  exact hk a (hm hs ha) hb

theorem pure {a : α} : Preserves P (Pure.pure a : Tx ε σ α) := by
  intro s a' s' hs h
  obtain ⟨-, rfl⟩ := pure_ok.mp h
  exact hs

theorem query {f : σ → α} : Preserves P (query f : Tx ε σ α) := by
  intro s a s' hs h
  obtain ⟨-, rfl⟩ := query_ok.mp h
  exact hs

theorem require [Decidable c] {e : ε} : Preserves P (require c e) := by
  intro s u s' hs h
  obtain ⟨-, rfl⟩ := require_ok.mp h
  exact hs

theorem exec {f : σ → σ} (hf : ∀ s, P s → P (f s)) : Preserves P (exec f : Tx ε σ Unit) := by
  intro s u s' hs h
  obtain rfl := exec_ok.mp h
  exact hf s hs

theorem ite [Decidable c] {m₁ m₂ : Tx ε σ α} (h₁ : Preserves P m₁) (h₂ : Preserves P m₂) :
    Preserves P (if c then m₁ else m₂) := by
  split
  · exact h₁
  · exact h₂

end Preserves

end Tx
