import Mathlib.Data.List.Basic

/-!
# Runs of a total step function

A run folds a step function over a list of actions. `Along` says that every action of a run meets a
condition in the state it finds; an invariant that such actions keep holds in every state the run
passes through.
-/

namespace Run

variable {σ α : Type*} {step : σ → α → σ} {ok : σ → α → Prop}

/-- Every action of the run meets the condition in the state it finds. -/
def Along (step : σ → α → σ) (ok : σ → α → Prop) : σ → List α → Prop
  | _, [] => True
  | s, a :: as => ok s a ∧ Along step ok (step s a) as

instance Along.decidable [∀ s a, Decidable (ok s a)] :
    ∀ (s : σ) (as : List α), Decidable (Along step ok s as)
  | _, [] => inferInstanceAs (Decidable True)
  | s, a :: as =>
      have := Along.decidable (step s a) as
      inferInstanceAs (Decidable (_ ∧ _))

variable {as : List α} {s : σ}

theorem Along.take (h : Along step ok s as) (n : Nat) :
    Along step ok s (as.take n) := by
  induction as generalizing s n with
  | nil => simpa using h
  | cons a as ih =>
      cases n with
      | zero => trivial
      | succ n => exact ⟨h.1, ih h.2 n⟩

theorem Along.drop (h : Along step ok s as) (n : Nat) :
    Along step ok ((as.take n).foldl step s) (as.drop n) := by
  induction as generalizing s n with
  | nil => simpa using h
  | cons a as ih =>
      cases n with
      | zero => exact h
      | succ n => exact ih h.2 n

/-- An action of the run meets the condition in the state it finds. -/
theorem Along.get (h : Along step ok s as) {n : Nat} {a : α} (ha : as[n]? = some a) :
    ok ((as.take n).foldl step s) a := by
  induction as generalizing s n with
  | nil => simp at ha
  | cons b as ih =>
      cases n with
      | zero =>
          simp only [List.getElem?_cons_zero, Option.some.injEq] at ha
          exact ha ▸ h.1
      | succ n => exact ih h.2 (by simpa using ha)

/-- The run after one more action. -/
theorem foldl_take_succ {n : Nat} {a : α} (ha : as[n]? = some a) :
    (as.take (n + 1)).foldl step s = step ((as.take n).foldl step s) a := by
  simp only [List.take_add_one, ha, Option.toList_some, List.foldl_append, List.foldl_cons,
    List.foldl_nil]

/-- An invariant of the allowed actions holds at the end of a run. -/
theorem Along.foldl {P : σ → Prop} (h : Along step ok s as) (hs : P s)
    (hstep : ∀ s a, P s → ok s a → P (step s a)) : P (as.foldl step s) := by
  induction as generalizing s with
  | nil => exact hs
  | cons a as ih => exact ih h.2 (hstep s a hs h.1)

/-- An invariant of the allowed actions holds in every state of a run. -/
theorem Along.always {P : σ → Prop} (h : Along step ok s as) (hs : P s)
    (hstep : ∀ s a, P s → ok s a → P (step s a)) (n : Nat) : P ((as.take n).foldl step s) :=
  (h.take n).foldl hs hstep

/-- What the allowed actions keep holds from one state of a run on. -/
theorem Along.later {P : σ → Prop} (h : Along step ok s as) {m n : Nat} (hmn : m ≤ n)
    (hm : P ((as.take m).foldl step s)) (hstep : ∀ s a, P s → ok s a → P (step s a)) :
    P ((as.take n).foldl step s) := by
  obtain ⟨k, rfl⟩ := Nat.exists_eq_add_of_le hmn
  rw [List.take_add, List.foldl_append]
  exact (h.drop m).always hm hstep k

end Run
