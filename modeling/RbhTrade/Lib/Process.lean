import RbhTrade.Lib.Run
import RbhTrade.Lib.Transaction

/-!
# Processes on one shared state

A process accesses a shared state in atomic steps and returns a value. Between two accesses of a
process the others may access the state, and a process may die before any of its accesses; what it
has written so far stays.

`Meets R G Q p s` is the rely-guarantee specification: as long as the others only take steps that
`R` allows, every access of `p` is a step that `G` allows, and its result satisfies `Q` from then
on. It is defined by recursion over the process, so that it is proved access by access. `Pool.Sound`
carries it through every interleaving of any number of processes, provided that the processes that
count at the same time allow each other's steps. If all that have not died count, results stay as
specified; if only those count that have accesses left, a process that is alone may rely on
anything.
-/

/-- A process has returned, or it accesses the state next; the rest of it depends on the state that
the access found. -/
inductive Process (σ α : Type) where
  | done (value : α)
  | access (write : σ → σ) (next : σ → Process σ α)

namespace Process

variable {ε σ α β : Type}

def bind : Process σ α → (α → Process σ β) → Process σ β
  | done a, f => f a
  | access write next, f => access write fun s => (next s).bind f

instance : Monad (Process σ) where
  pure := done
  bind := bind

/-- Read a value. -/
def read (f : σ → α) : Process σ α := access id fun s => done (f s)

/-- The outcome of a transaction for its caller. -/
def outcome (m : Tx ε σ α) (s : σ) : Except ε α :=
  match m s with
  | .ok (a, _) => .ok a
  | .error e => .error e

/-- Run a transaction, which is one access. -/
def tx (m : Tx ε σ α) : Process σ (Except ε α) := access m.stateAfter fun s => done (outcome m s)

/-- The process run alone. -/
def alone : Process σ α → σ → α × σ
  | done a, s => (a, s)
  | access write next, s => (next s).alone (write s)

/-- The process has an access left. -/
def Live : Process σ α → Prop
  | done _ => False
  | access _ _ => True

theorem alone_bind (p : Process σ α) (f : α → Process σ β) (s : σ) :
    (p >>= f).alone s = (f (p.alone s).1).alone (p.alone s).2 := by
  induction p generalizing s with
  | done a => rfl
  | access w n ih => exact ih s (w s)

@[simp] theorem alone_read (f : σ → α) (s : σ) : (read f).alone s = (f s, s) := rfl

@[simp] theorem alone_tx (m : Tx ε σ α) (s : σ) :
    (tx m).alone s = (outcome m s, m.stateAfter s) := rfl

theorem outcome_ok {m : Tx ε σ α} {s : σ} {a : α} (h : outcome m s = .ok a) :
    ∃ s', m s = .ok (a, s') ∧ m.stateAfter s = s' := by
  unfold outcome at h
  split at h
  · rename_i b s' hm
    cases h
    exact ⟨s', hm, Tx.stateAfter_ok hm⟩
  · cases h

theorem outcome_error {m : Tx ε σ α} {s : σ} {e : ε} (h : outcome m s = .error e) :
    m s = .error e ∧ m.stateAfter s = s := by
  unfold outcome at h
  split at h
  · cases h
  · rename_i e' hm
    cases h
    exact ⟨hm, Tx.stateAfter_error hm⟩

/-! ## Rely and guarantee -/

/-- Whatever steps `R` the others take, the process takes steps `G` as long as the schedule lets it
take only steps `E`, and its result satisfies `Q`. -/
def Meets (R E G : σ → σ → Prop) (Q : α → σ → Prop) : Process σ α → σ → Prop
  | done a, s => ∀ s', R s s' → Q a s'
  | access write next, s => ∀ s', R s s' → E s' (write s') →
      G s' (write s') ∧ Meets R E G Q (next s') (write s')

section Meets

variable {R E G : σ → σ → Prop} {Q : α → σ → Prop} {s s' : σ}

theorem meets_pure {a : α} : Meets R E G Q (pure a) s ↔ ∀ s', R s s' → Q a s' := Iff.rfl

theorem meets_read_bind {g : σ → β} {f : β → Process σ α} :
    Meets R E G Q (read g >>= f) s ↔ ∀ s', R s s' → E s' s' →
      G s' s' ∧ Meets R E G Q (f (g s')) s' := Iff.rfl

theorem meets_tx_bind {m : Tx ε σ β} {f : Except ε β → Process σ α} :
    Meets R E G Q (tx m >>= f) s ↔ ∀ s', R s s' → E s' (m.stateAfter s') →
      G s' (m.stateAfter s') ∧ Meets R E G Q (f (outcome m s')) (m.stateAfter s') := Iff.rfl

/-- Steps of the others keep the specification. -/
theorem Meets.rely {p : Process σ α} (htrans : ∀ {a b c}, R a b → R b c → R a c)
    (h : Meets R E G Q p s) (hs : R s s') : Meets R E G Q p s' := by
  cases p with
  | done a => exact fun s₂ h₂ => h s₂ (htrans hs h₂)
  | access w n => exact fun s₂ h₂ => h s₂ (htrans hs h₂)

/-- One process after the other. -/
theorem Meets.bind {Q' : β → σ → Prop} {p : Process σ α} {f : α → Process σ β}
    (hrefl : ∀ a, R a a) (h : Meets R E G (fun a s => Meets R E G Q' (f a) s) p s) :
    Meets R E G Q' (p >>= f) s := by
  induction p generalizing s with
  | done a => exact h s (hrefl s)
  | access w n ih =>
      intro s' hs he
      obtain ⟨hg, hn⟩ := h s' hs he
      exact ⟨hg, ih s' hn⟩

theorem Meets.mono {Q' : α → σ → Prop} {p : Process σ α} (h : Meets R E G Q p s)
    (hq : ∀ a s, Q a s → Q' a s) : Meets R E G Q' p s := by
  induction p generalizing s with
  | done a => exact fun s' hs => hq a s' (h s' hs)
  | access w n ih =>
      intro s' hs he
      obtain ⟨hg, hn⟩ := h s' hs he
      exact ⟨hg, ih s' hn⟩

end Meets

end Process

/-! ## Pools -/

/-- A call and what is left of its process; nothing is left of a process that died. -/
structure Thread (κ σ α : Type) where
  call : κ
  rest : Option (Process σ α)

/-- Any number of processes over one state. -/
structure Pool (κ σ α : Type) where
  shared : σ
  threads : List (Thread κ σ α) := []

namespace Pool

variable {κ σ α : Type}

/-- What the scheduler does next. -/
inductive Action (κ : Type) where
  | start (call : κ)
  | access (i : Nat)
  | crash (i : Nat)

def act (program : κ → Process σ α) (p : Pool κ σ α) : Action κ → Pool κ σ α
  | .start call => { p with threads := p.threads ++ [⟨call, some (program call)⟩] }
  | .access i =>
      match p.threads[i]? with
      | some ⟨call, some (.access write next)⟩ =>
          { shared := write p.shared
            threads := p.threads.set i ⟨call, some (next p.shared)⟩ }
      | _ => p
  | .crash i =>
      match p.threads[i]? with
      | some ⟨call, some (.access _ _)⟩ => { p with threads := p.threads.set i ⟨call, none⟩ }
      | _ => p

/-- The actions of a schedule. -/
def run (program : κ → Process σ α) (p : Pool κ σ α) (as : List (Action κ)) : Pool κ σ α :=
  as.foldl (act program) p

/-- A schedule continued. -/
theorem run_take (program : κ → Process σ α) (p : Pool κ σ α) (as : List (Action κ)) {m n : Nat}
    (h : m ≤ n) :
    p.run program (as.take n) = (p.run program (as.take m)).run program ((as.take n).drop m) := by
  have hsplit : as.take n = as.take m ++ (as.take n).drop m := by
    conv_lhs => rw [← List.take_append_drop m (as.take n)]
    rw [List.take_take, Nat.min_eq_left h]
  conv_lhs => rw [hsplit, run, List.foldl_append]
  rfl

/-- The results that the processes of a call have returned. -/
def Returned (p : Pool κ σ α) (call : κ) (value : α) : Prop :=
  ⟨call, some (.done value)⟩ ∈ p.threads

/-- What a pool does next, by the kind of the access. -/
theorem act_cases {program : κ → Process σ α} {p : Pool κ σ α} {a : Action κ}
    {P : Pool κ σ α → Prop} (hstay : P p)
    (hstart : ∀ call, a = .start call →
      P { p with threads := p.threads ++ [⟨call, some (program call)⟩] })
    (haccess : ∀ i call write next, a = .access i →
      p.threads[i]? = some ⟨call, some (.access write next)⟩ →
      P { shared := write p.shared
          threads := p.threads.set i ⟨call, some (next p.shared)⟩ })
    (hcrash : ∀ i call write next, a = .crash i →
      p.threads[i]? = some ⟨call, some (.access write next)⟩ →
      P { p with threads := p.threads.set i ⟨call, none⟩ }) : P (p.act program a) := by
  cases a with
  | start call => exact hstart call rfl
  | access i =>
      unfold act
      dsimp only
      split
      · exact haccess i _ _ _ rfl (by assumption)
      · exact hstay
  | crash i =>
      unfold act
      dsimp only
      split
      · exact hcrash i _ _ _ rfl (by assumption)
      · exact hstay

variable {i : Nat}

/-- A row of a list with one row replaced. -/
theorem getElem?_of_mem_set {ρ : Type*} {l : List ρ} {x y : ρ} (h : y ∈ l.set i x) :
    y = x ∨ ∃ j, i ≠ j ∧ l[j]? = some y := by
  obtain ⟨j, hj, rfl⟩ := List.getElem_of_mem h
  by_cases hij : i = j
  · subst hij
    exact .inl (List.getElem_set_self hj)
  · refine .inr ⟨j, hij, ?_⟩
    rw [List.getElem_set_ne hij]
    exact List.getElem?_eq_getElem (by simpa using hj)

/-- Replace a row by one that is in the same relations. -/
theorem pairwise_set {ρ : Type*} {S : ρ → ρ → Prop} {l : List ρ} {x y : ρ} (h : l.Pairwise S)
    (hi : l[i]? = some x) (hleft : ∀ z, S x z → S y z) (hright : ∀ z, S z x → S z y) :
    (l.set i y).Pairwise S := by
  obtain ⟨hlt, rfl⟩ := List.getElem?_eq_some_iff.mp hi
  refine List.pairwise_iff_getElem.mpr fun j k hj hk hjk => ?_
  rw [List.length_set] at hj hk
  have hrow := List.pairwise_iff_getElem.mp h j k hj hk hjk
  rw [List.getElem_set, List.getElem_set]
  split
  · rename_i hij
    subst hij
    rw [if_neg (Nat.ne_of_lt hjk)]
    exact hleft _ hrow
  · split
    · rename_i hik
      subst hik
      exact hright _ hrow
    · exact hrow

/-- Two rows of a list that a symmetric relation holds on. -/
theorem of_pairwise {ρ : Type*} {S : ρ → ρ → Prop} {l : List ρ} (h : l.Pairwise S)
    (hsymm : ∀ {x y}, S x y → S y x) {j : Nat} {x y : ρ} (hi : l[i]? = some x) (hj : l[j]? = some y)
    (hij : i ≠ j) : S x y := by
  obtain ⟨hi', rfl⟩ := List.getElem?_eq_some_iff.mp hi
  obtain ⟨hj', rfl⟩ := List.getElem?_eq_some_iff.mp hj
  obtain hlt | hgt := Nat.lt_or_gt_of_ne hij
  · exact List.pairwise_iff_getElem.mp h i j hi' hj' hlt
  · exact hsymm (List.pairwise_iff_getElem.mp h j i hj' hi' hgt)

/-! ### Soundness -/

/-- Each of two calls allows the steps of the other that the schedule allows. -/
def Apart (E : σ → σ → Prop) (R G : κ → σ → σ → Prop) (c d : κ) : Prop :=
  (∀ s s', E s s' → G c s s' → R d s s') ∧ ∀ s s', E s s' → G d s s' → R c s s'

/-- Something that counts is left of the thread. -/
def Counts (C : Process σ α → Prop) (t : Thread κ σ α) : Prop := ∃ q ∈ t.rest, C q

/-- The threads that count meet their specifications and allow each other's steps. -/
structure Sound (C : Process σ α → Prop) (E : σ → σ → Prop) (R G : κ → σ → σ → Prop)
    (Q : κ → α → σ → Prop) (p : Pool κ σ α) : Prop where
  meets : ∀ t ∈ p.threads, ∀ q ∈ t.rest, C q →
    q.Meets (R t.call) E (G t.call) (Q t.call) p.shared
  apart : p.threads.Pairwise fun t u => Counts C t → Counts C u → Apart E R G t.call u.call

section Sound

variable {C : Process σ α → Prop} {E : σ → σ → Prop} {R G : κ → σ → σ → Prop}
  {Q : κ → α → σ → Prop} {p : Pool κ σ α} {program : κ → Process σ α}

theorem Sound.init (s : σ) : Sound C E R G Q ({ shared := s } : Pool κ σ α) :=
  ⟨fun _ ht => (List.not_mem_nil ht).elim, List.Pairwise.nil⟩

/-- A call is started beside the threads that count. -/
theorem Sound.start (h : Sound C E R G Q p) {call : κ}
    (hmeets : (program call).Meets (R call) E (G call) (Q call) p.shared)
    (hapart : ∀ t ∈ p.threads, Counts C t → Apart E R G t.call call) :
    Sound C E R G Q { p with threads := p.threads ++ [⟨call, some (program call)⟩] } := by
  constructor
  · intro t ht q hq hc
    obtain ht | ht := List.mem_append.mp ht
    · exact h.meets t ht q hq hc
    · obtain rfl := List.mem_singleton.mp ht
      obtain rfl := Option.some.inj hq
      exact hmeets
  · refine List.pairwise_append.mpr ⟨h.apart, List.pairwise_singleton _ _,
      fun t ht u hu hct _ => ?_⟩
    obtain rfl := List.mem_singleton.mp hu
    exact hapart t ht hct

/-- What a thread is replaced by counts only if the thread did. -/
theorem Sound.apart_set (h : Sound C E R G Q p) {t t' : Thread κ σ α} (hi : p.threads[i]? = some t)
    (hcall : t'.call = t.call) (hcount : Counts C t' → Counts C t) :
    (p.threads.set i t').Pairwise fun t u => Counts C t → Counts C u →
    Apart E R G t.call u.call := by
  refine pairwise_set h.apart hi (fun u hu ht' hcu => ?_) fun u hu hcu ht' => ?_
  · exact hcall ▸ hu (hcount ht') hcu
  · exact hcall ▸ hu hcu (hcount ht')

/-- Two threads that count allow each other's steps. -/
theorem Sound.apart_of_ne (h : Sound C E R G Q p) {j : Nat} {t u : Thread κ σ α}
    (hi : p.threads[i]? = some t) (hj : p.threads[j]? = some u) (hij : i ≠ j) (ht : Counts C t)
    (hu : Counts C u) : ∀ s s', E s s' → G t.call s s' → R u.call s s' :=
  (of_pairwise h.apart (fun hs hx hy => ⟨(hs hy hx).2, (hs hy hx).1⟩) hi hj hij ht hu).1

/-- An access takes a step of its call. -/
theorem Sound.guarantee (h : Sound C E R G Q p) (hrefl : ∀ c s, R c s s)
    (hlive : ∀ q : Process σ α, q.Live → C q) {call : κ} {write : σ → σ} {next : σ → Process σ α}
    (hi : p.threads[i]? = some ⟨call, some (.access write next)⟩)
    (he : E p.shared (write p.shared)) : G call p.shared (write p.shared) :=
  (h.meets _ (List.mem_of_getElem? hi) _ rfl (hlive _ trivial) p.shared (hrefl call _) he).1

theorem Sound.access (h : Sound C E R G Q p) (hrefl : ∀ c s, R c s s)
    (htrans : ∀ c {s₁ s₂ s₃}, R c s₁ s₂ → R c s₂ s₃ → R c s₁ s₃)
    (hlive : ∀ q : Process σ α, q.Live → C q) {call : κ} {write : σ → σ} {next : σ → Process σ α}
    (hi : p.threads[i]? = some ⟨call, some (.access write next)⟩) (he : E p.shared (write p.shared))
    :
    Sound C E R G Q { shared := write p.shared
                      threads := p.threads.set i ⟨call, some (next p.shared)⟩ } := by
  have hcount : Counts C (⟨call, some (.access write next)⟩ : Thread κ σ α) :=
    ⟨_, rfl, hlive _ trivial⟩
  refine ⟨fun t ht q hq hc => ?_, h.apart_set hi rfl fun _ => hcount⟩
  obtain rfl | ⟨j, hij, hj⟩ := getElem?_of_mem_set ht
  · obtain rfl := Option.some.inj hq
    exact (h.meets _ (List.mem_of_getElem? hi) _ rfl (hlive _ trivial) p.shared (hrefl call _)
      he).2
  · have hstep := h.apart_of_ne hi hj hij hcount ⟨q, hq, hc⟩ _ _ he
      (h.guarantee hrefl hlive hi he)
    exact (h.meets t (List.mem_of_getElem? hj) q hq hc).rely (htrans t.call) hstep

theorem Sound.crash (h : Sound C E R G Q p) {t : Thread κ σ α} (hi : p.threads[i]? = some t) :
    Sound C E R G Q { p with threads := p.threads.set i ⟨t.call, none⟩ } := by
  refine ⟨fun u hu q hq hc => ?_, h.apart_set hi rfl fun ⟨q, hq, _⟩ => by cases hq⟩
  obtain rfl | ⟨j, -, hj⟩ := getElem?_of_mem_set hu
  · cases hq
  · exact h.meets u (List.mem_of_getElem? hj) q hq hc

/-- One action of the scheduler. -/
theorem Sound.act (h : Sound C E R G Q p) (program : κ → Process σ α) (hrefl : ∀ c s, R c s s)
    (htrans : ∀ c {s₁ s₂ s₃}, R c s₁ s₂ → R c s₂ s₃ → R c s₁ s₃)
    (hlive : ∀ q : Process σ α, q.Live → C q) {a : Action κ}
    (hallowed : E p.shared (p.act program a).shared)
    (hstart : ∀ call, a = .start call →
      (program call).Meets (R call) E (G call) (Q call) p.shared ∧
        ∀ t ∈ p.threads, Counts C t → Apart E R G t.call call) :
    Sound C E R G Q (p.act program a) ∧ ((p.act program a).shared = p.shared ∨
      ∃ t ∈ p.threads, G t.call p.shared (p.act program a).shared) := by
  revert hallowed
  refine act_cases (P := fun p' => E p.shared p'.shared → Sound C E R G Q p' ∧
    (p'.shared = p.shared ∨ ∃ t ∈ p.threads, G t.call p.shared p'.shared))
    (fun _ => ⟨h, .inl rfl⟩) ?_ ?_ ?_
  · exact fun call ha _ => ⟨h.start (hstart call ha).1 (hstart call ha).2, .inl rfl⟩
  · exact fun i call write next _ hi he => ⟨h.access hrefl htrans hlive hi he,
      .inr ⟨_, List.mem_of_getElem? hi, h.guarantee hrefl hlive hi he⟩⟩
  · exact fun i call write next _ hi _ => ⟨h.crash hi, .inl rfl⟩

end Sound

end Pool
