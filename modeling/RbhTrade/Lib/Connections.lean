import Mathlib.Logic.Function.Basic
import RbhTrade.Lib.Transaction

/-!
# Transactions on several connections

Connections to one database in write-ahead mode. A transaction runs statement by statement: its
first statement fixes the snapshot that it reads, its first write takes the only writer lock, and
the lock is refused to a transaction whose snapshot another commit has overtaken. A transaction
that waits for the lock before its first statement has no snapshot yet.

`serial_run` is the isolation theorem. Whatever the interleaving, each commit has the effect of its
transaction run alone on the state that the previous commits left. A transaction is known by a tag,
and its statements may be any that, run alone, do what the tag says.
-/

namespace Connections

variable {ε σ α τ κ : Type}

/-! ## Programs -/

/-- The statements of a transaction. A query hands what the transaction sees to the rest of it; an
update also hands on the state before it, from which a row count is read. -/
inductive Program (ε σ α : Type) where
  | commit (value : α)
  | abort (error : ε)
  | select (next : σ → Program ε σ α)
  | update (write : σ → Except ε σ) (next : σ → Program ε σ α)

/-- The program run alone. -/
def Program.run : Program ε σ α → Tx ε σ α
  | commit value => fun s => .ok (value, s)
  | abort error => fun _ => .error error
  | select next => fun s => (next s).run s
  | update write next => fun s =>
      match write s with
      | .ok s' => (next s).run s'
      | .error e => .error e

/-- Every transaction has a program: read everything, then write the result. -/
def Program.ofTx (m : Tx ε σ α) : Program ε σ α :=
  .select fun s =>
    match m s with
    | .ok (a, s') => .update (fun _ => .ok s') fun _ => .commit a
    | .error e => .abort e

theorem Program.run_ofTx (m : Tx ε σ α) : (Program.ofTx m).run = m := by
  funext s
  simp only [ofTx, run]
  cases m s with
  | ok x => rfl
  | error e => rfl

/-- A tagged transaction and statements that carry it out. -/
structure Job (meaning : τ → Tx ε σ α) where
  tag : τ
  program : Program ε σ α
  faithful : program.run = meaning tag

/-! ## Sessions -/

/-- A transaction that has a snapshot. `rest` is what is left of its program, `view` the snapshot
with its own writes. -/
structure Opened (ε σ α : Type) where
  snapshot : σ
  version : Nat
  rest : Program ε σ α
  view : σ
  writer : Bool

/-- The state of a connection. -/
inductive Session (meaning : τ → Tx ε σ α) where
  | idle
  | begun (job : Job meaning)
  | running (job : Job meaning) (o : Opened ε σ α)

/-- A commit: the state it found and the state it left. -/
structure Commit (meaning : τ → Tx ε σ α) where
  job : Job meaning
  before : σ
  after : σ

structure Server (κ : Type) (meaning : τ → Tx ε σ α) where
  committed : σ
  version : Nat := 0
  lock : Option κ := none
  session : κ → Session meaning := fun _ => .idle
  log : List (Commit meaning) := []

/-- What the scheduler does next. -/
inductive Action (κ : Type) (meaning : τ → Tx ε σ α) where
  | begin (c : κ) (job : Job meaning)
  | statement (c : κ)
  | rollback (c : κ)

variable [DecidableEq κ] {meaning : τ → Tx ε σ α}

namespace Server

/-- End the transaction of a connection without a commit. -/
def rollback (s : Server κ meaning) (c : κ) : Server κ meaning :=
  { s with
    lock := if s.lock = some c then none else s.lock
    session := Function.update s.session c .idle }

/-- Execute a write of a transaction that holds the lock. -/
def write (s : Server κ meaning) (c : κ) (job : Job meaning) (o : Opened ε σ α)
    (stmt : σ → Except ε σ) (next : σ → Program ε σ α) : Server κ meaning :=
  match stmt o.view with
  | .ok view =>
      { s with
        lock := some c
        session := Function.update s.session c
          (.running job { o with rest := next o.view, view := view, writer := true }) }
  | .error _ => s.rollback c

/-- The next statement of an opened transaction. A write waits while another connection holds the
lock, and fails if the snapshot is no longer the newest. -/
def exec (s : Server κ meaning) (c : κ) (job : Job meaning) (o : Opened ε σ α) :
    Server κ meaning :=
  match o.rest with
  | .commit _ =>
      if o.writer = true then
        { committed := o.view
          version := s.version + 1
          lock := none
          session := Function.update s.session c .idle
          log := s.log ++ [⟨job, s.committed, o.view⟩] }
      else s.rollback c
  | .abort _ => s.rollback c
  | .select next =>
      { s with
          session := Function.update s.session c (.running job { o with rest := next o.view }) }
  | .update stmt next =>
      if o.writer = true then s.write c job o stmt next
      else if s.lock ≠ none then s
      else if o.version ≠ s.version then s.rollback c
      else s.write c job o stmt next

/-- A transaction with a snapshot of the newest state. -/
def opened (s : Server κ meaning) (job : Job meaning) : Opened ε σ α :=
  { snapshot := s.committed, version := s.version, rest := job.program, view := s.committed,
    writer := false }

def step (s : Server κ meaning) : Action κ meaning → Server κ meaning
  | .begin c job =>
      match s.session c with
      | .idle => { s with session := Function.update s.session c (.begun job) }
      | _ => s
  | .statement c =>
      match s.session c with
      | .idle => s
      | .begun job => s.exec c job (s.opened job)
      | .running job o => s.exec c job o
  | .rollback c => s.rollback c

end Server

/-! ## Isolation -/

/-- The log is a serial history: each commit found the state that the one before it left, and did
what its transaction does alone. -/
def Serial (start : σ) : List (Commit meaning) → σ → Prop
  | [], s => s = start
  | e :: es, s => e.before = start ∧ (∃ a, meaning e.job.tag e.before = .ok (a, e.after)) ∧
      Serial e.after es s

theorem Serial.append {start s t : σ} {log : List (Commit meaning)} {job : Job meaning} {a : α}
    (h : Serial start log s) (hrun : meaning job.tag s = .ok (a, t)) :
    Serial start (log ++ [⟨job, s, t⟩]) t := by
  induction log generalizing start with
  | nil => exact ⟨h, ⟨a, hrun⟩, rfl⟩
  | cons e es ih => exact ⟨h.1, h.2.1, ih h.2.2⟩

/-- A commit of a serial history is a run of its transaction. -/
theorem Serial.commit {start s : σ} {log : List (Commit meaning)} {e : Commit meaning}
    (h : Serial start log s) (he : e ∈ log) : ∃ a,
    meaning e.job.tag e.before = .ok (a, e.after) := by
  induction log generalizing start with
  | nil => cases he
  | cons x es ih =>
      obtain rfl | he := List.mem_cons.mp he
      · exact h.2.1
      · exact ih h.2.2 he

/-- What an opened transaction knows: the rest of its program does to its view what the whole does
to its snapshot, and the snapshot is the committed state unless another commit has overtaken it. -/
structure Sound (s : Server κ meaning) (c : κ) (job : Job meaning) (o : Opened ε σ α) : Prop where
  run : job.program.run o.snapshot = o.rest.run o.view
  fresh : o.version = s.version → o.snapshot = s.committed
  past : o.version ≤ s.version
  holds : o.writer = true → s.lock = some c ∧ o.version = s.version

structure Inv (start : σ) (s : Server κ meaning) : Prop where
  sound : ∀ c job o, s.session c = .running job o → Sound s c job o
  serial : Serial start s.log s.committed

variable {start : σ} {s : Server κ meaning} {c : κ} {job : Job meaning} {o : Opened ε σ α}

omit [DecidableEq κ] in
theorem Inv.init (start : σ) : Inv start ({ committed := start } : Server κ meaning) :=
  ⟨fun _ _ _ h => (by cases h), rfl⟩

/-- A step that changes one session and commits nothing. -/
theorem Inv.update (h : Inv start s) (c : κ) (lock : Option κ) (x : Session meaning)
    (hlock : ∀ d, d ≠ c → s.lock = some d → lock = some d)
    (hx : ∀ job o, x = .running job o → Sound { s with lock := lock } c job o) :
    Inv start { s with lock := lock, session := Function.update s.session c x } := by
  refine ⟨fun d job o hd => ?_, h.serial⟩
  by_cases hdc : d = c
  · subst hdc
    simp only [Function.update_self] at hd
    obtain ⟨hrun, hfresh, hpast, hholds⟩ := hx job o hd
    exact ⟨hrun, hfresh, hpast, hholds⟩
  · simp only [Function.update_of_ne hdc] at hd
    obtain ⟨hrun, hfresh, hpast, hholds⟩ := h.sound d job o hd
    exact ⟨hrun, hfresh, hpast, fun hw => ⟨hlock d hdc (hholds hw).1, (hholds hw).2⟩⟩

theorem Inv.rollback (h : Inv start s) (c : κ) : Inv start (s.rollback c) := by
  refine h.update c _ .idle (fun d hd hl => ?_) fun job o hx => by cases hx
  rw [if_neg fun hc => hd (Option.some.inj (hl.symm.trans hc)), hl]

/-- A write by a transaction that holds the lock, or takes it with a current snapshot. -/
theorem Inv.write (h : Inv start s) (ho : Sound s c job o) {stmt : σ → Except ε σ}
    {next : σ → Program ε σ α} (hrest : o.rest = .update stmt next) (hver : o.version = s.version)
    (hlock : s.lock = none ∨ s.lock = some c) : Inv start (s.write c job o stmt next) := by
  unfold Server.write
  cases hw : stmt o.view with
  | error e => exact h.rollback c
  | ok view =>
      refine h.update c (some c) _ (fun d hd hl => ?_) fun job' o' hx => ?_
      · obtain hn | hc := hlock
        · rw [hn] at hl
          cases hl
        · exact absurd (Option.some.inj (hl.symm.trans hc)) hd
      · cases hx
        refine ⟨?_, ho.fresh, ho.past, fun _ => ⟨rfl, hver⟩⟩
        rw [ho.run, hrest]
        simp only [Program.run, hw]

/-- The commit of a writer: its snapshot is the committed state. -/
theorem Inv.commit (h : Inv start s) (ho : Sound s c job o) {a : α}
    (hrest : o.rest = .commit a) (hw : o.writer = true) :
    Inv start
      { committed := o.view, version := s.version + 1, lock := none,
        session := Function.update s.session c .idle,
        log := s.log ++ [⟨job, s.committed, o.view⟩] } := by
  have hcur := (ho.holds hw).2
  refine ⟨fun d job' o' hd => ?_, h.serial.append (a := a) ?_⟩
  · by_cases hdc : d = c
    · subst hdc
      simp only [Function.update_self] at hd
      cases hd
    · simp only [Function.update_of_ne hdc] at hd
      obtain ⟨hrun, -, hpast, hholds⟩ := h.sound d job' o' hd
      refine ⟨hrun, fun he => ?_, Nat.le_succ_of_le hpast, fun hw' => ?_⟩
      · simp only at he
        omega
      · -- another writer would hold the lock that the committing connection holds
        have := (hholds hw').1.symm.trans (ho.holds hw).1
        exact absurd (Option.some.inj this) hdc
  · rw [← job.faithful, ← ho.fresh hcur, ho.run, hrest]
    rfl

theorem Inv.exec (h : Inv start s) (ho : Sound s c job o) : Inv start (s.exec c job o) := by
  unfold Server.exec
  cases hrest : o.rest with
  | commit a =>
      by_cases hw : o.writer = true
      · simp only [hw, if_true]
        exact h.commit ho hrest hw
      · simp only [hw]
        exact h.rollback c
  | abort e => exact h.rollback c
  | select next =>
      refine h.update c s.lock _ (fun d _ hl => hl) fun job' o' hx => ?_
      cases hx
      refine ⟨?_, ho.fresh, ho.past, ho.holds⟩
      rw [ho.run, hrest]
      rfl
  | update stmt next =>
      by_cases hw : o.writer = true
      · simp only [hw, if_true]
        exact h.write ho hrest (ho.holds hw).2 (.inr (ho.holds hw).1)
      · by_cases hl : s.lock = none
        · by_cases hv : o.version = s.version
          · simp only [hw, hl, hv, ne_eq, not_true, if_false]
            exact h.write ho hrest hv (.inl hl)
          · simp only [hw, hl, hv, ne_eq, not_true, not_false_iff, if_false, if_true]
            exact h.rollback c
        · simp only [hw, hl, ne_eq, not_false_iff, if_true]
          exact h

theorem Inv.step (h : Inv start s) (a : Action κ meaning) : Inv start (s.step a) := by
  cases a with
  | begin c job =>
      simp only [Server.step]
      cases hs : s.session c with
      | idle => exact h.update c s.lock (.begun job) (fun d _ hl => hl) fun job o hx => by cases hx
      | begun job' => exact h
      | running job' o => exact h
  | statement c =>
      simp only [Server.step]
      cases hs : s.session c with
      | idle => exact h
      | begun job =>
          exact h.exec ⟨rfl, fun _ => rfl, Nat.le_refl _, fun hw => by cases hw⟩
      | running job o => exact h.exec (h.sound c job o hs)
  | rollback c => exact h.rollback c

/-- Isolation: the commits of any run form a serial history. -/
theorem serial_run (start : σ) (run : List (Action κ meaning)) :
    Serial start (run.foldl Server.step { committed := start }).log
      (run.foldl Server.step { committed := start }).committed := by
  have h : ∀ (s : Server κ meaning), Inv start s → Inv start (run.foldl Server.step s) := by
    induction run with
    | nil => exact fun s h => h
    | cons a as ih => exact fun s h => ih _ (h.step a)
  exact (h _ (Inv.init start)).serial

end Connections
