import RbhTrade.Feed.Retractions
import RbhTrade.Lib.Run

/-!
# The sequencer runner

The client delivers the transactions of the feed in order, each to a `Handle` call that commits it
with the number of its sequence. A crash ends the session at any point. The next one starts at
`ResumeSequence`, one sequence before the largest number committed, so that it meets the rest of a
sequence in which the last session stopped. A reorg replaces the feed from a sequence on that the
client has received, and its callback sets the number back to that sequence.

A session never passes a transaction that is not committed (`Covered`), with two exceptions:
sequence zero has no sequence before it, and a callback that fails does not set the number back.
-/

namespace RbhTrade.Feed

open GoTime Tables

/-- `ResumeSequence`. -/
def resumeSequence (db : FeedDb) : Option Nat :=
  match db.progress.observedSequence with
  | none => none
  | some observed => some (if 0 < observed then observed - 1 else 0)

/-- A transaction of the feed, as the observations that `Normalize` makes of it. -/
structure FeedTransaction where
  observations : List Observation
deriving DecidableEq

/-- Where a session is: the message it is in, and how many of its transactions are handled. -/
structure Session where
  sequence : Nat
  done : Nat
deriving DecidableEq

/-- The canonical feed, the store and the session. Beside them stand the positions of the
transactions of the feed whose `Handle` call has committed. -/
structure Runner where
  feed : Nat → List FeedTransaction
  db : FeedDb := {}
  session : Option Session := none
  committed : List (Nat × Nat) := []

inductive RunnerAct where
  /-- A session starts, with `ResumeSequence` as its initial sequence. -/
  | start
  /-- The client delivers the next transaction, or goes on to the next message. -/
  | deliver (lost : Observation → Nat) (now : Instant)
  /-- The process stops, before or after any commit. -/
  | crash
  /-- The client reports that another feed continues from the sequence on; the callback may fail. -/
  | reorg (reorg : Reorg) (feed : Nat → List FeedTransaction) (fault : Bool) (lost : Nat → Nat)
      (now : Instant)
  /-- A commit of the receipt processor. -/
  | receipt (observations : List (Observation × Nat)) (snapshot : String) (now : Instant)

/-- A session delivers the messages above its initial sequence, all of them if there is none. -/
def Session.first : Option Nat → Session
  | none => ⟨0, 0⟩
  | some initial => ⟨initial + 1, 0⟩

/-- `Handle`. An error ends the session. -/
def Runner.handle (host : FeedHost) (s : Runner) (σ : Session) (tx : FeedTransaction)
    (lost : Observation → Nat) (now : Instant) : Runner :=
  match commitSequencer host (tx.observations.map fun o => (o, lost o)) σ.sequence now s.db with
  | .ok (_, db) =>
      { s with db := db, session := some ⟨σ.sequence, σ.done + 1⟩,
               committed := (σ.sequence, σ.done) :: s.committed }
  | .error _ => { s with session := none }

def Runner.step (host : FeedHost) (s : Runner) : RunnerAct → Runner
  | .start =>
      match s.session with
      | some _ => s
      | none => { s with session := some (Session.first (resumeSequence s.db)) }
  | .deliver lost now =>
      match s.session with
      | none => s
      | some σ =>
          match (s.feed σ.sequence)[σ.done]? with
          | none => { s with session := some ⟨σ.sequence + 1, 0⟩ }
          | some tx => s.handle host σ tx lost now
  | .crash => { s with session := none }
  | .reorg reorg feed fault lost now =>
      match s.session with
      | none => s
      | some σ =>
          -- only a message that the client has received can be replaced
          if σ.sequence < reorg.sequenceNumber then s
          else { s with
            feed := fun n => if n < reorg.sequenceNumber then s.feed n else feed n,
            db := if fault then s.db
              else (retractSequencerSequence host reorg lost now).stateAfter s.db,
            session := none,
            committed := s.committed.filter fun p => p.1 < reorg.sequenceNumber }
  | .receipt observations snapshot now =>
      { s with db := (commitReceipt host observations snapshot now).stateAfter s.db }

/-- All transactions of the sequence are committed. -/
def Runner.Whole (s : Runner) (n : Nat) : Prop :=
  ∀ i < (s.feed n).length, (n, i) ∈ s.committed

instance (s : Runner) (n : Nat) : Decidable (s.Whole n) :=
  inferInstanceAs (Decidable (∀ i < (s.feed n).length, _))

/-- The store has what a retraction asks for: numbers that its columns hold, rowids for the
compensations, and candidates that compensations can be made of. -/
def Retractable (host : FeedHost) (reorg : Reorg) (lost : Nat → Nat) (now : Instant) (db : FeedDb) :
    Prop :=
  reorg.sequenceNumber ≤ maxRowid ∧
    db.sequence + ((db.orphanCandidates reorg).map fun e => lost e.offset + 1).sum ≤ maxRowid ∧
    ∀ e ∈ db.orphanCandidates reorg,
      (e.txHash.utf8ByteSize = 66 ∧ e.txHash.toList.take 2 = ['0', 'x']) ∧
        (compensation reorg e now).Valid host
deriving Decidable

/-- A session does not start while only transactions of sequence zero are committed, unless all of
them are, and the callback of a reorg does not fail. -/
def Runner.Resumable (host : FeedHost) (s : Runner) : RunnerAct → Prop
  | .start => s.db.progress.observedSequence = some 0 → s.Whole 0
  | .reorg reorg _ fault lost now => fault = false ∧ Retractable host reorg lost now s.db
  | _ => True

instance (host : FeedHost) (s : Runner) (a : RunnerAct) : Decidable (s.Resumable host a) := by
  cases a <;> unfold Runner.Resumable <;> infer_instance

/-! ## What commits and retractions do to the store -/

section Store

variable {host : FeedHost} {db db' : FeedDb} {now : Instant}

/-- A commit for a sequence raises the largest one to it. -/
theorem commitSequencer_observedSequence {os : List (Observation × Nat)} {n : Nat}
    {result : CommitResult} (h : commitSequencer host os n now db = .ok (result, db')) :
    db'.progress.observedSequence = some (max n (db.progress.observedSequence.getD 0)) := by
  obtain ⟨-, h⟩ := Tx.require_bind_ok.mp h
  obtain ⟨r, db₁, heach, h⟩ := Tx.bind_ok.mp h
  simp only [Tx.query_bind, Tx.require_bind_ok, Tx.exec_bind, Tx.pure_ok] at h
  obtain ⟨-, -, rfl⟩ := h
  rw [(commitEach_frame heach).1]
  cases db.progress.observedSequence with
  | none => simp
  | some old =>
      simp only [Option.getD_some, Option.some.injEq]
      split <;> omega

theorem commitReceipt_observedSequence {os : List (Observation × Nat)} {snapshot : String}
    {result : CommitResult} (h : commitReceipt host os snapshot now db = .ok (result, db')) :
    db'.progress.observedSequence = db.progress.observedSequence := by
  obtain ⟨-, h⟩ := Tx.require_bind_ok.mp h
  obtain ⟨r, db₁, heach, h⟩ := Tx.bind_ok.mp h
  simp only [Tx.query_bind, Tx.require_bind_ok, Tx.exec_bind, Tx.pure_ok] at h
  obtain ⟨-, -, rfl⟩ := h
  rw [(commitEach_frame heach).1]

/-- A retraction sets the largest sequence back to its own. -/
theorem retract_observedSequence {reorg : Reorg} {lost : Nat → Nat} {k : Nat}
    (h : retractSequencerSequence host reorg lost now db = .ok (k, db')) :
    ∃ n ≤ reorg.sequenceNumber, db'.progress.observedSequence = some n := by
  simp only [retractSequencerSequence, Tx.query_bind, id, Tx.require_bind_ok] at h
  obtain ⟨-, h⟩ := h
  obtain ⟨r, db₁, heach, h⟩ := Tx.bind_ok.mp h
  simp only [Tx.require_bind_ok, Tx.exec_bind, Tx.pure_ok] at h
  obtain ⟨-, -, rfl⟩ := h
  rw [(retractEach_frame heach).1]
  cases db.progress.observedSequence with
  | none => exact ⟨reorg.sequenceNumber, Nat.le_refl _, rfl⟩
  | some old =>
      refine ⟨_, ?_, rfl⟩
      split <;> omega

/-- Offsets of the outbox are rowids that were given. -/
def FeedDb.Given (db : FeedDb) : Prop := ∀ r ∈ db.outbox, r.offset ≤ db.sequence

theorem publish_given {o : Observation} {lost : Nat} :
    Tx.Preserves FeedDb.Given (publish host o lost) := by
  intro db r db' h hok
  rcases publish_ok hok with ⟨-, -, rfl⟩ | ⟨-, -, rfl⟩
  · exact fun r hr => Nat.le_trans (h r hr) (Nat.le_add_right _ _)
  · exact List.forall_mem_append.mpr ⟨fun r hr => Nat.le_succ_of_le (h r hr),
      List.forall_mem_singleton.mpr (Nat.le_refl _)⟩

theorem commit_given {os : List (Observation × Nat)} {observed : Option Nat}
    {snapshot : Option String} :
    Tx.Preserves FeedDb.Given (commit host os observed snapshot now) :=
  commit_preserves (fun _ _ _ h => h) fun _ _ _ => publish_given

theorem retract_given {reorg : Reorg} {lost : Nat → Nat} :
    Tx.Preserves FeedDb.Given (retractSequencerSequence host reorg lost now) :=
  retract_preserves (fun _ _ _ h => h) fun _ => retractOne_preserves (fun _ h => h) publish_given

theorem publish_commits {o : Observation} {lost : Nat} (h : db.Given)
    (hroom : db.sequence + 1 ≤ maxRowid) : ∃ r db', publish host o lost db = .ok (r, db') ∧
      db'.sequence ≤ db.sequence + (lost + 1) := by
  by_cases hstored : db.Stores (o.id host)
  · refine ⟨none, { db with sequence := db.sequence + lost }, ?_, by simp only; omega⟩
    simp only [publish, insertEvent, bind_assoc, Tx.query_bind, id, if_pos hstored]
    rfl
  · refine ⟨some (db.sequence + 1), db.push (eventOf host o (db.sequence + 1)), ?_,
      Nat.add_le_add_left (Nat.le_add_left _ _) _⟩
    have hfree : ∀ r ∈ db.outbox, r.offset ≠ db.sequence + 1 := fun r hr =>
      Nat.ne_of_lt (Nat.lt_succ_of_le (h r hr))
    simp only [publish, insertEvent, insertOutbox, bind_assoc, Tx.query_bind, id, if_neg hstored,
      Tx.require_bind_ok, Tx.exec_bind, Tx.pure_bind_apply, Tx.pure_ok]
    exact ⟨hroom, hfree, trivial, rfl⟩

theorem retractEach_commits {reorg : Reorg} {lost : Nat → Nat} {es : List FeedEvent}
    (h : db.Given) (hroom : db.sequence + (es.map fun e => lost e.offset + 1).sum ≤ maxRowid)
    (hvalid : ∀ e ∈ es, (compensation reorg e now).Valid host) (result : CommitResult) :
    Tx.Commits (retractEach host reorg now lost es result) db := by
  induction es generalizing db result with
  | nil => exact ⟨_, _, rfl⟩
  | cons e es ih =>
      obtain ⟨he, hrest⟩ := List.forall_mem_cons.mp hvalid
      rw [List.map_cons, List.sum_cons] at hroom
      obtain ⟨r, db₁, hok, hle⟩ : ∃ r db₁,
          retractOne host reorg e (lost e.offset) now db = .ok (r, db₁) ∧
            db₁.sequence ≤ db.sequence + (lost e.offset + 1) := by
        simp only [retractOne, Tx.query_bind, Tx.exec_bind, id]
        split
        · exact ⟨none, db.markOrphaned e.offset, rfl, Nat.le_add_right _ _⟩
        · rw [Tx.require_bind_of he]
          have hmarked : (db.markOrphaned e.offset).Given := h
          have hnext : (db.markOrphaned e.offset).sequence + 1 ≤ maxRowid := by
            show db.sequence + 1 ≤ maxRowid
            omega
          exact publish_commits hmarked hnext
      have hgiven := retractOne_preserves (fun _ h => h) publish_given h hok
      exact .bind hok (ih hgiven (by omega) hrest _)

theorem retract_commits {reorg : Reorg} {lost : Nat → Nat} (h : db.Given)
    (hdb : Retractable host reorg lost now db) :
    Tx.Commits (retractSequencerSequence host reorg lost now) db := by
  obtain ⟨hsequence, hroom, hcandidates⟩ := hdb
  obtain ⟨r, db₁, hok⟩ := retractEach_commits h hroom (fun e he => (hcandidates e he).2) {}
  exact .query (.require (fun e he => (hcandidates e he).1) (.bind hok
    (.require hsequence ⟨_, _, rfl⟩)))

end Store

/-! ## No session passes a transaction -/

variable {host : FeedHost} {s : Runner}

/-- What is behind the largest sequence of the store and behind the session is committed, a
committed transaction of the feed is stored, and the outbox has rowids that were given. -/
structure Covered (host : FeedHost) (s : Runner) : Prop where
  store : ∀ observed ∈ s.db.progress.observedSequence, ∀ n < observed, s.Whole n
  session : ∀ σ ∈ s.session, (∀ n < σ.sequence, s.Whole n) ∧
    ∀ i < σ.done, (σ.sequence, i) ∈ s.committed
  stored : ∀ n i tx, (n, i) ∈ s.committed → (s.feed n)[i]? = some tx →
    ∀ o ∈ tx.observations, s.db.Stores (o.id host)
  given : s.db.Given

theorem Covered.stop (h : Covered host s) : Covered host { s with session := none } where
  store := h.store
  session := by simp
  stored := h.stored
  given := h.given

theorem Covered.start (h : Covered host s)
    (hzero : s.db.progress.observedSequence = some 0 → s.Whole 0) :
    Covered host { s with session := some (Session.first (resumeSequence s.db)) } where
  store := h.store
  stored := h.stored
  given := h.given
  session := by
    intro σ hσ
    obtain rfl := Option.some.inj hσ
    have hnone : ∀ n, ∀ i < 0, (n, i) ∈ s.committed := fun _ i hi => absurd hi (Nat.not_lt_zero i)
    unfold resumeSequence
    cases hobserved : s.db.progress.observedSequence with
    | none => exact ⟨fun n hn => absurd hn (Nat.not_lt_zero n), hnone _⟩
    | some observed =>
        refine ⟨fun n hn => ?_, hnone _⟩
        cases observed with
        | zero =>
            obtain rfl : n = 0 := Nat.lt_one_iff.mp hn
            exact hzero hobserved
        | succ m => exact h.store _ hobserved n hn

/-- A message whose transactions are all handled is behind the session. -/
theorem Covered.next (h : Covered host s) {σ : Session} (hσ : s.session = some σ)
    (hend : (s.feed σ.sequence)[σ.done]? = none) :
    Covered host { s with session := some ⟨σ.sequence + 1, 0⟩ } where
  store := h.store
  stored := h.stored
  given := h.given
  session := by
    intro τ hτ
    obtain rfl := Option.some.inj hτ
    obtain ⟨hbefore, hdone⟩ := h.session σ hσ
    refine ⟨fun n hn => ?_, fun i hi => absurd hi (Nat.not_lt_zero i)⟩
    rcases Nat.lt_succ_iff_lt_or_eq.mp hn with hlt | rfl
    · exact hbefore n hlt
    · intro i hi
      have hlen := List.getElem?_eq_none_iff.mp hend
      exact hdone i (Nat.lt_of_lt_of_le hi hlen)

theorem Covered.handle (h : Covered host s) {σ : Session} (hσ : s.session = some σ)
    {tx : FeedTransaction} (htx : (s.feed σ.sequence)[σ.done]? = some tx)
    (lost : Observation → Nat) (now : Instant) : Covered host (s.handle host σ tx lost now) := by
  unfold Runner.handle
  split
  · rename_i result db hok
    obtain ⟨hbefore, hdone⟩ := h.session σ hσ
    have hwhole : ∀ n, s.Whole n → ∀ i < (s.feed n).length,
        (n, i) ∈ (σ.sequence, σ.done) :: s.committed := fun n hn i hi =>
      List.mem_cons_of_mem _ (hn i hi)
    refine ⟨?_, ?_, ?_, commit_given h.given hok⟩
    · intro observed hobserved n hn
      rw [commitSequencer_observedSequence hok] at hobserved
      obtain rfl := Option.some.inj hobserved
      rcases lt_max_iff.mp hn with hlt | hlt
      · exact hwhole n (hbefore n hlt)
      · cases hold : s.db.progress.observedSequence with
        | none => simp [hold] at hlt
        | some old => exact hwhole n (h.store old hold n (by simpa [hold] using hlt))
    · intro τ hτ
      obtain rfl := Option.some.inj hτ
      refine ⟨fun n hn => hwhole n (hbefore n hn), fun i hi => ?_⟩
      rcases Nat.lt_succ_iff_lt_or_eq.mp hi with hlt | rfl
      · exact List.mem_cons_of_mem _ (hdone i hlt)
      · exact List.mem_cons_self
    · intro n i tx' hmem htx' o ho
      rcases List.mem_cons.mp hmem with heq | hold
      · obtain ⟨rfl, rfl⟩ := Prod.mk.inj heq
        obtain rfl := Option.some.inj (htx.symm.trans htx')
        exact (commit_ok hok).2.2 (o, lost o) (List.mem_map_of_mem ho)
      · exact commit_exists (h.stored n i tx' hold htx' o ho) hok
  · exact h.stop

theorem Covered.reorg (h : Covered host s) {σ : Session} (hσ : s.session = some σ) {reorg : Reorg}
    (hreceived : reorg.sequenceNumber ≤ σ.sequence) {feed : Nat → List FeedTransaction}
    {lost : Nat → Nat} {now : Instant} {k : Nat} {db : FeedDb}
    (hok : retractSequencerSequence host reorg lost now s.db = .ok (k, db)) :
    Covered host { s with
      feed := fun n => if n < reorg.sequenceNumber then s.feed n else feed n, db := db,
      session := none, committed := s.committed.filter fun p => p.1 < reorg.sequenceNumber } where
  session := by simp
  given := retract_given h.given hok
  store := by
    obtain ⟨m, hm, hobserved⟩ := retract_observedSequence hok
    intro observed hmem n hn i hi
    obtain rfl := Option.some.inj (hobserved.symm.trans hmem)
    have hlt : n < reorg.sequenceNumber := Nat.lt_of_lt_of_le hn hm
    -- the session has the whole of what the reorg leaves
    have hwhole := (h.session σ hσ).1 n (Nat.lt_of_lt_of_le hlt hreceived)
    replace hi : i < (s.feed n).length := by simpa only [if_pos hlt] using hi
    exact List.mem_filter.mpr ⟨hwhole i hi, decide_eq_true hlt⟩
  stored := by
    intro n i tx hmem htx o ho
    obtain ⟨hmem, hlt⟩ := List.mem_filter.mp hmem
    simp only [if_pos (of_decide_eq_true hlt)] at htx
    exact retract_exists (fun _ h => h) (h.stored n i tx hmem htx o ho) hok

theorem Covered.receipt (h : Covered host s) (os : List (Observation × Nat)) (snapshot : String)
    (now : Instant) :
    Covered host { s with db := (commitReceipt host os snapshot now).stateAfter s.db } := by
  refine Tx.stateAfter_cases (fun db => Covered host { s with db := db }) h fun result db hok =>
    ⟨?_, h.session, ?_, commit_given h.given hok⟩
  · intro observed hobserved
    rw [commitReceipt_observedSequence hok] at hobserved
    exact h.store observed hobserved
  · intro n i tx hmem htx o ho
    exact commit_exists (h.stored n i tx hmem htx o ho) hok

theorem Covered.step (h : Covered host s) {a : RunnerAct} (ha : s.Resumable host a) :
    Covered host (s.step host a) := by
  cases a with
  | start =>
      simp only [Runner.step]
      split
      · exact h
      · exact h.start ha
  | deliver lost now =>
      simp only [Runner.step]
      split
      · exact h
      · rename_i σ hσ
        split
        · exact h.next hσ ‹_›
        · exact h.handle hσ ‹_› lost now
  | crash => exact h.stop
  | reorg reorg feed fault lost now =>
      simp only [Runner.step]
      split
      · exact h
      · rename_i σ hσ
        split
        · exact h
        · rename_i hreceived
          obtain ⟨k, db, hok⟩ := retract_commits h.given ha.2
          rw [ha.1, if_neg Bool.false_ne_true, Tx.stateAfter_ok hok]
          exact h.reorg hσ (Nat.not_lt.mp hreceived) hok
  | receipt os snapshot now => exact h.receipt os snapshot now

/-- In every run of sessions, crashes and reorgs in which no session starts with sequence zero
committed in part and no callback fails, each transaction of the canonical feed is committed,
with its observations stored, or the session has yet to deliver it. -/
theorem restart_redelivers_uncommitted (host : FeedHost) (feed : Nat → List FeedTransaction)
    (acts : List RunnerAct)
    (hacts : Run.Along (Runner.step host) (Runner.Resumable host) { feed := feed } acts)
    (σ : Session) (hσ : (acts.foldl (Runner.step host) { feed := feed }).session = some σ)
    (n i : Nat) (tx : FeedTransaction)
    (htx : ((acts.foldl (Runner.step host) { feed := feed }).feed n)[i]? = some tx) :
    ((n, i) ∈ (acts.foldl (Runner.step host) { feed := feed }).committed ∧
      ∀ o ∈ tx.observations,
        (acts.foldl (Runner.step host) { feed := feed }).db.Stores (o.id host)) ∨
    σ.sequence < n ∨ (σ.sequence = n ∧ σ.done ≤ i) := by
  have h : Covered host (acts.foldl (Runner.step host) { feed := feed }) :=
    hacts.foldl ⟨by simp, by simp, by simp, by simp [FeedDb.Given]⟩ fun s a hs ha => hs.step ha
  obtain ⟨hbefore, hdone⟩ := h.session σ hσ
  have hlt := (List.getElem?_eq_some_iff.mp htx).1
  have hcommitted : (n < σ.sequence ∨ n = σ.sequence ∧ i < σ.done) →
      (n, i) ∈ (acts.foldl (Runner.step host) { feed := feed }).committed := by
    rintro (hn | ⟨rfl, hi⟩)
    · exact hbefore n hn i hlt
    · exact hdone i hi
  by_cases hpassed : n < σ.sequence ∨ n = σ.sequence ∧ i < σ.done
  · exact .inl ⟨hcommitted hpassed, h.stored n i tx (hcommitted hpassed) htx⟩
  · right
    omega

/-! ### Sequences of two transactions -/

def twoIntents (sequence : Nat) : List FeedTransaction :=
  [⟨[intentAt sequence "intent/a"]⟩, ⟨[intentAt sequence "intent/b"]⟩]

/-- A feed with two transactions in the sequence. -/
def onlyAt (sequence n : Nat) : List FeedTransaction :=
  if n = sequence then twoIntents sequence else []

/-- A session that stops after the first of two transactions, and the next one. -/
def interrupted : List RunnerAct :=
  [.start, .deliver (fun _ => 0) 1, .deliver (fun _ => 0) 1, .crash, .start]

/-- The second session is before the transaction that the first one did not commit. -/
theorem interrupted_at_one :
    let s := interrupted.foldl (Runner.step sampleHost) { feed := onlyAt 1 }
    s.session = some ⟨1, 0⟩ ∧ (1, 0) ∈ s.committed ∧ (1, 1) ∉ s.committed ∧
      ∀ n i tx, (s.feed n)[i]? = some tx → (n, i) ∈ s.committed ∨ 1 < n ∨ 1 = n ∧ 0 ≤ i := by
  have hsession : (interrupted.foldl (Runner.step sampleHost) { feed := onlyAt 1 }).session =
      some ⟨1, 0⟩ := by decide +kernel
  refine ⟨hsession, by decide +kernel, by decide +kernel, fun n i tx htx => ?_⟩
  exact (restart_redelivers_uncommitted sampleHost (onlyAt 1) interrupted (by decide +kernel) ⟨1, 0⟩
    hsession n i tx htx).imp_left And.left

/-- In sequence zero the second session has passed it: it waits for the messages after that. -/
theorem interrupted_at_zero :
    let s := [.start, .deliver (fun _ => 0) 1, .crash, .start].foldl (Runner.step sampleHost)
      { feed := onlyAt 0 }
    s.session = some ⟨1, 0⟩ ∧ s.feed 0 = twoIntents 0 ∧ (0, 0) ∈ s.committed ∧
      (0, 1) ∉ s.committed ∧ ∀ o ∈ [intentAt 0 "intent/b"],
        ¬ s.db.Stores (o.id sampleHost) := by
  decide +kernel

end RbhTrade.Feed
