import RbhTrade.Lib.Connections
import RbhTrade.Store.ControlledRecovery
import RbhTrade.Store.ControlledSubmission

/-!
# Fenced commits

The transactions that a worker runs under a lease, on any number of connections beside any other
transactions, lease takeovers among them. The recovery fence only reads the lease, in a transaction
that takes the writer lock later; the submission fence takes the lock with its first statement.
Both rest on the isolation theorem of `Lib.Connections`: a commit is a run of its transaction on the
state that the commits before it left, and in that state the fence found its lease.
-/

namespace RbhTrade.Fencing

open Tables GoTime Connections

/-- A transaction and the values it was called with. The clock is the value that the fence's clock
returns inside the transaction, and `recheck` the one it returns when a MANUAL transaction asks
again. `other` is any transaction without a fence. -/
inductive Call where
  | observeReceiptFenced (a : SignedArtifact) (r : ReceiptObservation) (now : Instant)
      (lease : LeaseFence) (clock recheck : Instant)
  | canonicalizeFenced (a : SignedArtifact) (r : ReceiptObservation) (effect : Option EffectFacts)
      (now : Instant) (lease : LeaseFence) (clock recheck : Instant)
  | orphanFenced (a : SignedArtifact) (r : ReceiptObservation) (now : Instant)
      (lease : LeaseFence) (clock recheck : Instant)
  | recordControlledRecoveryEvidence (item : ControlledRecoveryItem)
      (evidence : ControlledRecoveryEvidence) (classification : RecoveryClassification)
      (lease : LeaseFence) (now : Instant)
  | beginControlledSubmissionAfterGate (v : RuntimeGateSnapshot) (work : ControlledSubmissionWork)
      (lease : LeaseFence) (clock now : Instant)
  | markControlledSendIntent (work : ControlledSubmissionWork) (v : RuntimeGateSnapshot)
      (sub : SubmissionRecord) (lease : LeaseFence) (clock now : Instant)
  | sendControlledPrepared (work : ControlledSubmissionWork) (v : RuntimeGateSnapshot)
      (sub : SubmissionRecord) (artifact : SignedArtifact) (lease : LeaseFence)
      (clock now : Instant) (answer : Answer)
  | recoverControlledInflight (lease : LeaseFence) (clock now : Instant)
  | other (tx : Tx Err Db Unit)

/-- What a call does alone. The send transaction is open while the node answers. -/
def Call.meaning (host : Host) (views : ManualViews) : Call → Tx Err Db Unit
  | observeReceiptFenced a r now lease clock recheck => do
      let _ ← RbhTrade.observeReceiptFenced host views a r now (some lease) clock recheck
  | canonicalizeFenced a r effect now lease clock recheck =>
      RbhTrade.canonicalizeFenced host views a r effect now (some lease) clock recheck
  | orphanFenced a r now lease clock recheck =>
      RbhTrade.orphanFenced host views a r now (some lease) clock recheck
  | recordControlledRecoveryEvidence item evidence classification lease now =>
      RbhTrade.recordControlledRecoveryEvidence host views item evidence classification lease now
  | beginControlledSubmissionAfterGate v work lease clock now => do
      let _ ← (RbhTrade.beginControlledSubmissionAfterGate host v work lease clock now).mapErr
        (·.err)
  | markControlledSendIntent work v sub lease clock now =>
      RbhTrade.markControlledSendIntent host work v sub lease clock now
  | sendControlledPrepared work v sub artifact lease clock now answer => do
      if (← controlledSendGateTx host work v sub artifact lease clock now) = true then
        controlledSendOutcomeTx host work sub artifact now answer
  | recoverControlledInflight lease clock now =>
      RbhTrade.recoverControlledInflight lease clock now
  | other tx => tx

/-- The fence of a call and the clock value it compared with the expiry. -/
def Call.fence : Call → Option (LeaseRole × LeaseFence × Instant)
  | observeReceiptFenced _ _ _ lease clock _ => some (.recovery, lease, clock)
  | canonicalizeFenced _ _ _ _ lease clock _ => some (.recovery, lease, clock)
  | orphanFenced _ _ _ lease clock _ => some (.recovery, lease, clock)
  | recordControlledRecoveryEvidence _ _ _ lease now => some (.recovery, lease, now)
  | beginControlledSubmissionAfterGate _ _ lease clock _ => some (.submission, lease, clock)
  | markControlledSendIntent _ _ _ lease clock _ => some (.submission, lease, clock)
  | sendControlledPrepared _ _ _ _ lease clock _ _ => some (.submission, lease, clock)
  | recoverControlledInflight lease clock _ => some (.submission, lease, clock)
  | other _ => none

/-! ## Each transaction checks its fence -/

section

variable {host : Host} {views : ManualViews} {lease : LeaseFence} {clock : Instant} {db db' : Db}

theorem leaseCurrent_of_submission {α : Type} {a : α} {k : Unit → Tx Err Db α}
    (h : (assertSubmissionLeaseTx lease clock >>= k) db = .ok (a, db')) :
    db.LeaseCurrent .submission lease clock := by
  obtain ⟨_, _, hl, -⟩ := Tx.bind_ok.mp h
  exact (assertSubmissionLeaseTx_ok hl).2

theorem leaseCurrent_of_recovery {α : Type} {a : α} {k : Unit → Tx Err Db α}
    (h : (assertRecoveryLeaseTx (some lease) clock >>= k) db = .ok (a, db')) :
    db.LeaseCurrent .recovery lease clock := by
  obtain ⟨_, _, hl, -⟩ := Tx.bind_ok.mp h
  exact assertRecoveryLeaseTx_current hl

/-- A transaction that starts with the fence of a MANUAL recovery. -/
theorem leaseCurrent_of_lock {α : Type} {a : α} {k : LeaseFence → Tx Err Db α}
    (h : (lockManualRecoveryTx (some lease) clock >>= k) db = .ok (a, db')) :
    db.LeaseCurrent .recovery lease clock := by
  obtain ⟨fence, _, hl, -⟩ := Tx.bind_ok.mp h
  simp only [lockManualRecoveryTx, Tx.expect_bind_ok, Tx.require_bind_ok, Tx.query_bind,
    Option.some.injEq] at hl
  obtain ⟨f, rfl, -, -, hl⟩ := hl
  exact leaseCurrent_of_recovery hl

variable {a : SignedArtifact} {r : ReceiptObservation}

/-- A recovery transaction that takes the MANUAL or the legacy path. Each checks the fence before it
writes. -/
theorem leaseCurrent_of_source {α : Type} {b : α} {k : Bool → Tx Err Db α}
    (h : (manualRecoverySourceTx views a >>= k) db = .ok (b, db'))
    (hk : ∀ manual db₁, k manual db = .ok (b, db₁) → db.LeaseCurrent .recovery lease clock) :
    db.LeaseCurrent .recovery lease clock := by
  obtain ⟨manual, db₁, hs, h⟩ := Tx.bind_ok.mp h
  obtain ⟨rfl, -⟩ := manualRecoverySourceTx_ok hs
  exact hk manual db' h

theorem observe_fenced {r' : ReceiptObservation} {now recheck : Instant}
    (h : observeReceiptFenced host views a r now (some lease) clock recheck db = .ok (r', db')) :
    db.LeaseCurrent .recovery lease clock := by
  simp only [observeReceiptFenced, Tx.require_bind_ok] at h
  refine leaseCurrent_of_source h.2 fun manual db₁ hm => ?_
  cases manual with
  | true =>
      obtain ⟨_, _, hobs, -⟩ := Tx.bind_ok.mp hm
      exact leaseCurrent_of_lock hobs
  | false => exact leaseCurrent_of_recovery hm

theorem canonicalize_fenced {effect : Option EffectFacts} {now recheck : Instant} {u : Unit}
    (h : canonicalizeFenced host views a r effect now (some lease) clock recheck db =
      .ok (u, db')) : db.LeaseCurrent .recovery lease clock := by
  refine leaseCurrent_of_source h fun manual db₁ hm => ?_
  cases manual with
  | true =>
      obtain ⟨_, _, htrans, -⟩ := Tx.bind_ok.mp hm
      exact leaseCurrent_of_lock htrans
  | false => exact leaseCurrent_of_recovery hm

theorem orphan_fenced {now recheck : Instant} {u : Unit}
    (h : orphanFenced host views a r now (some lease) clock recheck db = .ok (u, db')) :
    db.LeaseCurrent .recovery lease clock := by
  refine leaseCurrent_of_source h fun manual db₁ hm => ?_
  cases manual with
  | true =>
      obtain ⟨_, _, htrans, -⟩ := Tx.bind_ok.mp hm
      exact leaseCurrent_of_lock htrans
  | false => exact leaseCurrent_of_recovery hm

/-- Whatever a fenced call commits, it found its lease current. -/
theorem leaseCurrent_of_meaning {call : Call} {role : LeaseRole} {u : Unit}
    (hf : call.fence = some (role, lease, clock)) (h : call.meaning host views db = .ok (u, db')) :
    db.LeaseCurrent role lease clock := by
  cases call with
  | observeReceiptFenced a r now l k recheck =>
      cases hf
      obtain ⟨_, _, h, -⟩ := Tx.bind_ok.mp h
      exact observe_fenced h
  | canonicalizeFenced a r effect now l k recheck =>
      cases hf
      exact canonicalize_fenced h
  | orphanFenced a r now l k recheck =>
      cases hf
      exact orphan_fenced h
  | recordControlledRecoveryEvidence item evidence classification l now =>
      cases hf
      simp only [Call.meaning, recordControlledRecoveryEvidence, Tx.require_bind_ok] at h
      exact leaseCurrent_of_lock h.2
  | beginControlledSubmissionAfterGate v work l k now =>
      cases hf
      obtain ⟨_, _, h, -⟩ := Tx.bind_ok.mp h
      obtain ⟨_, _, hl, -⟩ := Tx.bind_ok.mp (Tx.mapErr_ok.mp h)
      exact (assertSubmissionLeaseTx_ok (Tx.mapErr_ok.mp hl)).2
  | markControlledSendIntent work v sub l k now =>
      cases hf
      exact leaseCurrent_of_submission h
  | sendControlledPrepared work v sub artifact l k now answer =>
      cases hf
      obtain ⟨_, _, h, -⟩ := Tx.bind_ok.mp h
      exact leaseCurrent_of_submission h
  | recoverControlledInflight l k now =>
      cases hf
      exact leaseCurrent_of_submission h
  | other tx => cases hf

end

/-- On any interleaving the commits form a serial history, and at its place in it every commit of a
fenced call finds the fence's lease row, not yet expired at the clock value of the fence. -/
theorem fenced_commits_hold_lease {κ : Type} [DecidableEq κ] (host : Host) (views : ManualViews)
    (start : Db) (run : List (Action κ (Call.meaning host views))) :
    let server := run.foldl Server.step { committed := start }
    Serial start server.log server.committed ∧
      ∀ e ∈ server.log, ∀ role lease clock, e.job.tag.fence = some (role, lease, clock) →
        e.before.LeaseCurrent role lease clock := by
  have hserial := serial_run start run
  refine ⟨hserial, fun e he role lease clock hf => ?_⟩
  obtain ⟨_, hrun⟩ := hserial.commit he
  exact leaseCurrent_of_meaning hf hrun

/-- Every call has a job. -/
example (host : Host) (views : ManualViews) (c : Call) : Job (Call.meaning host views) :=
  ⟨c, .ofTx _, Program.run_ofTx _⟩

end RbhTrade.Fencing
