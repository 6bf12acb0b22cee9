import RbhTrade.Store.Receipts

/-!
# The recovery worker's own statements

What the controlled recovery worker reads and writes besides receipts: the list of transactions to
reconcile, and the evidence it stores about each query of the node. Audit and alert rows are left
out.
-/

namespace RbhTrade

open Tables GoTime

/-- `ControlledRecoveryItem`. -/
structure ControlledRecoveryItem where
  operationId : String
  attemptId : String
  txHash : String
  submissionState : SubmissionState
deriving DecidableEq

/-- `ControlledRecoveryEvidence`. -/
structure ControlledRecoveryEvidence where
  txFound : Bool
  receiptFound : Bool
  nonceState : String
  evidenceHash : String
  observedAt : Instant

/-! ## Work items -/

/-- A submission whose transaction may be on the chain. -/
def Submission.Sent (s : Submission) : Prop := s.state = .submitted ∨ s.state = .broadcastUnknown
deriving Decidable

/-- The joined rows that `ListControlledRecoveryItems` selects: the newest submission of each
attempt, when it was sent. -/
def Db.recoveryRows (db : Db) : List (Operation × TransactionAttempt × Submission) :=
  db.operations.flatMap fun o => db.steps.flatMap fun step => db.attempts.flatMap fun a =>
    db.submissions.filterMap fun sub =>
      if step.operationId = o.id ∧ a.stepId = step.id ∧ sub.attemptId = a.id ∧
          sub.sequence + 1 = nextSequence a.id db.submissions ∧ sub.Sent then
        some (o, a, sub)
      else none

/-- A row without a transaction hash cannot be scanned. -/
def scanRecoveryItem (row : Operation × TransactionAttempt × Submission) :
    Except Err ControlledRecoveryItem :=
  match row.2.1.payload with
  | none => .error .sql
  | some payload => .ok ⟨row.1.id, row.2.1.id, payload.txHash, row.2.2.state⟩

/-- The provenance of a MANUAL item is intact. -/
def ControlledRecoveryItem.Sourced (item : ControlledRecoveryItem) (views : ManualViews) (db : Db) :
    Prop :=
  (∃ m ∈ db.manualOrderSources, m.operationId = item.operationId) →
    affected (fun s => s.operationId = item.operationId ∧ s.attemptId = item.attemptId ∧
      s.txHash = item.txHash ∧ s.submissionState = item.submissionState)
      (views.recoverySource db) = 1
deriving Decidable

/-- `ListControlledRecoveryItems`, in no particular order. One corrupt MANUAL item fails the whole
listing. -/
def listControlledRecoveryItems (views : ManualViews) (db : Db) :
    Except Err (List ControlledRecoveryItem) := do
  let items ← db.recoveryRows.mapM scanRecoveryItem
  if ∀ item ∈ items, item.Sourced views db then return items else .error .artifactIntegrity

section Listing

variable {views : ManualViews} {db : Db}

theorem mem_recoveryRows {o : Operation} {a : TransactionAttempt} {sub : Submission} :
    (o, a, sub) ∈ db.recoveryRows ↔ o ∈ db.operations ∧ (∃ step ∈ db.steps,
      step.operationId = o.id ∧ a.stepId = step.id) ∧ a ∈ db.attempts ∧ sub ∈ db.submissions ∧
      sub.attemptId = a.id ∧ sub.sequence + 1 = nextSequence a.id db.submissions ∧ sub.Sent := by
  simp only [Db.recoveryRows, List.mem_flatMap, List.mem_filterMap]
  constructor
  · rintro ⟨o', ho, step, hstep, a', ha, sub', hsub, hrow⟩
    split at hrow
    · rename_i hc
      cases hrow
      exact ⟨ho, ⟨step, hstep, hc.1, hc.2.1⟩, ha, hsub, hc.2.2⟩
    · cases hrow
  · rintro ⟨ho, ⟨step, hstep, hop, hst⟩, ha, hsub, hrest⟩
    exact ⟨o, ho, step, hstep, a, ha, sub, hsub, if_pos ⟨hop, hst, hrest⟩⟩

theorem scanRecoveryItem_ok {row : Operation × TransactionAttempt × Submission}
    {item : ControlledRecoveryItem} (h : scanRecoveryItem row = .ok item) :
    item.operationId = row.1.id ∧ item.attemptId = row.2.1.id ∧
      item.submissionState = row.2.2.state := by
  unfold scanRecoveryItem at h
  split at h
  · cases h
  · cases h
    exact ⟨rfl, rfl, rfl⟩

/-- The listing succeeds when every selected attempt has its hash and every MANUAL one its source,
and it then has an item for each selected row. -/
theorem listControlledRecoveryItems_ok
    (hhash : ∀ row ∈ db.recoveryRows, row.2.1.payload ≠ none)
    (hsource : ∀ row ∈ db.recoveryRows, ∀ item, scanRecoveryItem row = .ok item →
      item.Sourced views db) :
    ∃ items, listControlledRecoveryItems views db = .ok items ∧
      ∀ row ∈ db.recoveryRows, ∃ item ∈ items, item.attemptId = row.2.1.id := by
  have hscan : ∀ row ∈ db.recoveryRows, ∃ item, scanRecoveryItem row = .ok item := by
    intro row hrow
    obtain ⟨payload, hp⟩ := Option.ne_none_iff_exists'.mp (hhash row hrow)
    exact ⟨_, by rw [scanRecoveryItem, hp]⟩
  obtain ⟨items, hitems, hrows, hback⟩ := mapM_scan_ok hscan
  have hsourced : ∀ item ∈ items, item.Sourced views db := by
    intro item hitem
    obtain ⟨row, hrow, hi⟩ := hback item hitem
    exact hsource row hrow item hi
  refine ⟨items, ?_, fun row hrow => ?_⟩
  · rw [listControlledRecoveryItems, hitems]
    exact if_pos hsourced
  · obtain ⟨item, hitem, hi⟩ := hrows row hrow
    exact ⟨item, hitem, (scanRecoveryItem_ok hi).2.1⟩

end Listing

/-! ## Evidence -/

/-- The primary key of the evidence table. A repeated `(attempt_id, evidence_hash)` is skipped
before the key is looked at. -/
def insertEvidenceTx (e : RecoveryEvidence) : Tx Err Db Unit := do
  let db ← Tx.query id
  if ∃ x ∈ db.recoveryEvidence, x.attemptId = e.attemptId ∧ x.evidenceHash = e.evidenceHash then
    pure ()
  else do
    Tx.require ((∀ x ∈ db.recoveryEvidence, x.id ≠ e.id) ∧
      (∃ o ∈ db.operations, o.id = e.operationId) ∧ ∃ a ∈ db.attempts, a.id = e.attemptId) .sql
    Tx.exec fun db => { db with recoveryEvidence := db.recoveryEvidence ++ [e] }

/-- `RecordControlledRecoveryEvidence`. The lease's clock is the caller's time. -/
def recordControlledRecoveryEvidence (host : Host) (views : ManualViews)
    (item : ControlledRecoveryItem) (evidence : ControlledRecoveryEvidence)
    (classification : RecoveryClassification) (lease : LeaseFence) (now : Instant) :
    Tx Err Db Unit := do
  Tx.require (item.operationId ≠ "" ∧ item.attemptId ≠ "" ∧
    evidence.evidenceHash.utf8ByteSize = 64 ∧ evidence.observedAt ≠ zeroInstant ∧
    now ≠ zeroInstant) .canaryRuntimeRejected
  let _ ← lockManualRecoveryTx (some lease) now
  let db ← Tx.query id
  Tx.require ((∃ m ∈ db.manualOrderSources, m.operationId = item.operationId) →
    affected (fun s => s.operationId = item.operationId ∧ s.attemptId = item.attemptId ∧
      s.txHash = item.txHash ∧ s.environment = lease.environment) (views.recoverySource db) = 1)
    .artifactIntegrity
  assertRecoveryLeaseTx (some lease) now
  insertEvidenceTx
    { id := host.deterministicID ["canary-recovery-evidence", item.attemptId,
    evidence.evidenceHash],
      operationId := item.operationId, attemptId := item.attemptId, txHash := item.txHash,
      leaseEnvironment := lease.environment, leaseHolderId := lease.holderId,
      leaseEpoch := lease.epoch, txFound := evidence.txFound,
      receiptFound := evidence.receiptFound, nonceState := evidence.nonceState,
      evidenceHash := evidence.evidenceHash, classification := classification,
      observedAt := formatRFC3339Nano evidence.observedAt, createdAt := formatRFC3339Nano now }

end RbhTrade
