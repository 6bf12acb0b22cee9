import Mathlib.Data.List.Sort
import RbhTrade.Lib.Hex
import RbhTrade.Store.Controls
import RbhTrade.Store.ManualMath
import RbhTrade.Store.Submission

/-!
# Receipts of a MANUAL attempt

`observeManualReceiptTx` and `transitionManualReceiptTx`, and the triggers of
`manual_recovery_commands` behind them. A recovery command is the only way to write a receipt or a
position effect of a claimed attempt: `manual_recovery_command_source` decides whether the command
may be inserted, `manual_recovery_effect` then writes the receipt, the effect and its history, the
risk reservation, the usage, the step and the lane, and `manual_recovery_scope_close` checks that
all of them arrived.

The guards that bar these writes outside an open command let exactly the writes made here through;
a guard is stated where a row of the table could still fail it. Audit, alert and lifecycle rows are
left out.

The view `manual_recovery_source` rebuilds the provenance of an attempt from some twenty tables.
What it returns is a parameter, `ManualViews`, of everything here.
-/

namespace RbhTrade

open Tables GoTime

/-- A row of `manual_recovery_source`: a MANUAL attempt whose first submission was accepted or is
ambiguous. -/
structure RecoverySource where
  operationId : String
  executionStepId : String
  attemptId : String
  walletId : String
  txHash : String
  nonce : Nat
  environment : String
  submissionState : SubmissionState

/-- The provenance view, as a function of the database. -/
structure ManualViews where
  recoverySource : Db → List RecoverySource := fun _ => []

/-- The part of a caller's `PositionEffect` that the store reads. -/
structure EffectFacts where
  asset : String
  delta : String
deriving DecidableEq

/-! ## Which attempts are MANUAL -/

/-- An operation is MANUAL by its order, by a nonce claim, or by the form of its id. -/
def Db.IsManual (db : Db) (a : SignedArtifact) : Prop :=
  (∃ m ∈ db.manualOrderSources, m.operationId = a.operation) ∨
    (∃ q ∈ db.manualNonceClaims, q.operationId = a.operation ∨ q.attemptId = a.attemptId) ∨
    "manual_op_".toList.isPrefixOf a.operation.toList = true
deriving Decidable

/-- The tables that decide whether an operation is MANUAL are the same. -/
def Db.SameOrigins (db db' : Db) : Prop :=
  db'.manualOrderSources = db.manualOrderSources ∧ db'.manualNonceClaims = db.manualNonceClaims

theorem Db.SameOrigins.isManual {db db' : Db} (h : db.SameOrigins db') (a : SignedArtifact) :
    db'.IsManual a ↔ db.IsManual a := by
  unfold Db.IsManual
  rw [h.1, h.2]

/-- The recovery source of an artifact. -/
def RecoverySource.Matches (s : RecoverySource) (a : SignedArtifact) : Prop :=
  s.operationId = a.operation ∧ s.executionStepId = a.stepId ∧ s.attemptId = a.attemptId ∧
    s.walletId = a.walletId ∧ s.txHash = a.txHash ∧ s.nonce = a.nonce
deriving Decidable

/-- `manualRecoverySourceTx`: whether the attempt is MANUAL. One that is but has lost its
provenance is an error, never a legacy attempt. -/
def manualRecoverySourceTx (views : ManualViews) (a : SignedArtifact) : Tx Err Db Bool := do
  let db ← Tx.query id
  if db.IsManual a then do
    Tx.require (affected (·.Matches a) (views.recoverySource db) = 1) .artifactIntegrity
    return true
  else
    return false

theorem manualRecoverySourceTx_ok {views : ManualViews} {a : SignedArtifact} {db db' : Db}
    {manual : Bool} (h : manualRecoverySourceTx views a db = .ok (manual, db')) :
    db = db' ∧ (manual = true ↔ db.IsManual a) := by
  simp only [manualRecoverySourceTx, Tx.query_bind, id_eq, Tx.ite_ok, Tx.require_bind_ok,
    Tx.pure_ok] at h
  obtain ⟨hm, -, rfl, rfl⟩ | ⟨hm, rfl, rfl⟩ := h
  · exact ⟨rfl, iff_of_true rfl hm⟩
  · exact ⟨rfl, iff_of_false Bool.false_ne_true hm⟩

/-- `lockManualRecoveryTx`. The writer lock is taken by an update that changes nothing. -/
def lockManualRecoveryTx (lease : Option LeaseFence) (clock : Instant) : Tx Err Db LeaseFence := do
  let fence ← Tx.expect lease .recoveryLeaseLost
  Tx.require fence.Complete .recoveryLeaseLost
  let changed ← Tx.query fun db => affected (·.Matches .recovery fence) db.leases
  Tx.require (changed = 1) .recoveryLeaseLost
  assertRecoveryLeaseTx (some fence) clock
  return fence

/-! ## Receipt rows -/

/-- The primary key and `UNIQUE(attempt_id, block_hash)`. -/
def ReceiptObservation.Conflicts (x y : ReceiptObservation) : Prop :=
  x.id = y.id ∨ (x.attemptId = y.attemptId ∧ x.blockHash = y.blockHash)
deriving Decidable

/-- Insert a receipt. Its attempt must exist. -/
def insertReceiptTx (r : ReceiptObservation) : Tx Err Db Unit := do
  let db ← Tx.query id
  Tx.require (∃ t ∈ db.attempts, t.id = r.attemptId) .sql
  Tx.put? (fun db => (insertUnique ReceiptObservation.Conflicts r db.receipts).map
    fun t => { db with receipts := t }) .sql

theorem insertReceiptTx_ok {r : ReceiptObservation} {db db' : Db} {u : Unit}
    (h : insertReceiptTx r db = .ok (u, db')) :
    (∀ x ∈ db.receipts, ¬ x.Conflicts r) ∧ db' = { db with receipts := db.receipts ++ [r] } := by
  simp only [insertReceiptTx, Tx.query_bind, Tx.require_bind_ok, Tx.put?_ok,
    Option.map_eq_some_iff, insertUnique_eq_some, id_eq] at h
  obtain ⟨-, _, ⟨hno, rfl⟩, rfl⟩ := h
  exact ⟨hno, rfl⟩

/-- `sameManualReceipt`. -/
def ReceiptObservation.SameFacts (x y : ReceiptObservation) : Prop :=
  x.id = y.id ∧ x.attemptId = y.attemptId ∧ x.txHash = y.txHash ∧ x.blockNumber = y.blockNumber ∧
    x.blockHash = y.blockHash ∧ x.status = y.status
deriving Decidable

/-- The id of the sole position effect of an attempt. -/
def positionEffectID (host : Host) (attempt : String) : String :=
  host.deterministicID [attempt, "position-effect"]

/-! ## Commands -/

namespace ManualRecoveryCommand

/-- The unique keys of `manual_recovery_commands`. -/
def Conflicts (x c : ManualRecoveryCommand) : Prop :=
  x.id = c.id ∨ (x.receiptId = c.receiptId ∧ x.priorVersion = c.priorVersion)
deriving Decidable

/-- A canonical command of a receipt that succeeded: the only one that carries an effect. -/
def Applies (c : ManualRecoveryCommand) : Prop := c.kind = .canonical ∧ c.receiptStatus = 1
deriving Decidable

/-- The shape that the trigger and the table's checks ask for: `0x` and 64 lower-case hexadecimal
digits for the block. -/
def WellFormed (c : ManualRecoveryCommand) : Prop :=
  c.id = "manual-recovery:" ++ c.receiptId ++ ":" ++ toString c.priorVersion ∧
    c.blockHash.toList.length = 66 ∧ c.blockHash.toList.take 2 = ['0', 'x'] ∧
    (c.blockHash.toList.drop 2).all Hex.isLowerHex = true ∧
    (canonicalTime c.checkedAt).isSome ∧ 0 < c.blockNumber ∧ c.receiptStatus ≤ 1 ∧ 0 < c.leaseEpoch
deriving Decidable

/-- What a command makes of its receipt. -/
def receiptState (c : ManualRecoveryCommand) : CanonicalState :=
  match c.kind with
  | .observe => .observed
  | .canonical => if c.receiptStatus = 1 then .canonicalSuccess else .canonicalRevert
  | .orphan => .orphaned

/-- What a canonical or orphan command makes of the risk reservation. -/
def riskState (c : ManualRecoveryCommand) : RiskState :=
  if c.kind = .orphan then .frozen else if c.receiptStatus = 1 then .committed else .released

/-- What a canonical or orphan command makes of the operation's usage. -/
def usageState (c : ManualRecoveryCommand) : UsageState :=
  if c.kind = .orphan then .frozen else .consumed

/-- What a canonical or orphan command makes of the execution step. -/
def stepStatus (c : ManualRecoveryCommand) : StepStatus :=
  if c.kind = .orphan then .reconciling
  else if c.receiptStatus = 1 then .canonicalSuccess else .canonicalRevert

end ManualRecoveryCommand

/-- The stored receipt that a canonical or orphan command is about. -/
def ReceiptObservation.CitedBy (r : ReceiptObservation) (c : ManualRecoveryCommand) : Prop :=
  r.id = c.receiptId ∧ r.txHash = c.txHash ∧ r.blockHash = c.blockHash ∧
    r.blockNumber = c.blockNumber ∧ r.status = c.receiptStatus ∧ r.version = c.priorVersion
deriving Decidable

/-- The lease row under which a command is made. -/
def WorkerLease.Recovers (l : WorkerLease) (s : RecoverySource) (c : ManualRecoveryCommand) :
    Prop :=
  l.role = .recovery ∧ l.environment = s.environment ∧ l.environment = c.environment ∧
    l.holderId = c.holderId ∧ l.leaseEpoch = c.leaseEpoch ∧
    TimeNotBefore c.checkedAt l.updatedAt ∧ TimeBefore c.checkedAt l.expiresAt
deriving Decidable

namespace Db

/-- The attempt of the operation's first submission. -/
def FirstAttempt (db : Db) (operation attempt : String) : Prop :=
  ∃ b ∈ db.manualFirstBindings, b.operationId = operation ∧ b.attemptId = attempt
deriving Decidable

/-- A retained source and the current recovery lease of its environment. -/
def RecoveryLeased (host : Host) (views : ManualViews) (db : Db) (c : ManualRecoveryCommand) :
    Prop :=
  ∃ s ∈ views.recoverySource db, s.operationId = c.operationId ∧ s.txHash = c.txHash ∧
    c.receiptId = host.deterministicID [s.attemptId, c.blockHash] ∧
    ∃ l ∈ db.leases, l.Recovers s c
deriving Decidable

/-- The state of its receipt in which a command may come. -/
def RecoveryPhase (db : Db) (c : ManualRecoveryCommand) : Prop :=
  (c.kind = .observe → c.priorVersion = 0 ∧ ∀ r ∈ db.receipts, r.id ≠ c.receiptId) ∧
    (c.kind = .canonical → ∃ r ∈ db.receipts, r.CitedBy c ∧
      db.FirstAttempt c.operationId r.attemptId ∧ (r.state = .observed ∨ r.state = .orphaned)) ∧
    (c.kind = .orphan → ∃ r ∈ db.receipts, r.CitedBy c ∧
      db.FirstAttempt c.operationId r.attemptId ∧ (r.state = .observed ∨ r.state.Canonical))
deriving Decidable

/-- A canonical command needs that no other receipt of the attempt is canonical, and repeats the
effect that an earlier canonical command of its receipt gave. -/
def RecoverySole (db : Db) (c : ManualRecoveryCommand) : Prop :=
  c.kind = .canonical →
    (∀ r ∈ db.receipts, r.id ≠ c.receiptId → db.FirstAttempt c.operationId r.attemptId →
      ¬ r.state.Canonical) ∧
    ∀ x ∈ db.manualRecoveryCommands, x.receiptId = c.receiptId → x.kind = .canonical →
      x.effectAsset = c.effectAsset ∧ x.effectDelta = c.effectDelta
deriving Decidable

end Db

/-- The effect that a contract admits: the bought amount, at least the minimum, or the whole input
of a sale. -/
def ManualContract.Admits (k : ManualContract) (asset delta : String) : Prop :=
  asset = k.tokenAddress ∧
    (k.side = .buy → u256Add delta "0" = some delta ∧ u256Cmp delta "0" = some .gt ∧
      U256Le k.minimumOutput delta) ∧
    (k.side = .sell → delta = "-" ++ k.input)
deriving Decidable

/-- An effect that may be applied: the operation's contract admits it, and a stored effect of the
attempt is in the same asset and rolled back. -/
def Db.EffectAdmitted (db : Db) (operation asset delta : String) : Prop :=
  asset ≠ "" ∧ delta ≠ "" ∧ delta ≠ "0" ∧
    (∃ k ∈ db.manualAdmissionCommands, k.operationId = operation ∧
      k.contract.Admits asset delta) ∧
    ∀ p ∈ db.effects, db.FirstAttempt operation p.attemptId →
      sqlLower p.asset = sqlLower asset ∧ p.state = .rolledBack
deriving Decidable

/-- `manual_recovery_command_source` lets a command in. Only a command that applies an effect
carries one. -/
def Db.RecoveryCommandSource (host : Host) (views : ManualViews) (db : Db)
    (c : ManualRecoveryCommand) : Prop :=
  c.WellFormed ∧ (∀ x ∈ db.manualRecoveryCommands, ¬ x.Conflicts c) ∧
    db.RecoveryLeased host views c ∧ db.RecoveryPhase c ∧ db.RecoverySole c ∧
    (c.Applies → db.EffectAdmitted c.operationId (c.effectAsset.getD "") (c.effectDelta.getD "")) ∧
    (¬ c.Applies → c.effectAsset = none ∧ c.effectDelta = none)
deriving Decidable

/-! ## What an inserted command writes -/

/-- A row of `manual_recovery_open`, beside its command. -/
structure RecoveryOpen where
  attemptId : String
  walletId : String
  executionStepId : String
  nonce : Nat
  reservationId : String
  authorizationId : String
deriving DecidableEq

/-- `manual_recovery_open`. The operation is a key of each of the three tables. -/
def Db.recoveryOpen (db : Db) (operation : String) : Option RecoveryOpen :=
  db.manualFirstBindings.findSome? fun f =>
    db.manualExecutionBindings.findSome? fun b =>
      db.manualNonceClaims.findSome? fun q =>
        if f.operationId = operation ∧ b.operationId = operation ∧ q.operationId = operation ∧
            q.attemptId = f.attemptId then
          some ⟨q.attemptId, b.walletId, b.executionStepId, q.nonce, q.reservationId,
            b.authorizationId⟩
        else none

/-- The receipt that an observation inserts. -/
def ManualRecoveryCommand.receipt (c : ManualRecoveryCommand) (o : RecoveryOpen) :
    ReceiptObservation where
  id := c.receiptId
  attemptId := o.attemptId
  txHash := c.txHash
  blockNumber := c.blockNumber
  blockHash := c.blockHash
  status := c.receiptStatus
  state := .observed
  version := 1
  observedAt := c.checkedAt
  updatedAt := c.checkedAt

/-- Move the receipt of a canonical or orphan command. `manual_nonce_no_receipt_update` holds every
row that is touched against the command. -/
def moveReceiptTx (c : ManualRecoveryCommand) (o : RecoveryOpen) : Tx Err Db Unit := do
  let db ← Tx.query id
  Tx.require (∀ r ∈ db.receipts, r.id = c.receiptId → r.CitedBy c ∧ r.attemptId = o.attemptId) .sql
  Tx.exec fun db => { db with
    receipts := updateWhere (·.id = c.receiptId)
      (fun r => { r with
        state := c.receiptState, version := r.version + 1, updatedAt := c.checkedAt })
      db.receipts }

/-- Apply the effect of a successful receipt: the stored effect becomes active again under this
receipt and this delta, and one is inserted where there is none. `manual_nonce_no_effect_update`
holds a stored effect against the command. -/
def applyEffectTx (host : Host) (c : ManualRecoveryCommand) (o : RecoveryOpen) :
    Tx Err Db Unit := do
  let db ← Tx.query id
  let id := positionEffectID host o.attemptId
  let asset := c.effectAsset.getD ""
  let delta := c.effectDelta.getD ""
  if ∃ p ∈ db.effects, p.attemptId = o.attemptId then do
    Tx.require (∀ p ∈ db.effects, p.attemptId = o.attemptId →
      p.id = id ∧ p.asset = asset ∧ p.state = .rolledBack) .sql
    Tx.exec fun db => { db with
      effects := updateWhere (·.attemptId = o.attemptId)
        (fun p => { p with
          receiptId := c.receiptId, delta := delta, state := .active, updatedAt := c.checkedAt })
        db.effects }
  else do
    Tx.require (∀ p ∈ db.effects, p.id ≠ id) .sql
    Tx.exec fun db => { db with
      effects := db.effects ++
        [{ id := id, attemptId := o.attemptId, receiptId := c.receiptId, walletId := o.walletId,
           asset := asset, delta := delta, state := .active, appliedAt := c.checkedAt,
           updatedAt := c.checkedAt }] }

/-- Roll back the active effect of an orphaned receipt. -/
def rollbackEffectTx (host : Host) (c : ManualRecoveryCommand) (o : RecoveryOpen) :
    Tx Err Db Unit := do
  let db ← Tx.query id
  Tx.require (∀ p ∈ db.effects, p.receiptId = c.receiptId → p.state = .active →
    (∃ q ∈ db.manualNonceClaims, q.attemptId = p.attemptId) →
    p.id = positionEffectID host o.attemptId ∧ p.attemptId = o.attemptId) .sql
  Tx.exec fun db => { db with
    effects := updateWhere (fun p => p.receiptId = c.receiptId ∧ p.state = .active)
      (fun p => { p with state := .rolledBack, updatedAt := c.checkedAt }) db.effects }

/-- The transition that a command adds to the history of the effect, if it adds one. -/
def Db.effectTransition (db : Db) (c : ManualRecoveryCommand) : EffectTransition :=
  if c.kind = .orphan then .rollback
  else if ∃ x ∈ db.manualRecoveryCommands, x.operationId = c.operationId ∧ x.Applies then .reapply
  else .apply

/-- Record the transition of the effect. The same transition of the same receipt is recorded
once. -/
def recordEffectTx (host : Host) (c : ManualRecoveryCommand) (o : RecoveryOpen) : Tx Err Db Unit :=
  Tx.exec fun db =>
    let id := positionEffectID host o.attemptId
    let transition := db.effectTransition c
    if (∃ p ∈ db.effects, p.id = id ∧ p.receiptId = c.receiptId) ∧
        ∀ h ∈ db.effectHistory,
          ¬ (h.effectId = id ∧ h.receiptId = c.receiptId ∧ h.transition = transition) then
      { db with
        effectHistory := db.effectHistory ++
          [{ id := "manual-effect-history:" ++ c.id, effectId := id, transition := transition,
             receiptId := c.receiptId, createdAt := c.checkedAt }] }
    else db

/-- The lane still belongs to the operation of the command. -/
def WalletLane.HeldFor (l : WalletLane) (operation : String) (o : RecoveryOpen) : Prop :=
  l.operationId = some operation ∧ l.stepId = some o.executionStepId ∧
    l.reservedNonce = some o.nonce
deriving Decidable

/-- `manual_recovery_lane_transition`. A canonical receipt frees the lane that its operation holds
and leaves an idle one alone; every other case freezes it. -/
def WalletLane.recover (c : ManualRecoveryCommand) (o : RecoveryOpen) (l : WalletLane) :
    WalletLane :=
  if c.kind = .canonical ∧ l.state = .idle then l
  else if c.kind = .canonical ∧ l.HeldFor c.operationId o ∧
      l.freezeReason ≠ some "prior_canonical_reorg" then
    l.clear none c.checkedAt
  else if l.state = .idle then
    { l.freeze "canonical_reorg" c.checkedAt with
      operationId := some c.operationId, stepId := some o.executionStepId,
      reservedNonce := some o.nonce }
  else
    l.freeze (if l.HeldFor c.operationId o then "canonical_reorg" else "prior_canonical_reorg")
      c.checkedAt

/-- What the operation holds is settled or frozen: its risk reservation, its usage, its step and its
lane. -/
def Db.settleRecovery (db : Db) (c : ManualRecoveryCommand) (o : RecoveryOpen) : Db :=
  { db with
    riskReservations := updateWhere (·.id = o.reservationId)
      (fun r => { r with state := c.riskState, updatedAt := c.checkedAt }) db.riskReservations,
    operationUsage := updateWhere (·.operationId = c.operationId)
      (fun u => { u with state := c.usageState, updatedAt := c.checkedAt }) db.operationUsage,
    steps := updateWhere (·.id = o.executionStepId)
      (fun s => { s with status := c.stepStatus, updatedAt := c.checkedAt }) db.steps,
    lanes := updateWhere (·.walletId = o.walletId) (WalletLane.recover c o) db.lanes }

def settleRecoveryTx (c : ManualRecoveryCommand) (o : RecoveryOpen) : Tx Err Db Unit := do
  let db ← Tx.query id
  Tx.require (ActiveOnce (db.settleRecovery c o).riskReservations) .sql
  -- `manual_nonce_usage_no_release` over each row that is touched.
  Tx.require (∀ u ∈ db.operationUsage, u.operationId = c.operationId →
    u.state = c.usageState ∨ (u.state = .reserved ∧ c.usageState = .frozen) ∨
      u.authorizationId = o.authorizationId) .sql
  updateTx (·.settleRecovery c o)

/-- `manual_recovery_scope_close` of a canonical or orphan command, up to what the writes above
cannot fail to leave. -/
def Db.RecoveryClosed (host : Host) (db : Db) (c : ManualRecoveryCommand) (o : RecoveryOpen) :
    Prop :=
  (∃ r ∈ db.riskReservations, r.id = o.reservationId ∧ r.state = c.riskState) ∧
    (∃ u ∈ db.operationUsage, u.operationId = c.operationId ∧
      u.authorizationId = o.authorizationId ∧ u.state = c.usageState) ∧
    (∃ s ∈ db.steps, s.id = o.executionStepId ∧ s.status = c.stepStatus) ∧
    (∃ l ∈ db.lanes, l.walletId = o.walletId ∧
      ((c.kind = .canonical ∧ l.state = .idle ∧ l.operationId = none ∧ l.stepId = none ∧
        l.reservedNonce = none) ∨
      (l.state = .frozen ∧ (l.freezeReason = some "canonical_reorg" ∨
        l.freezeReason = some "prior_canonical_reorg")))) ∧
    (c.Applies → ∃ p ∈ db.effects, p.id = positionEffectID host o.attemptId ∧
      p.attemptId = o.attemptId ∧ p.receiptId = c.receiptId ∧ p.walletId = o.walletId ∧
      some p.asset = c.effectAsset ∧ some p.delta = c.effectDelta ∧ p.state = .active) ∧
    (c.kind = .orphan → ∀ p ∈ db.effects, p.attemptId = o.attemptId →
      p.receiptId = c.receiptId → p.state ≠ .active)
deriving Decidable

/-- The writes to the position effect and its history. -/
def moveEffectTx (host : Host) (c : ManualRecoveryCommand) (o : RecoveryOpen) : Tx Err Db Unit :=
  if c.kind = .orphan then do
    rollbackEffectTx host c o
    recordEffectTx host c o
  else if c.Applies then do
    applyEffectTx host c o
    recordEffectTx host c o
  else
    pure ()

/-- `manual_recovery_effect`. -/
def manualRecoveryEffectTx (host : Host) (c : ManualRecoveryCommand) : Tx Err Db Unit := do
  let o ← Tx.query fun db => db.recoveryOpen c.operationId
  let o ← Tx.expect o .sql
  if c.kind = .observe then
    insertReceiptTx (c.receipt o)
  else do
    moveReceiptTx c o
    moveEffectTx host c o
    settleRecoveryTx c o
    let db ← Tx.query id
    Tx.require (db.RecoveryClosed host c o) .sql

/-- `INSERT INTO manual_recovery_commands` with its triggers. -/
def manualRecoveryCommandTx (host : Host) (views : ManualViews) (c : ManualRecoveryCommand) :
    Tx Err Db Unit := do
  let db ← Tx.query id
  Tx.require (db.RecoveryCommandSource host views c) .sql
  manualRecoveryEffectTx host c
  Tx.exec fun db => { db with manualRecoveryCommands := db.manualRecoveryCommands ++ [c] }

/-! ## The store's functions -/

/-- `insertManualRecoveryCommandTx`. -/
def insertManualRecoveryCommandTx (host : Host) (views : ManualViews) (a : SignedArtifact)
    (r : ReceiptObservation) (kind : RecoveryKind) (effect : Option EffectFacts)
    (lease : LeaseFence) (now : Instant) : Tx Err Db Unit := do
  Tx.require (now ≠ zeroInstant) .recoveryLeaseLost
  Tx.mapErr (fun _ => Err.artifactIntegrity) <| manualRecoveryCommandTx host views
    { id := "manual-recovery:" ++ r.id ++ ":" ++ toString r.version, operationId := a.operation,
      kind := kind, receiptId := r.id, txHash := r.txHash, blockNumber := r.blockNumber,
      blockHash := r.blockHash, receiptStatus := r.status, priorVersion := r.version,
      effectAsset := effect.map fun e => host.toLower e.asset,
      effectDelta := effect.map fun e => e.delta, environment := lease.environment,
      holderId := lease.holderId, leaseEpoch := lease.epoch, checkedAt := formatRFC3339Nano now }

/-- `observeManualReceiptTx`. -/
def observeManualReceiptTx (host : Host) (views : ManualViews) (a : SignedArtifact)
    (r : ReceiptObservation) (now : Instant) (lease : Option LeaseFence) (clock : Instant) :
    Tx Err Db ReceiptObservation := do
  let fence ← lockManualRecoveryTx lease clock
  let old ← Tx.query fun db => selectRow (·.id = r.id) db.receipts
  match old with
  | some old => do
      Tx.require (old.SameFacts r) .artifactIntegrity
      return old
  | none => do
      insertManualRecoveryCommandTx host views a { r with version := 0 } .observe none fence now
      return { r with version := 1, state := .observed }

/-- A repeated request that the stored receipt already meets. -/
def ReceiptObservation.Settled (r : ReceiptObservation) (kind : RecoveryKind) : Prop :=
  (kind = .orphan ∧ r.state = .orphaned) ∨ (kind = .canonical ∧ r.state.Canonical)
deriving Decidable

/-- The stored effect is the one a repeated canonical request names. -/
def PositionEffect.Repeats (p : PositionEffect) (host : Host) (receipt : String)
    (effect : EffectFacts) : Prop :=
  p.asset = host.toLower effect.asset ∧ p.delta = effect.delta ∧ p.state = .active ∧
    p.receiptId = receipt
deriving Decidable

/-- `transitionManualReceiptTx`. The version of the caller's receipt, when it gives one, fences a
stale answer of the node. -/
def transitionManualReceiptTx (host : Host) (views : ManualViews) (a : SignedArtifact)
    (r : ReceiptObservation) (kind : RecoveryKind) (effect : Option EffectFacts) (now : Instant)
    (lease : Option LeaseFence) (clock : Instant) : Tx Err Db Unit := do
  let fence ← lockManualRecoveryTx lease clock
  let old ← Tx.query fun db => selectRow (·.id = r.id) db.receipts
  let old ← Tx.expect old .artifactIntegrity
  Tx.require (old.SameFacts r) .artifactIntegrity
  if old.Settled kind then
    if kind = .canonical ∧ old.state = .canonicalSuccess then do
      let effect ← Tx.expect effect .artifactIntegrity
      let stored ← Tx.query fun db => selectRow (·.attemptId = a.attemptId) db.effects
      let stored ← Tx.expect stored .artifactIntegrity
      Tx.require (stored.Repeats host old.id effect) .artifactIntegrity
    else pure ()
  else do
    Tx.require (r.version = 0 ∨ r.version = old.version) .artifactIntegrity
    insertManualRecoveryCommandTx host views a old kind effect fence now

/-! ## What an accepted command wrote -/

/-- The effects after a canonical or orphan command. -/
structure EffectsMoved (c : ManualRecoveryCommand) (o : RecoveryOpen)
    (t t' : List PositionEffect) : Prop where
  rolledBack : c.kind = .orphan →
    t' = updateWhere (fun p => p.receiptId = c.receiptId ∧ p.state = .active)
      (fun p => { p with state := .rolledBack, updatedAt := c.checkedAt }) t
  applied : c.Applies → ∀ p ∈ t', p.attemptId = o.attemptId →
    p.state = .active ∧ p.receiptId = c.receiptId ∧ p.delta = c.effectDelta.getD ""
  kept : c.kind = .canonical → ¬ c.Applies → t' = t

/-- The receipts after a canonical or orphan command. -/
def ManualRecoveryCommand.move (c : ManualRecoveryCommand) (t : List ReceiptObservation) :
    List ReceiptObservation :=
  updateWhere (·.id = c.receiptId)
    (fun r => { r with
      state := c.receiptState, version := r.version + 1, updatedAt := c.checkedAt }) t

section Inversion

variable {host : Host} {views : ManualViews} {c : ManualRecoveryCommand} {o : RecoveryOpen}
  {db db' : Db} {u : Unit}

theorem Db.recoveryOpen_firstAttempt {operation : String}
    (h : db.recoveryOpen operation = some o) : db.FirstAttempt operation o.attemptId := by
  obtain ⟨f, hf, h⟩ := List.exists_of_findSome?_eq_some h
  obtain ⟨b, -, h⟩ := List.exists_of_findSome?_eq_some h
  obtain ⟨q, -, h⟩ := List.exists_of_findSome?_eq_some h
  split at h
  · rename_i hmatch
    cases h
    exact ⟨f, hf, hmatch.1, hmatch.2.2.2.symm⟩
  · cases h

theorem recordEffectTx_ok (h : recordEffectTx host c o db = .ok (u, db')) :
    ∃ history, db' = { db with effectHistory := history } := by
  obtain rfl := Tx.exec_ok.mp h
  dsimp only
  split
  · exact ⟨_, rfl⟩
  · exact ⟨_, rfl⟩

theorem applyEffectTx_ok (h : applyEffectTx host c o db = .ok (u, db')) :
    ∃ effects, db' = { db with effects := effects } ∧ ∀ p ∈ effects, p.attemptId = o.attemptId →
      p.state = .active ∧ p.receiptId = c.receiptId ∧ p.delta = c.effectDelta.getD "" := by
  simp only [applyEffectTx, Tx.query_bind, Tx.ite_ok, Tx.require_bind_ok, Tx.exec_ok] at h
  obtain ⟨-, -, rfl⟩ | ⟨hnone, -, rfl⟩ := h
  · refine ⟨_, rfl, fun p hp hattempt => ?_⟩
    obtain ⟨-, hno⟩ | ⟨x, -, -, rfl⟩ := mem_updateWhere_cases hp
    · exact absurd hattempt hno
    · exact ⟨rfl, rfl, rfl⟩
  · refine ⟨_, rfl, fun p hp hattempt => ?_⟩
    obtain hp | hp := List.mem_append.mp hp
    · exact absurd ⟨p, hp, hattempt⟩ hnone
    · obtain rfl := List.mem_singleton.mp hp
      exact ⟨rfl, rfl, rfl⟩

theorem moveEffectTx_ok (h : moveEffectTx host c o db = .ok (u, db')) :
    ∃ effects history, db' = { db with effects := effects, effectHistory := history } ∧
      EffectsMoved c o db.effects effects := by
  simp only [moveEffectTx, Tx.ite_ok] at h
  obtain ⟨hk, h⟩ | ⟨hk, ⟨happlies, h⟩ | ⟨hnot, h⟩⟩ := h
  · obtain ⟨_, _, hroll, h⟩ := Tx.bind_ok.mp h
    simp only [rollbackEffectTx, Tx.query_bind, Tx.require_bind_ok, Tx.exec_ok] at hroll
    obtain ⟨-, rfl⟩ := hroll
    obtain ⟨history, rfl⟩ := recordEffectTx_ok h
    refine ⟨_, history, rfl, fun _ => rfl, fun ha => ?_, fun hc => ?_⟩
    · cases hk.symm.trans ha.1
    · cases hk.symm.trans hc
  · obtain ⟨_, _, happly, h⟩ := Tx.bind_ok.mp h
    obtain ⟨effects, rfl, heffects⟩ := applyEffectTx_ok happly
    obtain ⟨history, rfl⟩ := recordEffectTx_ok h
    exact ⟨_, history, rfl, fun hc => absurd hc hk, fun _ => heffects,
      fun _ hno => absurd happlies hno⟩
  · obtain ⟨-, rfl⟩ := Tx.pure_ok.mp h
    exact ⟨_, _, rfl, fun hc => absurd hc hk, fun ha => absurd ha hnot, fun _ _ => rfl⟩

theorem settleRecoveryTx_ok (h : settleRecoveryTx c o db = .ok (u, db')) :
    db' = db.settleRecovery c o := by
  simp only [settleRecoveryTx, Tx.query_bind, Tx.require_bind_ok, updateTx_ok] at h
  exact h.2.2.2.symm

/-- A command that is accepted adds a receipt, or moves one and settles what the operation holds. -/
theorem manualRecoveryCommandTx_ok (h : manualRecoveryCommandTx host views c db = .ok (u, db')) :
    db.RecoveryCommandSource host views c ∧ ∃ o, db.recoveryOpen c.operationId = some o ∧
      ((c.kind = .observe ∧ (∀ x ∈ db.receipts, ¬ x.Conflicts (c.receipt o)) ∧ db' = { db with
          receipts := db.receipts ++ [c.receipt o],
          manualRecoveryCommands := db.manualRecoveryCommands ++ [c] }) ∨
        (c.kind ≠ .observe ∧ (∀ r ∈ db.receipts, r.id = c.receiptId → r.attemptId = o.attemptId) ∧
          ∃ effects history, EffectsMoved c o db.effects effects ∧
            db' = Db.settleRecovery { db with
              receipts := c.move db.receipts, effects := effects, effectHistory := history,
              manualRecoveryCommands := db.manualRecoveryCommands ++ [c] } c o ∧
            db'.RecoveryClosed host c o)) := by
  simp only [manualRecoveryCommandTx, Tx.query_bind, Tx.require_bind_ok, id_eq] at h
  obtain ⟨hsource, h⟩ := h
  obtain ⟨_, _, heffect, h⟩ := Tx.bind_ok.mp h
  obtain rfl := Tx.exec_ok.mp h
  simp only [manualRecoveryEffectTx, Tx.query_bind, Tx.expect_bind_ok, Tx.ite_ok] at heffect
  obtain ⟨o, ho, ⟨hk, hinsert⟩ | ⟨hk, hmove⟩⟩ := heffect
  · obtain ⟨hfresh, rfl⟩ := insertReceiptTx_ok hinsert
    exact ⟨hsource, o, ho, .inl ⟨hk, hfresh, rfl⟩⟩
  · obtain ⟨_, _, hreceipt, hmove⟩ := Tx.bind_ok.mp hmove
    simp only [moveReceiptTx, Tx.query_bind, Tx.require_bind_ok, Tx.exec_ok, id_eq] at hreceipt
    obtain ⟨hcited, rfl⟩ := hreceipt
    obtain ⟨_, _, heffects, hmove⟩ := Tx.bind_ok.mp hmove
    obtain ⟨effects, history, rfl, hmoved⟩ := moveEffectTx_ok heffects
    obtain ⟨_, _, hsettle, hmove⟩ := Tx.bind_ok.mp hmove
    obtain rfl := settleRecoveryTx_ok hsettle
    simp only [Tx.query_bind, Tx.require_ok, id_eq] at hmove
    obtain ⟨hclosed, rfl⟩ := hmove
    exact ⟨hsource, o, ho, .inr ⟨hk, fun r hr hid => (hcited r hr hid).2, effects, history, hmoved,
      rfl, hclosed⟩⟩

end Inversion

/-! ## What a call does -/

section Calls

variable {host : Host} {views : ManualViews} {a : SignedArtifact} {r : ReceiptObservation}
  {kind : RecoveryKind} {effect : Option EffectFacts} {lease : Option LeaseFence}
  {now clock : Instant} {db db' : Db} {u : Unit}

theorem lockManualRecoveryTx_ok {fence : LeaseFence}
    (h : lockManualRecoveryTx lease clock db = .ok (fence, db')) : db = db' := by
  simp only [lockManualRecoveryTx, Tx.expect_bind_ok, Tx.require_bind_ok, Tx.query_bind] at h
  obtain ⟨_, -, -, -, h⟩ := h
  obtain ⟨_, _, hassert, h⟩ := Tx.bind_ok.mp h
  obtain rfl := assertRecoveryLeaseTx_ok hassert
  exact (Tx.pure_ok.mp h).2

/-- The command that a call about a receipt makes, if it makes one. -/
def Db.Commands (host : Host) (views : ManualViews) (operation : String) (kind : RecoveryKind)
    (receipt : String) (db db' : Db) : Prop :=
  db' = db ∨ ∃ c : ManualRecoveryCommand, c.operationId = operation ∧ c.kind = kind ∧
    c.receiptId = receipt ∧ manualRecoveryCommandTx host views c db = .ok ((), db')

theorem insertManualRecoveryCommandTx_ok {fence : LeaseFence}
    (h : insertManualRecoveryCommandTx host views a r kind effect fence now db = .ok (u, db')) :
    db.Commands host views a.operation kind r.id db' := by
  simp only [insertManualRecoveryCommandTx, Tx.require_bind_ok, Tx.mapErr_ok] at h
  exact .inr ⟨_, rfl, rfl, rfl, h.2⟩

theorem observeManualReceiptTx_ok {observed : ReceiptObservation}
    (h : observeManualReceiptTx host views a r now lease clock db = .ok (observed, db')) :
    db.Commands host views a.operation .observe r.id db' := by
  simp only [observeManualReceiptTx] at h
  obtain ⟨_, _, hlock, h⟩ := Tx.bind_ok.mp h
  obtain rfl := lockManualRecoveryTx_ok hlock
  rw [Tx.query_bind] at h
  generalize selectRow (fun x => x.id = r.id) db.receipts = old at h
  cases old with
  | some old =>
      simp only [Tx.require_bind_ok, Tx.pure_ok] at h
      exact .inl h.2.2.symm
  | none =>
      obtain ⟨_, _, hinsert, h⟩ := Tx.bind_ok.mp h
      obtain ⟨-, rfl⟩ := Tx.pure_ok.mp h
      have hcommand := insertManualRecoveryCommandTx_ok hinsert
      exact hcommand

theorem transitionManualReceiptTx_ok
    (h : transitionManualReceiptTx host views a r kind effect now lease clock db = .ok (u, db')) :
    db.Commands host views a.operation kind r.id db' := by
  simp only [transitionManualReceiptTx] at h
  obtain ⟨_, _, hlock, h⟩ := Tx.bind_ok.mp h
  obtain rfl := lockManualRecoveryTx_ok hlock
  simp only [Tx.query_bind, Tx.expect_bind_ok, Tx.require_bind_ok, Tx.ite_ok, Tx.require_ok,
    Tx.pure_ok] at h
  obtain ⟨old, hold, -, ⟨-, ⟨-, _, -, _, -, -, rfl⟩ | ⟨-, -, rfl⟩⟩ | ⟨-, -, h⟩⟩ := h
  · exact .inl rfl
  · exact .inl rfl
  · have hid := selectRow_prop (p := fun x : ReceiptObservation => x.id = r.id) hold
    exact hid ▸ insertManualRecoveryCommandTx_ok h

end Calls

end RbhTrade
