import RbhTrade.Store.Controls
import RbhTrade.Store.Submission

/-!
# The transactions of the controlled submission worker

A controlled send takes three transactions. `beginControlledSubmissionAfterGate` consumes a permit
and opens a `submitting` row, `markControlledSendIntent` makes the intent to send durable, and the
send transaction of `SendControlledPrepared` repeats every check, calls the broadcaster and records
the outcome. The call is made before the send transaction commits, so that transaction is cut at
the call: `controlledSendGateTx` is what runs before it, `controlledSendOutcomeTx` what runs after.
`recoverControlledInflight` classifies the rows that a crashed worker left behind.
-/

namespace RbhTrade

open Tables GoTime

/-! ## Work items -/

/-- `CanaryArtifactIdentity`. -/
structure CanaryArtifactIdentity where
  operationId : String
  attemptId : String
  txHash : String
  artifactHash : String
deriving DecidableEq

/-- `ControlledSubmissionWork`. The listing copies the operation and the attempt of the request
into the artifact, so the two always agree. -/
structure ControlledSubmissionWork where
  request : CanaryGateRequest
  artifact : CanaryArtifactIdentity
  permitId : String
  purpose : PermitPurpose
  operation_eq : artifact.operationId = request.operationId
  attempt_eq : artifact.attemptId = request.attemptId
deriving DecidableEq

/-- `controlledLegacySourceSQL`: exactly one admission source, an attempt whose step belongs to the
operation, and no trace of a MANUAL owner. -/
def Db.LegacySource (db : Db) (operation attempt : String) : Prop :=
  affected (·.operationId = operation) db.admissionSources = 1 ∧
  (∃ a ∈ db.attempts, ∃ s ∈ db.steps, s.id = a.stepId ∧ a.id = attempt ∧
    s.operationId = operation ∧ ∀ m ∈ db.manualOrderSources, m.stepId ≠ s.id) ∧
  (∀ m ∈ db.manualOrderSources, m.operationId ≠ operation) ∧
  (∀ m ∈ db.manualExecutionBindings, m.operationId ≠ operation) ∧
  (∀ m ∈ db.manualNonceClaims, m.operationId ≠ operation ∧ m.attemptId ≠ attempt) ∧
  (∀ i ∈ db.manualIssuances, i.operationId ≠ operation ∧ i.attemptId ≠ attempt)
deriving Decidable

/-- `controlledLegacyPermitSQL`. -/
def Db.LegacyPermit (db : Db) (p : SendPermit) : Prop :=
  db.LegacySource p.operationId p.attemptId ∧ (∀ i ∈ db.manualIssuances, i.id ≠ p.id) ∧
    ∀ m ∈ db.manualAuthorizationUnits, m ≠ p.authorizationId
deriving Decidable

/-- The work item a permit and its authorization give. -/
def workItem (p : SendPermit) (a : RuntimeAuthorization) : ControlledSubmissionWork where
  request :=
    { operationId := p.operationId, attemptId := p.attemptId,
      authorizationId := p.authorizationId, authorizationEpoch := p.authorizationEpoch,
      policyVersion := a.policyVersion, chainId := chainID, walletId := a.walletId,
      deployment := a.deployment }
  artifact :=
    { operationId := p.operationId, attemptId := p.attemptId, txHash := p.txHash,
      artifactHash := p.artifactHash }
  permitId := p.id
  purpose := p.purpose
  operation_eq := rfl
  attempt_eq := rfl

/-- `ListControlledSubmissionWork`; expiries are compared as texts. -/
def listControlledSubmissionWork (db : Db) (now : Instant) : List ControlledSubmissionWork :=
  db.permits.flatMap fun p =>
    if p.state = .issued ∧ formatRFC3339Nano now < p.expiresAt ∧ db.LegacyPermit p then
      (db.authorizations.filter
        fun a => a.id = p.authorizationId ∧ a.epoch = p.authorizationEpoch).map (workItem p)
    else []

/-- The work item names an attempt and the operation that the attempt's step belongs to. -/
def Db.Lists (db : Db) (work : ControlledSubmissionWork) : Prop :=
  ∃ a ∈ db.attempts, ∃ s ∈ db.steps, s.id = a.stepId ∧ a.id = work.artifact.attemptId ∧
    s.operationId = work.request.operationId
deriving Decidable

/-! ## Permits -/

/-- The unique indexes on `canary_send_permits`. -/
def SendPermit.Conflicts (x y : SendPermit) : Prop :=
  x.id = y.id ∨
    (x.purpose = .firstBroadcast ∧ y.purpose = .firstBroadcast ∧ x.attemptId = y.attemptId) ∨
    (x.purpose = .unknownReplay ∧ x.state = .issued ∧ y.purpose = .unknownReplay ∧
      y.state = .issued ∧ x.attemptId = y.attemptId)
deriving Decidable

/-! ## Begin -/

/-- The error pair that `BeginControlledSubmissionAfterGate` returns. -/
structure Refusal where
  reason : Option GateReason
  err : Err
deriving DecidableEq

/-- The gates that must have passed before a send: one admission and one pre-sign snapshot of the
operation, and one first-broadcast snapshot of the attempt. -/
def GateSnapshot.PriorGate (r : CanaryGateRequest) (attempt : String) (g : GateSnapshot) : Prop :=
  g.operationId = r.operationId ∧ g.authorizationId = r.authorizationId ∧
    g.authorizationEpoch = r.authorizationEpoch ∧ g.decision = .pass ∧
    (((g.stage = .executionAdmission ∨ g.stage = .preSign) ∧ g.attemptId = none) ∨
      (g.stage = .firstBroadcast ∧ g.attemptId = some attempt))
deriving Decidable

/-- The identity under which a work item refers to its permit. -/
def SendPermit.IsFor (host : Host) (work : ControlledSubmissionWork) (p : SendPermit) : Prop :=
  p.id = work.permitId ∧ p.operationId = work.artifact.operationId ∧
    p.attemptId = work.artifact.attemptId ∧ p.purpose = work.purpose ∧
    p.artifactHash = host.toLower work.artifact.artifactHash ∧
    p.txHash = host.toLower work.artifact.txHash
deriving Decidable

/-- The `WHERE` clause with which `BeginControlledSubmissionAfterGate` consumes the permit. -/
def SendPermit.Consumable (host : Host) (work : ControlledSubmissionWork) (now : Instant)
    (p : SendPermit) : Prop :=
  p.IsFor host work ∧ p.authorizationId = work.request.authorizationId ∧
    p.authorizationEpoch = work.request.authorizationEpoch ∧ p.state = .issued ∧
    formatRFC3339Nano now < p.expiresAt
deriving Decidable

/-- The permit after it is consumed. -/
def SendPermit.consume (now : Instant) (p : SendPermit) : SendPermit :=
  { p with state := .consumed, consumedAt := some (formatRFC3339Nano now) }

/-- `BeginControlledSubmissionAfterGate`. -/
def beginControlledSubmissionAfterGate (host : Host) (v : RuntimeGateSnapshot)
    (work : ControlledSubmissionWork) (lease : LeaseFence) (clock now : Instant) :
    Tx Refusal Db SubmissionRecord := do
  (assertSubmissionLeaseTx lease clock).mapErr fun e => ⟨some .submissionLeaseLost, e⟩
  (validateImmediateControlsTx host v work.request now).mapErr
    fun reason => ⟨some reason, .canaryRuntimeRejected⟩
  let priorGates ← Tx.query fun db =>
    affected (GateSnapshot.PriorGate work.request work.artifact.attemptId) db.gateSnapshots
  Tx.require (priorGates = 3) ⟨some .w2GateChain, .canaryRuntimeRejected⟩
  (insertGateSnapshotTx host v).mapErr fun e => ⟨none, e⟩
  let changed ← Tx.query fun db => affected (SendPermit.Consumable host work now) db.permits
  Tx.exec fun db => { db with
    permits := updateWhere (SendPermit.Consumable host work now) (SendPermit.consume now)
      db.permits }
  Tx.require (changed = 1) ⟨some .permitIdentityMismatch, .canaryRuntimeRejected⟩
  let db ← Tx.query id
  let lane ← Tx.expect
    (selectRow (·.OwnedBy work.request.walletId work.request.operationId) db.lanes)
    ⟨some .walletLaneInvalid, .walletLaneBusy⟩
  match work.purpose with
  | .firstBroadcast => do
      Tx.require (lane.state = .signed) ⟨some .walletLaneInvalid, .walletLaneBusy⟩
      Tx.require (affected (·.attemptId = work.artifact.attemptId) db.submissions = 0)
        ⟨some .firstBroadcastNotAvailable, .canaryRuntimeRejected⟩
  | .unknownReplay => do
      Tx.require (lane.state = .frozen) ⟨some .walletLaneInvalid, .walletLaneBusy⟩
      Tx.require ((latestSubmission work.artifact.attemptId db.submissions).map (·.state) =
          some .broadcastUnknown)
        ⟨some .unknownReplayNotAvailable, .canaryRuntimeRejected⟩
  (openSubmissionTx host work.artifact.attemptId work.artifact.txHash
    (formatRFC3339Nano now)).mapErr fun e => ⟨none, e⟩

/-! ## Intent -/

/-- The permit row the worker works under is the consumed one it claims. -/
def requireConsumedPermitTx (host : Host) (work : ControlledSubmissionWork) : Tx Err Db Unit := do
  let permit ← Tx.query fun db => selectRow (SendPermit.IsFor host work) db.permits
  let permit ← Tx.expect permit .canaryRuntimeRejected
  Tx.require (permit.state = .consumed) .canaryRuntimeRejected

/-- The `WHERE` clause of the intent marker. -/
def Submission.AwaitsIntent (s : Submission) (sub : SubmissionRecord) : Prop :=
  s.InFlight sub.id sub.attemptId ∧ s.txHash = sub.txHash ∧ s.sendIntentAt = none
deriving Decidable

/-- The row once its send intent is durable. -/
def Submission.markIntent (stamp : String) (s : Submission) : Submission :=
  { s with sendIntentAt := some stamp }

/-- `MarkControlledSendIntent`. -/
def markControlledSendIntent (host : Host) (work : ControlledSubmissionWork)
    (snapshot : RuntimeGateSnapshot) (sub : SubmissionRecord) (lease : LeaseFence)
    (clock now : Instant) : Tx Err Db Unit := do
  assertSubmissionLeaseTx lease clock
  (validateImmediateControlsTx host snapshot work.request now).mapErr
    fun _ => .canaryRuntimeRejected
  requireConsumedPermitTx host work
  let changed ← Tx.query fun db => affected (·.AwaitsIntent sub) db.submissions
  Tx.exec fun db => { db with
    submissions := updateWhere (·.AwaitsIntent sub)
      (Submission.markIntent (formatRFC3339Nano now)) db.submissions }
  Tx.require (changed = 1) .broadcastAmbiguous

/-! ## Send -/

/-- What `SendRawTransaction` answers: a transaction hash, an error that is `ErrBroadcastRejected`,
or any other error. -/
inductive Answer where
  | accepted (hash : String)
  | rejected (detail : String)
  | failed (detail : String)
deriving DecidableEq

/-- The part of `SendControlledPrepared` before its transactions: load the stored artifact, open it
and compare it with the work item. -/
def loadControlledArtifact (host : Host) (work : ControlledSubmissionWork) (db : Db) :
    Option SignedArtifact := do
  let stored ← loadEncryptedArtifact host db work.request.operationId
  let digest ← host.openArtifact stored.payload
  guard (digest = host.toLower work.artifact.artifactHash ∧
    stored.attemptId = work.artifact.attemptId ∧
    host.equalFold stored.txHash work.artifact.txHash = true)
  return stored

variable {db : Db} {operation : String} {q : Submission → Prop}

theorem loadControlledArtifact_some {host : Host} {work : ControlledSubmissionWork}
    {a : SignedArtifact} (h : loadControlledArtifact host work db = some a) :
    db.Stores a ∧ a.attemptId = work.artifact.attemptId := by
  obtain ⟨stored, hload, h⟩ := Option.bind_eq_some_iff.mp h
  obtain ⟨digest, -, h⟩ := Option.bind_eq_some_iff.mp h
  obtain ⟨_, hguard, h⟩ := Option.bind_eq_some_iff.mp h
  cases h
  unfold guard at hguard
  split at hguard
  · rename_i hc
    exact ⟨(loadEncryptedArtifact_some hload).1, hc.2.1⟩
  · cases hguard

/-- The outcome recorded when the controls refuse a send that has its intent already. -/
def refusedOutcome (reason : GateReason) : Outcome :=
  { state := .knownUnsent, failureClass := some (.gate reason),
    detail := "controlled canary runtime authorization rejected" }

/-- The send transaction up to the broadcaster call. `true` means that the call comes next; `false`
that the controls refused the send and the row was recorded as known unsent instead. -/
def controlledSendGateTx (host : Host) (work : ControlledSubmissionWork)
    (snapshot : RuntimeGateSnapshot) (sub : SubmissionRecord) (artifact : SignedArtifact)
    (lease : LeaseFence) (clock now : Instant) : Tx Err Db Bool := do
  assertSubmissionLeaseTx lease clock
  match ← (validateImmediateControlsTx host snapshot work.request now).attempt with
  | .error reason => do
      finishControlledSubmissionTx artifact sub (refusedOutcome reason) work.purpose now
      return false
  | .ok () => do
      requireConsumedPermitTx host work
      let row ← Tx.query fun db => selectRow
        (fun s => s.id = sub.id ∧ s.attemptId = sub.attemptId ∧ s.txHash = sub.txHash)
        db.submissions
      let row ← Tx.expect row .broadcastAmbiguous
      Tx.require (row.state = .submitting) .broadcastAmbiguous
      return true

/-- The outcome that `SendControlledPrepared` records for an answer. -/
def controlledOutcome (host : Host) (artifact : SignedArtifact) : Answer → Outcome
  | .rejected detail =>
      { state := .knownUnsent, failureClass := some .deterministicRejection, detail := detail }
  | .failed detail =>
      { state := .broadcastUnknown, failureClass := some .ambiguousTransport, detail := detail }
  | .accepted hash =>
      if host.equalFold hash artifact.txHash then { state := .submitted, rpcHash := hash }
      else
        { state := .manualResolution, rpcHash := hash, failureClass := some .hashMismatch,
          detail := "RPC transaction hash mismatch" }

/-- The send transaction after the broadcaster call. -/
def controlledSendOutcomeTx (host : Host) (work : ControlledSubmissionWork)
    (sub : SubmissionRecord) (artifact : SignedArtifact) (now : Instant) (answer : Answer) :
    Tx Err Db Unit :=
  finishControlledSubmissionTx artifact sub (controlledOutcome host artifact answer) work.purpose
    now

/-! ## Crash recovery -/

/-- The subquery `legacyConsumedPermit`: the attempt of the row has a consumed legacy permit whose
authorization is of the given environment. -/
def Db.HasConsumedPermit (db : Db) (environment attempt : String) : Prop :=
  ∃ p ∈ db.permits, ∃ a ∈ db.authorizations, a.id = p.authorizationId ∧
    a.epoch = p.authorizationEpoch ∧ p.attemptId = attempt ∧ p.state = .consumed ∧
    a.deployment.environment = environment ∧ db.LegacyPermit p
deriving Decidable

/-- The subquery `legacyAttempts`. -/
def Db.LegacyAttempt (db : Db) (attempt : String) : Prop :=
  ∃ a ∈ db.attempts, ∃ s ∈ db.steps, s.id = a.stepId ∧ a.id = attempt ∧
    db.LegacySource s.operationId a.id
deriving Decidable

/-- The operations that own a submission with the given property, on the legacy path: the shape of
the subqueries `firstKnownUnsent` and `unknown`. -/
def Db.OwnsSubmission (db : Db) (q : Submission → Prop) [DecidablePred q] (operation : String) :
    Prop :=
  ∃ s ∈ db.steps, ∃ a ∈ db.attempts, ∃ sub ∈ db.submissions, a.stepId = s.id ∧
    sub.attemptId = a.id ∧ q sub ∧ db.LegacySource s.operationId a.id ∧ s.operationId = operation

instance (db : Db) (q : Submission → Prop) [DecidablePred q] (operation : String) :
    Decidable (db.OwnsSubmission q operation) :=
  inferInstanceAs (Decidable (∃ s ∈ db.steps, _))

/-- A first-broadcast submission recovered before its send intent. -/
def Submission.FirstKnownUnsent (s : Submission) : Prop :=
  s.failureClass = some .restartBeforeSendIntent ∧ s.sequence = 0
deriving Decidable

/-- A submission recovered after its send intent. -/
def Submission.RecoveredUnknown (s : Submission) : Prop :=
  s.failureClass = some .restartAfterSendIntent
deriving Decidable

/-- `operation_id IN (…)` on a lane; a lane without an owner is in no set. -/
def WalletLane.OwnerIn (l : WalletLane) (q : String → Prop) : Prop :=
  ∃ o, l.operationId = some o ∧ q o

instance (l : WalletLane) (q : String → Prop) [DecidablePred q] : Decidable (l.OwnerIn q) :=
  match h : l.operationId with
  | none => isFalse fun ⟨o, ho, _⟩ => by rw [h] at ho; cases ho
  | some o =>
      if hq : q o then isTrue ⟨o, h, hq⟩
      else isFalse fun ⟨o', ho, hq'⟩ => hq (Option.some.inj (h.symm.trans ho) ▸ hq')

/-- The steps whose legacy attempt has a submission recovered after its send intent. -/
def Db.StepRecoveredUnknown (db : Db) (step : String) : Prop :=
  ∃ a ∈ db.attempts, ∃ sub ∈ db.submissions, sub.attemptId = a.id ∧ sub.RecoveredUnknown ∧
    db.LegacyAttempt a.id ∧ a.stepId = step
deriving Decidable

/-- The attempts of the first-broadcast submissions recovered before their send intent. -/
def Db.AttemptKnownUnsent (db : Db) (attempt : String) : Prop :=
  (∃ s ∈ db.submissions, s.FirstKnownUnsent ∧ s.attemptId = attempt) ∧ db.LegacyAttempt attempt
deriving Decidable

/-- The crash classifier on one row: what the two `UPDATE transaction_submissions` statements make
of it. -/
def recoverSubmission (db : Db) (environment stamp : String) (s : Submission) : Submission :=
  if s.state = .submitting ∧ s.createdAt < stamp ∧ db.HasConsumedPermit environment s.attemptId then
    match s.sendIntentAt with
    | none => { s with
        state := .knownUnsent, failureClass := some .restartBeforeSendIntent,
        failureDetail := some "broadcaster invocation was durably not started", updatedAt := stamp }
    | some _ => { s with
        state := .broadcastUnknown, failureClass := some .restartAfterSendIntent,
        failureDetail := some "send outcome was not durably recorded", updatedAt := stamp }
  else s

/-- The database with every row classified. -/
def Db.classified (db : Db) (environment stamp : String) : Db :=
  { db with submissions := db.submissions.map (recoverSubmission db environment stamp) }

/-- The first sends proved unsent give up what they had held and are closed. The subqueries read
`c`. -/
def Db.releaseFirst (db c : Db) (stamp : String) : Db :=
  { db with
    lanes := updateWhere (·.OwnerIn (c.OwnsSubmission Submission.FirstKnownUnsent))
      (WalletLane.clear (some "known_unsent") stamp) db.lanes,
    reservations := updateWhere
      (fun r => c.OwnsSubmission Submission.FirstKnownUnsent r.operationId)
      (fun r => { r with status := .released, updatedAt := stamp }) db.reservations,
    riskReservations := updateWhere
      (fun r => c.OwnsSubmission Submission.FirstKnownUnsent r.operationId ∧ r.state = .reserved)
      (fun r => { r with state := .released, updatedAt := stamp }) db.riskReservations,
    attempts := updateWhere (fun t => c.AttemptKnownUnsent t.id)
      (fun t => { t with status := .knownUnsent, updatedAt := stamp }) db.attempts,
    steps := updateWhere (fun s => c.OwnsSubmission Submission.FirstKnownUnsent s.operationId)
      (fun s => { s with status := .knownUnsent, updatedAt := stamp }) db.steps,
    operations := updateWhere (fun o => c.OwnsSubmission Submission.FirstKnownUnsent o.id)
      (fun o => { o with
        status := .knownUnsent, failureCode := some .restartBeforeSendIntent, updatedAt := stamp })
      db.operations }

/-- What the ambiguous sends hold is frozen, and their steps are marked. -/
def Db.freezeUnknown (db c : Db) (stamp : String) : Db :=
  { db with
    lanes := updateWhere (·.OwnerIn (c.OwnsSubmission Submission.RecoveredUnknown))
      (WalletLane.freeze "broadcast_unknown" stamp) db.lanes,
    reservations := updateWhere
      (fun r => c.OwnsSubmission Submission.RecoveredUnknown r.operationId)
      (fun r => { r with status := .frozen, updatedAt := stamp }) db.reservations,
    riskReservations := updateWhere
      (fun r => c.OwnsSubmission Submission.RecoveredUnknown r.operationId ∧ r.state.Active)
      (fun r => { r with state := .frozen, updatedAt := stamp }) db.riskReservations,
    steps := updateWhere (fun s => c.StepRecoveredUnknown s.id)
      (fun s => { s with status := .broadcastUnknown, updatedAt := stamp }) db.steps }

/-- Both groups of writes. -/
def Db.settleRecovered (db c : Db) (stamp : String) : Db :=
  (db.releaseFirst c stamp).freezeUnknown c stamp

/-- `RecoverControlledInflight`. No statement writes a column that the subqueries read, so each
group of updates evaluates them once. -/
def recoverControlledInflight (lease : LeaseFence) (clock now : Instant) : Tx Err Db Unit := do
  assertSubmissionLeaseTx lease clock
  let stamp := formatRFC3339Nano now
  Tx.exec (·.classified lease.environment stamp)
  updateTx fun db => db.releaseFirst db stamp
  updateTx fun db => db.freezeUnknown db stamp

/-! ## What a committed transaction says -/

section Specs

variable {host : Host} {work : ControlledSubmissionWork} {v : RuntimeGateSnapshot}
  {lease : LeaseFence} {clock now : Instant} {db db' : Db}

/-- The row that a begun submission opens. -/
def openedRow (host : Host) (work : ControlledSubmissionWork) (now : Instant) (db : Db) :
    Submission :=
  openedSubmission host work.artifact.attemptId work.artifact.txHash (formatRFC3339Nano now)
    db.submissions

/-- What a committed `BeginControlledSubmissionAfterGate` found and wrote. -/
structure Begun (host : Host) (work : ControlledSubmissionWork) (v : RuntimeGateSnapshot)
    (now : Instant) (db db' : Db) (sub : SubmissionRecord) : Prop where
  priorGates :
    affected (GateSnapshot.PriorGate work.request work.artifact.attemptId) db.gateSnapshots = 3
  gateFresh : ∀ x ∈ db.gateSnapshots, ¬ x.Conflicts (v.toRow host)
  gateSnapshots : db'.gateSnapshots = db.gateSnapshots ++ [v.toRow host]
  oneConsumable : affected (SendPermit.Consumable host work now) db.permits = 1
  permits : db'.permits = updateWhere (SendPermit.Consumable host work now)
    (SendPermit.consume now) db.permits
  sub_eq : sub = (openedRow host work now db).record
  rowFresh : ∀ x ∈ db.submissions, ¬ x.Conflicts (openedRow host work now db)
  submissions : db'.submissions = db.submissions ++ [openedRow host work now db]
  lane : ∃ l ∈ db.lanes, l.OwnedBy work.request.walletId work.request.operationId ∧
    (work.purpose = .firstBroadcast → l.state = .signed)
  history : (work.purpose = .firstBroadcast ∧
      affected (·.attemptId = work.artifact.attemptId) db.submissions = 0) ∨
    (work.purpose = .unknownReplay ∧
      (latestSubmission work.artifact.attemptId db.submissions).map (·.state) =
        some .broadcastUnknown)
  holdings : db.SameHoldings db'
  operations : db'.operations = db.operations

variable {sub : SubmissionRecord}

theorem beginControlledSubmissionAfterGate_ok
    (h : beginControlledSubmissionAfterGate host v work lease clock now db = .ok (sub, db')) :
    Begun host work v now db db' sub := by
  unfold beginControlledSubmissionAfterGate at h
  obtain ⟨_, _, hlease, h⟩ := Tx.bind_ok.mp h
  obtain ⟨⟨leases, rfl⟩, -⟩ := assertSubmissionLeaseTx_ok (Tx.mapErr_ok.mp hlease)
  obtain ⟨_, _, hcontrols, h⟩ := Tx.bind_ok.mp h
  obtain ⟨rfl, -⟩ := validateImmediateControlsTx_ok (Tx.mapErr_ok.mp hcontrols)
  rw [Tx.query_bind, Tx.require_bind_ok] at h
  obtain ⟨hthree, h⟩ := h
  obtain ⟨_, _, hgate, h⟩ := Tx.bind_ok.mp h
  obtain ⟨hfresh, rfl⟩ := insertGateSnapshotTx_ok (Tx.mapErr_ok.mp hgate)
  rw [Tx.query_bind, Tx.exec_bind, Tx.require_bind_ok, Tx.query_bind, Tx.expect_bind_ok] at h
  obtain ⟨hone, lane, hlane, h⟩ := h
  change selectRow (·.OwnedBy work.request.walletId work.request.operationId) db.lanes =
    some lane at hlane
  have howned := selectRow_prop hlane
  -- Both purposes end in the same insert; the lane and history checks write nothing.
  have hopen : (work.purpose = .firstBroadcast → lane.state = .signed) ∧
      ((work.purpose = .firstBroadcast ∧
          affected (·.attemptId = work.artifact.attemptId) db.submissions = 0) ∨
        (work.purpose = .unknownReplay ∧
          (latestSubmission work.artifact.attemptId db.submissions).map (·.state) =
            some .broadcastUnknown)) ∧
      openSubmissionTx host work.artifact.attemptId work.artifact.txHash (formatRFC3339Nano now)
        { db with
          leases := leases, gateSnapshots := db.gateSnapshots ++ [v.toRow host],
          permits := updateWhere (SendPermit.Consumable host work now) (SendPermit.consume now)
            db.permits } = .ok (sub, db') := by
    cases hp : work.purpose with
    | firstBroadcast =>
        simp only [hp, Tx.require_bind_ok, Tx.mapErr_ok] at h
        exact ⟨fun _ => h.1, .inl ⟨rfl, h.2.1⟩, h.2.2⟩
    | unknownReplay =>
        simp only [hp, Tx.require_bind_ok, Tx.mapErr_ok] at h
        exact ⟨(fun hc => by cases hc), .inr ⟨rfl, h.2.1⟩, h.2.2⟩
  obtain ⟨hsigned, hhist, hopen⟩ := hopen
  obtain ⟨hsub, hrow, rfl⟩ := openSubmissionTx_ok hopen
  exact ⟨hthree, hfresh, rfl, hone, rfl, hsub, hrow, rfl,
    ⟨lane, selectRow_mem hlane, howned, hsigned⟩, hhist, ⟨rfl, rfl, rfl, rfl, rfl⟩, rfl⟩

theorem requireConsumedPermitTx_ok {u : Unit}
    (h : requireConsumedPermitTx host work db = .ok (u, db')) :
    db' = db ∧ ∃ p ∈ db.permits, p.IsFor host work ∧ p.state = .consumed := by
  simp only [requireConsumedPermitTx, Tx.query_bind, Tx.expect_bind_ok, Tx.require_ok] at h
  obtain ⟨p, hp, hstate, rfl⟩ := h
  exact ⟨rfl, p, selectRow_mem hp, selectRow_prop hp, hstate⟩

/-- A committed `MarkControlledSendIntent` changed exactly the row it marks. -/
theorem markControlledSendIntent_ok {u : Unit}
    (h : markControlledSendIntent host work v sub lease clock now db = .ok (u, db')) :
    affected (·.AwaitsIntent sub) db.submissions = 1 ∧
      db'.submissions = updateWhere (·.AwaitsIntent sub)
        (Submission.markIntent (formatRFC3339Nano now)) db.submissions ∧
      db'.permits = db.permits ∧ db'.gateSnapshots = db.gateSnapshots ∧ db.SameHoldings db' ∧
      db'.operations = db.operations := by
  unfold markControlledSendIntent at h
  obtain ⟨_, _, hlease, h⟩ := Tx.bind_ok.mp h
  obtain ⟨⟨leases, rfl⟩, -⟩ := assertSubmissionLeaseTx_ok hlease
  obtain ⟨_, _, hcontrols, h⟩ := Tx.bind_ok.mp h
  obtain ⟨rfl, -⟩ := validateImmediateControlsTx_ok (Tx.mapErr_ok.mp hcontrols)
  obtain ⟨_, _, hpermit, h⟩ := Tx.bind_ok.mp h
  obtain ⟨rfl, -⟩ := requireConsumedPermitTx_ok hpermit
  rw [Tx.query_bind, Tx.exec_bind, Tx.require_ok] at h
  obtain ⟨hone, rfl⟩ := h
  exact ⟨hone, rfl, rfl, rfl, ⟨rfl, rfl, rfl, rfl, rfl⟩, rfl⟩

/-- What the send transaction has checked when it reaches the broadcaster call. -/
structure SendReady (work : ControlledSubmissionWork) (sub : SubmissionRecord)
    (lease : LeaseFence) (clock : Instant) (db : Db) : Prop where
  lease : db.LeaseCurrent .submission lease clock
  controls : ControlsPass db work.request
  row : ∃ s ∈ db.submissions, s.id = sub.id ∧ s.attemptId = sub.attemptId ∧
    s.txHash = sub.txHash ∧ s.state = .submitting

/-- The send transaction reaches the call only when every check passed, and has then written only
lease stamps; otherwise it records the row as known unsent for the reason of the refusal. -/
theorem controlledSendGateTx_eq {artifact : SignedArtifact} {call : Bool}
    (h : controlledSendGateTx host work v sub artifact lease clock now db = .ok (call, db')) :
    ∃ leases,
      (call = true ∧ SendReady work sub lease clock db ∧ db' = { db with leases := leases }) ∨
      (call = false ∧ ∃ reason u,
        finishControlledSubmissionTx artifact sub (refusedOutcome reason) work.purpose now
          { db with leases := leases } = .ok (u, db')) := by
  unfold controlledSendGateTx at h
  obtain ⟨_, _, hlease, h⟩ := Tx.bind_ok.mp h
  obtain ⟨⟨leases, rfl⟩, hcurrent⟩ := assertSubmissionLeaseTx_ok hlease
  refine ⟨leases, ?_⟩
  obtain ⟨x, _, hcontrols, h⟩ := Tx.bind_ok.mp h
  obtain ⟨_, rfl, hvalid⟩ | ⟨reason, rfl, -, rfl⟩ := Tx.attempt_ok.mp hcontrols
  · obtain ⟨rfl, hpass⟩ := validateImmediateControlsTx_ok hvalid
    obtain ⟨_, _, hpermit, h⟩ := Tx.bind_ok.mp h
    obtain ⟨rfl, -⟩ := requireConsumedPermitTx_ok hpermit
    rw [Tx.query_bind, Tx.expect_bind_ok] at h
    obtain ⟨row, hrow, h⟩ := h
    rw [Tx.require_bind_ok, Tx.pure_ok] at h
    obtain ⟨hstate, rfl, rfl⟩ := h
    obtain ⟨hid, hattempt, htx⟩ := selectRow_prop hrow
    exact .inl ⟨rfl, ⟨hcurrent, ⟨hpass.control, hpass.authorization, hpass.environment⟩,
      row, selectRow_mem hrow, hid, hattempt, htx, hstate⟩, rfl⟩
  · obtain ⟨u, _, hfinish, h⟩ := Tx.bind_ok.mp h
    obtain ⟨rfl, rfl⟩ := Tx.pure_ok.mp h
    exact .inr ⟨rfl, reason, u, hfinish⟩

end Specs

theorem refusedOutcome_ends (reason : GateReason) : (refusedOutcome reason).Ends :=
  ⟨nofun, nofun⟩

theorem controlledOutcome_ends (host : Host) (a : SignedArtifact) (answer : Answer) :
    (controlledOutcome host a answer).Ends := by
  cases answer with
  | rejected _ => exact ⟨nofun, nofun⟩
  | failed _ => exact ⟨nofun, nofun⟩
  | accepted hash =>
      by_cases h : host.equalFold hash a.txHash <;> simp [controlledOutcome, Outcome.Ends, h]

/-! ## What a recovery does -/

/-- The classifier closes a row in flight under a consumed permit of its attempt, as known unsent or
as ambiguous, and leaves any other row alone. -/
theorem recoverSubmission_cases (db : Db) (environment stamp : String) (s : Submission) :
    recoverSubmission db environment stamp s = s ∨
      (s.state = .submitting ∧ db.HasConsumedPermit environment s.attemptId ∧
        ∃ state failureClass detail, recoverSubmission db environment stamp s = { s with
            state := state, failureClass := some failureClass, failureDetail := some detail,
            updatedAt := stamp } ∧
          ((state = .knownUnsent ∧ failureClass = .restartBeforeSendIntent) ∨
            (state = .broadcastUnknown ∧ failureClass = .restartAfterSendIntent))) := by
  unfold recoverSubmission
  split
  · rename_i hc
    refine .inr ⟨hc.1, hc.2.2, ?_⟩
    split
    · exact ⟨_, _, _, rfl, .inl ⟨rfl, rfl⟩⟩
    · exact ⟨_, _, _, rfl, .inr ⟨rfl, rfl⟩⟩
  · exact .inl rfl

theorem recoverSubmission_identity (db : Db) (environment stamp : String) (s : Submission) :
    (recoverSubmission db environment stamp s).identity = s.identity := by
  obtain he | ⟨-, -, _, _, _, he, -⟩ := recoverSubmission_cases db environment stamp s <;> rw [he]
  rfl

/-- The tables that decide which operations are on the legacy path are the same. -/
structure Db.SameSources (db db' : Db) : Prop where
  identities : db.SameIdentities db'
  admissionSources : db'.admissionSources = db.admissionSources
  manualOrderSources : db'.manualOrderSources = db.manualOrderSources
  manualExecutionBindings : db'.manualExecutionBindings = db.manualExecutionBindings
  manualNonceClaims : db'.manualNonceClaims = db.manualNonceClaims
  manualIssuances : db'.manualIssuances = db.manualIssuances

namespace Db.SameSources

variable {db db' : Db}

theorem symm (h : db.SameSources db') : db'.SameSources db :=
  ⟨h.identities.symm, h.admissionSources.symm, h.manualOrderSources.symm,
    h.manualExecutionBindings.symm, h.manualNonceClaims.symm, h.manualIssuances.symm⟩

theorem trans {db₁ : Db} (h : db.SameSources db₁) (h' : db₁.SameSources db') :
    db.SameSources db' :=
  ⟨h.identities.trans h'.identities, h'.admissionSources.trans h.admissionSources,
    h'.manualOrderSources.trans h.manualOrderSources,
    h'.manualExecutionBindings.trans h.manualExecutionBindings,
    h'.manualNonceClaims.trans h.manualNonceClaims, h'.manualIssuances.trans h.manualIssuances⟩

theorem legacySource (h : db.SameSources db') {attempt : String}
    (hl : db.LegacySource operation attempt) : db'.LegacySource operation attempt := by
  obtain ⟨hone, ⟨a, ha, s, hs, hsa, hid, hop, hm⟩, horder, hbind, hclaim, hissue⟩ := hl
  obtain ⟨a', ha', haid, hastep, -⟩ := h.identities.symm.attempt ha
  obtain ⟨s', hs', hsid, hsop, -⟩ := h.identities.symm.step hs
  refine ⟨h.admissionSources ▸ hone, ⟨a', ha', s', hs', ?_, haid.trans hid, hsop.trans hop, ?_⟩,
    h.manualOrderSources ▸ horder, h.manualExecutionBindings ▸ hbind,
    h.manualNonceClaims ▸ hclaim, h.manualIssuances ▸ hissue⟩
  · rw [hsid, hastep, hsa]
  · rw [hsid, h.manualOrderSources]
    exact hm

theorem ownsSubmission (h : db.SameSources db') (hsub : db'.submissions = db.submissions)
    [DecidablePred q] (ho : db.OwnsSubmission q operation) : db'.OwnsSubmission q operation := by
  obtain ⟨s, hs, a, ha, sub, hm, hstep, hatt, hq, hl, hop⟩ := ho
  obtain ⟨a', ha', haid, hastep, -⟩ := h.identities.symm.attempt ha
  obtain ⟨s', hs', hsid, hsop, -⟩ := h.identities.symm.step hs
  refine ⟨s', hs', a', ha', sub, hsub ▸ hm, ?_, hatt.trans haid.symm, hq, ?_, hsop.trans hop⟩
  · rw [hastep, hsid, hstep]
  · rw [hsop, haid]
    exact h.legacySource hl

theorem ownsSubmission_iff (h : db.SameSources db') (hsub : db'.submissions = db.submissions)
    [DecidablePred q] :
    db.OwnsSubmission q operation ↔ db'.OwnsSubmission q operation :=
  ⟨h.ownsSubmission hsub, h.symm.ownsSubmission hsub.symm⟩

theorem legacyAttempt (h : db.SameSources db') {attempt : String}
    (hl : db.LegacyAttempt attempt) : db'.LegacyAttempt attempt := by
  obtain ⟨a, ha, s, hs, hst, hid, hl⟩ := hl
  obtain ⟨a', ha', haid, hastep, -⟩ := h.identities.symm.attempt ha
  obtain ⟨s', hs', hsid, hsop, -⟩ := h.identities.symm.step hs
  refine ⟨a', ha', s', hs', ?_, haid.trans hid, ?_⟩
  · rw [hsid, hastep, hst]
  · rw [hsop, haid]
    exact h.legacySource hl

theorem stepRecoveredUnknown (h : db.SameSources db') (hsub : db'.submissions = db.submissions)
    {step : String} (hs : db.StepRecoveredUnknown step) : db'.StepRecoveredUnknown step := by
  obtain ⟨a, ha, sub, hm, hatt, hq, hl, hstep⟩ := hs
  obtain ⟨a', ha', haid, hastep, -⟩ := h.identities.symm.attempt ha
  exact ⟨a', ha', sub, hsub ▸ hm, hatt.trans haid.symm, hq, haid ▸ h.legacyAttempt hl,
    hastep.trans hstep⟩

theorem stepRecoveredUnknown_iff (h : db.SameSources db')
    (hsub : db'.submissions = db.submissions) {step : String} :
    db.StepRecoveredUnknown step ↔ db'.StepRecoveredUnknown step :=
  ⟨h.stepRecoveredUnknown hsub, h.symm.stepRecoveredUnknown hsub.symm⟩

end Db.SameSources

theorem Db.LegacySource.ownsSubmission {attempt : String} (h : db.LegacySource operation attempt)
    [DecidablePred q] {s : Submission} (hs : s ∈ db.submissions) (ha : s.attemptId = attempt)
    (hq : q s) :
    db.OwnsSubmission q operation := by
  obtain ⟨t, ht, st, hst, hstep, hid, hop, -⟩ := h.2.1
  exact ⟨st, hst, t, ht, s, hs, hstep.symm, ha.trans hid.symm, hq, by rw [hop, hid]; exact h, hop⟩

theorem WalletLane.ownerIn_congr {l : WalletLane} {q q' : String → Prop} (h : ∀ o, q o ↔ q' o) :
    l.OwnerIn q ↔ l.OwnerIn q' :=
  exists_congr fun o => and_congr_right fun _ => h o

/-- The tables that neither group of writes touches. -/
structure Db.SameSends (db db' : Db) : Prop where
  submissions : db'.submissions = db.submissions
  permits : db'.permits = db.permits
  gateSnapshots : db'.gateSnapshots = db.gateSnapshots
  sources : db.SameSources db'

section Classes

variable {c c' d : Db} {stamp : String}

theorem Db.releaseFirst_sends (db c : Db) (stamp : String) :
    db.SameSends (db.releaseFirst c stamp) :=
  ⟨rfl, rfl, rfl, ⟨map_updateWhere _ fun _ _ => rfl, map_updateWhere _ fun _ _ => rfl⟩, rfl, rfl,
    rfl, rfl, rfl⟩

theorem Db.settleRecovered_sends (db c : Db) (stamp : String) :
    db.SameSends (db.settleRecovered c stamp) :=
  ⟨rfl, rfl, rfl, (db.releaseFirst_sends c stamp).sources.trans
    ⟨⟨rfl, map_updateWhere _ fun _ _ => rfl⟩, rfl, rfl, rfl, rfl, rfl⟩⟩

/-- The subqueries read tables that neither group of writes touches. -/
theorem Db.SameSends.freezeUnknown (h : c.SameSends c') :
    d.freezeUnknown c' stamp = d.freezeUnknown c stamp := by
  have howns : ∀ o, c'.OwnsSubmission Submission.RecoveredUnknown o ↔
      c.OwnsSubmission Submission.RecoveredUnknown o :=
    fun o => (h.sources.ownsSubmission_iff h.submissions).symm
  have hstep : ∀ s, c'.StepRecoveredUnknown s ↔ c.StepRecoveredUnknown s :=
    fun s => (h.sources.stepRecoveredUnknown_iff h.submissions).symm
  have hlane : ∀ l : WalletLane, l.OwnerIn (c'.OwnsSubmission Submission.RecoveredUnknown) ↔
      l.OwnerIn (c.OwnsSubmission Submission.RecoveredUnknown) := fun l => l.ownerIn_congr howns
  simp only [Db.freezeUnknown, updateWhere, hlane, howns, hstep]

theorem Db.SameSends.settleRecovered (h : c.SameSends c') :
    d.settleRecovered c' stamp = d.settleRecovered c stamp := by
  have howns : ∀ o, c'.OwnsSubmission Submission.FirstKnownUnsent o ↔
      c.OwnsSubmission Submission.FirstKnownUnsent o :=
    fun o => (h.sources.ownsSubmission_iff h.submissions).symm
  have hattempt : ∀ t, c'.AttemptKnownUnsent t ↔ c.AttemptKnownUnsent t := by
    intro t
    unfold Db.AttemptKnownUnsent
    rw [h.submissions]
    exact and_congr_right fun _ => ⟨h.sources.symm.legacyAttempt, h.sources.legacyAttempt⟩
  have hlane : ∀ l : WalletLane, l.OwnerIn (c'.OwnsSubmission Submission.FirstKnownUnsent) ↔
      l.OwnerIn (c.OwnsSubmission Submission.FirstKnownUnsent) := fun l => l.ownerIn_congr howns
  have hrelease : d.releaseFirst c' stamp = d.releaseFirst c stamp := by
    simp only [Db.releaseFirst, updateWhere, hlane, howns, hattempt]
  rw [Db.settleRecovered, Db.settleRecovered, hrelease, h.freezeUnknown]

end Classes

/-- The recovery commits exactly if its lease is current and neither group of writes breaks the
index on the steps. -/
theorem recoverControlledInflight_iff {lease : LeaseFence} {clock now : Instant} {db' : Db}
    {u : Unit} : recoverControlledInflight lease clock now db = .ok (u, db') ↔
      ∃ db₀ c : Db, assertSubmissionLeaseTx lease clock db = .ok ((), db₀) ∧
        c = db₀.classified lease.environment (formatRFC3339Nano now) ∧
        db' = c.settleRecovered c (formatRFC3339Nano now) ∧
        UnresolvedOnce (c.releaseFirst c (formatRFC3339Nano now)).steps ∧
        UnresolvedOnce db'.steps := by
  have hfreeze : ∀ c : Db, (c.releaseFirst c (formatRFC3339Nano now)).freezeUnknown
      (c.releaseFirst c (formatRFC3339Nano now)) (formatRFC3339Nano now) =
        c.settleRecovered c (formatRFC3339Nano now) :=
    fun c => (c.releaseFirst_sends c _).freezeUnknown
  constructor
  · intro h
    unfold recoverControlledInflight at h
    obtain ⟨_, db₀, hlease, h⟩ := Tx.bind_ok.mp h
    rw [Tx.exec_bind] at h
    obtain ⟨_, _, hrelease, hok⟩ := Tx.bind_ok.mp h
    obtain ⟨hindex, rfl⟩ := updateTx_ok.mp hrelease
    obtain ⟨hindex', rfl⟩ := updateTx_ok.mp hok
    rw [hfreeze] at hindex' ⊢
    exact ⟨db₀, _, hlease, rfl, rfl, hindex, hindex'⟩
  · rintro ⟨db₀, c, hlease, rfl, rfl, hindex, hindex'⟩
    rw [← hfreeze] at hindex' ⊢
    refine Tx.bind_ok.mpr ⟨(), db₀, hlease, Tx.bind_ok.mpr ⟨(), _, rfl, ?_⟩⟩
    exact Tx.bind_ok.mpr
      ⟨(), _, updateTx_ok.mpr ⟨hindex, rfl⟩, updateTx_ok.mpr ⟨hindex', rfl⟩⟩

/-- The rows after both groups of writes, with the classes that `c` gives. -/
structure SettledRows (c : Db) (stamp : String) (d e : Db) : Prop where
  lanes : e.lanes = (d.settleRecovered c stamp).lanes
  reservations : e.reservations = (d.settleRecovered c stamp).reservations
  riskReservations : e.riskReservations = (d.settleRecovered c stamp).riskReservations
  attempts : e.attempts = (d.settleRecovered c stamp).attempts
  steps : e.steps = (d.settleRecovered c stamp).steps
  operations : e.operations = (d.settleRecovered c stamp).operations

/-- What a committed `RecoverControlledInflight` wrote, in terms of the state it leaves: it applied
the classifier to every row, freed what the first sends proved unsent had held, and froze what the
ambiguous ones hold. -/
structure Recovered (environment stamp : String) (db db' : Db) : Prop extends
    SettledRows db' stamp db db' where
  submissions : db'.submissions = db.submissions.map (recoverSubmission db environment stamp)
  permits : db'.permits = db.permits
  gateSnapshots : db'.gateSnapshots = db.gateSnapshots
  sources : db.SameSources db'

theorem recoverControlledInflight_ok {lease : LeaseFence} {clock now : Instant} {db' : Db}
    {u : Unit} (h : recoverControlledInflight lease clock now db = .ok (u, db')) :
    Recovered lease.environment (formatRFC3339Nano now) db db' := by
  obtain ⟨_, c, hlease, hc, hdb, -, -⟩ := recoverControlledInflight_iff.mp h
  obtain ⟨⟨leases, rfl⟩, -⟩ := assertSubmissionLeaseTx_ok hlease
  have hsends : c.SameSends db' := hdb ▸ c.settleRecovered_sends c _
  have hrows : db' = c.settleRecovered db' (formatRFC3339Nano now) :=
    hdb.trans hsends.settleRecovered.symm
  have hstart : db.SameSources c := hc ▸ ⟨⟨rfl, rfl⟩, rfl, rfl, rfl, rfl, rfl⟩
  refine ⟨⟨?_, ?_, ?_, ?_, ?_, ?_⟩, hsends.submissions.trans (hc ▸ rfl),
    hsends.permits.trans (hc ▸ rfl), hsends.gateSnapshots.trans (hc ▸ rfl),
    hstart.trans hsends.sources⟩
  all_goals
    conv_lhs => rw [hrows]
    rw [hc]
    rfl

end RbhTrade
