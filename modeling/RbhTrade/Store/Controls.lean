import RbhTrade.Schema

/-!
# Fences and controls of a send

The checks that every controlled transaction repeats on its own snapshot of the database: the
worker's lease (`assertSubmissionLeaseTx`, `assertRecoveryLeaseTx`) and the mutable controls
(`validateImmediateControlsTx`). Each check has one lemma that says what the database holds when
the check passes; proofs about the transactions cite that lemma and never open the check.

The clock is an argument: `clock` is the value `lease.clock()` returns inside the transaction and
`now` the value the caller read before it began.
-/

namespace RbhTrade

open Tables GoTime

/-- `SubmissionLeaseFence` and `RecoveryLeaseFence` without their clock. -/
structure LeaseFence where
  environment : String
  holderId : String
  epoch : Nat
deriving DecidableEq

def LeaseFence.Complete (lease : LeaseFence) : Prop :=
  lease.environment ≠ "" ∧ lease.holderId ≠ "" ∧ lease.epoch ≠ 0
deriving Decidable

/-- `CanaryGateRequest`. -/
structure CanaryGateRequest where
  operationId : String
  attemptId : String
  authorizationId : String
  authorizationEpoch : Nat
  policyVersion : Nat
  chainId : Nat
  walletId : String
  deployment : DeploymentIdentity
deriving DecidableEq

/-- `RuntimeGateSnapshot`. -/
structure RuntimeGateSnapshot where
  id : String
  operationId : String
  attemptId : String
  stage : GateStage
  authorizationId : String
  policyHash : String
  decision : GateDecision
  reasonCode : String
  authorizationEpoch : Nat
  policyVersion : Nat
  emergencyStopRevision : Nat
  deployment : DeploymentIdentity
  gateEvidenceSetHash : String
  checkedAt : Instant
deriving DecidableEq

/-! ## Leases -/

/-- The `WHERE` clause that picks the lease row of a fence. -/
def WorkerLease.Matches (l : WorkerLease) (role : LeaseRole) (lease : LeaseFence) : Prop :=
  l.role = role ∧ l.environment = lease.environment ∧ l.holderId = lease.holderId ∧
    l.leaseEpoch = lease.epoch
deriving Decidable

/-- The fence's lease row is the current one of its role and environment, and has not expired at
the given clock value. -/
def Db.LeaseCurrent (db : Db) (role : LeaseRole) (lease : LeaseFence) (clock : Instant) : Prop :=
  ∃ l ∈ db.leases, l.Matches role lease ∧ ∃ e, parseRFC3339Nano l.expiresAt = some e ∧ clock < e

/-- `assertSubmissionLeaseTx`: touch the lease row, then require it and its expiry. -/
def assertSubmissionLeaseTx (lease : LeaseFence) (clock : Instant) : Tx Err Db Unit := do
  Tx.require lease.Complete .submissionLeaseLost
  Tx.exec fun db => { db with
    leases := updateWhere (·.Matches .submission lease)
      (fun l => { l with updatedAt := formatRFC3339Nano clock }) db.leases }
  let row ← Tx.query fun db => selectRow (·.Matches .submission lease) db.leases
  let row ← Tx.expect row .submissionLeaseLost
  let expiry ← Tx.expect (parseRFC3339Nano row.expiresAt) .submissionLeaseLost
  Tx.require (clock < expiry) .submissionLeaseLost

/-- `assertRecoveryLeaseTx`; a call without a fence passes. -/
def assertRecoveryLeaseTx (lease : Option LeaseFence) (clock : Instant) : Tx Err Db Unit :=
  match lease with
  | none => pure ()
  | some lease => do
      Tx.require lease.Complete .recoveryLeaseLost
      Tx.require (clock ≠ zeroInstant) .recoveryLeaseLost
      let row ← Tx.query fun db => selectRow (·.Matches .recovery lease) db.leases
      let row ← Tx.expect row .recoveryLeaseLost
      let expiry ← Tx.expect (parseRFC3339Nano row.expiresAt) .recoveryLeaseLost
      Tx.require (clock < expiry) .recoveryLeaseLost

/-- A passed submission fence changed nothing but lease stamps, and the lease was current in the
state the transaction started from. -/
theorem assertSubmissionLeaseTx_ok {lease : LeaseFence} {clock : Instant} {db db' : Db} {u : Unit}
    (h : assertSubmissionLeaseTx lease clock db = .ok (u, db')) :
    (∃ leases, db' = { db with leases := leases }) ∧ db.LeaseCurrent .submission lease clock := by
  simp only [assertSubmissionLeaseTx, Tx.require_bind_ok, Tx.exec_bind, Tx.query_bind,
    Tx.expect_bind_ok, Tx.require_ok] at h
  obtain ⟨-, row, hrow, e, he, hlt, rfl⟩ := h
  refine ⟨⟨_, rfl⟩, ?_⟩
  obtain ⟨-, hno⟩ | ⟨l, hl, hlm, rfl⟩ := mem_updateWhere_cases (selectRow_mem hrow)
  · exact absurd (selectRow_prop hrow) hno
  · exact ⟨l, hl, hlm, e, he, hlt⟩

/-- A passed recovery fence changed nothing. -/
theorem assertRecoveryLeaseTx_ok {lease : Option LeaseFence} {clock : Instant} {db db' : Db}
    {u : Unit} (h : assertRecoveryLeaseTx lease clock db = .ok (u, db')) : db = db' := by
  cases lease with
  | none => exact (Tx.pure_ok.mp h).2
  | some lease =>
      simp only [assertRecoveryLeaseTx, Tx.require_bind_ok, Tx.query_bind, Tx.expect_bind_ok,
        Tx.require_ok] at h
      obtain ⟨-, -, _, -, _, -, -, rfl⟩ := h
      rfl

/-- A recovery fence that was given and passed is the current lease. -/
theorem assertRecoveryLeaseTx_current {lease : LeaseFence} {clock : Instant} {db db' : Db}
    {u : Unit} (h : assertRecoveryLeaseTx (some lease) clock db = .ok (u, db')) :
    db.LeaseCurrent .recovery lease clock := by
  simp only [assertRecoveryLeaseTx, Tx.require_bind_ok, Tx.query_bind, Tx.expect_bind_ok,
    Tx.require_ok] at h
  obtain ⟨-, -, row, hrow, e, he, hlt, -⟩ := h
  have hmatch := selectRow_prop hrow
  exact ⟨row, selectRow_mem hrow, hmatch, e, he, hlt⟩

/-! ## Mutable controls -/

/-- The join of `validateImmediateControlsTx` over the admission of an operation: the state and
policy version of its risk reservation and the expiry of the operation. -/
def Db.admissionBinding (db : Db) (operation wallet : String) :
    Option (RiskState × Nat × String) :=
  db.decisions.findSome? fun d =>
    if d.operationId = operation ∧ d.decision = .admitted ∧ d.walletId = wallet then
      db.riskReservations.findSome? fun rr =>
        if d.reservationId = some rr.id ∧ rr.operationId = d.operationId ∧
            rr.walletId = d.walletId then
          db.admissionSources.findSome? fun src =>
            if src.operationId = d.operationId ∧ rr.sourceHash = some src.sourceHash then
              db.operations.findSome? fun o =>
                if o.id = d.operationId then o.expiresAt.map fun e => (rr.state, rr.policyVersion,
                  e)
                else none
            else none
        else none
    else none

/-- `validateImmediateControlsTx`: it only reads, and its error is the reason of the refusal. -/
def validateImmediateControlsTx (host : Host) (v : RuntimeGateSnapshot) (r : CanaryGateRequest)
    (now : Instant) : Tx GateReason Db Unit := do
  let db ← Tx.query id
  let control ← Tx.expect db.control .controlStateUnavailable
  Tx.require (control.emergencyStopped = false) .emergencyStopped
  Tx.require (control.mode = .controlledCanary) .canaryDisabled
  Tx.require (control.policyVersion = r.policyVersion) .controlPolicyMismatch
  let updated ← Tx.expect (parseRFC3339Nano control.updatedAt) .controlStateChanged
  Tx.require (unixNano64 updated = v.emergencyStopRevision) .controlStateChanged
  Tx.require (r.chainId = chainID) .chainMismatch
  let auth ← Tx.expect (selectRow (·.id = r.authorizationId) db.authorizations)
    .authorizationUnavailable
  Tx.require (auth.state = .armed) .authorizationNotArmed
  Tx.require (auth.epoch = r.authorizationEpoch) .authorizationEpochMismatch
  Tx.require (auth.walletId = r.walletId ∧ auth.policyVersion = r.policyVersion ∧
    auth.deployment = { r.deployment with buildSha := host.toLower r.deployment.buildSha })
    .authorizationBindingMismatch
  let authExpiry ← Tx.expect (parseRFC3339Nano auth.expiresAt) .authorizationExpired
  Tx.require (now < authExpiry) .authorizationExpired
  let (riskState, riskPolicy, operationExpiry) ←
    Tx.expect (db.admissionBinding r.operationId r.walletId) .c07Admission
  Tx.require (riskState.Active ∧ riskPolicy = r.policyVersion) .c07Admission
  let expires ← Tx.expect (parseRFC3339Nano operationExpiry) .ttlInvalidOrExpired
  Tx.require (now < expires) .ttlInvalidOrExpired

/-- What the database holds when the controls let a send pass. -/
structure ControlsPass (db : Db) (r : CanaryGateRequest) : Prop where
  control : ∃ c, db.control = some c ∧ c.emergencyStopped = false ∧ c.mode = .controlledCanary
  authorization : ∃ a, selectRow (·.id = r.authorizationId) db.authorizations = some a ∧
    a.state = .armed ∧ a.epoch = r.authorizationEpoch
  environment : ∀ a, selectRow (·.id = r.authorizationId) db.authorizations = some a →
    a.deployment.environment = r.deployment.environment

theorem validateImmediateControlsTx_ok {host : Host} {v : RuntimeGateSnapshot}
    {r : CanaryGateRequest} {now : Instant} {db db' : Db} {u : Unit}
    (h : validateImmediateControlsTx host v r now db = .ok (u, db')) :
    db' = db ∧ ControlsPass db r := by
  simp only [validateImmediateControlsTx, Tx.query_bind, Tx.expect_bind_ok, Tx.require_bind_ok,
    Tx.require_ok] at h
  obtain ⟨c, hc, hstop, hmode, -, _, -, -, -, a, ha, harmed, hepoch, hbound, _, -, -, _, -, -, _, -,
    -, rfl⟩ := h
  refine ⟨rfl, ⟨c, hc, hstop, hmode⟩, ⟨a, ha, harmed, hepoch⟩, fun a' ha' => ?_⟩
  obtain rfl := Option.some.inj (ha.symm.trans ha')
  rw [hbound.2.2]

/-! ## Gate snapshots -/

/-- The index `canary_gate_snapshot_once` and the primary key. -/
def GateSnapshot.Conflicts (x y : GateSnapshot) : Prop :=
  x.id = y.id ∨
    (x.stage ≠ .immediatePreSend ∧ y.stage ≠ .immediatePreSend ∧ x.operationId = y.operationId ∧
      x.stage = y.stage ∧ x.authorizationEpoch = y.authorizationEpoch ∧
      x.attemptId.getD "" = y.attemptId.getD "")
deriving Decidable

/-- The row `insertGateSnapshotTx` writes for a snapshot. -/
def RuntimeGateSnapshot.toRow (host : Host) (v : RuntimeGateSnapshot) : GateSnapshot where
  id := v.id
  operationId := v.operationId
  attemptId := nullText v.attemptId
  stage := v.stage
  authorizationId := v.authorizationId
  authorizationEpoch := v.authorizationEpoch
  buildSha := host.toLower v.deployment.buildSha
  releaseId := v.deployment.releaseId
  deploymentId := v.deployment.deploymentId
  policyVersion := v.policyVersion
  policyHash := host.toLower v.policyHash
  gateEvidenceSetHash := host.toLower v.gateEvidenceSetHash
  emergencyStopRevision := v.emergencyStopRevision
  decision := v.decision
  reasonCode := v.reasonCode
  checkedAt := formatRFC3339Nano v.checkedAt

/-- `insertGateSnapshotTx`. -/
def insertGateSnapshotTx (host : Host) (v : RuntimeGateSnapshot) : Tx Err Db Unit :=
  Tx.put? (fun db => (insertUnique GateSnapshot.Conflicts (v.toRow host) db.gateSnapshots).map
    fun t => { db with gateSnapshots := t }) .sql

theorem insertGateSnapshotTx_ok {host : Host} {v : RuntimeGateSnapshot} {db db' : Db} {u : Unit}
    (h : insertGateSnapshotTx host v db = .ok (u, db')) :
    (∀ x ∈ db.gateSnapshots, ¬ x.Conflicts (v.toRow host)) ∧
      db' = { db with gateSnapshots := db.gateSnapshots ++ [v.toRow host] } := by
  simp only [insertGateSnapshotTx, Tx.put?_ok, Option.map_eq_some_iff, insertUnique_eq_some] at h
  obtain ⟨t, ⟨hno, rfl⟩, rfl⟩ := h
  exact ⟨hno, rfl⟩

end RbhTrade
