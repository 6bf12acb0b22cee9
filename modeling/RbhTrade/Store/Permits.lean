import RbhTrade.Lib.TimeText
import RbhTrade.Store.ControlledSubmission

/-!
# Authorizations and send permits

An authorization is armed, permits are issued under it, and a permit is consumed once or expires.
Each of these statements compares an expiry with the caller's time as texts.

Triggers that bar these statements from MANUAL rows are left out: they only refuse.
-/

namespace RbhTrade

open Tables GoTime

/-! ## Authorizations -/

/-- The index `one_armed_canary_authorization`; the chain is a constant. -/
def ArmedOnce (t : List RuntimeAuthorization) : Prop :=
  NoConflict (fun x y => x.state = .armed ∧ y.state = .armed ∧
    x.deployment.environment = y.deployment.environment ∧ x.walletId = y.walletId) t
deriving Decidable

/-- The transitions that `TransitionRuntimeAuthorization` makes. -/
def AuthorizationState.MayBecome (source target : AuthorizationState) : Prop :=
  (source = .pending ∧ (target = .armed ∨ target = .revoked ∨ target = .expired)) ∨
    (source = .armed ∧ (target = .revoked ∨ target = .expired ∨ target = .exhausted))
deriving Decidable

/-- The `WHERE` clause of `TransitionRuntimeAuthorization`; only arming looks at the expiry. -/
def RuntimeAuthorization.Transitions (id : String) (source target : AuthorizationState)
    (stamp : String) (a : RuntimeAuthorization) : Prop :=
  a.id = id ∧ a.state = source ∧ (target = .armed → stamp < a.expiresAt)
deriving Decidable

/-- `TransitionRuntimeAuthorization`. -/
def transitionRuntimeAuthorization (id : String) (source target : AuthorizationState)
    (now : Instant) : Tx Err Db Unit := do
  Tx.require (id ≠ "" ∧ now ≠ zeroInstant ∧ source.MayBecome target) .canaryRuntimeRejected
  let stamp := formatRFC3339Nano now
  let changed ← Tx.query fun db =>
    affected (RuntimeAuthorization.Transitions id source target stamp) db.authorizations
  Tx.exec fun db => { db with
    authorizations := updateWhere (RuntimeAuthorization.Transitions id source target stamp)
      (fun a => { a with state := target }) db.authorizations }
  let armed ← Tx.query (·.authorizations)
  Tx.require (ArmedOnce armed) .sql
  Tx.require (changed = 1) .canaryRuntimeRejected

/-! ## Issuing -/

/-- `SendPermit`: what the orchestrator asks to have issued. -/
structure PermitRequest where
  id : String
  operationId : String
  attemptId : String
  authorizationId : String
  authorizationEpoch : Nat
  purpose : PermitPurpose
  artifactHash : String
  txHash : String
  queryEvidenceHash : String := ""
  queriedAt : Instant := zeroInstant
  issuedAt : Instant
  expiresAt : Instant
deriving DecidableEq

/-- The authorization is armed, and its expiry sorts after the time of issue. -/
def RuntimeAuthorization.Covers (p : PermitRequest) (a : RuntimeAuthorization) : Prop :=
  a.id = p.authorizationId ∧ a.epoch = p.authorizationEpoch ∧ a.state = .armed ∧
    formatRFC3339Nano p.issuedAt < a.expiresAt
deriving Decidable

/-- The attempt is the one that the permit names; an unsigned attempt has no hash to compare. -/
def TransactionAttempt.IsOf (p : PermitRequest) (step : ExecutionStep) (t : TransactionAttempt) :
    Prop :=
  step.operationId = p.operationId ∧ t.stepId = step.id ∧ t.id = p.attemptId ∧
    t.payload.map (sqlLower ·.txHash) = some (sqlLower p.txHash)
deriving Decidable

/-- The `COUNT(*)` over authorizations, steps and attempts with which a permit is checked. -/
def Db.permitMatches (db : Db) (p : PermitRequest) : Nat :=
  (db.authorizations.map fun a => (db.steps.map fun s =>
    affected (fun t => RuntimeAuthorization.Covers p a ∧ TransactionAttempt.IsOf p s t)
      db.attempts).sum).sum

/-- The row of an issued permit. -/
def PermitRequest.toRow (host : Host) (p : PermitRequest) : SendPermit where
  id := p.id
  operationId := p.operationId
  attemptId := p.attemptId
  authorizationId := p.authorizationId
  authorizationEpoch := p.authorizationEpoch
  purpose := p.purpose
  artifactHash := host.toLower p.artifactHash
  txHash := host.toLower p.txHash
  queryEvidenceHash :=
    if p.purpose = .unknownReplay then some (host.toLower p.queryEvidenceHash) else none
  queriedAt := if p.purpose = .unknownReplay then some (formatRFC3339Nano p.queriedAt) else none
  state := .issued
  issuedAt := formatRFC3339Nano p.issuedAt
  expiresAt := formatRFC3339Nano p.expiresAt

/-- The `CHECK` constraints of `canary_send_permits`. -/
def SendPermit.Checked (p : SendPermit) : Prop :=
  p.artifactHash.length = 64 ∧ p.txHash.length = 66 ∧
    (p.purpose = .unknownReplay → p.queryEvidenceHash.map (·.length) = some 64)
deriving Decidable

/-- `IssueCanaryPermitAfterGate`. The rows that the permit refers to were counted before. -/
def issueCanaryPermitAfterGate (host : Host) (v : RuntimeGateSnapshot) (p : PermitRequest) :
    Tx Err Db Unit := do
  Tx.require (v.decision = .pass ∧ p.id ≠ "" ∧ p.authorizationId = v.authorizationId ∧
    p.authorizationEpoch = v.authorizationEpoch ∧ p.operationId = v.operationId ∧
    p.attemptId = v.attemptId) .canaryRuntimeRejected
  let found ← Tx.query (·.permitMatches p)
  Tx.require (found = 1) .canaryRuntimeRejected
  insertGateSnapshotTx host v
  Tx.require (p.purpose = .unknownReplay →
    p.queryEvidenceHash.utf8ByteSize = 64 ∧ p.queriedAt ≠ zeroInstant) .canaryRuntimeRejected
  Tx.require (p.toRow host).Checked .sql
  Tx.put? (fun db => (insertUnique SendPermit.Conflicts (p.toRow host) db.permits).map
    fun t => { db with permits := t }) .sql

/-! ## Consuming -/

/-- `UPDATE … SET state='CONSUMED'`, which has to change one row. -/
def consumePermitTx (p : SendPermit → Prop) [DecidablePred p] (now : Instant) {ε : Type} (e : ε) :
    Tx ε Db Unit := do
  let changed ← Tx.query fun db => affected p db.permits
  Tx.exec fun db => { db with permits := updateWhere p (SendPermit.consume now) db.permits }
  Tx.require (changed = 1) e

/-- The `WHERE` clause of `ConsumeSendPermit`. -/
def SendPermit.Spendable (host : Host) (id : String) (purpose : PermitPurpose)
    (artifactHash : String) (now : Instant) (p : SendPermit) : Prop :=
  p.id = id ∧ p.purpose = purpose ∧ p.artifactHash = host.toLower artifactHash ∧
    p.state = .issued ∧ formatRFC3339Nano now < p.expiresAt
deriving Decidable

/-- `ConsumeSendPermit`. -/
def consumeSendPermit (host : Host) (id : String) (purpose : PermitPurpose) (artifactHash : String)
    (now : Instant) : Tx Err Db Unit := do
  Tx.require (now ≠ zeroInstant) .canaryRuntimeRejected
  consumePermitTx (SendPermit.Spendable host id purpose artifactHash now) now
    .canaryRuntimeRejected

/-- The permit belongs to the operation, attempt and authorization of a gate snapshot. -/
def SendPermit.Passed (v : RuntimeGateSnapshot) (p : SendPermit) : Prop :=
  p.operationId = v.operationId ∧ p.attemptId = v.attemptId ∧
    p.authorizationId = v.authorizationId ∧ p.authorizationEpoch = v.authorizationEpoch
deriving Decidable

/-- `ConsumeCanaryPermitAfterGate`. -/
def consumeCanaryPermitAfterGate (host : Host) (v : RuntimeGateSnapshot) (r : CanaryGateRequest)
    (permitId : String) (purpose : PermitPurpose) (artifactHash : String) (now : Instant) :
    Tx Refusal Db Unit := do
  Tx.require (v.decision = .pass ∧ now ≠ zeroInstant) ⟨none, .canaryRuntimeRejected⟩
  (validateImmediateControlsTx host v r now).mapErr
    fun reason => ⟨some reason, .canaryRuntimeRejected⟩
  (insertGateSnapshotTx host v).mapErr fun e => ⟨none, e⟩
  consumePermitTx
    (fun p => p.Passed v ∧ p.Spendable host permitId purpose artifactHash now) now
    ⟨some .permitIdentityMismatch, .canaryRuntimeRejected⟩

/-! ## Expiring -/

/-- The identifier of the audit row of an expired permit. -/
def SendPermit.auditId (host : Host) (stamp : String) (p : SendPermit) : String :=
  host.deterministicID ["canary-runtime", "CONTROLLED_SEND_PERMIT_EXPIRED", p.operationId,
    p.attemptId, p.authorizationId, "PERMIT_EXPIRED", stamp]

/-- The identifier of its alert. -/
def SendPermit.alertId (host : Host) (stamp : String) (p : SendPermit) : String :=
  host.deterministicID ["canary-alert", p.auditId host stamp]

/-- The audit row of an expired permit. -/
def SendPermit.audit (host : Host) (stamp : String) (p : SendPermit) : RuntimeAudit where
  id := p.auditId host stamp
  eventType := "CONTROLLED_SEND_PERMIT_EXPIRED"
  operationId := nullText p.operationId
  attemptId := nullText p.attemptId
  authorizationId := nullText p.authorizationId
  authorizationEpoch := p.authorizationEpoch
  reasonCode := "PERMIT_EXPIRED"
  createdAt := stamp

/-- Its alert. -/
def SendPermit.alert (host : Host) (stamp : String) (p : SendPermit) : RuntimeAlert where
  id := p.alertId host stamp
  auditId := p.auditId host stamp
  severity := "WARNING"
  state := "PENDING"
  createdAt := stamp

/-- The permit after it has expired. -/
def SendPermit.expire (stamp : String) (p : SendPermit) : SendPermit :=
  { p with state := .expired, consumedAt := some stamp }

/-- The permits that `ExpireControlledSendPermits` selects. -/
def Db.duePermits (db : Db) (stamp : String) : List SendPermit :=
  db.permits.filter fun p => p.state = .issued ∧ p.expiresAt ≤ stamp ∧ db.LegacyPermit p

/-- The body of the loop: expire the permit and, if that changed its row, record and report it. -/
def expirePermitTx (host : Host) (stamp : String) (p : SendPermit) : Tx Err Db Unit := do
  let changed ← Tx.query fun db =>
    affected (fun q => q.id = p.id ∧ q.state = .issued ∧ q.expiresAt ≤ stamp) db.permits
  Tx.exec fun db => { db with
    permits := updateWhere (fun q => q.id = p.id ∧ q.state = .issued ∧ q.expiresAt ≤ stamp)
      (SendPermit.expire stamp) db.permits }
  if changed = 1 then do
    Tx.put? (fun db => (insertUnique (·.id = ·.id) (p.audit host stamp) db.runtimeAudit).map
      fun t => { db with runtimeAudit := t }) .sql
    Tx.put? (fun db => (insertUnique (fun x y => x.id = y.id ∨ x.auditId = y.auditId)
      (p.alert host stamp) db.alertOutbox).map fun t => { db with alertOutbox := t }) .sql
  else pure ()

/-- The loop over the selected permits. -/
def expireEachTx (host : Host) (stamp : String) : List SendPermit → Tx Err Db Unit
  | [] => pure ()
  | p :: ps => do
      expirePermitTx host stamp p
      expireEachTx host stamp ps

/-- `ExpireControlledSendPermits`; the listing is taken in the table's order. -/
def expireControlledSendPermits (host : Host) (now : Instant) : Tx Err Db Unit := do
  let due ← Tx.query (·.duePermits (formatRFC3339Nano now))
  expireEachTx host (formatRFC3339Nano now) due

/-! ## What a committed transaction says -/

section Specs

variable {host : Host} {v : RuntimeGateSnapshot} {now : Instant} {stamp : String} {db db' : Db}

/-- A counted match is an authorization that covers the permit. -/
theorem covers_of_permitMatches {p : PermitRequest} (h : db.permitMatches p = 1) :
    ∃ a ∈ db.authorizations, a.Covers p := by
  by_contra hno
  push Not at hno
  have hzero : db.permitMatches p = 0 := by
    refine List.sum_eq_zero_iff_forall_eq_nat.mpr fun n hn => ?_
    obtain ⟨a, ha, rfl⟩ := List.mem_map.mp hn
    refine List.sum_eq_zero_iff_forall_eq_nat.mpr fun m hm => ?_
    obtain ⟨s, -, rfl⟩ := List.mem_map.mp hm
    exact List.countP_eq_zero.mpr fun t _ => by simp [hno a ha]
  omega

theorem issueCanaryPermitAfterGate_ok {p : PermitRequest} {u : Unit}
    (h : issueCanaryPermitAfterGate host v p db = .ok (u, db')) :
    (∃ a ∈ db.authorizations, a.Covers p) ∧
      db' = { db with
        gateSnapshots := db.gateSnapshots ++ [v.toRow host]
        permits := db.permits ++ [p.toRow host] } := by
  simp only [issueCanaryPermitAfterGate, Tx.require_bind_ok, Tx.query_bind] at h
  obtain ⟨-, hmatch, h⟩ := h
  obtain ⟨_, _, hgate, h⟩ := Tx.bind_ok.mp h
  obtain ⟨-, rfl⟩ := insertGateSnapshotTx_ok hgate
  simp only [Tx.require_bind_ok, Tx.put?_ok, Option.map_eq_some_iff, insertUnique_eq_some] at h
  obtain ⟨-, -, _, ⟨-, rfl⟩, rfl⟩ := h
  exact ⟨covers_of_permitMatches hmatch, rfl⟩

theorem consumePermitTx_ok {p : SendPermit → Prop} [DecidablePred p] {ε : Type} {e : ε} {u : Unit}
    (h : consumePermitTx p now e db = .ok (u, db')) :
    affected p db.permits = 1 ∧
      db' = { db with permits := updateWhere p (SendPermit.consume now) db.permits } := by
  simp only [consumePermitTx, Tx.query_bind, Tx.exec_bind, Tx.require_ok] at h
  exact ⟨h.1, h.2.symm⟩

theorem consumeSendPermit_ok {id artifactHash : String} {purpose : PermitPurpose} {u : Unit}
    (h : consumeSendPermit host id purpose artifactHash now db = .ok (u, db')) :
    db'.permits = updateWhere (SendPermit.Spendable host id purpose artifactHash now)
      (SendPermit.consume now) db.permits := by
  simp only [consumeSendPermit, Tx.require_bind_ok] at h
  obtain ⟨-, rfl⟩ := consumePermitTx_ok h.2
  rfl

theorem consumeCanaryPermitAfterGate_ok {r : CanaryGateRequest} {permitId artifactHash : String}
    {purpose : PermitPurpose} {u : Unit}
    (h : consumeCanaryPermitAfterGate host v r permitId purpose artifactHash now db =
      .ok (u, db')) :
    db' = { db with
      gateSnapshots := db.gateSnapshots ++ [v.toRow host]
      permits := updateWhere
        (fun p => p.Passed v ∧ p.Spendable host permitId purpose artifactHash now)
        (SendPermit.consume now) db.permits } := by
  unfold consumeCanaryPermitAfterGate at h
  rw [Tx.require_bind_ok] at h
  obtain ⟨_, db₁, hcontrols, hrest⟩ := Tx.bind_ok.mp h.2
  obtain ⟨_, db₂, hgate, hconsume⟩ := Tx.bind_ok.mp hrest
  obtain ⟨rfl, -⟩ := validateImmediateControlsTx_ok (Tx.mapErr_ok.mp hcontrols)
  obtain ⟨-, rfl⟩ := insertGateSnapshotTx_ok (Tx.mapErr_ok.mp hgate)
  obtain ⟨-, rfl⟩ := consumePermitTx_ok hconsume
  rfl

end Specs

/-! ## What an expiry does -/

/-- The primary key of `canary_send_permits`. -/
def PermitKeys (t : List SendPermit) : Prop := NoConflict (fun x y => x.id = y.id) t
deriving Decidable

theorem PermitKeys.eq {t : List SendPermit} (h : PermitKeys t) {x y : SendPermit} (hx : x ∈ t)
    (hy : y ∈ t) (he : x.id = y.id) : x = y :=
  NoConflict.eq h (fun _ _ h => h.symm) hx hy he

section Expiry

variable {host : Host} {stamp : String} {db db' : Db} {p : SendPermit} {ps : List SendPermit}

end Expiry

end RbhTrade
