import RbhTrade.Store.Execution

/-!
# The store of the dry runs

Admission of a request, the row a running simulation writes, and the result. The result of an
operation is inserted once and a second insert does nothing; the statuses of the operation and of
its dry-run step, and the route and parameters on the step, are set by every run that gets so far.
-/

namespace RbhTrade

open Tables GoTime

/-- The host of the engine and of the kernel: the identifier of a dry-run step, the address syntax,
and the check of a raw transaction against its artifact. -/
structure ServiceHost extends Host where
  stepID : String → String
  isHexAddress : String → Bool
  verifyRawArtifact : String → SignedArtifact → Except Err Unit

/-- `ServiceHost` to evaluate the model on. -/
def ServiceHost.plain : ServiceHost :=
  { Host.plain with
    stepID := fun operation => operation ++ "/dry"
    isHexAddress := fun _ => true
    verifyRawArtifact := fun _ _ => .ok () }

/-- `CheckTTL`. -/
def DecodedRequest.checkTTL (r : DecodedRequest) (now : Instant) : Except Err Unit :=
  if now = zeroInstant then .error .ttlUnverifiable
  else
    match (parseRFC3339Nano r.expiresAt).filter fun t => formatRFC3339Nano t = r.expiresAt with
    | none => .error .ttlUnverifiable
    | some expires => if now < expires then .ok () else .error .ttlExpired

/-- `DryRunResult`. -/
structure DryRunResult where
  operationId : String
  stepId : String
  success : Bool := false
  route : CurveRoute := {}
  parameters : ExecutionParameters := {}
  unsignedCall : UnsignedCall := {}
  block : BlockRef := {}
  returnData : String := ""
  failureCode : Option FailureClass := none
  failureDetail : String := ""
  duplicate : Bool := false
deriving DecidableEq

/-- `Result`: the stored row with the route and the parameters of its step. -/
def Db.storedResult (db : Db) (operation : String) : Option DryRunResult := do
  let row ← db.dryRunResult operation
  let step ← selectRow (·.id = row.stepId) db.steps
  return { operationId := row.operationId, stepId := row.stepId, success := row.success,
           route := step.route.getD {}, parameters := step.parameters.getD {},
           unsignedCall := step.unsignedCall.getD {},
           block := ⟨row.blockNumber, row.blockHash⟩, returnData := row.returnData,
           failureCode := row.failureCode, failureDetail := row.failureDetail.getD "" }

/-- `Admission` before the terminal result is looked up. -/
structure Admission where
  operationId : String
  stepId : String
  wallet : String
  duplicate : Bool := false
deriving DecidableEq

/-- The step that a dry run starts with. -/
def dryRunStep (host : ServiceHost) (operation stamp : String) : ExecutionStep :=
  { id := host.stepID operation, operationId := operation, stepIndex := 0, status := .created,
    updatedAt := stamp }

/-- The transaction of `Admit`. -/
def admitDryRun (host : ServiceHost) (r : DecodedRequest) (now : Instant) :
    Tx Err Db Admission := do
  Tx.require (now ≠ zeroInstant) .tradeStore
  match r.checkTTL now with
  | .error e => Tx.fail e
  | .ok () => do
      let db ← Tx.query id
      let wallet ← Tx.expect (selectRow (fun w => w.id = r.walletId ∧ w.enabled = true)
        db.dryRunWallets) .sql
      Tx.require (host.isHexAddress wallet.address = true ∧
        host.hexToAddress wallet.address ≠ zeroAddress) .invalidRequest
      let operation := r.operationId
      let admission : Admission :=
        { operationId := operation, stepId := host.stepID operation,
          wallet := host.hexToAddress wallet.address }
      match selectRow (fun o => o.walletId = r.walletId ∧ o.idempotencyKey = r.idempotencyKey)
          db.operations with
      | some existing => do
          Tx.require (existing.id = operation ∧ existing.requestFingerprint = r.fingerprint)
            .idempotencyConflict
          return { admission with duplicate := true }
      | none => do
          let stamp := formatRFC3339Nano now
          Tx.require (∀ o ∈ db.operations, o.id ≠ operation) .idempotencyConflict
          Tx.require (∀ s ∈ db.steps, s.id ≠ host.stepID operation ∧
            ¬ (s.operationId = operation ∧ s.stepIndex = 0)) .sql
          Tx.exec fun db => { db with
            operations := db.operations ++
              [{ id := operation, walletId := r.walletId, idempotencyKey := r.idempotencyKey,
                 requestJson := r.json, requestFingerprint := r.fingerprint, status := .admitted,
                 policyVersion := some r.policyVersion,
                 deadlineCapability := some r.deadlineCapability, expiresAt := some r.expiresAt,
                 updatedAt := stamp }],
            steps := db.steps ++ [dryRunStep host operation stamp] }
          return admission

/-- `MarkRunning`. -/
def markRunning (operation step : String) (route : CurveRoute) (parameters : ExecutionParameters)
    (call : UnsignedCall) (block : BlockRef) (policyVersion : Nat) (expiresAt : String)
    (now : Instant) : Tx Err Db Unit :=
  let stamp := formatRFC3339Nano now
  updateTx fun db => { db with
    steps := updateWhere (fun s => s.id = step ∧ s.operationId = operation)
      (fun s => { s with
        status := .simulating, route := some route, parameters := some parameters,
        unsignedCall := some call, policyVersion := some policyVersion,
        quoteBlockNumber := some block.number, quoteBlockHash := some block.hash,
        expiresAt := some expiresAt, updatedAt := stamp }) db.steps,
    operations := updateWhere (·.id = operation)
      (fun o => { o with status := .executing, updatedAt := stamp }) db.operations }

/-- The row of a result. A result without a block stores none. -/
def DryRunResult.row (r : DryRunResult) (stamp : String) : DryRunResultRow :=
  { operationId := r.operationId, stepId := r.stepId, success := r.success,
    blockNumber := r.block.number, blockHash := if r.block.number = 0 then "" else r.block.hash,
    returnData := r.returnData, failureCode := r.failureCode,
    failureDetail := nullText r.failureDetail, createdAt := stamp }

/-- `INSERT INTO dry_run_results … ON CONFLICT(operation_id) DO NOTHING`. -/
def insertResultTx (r : DryRunResult) (stamp : String) : Tx Err Db Unit := do
  let db ← Tx.query id
  if ∃ x ∈ db.dryRunResults, x.operationId = r.operationId then pure ()
  else do
    Tx.require ((∃ o ∈ db.operations, o.id = r.operationId) ∧ (∃ s ∈ db.steps, s.id = r.stepId) ∧
      ∀ x ∈ db.dryRunResults, x.stepId ≠ r.stepId) .sql
    Tx.exec fun db => { db with dryRunResults := db.dryRunResults ++ [r.row stamp] }

/-- The step and its operation have the status of the result. -/
def Db.finish (db : Db) (r : DryRunResult) (operationStatus : OperationStatus)
    (stepStatus : StepStatus) (stamp : String) : Db :=
  { db with
    steps := updateWhere (fun s => s.id = r.stepId ∧ s.operationId = r.operationId)
      (fun s => { s with status := stepStatus, updatedAt := stamp }) db.steps,
    operations := updateWhere (·.id = r.operationId)
      (fun o => { o with
        status := operationStatus, failureCode := r.failureCode, updatedAt := stamp })
      db.operations }

/-- `finish`. -/
def finish (r : DryRunResult) (operationStatus : OperationStatus) (stepStatus : StepStatus)
    (now : Instant) : Tx Err Db Unit := do
  Tx.require (r.operationId ≠ "" ∧ r.stepId ≠ "") .tradeStore
  let stamp := formatRFC3339Nano now
  insertResultTx r stamp
  updateTx (·.finish r operationStatus stepStatus stamp)

/-- `Complete`. -/
def completeDryRun (r : DryRunResult) (now : Instant) : Tx Err Db Unit :=
  finish r .dryRunSucceeded .succeeded now

/-- `FailClosed`. -/
def failClosed (r : DryRunResult) (now : Instant) : Tx Err Db Unit :=
  finish r .dryRunFailed .failed now

/-- An operation that passed its dry run has expired. -/
def Db.expireUnreserved (db : Db) (operation stamp : String) : Db :=
  { db with
    operations := updateWhere (fun o => o.id = operation ∧ o.status = .dryRunSucceeded)
      (fun o => { o with
        status := .expiredPrebroadcast, failureCode := some .ttlExpired, updatedAt := stamp })
      db.operations }

/-- `ExpireUnreserved`. -/
def expireUnreserved (operation : String) (now : Instant) : Tx Err Db Unit := do
  Tx.require (operation ≠ "" ∧ now ≠ zeroInstant) .tradeStore
  let db ← Tx.query id
  Tx.require (∀ t ∈ db.attempts, ∀ s ∈ db.steps, s.id = t.stepId → s.operationId ≠ operation)
    .artifactIntegrity
  Tx.require (affected (fun o => o.id = operation ∧ o.status = .dryRunSucceeded) db.operations = 1)
    .invalidRequest
  Tx.exec (·.expireUnreserved operation (formatRFC3339Nano now))

/-! ## What the transactions do -/

section Specs

variable {host : ServiceHost} {db db' : Db}

variable {now : Instant}

/-- An admission finds its operation or creates it, with its step. -/
theorem admitDryRun_ok {r : DecodedRequest} {admission : Admission}
    (h : admitDryRun host r now db = .ok (admission, db')) :
    admission.operationId = r.operationId ∧ admission.stepId = host.stepID r.operationId ∧
    ((admission.duplicate = true ∧ db' = db ∧
        ∃ o ∈ db.operations, o.id = r.operationId ∧ o.requestFingerprint = r.fingerprint) ∨
      (admission.duplicate = false ∧ (∀ o ∈ db.operations, o.id ≠ r.operationId) ∧
        (∀ s ∈ db.steps, s.id ≠ host.stepID r.operationId ∧
          ¬ (s.operationId = r.operationId ∧ s.stepIndex = 0)) ∧
        db' = { db with
          operations := db.operations ++
            [{ id := r.operationId, walletId := r.walletId, idempotencyKey := r.idempotencyKey,
               requestJson := r.json, requestFingerprint := r.fingerprint, status := .admitted,
               policyVersion := some r.policyVersion,
               deadlineCapability := some r.deadlineCapability, expiresAt := some r.expiresAt,
               updatedAt := formatRFC3339Nano now }],
          steps := db.steps ++ [dryRunStep host r.operationId (formatRFC3339Nano now)] })) := by
  rw [admitDryRun, Tx.require_bind_ok] at h
  obtain ⟨-, h⟩ := h
  cases httl : r.checkTTL now with
  | error e =>
      rw [httl] at h
      exact absurd h Tx.fail_ok
  | ok _ =>
      simp only [httl, Tx.query_bind, Tx.expect_bind_ok, Tx.require_bind_ok, id_eq] at h
      obtain ⟨wallet, -, -, h⟩ := h
      cases hrow : selectRow (fun o => o.walletId = r.walletId ∧
          o.idempotencyKey = r.idempotencyKey) db.operations with
      | some o =>
          simp only [hrow, Tx.require_bind_ok, Tx.pure_ok] at h
          obtain ⟨hid, rfl, rfl⟩ := h
          exact ⟨rfl, rfl, .inl ⟨rfl, rfl, o, selectRow_mem hrow, hid⟩⟩
      | none =>
          simp only [hrow, Tx.require_bind_ok, Tx.exec_bind, Tx.pure_ok] at h
          obtain ⟨hno, hstep, rfl, rfl⟩ := h
          exact ⟨rfl, rfl, .inr ⟨rfl, hno, hstep, rfl⟩⟩

theorem insertResultTx_ok {r : DryRunResult} {stamp : String} {u : Unit}
    (h : insertResultTx r stamp db = .ok (u, db')) :
    ∃ results, db' = { db with dryRunResults := results } := by
  rw [insertResultTx, Tx.query_bind] at h
  obtain ⟨-, h⟩ | ⟨-, h⟩ := Tx.ite_ok.mp h
  · obtain ⟨-, rfl⟩ := Tx.pure_ok.mp h
    exact ⟨_, rfl⟩
  · rw [Tx.require_bind_ok] at h
    exact ⟨_, (Tx.exec_ok.mp h.2).symm⟩

theorem finish_ok {r : DryRunResult} {operationStatus : OperationStatus} {stepStatus : StepStatus}
    {u : Unit} (h : finish r operationStatus stepStatus now db = .ok (u, db')) :
    UnresolvedOnce db'.steps ∧ ∃ results, db' = { db with dryRunResults := results }.finish r
      operationStatus stepStatus (formatRFC3339Nano now) := by
  rw [finish, Tx.require_bind_ok] at h
  obtain ⟨_, _, hinsert, h⟩ := Tx.bind_ok.mp h.2
  obtain ⟨results, rfl⟩ := insertResultTx_ok hinsert
  obtain ⟨hindex, rfl⟩ := updateTx_ok.mp h
  exact ⟨hindex, results, rfl⟩

theorem expireUnreserved_ok {operation : String} {u : Unit}
    (h : expireUnreserved operation now db = .ok (u, db')) :
    (∀ t ∈ db.attempts, ∀ s ∈ db.steps, s.id = t.stepId → s.operationId ≠ operation) ∧
      db' = db.expireUnreserved operation (formatRFC3339Nano now) := by
  simp only [expireUnreserved, Tx.require_bind_ok, Tx.query_bind, id_eq] at h
  obtain ⟨-, hno, -, h⟩ := h
  exact ⟨hno, (Tx.exec_ok.mp h).symm⟩

end Specs

end RbhTrade
