import RbhTrade.Schema

/-!
# Reservation, signing and expiry of an execution

The execution kernel's store: reserving a wallet lane and a nonce for an operation, committing the
signed artifact, loading it back, and giving the reservation up. Each function is one transaction.
The primary key of each table written here, and the partial unique index that allows one unresolved
execution step per wallet, are checked as part of the write.
-/

namespace RbhTrade

open Tables GoTime

/-- `SignedArtifact` together with the ciphertext that `encryptedArtifact` adds to it. -/
structure SignedArtifact where
  attemptId : String
  operation : String
  stepId : String
  walletId : String
  nonce : Nat
  payload : SignedPayload
  policyVersion : Nat := 0
  quoteBlockNumber : Nat := 0
  quoteBlockHash : String := ""
  expiresAt : String := ""
deriving DecidableEq

def SignedArtifact.txHash (a : SignedArtifact) : String := a.payload.txHash

/-- `executionStepID`. -/
def executionStepID (host : Host) (operation : String) : String :=
  host.deterministicID [operation, "execution", "1"]

/-- `attemptID`. -/
def attemptID (host : Host) (step : String) : String :=
  host.deterministicID [step, "attempt", "0"]

/-- The index `one_unresolved_execution_per_wallet`: two unresolved steps never share a wallet. -/
def UnresolvedOnce (steps : List ExecutionStep) : Prop :=
  steps.Pairwise fun x y =>
    ¬ (x.walletId ≠ none ∧ x.walletId = y.walletId ∧ x.status.Unresolved ∧ y.status.Unresolved)
deriving Decidable

/-- UPDATE statements, refused when the index would be violated. The one of the steps sets one
status, so the rows it has reached never violate the index earlier than the whole table does. -/
def updateTx (write : Db → Db) : Tx Err Db Unit :=
  Tx.put? (fun db => if UnresolvedOnce (write db).steps then some (write db) else none) .sql

variable {db db' : Db} {f g : ExecutionStep → ExecutionStep} {p : ExecutionStep → Prop}
  {t : List ExecutionStep} {now : Instant} {operation : String} {a : SignedArtifact}

theorem updateTx_ok {write : Db → Db} {u : Unit} :
    updateTx write db = .ok (u, db') ↔ UnresolvedOnce (write db).steps ∧ write db = db' := by
  simp only [updateTx, Tx.put?_ok]
  split <;> simp [*]

/-- A change that makes no step unresolved keeps the index. -/
theorem UnresolvedOnce.map (h : UnresolvedOnce t)
    (hg : ∀ s ∈ t, (g s).walletId = s.walletId ∧ ((g s).status.Unresolved → s.status.Unresolved)) :
    UnresolvedOnce (t.map g) := by
  refine List.pairwise_map.mpr (List.Pairwise.imp_of_mem (fun {x y} hx hy hxy => ?_) h)
  rintro ⟨hne, hw, hux, huy⟩
  rw [(hg x hx).1] at hne hw
  rw [(hg y hy).1] at hw
  exact hxy ⟨hne, hw, (hg x hx).2 hux, (hg y hy).2 huy⟩

theorem UnresolvedOnce.updateWhere [DecidablePred p] (h : UnresolvedOnce t) (hf : ∀ s ∈ t, p s →
      (f s).walletId = s.walletId ∧ ((f s).status.Unresolved → s.status.Unresolved)) :
    UnresolvedOnce (updateWhere p f t) := by
  refine h.map fun s hs => ?_
  split
  · exact hf s hs (by assumption)
  · exact ⟨rfl, id⟩

theorem UnresolvedOnce.resolve [DecidablePred p] (h : UnresolvedOnce t)
    (hf : ∀ s, (f s).walletId = s.walletId ∧ ¬ (f s).status.Unresolved) :
    UnresolvedOnce (Tables.updateWhere p f t) :=
  h.updateWhere fun s _ _ => ⟨(hf s).1, fun hc => absurd hc (hf s).2⟩

/-! ## Lanes -/

/-- The primary key of the lanes. -/
def WalletLane.Conflicts (k l : WalletLane) : Prop := k.walletId = l.walletId
deriving Decidable

theorem WalletLane.keys_updateWhere {p : WalletLane → Prop} [DecidablePred p]
    {f : WalletLane → WalletLane} {t : List WalletLane} (h : NoConflict WalletLane.Conflicts t)
    (hf : ∀ l, (f l).walletId = l.walletId) :
    NoConflict WalletLane.Conflicts (updateWhere p f t) := by
  refine h.updateWhere fun k l hc => ?_
  unfold WalletLane.Conflicts at hc ⊢
  split at hc <;> split at hc <;> simpa only [hf] using hc

/-- The `WHERE wallet_id=? AND operation_id=?` clause that protects a lane owned by another
operation. -/
def WalletLane.OwnedBy (l : WalletLane) (wallet operation : String) : Prop :=
  l.walletId = wallet ∧ l.operationId = some operation
deriving Decidable

/-- A lane cleared for the next operation. -/
def WalletLane.clear (reason : Option String) (stamp : String) (l : WalletLane) : WalletLane :=
  { l with
    state := .idle, operationId := none, stepId := none, reservedNonce := none,
    freezeReason := reason, updatedAt := stamp }

/-- A lane frozen under its present owner. -/
def WalletLane.freeze (reason : String) (stamp : String) (l : WalletLane) : WalletLane :=
  { l with state := .frozen, freezeReason := some reason, updatedAt := stamp }

/-- The lane that a reservation takes. -/
def WalletLane.FreeFor (l : WalletLane) (walletId signer : String) : Prop :=
  l.walletId = walletId ∧ l.address = signer ∧ l.state = .idle
deriving Decidable

/-- A lane taken by an operation. -/
def WalletLane.reserve (operation step : String) (nonce : Nat) (stamp : String) (l : WalletLane) :
    WalletLane :=
  { l with
    state := .reserved, operationId := some operation, stepId := some step,
    reservedNonce := some nonce, freezeReason := none, updatedAt := stamp }

/-! ## Reservation -/

/-- `ExecutionReservation` as the store returns it. -/
structure ReservedExecution where
  operationId : String
  stepId : String
  attemptId : String
  walletId : String
  wallet : String
  nonce : Nat
  duplicate : Bool
deriving DecidableEq

/-- `resultTx`: the stored dry run of an operation, when its step still exists. -/
def Db.dryRunResult (db : Db) (operation : String) : Option DryRunResultRow :=
  selectRow (fun r => r.operationId = operation ∧ ∃ s ∈ db.steps, s.id = r.stepId) db.dryRunResults

/-- The insert of an idle lane with `ON CONFLICT(wallet_id) DO NOTHING`. The address is unique on
its own. -/
def withLane (walletId signer stamp : String) (t : List WalletLane) : List WalletLane :=
  if ∃ l ∈ t, l.walletId = walletId then t
  else t ++ [{ walletId := walletId, address := signer, state := .idle, updatedAt := stamp }]

/-- `ReserveExecution`. -/
def reserveExecution (host : Host) (operation walletId signer : String) (nonce : Nat)
    (inputAsset inputAmount gasBudget : String) (now : Instant) : Tx Err Db ReservedExecution := do
  Tx.require (operation ≠ "" ∧ walletId ≠ "" ∧ signer ≠ zeroAddress ∧ now ≠ zeroInstant)
    .invalidRequest
  let db ← Tx.query id
  let op ← Tx.expect (selectRow (fun o => o.id = operation ∧ o.walletId = walletId ∧
    (o.status = .dryRunSucceeded ∨ o.status = .executionPrepared ∨
      o.status = .signedPrebroadcast)) db.operations) .sql
  let wallet ← Tx.expect (selectRow (fun w => w.id = walletId ∧ w.enabled = true)
    db.dryRunWallets) .sql
  Tx.require (host.hexToAddress wallet.address = signer) .wrongSigner
  let request ← Tx.expect (host.decodeRequest op.requestJson) .invalidRequest
  Tx.require (request.fingerprint = op.requestFingerprint ∧ request.operationId = operation ∧
    request.policyVersion ≠ 0) .idempotencyConflict
  let dryRun ← Tx.expect (db.dryRunResult operation) .sql
  Tx.require (dryRun.success = true) .sql
  let step := executionStepID host operation
  let attempt := attemptID host step
  match selectRow (·.id = attempt) db.attempts with
  | some existing =>
      Tx.require (existing.nonce = nonce) .nonceConflict
      return ⟨operation, step, attempt, walletId, signer, nonce, true⟩
  | none => do
      let stamp := formatRFC3339Nano now
      Tx.require ((∃ l ∈ db.lanes, l.walletId = walletId) ∨ ∀ l ∈ db.lanes, l.address ≠ signer) .sql
      Tx.exec fun db => { db with lanes := withLane walletId signer stamp db.lanes }
      let newStep : ExecutionStep :=
        { id := step, operationId := operation, stepIndex := 1, status := .nonceReserved,
          walletId := some walletId, policyVersion := some request.policyVersion,
          quoteBlockNumber := some dryRun.blockNumber, quoteBlockHash := some dryRun.blockHash,
          expiresAt := some request.expiresAt, updatedAt := stamp }
      Tx.require ((∀ s ∈ db.steps, s.id ≠ step ∧ ¬ (s.operationId = operation ∧ s.stepIndex = 1)) ∧
        UnresolvedOnce (db.steps ++ [newStep])) .walletLaneBusy
      Tx.exec fun db => { db with steps := db.steps ++ [newStep] }
      let changed ← Tx.query fun db => affected (·.FreeFor walletId signer) db.lanes
      Tx.exec fun db => { db with
        lanes := updateWhere (·.FreeFor walletId signer)
          (WalletLane.reserve operation step nonce stamp) db.lanes }
      Tx.require (changed = 1) .walletLaneBusy
      Tx.require (∀ r ∈ db.reservations, r.operationId ≠ operation ∧ r.stepId ≠ step) .sql
      Tx.exec fun db => { db with
        reservations := db.reservations ++
          [{ operationId := operation, stepId := step, walletId := walletId,
             inputAsset := inputAsset, inputAmount := inputAmount, gasBudget := gasBudget,
             status := .reserved, createdAt := stamp, updatedAt := stamp }],
        attempts := db.attempts ++
          [{ id := attempt, stepId := step, nonce := nonce, status := .prepared,
             walletId := walletId, policyVersion := request.policyVersion,
             quoteBlockNumber := dryRun.blockNumber, quoteBlockHash := dryRun.blockHash,
             expiresAt := request.expiresAt, updatedAt := stamp }],
        operations := updateWhere (·.id = operation)
          (fun o => { o with status := .executionPrepared, updatedAt := stamp }) db.operations }
      return ⟨operation, step, attempt, walletId, signer, nonce, false⟩

/-- What a new reservation wrote. -/
structure LaneReserved (operation walletId signer stamp : String) (db db' : Db) : Prop where
  one : affected (·.FreeFor walletId signer) (withLane walletId signer stamp db.lanes) = 1
  lanes : ∃ step nonce, db'.lanes = updateWhere (·.FreeFor walletId signer)
    (WalletLane.reserve operation step nonce stamp) (withLane walletId signer stamp db.lanes)
  rows : ∃ (s : ExecutionStep) (t : TransactionAttempt), s.operationId = operation ∧
    s.stepIndex = 1 ∧ s.walletId = some walletId ∧ t.stepId = s.id ∧ t.walletId = walletId ∧
    (∀ x ∈ db.steps, x.id ≠ s.id ∧ ¬ (x.operationId = operation ∧ x.stepIndex = 1)) ∧
    db'.steps = db.steps ++ [s] ∧ db'.attempts = db.attempts ++ [t]
  index : UnresolvedOnce db'.steps
  effects : db'.effects = db.effects
  orders : db'.manualOrderSources = db.manualOrderSources
  claims : db'.manualNonceClaims = db.manualNonceClaims

theorem reserveExecution_ok {host : Host} {walletId signer : String} {nonce : Nat}
    {inputAsset inputAmount gasBudget : String} {r : ReservedExecution}
    (h : reserveExecution host operation walletId signer nonce inputAsset inputAmount gasBudget now
      db = .ok (r, db')) :
    db = db' ∨ LaneReserved operation walletId signer (formatRFC3339Nano now) db db' := by
  simp only [reserveExecution, Tx.require_bind_ok, Tx.query_bind, Tx.expect_bind_ok, id_eq] at h
  obtain ⟨-, op, -, wallet, -, -, request, -, -, dryRun, -, -, h⟩ := h
  cases hstored : selectRow (·.id = attemptID host (executionStepID host operation))
      db.attempts with
  | some existing =>
      simp only [hstored, Tx.require_bind_ok, Tx.pure_ok] at h
      exact .inl h.2.2
  | none =>
      simp only [hstored, Tx.require_bind_ok, Tx.exec_bind, Tx.query_bind, Tx.pure_ok] at h
      obtain ⟨-, hfresh, hone, -, -, rfl⟩ := h
      exact .inr ⟨hone, ⟨_, _, rfl⟩, ⟨_, _, rfl, rfl, rfl, rfl, rfl, hfresh.1, rfl, rfl⟩, hfresh.2,
        rfl, rfl, rfl⟩

/-- The step that a reservation inserts. -/
def reservedStep (host : Host) (operation walletId : String) (request : DecodedRequest)
    (dryRun : DryRunResultRow) (stamp : String) : ExecutionStep :=
  { id := executionStepID host operation, operationId := operation, stepIndex := 1,
    status := .nonceReserved, walletId := some walletId, policyVersion :=
    some request.policyVersion, quoteBlockNumber := some dryRun.blockNumber, quoteBlockHash :=
    some dryRun.blockHash, expiresAt := some request.expiresAt, updatedAt := stamp }

/-- The attempt that a reservation inserts. -/
def reservedAttempt (host : Host) (operation walletId : String) (nonce : Nat)
    (request : DecodedRequest) (dryRun : DryRunResultRow) (stamp : String) : TransactionAttempt :=
  { id := attemptID host (executionStepID host operation), stepId := executionStepID host operation,
    nonce := nonce, status := .prepared, walletId := walletId,
    policyVersion := request.policyVersion, quoteBlockNumber := dryRun.blockNumber,
    quoteBlockHash := dryRun.blockHash, expiresAt := request.expiresAt, updatedAt := stamp }

/-- What a new reservation found and wrote outside the lanes. -/
structure ReservationMade (host : Host) (operation walletId : String) (nonce : Nat)
    (stamp : String) (db db' : Db) : Prop where
  free : ∀ t ∈ db.attempts, t.id ≠ attemptID host (executionStepID host operation)
  fresh : ∀ s ∈ db.steps, s.id ≠ executionStepID host operation ∧
    ¬ (s.operationId = operation ∧ s.stepIndex = 1)
  rows : ∃ request dryRun,
    db'.steps = db.steps ++ [reservedStep host operation walletId request dryRun stamp] ∧
    db'.attempts = db.attempts ++
      [reservedAttempt host operation walletId nonce request dryRun stamp]
  unreserved : ∀ r ∈ db.reservations, r.operationId ≠ operation
  reservations : ∃ r, r.operationId = operation ∧ r.walletId = walletId ∧ r.status = .reserved ∧
    db'.reservations = db.reservations ++ [r]
  operations : db'.operations = updateWhere (·.id = operation)
    (fun o => { o with status := .executionPrepared, updatedAt := stamp }) db.operations
  results : db'.dryRunResults = db.dryRunResults
  submissions : db'.submissions = db.submissions

/-- A reservation is of an operation with its wallet. It is an old one with the same nonce, or
new. -/
theorem reserveExecution_made {host : Host} {walletId signer : String} {nonce : Nat}
    {inputAsset inputAmount gasBudget : String} {r : ReservedExecution}
    (h : reserveExecution host operation walletId signer nonce inputAsset inputAmount gasBudget now
      db = .ok (r, db')) :
    r = ⟨operation, executionStepID host operation, attemptID host (executionStepID host operation),
        walletId, signer, nonce, r.duplicate⟩ ∧
      (∃ o ∈ db.operations, o.id = operation ∧ o.walletId = walletId ∧
        (o.status = .dryRunSucceeded ∨ o.status = .executionPrepared ∨
          o.status = .signedPrebroadcast)) ∧
      (∃ x ∈ db.dryRunResults, x.operationId = operation ∧ x.success = true ∧
        ∃ s ∈ db.steps, s.id = x.stepId) ∧
      ((db' = db ∧ ∃ t ∈ db.attempts, t.id = attemptID host (executionStepID host operation) ∧
          t.nonce = nonce) ∨
        ReservationMade host operation walletId nonce (formatRFC3339Nano now) db db') := by
  simp only [reserveExecution, Tx.require_bind_ok, Tx.query_bind, Tx.expect_bind_ok, id_eq] at h
  obtain ⟨-, op, hop, wallet, -, -, request, -, -, dryRun, hdry, hsuccess, h⟩ := h
  have hopProp := selectRow_prop hop
  have hdryProp := selectRow_prop hdry
  have hfound : ∃ o ∈ db.operations, o.id = operation ∧ o.walletId = walletId ∧
      (o.status = .dryRunSucceeded ∨ o.status = .executionPrepared ∨
        o.status = .signedPrebroadcast) := ⟨op, selectRow_mem hop, hopProp⟩
  have hresult : ∃ x ∈ db.dryRunResults, x.operationId = operation ∧ x.success = true ∧
      ∃ s ∈ db.steps, s.id = x.stepId :=
    ⟨dryRun, selectRow_mem hdry, hdryProp.1, hsuccess, hdryProp.2⟩
  cases hstored : selectRow (·.id = attemptID host (executionStepID host operation))
      db.attempts with
  | some t =>
      have ht := selectRow_prop hstored
      simp only [hstored, Tx.require_bind_ok, Tx.pure_ok] at h
      obtain ⟨hnonce, rfl, rfl⟩ := h
      exact ⟨rfl, hfound, hresult, .inl ⟨rfl, t, selectRow_mem hstored, ht, hnonce⟩⟩
  | none =>
      simp only [hstored, Tx.require_bind_ok, Tx.exec_bind, Tx.query_bind, Tx.pure_ok] at h
      obtain ⟨-, hfresh, -, hfree, rfl, rfl⟩ := h
      refine ⟨rfl, hfound, hresult, .inr ⟨selectRow_eq_none.mp hstored, hfresh.1,
        ⟨request, dryRun, rfl, rfl⟩, fun x hx => (hfree x hx).1, ⟨_, rfl, rfl, rfl, rfl⟩, rfl, rfl,
        rfl⟩⟩

/-! ## Signing -/

/-- The `WHERE` clause with which `CommitSigned` finds the prepared attempt of its artifact. -/
def TransactionAttempt.PreparedFor (t : TransactionAttempt) (a : SignedArtifact) : Prop :=
  t.id = a.attemptId ∧ t.stepId = a.stepId ∧ t.nonce = a.nonce ∧ t.status = .prepared ∧
    t.policyVersion = a.policyVersion ∧ t.quoteBlockNumber = a.quoteBlockNumber ∧
    t.quoteBlockHash = a.quoteBlockHash ∧ t.expiresAt = a.expiresAt
deriving Decidable

/-- The artifact is stored. -/
def Db.sign (db : Db) (a : SignedArtifact) (stamp : String) : Db :=
  { db with
    attempts := updateWhere (·.PreparedFor a)
      (fun t => { t with status := .signed, payload := some a.payload, updatedAt := stamp })
      db.attempts,
    steps := updateWhere (·.id = a.stepId)
      (fun s => { s with status := .signed, updatedAt := stamp })
      db.steps,
    reservations := updateWhere (·.operationId = a.operation)
      (fun r => { r with status := .signed, updatedAt := stamp }) db.reservations,
    lanes := updateWhere
      (fun l => l.OwnedBy a.walletId a.operation ∧ l.reservedNonce = some a.nonce)
      (fun l => { l with state := .signed, updatedAt := stamp }) db.lanes,
    operations := updateWhere (·.id = a.operation)
      (fun o => { o with status := .signedPrebroadcast, updatedAt := stamp }) db.operations }

/-- `CommitSigned`. -/
def commitSigned (reservation : ReservedExecution) (a : SignedArtifact) (now : Instant) :
    Tx Err Db Unit := do
  Tx.require (a.payload.encryptedRawTx ≠ "" ∧ a.payload.encryptionNonce ≠ "" ∧
    a.payload.keyVersion ≠ "" ∧ a.attemptId = reservation.attemptId ∧ a.nonce = reservation.nonce)
    .artifactIntegrity
  let changed ← Tx.query fun db => affected (·.PreparedFor a) db.attempts
  Tx.require (changed = 1) .artifactIntegrity
  updateTx (·.sign a (formatRFC3339Nano now))

theorem commitSigned_eq {reservation : ReservedExecution} {u : Unit}
    (h : commitSigned reservation a now db = .ok (u, db')) :
    affected (·.PreparedFor a) db.attempts = 1 ∧ UnresolvedOnce db'.steps ∧
      db' = db.sign a (formatRFC3339Nano now) := by
  simp only [commitSigned, Tx.require_bind_ok, Tx.query_bind, updateTx_ok] at h
  obtain ⟨-, hone, hindex, rfl⟩ := h
  exact ⟨hone, hindex, rfl⟩

/-- The artifact that an attempt row holds. -/
def TransactionAttempt.artifact (t : TransactionAttempt) (operation : String) :
    Option SignedArtifact :=
  t.payload.map fun payload =>
    { attemptId := t.id, operation := operation, stepId := t.stepId, walletId := t.walletId,
      nonce := t.nonce, payload := payload, policyVersion := t.policyVersion,
      quoteBlockNumber := t.quoteBlockNumber, quoteBlockHash := t.quoteBlockHash,
      expiresAt := t.expiresAt }

/-- `LoadEncryptedArtifact`: the signed attempt of an operation whose policy, quote and expiry
still agree with its step and its operation. A MANUAL attempt also needs its claim. -/
def loadEncryptedArtifact (host : Host) (db : Db) (operation : String) : Option SignedArtifact :=
  db.attempts.findSome? fun a =>
    db.steps.findSome? fun s =>
      db.operations.findSome? fun o =>
        if s.id = a.stepId ∧ o.id = s.operationId ∧ s.operationId = operation ∧
            a.status = .signed ∧ o.policyVersion = some a.policyVersion ∧
            o.expiresAt = some a.expiresAt ∧ s.policyVersion = some a.policyVersion ∧
            s.quoteBlockNumber = some a.quoteBlockNumber ∧
            s.quoteBlockHash = some a.quoteBlockHash ∧ s.expiresAt = some a.expiresAt ∧
            ((∀ m ∈ db.manualOrderSources, m.operationId ≠ s.operationId) ∨
              ((∃ q ∈ db.manualNonceClaims, q.operationId = s.operationId ∧
                q.executionStepId = s.id ∧ q.attemptId = a.id ∧ q.walletId = a.walletId) ∧
              host.manualAttemptExpected a = true)) then
          a.payload.map fun payload =>
            { attemptId := a.id, operation := operation, stepId := a.stepId,
              walletId := a.walletId, nonce := a.nonce, payload := payload,
              policyVersion := a.policyVersion, quoteBlockNumber := a.quoteBlockNumber,
              quoteBlockHash := a.quoteBlockHash, expiresAt := a.expiresAt }
        else none

/-- The artifact names a stored attempt, its step, its wallet and its operation. -/
def Db.Stores (db : Db) (a : SignedArtifact) : Prop :=
  ∃ t ∈ db.attempts, ∃ s ∈ db.steps, t.id = a.attemptId ∧ t.stepId = a.stepId ∧
    t.walletId = a.walletId ∧ s.id = t.stepId ∧ s.operationId = a.operation
deriving Decidable

/-- A loaded artifact is that of a signed attempt of a step of the operation. -/
theorem loadEncryptedArtifact_row {host : Host}
    (h : loadEncryptedArtifact host db operation = some a) :
    ∃ t ∈ db.attempts, t.status = .signed ∧ t.artifact operation = some a ∧
      (∃ s ∈ db.steps, s.id = t.stepId ∧ s.operationId = operation) ∧
      ∃ o ∈ db.operations, o.id = operation := by
  unfold loadEncryptedArtifact at h
  obtain ⟨t, ht, h⟩ := List.exists_of_findSome?_eq_some h
  obtain ⟨s, hs, h⟩ := List.exists_of_findSome?_eq_some h
  obtain ⟨o, ho, h⟩ := List.exists_of_findSome?_eq_some h
  split at h
  · rename_i hc
    exact ⟨t, ht, hc.2.2.2.1, h, ⟨s, hs, hc.1, hc.2.2.1⟩, o, ho, hc.2.1.trans hc.2.2.1⟩
  · cases h

theorem loadEncryptedArtifact_some {host : Host}
    (h : loadEncryptedArtifact host db operation = some a) :
    db.Stores a ∧ a.operation = operation := by
  obtain ⟨t, ht, -, ha, ⟨s, hs, hst, hop⟩, -⟩ := loadEncryptedArtifact_row h
  obtain ⟨payload, -, rfl⟩ := Option.map_eq_some_iff.mp ha
  exact ⟨⟨t, ht, s, hs, rfl, rfl, rfl, hst, hop⟩, rfl⟩

/-! ## What an execution holds -/

/-- The columns of an attempt that no write changes. -/
def TransactionAttempt.identity (t : TransactionAttempt) : String × String × String :=
  (t.id, t.stepId, t.walletId)

/-- The columns of a step that no write changes. -/
def ExecutionStep.identity (s : ExecutionStep) : String × String × Nat × Option String :=
  (s.id, s.operationId, s.stepIndex, s.walletId)

/-- The attempts and the steps are the same, up to their statuses. -/
structure Db.SameIdentities (db db' : Db) : Prop where
  attempts : db'.attempts.map TransactionAttempt.identity =
    db.attempts.map TransactionAttempt.identity
  steps : db'.steps.map ExecutionStep.identity = db.steps.map ExecutionStep.identity

namespace Db.SameIdentities

variable {db db₁ db' : Db}

theorem trans (h : db.SameIdentities db₁) (h' : db₁.SameIdentities db') : db.SameIdentities db' :=
  ⟨h'.attempts.trans h.attempts, h'.steps.trans h.steps⟩

theorem symm (h : db.SameIdentities db') : db'.SameIdentities db :=
  ⟨h.attempts.symm, h.steps.symm⟩

theorem attempt (h : db.SameIdentities db') {t' : TransactionAttempt} (ht : t' ∈ db'.attempts) :
    ∃ t ∈ db.attempts, t.id = t'.id ∧ t.stepId = t'.stepId ∧ t.walletId = t'.walletId := by
  have hmem : t'.identity ∈ db.attempts.map TransactionAttempt.identity :=
    h.attempts ▸ List.mem_map_of_mem ht
  obtain ⟨t, ht, he⟩ := List.mem_map.mp hmem
  simp only [TransactionAttempt.identity, Prod.mk.injEq] at he
  exact ⟨t, ht, he⟩

theorem step (h : db.SameIdentities db') {s' : ExecutionStep} (hs : s' ∈ db'.steps) :
    ∃ s ∈ db.steps, s.id = s'.id ∧ s.operationId = s'.operationId ∧
      s.stepIndex = s'.stepIndex ∧ s.walletId = s'.walletId := by
  have hmem : s'.identity ∈ db.steps.map ExecutionStep.identity :=
    h.steps ▸ List.mem_map_of_mem hs
  obtain ⟨s, hs, he⟩ := List.mem_map.mp hmem
  simp only [ExecutionStep.identity, Prod.mk.injEq] at he
  exact ⟨s, hs, he⟩

theorem stores (h : db.SameIdentities db') (ha : db.Stores a) :
    db'.Stores a := by
  obtain ⟨t, ht, s, hs, hid, hstep, hw, hst, hop⟩ := ha
  obtain ⟨t', ht', htid, htstep, htw⟩ := h.symm.attempt ht
  obtain ⟨s', hs', hsid, hsop, -⟩ := h.symm.step hs
  exact ⟨t', ht', s', hs', htid.trans hid, htstep.trans hstep, htw.trans hw,
    by rw [hsid, htstep, hst], hsop.trans hop⟩

theorem of_updates {p : TransactionAttempt → Prop} [DecidablePred p] {q : ExecutionStep → Prop}
    [DecidablePred q] {f : TransactionAttempt → TransactionAttempt}
    (ha : db'.attempts = updateWhere p f db.attempts) (hs : db'.steps = updateWhere q g db.steps)
    (hf : ∀ t, (f t).identity = t.identity) (hg : ∀ s, (g s).identity = s.identity) :
    db.SameIdentities db' :=
  ⟨by rw [ha, map_updateWhere _ fun t _ => hf t], by rw [hs, map_updateWhere _ fun s _ => hg s]⟩

theorem of_steps {q : ExecutionStep → Prop} [DecidablePred q] (ha : db'.attempts = db.attempts)
    (hs : db'.steps = updateWhere q g db.steps) (hg : ∀ s, (g s).identity = s.identity) :
    db.SameIdentities db' :=
  ⟨by rw [ha], by rw [hs, map_updateWhere _ fun s _ => hg s]⟩

end Db.SameIdentities

/-- What the executions hold is the same. -/
structure Db.SameHoldings (db db' : Db) : Prop where
  lanes : db'.lanes = db.lanes
  reservations : db'.reservations = db.reservations
  riskReservations : db'.riskReservations = db.riskReservations
  attempts : db'.attempts = db.attempts
  steps : db'.steps = db.steps

theorem Db.SameHoldings.identities (h : db.SameHoldings db') :
    db.SameIdentities db' := ⟨by rw [h.attempts], by rw [h.steps]⟩

/-! ## Expiry and freezing -/

/-- `CheckOperationTTL` over `ExpiryBinding` and `parseCanonicalExpiry`. -/
def checkOperationTTL (db : Db) (operation : String) (now : Instant) : Except Err Unit := do
  let o ← (selectRow (·.id = operation) db.operations).elim (.error .ttlUnverifiable) .ok
  if o.deadlineCapability ≠ some "APPLICATION_TTL_ONLY" then .error .ttlUnverifiable
  let text ← o.expiresAt.elim (.error .ttlUnverifiable) .ok
  let expires ← (parseRFC3339Nano text).elim (.error .ttlUnverifiable) .ok
  if formatRFC3339Nano expires ≠ text then .error .ttlUnverifiable
  if now = zeroInstant then .error .ttlUnverifiable
  if ¬ now < expires then .error .ttlExpired

/-- `SubmissionRecord`: the part of a submission row that the service keeps in memory. -/
structure SubmissionRecord where
  id : String
  attemptId : String
  txHash : String
  sequence : Nat
  state : SubmissionState
deriving DecidableEq

/-- A submission row whose send has begun and has no outcome yet. -/
def Submission.InFlight (s : Submission) (id attempt : String) : Prop :=
  s.id = id ∧ s.attemptId = attempt ∧ s.state = .submitting
deriving Decidable

/-- The row that an execution closed when it expired. -/
def Submission.expire (stamp : String) (s : Submission) : Submission :=
  { s with
    state := .expiredPrebroadcast, failureClass := some .ttlExpiredPreSend,
    failureDetail := some "application TTL expired before SendRawTransaction", updatedAt := stamp }

/-- The execution has expired before its send. A lane and a reservation that are frozen stay so. -/
def Db.expire (db : Db) (a : SignedArtifact) (stamp : String) : Db :=
  { db with
    attempts := updateWhere
      (fun t => t.id = a.attemptId ∧ (t.status = .prepared ∨ t.status = .signed))
      (fun t => { t with status := .expiredPrebroadcast, updatedAt := stamp }) db.attempts,
    steps := updateWhere (·.id = a.stepId)
      (fun s => { s with status := .expiredPrebroadcast, updatedAt := stamp }) db.steps,
    reservations := updateWhere
      (fun r => r.operationId = a.operation ∧ (r.status = .reserved ∨ r.status = .signed))
      (fun r => { r with status := .released, updatedAt := stamp }) db.reservations,
    lanes := updateWhere
      (fun l => l.OwnedBy a.walletId a.operation ∧ (l.state = .reserved ∨ l.state = .signed))
      (WalletLane.clear (some "ttl_expired_prebroadcast") stamp) db.lanes,
    operations := updateWhere (·.id = a.operation)
      (fun o => { o with
        status := .expiredPrebroadcast, failureCode := some .ttlExpired, updatedAt := stamp })
      db.operations }

/-- `ExpirePreBroadcast`; `submission` is the row opened for the send, if one was. -/
def expirePreBroadcast (a : SignedArtifact) (submission : Option SubmissionRecord) (now : Instant) :
    Tx Err Db Unit := do
  Tx.require (now ≠ zeroInstant) .tradeStore
  let stamp := formatRFC3339Nano now
  match submission with
  | none => do
      let count ← Tx.query fun db => affected (·.attemptId = a.attemptId) db.submissions
      Tx.require (count = 0) .broadcastAmbiguous
  | some sub => do
      let changed ← Tx.query fun db => affected (·.InFlight sub.id a.attemptId) db.submissions
      Tx.exec fun db => { db with
        submissions := updateWhere (·.InFlight sub.id a.attemptId) (Submission.expire stamp)
          db.submissions }
      Tx.require (changed = 1) .broadcastAmbiguous
  updateTx (·.expire a stamp)

theorem Db.expire_identities (db : Db) (a : SignedArtifact) (stamp : String) :
    db.SameIdentities (db.expire a stamp) := .of_updates rfl rfl (fun _ => rfl) fun _ => rfl

/-- An execution expires without a submission, or closes the one it opened. -/
theorem expirePreBroadcast_eq {submission : Option SubmissionRecord} {u : Unit}
    (h : expirePreBroadcast a submission now db = .ok (u, db')) :
    ∃ rows, db' = { db with submissions := rows }.expire a (formatRFC3339Nano now) ∧
      ((submission = none ∧ affected (·.attemptId = a.attemptId) db.submissions = 0 ∧
          rows = db.submissions) ∨
        ∃ sub, submission = some sub ∧
          affected (·.InFlight sub.id a.attemptId) db.submissions = 1 ∧
          rows = updateWhere (·.InFlight sub.id a.attemptId)
            (Submission.expire (formatRFC3339Nano now)) db.submissions) := by
  simp only [expirePreBroadcast, Tx.require_bind_ok] at h
  obtain ⟨-, h⟩ := h
  cases submission with
  | none =>
      simp only [Tx.query_bind, Tx.require_bind_ok, updateTx_ok] at h
      obtain ⟨hzero, -, rfl⟩ := h
      exact ⟨_, rfl, .inl ⟨rfl, hzero, rfl⟩⟩
  | some sub =>
      simp only [Tx.query_bind, Tx.exec_bind, Tx.require_bind_ok, updateTx_ok] at h
      obtain ⟨hone, -, rfl⟩ := h
      exact ⟨_, rfl, .inr ⟨sub, rfl, hone, rfl⟩⟩

/-- The lane and the execution reservation are frozen. -/
def Db.freezeLane (db : Db) (stamp walletId operation reason : String) : Db :=
  { db with
    lanes := updateWhere (·.OwnedBy walletId operation) (WalletLane.freeze reason stamp) db.lanes,
    reservations := updateWhere (·.operationId = operation)
      (fun r => { r with status := .frozen, updatedAt := stamp }) db.reservations }

/-- `FreezeExecution`. -/
def freezeExecution (walletId operation reason : String) (now : Instant) : Tx Err Db Unit :=
  let reason := if reason = "" then "execution_state_unknown" else reason
  Tx.exec (·.freezeLane (formatRFC3339Nano now) walletId operation reason)

end RbhTrade
