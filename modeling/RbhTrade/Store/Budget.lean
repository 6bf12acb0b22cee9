import RbhTrade.Store.Canary
import RbhTrade.Store.Permits

/-!
# Authorizations and their budgets

`CreateRuntimeAuthorization` opens an authorization with an empty account, and
`ReserveRuntimeAuthorizationBudget` charges an operation to it: once, with one row for the operation
and the two sums of the account written in the same transaction.

Audit rows are left out, as are the triggers that bar these statements from MANUAL rows: they only
refuse.
-/

namespace RbhTrade

open Tables GoTime Decimal

/-- `RuntimeAuthorization`: what the operator asks to have created. -/
structure NewAuthorization where
  id : String
  walletId : String
  policyVersion : Nat
  maxOperations : Nat
  maxTotalInput : String
  authorizationRef : String
  deployment : DeploymentIdentity
  gateEvidenceSetHash : String
  authorizedAt : Instant := zeroInstant
  expiresAt : Instant

def NewAuthorization.Complete (a : NewAuthorization) (now : Instant) : Prop :=
  now ≠ zeroInstant ∧ a.id ≠ "" ∧ a.walletId ≠ "" ∧ a.policyVersion ≠ 0 ∧ a.maxOperations ≠ 0 ∧
    a.authorizationRef ≠ "" ∧ a.deployment.environment ≠ "" ∧ a.deployment.releaseId ≠ "" ∧
    a.deployment.deploymentId ≠ "" ∧
    (a.deployment.buildSha.utf8ByteSize = 40 ∨ a.deployment.buildSha.utf8ByteSize = 64) ∧
    a.gateEvidenceSetHash.utf8ByteSize = 64
deriving Decidable

/-- The row of a new authorization. -/
def NewAuthorization.row (host : Host) (a : NewAuthorization) (epoch : Nat) (now : Instant) :
    RuntimeAuthorization where
  id := a.id
  epoch := epoch
  state := .pending
  walletId := a.walletId
  policyVersion := a.policyVersion
  deployment := { a.deployment with buildSha := host.toLower a.deployment.buildSha }
  maxOperations := a.maxOperations
  maxTotalInput := a.maxTotalInput
  expiresAt := formatRFC3339Nano a.expiresAt
  gateEvidenceSetHash := host.toLower a.gateEvidenceSetHash
  authorizationRef := a.authorizationRef
  authorizedAt := formatRFC3339Nano (if a.authorizedAt = zeroInstant then now else a.authorizedAt)
  createdAt := formatRFC3339Nano now

/-- The primary key and the unique epoch. -/
def RuntimeAuthorization.Conflicts (x y : RuntimeAuthorization) : Prop :=
  x.id = y.id ∨ x.epoch = y.epoch
deriving Decidable

/-- `CreateRuntimeAuthorization`. -/
def createRuntimeAuthorization (host : Host) (a : NewAuthorization) (now : Instant) :
    Tx Err Db RuntimeAuthorization := do
  Tx.require (a.Complete now) .canaryRuntimeRejected
  let _ ← Tx.expect (canonicalPositive a.maxTotalInput) .canaryRuntimeRejected
  Tx.require (a.expiresAt ≠ zeroInstant ∧ now < a.expiresAt) .canaryRuntimeRejected
  Tx.exec fun db => { db with authorizationEpoch := db.authorizationEpoch + 1 }
  let epoch ← Tx.query (·.authorizationEpoch)
  let policies ← Tx.query (·.canaryPolicies)
  Tx.require (∃ p ∈ policies, p.policy.version = a.policyVersion) .sql
  Tx.put? (fun db => (insertUnique RuntimeAuthorization.Conflicts (a.row host epoch now)
    db.authorizations).map fun t => { db with authorizations := t }) .sql
  Tx.put? (fun db => (insertUnique (fun x y => x.authorizationId = y.authorizationId)
    { authorizationId := a.id, updatedAt := formatRFC3339Nano now } db.authorizationUsage).map
    fun t => { db with authorizationUsage := t }) .sql
  return a.row host epoch now

/-! ## Budgets -/

/-- The row of an operation under an authorization. -/
def OperationUsage.Charges (authorization operation : String) (u : OperationUsage) : Prop :=
  u.authorizationId = authorization ∧ u.operationId = operation
deriving Decidable

/-- The statements that charge a new operation. -/
def chargeBudgetTx (a : RuntimeAuthorization) (u : AuthorizationUsage) (operation amount : String)
    (now : Instant) : Tx Err Db Bool := do
  let nextTotal ← Tx.expect (addCanonical u.totalInput amount) .canaryRuntimeRejected
  let maximum ← Tx.expect (canonicalPositive a.maxTotalInput) .canaryRuntimeRejected
  Tx.require (u.operationCount + 1 ≤ a.maxOperations ∧
    (bigInt? nextTotal).getD 0 ≤ maximum) .canaryRuntimeRejected
  let stamp := formatRFC3339Nano now
  let operations ← Tx.query (·.operations)
  Tx.require (∃ o ∈ operations, o.id = operation) .sql
  Tx.put? (fun db => (insertUnique
    (fun x y => x.authorizationId = y.authorizationId ∧ x.operationId = y.operationId)
    { authorizationId := a.id, operationId := operation, amount := amount, state := .reserved,
      createdAt := stamp, updatedAt := stamp } db.operationUsage).map
    fun t => { db with operationUsage := t }) .sql
  Tx.exec fun db => { db with
    authorizationUsage := updateWhere (·.authorizationId = a.id)
      (fun x => { x with
        operationCount := u.operationCount + 1, totalInput := nextTotal, updatedAt := stamp })
      db.authorizationUsage }
  return false

/-- `ReserveRuntimeAuthorizationBudget`: whether the operation had been charged before. -/
def reserveRuntimeAuthorizationBudget (authorization operation amount : String) (now : Instant) :
    Tx Err Db Bool := do
  Tx.require ((canonicalPositive amount).isSome ∧ authorization ≠ "" ∧ operation ≠ "" ∧
    now ≠ zeroInstant) .canaryRuntimeRejected
  let db ← Tx.query id
  let a ← Tx.expect (selectRow (·.id = authorization) db.authorizations) .canaryRuntimeRejected
  let u ← Tx.expect (selectRow (·.authorizationId = a.id) db.authorizationUsage)
    .canaryRuntimeRejected
  Tx.require (a.state = .armed) .canaryRuntimeRejected
  let expiry ← Tx.expect (parseRFC3339Nano a.expiresAt) .canaryRuntimeRejected
  Tx.require (now < expiry) .canaryRuntimeRejected
  match selectRow (·.Charges authorization operation) db.operationUsage with
  | some existing => do
      Tx.require (existing.amount = amount) .idempotencyConflict
      return true
  | none => chargeBudgetTx a u operation amount now

/-! ## What they do -/

section Specs

variable {host : Host} {db db' : Db}

variable {now : Instant} {amount operation authorization : String}

theorem createRuntimeAuthorization_ok {a : NewAuthorization} {row : RuntimeAuthorization}
    (h : createRuntimeAuthorization host a now db = .ok (row, db')) :
    a.Complete now ∧ (∃ n, canonicalPositive a.maxTotalInput = some n) ∧
      (∃ p ∈ db.canaryPolicies, p.policy.version = a.policyVersion) ∧
      (∀ x ∈ db.authorizations, ¬ x.Conflicts row) ∧
      (∀ x ∈ db.authorizationUsage, x.authorizationId ≠ a.id) ∧
      row = a.row host (db.authorizationEpoch + 1) now ∧
      db' = { db with
        authorizationEpoch := db.authorizationEpoch + 1
        authorizations := db.authorizations ++ [row]
        authorizationUsage := db.authorizationUsage ++
          [{ authorizationId := a.id, updatedAt := formatRFC3339Nano now }] } := by
  simp only [createRuntimeAuthorization, Tx.require_bind_ok, Tx.expect_bind_ok, Tx.exec_bind,
    Tx.query_bind, Tx.put?_bind_ok, Tx.pure_ok, Option.map_eq_some_iff, insertUnique_eq_some] at h
  obtain ⟨hc, n, hn, -, hp, _, ⟨_, ⟨hauth, rfl⟩, rfl⟩, _, ⟨_, ⟨husage, rfl⟩, rfl⟩, rfl, rfl⟩ := h
  exact ⟨hc, ⟨n, hn⟩, hp, hauth, husage, rfl, rfl⟩

/-- The authorization that a charge finds: armed, not expired, with its account. -/
structure Chargeable (authorization : String) (now : Instant) (db : Db) (a : RuntimeAuthorization)
    (u : AuthorizationUsage) : Prop where
  row : selectRow (·.id = authorization) db.authorizations = some a
  account : selectRow (·.authorizationId = a.id) db.authorizationUsage = some u
  armed : a.state = .armed
  unexpired : ∃ expiry, parseRFC3339Nano a.expiresAt = some expiry ∧ now < expiry

/-- The operation is charged: within both caps, with a row of its own. -/
structure Charged (a : RuntimeAuthorization) (u : AuthorizationUsage) (operation amount : String)
    (now : Instant) (nextTotal : String) (db db' : Db) : Prop where
  new : ∀ x ∈ db.operationUsage, ¬ x.Charges a.id operation
  known : ∃ o ∈ db.operations, o.id = operation
  total : addCanonical u.totalInput amount = some nextTotal
  count : u.operationCount + 1 ≤ a.maxOperations
  cap : ∃ maximum, canonicalPositive a.maxTotalInput = some maximum ∧
    (bigInt? nextTotal).getD 0 ≤ (maximum : Int)
  made : db' = { db with
    operationUsage := db.operationUsage ++
      [{ authorizationId := a.id, operationId := operation, amount := amount, state := .reserved,
         createdAt := formatRFC3339Nano now, updatedAt := formatRFC3339Nano now }]
    authorizationUsage := updateWhere (·.authorizationId = a.id)
      (fun x => { x with
        operationCount := u.operationCount + 1, totalInput := nextTotal,
        updatedAt := formatRFC3339Nano now }) db.authorizationUsage }

theorem chargeBudgetTx_ok {a : RuntimeAuthorization} {u : AuthorizationUsage} {dup : Bool}
    (h : chargeBudgetTx a u operation amount now db = .ok (dup, db')) :
    dup = false ∧ ∃ nextTotal, Charged a u operation amount now nextTotal db db' := by
  simp only [chargeBudgetTx, Tx.expect_bind_ok, Tx.require_bind_ok, Tx.query_bind, Tx.put?_bind_ok,
    Tx.exec_bind, Tx.pure_ok, Option.map_eq_some_iff, insertUnique_eq_some] at h
  obtain ⟨nextTotal, htotal, maximum, hmax, ⟨hcount, hcap⟩, hop, _, ⟨_, ⟨hno, rfl⟩, rfl⟩, rfl,
    rfl⟩ := h
  exact ⟨rfl, nextTotal, hno, hop, htotal, hcount, ⟨maximum, hmax, hcap⟩, rfl⟩

/-- A call that succeeds finds the operation charged with the amount, or charges it. -/
theorem reserveRuntimeAuthorizationBudget_ok {dup : Bool}
    (h : reserveRuntimeAuthorizationBudget authorization operation amount now db = .ok (dup, db')) :
    ∃ a u, Chargeable authorization now db a u ∧ (∃ n, canonicalPositive amount = some n) ∧
      ((dup = true ∧ db' = db ∧ ∃ x ∈ db.operationUsage, x.Charges authorization operation ∧
          x.amount = amount) ∨
        (dup = false ∧ ∃ nextTotal, Charged a u operation amount now nextTotal db db')) := by
  simp only [reserveRuntimeAuthorizationBudget, Tx.require_bind_ok, Tx.query_bind, id_eq,
    Tx.expect_bind_ok] at h
  obtain ⟨⟨hamount, -⟩, a, ha, u, hu, harmed, expiry, hexpiry, hlt, h⟩ := h
  refine ⟨a, u, ⟨ha, hu, harmed, expiry, hexpiry, hlt⟩, Option.isSome_iff_exists.mp hamount, ?_⟩
  cases hrow : selectRow (·.Charges authorization operation) db.operationUsage with
  | some x =>
      rw [hrow] at h
      simp only [Tx.require_bind_ok, Tx.pure_ok] at h
      obtain ⟨hsame, rfl, rfl⟩ := h
      have hcharges := selectRow_prop hrow
      exact .inl ⟨rfl, rfl, x, selectRow_mem hrow, hcharges, hsame⟩
  | none =>
      rw [hrow] at h
      exact .inr (chargeBudgetTx_ok h)

/-- A repeated call under an authorization that is still armed and not expired. -/
theorem reserveRuntimeAuthorizationBudget_repeat {a : RuntimeAuthorization} {u : AuthorizationUsage}
    {x : OperationUsage}
    (hcall : (canonicalPositive amount).isSome ∧ authorization ≠ "" ∧ operation ≠ "" ∧
      now ≠ zeroInstant) (h : Chargeable authorization now db a u)
    (hrow : selectRow (·.Charges authorization operation) db.operationUsage = some x) :
    reserveRuntimeAuthorizationBudget authorization operation amount now db =
      if x.amount = amount then .ok (true, db) else .error .idempotencyConflict := by
  obtain ⟨expiry, hexpiry, hlt⟩ := h.unexpired
  have hstart : reserveRuntimeAuthorizationBudget authorization operation amount now db =
      (do Tx.require (x.amount = amount) .idempotencyConflict; return true : Tx Err Db Bool)
      db := by
    unfold reserveRuntimeAuthorizationBudget
    simp only [Tx.require_bind_of hcall, Tx.query_bind, id_eq, Tx.expect_bind_of h.row,
      Tx.expect_bind_of h.account, Tx.require_bind_of h.armed, Tx.expect_bind_of hexpiry,
      Tx.require_bind_of hlt, hrow]
  rw [hstart]
  split
  · rename_i hsame
    rw [Tx.require_bind_of hsame]
    rfl
  · rename_i hne
    exact Tx.bind_of_error (Tx.require_error hne)

/-- Without an armed authorization that is not expired every call fails, a repeated one too. -/
theorem reserveRuntimeAuthorizationBudget_rejects (h : ∀ a u, ¬ Chargeable authorization now db a u)
    :
    reserveRuntimeAuthorizationBudget authorization operation amount now db =
      .error .canaryRuntimeRejected := by
  unfold reserveRuntimeAuthorizationBudget
  by_cases hcall : (canonicalPositive amount).isSome ∧ authorization ≠ "" ∧ operation ≠ "" ∧
      now ≠ zeroInstant
  swap
  · exact Tx.bind_of_error (Tx.require_error hcall)
  rw [Tx.require_bind_of hcall, Tx.query_bind, id_eq]
  cases ha : selectRow (·.id = authorization) db.authorizations with
  | none => exact Tx.bind_of_error Tx.expect_error
  | some a =>
      rw [Tx.expect_bind_of rfl]
      cases hu : selectRow (·.authorizationId = a.id) db.authorizationUsage with
      | none => exact Tx.bind_of_error Tx.expect_error
      | some u =>
          rw [Tx.expect_bind_of rfl]
          by_cases harmed : a.state = .armed
          swap
          · exact Tx.bind_of_error (Tx.require_error harmed)
          rw [Tx.require_bind_of harmed]
          cases hexpiry : parseRFC3339Nano a.expiresAt with
          | none => exact Tx.bind_of_error Tx.expect_error
          | some expiry =>
              rw [Tx.expect_bind_of rfl]
              refine Tx.bind_of_error (Tx.require_error fun hlt => ?_)
              exact h a u ⟨ha, hu, harmed, expiry, hexpiry, hlt⟩

end Specs

end RbhTrade
