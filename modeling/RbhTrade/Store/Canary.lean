import RbhTrade.Schema

/-!
# Admission of a controlled canary

`AdmitControlledCanary` decides a request in one transaction. It compares the request with the
durable source of its operation and with the allowlists and limits of the policy it names; an
admission counts the amount in the usage window of the policy, wallet and token and reserves it, and
every decision is recorded under the request's id. A repeated id gets the earlier decision back,
unless the control state refuses it now.

The refusals are committed: `ErrCanaryRejected` comes back beside a stored decision, so the
transaction returns the error as a value. Every other error rolls back.

Two groups of conditions of the source are left out because they cannot arise inside the
transaction: a query that fails for a reason of the database itself, and the triggers that keep
MANUAL operations and typed reservations away from these tables, whose operations the control reason
has refused before.
-/

namespace RbhTrade

open Tables GoTime Decimal

/-- `CanaryRequest`. -/
structure CanaryRequest where
  requestId : String
  operationId : String
  walletId : String
  walletAddress : String := ""
  tokenAddress : String := ""
  contractAddress : String := ""
  contractRole : String := ""
  runtimeCodeHash : String := ""
  protocol : String := ""
  direction : String := ""
  amount : String
  gasBudget : String := ""
  gasFeeCap : String := ""
  gasTipCap : String := ""
  nativeBalance : String := ""
  gasLimit : Nat := 0
  slippageBps : Nat := 0
  sellBps : Nat := 0
  policyVersion : Nat
  quoteBlockNumber : Nat := 0
  quoteBlockHash : String := ""
  expiresAt : String := ""
deriving DecidableEq

/-- `CanaryDecision`. -/
structure CanaryDecision where
  decision : AdmissionDecision
  reasonCode : String
  reservationId : String := ""
  duplicate : Bool := false
deriving DecidableEq

/-- The reasons with which a request is refused. -/
inductive CanaryReason where
  | controlStateUnavailable
  | emergencyStopped
  | canaryDisabled
  | policyVersionMismatch
  | typedAccounting
  | manualAtomicPathRequired
  | gateAttestationInvalid
  | durableSourceMismatch
  | ttlExpired
  | policyIntegrityInvalid
  | walletNotAllowed
  | contractNotAllowed
  | tokenNotAllowed
  | walletLaneBusy
  | riskInputInvalid
  | operationLimitExceeded
  | minimumBalanceViolation
  | tradeLimitExceeded
  | usageUnavailable
  | rateLimitExceeded
  | walletExposureExceeded
  | tokenExposureExceeded
  | globalExposureExceeded
deriving DecidableEq

/-- The code that the decision and the attempt store. -/
def CanaryReason.text : CanaryReason → String
  | .controlStateUnavailable => "CONTROL_STATE_UNAVAILABLE"
  | .emergencyStopped => "EMERGENCY_STOPPED"
  | .canaryDisabled => "CANARY_DISABLED"
  | .policyVersionMismatch => "POLICY_VERSION_MISMATCH"
  | .typedAccounting => "TYPED_ACCOUNTING_REQUIRES_MANUAL_PATH"
  | .manualAtomicPathRequired => "MANUAL_ATOMIC_PATH_REQUIRED"
  | .gateAttestationInvalid => "GATE_ATTESTATION_INVALID"
  | .durableSourceMismatch => "DURABLE_SOURCE_MISMATCH"
  | .ttlExpired => "TTL_EXPIRED"
  | .policyIntegrityInvalid => "POLICY_INTEGRITY_INVALID"
  | .walletNotAllowed => "WALLET_NOT_ALLOWED"
  | .contractNotAllowed => "CONTRACT_NOT_ALLOWED"
  | .tokenNotAllowed => "TOKEN_NOT_ALLOWED"
  | .walletLaneBusy => "WALLET_LANE_BUSY"
  | .riskInputInvalid => "RISK_INPUT_INVALID"
  | .operationLimitExceeded => "OPERATION_LIMIT_EXCEEDED"
  | .minimumBalanceViolation => "MINIMUM_BALANCE_VIOLATION"
  | .tradeLimitExceeded => "TRADE_LIMIT_EXCEEDED"
  | .usageUnavailable => "USAGE_UNAVAILABLE"
  | .rateLimitExceeded => "RATE_LIMIT_EXCEEDED"
  | .walletExposureExceeded => "WALLET_EXPOSURE_EXCEEDED"
  | .tokenExposureExceeded => "TOKEN_EXPOSURE_EXCEEDED"
  | .globalExposureExceeded => "GLOBAL_EXPOSURE_EXCEEDED"

/-- The stages at which a test hook may fail the transaction. -/
inductive CanaryStage where
  | afterUsage
  | afterReservation
  | afterDecision
  | beforeCommit
deriving DecidableEq

/-- The host with the SHA-256 functions of the admission: identifiers, the fingerprint of a request,
and the hashes of a source and of a policy. -/
structure CanaryHost extends Host where
  canaryID : List String → String
  canaryFingerprint : CanaryRequest → String
  sourceHash : AdmissionSource → String
  policyHash : CanaryPolicy → String

/-! ## Amounts -/

/-- `canonicalPositive`. -/
def canonicalPositive (text : String) : Option Nat := (canonical? text).filter (0 < ·)

/-- `addCanonical`. -/
def addCanonical (a b : String) : Option String := do
  let l ← bigInt? a
  let r ← bigInt? b
  if 0 ≤ l ∧ 0 ≤ r then some (toString (l + r).toNat) else none

/-- `exceeds`: a limit that is not a positive number is exceeded by anything. -/
def exceeds (n : Int) (limit : String) : Bool :=
  match canonicalPositive limit with
  | some v => decide ((v : Int) < n)
  | none => true

/-- `maximumGasCost`. -/
def maximumGasCost (limit fee : String) : Option String := do
  let l ← canonicalPositive limit
  let f ← canonicalPositive fee
  return toString (l * f)

/-- `sumReservationAmounts` over the scanned amounts. -/
def sumReservationAmounts : List String → Option Nat
  | [] => some 0
  | text :: rest =>
      match bigInt? text with
      | some (.ofNat n) => (sumReservationAmounts rest).map (n + ·)
      | _ => none

/-! ## Windows -/

/-- `t.Truncate(d)`: down to a multiple of `d` since the zero time; a duration that is not positive
truncates nothing. -/
def truncate (t : Instant) (d : Int) : Instant :=
  if d ≤ 0 then t else t - (t - zeroInstant) % d

/-- `time.Duration(seconds) * time.Second`, which wraps in 64 bits. -/
def windowDuration (seconds : Nat) : Int := Int.bmod (seconds * nanosPerSecond) (2 ^ 64)

/-- The start of the usage window that an instant falls in, as it is stored. -/
def windowStart (seconds : Nat) (now : Instant) : String :=
  formatRFC3339Nano (truncate now (windowDuration seconds))

/-- The primary key of `canary_window_usage`. -/
structure WindowKey where
  policyVersion : Nat
  walletId : String
  tokenAddress : String
  windowStart : String
deriving DecidableEq

def WindowUsage.key (u : WindowUsage) : WindowKey :=
  ⟨u.policyVersion, u.walletId, u.tokenAddress, u.windowStart⟩

/-- The `WHERE` clause that finds the row of a key. -/
def WindowUsage.IsFor (u : WindowUsage) (version : Nat) (wallet token window : String) : Prop :=
  u.policyVersion = version ∧ u.walletId = wallet ∧ u.tokenAddress = token ∧
    u.windowStart = window
deriving Decidable

/-! ## Checks -/

/-- `canaryControlReason`. -/
def canaryControlReason (version : Nat) : Tx CanaryReason Db Unit := do
  let db ← Tx.query id
  let control ← Tx.expect db.control .controlStateUnavailable
  Tx.require (control.emergencyStopped = false) .emergencyStopped
  Tx.require (control.mode = .controlledCanary) .canaryDisabled
  Tx.require (control.policyVersion = version) .policyVersionMismatch
  Tx.require (db.manualReservationUnits = []) .typedAccounting

/-- `canarySourceModeReason`. -/
def canarySourceModeReason (operation : String) : Tx CanaryReason Db Unit := do
  let db ← Tx.query id
  Tx.require (∀ m ∈ db.manualOrderSources, m.operationId ≠ operation) .manualAtomicPathRequired

/-- `requiredCanaryGates`. -/
def requiredCanaryGates : List GateAttestation :=
  [⟨.c04, "c1af9454a6a4433b488158c25224d13dfbf31178c71dae7468c80917743381fd"⟩,
   ⟨.c05, "1a793f13d9304a31ed405f9fe25f1713cf79b6f8d28bb3da8ad16a01dc24c40b"⟩,
   ⟨.c08, "8178e7b976dbea67be1de83cec529171e56d154cd2114f1bf290bebbd1fc77d8"⟩]

/-- `CanaryProtocol`. -/
def canaryProtocol : String := "PONS_V2_CURVE"

/-- The text of a direction. -/
def TradeDirection.text : TradeDirection → String
  | .buy => "BUY"
  | .sell => "SELL"

/-- `loadCanarySource`: the row of the operation, if its stored hash is right. -/
def loadCanarySource (host : CanaryHost) (db : Db) (operation : String) : Option AdmissionSource :=
  (selectRow (·.operationId = operation) db.admissionSources).filter fun s =>
    host.sourceHash { s with sourceHash := "" } = s.sourceHash

/-- `canarySource.matches`. -/
def AdmissionSource.Matches (host : CanaryHost) (s : AdmissionSource) (r : CanaryRequest) : Prop :=
  s.operationId = r.operationId ∧ s.walletId = r.walletId ∧
    host.equalFold s.walletAddress r.walletAddress = true ∧ s.protocol = r.protocol ∧
    s.direction.text = r.direction ∧ host.equalFold s.tokenAddress r.tokenAddress = true ∧
    host.equalFold s.contractAddress r.contractAddress = true ∧ s.contractRole = r.contractRole ∧
    host.equalFold s.runtimeCodeHash r.runtimeCodeHash = true ∧ s.amount = r.amount ∧
    s.gasLimit = toString r.gasLimit ∧ s.gasFeeCap = r.gasFeeCap ∧ s.gasTipCap = r.gasTipCap ∧
    s.nativeBalance = r.nativeBalance ∧ s.slippageBps = r.slippageBps ∧ s.sellBps = r.sellBps ∧
    s.policyVersion = r.policyVersion ∧ s.quoteBlockNumber = r.quoteBlockNumber ∧
    host.equalFold s.quoteBlockHash r.quoteBlockHash = true ∧ s.expiresAt = r.expiresAt
deriving Decidable

/-- `parseCanonicalExpiry`. -/
def parseCanonicalExpiry (text : String) : Option Instant :=
  (parseRFC3339Nano text).filter fun t => formatRFC3339Nano t = text

/-- The rows whose amounts the token sum adds. -/
def RiskReservation.OfToken (s : AdmissionSource) (rr : RiskReservation) : Prop :=
  rr.policyVersion = s.policyVersion ∧ sqlLower rr.tokenAddress = sqlLower s.tokenAddress ∧
    rr.state.Active
deriving Decidable

/-- The rows whose amounts the global sum adds. -/
def RiskReservation.OfPolicy (s : AdmissionSource) (rr : RiskReservation) : Prop :=
  rr.policyVersion = s.policyVersion ∧ rr.state.Active
deriving Decidable

/-- The amounts of the rows that a sum selects. -/
def Db.amountsOf (db : Db) (p : RiskReservation → Prop) [DecidablePred p] : List String :=
  (db.riskReservations.filter (p ·)).map (·.inputAmount)

/-- The usage row of a source in the window of an instant. -/
def Db.usageOf (host : CanaryHost) (db : Db) (s : AdmissionSource) (p : CanaryPolicy)
    (now : Instant) : Option WindowUsage :=
  selectRow (·.IsFor s.policyVersion s.walletId (host.toLower s.tokenAddress)
    (windowStart p.windowSeconds now)) db.windowUsage

/-- `canaryRiskReason`. A window without a row has used nothing. -/
def canaryRiskReason (host : CanaryHost) (s : AdmissionSource) (p : CanaryPolicy) (now : Instant) :
    Tx CanaryReason Db Unit := do
  let amount ← Tx.expect (canonicalPositive s.amount) .riskInputInvalid
  let gasCost ← Tx.expect (maximumGasCost s.gasLimit s.gasFeeCap) .riskInputInvalid
  let gas := (canonicalPositive gasCost).getD 0
  let fee ← Tx.expect (canonicalPositive s.gasFeeCap) .riskInputInvalid
  let tip ← Tx.expect (canonicalPositive s.gasTipCap) .riskInputInvalid
  let balance ← Tx.expect (canonicalPositive s.nativeBalance) .riskInputInvalid
  let gasLimit ← Tx.expect (canonicalPositive s.gasLimit) .riskInputInvalid
  Tx.require (exceeds amount p.maxOperation = false ∧ exceeds gasLimit p.maxGas = false ∧
    exceeds fee p.maxFee = false ∧ exceeds tip p.maxTip = false) .operationLimitExceeded
  let minimum ← Tx.expect (bigInt? p.minBalance) .policyIntegrityInvalid
  Tx.require ((gas : Int) + minimum + (if s.direction = .buy then (amount : Int) else 0) ≤ balance)
    .minimumBalanceViolation
  Tx.require (s.slippageBps ≤ p.maxSlippageBps ∧
    (s.direction = .sell → s.sellBps ≠ 0 ∧ s.sellBps ≤ p.maxSellBps)) .tradeLimitExceeded
  let db ← Tx.query id
  let usage := db.usageOf host s p now
  Tx.require (usage.elim 0 (·.operationCount) < p.maxOperations) .rateLimitExceeded
  let used := (usage.elim 0 fun u => (bigInt? u.reservedAmount).getD 0) + (amount : Int)
  Tx.require (exceeds used p.maxWallet = false) .walletExposureExceeded
  let tokenTotal ← Tx.expect (sumReservationAmounts (db.amountsOf (RiskReservation.OfToken s)))
    .usageUnavailable
  let globalTotal ← Tx.expect (sumReservationAmounts (db.amountsOf (RiskReservation.OfPolicy s)))
    .usageUnavailable
  Tx.require (exceeds (tokenTotal + amount) p.maxToken = false) .tokenExposureExceeded
  Tx.require (exceeds (globalTotal + amount) p.maxTotal = false) .globalExposureExceeded

/-- `canaryGateReason`. -/
def canaryGateReason (host : CanaryHost) (r : CanaryRequest) (now : Instant) :
    Tx CanaryReason Db (AdmissionSource × CanaryPolicy) := do
  let db ← Tx.query id
  Tx.require (∀ g ∈ requiredCanaryGates, g ∈ db.gateAttestations) .gateAttestationInvalid
  let source ← Tx.expect (loadCanarySource host db r.operationId) .durableSourceMismatch
  Tx.require (source.Matches host r) .durableSourceMismatch
  let expires ← Tx.expect (parseCanonicalExpiry source.expiresAt) .ttlExpired
  Tx.require (now < expires) .ttlExpired
  let row ← Tx.expect (selectRow (·.policy.version = r.policyVersion) db.canaryPolicies)
    .policyIntegrityInvalid
  Tx.require (row.policy.protocol = canaryProtocol ∧ host.policyHash row.policy = row.policyHash)
    .policyIntegrityInvalid
  Tx.require (∃ w ∈ db.walletAllowlist, w.walletId = source.walletId ∧
    sqlLower w.address = sqlLower source.walletAddress ∧ w.policyVersion = source.policyVersion ∧
    w.enabled = true) .walletNotAllowed
  Tx.require (∃ c ∈ db.contractAllowlist, sqlLower c.address = sqlLower source.contractAddress ∧
    c.role = source.contractRole ∧ sqlLower c.runtimeCodeHash = sqlLower source.runtimeCodeHash ∧
    c.policyVersion = source.policyVersion ∧ c.enabled = true) .contractNotAllowed
  Tx.require (∃ t ∈ db.tokenAllowlist, sqlLower t.tokenAddress = sqlLower source.tokenAddress ∧
    t.policyVersion = source.policyVersion ∧ t.enabled = true) .tokenNotAllowed
  Tx.require (affected (fun rr => rr.walletId = source.walletId ∧ rr.state.Active)
    db.riskReservations < row.policy.maxUnresolved) .walletLaneBusy
  canaryRiskReason host source row.policy now
  return (source, row.policy)

/-! ## Writes -/

/-- `canaryFault`. -/
def canaryFault (hook : CanaryStage → Option Err) (stage : CanaryStage) : Tx Err Db Unit :=
  match hook stage with
  | none => pure ()
  | some e => Tx.fail e

/-- `insertCanaryAttempt`. -/
def insertCanaryAttempt (host : CanaryHost) (r : CanaryRequest) (decisionId : String)
    (outcome : AdmissionDecision) (reason stamp : String) : Tx Err Db Unit :=
  Tx.put? (fun db =>
    let n := affected (·.requestId = r.requestId) db.admissionAttempts
    (insertUnique (fun x y => x.id = y.id)
      { id := host.canaryID ["attempt", r.requestId, toString (n + 1)], requestId := r.requestId,
        decisionId := decisionId, operationId := r.operationId, outcome := outcome,
        reasonCode := reason, createdAt := stamp } db.admissionAttempts).map
      fun t => { db with admissionAttempts := t }) .sql

/-- The primary key, and the unique request. -/
def Decision.Conflicts (x y : Decision) : Prop := x.id = y.id ∨ x.requestId = y.requestId
deriving Decidable

/-- The stored decision. Wallet, token and amount are as the request has them. -/
def CanaryRequest.decisionRow (host : CanaryHost) (r : CanaryRequest) (decision : AdmissionDecision)
    (reason reservation stamp : String) : Decision where
  id := host.canaryID ["decision", r.requestId]
  requestId := r.requestId
  operationId := r.operationId
  requestFingerprint := host.canaryFingerprint r
  policyVersion := r.policyVersion
  decision := decision
  reasonCode := reason
  walletId := r.walletId
  tokenAddress := host.toLower r.tokenAddress
  amount := r.amount
  reservationId := nullText reservation
  createdAt := stamp

/-- The statements that record a new decision, its audit event and its attempt. -/
def recordDecisionTx (host : CanaryHost) (hook : CanaryStage → Option Err) (r : CanaryRequest)
    (decision : AdmissionDecision) (reason reservation stamp : String) : Tx Err Db Unit := do
  let row := r.decisionRow host decision reason reservation stamp
  Tx.put? (fun db => (insertUnique Decision.Conflicts row db.decisions).map
    fun t => { db with decisions := t }) .sql
  canaryFault hook .afterDecision
  Tx.put? (fun db => (insertUnique (fun x y => x.id = y.id)
    { id := host.canaryID ["audit", row.id], decisionId := row.id,
      eventType := "CANARY_ADMISSION_DECISION", policyVersion := r.policyVersion,
      reasonCode := reason, createdAt := stamp } db.canaryAuditEvents).map
    fun t => { db with canaryAuditEvents := t }) .sql
  insertCanaryAttempt host r row.id decision reason stamp
  canaryFault hook .beforeCommit

/-- The primary key, the unique operation, and the index `one_active_canary_reservation_per_wallet`.
-/
def RiskReservation.Conflicts (x y : RiskReservation) : Prop :=
  x.id = y.id ∨ x.operationId = y.operationId ∨
    (x.walletId = y.walletId ∧ x.state.Active ∧ y.state.Active)
deriving Decidable

/-- The reservation of an admitted source. -/
def AdmissionSource.reservation (host : CanaryHost) (s : AdmissionSource)
    (id gasBudget stamp : String) : RiskReservation where
  id := id
  operationId := s.operationId
  walletId := s.walletId
  tokenAddress := host.toLower s.tokenAddress
  policyVersion := s.policyVersion
  inputAmount := s.amount
  gasBudget := gasBudget
  state := .reserved
  quoteBlockNumber := some s.quoteBlockNumber
  quoteBlockHash := some s.quoteBlockHash
  sourceHash := some s.sourceHash
  createdAt := stamp
  updatedAt := stamp

/-- `INSERT … ON CONFLICT(policy_version,wallet_id,token_address,window_start) DO UPDATE`. -/
def upsertUsage (version : Nat) (wallet token window : String) (count : Nat)
    (reserved stamp : String) (t : List WindowUsage) : List WindowUsage :=
  if ∃ u ∈ t, u.IsFor version wallet token window then
    updateWhere (·.IsFor version wallet token window)
      (fun u => { u with operationCount := count, reservedAmount := reserved, updatedAt := stamp })
      t
  else t ++ [⟨version, wallet, token, window, count, reserved, "0", stamp⟩]

/-- The statements that count an admitted amount and reserve it. -/
def reserveCanaryTx (host : CanaryHost) (hook : CanaryStage → Option Err) (r : CanaryRequest)
    (source : AdmissionSource) (policy : CanaryPolicy) (now : Instant) : Tx Err Db Unit := do
  let stamp := formatRFC3339Nano now
  let token := host.toLower source.tokenAddress
  let window := windowStart policy.windowSeconds now
  let row ← Tx.query fun db =>
    selectRow (·.IsFor r.policyVersion source.walletId token window) db.windowUsage
  let updated ← Tx.expect (addCanonical (row.elim "0" (·.reservedAmount)) source.amount)
    .canaryRejected
  Tx.exec fun db => { db with
    windowUsage := upsertUsage r.policyVersion source.walletId token window
      (row.elim 0 (·.operationCount) + 1) updated stamp db.windowUsage }
  canaryFault hook .afterUsage
  let gasBudget ← Tx.expect (maximumGasCost source.gasLimit source.gasFeeCap) .canaryRejected
  Tx.put? (fun db => (insertUnique RiskReservation.Conflicts
    (source.reservation host (host.canaryID ["reservation", r.operationId]) gasBudget stamp)
    db.riskReservations).map fun t => { db with riskReservations := t }) .sql
  canaryFault hook .afterReservation

/-- The reason to refuse a new request, if there is one: the control reason, or else the gate's. -/
def canaryVerdict (host : CanaryHost) (r : CanaryRequest) (now : Instant) :
    Except CanaryReason Unit → Tx Err Db (Except CanaryReason (AdmissionSource × CanaryPolicy))
  | .ok _ => (canaryGateReason host r now).attempt
  | .error reason => pure (.error reason)

/-- The arguments that the call checks before anything else. -/
def CanaryRequest.Complete (r : CanaryRequest) (now : Instant) : Prop :=
  now ≠ zeroInstant ∧ r.requestId ≠ "" ∧ r.operationId ≠ "" ∧ r.policyVersion ≠ 0
deriving Decidable

/-- `AdmitControlledCanary`: the decision, and the error that comes with it. -/
def admitControlledCanary (host : CanaryHost) (hook : CanaryStage → Option Err)
    (r : CanaryRequest) (now : Instant) : Tx Err Db (CanaryDecision × Option Err) := do
  Tx.require (r.Complete now) .canaryRejected
  let stamp := formatRFC3339Nano now
  -- The source-mode check comes before the dedupe too: an old MANUAL rejection must not become a
  -- positive answer.
  let control ← (canaryControlReason r.policyVersion >>= fun _ =>
    canarySourceModeReason r.operationId).attempt
  let existing ← Tx.query fun db => selectRow (·.requestId = r.requestId) db.decisions
  match existing with
  | some d => do
      Tx.require (d.requestFingerprint = host.canaryFingerprint r) .idempotencyConflict
      match control with
      | .ok _ => do
          insertCanaryAttempt host r d.id .deduped d.reasonCode stamp
          return (⟨.deduped, d.reasonCode, "", true⟩, none)
      | .error reason => do
          insertCanaryAttempt host r d.id .rejected reason.text stamp
          return (⟨.rejected, reason.text, "", true⟩, some .canaryRejected)
  | none => do
      match ← canaryVerdict host r now control with
      | .error reason => do
          recordDecisionTx host hook r .rejected reason.text "" stamp
          return (⟨.rejected, reason.text, "", false⟩, some .canaryRejected)
      | .ok (source, policy) => do
          let reservation := host.canaryID ["reservation", r.operationId]
          reserveCanaryTx host hook r source policy now
          recordDecisionTx host hook r .admitted "CANARY_ADMITTED" reservation stamp
          return (⟨.admitted, "CANARY_ADMITTED", reservation, false⟩, none)

/-! ## What the checks say -/

section Specs

variable {host : CanaryHost} {hook : CanaryStage → Option Err} {r : CanaryRequest}
  {s : AdmissionSource} {p : CanaryPolicy} {now : Instant} {db db' : Db}

/-- The sums and limits that a source passed. -/
structure WithinCaps (host : CanaryHost) (db : Db) (s : AdmissionSource) (p : CanaryPolicy)
    (now : Instant) (amount : Nat) : Prop where
  positive : canonicalPositive s.amount = some amount
  wallet : exceeds (((db.usageOf host s p now).elim 0 fun u => (bigInt? u.reservedAmount).getD 0) +
    (amount : Int)) p.maxWallet = false
  token : ∃ n, sumReservationAmounts (db.amountsOf (RiskReservation.OfToken s)) = some n ∧
    exceeds (n + amount) p.maxToken = false
  policy : ∃ n, sumReservationAmounts (db.amountsOf (RiskReservation.OfPolicy s)) = some n ∧
    exceeds (n + amount) p.maxTotal = false

variable {u : Unit}

theorem canaryRiskReason_ok (h : canaryRiskReason host s p now db = .ok (u, db')) :
    db = db' ∧ ∃ amount, WithinCaps host db s p now amount := by
  simp only [canaryRiskReason, Tx.expect_bind_ok, Tx.require_bind_ok, Tx.query_bind, id_eq,
    Tx.require_ok] at h
  obtain ⟨amount, hamount, _, -, _, -, _, -, _, -, _, -, -, _, -, -, -, -, hwallet, token, htoken,
    global, hglobal, htokenCap, hglobalCap, rfl⟩ := h
  exact ⟨rfl, amount, hamount, hwallet, ⟨token, htoken, htokenCap⟩, global, hglobal, hglobalCap⟩

/-- What the gate found for the source and the policy it returns. -/
structure Admissible (host : CanaryHost) (db : Db) (r : CanaryRequest) (now : Instant)
    (s : AdmissionSource) (p : CanaryPolicy) : Prop where
  source : s ∈ db.admissionSources
  isFor : s.Matches host r
  policy : ∃ row ∈ db.canaryPolicies, row.policy = p
  version : p.version = r.policyVersion
  caps : ∃ amount, WithinCaps host db s p now amount

theorem canaryGateReason_ok {x : AdmissionSource × CanaryPolicy}
    (h : canaryGateReason host r now db = .ok (x, db')) :
    db = db' ∧ Admissible host db r now x.1 x.2 := by
  simp only [canaryGateReason, Tx.query_bind, id_eq, Tx.require_bind_ok, Tx.expect_bind_ok] at h
  obtain ⟨-, source, hsource, hmatches, _, -, -, row, hrow, -, -, -, -, -, h⟩ := h
  obtain ⟨_, _, hrisk, h⟩ := Tx.bind_ok.mp h
  obtain ⟨rfl, hcaps⟩ := canaryRiskReason_ok hrisk
  obtain ⟨rfl, rfl⟩ := Tx.pure_ok.mp h
  obtain ⟨hmem, -⟩ := Option.filter_eq_some_iff.mp hsource
  have hversion := selectRow_prop hrow
  exact ⟨rfl, selectRow_mem hmem, hmatches, ⟨row, selectRow_mem hrow, rfl⟩, hversion, hcaps⟩

/-! ## What the writes do -/

theorem canaryFault_ok {stage : CanaryStage} (h : canaryFault hook stage db = .ok (u, db')) :
    db = db' := by
  cases hstage : hook stage with
  | none =>
      rw [canaryFault, hstage] at h
      exact (Tx.pure_ok.mp h).2
  | some e =>
      rw [canaryFault, hstage] at h
      exact absurd h Tx.fail_ok

theorem insertCanaryAttempt_ok {id : String} {outcome : AdmissionDecision} {reason stamp : String}
    (h : insertCanaryAttempt host r id outcome reason stamp db = .ok (u, db')) :
    ∃ attempts, db' = { db with admissionAttempts := attempts } := by
  simp only [insertCanaryAttempt, Tx.put?_ok, Option.map_eq_some_iff] at h
  obtain ⟨t, -, rfl⟩ := h
  exact ⟨t, rfl⟩

theorem recordDecisionTx_ok {decision : AdmissionDecision} {reason reservation stamp : String}
    (h : recordDecisionTx host hook r decision reason reservation stamp db = .ok (u, db')) :
    (∀ d ∈ db.decisions, ¬ d.Conflicts (r.decisionRow host decision reason reservation stamp)) ∧
      ∃ events attempts, db' = { db with
        decisions := db.decisions ++ [r.decisionRow host decision reason reservation stamp],
        canaryAuditEvents := events, admissionAttempts := attempts } := by
  simp only [recordDecisionTx, Tx.put?_bind_ok, Option.map_eq_some_iff, insertUnique_eq_some] at h
  obtain ⟨_, ⟨_, ⟨hno, rfl⟩, rfl⟩, h⟩ := h
  obtain ⟨_, _, hfault, h⟩ := Tx.bind_ok.mp h
  obtain rfl := canaryFault_ok hfault
  simp only [Tx.put?_bind_ok, Option.map_eq_some_iff] at h
  obtain ⟨_, ⟨events, -, rfl⟩, h⟩ := h
  obtain ⟨_, _, hattempt, h⟩ := Tx.bind_ok.mp h
  obtain ⟨attempts, rfl⟩ := insertCanaryAttempt_ok hattempt
  obtain rfl := canaryFault_ok h
  exact ⟨hno, events, attempts, rfl⟩

/-- The usage rows once an amount is counted. -/
def Db.countedUsage (db : Db) (host : CanaryHost) (s : AdmissionSource) (p : CanaryPolicy)
    (now : Instant) (reserved : String) : List WindowUsage :=
  upsertUsage s.policyVersion s.walletId (host.toLower s.tokenAddress)
    (windowStart p.windowSeconds now) ((db.usageOf host s p now).elim 0 (·.operationCount) + 1)
    reserved (formatRFC3339Nano now) db.windowUsage

/-- The reservation that an admission inserts. -/
def CanaryRequest.reservationRow (host : CanaryHost) (r : CanaryRequest) (s : AdmissionSource)
    (gasBudget : String) (now : Instant) : RiskReservation :=
  s.reservation host (host.canaryID ["reservation", r.operationId]) gasBudget
    (formatRFC3339Nano now)

theorem reserveCanaryTx_ok (hv : s.policyVersion = r.policyVersion)
    (h : reserveCanaryTx host hook r s p now db = .ok (u, db')) :
    ∃ reserved gasBudget,
      addCanonical ((db.usageOf host s p now).elim "0" (·.reservedAmount)) s.amount =
        some reserved ∧
      (∀ x ∈ db.riskReservations, ¬ x.Conflicts (r.reservationRow host s gasBudget now)) ∧
      db' = { db with
        windowUsage := db.countedUsage host s p now reserved,
        riskReservations := db.riskReservations ++ [r.reservationRow host s gasBudget now] } := by
  simp only [reserveCanaryTx, Tx.query_bind, Tx.expect_bind_ok, Tx.exec_bind] at h
  obtain ⟨reserved, hadd, h⟩ := h
  obtain ⟨_, _, hfault, h⟩ := Tx.bind_ok.mp h
  obtain rfl := canaryFault_ok hfault
  simp only [Tx.expect_bind_ok, Tx.put?_bind_ok, Option.map_eq_some_iff, insertUnique_eq_some] at h
  obtain ⟨gasBudget, -, _, ⟨_, ⟨hno, rfl⟩, rfl⟩, h⟩ := h
  obtain rfl := canaryFault_ok h
  rw [← hv] at hadd
  refine ⟨reserved, gasBudget, hadd, hno, ?_⟩
  rw [← hv]
  rfl

/-- What a committed call did: it answered a repeated request, refused a new one, or admitted it. -/
inductive CanaryDecided (host : CanaryHost) (r : CanaryRequest) (now : Instant) (db : Db) :
    CanaryDecision × Option Err → Db → Prop where
  | repeated (d : Decision) (attempts : List AdmissionAttempt) (v : CanaryDecision)
      (err : Option Err) (mem : d ∈ db.decisions) (request : d.requestId = r.requestId)
      (fingerprint : d.requestFingerprint = host.canaryFingerprint r)
      (decision : v.decision ≠ .admitted) (error : err = none ∨ err = some .canaryRejected) :
      CanaryDecided host r now db (v, err) { db with admissionAttempts := attempts }
  | refused (reason : CanaryReason) (events : List CanaryAuditEvent)
      (attempts : List AdmissionAttempt) (fresh : ∀ d ∈ db.decisions, d.requestId ≠ r.requestId) :
      CanaryDecided host r now db (⟨.rejected, reason.text, "", false⟩, some .canaryRejected)
        { db with
          decisions := db.decisions ++
            [r.decisionRow host .rejected reason.text "" (formatRFC3339Nano now)],
          canaryAuditEvents := events, admissionAttempts := attempts }
  | admitted (s : AdmissionSource) (p : CanaryPolicy) (reserved gasBudget : String)
      (events : List CanaryAuditEvent) (attempts : List AdmissionAttempt)
      (fresh : ∀ d ∈ db.decisions, d.requestId ≠ r.requestId)
      (admissible : Admissible host db r now s p)
      (adds : addCanonical ((db.usageOf host s p now).elim "0" (·.reservedAmount)) s.amount =
        some reserved)
      (free : ∀ x ∈ db.riskReservations, ¬ x.Conflicts (r.reservationRow host s gasBudget now)) :
      CanaryDecided host r now db
        (⟨.admitted, "CANARY_ADMITTED", host.canaryID ["reservation", r.operationId], false⟩, none)
        { db with
          windowUsage := db.countedUsage host s p now reserved,
          riskReservations := db.riskReservations ++ [r.reservationRow host s gasBudget now],
          decisions := db.decisions ++ [r.decisionRow host .admitted "CANARY_ADMITTED"
            (host.canaryID ["reservation", r.operationId]) (formatRFC3339Nano now)],
          canaryAuditEvents := events, admissionAttempts := attempts }

theorem AdmissionSource.Matches.policyVersion (h : s.Matches host r) :
    s.policyVersion = r.policyVersion :=
  h.2.2.2.2.2.2.2.2.2.2.2.2.2.2.2.2.1

theorem AdmissionSource.Matches.amount (h : s.Matches host r) : s.amount = r.amount :=
  h.2.2.2.2.2.2.2.2.2.1

theorem canaryControl_ok (h : (canaryControlReason r.policyVersion >>= fun _ =>
    canarySourceModeReason r.operationId) db = .ok (u, db')) : db = db' := by
  simp only [canaryControlReason, canarySourceModeReason, Tx.query_bind, Tx.expect_bind_ok,
    Tx.require_bind_ok, bind_assoc, Tx.require_ok] at h
  obtain ⟨_, -, -, -, -, -, -, rfl⟩ := h
  rfl

/-- The verdict only reads, and a source it returns is admissible. -/
theorem canaryVerdict_ok {control : Except CanaryReason Unit}
    {x : Except CanaryReason (AdmissionSource × CanaryPolicy)}
    (h : canaryVerdict host r now control db = .ok (x, db')) :
    db = db' ∧ ∀ y, x = .ok y → Admissible host db r now y.1 y.2 := by
  cases control with
  | ok _ =>
      obtain ⟨y, rfl, hok⟩ | ⟨_, rfl, -, hs⟩ := Tx.attempt_ok.mp h
      · obtain ⟨rfl, hadm⟩ := canaryGateReason_ok hok
        exact ⟨rfl, fun z hz => by cases hz; exact hadm⟩
      · exact ⟨hs.symm, fun z hz => by cases hz⟩
  | error _ =>
      obtain ⟨rfl, rfl⟩ := Tx.pure_ok.mp h
      exact ⟨rfl, fun z hz => by cases hz⟩

/-- The control reason only reads, refused or not. -/
theorem canaryControl_attempt {x : Except CanaryReason Unit}
    (h : ((canaryControlReason r.policyVersion >>= fun _ =>
      canarySourceModeReason r.operationId).attempt : Tx Err Db _) db = .ok (x, db')) :
    db = db' := by
  obtain ⟨_, -, hok⟩ | ⟨_, -, -, hs⟩ := Tx.attempt_ok.mp h
  · exact canaryControl_ok hok
  · exact hs.symm

/-- A complete request under the id of another one is a conflict. -/
theorem admitControlledCanary_conflict {d : Decision} (hr : r.Complete now)
    (hd : selectRow (·.requestId = r.requestId) db.decisions = some d)
    (hne : d.requestFingerprint ≠ host.canaryFingerprint r) :
    admitControlledCanary host hook r now db = .error .idempotencyConflict := by
  rw [admitControlledCanary, Tx.bind_of_ok (Tx.require_ok (u := ()).mpr ⟨hr, rfl⟩)]
  obtain ⟨control, db₁, hcontrol⟩ : ∃ control db₁, ((canaryControlReason r.policyVersion >>=
      fun _ => canarySourceModeReason r.operationId).attempt : Tx Err Db _) db =
        .ok (control, db₁) := Tx.attempt_total _ db
  obtain rfl := canaryControl_attempt hcontrol
  rw [Tx.bind_of_ok hcontrol, Tx.query_bind, hd]
  exact Tx.bind_of_error (Tx.require_error hne)

theorem admitControlledCanary_ok {reply : CanaryDecision × Option Err}
    (h : admitControlledCanary host hook r now db = .ok (reply, db')) :
    CanaryDecided host r now db reply db' := by
  rw [admitControlledCanary, Tx.require_bind_ok] at h
  obtain ⟨-, h⟩ := h
  obtain ⟨control, _, hcontrol, h⟩ := Tx.bind_ok.mp h
  obtain rfl := canaryControl_attempt hcontrol
  rw [Tx.query_bind] at h
  cases hexisting : selectRow (·.requestId = r.requestId) db.decisions with
  | some d =>
      have hrequest := selectRow_prop hexisting
      simp only [hexisting, Tx.require_bind_ok] at h
      obtain ⟨hfinger, h⟩ := h
      cases control with
      | ok _ =>
          obtain ⟨_, _, hattempt, h⟩ := Tx.bind_ok.mp h
          obtain ⟨attempts, rfl⟩ := insertCanaryAttempt_ok hattempt
          obtain ⟨rfl, rfl⟩ := Tx.pure_ok.mp h
          exact .repeated d attempts _ _ (selectRow_mem hexisting) hrequest hfinger
            (fun hc => by cases hc) (.inl rfl)
      | error reason =>
          obtain ⟨_, _, hattempt, h⟩ := Tx.bind_ok.mp h
          obtain ⟨attempts, rfl⟩ := insertCanaryAttempt_ok hattempt
          obtain ⟨rfl, rfl⟩ := Tx.pure_ok.mp h
          exact .repeated d attempts _ _ (selectRow_mem hexisting) hrequest hfinger
            (fun hc => by cases hc) (.inr rfl)
  | none =>
      have hfresh := selectRow_eq_none.mp hexisting
      simp only [hexisting] at h
      obtain ⟨gate, _, hgate, h⟩ := Tx.bind_ok.mp h
      obtain ⟨rfl, hadm⟩ := canaryVerdict_ok hgate
      cases gate with
      | error reason =>
          obtain ⟨_, _, hrecord, h⟩ := Tx.bind_ok.mp h
          obtain ⟨rfl, rfl⟩ := Tx.pure_ok.mp h
          obtain ⟨-, events, attempts, rfl⟩ := recordDecisionTx_ok hrecord
          exact .refused reason events attempts hfresh
      | ok x =>
          have hx := hadm x rfl
          obtain ⟨_, _, hreserve, h⟩ := Tx.bind_ok.mp h
          obtain ⟨_, _, hrecord, h⟩ := Tx.bind_ok.mp h
          obtain ⟨rfl, rfl⟩ := Tx.pure_ok.mp h
          obtain ⟨reserved, gasBudget, hadd, hfree, rfl⟩ :=
            reserveCanaryTx_ok hx.isFor.policyVersion hreserve
          obtain ⟨-, events, attempts, rfl⟩ := recordDecisionTx_ok hrecord
          exact .admitted x.1 x.2 reserved gasBudget events attempts hfresh hx hadd hfree

end Specs

end RbhTrade
