import RbhTrade.Lib.Tables
import RbhTrade.Lib.Transaction
import RbhTrade.Lib.GoTime

/-!
# The trade database

Row types for the tables of the trade service and the record `Db` that holds them. A column that
the schema restricts to a list of texts is an enumeration here, a nullable column an `Option`, and
a stored time the RFC 3339 text the store writes, since several queries compare those texts as
text. Nonces and gas limits, which the store keeps as decimal text and reads back with
`strconv.ParseUint`, are numbers.

Only columns that a modelled statement reads or writes are present.
-/

namespace RbhTrade

open GoTime

/-! ## Enumerated columns -/

/-- `transaction_submissions.state`. -/
inductive SubmissionState where
  | submitting
  | submitted
  | broadcastUnknown
  | reconciling
  | manualResolution
  | expiredPrebroadcast
  | knownUnsent
deriving DecidableEq

/-- `execution_wallet_lanes.state`. -/
inductive LaneState where
  | idle
  | reserved
  | signed
  | frozen
deriving DecidableEq

/-- `execution_reservations.status`. -/
inductive ReservationStatus where
  | reserved
  | signed
  | frozen
  | released
  | settled
  | revertedReleased
deriving DecidableEq

/-- `canary_risk_reservations.state`. -/
inductive RiskState where
  | reserved
  | committed
  | frozen
  | released
deriving DecidableEq

/-- The exposure a reservation still carries: the predicate of the partial unique index on
`canary_risk_reservations` and of every exposure sum. -/
def RiskState.Active (s : RiskState) : Prop := s = .reserved ∨ s = .frozen
deriving Decidable

/-- `execution_steps.status`. -/
inductive StepStatus where
  | created
  | simulating
  | succeeded
  | failed
  | nonceReserved
  | signing
  | signed
  | broadcastUnknown
  | reconciling
  | manualResolution
  | expiredPrebroadcast
  | knownUnsent
  | canonicalSuccess
  | canonicalRevert
  | orphaned
deriving DecidableEq

/-- The predicate of the partial unique index `one_unresolved_execution_per_wallet`. -/
def StepStatus.Unresolved (s : StepStatus) : Prop :=
  s = .nonceReserved ∨ s = .signing ∨ s = .signed ∨ s = .broadcastUnknown ∨ s = .reconciling ∨
    s = .manualResolution
deriving Decidable

/-- `transaction_attempts.status`. -/
inductive AttemptStatus where
  | prepared
  | signed
  | expiredPrebroadcast
  | knownUnsent
deriving DecidableEq

/-- `operations.status`. -/
inductive OperationStatus where
  | admitted
  | executing
  | dryRunSucceeded
  | dryRunFailed
  | executionPrepared
  | signedPrebroadcast
  | expiredPrebroadcast
  | knownUnsent
  | canonicalSuccess
  | canonicalRevert
deriving DecidableEq

/-- `receipt_observations.canonical_state`. -/
inductive CanonicalState where
  | observed
  | canonicalSuccess
  | canonicalRevert
  | orphaned
deriving DecidableEq

/-- A receipt that the recovery treats as final. -/
def CanonicalState.Canonical (s : CanonicalState) : Prop :=
  s = .canonicalSuccess ∨ s = .canonicalRevert
deriving Decidable

/-- `position_effects.state`. -/
inductive EffectState where
  | active
  | rolledBack
deriving DecidableEq

/-- `position_effect_history.transition`. -/
inductive EffectTransition where
  | apply
  | rollback
  | reapply
deriving DecidableEq

/-- `canary_control_state.mode`. -/
inductive CanaryMode where
  | disabled
  | controlledCanary
deriving DecidableEq

/-- `canary_runtime_authorizations.state`. -/
inductive AuthorizationState where
  | pending
  | armed
  | revoked
  | expired
  | exhausted
deriving DecidableEq

/-- `canary_runtime_gate_snapshots.stage`. -/
inductive GateStage where
  | executionAdmission
  | preSign
  | firstBroadcast
  | immediatePreSend
  | unknownReplay
deriving DecidableEq

/-- `canary_runtime_gate_snapshots.decision`. -/
inductive GateDecision where
  | pass
  | reject
deriving DecidableEq

/-- `canary_send_permits.purpose`. -/
inductive PermitPurpose where
  | firstBroadcast
  | unknownReplay
deriving DecidableEq

/-- `canary_send_permits.state`. -/
inductive PermitState where
  | issued
  | consumed
  | revoked
  | expired
deriving DecidableEq

/-- `canary_worker_leases.role`. -/
inductive LeaseRole where
  | submission
  | recovery
deriving DecidableEq

/-- `canary_admission_decisions.decision` and `canary_admission_attempts.outcome`. -/
inductive AdmissionDecision where
  | admitted
  | deduped
  | queued
  | rejected
deriving DecidableEq

/-- `canary_admission_sources.direction`. -/
inductive TradeDirection where
  | buy
  | sell
deriving DecidableEq

/-- `canary_authorization_operation_usage.state`. -/
inductive UsageState where
  | reserved
  | consumed
  | frozen
  | released
deriving DecidableEq

/-- `manual_recovery_commands.kind`. -/
inductive RecoveryKind where
  | observe
  | canonical
  | orphan
deriving DecidableEq

/-- `canary_recovery_evidence.classification`. -/
inductive RecoveryClassification where
  | propagated
  | ambiguous
  | nonceUnsafe
deriving DecidableEq

/-! ## Reason codes -/

/-- The reasons with which `validateImmediateControlsTx`, `BeginControlledSubmissionAfterGate` and
the gates of the orchestrator refuse. The text of each is the constructor's name in upper snake
case; `c07Admission` and `w2GateChain` stand for `C07_ADMISSION_BINDING_INVALID` and
`W2_GATE_CHAIN_INCOMPLETE`. -/
inductive GateReason where
  | controlStateUnavailable
  | emergencyStopped
  | canaryDisabled
  | controlPolicyMismatch
  | controlStateChanged
  | chainMismatch
  | authorizationUnavailable
  | authorizationNotArmed
  | authorizationEpochMismatch
  | authorizationBindingMismatch
  | authorizationExpired
  | c07Admission
  | ttlInvalidOrExpired
  | submissionLeaseLost
  | w2GateChain
  | permitIdentityMismatch
  | walletLaneInvalid
  | firstBroadcastNotAvailable
  | unknownReplayNotAvailable
  | walletMismatch
  | policyMismatch
  | deploymentIdentityMismatch
  | authorizationUsageMissing
  | admissionSourceUnavailable
  | authorizationBudgetRejected
  | artifactIdentityMismatch
  | runtimeIdentityUnverifiable
  | ambiguousSubmissionRequiresQuery
  | notBroadcastUnknown
  | queryEvidenceUnavailable
  | queryRequiresReconciliation
  | snapshotPersistFailed
  | snapshotBuildFailed
  | permitIssueFailed
  | permitConsumeFailed
deriving DecidableEq

/-- `transaction_submissions.failure_class` and `operations.failure_code`. -/
inductive FailureClass where
  | gate (reason : GateReason)
  | deterministicRejection
  | ambiguousTransport
  | hashMismatch
  | restartBeforeSendIntent
  | restartAfterSendIntent
  | restartWithInflightSubmission
  | ttlExpiredPreSend
  | ttlExpired
  | knownUnsentRetained
  | transactionIdentityContradiction
  | finalRecheckFailed
  | invalidOutcome
  | unknownRoute
  | staleState
  | simulationReverted
  | invalidParameters
  | ttlUnverifiable
  | dryRunFailed
deriving DecidableEq

/-- The sentinel errors of the trade package; `sql` stands for an error of the database, such as a
violated constraint. -/
inductive Err where
  | artifactIntegrity
  | broadcastAmbiguous
  | broadcastRejected
  | rpcHashMismatch
  | canaryGateRejected
  | canaryRejected
  | canaryRuntimeRejected
  | canaryQueryOnly
  | submissionLeaseLost
  | recoveryLeaseLost
  | walletLaneBusy
  | invalidRequest
  | idempotencyConflict
  | nonceConflict
  | wrongSigner
  | ttlExpired
  | ttlUnverifiable
  | manualFirstSubmissionRejected
  | tradeStore
  | unknownRoute
  | staleState
  | simulationReverted
  | reservation
  | feePolicy
  | encryption
  | sql
deriving DecidableEq

/-! ## Dry runs -/

/-- `OperationIntent.Kind`. -/
inductive IntentKind where
  | copyBuy
  | copySell
deriving DecidableEq

/-- `ChainID`. -/
def chainID : Nat := 4663

/-- The zero address. -/
def zeroAddress : String := "0x0000000000000000000000000000000000000000"

/-- The zero hash. -/
def zeroHash : String := "0x0000000000000000000000000000000000000000000000000000000000000000"

/-- `BlockRef`. -/
structure BlockRef where
  number : Nat := 0
  hash : String := zeroHash
deriving DecidableEq

/-- `CurveRoute`. -/
structure CurveRoute where
  protocol : String := ""
  token : String := zeroAddress
  curve : String := zeroAddress
  quoteToken : String := zeroAddress
  nativeQuote : Bool := false
deriving DecidableEq

/-- `ExecutionParameters`. -/
structure ExecutionParameters where
  direction : String := ""
  amountIn : String := ""
  minimumOut : String := ""
  quotedOut : String := ""
  slippageBps : Nat := 0
  recipient : String := ""
deriving DecidableEq

/-- `UnsignedCall`. -/
structure UnsignedCall where
  fromAddress : String := ""
  toAddress : String := ""
  value : String := ""
  data : String := ""
deriving DecidableEq

/-! ## Rows of the execution tables -/

structure Operation where
  id : String
  walletId : String
  idempotencyKey : String := ""
  requestJson : String := ""
  requestFingerprint : String := ""
  status : OperationStatus
  failureCode : Option FailureClass := none
  policyVersion : Option Nat := none
  deadlineCapability : Option String := none
  expiresAt : Option String := none
  updatedAt : String := ""
deriving DecidableEq

structure DryRunWallet where
  id : String
  address : String
  enabled : Bool
deriving DecidableEq

structure DryRunResultRow where
  operationId : String
  stepId : String
  success : Bool
  blockNumber : Nat := 0
  blockHash : String := ""
  returnData : String := ""
  failureCode : Option FailureClass := none
  failureDetail : Option String := none
  createdAt : String := ""
deriving DecidableEq

structure ExecutionStep where
  id : String
  operationId : String
  stepIndex : Nat
  status : StepStatus
  route : Option CurveRoute := none
  parameters : Option ExecutionParameters := none
  unsignedCall : Option UnsignedCall := none
  walletId : Option String := none
  policyVersion : Option Nat := none
  quoteBlockNumber : Option Nat := none
  quoteBlockHash : Option String := none
  expiresAt : Option String := none
  updatedAt : String := ""
deriving DecidableEq

/-- The columns of an attempt that `CommitSigned` fills together. -/
structure SignedPayload where
  txHash : String
  keyVersion : String := ""
  encryptionNonce : String := ""
  encryptedRawTx : String := ""
  fromAddress : String := ""
  toAddress : String := ""
  value : String := ""
  calldata : String := ""
  gasLimit : Nat := 0
  gasTipCap : String := ""
  gasFeeCap : String := ""
deriving DecidableEq

structure TransactionAttempt where
  id : String
  stepId : String
  nonce : Nat
  status : AttemptStatus
  walletId : String
  payload : Option SignedPayload := none
  policyVersion : Nat := 0
  quoteBlockNumber : Nat := 0
  quoteBlockHash : String := ""
  expiresAt : String := ""
  updatedAt : String := ""
deriving DecidableEq

structure WalletLane where
  walletId : String
  address : String := ""
  state : LaneState
  operationId : Option String := none
  stepId : Option String := none
  reservedNonce : Option Nat := none
  freezeReason : Option String := none
  updatedAt : String := ""
deriving DecidableEq

structure ExecutionReservation where
  operationId : String
  stepId : String
  walletId : String
  inputAsset : String := ""
  inputAmount : String := ""
  gasBudget : String := ""
  status : ReservationStatus
  nonceConsumed : Bool := false
  gasConsumed : Bool := false
  createdAt : String := ""
  updatedAt : String := ""
deriving DecidableEq

structure Submission where
  id : String
  attemptId : String
  txHash : String
  sequence : Nat
  state : SubmissionState
  rpcHash : Option String := none
  failureClass : Option FailureClass := none
  failureDetail : Option String := none
  createdAt : String
  updatedAt : String
  sendIntentAt : Option String := none
deriving DecidableEq

structure ReceiptObservation where
  id : String
  attemptId : String
  txHash : String
  blockNumber : Nat
  blockHash : String
  status : Nat
  state : CanonicalState
  version : Nat
  observedAt : String := ""
  updatedAt : String := ""
deriving DecidableEq

structure PositionEffect where
  id : String
  attemptId : String
  receiptId : String
  walletId : String
  asset : String
  delta : String
  state : EffectState
  appliedAt : String := ""
  updatedAt : String := ""
deriving DecidableEq

structure PositionEffectHistory where
  id : String
  effectId : String
  transition : EffectTransition
  receiptId : String
  createdAt : String := ""
deriving DecidableEq

/-! ## Rows of the canary tables -/

structure ControlState where
  mode : CanaryMode
  policyVersion : Nat
  emergencyStopped : Bool
  updatedAt : String
deriving DecidableEq

structure DeploymentIdentity where
  environment : String
  buildSha : String := ""
  releaseId : String := ""
  deploymentId : String := ""
deriving DecidableEq

structure RuntimeAuthorization where
  id : String
  epoch : Nat
  state : AuthorizationState
  walletId : String
  policyVersion : Nat
  deployment : DeploymentIdentity
  maxOperations : Nat := 0
  maxTotalInput : String := "0"
  expiresAt : String
  gateEvidenceSetHash : String := ""
  authorizationRef : String := ""
  authorizedAt : String := ""
  createdAt : String := ""
deriving DecidableEq

structure GateSnapshot where
  id : String
  operationId : String
  attemptId : Option String
  stage : GateStage
  authorizationId : String
  authorizationEpoch : Nat
  buildSha : String := ""
  releaseId : String := ""
  deploymentId : String := ""
  policyVersion : Nat := 0
  policyHash : String := ""
  gateEvidenceSetHash : String := ""
  emergencyStopRevision : Nat := 0
  decision : GateDecision
  reasonCode : String := ""
  checkedAt : String := ""
deriving DecidableEq

structure SendPermit where
  id : String
  operationId : String
  attemptId : String
  authorizationId : String
  authorizationEpoch : Nat
  purpose : PermitPurpose
  artifactHash : String
  txHash : String
  queryEvidenceHash : Option String := none
  queriedAt : Option String := none
  state : PermitState
  issuedAt : String := ""
  expiresAt : String
  consumedAt : Option String := none
deriving DecidableEq

structure WorkerLease where
  role : LeaseRole
  environment : String
  holderId : String
  leaseEpoch : Nat
  expiresAt : String
  updatedAt : String := ""
deriving DecidableEq

structure AdmissionSource where
  operationId : String
  walletId : String
  walletAddress : String := ""
  protocol : String := ""
  direction : TradeDirection := .buy
  tokenAddress : String := ""
  contractAddress : String := ""
  contractRole : String := ""
  runtimeCodeHash : String := ""
  amount : String := ""
  gasLimit : String := ""
  gasFeeCap : String := ""
  gasTipCap : String := ""
  nativeBalance : String := ""
  slippageBps : Nat := 0
  sellBps : Nat := 0
  policyVersion : Nat := 0
  quoteBlockNumber : Nat := 0
  quoteBlockHash : String := ""
  expiresAt : String := ""
  sourceHash : String
deriving DecidableEq

structure RiskReservation where
  id : String
  operationId : String
  walletId : String
  tokenAddress : String
  policyVersion : Nat
  inputAmount : String
  gasBudget : String := ""
  state : RiskState
  quoteBlockNumber : Option Nat := none
  quoteBlockHash : Option String := none
  sourceHash : Option String := none
  createdAt : String := ""
  updatedAt : String := ""
deriving DecidableEq

/-- The index `one_active_canary_reservation_per_wallet`. -/
def ActiveOnce (t : List RiskReservation) : Prop :=
  Tables.NoConflict (fun x y => x.walletId = y.walletId ∧ x.state.Active ∧ y.state.Active) t
deriving Decidable

/-- `canary_gate_attestations.gate`. -/
inductive CanaryGate where
  | c04
  | c05
  | c08
deriving DecidableEq

/-- `canary_gate_attestations`; its status is always `PASS`. -/
structure GateAttestation where
  gate : CanaryGate
  evidenceHash : String
deriving DecidableEq

/-- `canaryPolicy`: the columns of `canary_policies` that the hash of a policy covers. -/
structure CanaryPolicy where
  version : Nat
  protocol : String
  maxOperation : String
  maxWallet : String
  maxToken : String
  maxTotal : String
  maxGas : String
  maxFee : String
  maxTip : String
  minBalance : String
  maxSellBps : Nat
  maxSlippageBps : Nat
  maxOperations : Nat
  windowSeconds : Nat
  maxUnresolved : Nat
deriving DecidableEq

/-- `canary_policies`. -/
structure CanaryPolicyRow where
  policy : CanaryPolicy
  policyHash : String
deriving DecidableEq

/-- `canary_wallet_allowlist`. -/
structure WalletAllowance where
  walletId : String
  address : String
  policyVersion : Nat
  enabled : Bool
deriving DecidableEq

/-- `canary_contract_allowlist`; its protocol is always `PONS_V2_CURVE`. -/
structure ContractAllowance where
  address : String
  role : String
  runtimeCodeHash : String
  policyVersion : Nat
  enabled : Bool
deriving DecidableEq

/-- `canary_token_allowlist`; its protocol is always `PONS_V2_CURVE`. -/
structure TokenAllowance where
  tokenAddress : String
  policyVersion : Nat
  enabled : Bool
deriving DecidableEq

/-- `canary_window_usage`. -/
structure WindowUsage where
  policyVersion : Nat
  walletId : String
  tokenAddress : String
  windowStart : String
  operationCount : Nat
  reservedAmount : String
  committedAmount : String
  updatedAt : String
deriving DecidableEq

structure Decision where
  id : String
  requestId : String
  operationId : String
  requestFingerprint : String
  policyVersion : Nat
  decision : AdmissionDecision
  reasonCode : String
  walletId : String
  tokenAddress : String
  amount : String
  reservationId : Option String
  createdAt : String
deriving DecidableEq

/-- `canary_admission_attempts`. -/
structure AdmissionAttempt where
  id : String
  requestId : String
  decisionId : String
  operationId : String
  outcome : AdmissionDecision
  reasonCode : String
  createdAt : String
deriving DecidableEq

/-- `canary_audit_events`. -/
structure CanaryAuditEvent where
  id : String
  decisionId : String
  eventType : String
  policyVersion : Nat
  reasonCode : String
  createdAt : String
deriving DecidableEq

/-- `canary_authorization_usage`. -/
structure AuthorizationUsage where
  authorizationId : String
  operationCount : Nat := 0
  totalInput : String := "0"
  updatedAt : String := ""
deriving DecidableEq

structure OperationUsage where
  authorizationId : String
  operationId : String
  amount : String
  state : UsageState
  createdAt : String := ""
  updatedAt : String := ""
deriving DecidableEq

/-- `canary_recovery_evidence`. -/
structure RecoveryEvidence where
  id : String
  operationId : String
  attemptId : String
  txHash : String
  leaseEnvironment : String
  leaseHolderId : String
  leaseEpoch : Nat
  txFound : Bool
  receiptFound : Bool
  nonceState : String
  evidenceHash : String
  classification : RecoveryClassification
  observedAt : String
  createdAt : String
deriving DecidableEq

/-- `canary_runtime_audit`. Only `ExpireControlledSendPermits` fails on a repeated identifier, so
only its rows are kept. -/
structure RuntimeAudit where
  id : String
  eventType : String
  operationId : Option String
  attemptId : Option String
  authorizationId : Option String
  authorizationEpoch : Nat
  reasonCode : String
  createdAt : String
deriving DecidableEq

/-- `canary_alert_outbox`, for the same rows. -/
structure RuntimeAlert where
  id : String
  auditId : String
  severity : String
  state : String
  createdAt : String
deriving DecidableEq

/-! ## Rows of the MANUAL tables

Of the sources and authorization units the legacy statements only ask whether a row exists. -/

structure ManualOrderSource where
  operationId : String
  stepId : String
  id : String := ""
  principalId : String := ""
  walletId : String := ""
  walletAddress : String := ""
deriving DecidableEq

/-- `manual_execution_bindings`. -/
structure ManualExecutionBinding where
  operationId : String
  executionStepId : String
  walletId : String
  authorizationId : String
deriving DecidableEq

structure ManualNonceClaim where
  operationId : String
  attemptId : String
  executionStepId : String
  walletId : String
  nonce : Nat := 0
  reservationId : String := ""
deriving DecidableEq

/-- `manual_first_broadcast_issuances`; `foundation` is that member of the `source_json`. -/
structure ManualIssuance where
  id : String
  operationId : String
  attemptId : String
  authorizationId : String := ""
  authorizationEpoch : Nat := 0
  sourceJson : String := ""
  sourceHash : String := ""
  processHash : String := ""
  observationHash : String := ""
  clockGeneration : Nat := 0
  artifactHash : String := ""
  txHash : String := ""
  issuedAt : String := ""
  expiresAt : String := ""
  foundation : String := ""
deriving DecidableEq

/-- `manual_gate_clock_events.fault_reason`, which is empty without a fault. -/
inductive ClockFault where
  | reversal
  | unverifiable
deriving DecidableEq

/-- `manual_gate_clock_events`. -/
structure ManualClockEvent where
  id : String
  environment : String
  generation : Nat
  highWaterAt : String
  faultLatched : Bool
  faultReason : Option ClockFault
  faultAt : Option String
  updatedAt : String
deriving DecidableEq

/-- The columns of `manual_gate_clock_state` that a submission reads. -/
structure ManualGateClock where
  environment : String
  highWaterAt : String
  faultLatched : Bool
  generation : Nat
deriving DecidableEq

/-- `manual_first_submission_bindings`: the claim of a permit and of the sole submission of its
attempt. -/
structure ManualFirstBinding where
  operationId : String
  attemptId : String
deriving DecidableEq

/-- `manual_reservation_units`: the unit in which a MANUAL reservation is counted. -/
structure ManualReservationUnit where
  reservationId : String
  operationId : String
deriving DecidableEq

/-- The members of `manual_admission_commands.contract_json` that a recovery reads:
`$.output.resolution.side`, `$.output.resolution.token.address`, `$.input.units` and
`$.minimum_output.units`. -/
structure ManualContract where
  side : TradeDirection
  tokenAddress : String
  input : String
  minimumOutput : String

/-- `manual_admission_commands`. -/
structure ManualAdmissionCommand where
  operationId : String
  contract : ManualContract

/-- `manual_recovery_commands`; the table's order is that of its `sequence`. -/
structure ManualRecoveryCommand where
  id : String
  operationId : String
  kind : RecoveryKind
  receiptId : String
  txHash : String
  blockNumber : Nat
  blockHash : String
  receiptStatus : Nat
  priorVersion : Nat
  effectAsset : Option String
  effectDelta : Option String
  environment : String
  holderId : String
  leaseEpoch : Nat
  checkedAt : String
deriving DecidableEq

/-! ## The database -/

structure Db where
  operations : List Operation := []
  dryRunWallets : List DryRunWallet := []
  dryRunResults : List DryRunResultRow := []
  steps : List ExecutionStep := []
  attempts : List TransactionAttempt := []
  lanes : List WalletLane := []
  reservations : List ExecutionReservation := []
  submissions : List Submission := []
  receipts : List ReceiptObservation := []
  effects : List PositionEffect := []
  effectHistory : List PositionEffectHistory := []
  control : Option ControlState := none
  authorizationEpoch : Nat := 0
  authorizations : List RuntimeAuthorization := []
  authorizationUsage : List AuthorizationUsage := []
  gateSnapshots : List GateSnapshot := []
  permits : List SendPermit := []
  leases : List WorkerLease := []
  admissionSources : List AdmissionSource := []
  riskReservations : List RiskReservation := []
  decisions : List Decision := []
  operationUsage : List OperationUsage := []
  recoveryEvidence : List RecoveryEvidence := []
  runtimeAudit : List RuntimeAudit := []
  alertOutbox : List RuntimeAlert := []
  manualOrderSources : List ManualOrderSource := []
  manualExecutionBindings : List ManualExecutionBinding := []
  manualNonceClaims : List ManualNonceClaim := []
  manualIssuances : List ManualIssuance := []
  manualAuthorizationUnits : List String := []
  manualFirstBindings : List ManualFirstBinding := []
  manualAdmissionCommands : List ManualAdmissionCommand := []
  manualRecoveryCommands : List ManualRecoveryCommand := []
  gateAttestations : List GateAttestation := []
  canaryPolicies : List CanaryPolicyRow := []
  walletAllowlist : List WalletAllowance := []
  contractAllowlist : List ContractAllowance := []
  tokenAllowlist : List TokenAllowance := []
  windowUsage : List WindowUsage := []
  admissionAttempts : List AdmissionAttempt := []
  canaryAuditEvents : List CanaryAuditEvent := []
  manualReservationUnits : List ManualReservationUnit := []
  manualClockEvents : List ManualClockEvent := []

/-! ## The host -/

/-- A dry-run request that decodes and validates: its fingerprint, its encoding and the fields of
its intent that the service reads. `operationID` is the id of the intent. -/
structure DecodedRequest where
  fingerprint : String
  operationId : String
  policyVersion : Nat
  expiresAt : String
  walletId : String := ""
  idempotencyKey : String := ""
  kind : IntentKind := .copyBuy
  token : String := ""
  amountValue : String := ""
  deadlineCapability : String := "APPLICATION_TTL_ONLY"
  json : String := ""

/-- Functions outside the store that it calls and this development leaves abstract: the SHA-256
identifier, Unicode case mapping, address parsing, decoding of a stored request, opening an
encrypted artifact (decryption, `verifyRawArtifact` and the hex SHA-256 digest of the raw
transaction), and the comparison of a MANUAL attempt with the row its claim expects. -/
structure Host where
  deterministicID : List String → String
  toLower : String → String
  equalFold : String → String → Bool
  hexToAddress : String → String
  decodeRequest : String → Option DecodedRequest
  openArtifact : SignedPayload → Option String
  manualAttemptExpected : TransactionAttempt → Bool

/-- A host to evaluate the model on: an identifier is its parts joined, texts have one case, and an
artifact opens to its ciphertext. -/
def Host.plain : Host where
  deterministicID := fun parts => String.intercalate "/" parts
  toLower := id
  equalFold := fun a b => decide (a = b)
  hexToAddress := id
  decodeRequest := fun json => some
    { fingerprint := json, operationId := json, policyVersion := 1,
      expiresAt := "2026-01-02T00:00:00Z", walletId := "wallet", idempotencyKey := json,
      token := "0xtoken", amountValue := "5", json := json }
  openArtifact := fun p => some p.encryptedRawTx
  manualAttemptExpected := fun _ => false

/-- SQLite's `lower`: ASCII letters only. -/
def sqlLower (text : String) : String := String.ofList (text.toList.map Char.toLower)

/-- `nullText`: the empty string is stored as NULL. -/
def nullText (value : String) : Option String := if value = "" then none else some value

end RbhTrade
