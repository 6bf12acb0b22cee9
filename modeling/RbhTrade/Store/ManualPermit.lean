import RbhTrade.Store.ControlledSubmission
import RbhTrade.Store.ManualArtifact
import RbhTrade.Store.ManualClock
import RbhTrade.Store.ManualLifecycle
import RbhTrade.Store.ManualOperator

/-!
# The first-broadcast permit of a MANUAL attempt

`issue` of `manualFirstBroadcastIssuer`: a last check of the runtime gate in the writer's
transaction, the shortest of four expiries, and then either the issuance that is there or a new one,
with its clock event, its gate snapshot and its permit.

What `prepare` found before the transaction is part of the call, and so is what the process
identity, the time source and the artifact history answer inside. The view
`manual_gate_evidence_valid_source` and what `json.Unmarshal` and `json_extract` make of its
`source_json` are parameters. The row of `manual_first_broadcast_scopes` is inserted and deleted in
the same transaction and is left out with the triggers that compare the snapshot and the permit with
the issuance: they only refuse.
-/

namespace RbhTrade.Permits

open Tables GoTime
open Lifecycle (Identity)

/-! ## The gate -/

/-- `manualHex`. -/
def manualHex (raw : String) (sizes : List Nat) : Bool :=
  raw = Risk.toLower raw && sizes.contains raw.utf8ByteSize && Risk.hexDecodes raw.toList

/-- `manualHex` of what follows `0x`, with the length of the whole text. -/
def manualHash (raw : String) : Bool :=
  match ManualArtifact.marked? raw with
  | some digits => raw.utf8ByteSize = 66 && manualHex (String.ofList digits) [64]
  | none => false

/-- `valid` of an identity. -/
def validIdentity (i : Identity) : Bool :=
  validID i.principalId && validID i.walletId && Operator.isHexAddress i.walletAddress &&
    !(Operator.addressDigits i.walletAddress).all (· = '0')

/-- `chainquery.Block`. -/
structure Block where
  number : Nat
  hash : String
deriving DecidableEq

/-- `SubmissionRuntimeObservation`; `digest` is that of the other fields. -/
structure RuntimeObservation where
  chainId : Nat
  profileId : String
  environment : String
  curve : String
  runtimeCodeHash : String
  networkCheckpoint : Block
  quote : Block
  anchor : Block
  evidenceHash : String
  digest : String
deriving DecidableEq

/-- `manualRuntimeProjection`. -/
structure Projection where
  controlUpdatedAt : String
  facts : ManualArtifact.Facts
  principalId : String
  bindingHash : String
  contractOperationId : String
  curve : String
  factsHash : String
  txHash : String
  rawHash : String
  leaseRole : String
  leaseEnvironment : String
  leaseHolder : String
  leaseEpoch : Int

/-- `manualFirstBroadcastSourceMeta`. -/
structure SourceMeta where
  authorizationExpiresAt : String
  leaseExpiresAt : String

/-- The members of a source that the triggers on `manual_first_broadcast_issuances` extract. -/
structure SourceColumns where
  authorizationId : Option String
  authorizationEpoch : Option Nat
  attemptId : Option String
  rawHash : Option String
  txHash : Option String
  environment : Option String

/-- `manualRuntimeProfile`; `valid` is what its own check says, and `processHash` is the hash of its
process. -/
structure RuntimeProfile where
  authorizationId : String
  authorizationEpoch : UInt64
  manualPolicyId : String
  environment : String
  buildSha : String
  releaseId : String
  deploymentId : String
  networkProfile : String
  networkCheckpoint : Block
  holder : String
  leaseEpoch : Int
  processHash : String
  maxAge : Int
  valid : Bool

/-- A row of `manual_gate_evidence_valid_source`; the times of `notAfter` are those that the lower
bound of a sample must not come before, the attestations among them. -/
structure EvidenceSource where
  operationId : String
  sourceJson : String
  operationExpiresAt : String
  authExpiresAt : String
  leaseExpiresAt : String
  notAfter : List String

/-- The functions, columns and views outside this development. -/
structure PermitHost where
  clock : ClockHost
  toLower : String → String
  sha256 : String → String
  project : String → Option Projection
  sourceMeta : String → Option SourceMeta
  extract : String → SourceColumns
  /-- `canary_control_state.effective_at`. -/
  effectiveAt : Db → String
  evidence : Db → List EvidenceSource
  /-- `manual_submission_foundation_complete`: the operations, each with its binding hash. -/
  foundations : Db → List (String × String)

/-- `manualRuntimeGate`. -/
structure RuntimeGate where
  source : String
  sourceHash : String
  projection : Projection
  clock : ManualClockEvent

/-- `ownManualNonceRequest`. -/
def ownManualNonceRequest (db : Db) (identity : Identity) (request : String) :
    Except ManualErr Unit :=
  if validIdentity identity = false ∨ validID request = false then .error .invalid
  else if affected (fun s => s.id = request ∧ s.principalId = identity.principalId ∧
      s.walletId = identity.walletId ∧
      sqlLower s.walletAddress = sqlLower identity.walletAddress) db.manualOrderSources ≠ 1 then
    .error .notFound
  else .ok ()

/-- `readManualControl`. -/
def readManualControl (host : PermitHost) (db : Db) (now : Instant) : Except ManualErr Unit :=
  match db.control with
  | none => .error (.rejected "CONTROL_UNAVAILABLE")
  | some c =>
      if c.emergencyStopped = true then .error (.rejected "EMERGENCY_STOPPED")
      else
        match canonicalTime (host.effectiveAt db), canonicalTime c.updatedAt with
        | some effective, some updated =>
            if now = zeroInstant ∨ now < effective ∨ now < updated ∨ updated < effective then
              .error (.rejected "CONTROL_UNVERIFIABLE")
            else if c.mode ≠ .controlledCanary then .error (.rejected "CANARY_DISABLED")
            else .ok ()
        | _, _ => .error (.rejected "CONTROL_UNVERIFIABLE")

/-- The scope and the owner of the gate are those of the profile and of the caller. -/
def RuntimeProfile.Scopes (host : PermitHost) (profile : RuntimeProfile) (identity : Identity)
    (request : String) (p : Projection) : Prop :=
  p.facts.validate = true ∧ p.facts.requestId = request ∧ p.facts.walletId = identity.walletId ∧
    p.facts.sender = host.toLower identity.walletAddress ∧ p.principalId = identity.principalId ∧
    p.facts.contractHash = p.bindingHash ∧ p.facts.operationId = p.contractOperationId ∧
    p.facts.authorizationId = profile.authorizationId ∧
    p.facts.authorizationEpoch = profile.authorizationEpoch ∧
    p.facts.manualPolicyId = profile.manualPolicyId ∧ p.facts.environment = profile.environment ∧
    p.facts.buildSha = profile.buildSha ∧ p.facts.releaseId = profile.releaseId ∧
    p.facts.deploymentId = profile.deploymentId ∧ p.leaseRole = "SUBMISSION" ∧
    p.leaseEnvironment = profile.environment ∧ p.leaseHolder = profile.holder ∧
    p.leaseEpoch = profile.leaseEpoch
deriving Decidable

/-- The upper bound comes before the expiries of the row, the lower bound before none of its other
times. -/
def EvidenceSource.Covers (request lower upper : String) (e : EvidenceSource) : Prop :=
  e.operationId = "manual_op_" ++ request ∧ TimeBefore upper e.operationExpiresAt ∧
    TimeBefore upper e.authExpiresAt ∧ TimeBefore upper e.leaseExpiresAt ∧
    ∀ t ∈ e.notAfter, ¬ TimeBefore lower t
deriving Decidable

/-- `loadManualRuntimePhaseGate` of the phase before the claim. -/
def loadGate (host : PermitHost) (profile : RuntimeProfile) (identity : Identity) (request : String)
    (s : RuntimeSample) : Tx ManualErr Db RuntimeGate := do
  let db ← Tx.query id
  Tx.ofExcept (runtimeStopFirst db)
  Tx.require (validIdentity identity = true ∧ validID request = true ∧
    profile.valid = true) .invalid
  Tx.ofExcept (ownManualNonceRequest db identity request)
  let (lower, upper) ← Tx.ofExcept s.bounds
  let clock ← Tx.ofExcept (readManualRuntimeClock db profile.environment)
  Tx.ofExcept (checkManualClockFloor clock s)
  Tx.ofExcept (readManualControl host db lower)
  let e ← Tx.expect (selectRow (EvidenceSource.Covers request (formatRFC3339Nano lower)
    (formatRFC3339Nano upper)) (host.evidence db))
    (.rejected "RUNTIME_SOURCE_TIME_OR_CONTROL_INVALID")
  let p ← Tx.expect (host.project e.sourceJson) .conflict
  Tx.require (profile.Scopes host identity request p) (.rejected "RUNTIME_SCOPE_OR_OWNER_MISMATCH")
  pure ⟨e.sourceJson, host.sha256 e.sourceJson, p, clock⟩

/-! ## The last check -/

/-- `manualRuntimePrepared`. -/
structure Prepared where
  source : String
  sourceHash : String
  generation : Nat
  started : RuntimeSample
  observation : RuntimeObservation

/-- What is asked in the transaction. -/
structure FinalAnswer where
  /-- The measured process is that of the profile. -/
  identified : Bool := true
  identifiedAgain : Bool := true
  sample : SampleAnswer
  lastSample : SampleAnswer
  /-- The artifact history: its facts hash, transaction hash and raw hash. -/
  history : Except ManualErr (String × String × String)
  checkpoint : Except ManualErr Unit := .ok ()
  /-- The context is done at the end of the check. -/
  done : Bool := false

def stringZeros64 : String := "0000000000000000000000000000000000000000000000000000000000000000"

/-- The observation of `prepare` is of the gate's contract and of the profile's network. -/
def RuntimeObservation.Describes (o : RuntimeObservation) (profile : RuntimeProfile)
    (p : Projection) : Prop :=
  o.chainId = 4663 ∧ o.profileId = profile.networkProfile ∧ o.environment = p.facts.environment ∧
    o.networkCheckpoint = profile.networkCheckpoint ∧ o.curve = p.curve ∧
    o.runtimeCodeHash = p.facts.runtimeCodeHash ∧
    o.quote.number = p.facts.quoteBlockNumber.toNat ∧ o.quote.hash = p.facts.quoteBlockHash ∧
    o.quote.number ≤ o.anchor.number ∧ manualHash o.anchor.hash = true ∧
    o.anchor.hash ≠ "0x" ++ stringZeros64 ∧ manualHex o.evidenceHash [64] = true ∧
    o.evidenceHash = o.digest
deriving Decidable

/-- `checkObservation`. -/
def checkObservation (profile : RuntimeProfile) (prepared : Prepared) (s : RuntimeSample)
    (p : Projection) : Tx ManualErr Db Unit := do
  let start ← Tx.expect (canonicalTime prepared.started.wall) .invalid
  let (_, upper) ← Tx.ofExcept s.bounds
  Tx.require (prepared.started.ticks ≤ s.ticks ∧ s.ticks - prepared.started.ticks ≤ profile.maxAge ∧
    upper - start ≤ profile.maxAge) (.rejected "RUNTIME_OBSERVATION_STALE")
  Tx.require (prepared.observation.Describes profile p)
    (.rejected "RUNTIME_RPC_IDENTITY_UNVERIFIABLE")

/-- `finalCheck`. -/
def finalCheck (host : PermitHost) (profile : RuntimeProfile) (identity : Identity)
    (request : String) (clock : RuntimeClock) (prepared : Prepared) (x : FinalAnswer) :
    Tx ManualErr Db (RuntimeGate × RuntimeSample) := do
  let db ← Tx.query id
  Tx.ofExcept (runtimeStopFirst db)
  Tx.require (x.identified = true) (.rejected "RUNTIME_PROCESS_IDENTITY_UNVERIFIABLE")
  let s ← Tx.ofExcept (clock.read x.sample).1
  let g ← loadGate host profile identity request s
  Tx.require (g.source = prepared.source ∧ g.sourceHash = prepared.sourceHash ∧
    g.clock.generation = prepared.generation) (.rejected "RUNTIME_FINAL_SOURCE_DRIFT")
  let history ← Tx.ofExcept x.history
  Tx.require (history = (g.projection.factsHash, g.projection.txHash, g.projection.rawHash))
    .conflict
  Tx.require (x.identifiedAgain = true) (.rejected "RUNTIME_PROCESS_IDENTITY_UNVERIFIABLE")
  Tx.ofExcept x.checkpoint
  let s ← Tx.ofExcept ((clock.read x.sample).2.read x.lastSample).1
  let _ ← loadGate host profile identity request s
  checkObservation profile prepared s g.projection
  Tx.require (x.done = false) .done
  pure (g, s)

/-! ## Issuing -/

/-- `manualFirstBroadcastPermit`. -/
structure FirstBroadcastPermit where
  id : String
  operationId : String
  attemptId : String
  authorizationId : String
  authorizationEpoch : Nat
  artifactHash : String
  txHash : String
  issuedAt : Instant
  expiresAt : Instant
deriving DecidableEq

/-- A call of `issue`. -/
structure IssueCall where
  profile : RuntimeProfile
  identity : Identity
  request : String
  attemptId : String
  artifactHash : String
  txHash : String
  clock : RuntimeClock
  prepared : Prepared
  answer : FinalAnswer
  /-- The context is done before the commit of a new issuance, or after it. -/
  doneBefore : Bool := false
  doneAfter : Bool := false

def issuanceID (attempt : String) : String := "manual-first-permit:" ++ attempt

def snapshotID (attempt : String) : String := "manual-first-gate:" ++ attempt

/-- The four expiries of a permit, as `issue` compares them. -/
def shortest (operation authorization lease window : Instant) : Instant :=
  let expires := operation
  let expires := if authorization < expires then authorization else expires
  let expires := if lease < expires then lease else expires
  if window < expires then window else expires

/-- The audit row and the alert of an issuance. -/
def issuanceAudit (i : ManualIssuance) : RuntimeAudit :=
  { id := "manual-first-permit-audit:" ++ i.id, eventType := "MANUAL_FIRST_BROADCAST_ISSUED",
    operationId := some i.operationId, attemptId := some i.attemptId,
    authorizationId := some i.authorizationId, authorizationEpoch := i.authorizationEpoch,
    reasonCode := "METADATA_ONLY_NOT_CONSUMED", createdAt := i.issuedAt }

def issuanceAlert (i : ManualIssuance) : RuntimeAlert :=
  { id := "manual-first-permit-alert:" ++ i.id, auditId := (issuanceAudit i).id, severity := "INFO",
    state := "PENDING", createdAt := i.issuedAt }

/-- A hash column that a GLOB keeps to small hexadecimal letters. -/
def HashColumn (text : String) : Prop :=
  SqlText.length text = 64 ∧ SqlText.allIn Hex.isLowerHex text = true
deriving Decidable

/-- The source has the members of the issuance. -/
def SourceColumns.Binds (c : SourceColumns) (i : ManualIssuance) : Prop :=
  c.authorizationId = some i.authorizationId ∧ c.authorizationEpoch = some i.authorizationEpoch ∧
    c.attemptId = some i.attemptId ∧ c.rawHash = some i.artifactHash ∧ c.txHash = some i.txHash
deriving Decidable

/-- `manual_first_broadcast_source`, `manual_first_broadcast_source_binding` and the checks and keys
of the table. -/
def Accepts (host : PermitHost) (db : Db) (i : ManualIssuance) : Prop :=
  i.id = issuanceID i.attemptId ∧ i.sourceHash = host.sha256 i.sourceJson ∧
    SqlText.length i.sourceHash = 64 ∧ HashColumn i.processHash ∧ HashColumn i.observationHash ∧
    0 < i.clockGeneration ∧ SqlText.length i.artifactHash = 64 ∧ SqlText.length i.txHash = 66 ∧
    TimeBefore i.issuedAt i.expiresAt ∧
    (∃ f ∈ host.foundations db, f.1 = i.operationId ∧ f.2 ≠ "") ∧
    (∃ e ∈ host.evidence db, e.operationId = i.operationId ∧ e.sourceJson = i.sourceJson) ∧
    (host.extract i.sourceJson).Binds i ∧
    (∃ c ∈ db.manualClockEvents, db.ClockComplete c ∧ c.generation = i.clockGeneration ∧
      (host.extract i.sourceJson).environment = some c.environment) ∧
    ∀ x ∈ db.manualIssuances, x.id ≠ i.id ∧
      ¬ (x.operationId = i.operationId ∧ x.attemptId = i.attemptId)
deriving Decidable

/-- `INSERT INTO manual_first_broadcast_issuances` with its triggers. -/
def insertIssuance (host : PermitHost) (i : ManualIssuance) : Tx ManualErr Db Unit := do
  let db ← Tx.query id
  Tx.require (Accepts host db i) .sql
  Tx.require ((∀ a ∈ db.runtimeAudit, a.id ≠ (issuanceAudit i).id) ∧
    ∀ a ∈ db.alertOutbox, a.id ≠ (issuanceAlert i).id ∧ a.auditId ≠ (issuanceAudit i).id) .sql
  Tx.exec fun db => { db with
    manualIssuances := db.manualIssuances ++ [i],
    runtimeAudit := db.runtimeAudit ++ [issuanceAudit i],
    alertOutbox := db.alertOutbox ++ [issuanceAlert i] }

/-- `INSERT INTO canary_runtime_gate_snapshots`. -/
def insertSnapshot (g : GateSnapshot) : Tx ManualErr Db Unit :=
  Tx.put? (fun db => (insertUnique GateSnapshot.Conflicts g db.gateSnapshots).map
    fun t => { db with gateSnapshots := t }) .sql

/-- `INSERT INTO canary_send_permits`. -/
def insertPermit (p : SendPermit) : Tx ManualErr Db Unit :=
  Tx.put? (fun db => (insertUnique SendPermit.Conflicts p db.permits).map
    fun t => { db with permits := t }) .sql

/-- The permit of an issuance. -/
def permitRow (i : ManualIssuance) : SendPermit where
  id := i.id
  operationId := i.operationId
  attemptId := i.attemptId
  authorizationId := i.authorizationId
  authorizationEpoch := i.authorizationEpoch
  purpose := .firstBroadcast
  artifactHash := i.artifactHash
  txHash := i.txHash
  state := .issued
  issuedAt := i.issuedAt
  expiresAt := i.expiresAt

/-- The issuance of a call. -/
def issuanceRow (call : IssueCall) (g : RuntimeGate) (issued expires : Instant) :
    ManualIssuance where
  id := issuanceID call.attemptId
  operationId := g.projection.facts.operationId
  attemptId := call.attemptId
  authorizationId := g.projection.facts.authorizationId
  authorizationEpoch := g.projection.facts.authorizationEpoch.toNat
  sourceJson := g.source
  sourceHash := g.sourceHash
  processHash := call.profile.processHash
  observationHash := call.prepared.observation.digest
  clockGeneration := g.clock.generation + 1
  artifactHash := call.artifactHash
  txHash := call.txHash
  issuedAt := formatRFC3339Nano issued
  expiresAt := formatRFC3339Nano expires

/-- The gate snapshot of a call. The revision is a count of nanoseconds. -/
def snapshotRow (host : PermitHost) (call : IssueCall) (g : RuntimeGate) (issued : Instant) :
    GateSnapshot where
  id := snapshotID call.attemptId
  operationId := g.projection.facts.operationId
  attemptId := some call.attemptId
  stage := .firstBroadcast
  authorizationId := g.projection.facts.authorizationId
  authorizationEpoch := g.projection.facts.authorizationEpoch.toNat
  buildSha := host.toLower g.projection.facts.buildSha
  releaseId := g.projection.facts.releaseId
  deploymentId := g.projection.facts.deploymentId
  policyVersion := g.projection.facts.policyVersion.toNat
  policyHash := host.toLower g.projection.facts.policyHash
  gateEvidenceSetHash := host.toLower g.projection.facts.gateEvidenceSetHash
  emergencyStopRevision := ((canonicalTime g.projection.controlUpdatedAt).getD issued).toNat
  decision := .pass
  reasonCode := "CANARY_GATE_PASS"
  checkedAt := formatRFC3339Nano issued

/-- An issuance as the permit that `issue` returns. -/
def permitOf (i : ManualIssuance) (issued expires : Instant) : FirstBroadcastPermit :=
  ⟨i.id, i.operationId, i.attemptId, i.authorizationId, i.authorizationEpoch, i.artifactHash,
    i.txHash, issued, expires⟩

/-- The checks of `issue` before anything is read. -/
def IssueCall.Valid (call : IssueCall) : Prop :=
  validIdentity call.identity = true ∧ validID call.request = true ∧
    validID call.attemptId = true ∧ manualHex call.artifactHash [64] = true ∧
    manualHash call.txHash = true
deriving Decidable

/-- The issuance is of the operation and the attempt. -/
def Prior (call : IssueCall) (g : RuntimeGate) (i : ManualIssuance) : Prop :=
  i.operationId = g.projection.facts.operationId ∧ i.attemptId = call.attemptId
deriving Decidable

/-- The issuance that is there, if it is of the same artifact and authorization. -/
def readPrior (call : IssueCall) (g : RuntimeGate) (prior : ManualIssuance) :
    Tx ManualErr Db FirstBroadcastPermit := do
  let issued ← Tx.expect (canonicalTime prior.issuedAt) .conflict
  let expires ← Tx.expect (canonicalTime prior.expiresAt) .conflict
  Tx.require (prior.authorizationId = g.projection.facts.authorizationId ∧
    prior.authorizationEpoch = g.projection.facts.authorizationEpoch.toNat ∧
    prior.artifactHash = call.artifactHash ∧ prior.txHash = call.txHash) .conflict
  pure (permitOf prior issued expires)

/-- The rows of a new issuance. -/
def issueNew (host : PermitHost) (call : IssueCall) (g : RuntimeGate) (s : RuntimeSample)
    (issued expires : Instant) : Tx ManualErr Db FirstBroadcastPermit := do
  insertManualClockEvent host.clock
    (healthyEvent host.clock call.profile.environment (g.clock.generation + 1) s.wall)
  let row := issuanceRow call g issued expires
  insertIssuance host row
  insertSnapshot (snapshotRow host call g issued)
  insertPermit (permitRow row)
  Tx.require (call.doneBefore = false) .done
  pure (permitOf row issued expires)

/-- The transaction of `issue`. -/
def issue (host : PermitHost) (call : IssueCall) : Tx ManualErr Db FirstBroadcastPermit := do
  Tx.require call.Valid .invalid
  let (g, s) ← finalCheck host call.profile call.identity call.request call.clock call.prepared
    call.answer
  Tx.require (g.projection.facts.attemptId = call.attemptId ∧
    g.projection.rawHash = call.artifactHash ∧
    g.projection.txHash = call.txHash) (.rejected "FIRST_BROADCAST_ARTIFACT_MISMATCH")
  let m ← Tx.expect (host.sourceMeta g.source) .json
  let operationExpiry ← Tx.expect (canonicalTime g.projection.facts.expiresAt) .invalid
  let authExpiry ← Tx.expect (canonicalTime m.authorizationExpiresAt) .invalid
  let leaseExpiry ← Tx.expect (canonicalTime m.leaseExpiresAt) .invalid
  let issued ← Tx.expect (canonicalTime s.wall) .invalid
  let expires := shortest operationExpiry authExpiry leaseExpiry (issued + call.profile.maxAge)
  Tx.require (issued < expires) (.rejected "FIRST_BROADCAST_PERMIT_EXPIRED")
  let db ← Tx.query id
  match selectRow (Prior call g) db.manualIssuances with
  | some prior => readPrior call g prior
  | none => issueNew host call g s issued expires

end RbhTrade.Permits
