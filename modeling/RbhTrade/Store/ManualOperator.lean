import RbhTrade.Lib.Joined
import RbhTrade.Schema
import RbhTrade.Store.ManualRisk

/-!
# Operator approvals

The tables that an operator fills before an authorization with MANUAL units is armed: trust roots
with their bootstraps, signed requests and approvals, sources, gate attestations and revocations.
Each insert is guarded by the constraints and triggers of the fully migrated schema. The update to
`ARMED` is guarded by two triggers, `manual_b1_no_arm` and `manual_operator_upgrade_arm_guard`, and
each asks for some approval. `OperatorApprovalEnvelope` is the payload that an operator signs.
-/

namespace RbhTrade.Operator

open GoTime Hex Joined Json SqlJson

/-! ## The functions -/

/-- The functions outside this development: the bootstrap secret of the process, empty where it is
not set, the MAC and the hash in hexadecimal, and `strings.ToLower`. -/
structure CryptoHost where
  secret : String
  hmac : String → String → String
  sha256 : String → String
  toLower : String → String

/-- An SQL value that a function is given. -/
inductive SqlValue where
  | text (s : String)
  | int (n : Int)
  | other
deriving DecidableEq

/-- A text, or a number as text; an empty text is refused. -/
def SqlValue.part : SqlValue → Option String
  | .text s => if s = "" then none else some s
  | .int n => some (toString n)
  | .other => none

/-- `manual_operator_bootstrap_valid`; the last argument is the MAC. -/
def bootstrapValid (host : CryptoHost) (args : List SqlValue) : Prop :=
  args.length = 6 ∧ host.secret ≠ "" ∧
    ∃ parts ∈ args.mapM SqlValue.part, ∃ mac ∈ parts[5]?,
      host.toLower mac = host.hmac host.secret (join '|' (parts.take 5))
deriving Decidable

/-- `manual_operator_gate_set_hash`; it is empty where an argument is. -/
def gateSetHash (host : CryptoHost) (args : List String) : String :=
  if args.length ≠ 12 ∨ "" ∈ args then "" else host.sha256 (join '|' args)

/-! ## The rows -/

/-- `length(x)=64 AND x NOT GLOB '*[^0-9A-Fa-f]*'`. -/
def Hex64 (text : String) : Prop := SqlText.length text = 64 ∧ SqlText.allIn isHex text = true
deriving Decidable

/-- The columns of `manual_operator_trust_root_bootstrap` that its MAC covers. -/
structure Bootstrap where
  operatorKeyId : String
  publicKeyHex : String
  rootFingerprint : String
  bootstrapEvidenceHash : String
  deploymentId : String
deriving DecidableEq

/-- The constraints of the table and `manual_operator_trust_root_bootstrap_identity`. -/
def Bootstrap.Accepted (b : Bootstrap) : Prop :=
  Hex64 b.publicKeyHex ∧ Hex64 b.rootFingerprint ∧ Hex64 b.bootstrapEvidenceHash ∧
    1 ≤ SqlText.length b.deploymentId ∧ SqlText.length b.deploymentId ≤ 128
deriving Decidable

/-- `manual_operator_c07_attestations` without its MAC. -/
structure C07Attestation where
  authorizationId : String
  authorizationEpoch : Int
  evidenceHash : String
  reviewedHead : String
  attestedAt : String
deriving DecidableEq

/-- The constraints of the table. The epoch is a 64-bit integer. -/
def C07Attestation.Accepted (a : C07Attestation) : Prop :=
  -2 ^ 63 ≤ a.authorizationEpoch ∧ a.authorizationEpoch < 2 ^ 63 ∧ Hex64 a.evidenceHash ∧
    (SqlText.length a.reviewedHead = 40 ∨ SqlText.length a.reviewedHead = 64)
deriving Decidable

/-- The rows that the MAC function checks. -/
inductive Row where
  | bootstrap (b : Bootstrap)
  | c07 (a : C07Attestation)
deriving DecidableEq

def Row.Accepted : Row → Prop
  | .bootstrap b => b.Accepted
  | .c07 a => a.Accepted

/-- The arguments of `manual_operator_bootstrap_proof` and `manual_operator_c07_proof` before the
MAC. -/
def Row.args : Row → List SqlValue
  | .bootstrap b =>
      [.text b.operatorKeyId, .text b.publicKeyHex, .text b.rootFingerprint,
        .text b.bootstrapEvidenceHash, .text b.deploymentId]
  | .c07 a =>
      [.text a.authorizationId, .int a.authorizationEpoch, .text a.evidenceHash,
        .text a.reviewedHead, .text a.attestedAt]

/-- The MAC is accepted for the row. -/
def Row.Proves (host : CryptoHost) (r : Row) (mac : String) : Prop :=
  bootstrapValid host (r.args ++ [.text mac])
deriving Decidable

/-- The columns of a `manual_operator_gate_attestations` row that the digest covers. -/
structure GateEvidence where
  evidenceHash : String
  reviewedHead : String
  attestedAt : String
deriving DecidableEq

/-- The constraint of the table: the other two columns are free texts. -/
def GateEvidence.Accepted (g : GateEvidence) : Prop := Hex64 g.evidenceHash
deriving Decidable

def GateEvidence.parts (g : GateEvidence) : List String :=
  [g.evidenceHash, g.reviewedHead, g.attestedAt]

/-- The attestations of C04, C05, C07 and C08. -/
structure GateSet where
  c04 : GateEvidence
  c05 : GateEvidence
  c07 : GateEvidence
  c08 : GateEvidence
deriving DecidableEq

def GateSet.gates (q : GateSet) : List GateEvidence := [q.c04, q.c05, q.c07, q.c08]

def GateSet.parts (q : GateSet) : List String := q.gates.flatMap GateEvidence.parts

/-- The digest of the four gates, as the arming guard computes it. -/
def GateSet.hash (host : CryptoHost) (q : GateSet) : String := gateSetHash host q.parts

/-! ## Signatures and comparisons -/

/-- The functions the triggers use besides: `ed25519.Verify` on bytes, the text that a number is
compared as with a column of texts, and the integer that a text or a real number is compared as with
a column of integers. -/
structure OperatorHost extends CryptoHost where
  ed25519 : List Nat → String → List Nat → Bool
  numberText : Scalar → String
  numeric : Scalar → Option Int

/-- A hexadecimal text of the given number of bytes. -/
def decodeBytes (size : Nat) (text : String) : Option (List Nat) :=
  (decode text.toList).filter fun bytes => bytes.length = size

/-- `manual_operator_signature_valid`. -/
def signatureValid (host : OperatorHost) (publicKeyHex payload signatureHex : String) : Bool :=
  match decodeBytes 32 publicKeyHex, decodeBytes 64 signatureHex with
  | some key, some signature => host.ed25519 key payload signature
  | _, _ => false

/-- `x = column` for a column of texts. -/
def EqText (host : OperatorHost) : Scalar → String → Prop
  | .null, _ => False
  | .text s, column => s = column
  | x, column => host.numberText x = column

/-- `x = column` for a column of integers. -/
def EqInt (host : OperatorHost) : Scalar → Int → Prop
  | .null, _ => False
  | .int n, column => n = column
  | x, column => host.numeric x = some column

instance (host : OperatorHost) : (x : Scalar) → (column : String) → Decidable (EqText host x column)
  | .null, _ => inferInstanceAs (Decidable False)
  | .text s, column => inferInstanceAs (Decidable (s = column))
  | .int _, _ => inferInstanceAs (Decidable (_ = _))
  | .double _, _ => inferInstanceAs (Decidable (_ = _))
  | .real _, _ => inferInstanceAs (Decidable (_ = _))

instance (host : OperatorHost) : (x : Scalar) → (column : Int) → Decidable (EqInt host x column)
  | .null, _ => inferInstanceAs (Decidable False)
  | .text _, _ => inferInstanceAs (Decidable (_ = _))
  | .int n, column => inferInstanceAs (Decidable (n = column))
  | .double _, _ => inferInstanceAs (Decidable (_ = _))
  | .real _, _ => inferInstanceAs (Decidable (_ = _))

/-- `lower(x)`. -/
def lowerText (host : OperatorHost) : Scalar → Option String
  | .null => none
  | .text s => some (Risk.toLower s)
  | x => some (Risk.toLower (host.numberText x))

/-! ## The tables -/

/-- `manual_operator_trust_roots`. -/
structure TrustRoot where
  operatorKeyId : String
  publicKeyHex : String
  rootFingerprint : String
  bootstrapEvidenceHash : String
  revokedAt : Option String
deriving DecidableEq

/-- `manual_operator_trust_root_bootstrap`. -/
structure BootstrapRow where
  row : Bootstrap
  attestationMac : String
deriving DecidableEq

/-- `manual_operator_authorization_requests`. -/
structure RequestRow where
  requestId : String
  authorizationId : String
  authorizationEpoch : Int
  requestHash : String
  canonicalEnvelope : String
deriving DecidableEq

/-- `manual_operator_authorization_approvals`. -/
structure ApprovalRow where
  approvalId : String
  requestId : String
  operatorKeyId : String
  envelopeHash : String
  signatureHex : String
  issuedAt : String
  expiresAt : String
deriving DecidableEq

/-- `manual_operator_authorization_sources`. -/
structure SourceRow where
  authorizationId : String
  authorizationEpoch : Int
  operationId : String
  sourceHash : String
deriving DecidableEq

/-- `manual_operator_c07_attestations`. -/
structure C07Row where
  row : C07Attestation
  attestationMac : String
deriving DecidableEq

/-- `manual_operator_gate_attestations.gate`. -/
inductive OperatorGate where
  | c04
  | c05
  | c07
  | c08
deriving DecidableEq

/-- `manual_operator_gate_attestations`. -/
structure GateRow where
  authorizationId : String
  authorizationEpoch : Int
  gate : OperatorGate
  evidence : GateEvidence
deriving DecidableEq

/-- `manual_operator_revocations`. -/
structure RevocationRow where
  revocationId : String
  authorizationId : String
  authorizationEpoch : Int
  evidenceHash : String
deriving DecidableEq

/-- `manual_authorization_units`. -/
structure UnitRow where
  authorizationId : String
  manualPolicyId : String
deriving DecidableEq

/-- The columns of `manual_risk_policies` that arming reads. -/
structure PolicyHashRow where
  id : String
  policyHash : String
deriving DecidableEq

/-- The rows of `canary_gate_attestations` with status `PASS`. -/
structure CanaryGateRow where
  gate : OperatorGate
  evidenceHash : String
  attestedAt : String
deriving DecidableEq

/-- The tables that the triggers read and that an operator does not fill. -/
structure Surroundings where
  authorizations : List RuntimeAuthorization := []
  units : List UnitRow := []
  policies : List PolicyHashRow := []
  wallets : List DryRunWallet := []
  admissionSources : List AdmissionSource := []
  canaryGates : List CanaryGateRow := []
  clocks : List ManualGateClock := []
  operationUsage : List OperationUsage := []
deriving DecidableEq

/-- The column checks of those tables that arming relies on. -/
def Surroundings.Checked (s : Surroundings) : Prop :=
  (∀ a ∈ s.authorizations, 0 < a.epoch ∧ 0 < a.policyVersion ∧ 0 < a.maxOperations) ∧
    (∀ p ∈ s.policies, Risk.LowerHex64 p.policyHash) ∧ ∀ c ∈ s.clocks, c.environment ≠ ""

structure OperatorDb extends Surroundings where
  roots : List TrustRoot := []
  bootstraps : List BootstrapRow := []
  requests : List RequestRow := []
  approvals : List ApprovalRow := []
  sources : List SourceRow := []
  c07s : List C07Row := []
  gates : List GateRow := []
  revocations : List RevocationRow := []
deriving DecidableEq

/-- The foreign key `(authorization_id,authorization_epoch)`. -/
def OperatorDb.Authorized (db : OperatorDb) (id : String) (epoch : Int) : Prop :=
  ∃ a ∈ db.authorizations, a.id = id ∧ (a.epoch : Int) = epoch
deriving Decidable

/-! ## Envelopes in SQL -/

def envelopeKeys : List String :=
  ["domain", "approval_id", "request_id", "operator_key_id", "issued_at", "expires_at",
    "authorization_id", "authorization_epoch", "build_sha", "release_id", "deployment_id",
    "environment", "chain_id", "wallet_id", "wallet_address", "policy_version", "policy_hash",
    "gate_evidence_set_hash", "max_operations", "max_total_input", "source_hash", "nonce",
    "schema_version"]

/-- `json_extract(text,'$.key')`; the column holds valid JSON. -/
def field (text key : String) : Scalar :=
  match parse text with
  | some v => extract v [key]
  | none => .null

/-- `manual_operator_request_canonical` lets the text pass. -/
def RequestCanonical (text : String) : Prop :=
  ∃ v ∈ parse text, v.render = text ∧ HasKeys envelopeKeys v ∧
    (∀ k ∈ type? v ["domain"], k = .text) ∧
    (∀ k ∈ type? v ["authorization_epoch"], k = .integer) ∧
    (∀ k ∈ type? v ["chain_id"], k = .integer) ∧
    (∀ k ∈ type? v ["policy_version"], k = .integer) ∧
    (∀ k ∈ type? v ["max_operations"], k = .integer) ∧
    (∀ k ∈ type? v ["max_total_input"], k = .text) ∧
    (∀ s ∈ (extract v ["max_total_input"]).text?,
      SqlText.allIn Char.isDigit s = true ∧ 1 ≤ SqlText.length s) ∧
    (extract v ["schema_version"]).ne (.text "1") = false
deriving Decidable

/-- What `manual_operator_upgrade_arm_guard` asks of the form of an envelope. -/
def EnvelopeCanonical (text : String) : Prop :=
  ∃ v ∈ parse text, v.render = text ∧ HasKeys envelopeKeys v ∧
    type? v ["domain"] = some .text ∧ type? v ["authorization_epoch"] = some .integer ∧
    type? v ["chain_id"] = some .integer ∧ type? v ["policy_version"] = some .integer ∧
    type? v ["max_operations"] = some .integer ∧ type? v ["max_total_input"] = some .text ∧
    (∃ s ∈ (extract v ["max_total_input"]).text?,
      SqlText.allIn Char.isDigit s = true ∧ 0 < SqlText.length s) ∧
    (extract v ["schema_version"]).eq (.text "1") = true
deriving Decidable

/-- `operatorAuthorizationDomain`. -/
def authorizationDomain : String := "RBH-MANUAL-A4-AUTHORIZATION-V1"

/-! ## The inserts -/

/-- `length(x)=128 AND x NOT GLOB '*[^0-9A-Fa-f]*'`. -/
def Hex128 (text : String) : Prop := SqlText.length text = 128 ∧ SqlText.allIn isHex text = true
deriving Decidable

/-- An insert into `manual_operator_trust_root_bootstrap`, with its proof. -/
def OperatorDb.insertBootstrap (host : OperatorHost) (b : BootstrapRow) (db : OperatorDb) :
    Option OperatorDb :=
  if b.row.Accepted ∧ (Row.bootstrap b.row).Proves host.toCryptoHost b.attestationMac ∧
      ∀ o ∈ db.bootstraps, o.row.operatorKeyId ≠ b.row.operatorKeyId then
    some { db with bootstraps := db.bootstraps ++ [b] }
  else none

/-- The bootstrap of the key, its root and its evidence. -/
def BootstrapRow.Of (b : BootstrapRow) (r : TrustRoot) : Prop :=
  b.row.operatorKeyId = r.operatorKeyId ∧ b.row.publicKeyHex = r.publicKeyHex ∧
    b.row.rootFingerprint = r.rootFingerprint ∧
    b.row.bootstrapEvidenceHash = r.bootstrapEvidenceHash
deriving Decidable

/-- An insert into `manual_operator_trust_roots`. -/
def OperatorDb.insertRoot (r : TrustRoot) (db : OperatorDb) : Option OperatorDb :=
  if Hex64 r.publicKeyHex ∧ Hex64 r.rootFingerprint ∧ Hex64 r.bootstrapEvidenceHash ∧
      (∃ b ∈ db.bootstraps, b.Of r) ∧ ∀ o ∈ db.roots, o.operatorKeyId ≠ r.operatorKeyId then
    some { db with roots := db.roots ++ [r] }
  else none

/-- An insert into `manual_operator_authorization_requests`. -/
def OperatorDb.insertRequest (r : RequestRow) (db : OperatorDb) : Option OperatorDb :=
  if Hex64 r.requestHash ∧ RequestCanonical r.canonicalEnvelope ∧
      (∀ o ∈ db.requests,
        (field o.canonicalEnvelope "nonce").eq (field r.canonicalEnvelope "nonce") = false) ∧
      db.Authorized r.authorizationId r.authorizationEpoch ∧
      ∀ o ∈ db.requests, o.requestId ≠ r.requestId then
    some { db with requests := db.requests ++ [r] }
  else none

/-- `manual_operator_approval_binding` lets the row pass. -/
def ApprovalBound (host : OperatorHost) (db : OperatorDb) (ap : ApprovalRow) : Prop :=
  (∀ r ∈ db.requests, r.requestId = ap.requestId →
    ∀ o ∈ db.requests, (∃ prior ∈ db.approvals, prior.requestId = o.requestId) →
      (field o.canonicalEnvelope "nonce").eq (field r.canonicalEnvelope "nonce") = false) ∧
    ∃ r ∈ db.requests, r.requestId = ap.requestId ∧
      EqText host (field r.canonicalEnvelope "approval_id") ap.approvalId ∧
      EqText host (field r.canonicalEnvelope "operator_key_id") ap.operatorKeyId ∧
      EqText host (field r.canonicalEnvelope "issued_at") ap.issuedAt ∧
      EqText host (field r.canonicalEnvelope "expires_at") ap.expiresAt ∧
      ap.envelopeHash = r.requestHash
deriving Decidable

/-- An insert into `manual_operator_authorization_approvals`. -/
def OperatorDb.insertApproval (host : OperatorHost) (ap : ApprovalRow) (db : OperatorDb) :
    Option OperatorDb :=
  if Hex64 ap.envelopeHash ∧ Hex128 ap.signatureHex ∧ ApprovalBound host db ap ∧
      (∃ r ∈ db.roots, r.operatorKeyId = ap.operatorKeyId) ∧
      ∀ o ∈ db.approvals, o.approvalId ≠ ap.approvalId ∧ o.requestId ≠ ap.requestId then
    some { db with approvals := db.approvals ++ [ap] }
  else none

/-- An insert into `manual_operator_authorization_sources`. -/
def OperatorDb.insertSource (s : SourceRow) (db : OperatorDb) : Option OperatorDb :=
  if Hex64 s.sourceHash ∧
      (∃ x ∈ db.admissionSources, ∃ a ∈ db.authorizations, a.id = s.authorizationId ∧
        (a.epoch : Int) = s.authorizationEpoch ∧ x.operationId = s.operationId ∧
        x.sourceHash = s.sourceHash ∧ x.walletId = a.walletId ∧ x.policyVersion = a.policyVersion) ∧
      (∀ u ∈ db.operationUsage, u.operationId = s.operationId →
        u.authorizationId = s.authorizationId) ∧
      ∀ o ∈ db.sources, o.operationId ≠ s.operationId ∧
        ¬ (o.authorizationId = s.authorizationId ∧ o.authorizationEpoch = s.authorizationEpoch) then
    some { db with sources := db.sources ++ [s] }
  else none

/-- An insert into `manual_operator_c07_attestations`, with its proof. -/
def OperatorDb.insertC07 (host : OperatorHost) (c : C07Row) (db : OperatorDb) : Option OperatorDb :=
  if c.row.Accepted ∧ (Row.c07 c.row).Proves host.toCryptoHost c.attestationMac ∧
      db.Authorized c.row.authorizationId c.row.authorizationEpoch ∧
      ∀ o ∈ db.c07s, ¬ (o.row.authorizationId = c.row.authorizationId ∧
        o.row.authorizationEpoch = c.row.authorizationEpoch) then
    some { db with c07s := db.c07s ++ [c] }
  else none

/-- An insert into `manual_operator_gate_attestations`. -/
def OperatorDb.insertGate (g : GateRow) (db : OperatorDb) : Option OperatorDb :=
  if g.evidence.Accepted ∧ db.Authorized g.authorizationId g.authorizationEpoch ∧
      ∀ o ∈ db.gates, ¬ (o.authorizationId = g.authorizationId ∧
        o.authorizationEpoch = g.authorizationEpoch ∧ o.gate = g.gate) then
    some { db with gates := db.gates ++ [g] }
  else none

/-- An insert into `manual_operator_revocations`. -/
def OperatorDb.insertRevocation (r : RevocationRow) (db : OperatorDb) : Option OperatorDb :=
  if Hex64 r.evidenceHash ∧ db.Authorized r.authorizationId r.authorizationEpoch ∧
      ∀ o ∈ db.revocations, o.revocationId ≠ r.revocationId then
    some { db with revocations := db.revocations ++ [r] }
  else none

/-! ## Arming -/

/-- The gate attestations of an authorization epoch. -/
def OperatorDb.gatesOf (db : OperatorDb) (a : RuntimeAuthorization) : List GateRow :=
  db.gates.filter fun g => g.authorizationId = a.id ∧ g.authorizationEpoch = a.epoch

/-- The attestation of one gate. -/
def OperatorDb.gate? (db : OperatorDb) (a : RuntimeAuthorization) (gate : OperatorGate) :
    Option GateEvidence :=
  ((db.gatesOf a).find? fun g => g.gate = gate).map GateRow.evidence

/-- `manual_operator_gate_set_hash` of the four gates; it is empty where one is missing. -/
def OperatorDb.gateHash (host : OperatorHost) (db : OperatorDb) (a : RuntimeAuthorization) :
    String :=
  match db.gate? a .c04, db.gate? a .c05, db.gate? a .c07, db.gate? a .c08 with
  | some c04, some c05, some c07, some c08 => GateSet.hash host.toCryptoHost ⟨c04, c05, c07, c08⟩
  | _, _, _, _ => ""

/-- The hash of the policy that the units of the authorization declare. -/
def OperatorDb.policyHash? (db : OperatorDb) (a : RuntimeAuthorization) : Option String := do
  let u ← db.units.find? fun u => u.authorizationId = a.id
  let p ← db.policies.find? fun p => p.id = u.manualPolicyId
  some p.policyHash

/-- The rows that a guard joins for one approval. -/
structure ArmRows where
  approval : ApprovalRow
  request : RequestRow
  root : TrustRoot
  source : SourceRow
  c07 : C07Row
  clock : ManualGateClock
deriving DecidableEq

/-- The rows of the product of the tables. -/
def OperatorDb.products (db : OperatorDb) : List ArmRows :=
  db.approvals.flatMap fun approval => db.requests.flatMap fun request =>
    db.roots.flatMap fun root => db.sources.flatMap fun source => db.c07s.flatMap fun c07 =>
      db.clocks.map fun clock => ⟨approval, request, root, source, c07, clock⟩

/-- The rows belong to the approval and to the authorization. -/
def ArmRows.Belong (a : RuntimeAuthorization) (j : ArmRows) : Prop :=
  j.request.requestId = j.approval.requestId ∧
    j.root.operatorKeyId = j.approval.operatorKeyId ∧
    (j.source.authorizationId = a.id ∧ j.source.authorizationEpoch = a.epoch) ∧
    (j.c07.row.authorizationId = a.id ∧ j.c07.row.authorizationEpoch = a.epoch) ∧
    j.clock.environment = a.deployment.environment ∧
    (j.request.authorizationId = a.id ∧ j.request.authorizationEpoch = a.epoch)
deriving Decidable

/-- The root is not revoked, the clock is inside the window without a fault, and the request has its
hash and the signature of the root. -/
def ArmRows.Signed (host : OperatorHost) (j : ArmRows) : Prop :=
  j.root.revokedAt = none ∧ j.clock.faultLatched = false ∧
    TimeNotBefore j.clock.highWaterAt j.approval.issuedAt ∧
    TimeBefore j.clock.highWaterAt j.approval.expiresAt ∧
    host.sha256 j.request.canonicalEnvelope = j.request.requestHash ∧
    signatureValid host j.root.publicKeyHex j.request.canonicalEnvelope j.approval.signatureHex =
    true
deriving Decidable

/-- The fields of the envelope that both guards read. -/
def ArmRows.Names (host : OperatorHost) (a : RuntimeAuthorization) (j : ArmRows) : Prop :=
  (field j.request.canonicalEnvelope "domain").eq (.text authorizationDomain) = true ∧
    EqText host (field j.request.canonicalEnvelope "authorization_id") a.id ∧
    EqInt host (field j.request.canonicalEnvelope "authorization_epoch") a.epoch ∧
    EqText host (field j.request.canonicalEnvelope "deployment_id") a.deployment.deploymentId
deriving Decidable

/-- The attestations of C04, C05 and C08 are those of the canary gates. -/
def GatesCurrent (db : OperatorDb) (a : RuntimeAuthorization) : Prop :=
  (db.gatesOf a).length = 4 ∧
    ∀ g ∈ db.gatesOf a, g.gate ≠ .c07 → ∃ c ∈ db.canaryGates, c.gate = g.gate ∧
      c.evidenceHash = g.evidence.evidenceHash ∧ c.attestedAt = g.evidence.attestedAt
deriving Decidable

/-- The C07 attestation is the one of the gate. -/
def ArmRows.C07Bound (db : OperatorDb) (a : RuntimeAuthorization) (j : ArmRows) : Prop :=
  db.gate? a .c07 =
    some ⟨j.c07.row.evidenceHash, j.c07.row.reviewedHead, j.c07.row.attestedAt⟩
deriving Decidable

/-- A C07 gate has the C07 attestation. -/
def ArmRows.C07Attested (db : OperatorDb) (a : RuntimeAuthorization) (j : ArmRows) : Prop :=
  ∃ g ∈ db.gatesOf a, g.gate = .c07 ∧
    g.evidence = ⟨j.c07.row.evidenceHash, j.c07.row.reviewedHead, j.c07.row.attestedAt⟩
deriving Decidable

/-- What `manual_b1_no_arm` asks of the envelope: the fields of the authorization, of its wallet,
its policy, its source and its gates. -/
def ArmRows.Binds (host : OperatorHost) (db : OperatorDb) (a : RuntimeAuthorization) (j : ArmRows) :
    Prop :=
  (field j.request.canonicalEnvelope "chain_id").eq (.int 4663) = true ∧
    EqText host (field j.request.canonicalEnvelope "build_sha") a.deployment.buildSha ∧
    EqText host (field j.request.canonicalEnvelope "release_id") a.deployment.releaseId ∧
    EqText host (field j.request.canonicalEnvelope "environment") a.deployment.environment ∧
    EqText host (field j.request.canonicalEnvelope "wallet_id") a.walletId ∧
    (∃ w ∈ db.wallets, w.id = a.walletId ∧ w.enabled = true ∧
      lowerText host (field j.request.canonicalEnvelope "wallet_address") =
        some (Risk.toLower w.address)) ∧
    EqInt host (field j.request.canonicalEnvelope "policy_version") a.policyVersion ∧
    (∃ hash ∈ db.policyHash? a,
      EqText host (field j.request.canonicalEnvelope "policy_hash") hash) ∧
    EqText host (field j.request.canonicalEnvelope "source_hash") j.source.sourceHash ∧
    (∃ x ∈ db.admissionSources, x.operationId = j.source.operationId ∧
      x.sourceHash = j.source.sourceHash ∧ x.walletId = a.walletId ∧
      x.policyVersion = a.policyVersion) ∧
    EqInt host (field j.request.canonicalEnvelope "max_operations") a.maxOperations ∧
    EqText host (field j.request.canonicalEnvelope "max_total_input") a.maxTotalInput ∧
    (field j.request.canonicalEnvelope "gate_evidence_set_hash").eq (.text (db.gateHash host a)) =
    true
deriving Decidable

/-- The reviewed heads of the gates are the head of the C07 attestation. -/
def ArmRows.HeadsAgree (db : OperatorDb) (a : RuntimeAuthorization) (j : ArmRows) : Prop :=
  ∀ g ∈ db.gatesOf a, g.evidence.reviewedHead = j.c07.row.reviewedHead
deriving Decidable

/-- No revocation of the authorization epoch is stored. -/
def NotRevoked (db : OperatorDb) (a : RuntimeAuthorization) : Prop :=
  ∀ r ∈ db.revocations, ¬ (r.authorizationId = a.id ∧ r.authorizationEpoch = a.epoch)
deriving Decidable

/-- The joined rows satisfy `manual_b1_no_arm`. -/
def ArmRows.PassesNoArm (host : OperatorHost) (db : OperatorDb) (a : RuntimeAuthorization)
    (j : ArmRows) : Prop :=
  j.Belong a ∧ j.Signed host ∧ j.Names host a ∧ j.Binds host db a ∧ NotRevoked db a ∧
    j.C07Bound db a ∧ GatesCurrent db a ∧ j.HeadsAgree db a
deriving Decidable

/-- The envelope names the request, the approval and its key. -/
def ArmRows.NamesApproval (host : OperatorHost) (j : ArmRows) : Prop :=
  j.approval.envelopeHash = j.request.requestHash ∧
    EqText host (field j.request.canonicalEnvelope "approval_id") j.approval.approvalId ∧
    EqText host (field j.request.canonicalEnvelope "request_id") j.request.requestId ∧
    EqText host (field j.request.canonicalEnvelope "operator_key_id") j.approval.operatorKeyId
deriving Decidable

/-- The nonce of the request is that of one request. -/
def ArmRows.NonceOnce (db : OperatorDb) (j : ArmRows) : Prop :=
  (db.requests.filter fun o =>
    (field o.canonicalEnvelope "nonce").eq (field j.request.canonicalEnvelope "nonce")).length = 1
deriving Decidable

/-- The root was bootstrapped for the deployment of the authorization. -/
def ArmRows.Bootstrapped (host : OperatorHost) (db : OperatorDb) (a : RuntimeAuthorization)
    (j : ArmRows) : Prop :=
  ∃ boot ∈ db.bootstraps, boot.Of j.root ∧
    (Row.bootstrap boot.row).Proves host.toCryptoHost boot.attestationMac ∧
    boot.row.deploymentId = a.deployment.deploymentId
deriving Decidable

/-- The joined rows satisfy `manual_operator_upgrade_arm_guard`. -/
def ArmRows.PassesUpgrade (host : OperatorHost) (db : OperatorDb) (a : RuntimeAuthorization)
    (j : ArmRows) : Prop :=
  j.Belong a ∧ EnvelopeCanonical j.request.canonicalEnvelope ∧ j.Signed host ∧
    j.NamesApproval host ∧ j.Names host a ∧ j.C07Attested db a ∧ GatesCurrent db a ∧
    j.NonceOnce db ∧ j.Bootstrapped host db a ∧
    (Row.c07 j.c07.row).Proves host.toCryptoHost j.c07.attestationMac ∧
    ∀ u ∈ db.operationUsage, u.operationId = j.source.operationId → u.authorizationId = a.id
deriving Decidable

/-- The row has an operator row of the authorization, so that the upgrade guard applies. -/
def OperatorDb.HasEvidence (db : OperatorDb) (a : RuntimeAuthorization) : Prop :=
  (∃ r ∈ db.requests, r.authorizationId = a.id) ∨ (∃ s ∈ db.sources, s.authorizationId = a.id) ∨
    ∃ c ∈ db.c07s, c.row.authorizationId = a.id
deriving Decidable

/-- The authorization has declared MANUAL units. -/
def OperatorDb.Declared (db : OperatorDb) (a : RuntimeAuthorization) : Prop :=
  ∃ u ∈ db.units, u.authorizationId = a.id
deriving Decidable

/-- Both guards let the authorization be armed. -/
def OperatorDb.GuardsPass (host : OperatorHost) (db : OperatorDb) (a : RuntimeAuthorization) :
    Prop :=
  db.Declared a → (∃ j ∈ db.products, j.PassesNoArm host db a) ∧
    (db.HasEvidence a → ∃ j ∈ db.products, j.PassesUpgrade host db a)
deriving Decidable

/-- No other authorization of the environment and wallet is armed. -/
def OperatorDb.OneArmed (db : OperatorDb) (a : RuntimeAuthorization) : Prop :=
  ∀ o ∈ db.authorizations, o.id ≠ a.id → o.state = .armed →
    ¬ (o.deployment.environment = a.deployment.environment ∧ o.walletId = a.walletId)
deriving Decidable

/-- The update of a pending authorization to `ARMED`. -/
def OperatorDb.arm (host : OperatorHost) (id : String) (db : OperatorDb) : Option OperatorDb :=
  match db.authorizations.find? fun a => a.id = id with
  | some a =>
      if a.state = .pending ∧ db.GuardsPass host a ∧ db.OneArmed a then
        some { db with
          authorizations := db.authorizations.map fun o =>
            if o.id = id then { o with state := .armed } else o }
      else none
  | none => none

/-! ## Runs -/

inductive OperatorAct where
  | bootstrap (b : BootstrapRow)
  | root (r : TrustRoot)
  | request (r : RequestRow)
  | approval (ap : ApprovalRow)
  | source (s : SourceRow)
  | c07 (c : C07Row)
  | gate (g : GateRow)
  | revocation (r : RevocationRow)
  | arm (id : String)
  /-- Anything else: the tables that an operator does not fill take any value that passes their
  checks. -/
  | other (s : Surroundings) (checked : s.Checked)

/-- The statement of an action, `none` where the schema refuses it. -/
def OperatorAct.exec (host : OperatorHost) (db : OperatorDb) : OperatorAct → Option OperatorDb
  | .bootstrap b => db.insertBootstrap host b
  | .root r => db.insertRoot r
  | .request r => db.insertRequest r
  | .approval ap => db.insertApproval host ap
  | .source s => db.insertSource s
  | .c07 c => db.insertC07 host c
  | .gate g => db.insertGate g
  | .revocation r => db.insertRevocation r
  | .arm id => db.arm host id
  | .other s _ => some { db with toSurroundings := s }

def operatorStep (host : OperatorHost) (db : OperatorDb) (act : OperatorAct) : OperatorDb :=
  (act.exec host db).getD db

/-- The database after a run from empty operator tables. -/
def operatorRun (host : OperatorHost) (s : Surroundings) (acts : List OperatorAct) : OperatorDb :=
  acts.foldl (operatorStep host) { toSurroundings := s }

/-! ## `OperatorApprovalEnvelope` -/

structure Envelope where
  domain : String
  approvalId : String
  requestId : String
  operatorKeyId : String
  issuedAt : String
  expiresAt : String
  authorizationId : String
  authorizationEpoch : UInt64
  buildSha : String
  releaseId : String
  deploymentId : String
  environment : String
  chainId : UInt64
  walletId : String
  walletAddress : String
  policyVersion : UInt64
  policyHash : String
  gateEvidenceSetHash : String
  maxOperations : UInt64
  maxTotalInput : String
  sourceHash : String
  nonce : String
  schemaVersion : String
deriving DecidableEq

/-- The fields in the order of the structure. -/
def Envelope.members (e : Envelope) : List (String × Value) :=
  [("domain", .text e.domain), ("approval_id", .text e.approvalId),
    ("request_id", .text e.requestId), ("operator_key_id", .text e.operatorKeyId),
    ("issued_at", .text e.issuedAt), ("expires_at", .text e.expiresAt),
    ("authorization_id", .text e.authorizationId),
    ("authorization_epoch", .nat e.authorizationEpoch.toNat), ("build_sha", .text e.buildSha),
    ("release_id", .text e.releaseId), ("deployment_id", .text e.deploymentId),
    ("environment", .text e.environment), ("chain_id", .nat e.chainId.toNat),
    ("wallet_id", .text e.walletId), ("wallet_address", .text e.walletAddress),
    ("policy_version", .nat e.policyVersion.toNat), ("policy_hash", .text e.policyHash),
    ("gate_evidence_set_hash", .text e.gateEvidenceSetHash),
    ("max_operations", .nat e.maxOperations.toNat), ("max_total_input", .text e.maxTotalInput),
    ("source_hash", .text e.sourceHash), ("nonce", .text e.nonce),
    ("schema_version", .text e.schemaVersion)]

def Envelope.json (e : Envelope) : Value := .struct e.members

/-- `json.Marshal(e)`. -/
def Envelope.marshal (e : Envelope) : String := e.json.render

/-- The digits of an address after its mark. -/
def addressDigits (text : String) : List Char :=
  match text.toList with
  | '0' :: 'x' :: digits => digits
  | '0' :: 'X' :: digits => digits
  | digits => digits

/-- `common.IsHexAddress`. -/
def isHexAddress (text : String) : Bool :=
  (addressDigits text).length = 40 && (addressDigits text).all isHex

/-- The text is the time that Go formats it as. -/
def formattedTime (text : String) : Option Instant :=
  match parseRFC3339Nano text with
  | some t => if formatRFC3339Nano t = text then some t else none
  | none => none

/-- The hash is of the given number of characters and hexadecimal. -/
def hashText (sizes : List Nat) (text : String) : Bool :=
  sizes.contains text.utf8ByteSize && (decode text.toList).isSome

/-- `canonicalPayload`. -/
def Envelope.canonicalPayload (e : Envelope) : Option String :=
  if e.approvalId = "" ∨ e.requestId = "" ∨ e.operatorKeyId = "" ∨ e.authorizationId = "" ∨
      e.authorizationEpoch = 0 ∨ e.chainId ≠ 4663 ∨ e.environment = "" ∨ e.walletId = "" ∨
      e.policyVersion = 0 ∨ e.maxOperations = 0 ∨ e.nonce = "" ∨ e.schemaVersion ≠ "1" ∨
      e.domain ≠ authorizationDomain ∨ isHexAddress e.walletAddress = false ∨
      (addressDigits e.walletAddress).all (· = '0') then none
  else
    match formattedTime e.issuedAt, formattedTime e.expiresAt with
    | some issued, some expires =>
        if ¬ issued < expires then none
        else if hashText [40, 64] e.buildSha = false ∨ hashText [64] e.policyHash = false ∨
            hashText [64] e.gateEvidenceSetHash = false ∨ hashText [64] e.sourceHash = false then
            none
        else
          match Decimal.canonical? e.maxTotalInput with
          | some n => if 0 < n then some e.marshal else none
          | none => none
    | _, _ => none

/-- A field of texts: a null leaves it empty. -/
def decodeText (v : Option Value) : Option String :=
  match v with
  | none => some ""
  | some .null => some ""
  | some (.str l) => some (unescape l)
  | some _ => none

/-- A field of unsigned integers: a null leaves it zero. -/
def decodeUint (v : Option Value) : Option UInt64 :=
  match v with
  | none => some 0
  | some .null => some 0
  | some (.num l) =>
      match Decimal.digitsFrom 0 l with
      | some n => if l ≠ [] ∧ n < 2 ^ 64 then some (UInt64.ofNat n) else none
      | none => none
  | some _ => none

/-- The envelope with the given fields. -/
def decodeFields (text : String → Option String) (uint : String → Option UInt64) :
    Option Envelope := do
  some {
    domain := ← text "domain"
    approvalId := ← text "approval_id"
    requestId := ← text "request_id"
    operatorKeyId := ← text "operator_key_id"
    issuedAt := ← text "issued_at"
    expiresAt := ← text "expires_at"
    authorizationId := ← text "authorization_id"
    authorizationEpoch := ← uint "authorization_epoch"
    buildSha := ← text "build_sha"
    releaseId := ← text "release_id"
    deploymentId := ← text "deployment_id"
    environment := ← text "environment"
    chainId := ← uint "chain_id"
    walletId := ← text "wallet_id"
    walletAddress := ← text "wallet_address"
    policyVersion := ← uint "policy_version"
    policyHash := ← text "policy_hash"
    gateEvidenceSetHash := ← text "gate_evidence_set_hash"
    maxOperations := ← uint "max_operations"
    maxTotalInput := ← text "max_total_input"
    sourceHash := ← text "source_hash"
    nonce := ← text "nonce"
    schemaVersion := ← text "schema_version" }

/-- `json.Unmarshal` of an object whose keys are the fields, each once. -/
def decodeEnvelope (text : String) : Option Envelope :=
  match parse text with
  | some v => decodeFields (fun key => decodeText (at? v [key])) fun key => decodeUint (at? v [key])
  | none => none

end RbhTrade.Operator
