import RbhTrade.Lib.JsonStruct
import RbhTrade.Store.ManualMath

/-!
# The identity of a MANUAL artifact

The package `manualartifact`. The facts of an artifact name the operation, its claimed nonce, the
exact transaction and the policy, evidence and deployment it was prepared under. Their canonical
text is what `json.Marshal` writes of valid facts. The text that authenticates the ciphertext of an
artifact ends with the hash of the canonical text.
-/

namespace RbhTrade.ManualArtifact

open Hex Json

def maxDataBytes : Nat := 65536

/-- `Facts`; `sender` and `recipient` are the fields `From` and `To`. -/
structure Facts where
  version : UInt64
  operationId : String
  requestId : String
  executionStepId : String
  attemptId : String
  walletId : String
  reservationId : String
  contractHash : String
  chainId : UInt64
  sender : String
  recipient : String
  value : String
  data : String
  nonce : String
  gasLimit : UInt64
  gasFeeCap : String
  gasTipCap : String
  policyVersion : UInt64
  policyHash : String
  quoteBlockNumber : UInt64
  quoteBlockHash : String
  runtimeCodeHash : String
  expiresAt : String
  claimedAt : String
  claimObservationHash : String
  deadlineCapability : String
  contractDeadline : Bool
  authorizationId : String
  authorizationEpoch : UInt64
  manualPolicyId : String
  manualPolicyHash : String
  gateEvidenceSetHash : String
  environment : String
  buildSha : String
  releaseId : String
  deploymentId : String
deriving DecidableEq

/-! ## `Validate` -/

/-- `strings.ToLower` of the Latin letters. A text with another letter is no hexadecimal text, and
no caller accepts one. -/
def lowerCase (cs : List Char) : Bool := cs.all fun c => c.toLower = c

/-- The hexadecimal digits of a text that `0x` marks. -/
def marked? (v : String) : Option (List Char) :=
  match v.toList with
  | '0' :: 'x' :: digits => some digits
  | _ => none

/-- `fixedHex` after the mark. -/
def fixedDigits (cs : List Char) (size : Nat) : Bool :=
  (String.ofList cs).utf8ByteSize = size && lowerCase cs && (decode cs).isSome && cs.any (· ≠ '0')

/-- `fixedHex(v, size, false, true)`. -/
def fixedHex (v : String) (size : Nat) : Bool := fixedDigits v.toList size

/-- `fixedHex(v, size, true, true)`. -/
def markedHex (v : String) (size : Nat) : Bool :=
  match marked? v with
  | some digits => fixedDigits digits size
  | none => false

/-- `address`: the mark, forty hexadecimal digits of either case, not all of them zero. -/
def address (v : String) : Bool :=
  match marked? v with
  | some digits =>
      v.utf8ByteSize = 42 && digits.length = 40 && digits.all isHex && digits.any (· ≠ '0')
  | none => false

/-- `manualnonce.Nonce`: a canonical number with a successor. -/
def nonce? (raw : String) : Option Nat :=
  match Decimal.canonical? raw with
  | some n => if n < 2 ^ 64 - 1 then some n else none
  | none => none

/-- Positive, and at most `math.MaxInt64`. -/
def positiveInt64 (n : UInt64) : Bool := n ≠ 0 && n.toNat ≤ maxInt64

def Facts.ids (f : Facts) : List String :=
  [f.operationId, f.requestId, f.executionStepId, f.attemptId, f.walletId, f.reservationId,
    f.authorizationId, f.manualPolicyId, f.environment, f.releaseId, f.deploymentId]

def Facts.validIdentity (f : Facts) : Bool :=
  f.version = 1 && f.chainId = 4663 && f.executionStepId = "manual-exec:" ++ f.operationId &&
    f.attemptId = "manual-nonce:" ++ f.operationId &&
    f.reservationId = "manual-risk:" ++ f.operationId && address f.sender && address f.recipient &&
    positiveInt64 f.gasLimit && positiveInt64 f.policyVersion && positiveInt64 f.quoteBlockNumber &&
    positiveInt64 f.authorizationEpoch

def Facts.validHashes (f : Facts) : Bool :=
  fixedHex f.contractHash 64 && fixedHex f.policyHash 64 && fixedHex f.claimObservationHash 64 &&
    fixedHex f.manualPolicyHash 64 && fixedHex f.gateEvidenceSetHash 64 &&
    markedHex f.quoteBlockHash 64 && markedHex f.runtimeCodeHash 64 &&
    (fixedHex f.buildSha 40 || fixedHex f.buildSha 64)

def Facts.validTimes (f : Facts) : Bool :=
  match canonicalTime f.expiresAt, canonicalTime f.claimedAt with
  | some expires, some claimed =>
      claimed < expires && f.deadlineCapability = "APPLICATION_TTL_ONLY" && !f.contractDeadline
  | _, _ => false

def Facts.validData (f : Facts) : Bool :=
  match marked? f.data with
  | some digits =>
      2 < f.data.utf8ByteSize && f.data.utf8ByteSize ≤ 2 + 2 * maxDataBytes && lowerCase digits &&
        (decode digits).isSome
  | none => false

def Facts.validAmounts (f : Facts) : Bool :=
  match u256 f.value, u256 f.gasFeeCap, u256 f.gasTipCap with
  | some value, some fee, some tip =>
      0 < fee && tip ≤ fee && fee * f.gasLimit.toNat < 2 ^ 256 &&
        fee * f.gasLimit.toNat + value < 2 ^ 256
  | _, _, _ => false

/-- `Validate` returns no error. -/
def Facts.validate (f : Facts) : Bool :=
  f.ids.all validID && f.validIdentity && f.validHashes &&
    (nonce? f.nonce).isSome && f.validTimes &&
    f.validData && f.validAmounts

/-! ## The canonical text -/

def factNames : List String :=
  ["version", "operation_id", "request_id", "execution_step_id", "attempt_id", "wallet_id",
   "reservation_id", "contract_hash", "chain_id", "from", "to", "value", "data", "nonce",
   "gas_limit", "gas_fee_cap", "gas_tip_cap", "policy_version", "policy_hash", "quote_block_number",
   "quote_block_hash", "runtime_code_hash", "expires_at", "claimed_at", "claim_observation_hash",
   "deadline_capability", "contract_deadline", "authorization_id", "authorization_epoch",
   "manual_policy_id", "manual_policy_hash", "gate_evidence_set_hash", "environment", "build_sha",
   "release_id", "deployment_id"]

def Facts.members (f : Facts) : List (String × Value) :=
  [("version", .nat f.version.toNat), ("operation_id", .text f.operationId),
   ("request_id", .text f.requestId), ("execution_step_id", .text f.executionStepId),
   ("attempt_id", .text f.attemptId), ("wallet_id", .text f.walletId),
   ("reservation_id", .text f.reservationId), ("contract_hash", .text f.contractHash),
   ("chain_id", .nat f.chainId.toNat), ("from", .text f.sender), ("to", .text f.recipient),
   ("value", .text f.value), ("data", .text f.data), ("nonce", .text f.nonce),
   ("gas_limit", .nat f.gasLimit.toNat), ("gas_fee_cap", .text f.gasFeeCap),
   ("gas_tip_cap", .text f.gasTipCap), ("policy_version", .nat f.policyVersion.toNat),
   ("policy_hash", .text f.policyHash), ("quote_block_number", .nat f.quoteBlockNumber.toNat),
   ("quote_block_hash", .text f.quoteBlockHash), ("runtime_code_hash", .text f.runtimeCodeHash),
   ("expires_at", .text f.expiresAt), ("claimed_at", .text f.claimedAt),
   ("claim_observation_hash", .text f.claimObservationHash),
   ("deadline_capability", .text f.deadlineCapability),
   ("contract_deadline", .bool f.contractDeadline), ("authorization_id", .text f.authorizationId),
   ("authorization_epoch", .nat f.authorizationEpoch.toNat),
   ("manual_policy_id", .text f.manualPolicyId), ("manual_policy_hash", .text f.manualPolicyHash),
   ("gate_evidence_set_hash", .text f.gateEvidenceSetHash), ("environment", .text f.environment),
   ("build_sha", .text f.buildSha), ("release_id", .text f.releaseId),
   ("deployment_id", .text f.deploymentId)]

def Facts.json (f : Facts) : Value := .struct f.members

/-- `json.Marshal(f)`. -/
def Facts.marshal (f : Facts) : String := f.json.render

/-- `sha256.Sum256`. -/
abbrev Sum256 := ByteArray → Vector UInt8 32

/-- `hex.EncodeToString` of the hash of a text. -/
def digest (sum : Sum256) (text : String) : String :=
  String.ofList (encode (sum text.toByteArray).toList)

/-- `Canonical`: the text and its hash. -/
def Facts.canonical (sum : Sum256) (f : Facts) : Option (String × String) :=
  if f.validate then some (f.marshal, digest sum f.marshal) else none

/-- What `json.Unmarshal` makes of a value. -/
def decodeFacts (v : Value) : Option Facts := do
  let members ← members? v
  let values := fieldValues factNames members
  let text := fun name => fill readText "" (values name)
  let number := fun name => fill (readNat (2 ^ 64)) 0 (values name)
  some {
    version := .ofNat (← number "version")
    operationId := ← text "operation_id"
    requestId := ← text "request_id"
    executionStepId := ← text "execution_step_id"
    attemptId := ← text "attempt_id"
    walletId := ← text "wallet_id"
    reservationId := ← text "reservation_id"
    contractHash := ← text "contract_hash"
    chainId := .ofNat (← number "chain_id")
    sender := ← text "from"
    recipient := ← text "to"
    value := ← text "value"
    data := ← text "data"
    nonce := ← text "nonce"
    gasLimit := .ofNat (← number "gas_limit")
    gasFeeCap := ← text "gas_fee_cap"
    gasTipCap := ← text "gas_tip_cap"
    policyVersion := .ofNat (← number "policy_version")
    policyHash := ← text "policy_hash"
    quoteBlockNumber := .ofNat (← number "quote_block_number")
    quoteBlockHash := ← text "quote_block_hash"
    runtimeCodeHash := ← text "runtime_code_hash"
    expiresAt := ← text "expires_at"
    claimedAt := ← text "claimed_at"
    claimObservationHash := ← text "claim_observation_hash"
    deadlineCapability := ← text "deadline_capability"
    contractDeadline := ← fill readBool false (values "contract_deadline")
    authorizationId := ← text "authorization_id"
    authorizationEpoch := .ofNat (← number "authorization_epoch")
    manualPolicyId := ← text "manual_policy_id"
    manualPolicyHash := ← text "manual_policy_hash"
    gateEvidenceSetHash := ← text "gate_evidence_set_hash"
    environment := ← text "environment"
    buildSha := ← text "build_sha"
    releaseId := ← text "release_id"
    deploymentId := ← text "deployment_id" }

/-- `Decode`. -/
def decodeText (sum : Sum256) (raw : String) : Option Facts :=
  if 2 * maxDataBytes + 8192 < raw.utf8ByteSize then none
  else
    match (parse raw).bind decodeFacts with
    | none => none
    | some f =>
        match f.canonical sum with
        | none => none
        | some (canonical, _) => if canonical ≠ raw then none else some f

/-- `AAD`: what authenticates the ciphertext of an artifact. -/
def Facts.aad (sum : Sum256) (f : Facts) : Option String :=
  match f.canonical sum with
  | none => none
  | some (_, hash) =>
      some ("rbh:4663:" ++ f.operationId ++ ":" ++ f.executionStepId ++ ":" ++ f.attemptId ++
        ":manual:v1:" ++ hash)

end RbhTrade.ManualArtifact
