import RbhTrade.Lib.Bytes
import RbhTrade.Store.ManualArtifact

/-!
# Observations of a MANUAL nonce

The package `manualnonce`. An observation says which nonce a local backend saw for the wallet of an
operation, at which block and when. `verify` accepts its canonical text only, for the facts of a
bound operation and a nonce that is about to be claimed.
-/

namespace RbhTrade.ManualNonce

open GoTime Json ManualArtifact

/-- `MaxObservationAge`, in nanoseconds. -/
def maxObservationAge : Int := 2 * nanosPerSecond

structure Facts where
  operationId : String
  requestId : String
  bindingHash : String
  chainId : UInt64
  walletId : String
  walletAddress : String
  contractAddress : String
  runtimeCodeHash : String
  quoteBlock : UInt64
  quoteHash : String
  boundAt : String
  expiresAt : String
deriving DecidableEq

/-- `Observation`; `pendingNonce` is the field `PendingValue`. -/
structure Observation where
  operationId : String
  requestId : String
  bindingHash : String
  chainId : UInt64
  walletId : String
  walletAddress : String
  contractAddress : String
  runtimeCodeHash : String
  blockNumber : UInt64
  blockHash : String
  blockCanonical : Bool
  confirmedNonce : String
  pendingNonce : String
  observedAt : String
deriving DecidableEq

/-! ## Texts -/

def observationNames : List String :=
  ["operation_id", "request_id", "binding_hash", "chain_id", "wallet_id", "wallet_address",
   "contract_address", "runtime_code_hash", "block_number", "block_hash", "block_canonical",
   "confirmed_nonce", "pending_nonce", "observed_at"]

def Observation.members (o : Observation) : List (String × Value) :=
  [("operation_id", .text o.operationId), ("request_id", .text o.requestId),
   ("binding_hash", .text o.bindingHash), ("chain_id", .nat o.chainId.toNat),
   ("wallet_id", .text o.walletId), ("wallet_address", .text o.walletAddress),
   ("contract_address", .text o.contractAddress), ("runtime_code_hash", .text o.runtimeCodeHash),
   ("block_number", .nat o.blockNumber.toNat), ("block_hash", .text o.blockHash),
   ("block_canonical", .bool o.blockCanonical), ("confirmed_nonce", .text o.confirmedNonce),
   ("pending_nonce", .text o.pendingNonce), ("observed_at", .text o.observedAt)]

def Observation.json (o : Observation) : Value := .struct o.members

/-- `Encode`. -/
def Observation.encode (o : Observation) : String := o.json.render

/-- `Digest`. -/
def digest (sum : Sum256) (raw : List UInt8) : String :=
  String.ofList (Hex.encode (sum raw.toByteArray).toList)

/-- `Decode` into an observation, without unknown fields. -/
def decodeObservation (v : Value) : Option Observation := do
  let members ← members? v
  guard (noUnknown observationNames members = true)
  let values := fieldValues observationNames members
  let text := fun name => fill readText "" (values name)
  let number := fun name => fill (readNat (2 ^ 64)) 0 (values name)
  some {
    operationId := ← text "operation_id"
    requestId := ← text "request_id"
    bindingHash := ← text "binding_hash"
    chainId := .ofNat (← number "chain_id")
    walletId := ← text "wallet_id"
    walletAddress := ← text "wallet_address"
    contractAddress := ← text "contract_address"
    runtimeCodeHash := ← text "runtime_code_hash"
    blockNumber := .ofNat (← number "block_number")
    blockHash := ← text "block_hash"
    blockCanonical := ← fill readBool false (values "block_canonical")
    confirmedNonce := ← text "confirmed_nonce"
    pendingNonce := ← text "pending_nonce"
    observedAt := ← text "observed_at" }

/-- `decode`: the first value of a text of at most 4096 bytes. -/
def decode (raw : List UInt8) : Option Observation :=
  if raw.length = 0 ∨ 4096 < raw.length then none
  else (firstValue? (Bytes.toText raw)).bind decodeObservation

/-! ## Checks -/

/-- `textHex(raw, size, false)`; zero is allowed. -/
def textHex (raw : String) (size : Nat) : Bool :=
  raw.utf8ByteSize = size && lowerCase raw.toList && (Hex.decode raw.toList).isSome

/-- What `Verify` asks of the facts; `textHex(raw, size, true)` is `markedHex`. -/
def Facts.Sound (f : Facts) : Prop :=
  f.operationId ≠ "" ∧ f.requestId ≠ "" ∧ f.walletId ≠ "" ∧ f.chainId = 4663 ∧
    textHex f.bindingHash 64 = true ∧ markedHex f.walletAddress 40 = true ∧
    markedHex f.contractAddress 40 = true ∧ markedHex f.runtimeCodeHash 64 = true ∧
    markedHex f.quoteHash 64 = true ∧ f.quoteBlock ≠ 0 ∧ f.quoteBlock.toNat ≤ maxInt64
deriving Decidable

/-- The observation is one of the operation that the facts name. -/
def Observation.SameIdentity (o : Observation) (f : Facts) : Prop :=
  o.operationId = f.operationId ∧ o.requestId = f.requestId ∧ o.bindingHash = f.bindingHash ∧
    o.chainId = f.chainId ∧ o.walletId = f.walletId ∧ o.walletAddress = f.walletAddress ∧
    o.contractAddress = f.contractAddress ∧ o.runtimeCodeHash = f.runtimeCodeHash
deriving Decidable

/-- The block is the quoted one or a later one. -/
def Observation.SinceQuote (o : Observation) (f : Facts) : Prop :=
  f.quoteBlock ≤ o.blockNumber ∧ (o.blockNumber = f.quoteBlock → o.blockHash = f.quoteHash)
deriving Decidable

/-- The block is reported as canonical and is well formed. -/
def Observation.SoundBlock (o : Observation) : Prop :=
  o.blockCanonical = true ∧ o.blockNumber.toNat ≤ maxInt64 ∧ markedHex o.blockHash 64 = true
deriving Decidable

/-- Both counts are the nonce. -/
def Observation.SameNonce (o : Observation) (nonce : String) : Prop :=
  o.confirmedNonce = nonce ∧ o.pendingNonce = nonce
deriving Decidable

/-- The times of `Verify`: bound, observed, claimed and not expired, and the observation is
fresh. -/
def Timely (bound observed claimed expiry : Instant) : Prop :=
  bound ≤ observed ∧ observed ≤ claimed ∧ claimed < expiry ∧ claimed - observed ≤ maxObservationAge
deriving Decidable

/-- `Verify`. -/
def verify (sum : Sum256) (raw : List UInt8) (digested nonce : String) (f : Facts)
    (claimedAt : String) : Option Observation := do
  let o ← decode raw
  guard (Bytes.ofText o.encode = raw ∧ digest sum raw = digested)
  guard (f.Sound ∧ o.SameIdentity f ∧ o.SoundBlock ∧ o.SinceQuote f ∧ o.SameNonce nonce)
  let _ ← nonce? nonce
  let bound ← canonicalTime f.boundAt
  let expiry ← canonicalTime f.expiresAt
  let observed ← canonicalTime o.observedAt
  let claimed ← canonicalTime claimedAt
  guard (Timely bound observed claimed expiry)
  some o

end RbhTrade.ManualNonce
