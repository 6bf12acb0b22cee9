import RbhTrade.Lib.Process
import RbhTrade.Store.DryRun

/-!
# The execution kernel

`ExecutionKernel.Prepare` as a process. Each transaction and each query outside a transaction is one
access of the database; what the chain, the signer and the cipher answer is given with the call,
since nothing restricts it.
-/

namespace RbhTrade

open Tables GoTime Decimal

/-- The call that the SDK builds. -/
structure CurveCall where
  toAddress : String
  value : Int
  data : String

/-- `FeeParameters`. -/
structure FeeParameters where
  gasLimit : Nat
  gasTipCap : Option Int
  gasFeeCap : Option Int

/-- A signed transaction: its hash, and its encoding unless that fails. -/
structure SignedTransaction where
  hash : String
  raw : Option String

/-- The kernel's signer and key, the answers that a call of `Prepare` gets and the clock values it
reads, in the order of their use. An answer that is an error is absent. -/
structure PrepareInput where
  signer : String
  keyVersion : String
  ttl : Instant
  unreservedAt : Instant
  executionChainId : Option Nat
  block : Option BlockRef
  route : Option CurveRoute
  /-- `TokenBalance` for the amount of a sale. -/
  sellBalance : Option Int
  /-- The minimum of `QuoteBuy` or `QuoteSell`. -/
  minimum : Option Int
  /-- `BuildBuy` or `BuildSell`. -/
  call : Except Err CurveCall
  fee : Option FeeParameters
  nativeBalance : Option Int
  tokenBalance : Option Int
  snapshotHolds : Bool
  pendingNonce : Option Nat
  reservedAt : Instant
  currentNonce : Option Nat
  frozenAt : Instant
  recheck : Instant
  expiredAt : Instant
  signed : Except Err SignedTransaction
  /-- The ciphertext and the nonce of `Encrypt`. -/
  encrypted : Option (String × String)
  committedAt : Instant

/-! ## Before the reservation -/

/-- `ExecutionCandidate`: three queries, each on its own. -/
def executionCandidate (host : ServiceHost) (operation walletId : String) :
    Process Db (Except Err (DecodedRequest × DryRunResult × String)) := do
  match ← Process.read fun db => selectRow (fun o => o.id = operation ∧ o.walletId = walletId ∧
      (o.status = .dryRunSucceeded ∨ o.status = .executionPrepared ∨
        o.status = .signedPrebroadcast)) db.operations with
  | none => pure (.error .sql)
  | some op =>
      match ← Process.read fun db => selectRow (fun w => w.id = walletId ∧ w.enabled = true)
          db.dryRunWallets with
      | none => pure (.error .sql)
      | some wallet =>
          match host.decodeRequest op.requestJson with
          | none => pure (.error .invalidRequest)
          | some request =>
              if request.fingerprint = op.requestFingerprint ∧ request.operationId = operation ∧
                  request.policyVersion ≠ 0 then do
                match ← Process.read (·.storedResult operation) with
                | none => pure (.error .sql)
                | some result =>
                    if result.success = true then
                      pure (.ok (request, result, host.hexToAddress wallet.address))
                    else pure (.error .sql)
              else pure (.error .idempotencyConflict)

/-- `finalCall`: the call and the amount that goes in. -/
def finalCall (request : DecodedRequest) (x : PrepareInput) : Except Err (CurveCall × Int) :=
  match (bigInt? request.amountValue).filter (0 < ·), request.kind with
  | none, _ => .error .invalidRequest
  | some requested, .copyBuy =>
      match x.minimum.filter (0 < ·) with
      | none => .error .invalidRequest
      | some _ => x.call.map fun call => (call, requested)
  | some requested, .copySell =>
      match x.sellBalance with
      | none => .error .reservation
      | some balance =>
          let amount := balance * requested / 10000
          match x.minimum.filter (fun m => 0 < m ∧ 0 < amount) with
          | none => .error .invalidRequest
          | some _ => x.call.map fun call => (call, amount)

/-- What `Prepare` has computed when it reserves. -/
structure ExecutionQuote where
  call : CurveCall
  inputAsset : String
  amountIn : Int
  gasLimit : Nat
  gasTipCap : Int
  gasFeeCap : Int
  gasBudget : Int
  nonce : Nat

/-- The part of `Prepare` from the check of the signer to the pending nonce. It does not access the
database. -/
def quoteExecution (host : ServiceHost) (operation : String) (request : DecodedRequest)
    (dryRun : DryRunResult) (wallet : String) (x : PrepareInput) : Except Err ExecutionQuote := do
  if ¬ (wallet = x.signer ∧ request.operationId = operation ∧ request.policyVersion ≠ 0) then
    throw .wrongSigner
  if x.executionChainId ≠ some chainID then throw .artifactIntegrity
  if (x.block.filter fun b => b.number ≠ 0 ∧ b.hash ≠ zeroHash) = none then throw .staleState
  let token := host.hexToAddress request.token
  let route ← (x.route.filter fun r => r.protocol = "pons-v2-curve" ∧ r.token = token ∧
    r.curve ≠ zeroAddress).elim (throw .unknownRoute) pure
  if ¬ (dryRun.route.protocol = "pons-v2-curve" ∧ dryRun.route.token = route.token ∧
      dryRun.route.curve = route.curve) then
    throw .staleState
  let (call, amountIn) ← finalCall request x
  let fee ← x.fee.elim (throw .feePolicy) pure
  let tip ← fee.gasTipCap.elim (throw .feePolicy) pure
  let cap ← (fee.gasFeeCap.filter fun c => fee.gasLimit ≠ 0 ∧ 0 < c).elim (throw .feePolicy) pure
  let gasBudget := fee.gasLimit * cap
  let nativeBalance ← x.nativeBalance.elim (throw .reservation) pure
  if request.kind = .copySell ∧ (x.tokenBalance.filter (amountIn ≤ ·)) = none then
    throw .reservation
  let nativeRequired := if request.kind = .copyBuy then gasBudget + call.value else gasBudget
  if nativeBalance < nativeRequired then throw .reservation
  if x.snapshotHolds = false then throw .staleState
  let nonce ← x.pendingNonce.elim (throw .nonceConflict) pure
  return { call := call, inputAsset := if request.kind = .copyBuy then "native" else token,
           amountIn := amountIn, gasLimit := fee.gasLimit, gasTipCap := tip, gasFeeCap := cap,
           gasBudget := gasBudget, nonce := nonce }

/-! ## After the reservation -/

/-- The part of `Prepare` that signs and encrypts. An error comes with the reason to freeze the
execution, except for a transaction that cannot be encoded. -/
def signReserved (host : ServiceHost) (wallet : String) (request : DecodedRequest)
    (dryRun : DryRunResult) (q : ExecutionQuote) (reservation : ReservedExecution)
    (x : PrepareInput) : Except (Option String × Err) SignedArtifact :=
  match x.signed with
  | .error e => .error (some "signing_failed", e)
  | .ok tx =>
      match tx.raw with
      | none => .error (none, .sql)
      | some raw =>
          let payload : SignedPayload :=
            { txHash := tx.hash, keyVersion := x.keyVersion, fromAddress := wallet,
              toAddress := q.call.toAddress, value := toString q.call.value, calldata :=
              q.call.data, gasLimit := q.gasLimit, gasTipCap := toString q.gasTipCap,
              gasFeeCap := toString q.gasFeeCap }
          let artifact : SignedArtifact :=
            { attemptId := reservation.attemptId, operation := reservation.operationId,
              stepId := reservation.stepId, walletId := reservation.walletId, nonce := q.nonce,
              payload := payload, policyVersion := request.policyVersion,
              quoteBlockNumber := dryRun.block.number, quoteBlockHash := dryRun.block.hash,
              expiresAt := request.expiresAt }
          match host.verifyRawArtifact raw artifact with
          | .error e => .error (some "artifact_integrity_failed", e)
          | .ok () =>
              match x.encrypted with
              | none => .error (some "artifact_encryption_failed", .encryption)
              | some (ciphertext, nonce) =>
                  .ok { artifact with
                    payload := { payload with
                      encryptedRawTx := ciphertext, encryptionNonce := nonce } }

/-- `verifyEncrypted`. -/
def verifyEncrypted (host : ServiceHost) (stored : SignedArtifact) : Except Err SignedArtifact :=
  match host.openArtifact stored.payload with
  | some _ => .ok stored
  | none => .error .artifactIntegrity

/-- The end of `Prepare`: commit the artifact, and if that fails, look for one that is stored. -/
def commitArtifact (host : ServiceHost) (operation : String) (reservation : ReservedExecution)
    (a : SignedArtifact) (now : Instant) : Process Db (Except Err SignedArtifact) := do
  match ← Process.tx (commitSigned reservation a now) with
  | .ok _ => pure (.ok a)
  | .error e =>
      match ← Process.read (loadEncryptedArtifact host.toHost · operation) with
      | some existing => pure (verifyEncrypted host existing)
      | none => pure (.error e)

/-- Freeze the execution, whether or not that succeeds, and return an error. -/
def freezeWith (walletId operation reason : String) (now : Instant) (e : Err) :
    Process Db (Except Err SignedArtifact) := do
  let _ ← Process.tx (freezeExecution walletId operation reason now)
  pure (.error e)

/-- The artifact with which `Prepare` expires a reservation that it has not signed. -/
def ReservedExecution.unsigned (r : ReservedExecution) : SignedArtifact :=
  { attemptId := r.attemptId, operation := r.operationId, stepId := r.stepId,
    walletId := r.walletId, nonce := 0, payload := { txHash := "" } }

/-- `Prepare` once it has a reservation. -/
def prepareReserved (host : ServiceHost) (operation walletId wallet : String)
    (request : DecodedRequest) (dryRun : DryRunResult) (q : ExecutionQuote)
    (reservation : ReservedExecution) (x : PrepareInput) :
    Process Db (Except Err SignedArtifact) :=
  if x.currentNonce ≠ some reservation.nonce then
    freezeWith walletId operation "pending_nonce_changed_before_sign" x.frozenAt .nonceConflict
  else
    match request.checkTTL x.recheck with
    | .error e => do
        let _ ← Process.tx (expirePreBroadcast reservation.unsigned none x.expiredAt)
        pure (.error e)
    | .ok () =>
        match signReserved host wallet request dryRun q reservation x with
        | .error (some reason, e) => freezeWith walletId operation reason x.frozenAt e
        | .error (none, e) => pure (.error e)
        | .ok a => commitArtifact host operation reservation a x.committedAt

/-! ## The call -/

/-- `Prepare` of an operation that has no signed artifact. -/
def prepareNew (host : ServiceHost) (operation walletId : String) (x : PrepareInput) :
    Process Db (Except Err SignedArtifact) := do
  match ← executionCandidate host operation walletId with
  | .error e => pure (.error e)
  | .ok (request, dryRun, wallet) =>
      match request.checkTTL x.ttl with
      | .error e => do
          let _ ← Process.tx (expireUnreserved operation x.unreservedAt)
          pure (.error e)
      | .ok () =>
          match quoteExecution host operation request dryRun wallet x with
          | .error e => pure (.error e)
          | .ok q => do
              match ← Process.tx (reserveExecution host.toHost operation walletId wallet q.nonce
                  q.inputAsset (toString q.amountIn) (toString q.gasBudget) x.reservedAt) with
              | .error e => pure (.error e)
              | .ok reservation =>
                  prepareReserved host operation walletId wallet request dryRun q reservation x

/-- `Prepare`. -/
def prepare (host : ServiceHost) (operation walletId : String) (x : PrepareInput) :
    Process Db (Except Err SignedArtifact) :=
  if operation = "" ∨ walletId = "" then pure (.error .invalidRequest)
  else do
    match ← Process.read (loadEncryptedArtifact host.toHost · operation) with
    | some existing => pure (verifyEncrypted host existing)
    | none => prepareNew host operation walletId x

end RbhTrade
