import RbhTrade.Lib.Process
import RbhTrade.Store.ControlledSubmission

/-!
# The submission services

`SubmissionService.submit`, which serves `Submit` and `ReplayUnknown`, and one controlled send from
the claim of its permit to its outcome. A call runs several transactions; a process may die between
two of them, and then the database keeps what was committed so far.
-/

namespace RbhTrade

open Tables GoTime

/-! ## The plain service -/

/-- The clock values that a call of `submit` reads, in the order of its reads. -/
structure SubmitClock where
  ttl : Instant
  begun : Instant
  recheck : Instant
  outcome : Instant

/-- What `submit` returns: Go's record and error, either of which may be empty. -/
structure SubmitResult where
  record : Option SubmissionRecord := none
  err : Option Err := none
deriving DecidableEq

/-- The text of an error of `CheckOperationTTL`. -/
def ttlDetail (e : Err) : String :=
  if e = .ttlExpired then "application TTL expired" else "application TTL cannot be verified"

/-- The outcome of a row that an earlier process left behind. -/
def restartOutcome : Outcome :=
  { state := .broadcastUnknown, failureClass := some .restartWithInflightSubmission,
    detail := "send outcome was not durably recorded" }

/-- The outcome that `submit` records for an answer. -/
def plainOutcome (a : SignedArtifact) : Answer → Outcome
  | .rejected detail =>
      { state := .knownUnsent, failureClass := some .deterministicRejection, detail := detail }
  | .failed detail =>
      { state := .broadcastUnknown, failureClass := some .ambiguousTransport, detail := detail }
  | .accepted hash =>
      if hash = a.txHash then { state := .submitted, rpcHash := hash }
      else
        { state := .manualResolution, rpcHash := hash, failureClass := some .hashMismatch,
          detail := "RPC transaction hash mismatch" }

/-- What `submit` returns for an answer whose outcome it tried to record. -/
def plainResult (a : SignedArtifact) (sub : SubmissionRecord) (recorded : Bool) :
    Answer → SubmitResult
  | .rejected _ => { record := some sub, err := some .broadcastRejected }
  | .failed _ => { record := some sub, err := some .broadcastAmbiguous }
  | .accepted hash =>
      if hash ≠ a.txHash then { record := some sub, err := some .rpcHashMismatch }
      else if recorded = true then { record := some { sub with state := .submitted } }
      else { record := some sub, err := some .broadcastAmbiguous }

/-- The end of `submit`, once its row is open: the second check of the expiry, the send and its
outcome. A replay that expires only closes its own row. -/
def finishSend (a : SignedArtifact) (sub : SubmissionRecord) (replayUnknown : Bool)
    (clock : SubmitClock) (answer : Answer) (db : Db) : SubmitResult × Db :=
  match checkOperationTTL db a.operation clock.recheck with
  | .error e =>
      if replayUnknown = true then
        ({ err := some e }, (finishSubmission a sub
          { state := .expiredPrebroadcast, failureClass := some .ttlExpiredPreSend,
            detail := ttlDetail e } clock.outcome).stateAfter db)
      else
        match expirePreBroadcast a (some sub) clock.outcome db with
        | .ok (_, db') => ({ err := some e }, db')
        | .error e' => ({ err := some e' }, db)
  | .ok () =>
      match finishSubmission a sub (plainOutcome a answer) clock.outcome db with
      | .ok (_, db') => (plainResult a sub true answer, db')
      | .error _ => (plainResult a sub false answer, db)

/-- The part of `submit` that may send: check the expiry, open a row, send. Without an answer the
process dies after its row is open. -/
def sendArtifact (host : Host) (a : SignedArtifact) (latest : Option Submission)
    (replayUnknown : Bool) (clock : SubmitClock) (answer : Option Answer) (db : Db) :
    Option SubmitResult × Db :=
  match checkOperationTTL db a.operation clock.ttl with
  | .error e =>
      (some { err := some e },
        if replayUnknown = false ∧ latest = none then
          (expirePreBroadcast a none clock.outcome).stateAfter db
        else db)
  | .ok () =>
      match beginSubmission host a replayUnknown clock.begun db with
      | .error e => (some { err := some e }, db)
      | .ok (sub, db') =>
          match answer with
          | none => (none, db')
          | some answer =>
              let (result, db'') := finishSend a sub replayUnknown clock answer db'
              (some result, db'')

/-- `submit`; `Submit` calls it without and `ReplayUnknown` with the replay flag. -/
def submit (host : Host) (operation : String) (replayUnknown : Bool) (clock : SubmitClock)
    (answer : Option Answer) (db : Db) : Option SubmitResult × Db :=
  match loadEncryptedArtifact host db operation with
  | none => (some { err := some .artifactIntegrity }, db)
  | some a =>
      match host.openArtifact a.payload with
      | none => (some { err := some .artifactIntegrity }, db)
      | some _ =>
          match latestSubmission a.attemptId db.submissions with
          | none =>
              if replayUnknown = true then (some { err := some .invalidRequest }, db)
              else sendArtifact host a none replayUnknown clock answer db
          | some latest =>
              match latest.state with
              | .submitted => (some { record := some latest.record }, db)
              | .submitting =>
                  (some { record := some { latest.record with state := .broadcastUnknown },
                          err := some .broadcastAmbiguous },
                    (finishSubmission a latest.record restartOutcome clock.outcome).stateAfter db)
              | .broadcastUnknown =>
                  if replayUnknown = true then
                    sendArtifact host a (some latest) replayUnknown clock answer db
                  else
                    (some { record := some latest.record, err := some .broadcastAmbiguous }, db)
              | _ =>
                  if replayUnknown = true then (some { err := some .invalidRequest }, db)
                  else sendArtifact host a (some latest) replayUnknown clock answer db

/-! ## The controlled worker -/

/-- How far a controlled send comes before its process dies, or the answer it gets. -/
inductive SendFate where
  | begun
  | marked
  | answered (answer : Answer)

/-- The clock values of a controlled send: at each check of the lease, and those its caller read. -/
structure ControlledClock where
  beginLease : Instant
  beginNow : Instant
  markLease : Instant
  sendLease : Instant
  now : Instant

/-- The send transaction of a controlled worker. -/
def controlledSend (host : Host) (work : ControlledSubmissionWork) (v : RuntimeGateSnapshot)
    (sub : SubmissionRecord) (a : SignedArtifact) (lease : LeaseFence) (clock : ControlledClock)
    (answer : Answer) (db : Db) : Db :=
  match controlledSendGateTx host work v sub a lease clock.sendLease clock.now db with
  | .error _ => db
  | .ok (false, db') => db'
  | .ok (true, db') =>
      match controlledSendOutcomeTx host work sub a clock.now answer db' with
      | .ok (_, db'') => db''
      | .error _ => db

/-- One work item of `RunOnce`: claim the permit, then `SendControlledPrepared`. -/
def sendControlled (host : Host) (work : ControlledSubmissionWork) (v : RuntimeGateSnapshot)
    (lease : LeaseFence) (clock : ControlledClock) (fate : SendFate) (db : Db) : Db :=
  match beginControlledSubmissionAfterGate host v work lease clock.beginLease clock.beginNow db with
  | .error _ => db
  | .ok (sub, db₁) =>
      match fate, loadControlledArtifact host work db₁ with
      | .begun, _ => db₁
      | _, none => db₁
      | fate, some a =>
          match markControlledSendIntent host work v sub lease clock.markLease clock.now db₁ with
          | .error _ => db₁
          | .ok (_, db₂) =>
              match fate with
              | .answered answer => controlledSend host work v sub a lease clock answer db₂
              | _ => db₂

end RbhTrade
