import RbhTrade.Lib.Growth
import RbhTrade.Schema
import RbhTrade.Store.ManualMath

/-!
# The runtime clock of the MANUAL phases

`manual_gate_clock_events` with its triggers, the clock of one invocation, and the functions that
initialise, advance, latch and read it. An event is written with its audit row and its alert, and
the state of an environment is its latest event, if those two rows are there.
-/

namespace RbhTrade

open Tables GoTime

/-! ## The host -/

/-- The functions outside this development that the MANUAL phases call: the identifier of a clock
event. -/
structure ClockHost where
  clockID : String → Nat → String

/-! ## Events -/

/-- The audit row of an event. It has no authorization, so no epoch either, and its details are the
columns of the event. -/
def ManualClockEvent.audit (e : ManualClockEvent) : RuntimeAudit :=
  { id := "manual-clock-audit:" ++ e.id, eventType := "MANUAL_SUBMISSION_CLOCK", operationId :=
    none, attemptId := none, authorizationId := none, authorizationEpoch := 0,
    reasonCode := "CLOCK_STATE_METADATA_NOT_PERMISSION", createdAt := e.updatedAt }

/-- The alert of an event. -/
def ManualClockEvent.alert (e : ManualClockEvent) : RuntimeAlert :=
  { id := "manual-clock-alert:" ++ e.id, auditId := e.audit.id,
    severity := if e.faultLatched = true then "CRITICAL" else "INFO", state := "PENDING",
    createdAt := e.updatedAt }

/-- `manual_gate_clock_complete`. The alert may have been delivered since. -/
def Db.ClockComplete (db : Db) (e : ManualClockEvent) : Prop :=
  e.audit ∈ db.runtimeAudit ∧ ∃ a ∈ db.alertOutbox, { a with state := "PENDING" } = e.alert
deriving Decidable

/-- The events of an environment, the oldest first. -/
def Db.clockEvents (db : Db) (environment : String) : List ManualClockEvent :=
  db.manualClockEvents.filter fun e => e.environment = environment

/-- `manual_gate_clock_state`: an incomplete latest event hides the earlier ones. -/
def Db.clockState (db : Db) (environment : String) : Option ManualClockEvent :=
  selectRow (fun e => db.ClockComplete e ∧ ∀ x ∈ db.clockEvents environment,
    x.generation ≤ e.generation) (db.clockEvents environment)

/-- The first check of `manual_gate_clock_source`. -/
def ManualClockEvent.Canonical (host : ClockHost) (e : ManualClockEvent) : Prop :=
  validID e.environment = true ∧ 1 ≤ e.generation ∧ (canonicalTime e.highWaterAt).isSome ∧
    (canonicalTime e.updatedAt).isSome ∧
    (e.faultLatched = false → e.faultReason = none ∧ e.faultAt = none ∧
      e.updatedAt = e.highWaterAt) ∧
    (e.faultLatched = true → e.faultReason ≠ none ∧ e.faultAt = some e.updatedAt) ∧
    e.id = host.clockID e.environment e.generation
deriving Decidable

/-- No row has an identifier of the event. -/
def Db.ClockFresh (db : Db) (e : ManualClockEvent) : Prop :=
  (∀ x ∈ db.manualClockEvents, x.id ≠ e.id) ∧ (∀ a ∈ db.runtimeAudit, a.id ≠ e.audit.id) ∧
    ∀ a ∈ db.alertOutbox, a.id ≠ e.alert.id ∧ a.auditId ≠ e.audit.id
deriving Decidable

/-- What may follow an event: one that is not below it, or its latch. -/
def ManualClockEvent.Precedes (old e : ManualClockEvent) : Prop :=
  old.faultLatched = false ∧ old.generation < maxInt64 ∧ e.generation = old.generation + 1 ∧
    ((e.faultLatched = false ∧ TimeNotBefore e.highWaterAt old.highWaterAt) ∨
      (e.faultLatched = true ∧ e.highWaterAt = old.highWaterAt))
deriving Decidable

/-- The second check of `manual_gate_clock_source`. -/
def Db.ClockTransition (db : Db) (e : ManualClockEvent) : Prop :=
  (e.generation = 1 ∧ e.faultLatched = false ∧ db.clockEvents e.environment = []) ∨
    ∃ old ∈ db.clockState e.environment, old.Precedes e
deriving Decidable

/-- `INSERT INTO manual_gate_clock_events` with its triggers. -/
def insertManualClockEvent (host : ClockHost) (e : ManualClockEvent) : Tx ManualErr Db Unit := do
  let db ← Tx.query id
  Tx.require (e.Canonical host ∧ db.ClockFresh e) .sql
  Tx.require (db.ClockTransition e) .sql
  Tx.exec fun db => { db with
    manualClockEvents := db.manualClockEvents ++ [e],
    runtimeAudit := db.runtimeAudit ++ [e.audit],
    alertOutbox := db.alertOutbox ++ [e.alert] }

/-- `readManualRuntimeClock`. -/
def readManualRuntimeClock (db : Db) (environment : String) : Except ManualErr ManualClockEvent :=
  match db.clockState environment with
  | none => .error .sql
  | some v =>
      if validID v.environment = false ∨ v.generation < 1 ∨ v.generation = maxInt64 ∨
          v.faultLatched = true then
        .error (.rejected "RUNTIME_CLOCK_LATCHED_OR_INVALID")
      else if canonicalTime v.highWaterAt = none ∨ v.updatedAt ≠ v.highWaterAt ∨
          v.faultReason ≠ none ∨ v.faultAt ≠ none then
        .error (.rejected "RUNTIME_CLOCK_STATE_INVALID")
      else .ok v

/-! ## Samples -/

/-- `manualRuntimeSample`; the durations are nanoseconds. -/
structure RuntimeSample where
  wall : String
  errorBound : Int
  ticks : Int
  provider : String
  session : String
deriving DecidableEq

/-- What the time source answers: a sample, with an error or without one; a sample that comes after
the context is done; or a panic. It is not asked where the context is done before. -/
inductive SampleAnswer where
  | sample (s : RuntimeSample) (failed : Bool)
  | late (s : RuntimeSample)
  | panicked
  | notAsked
deriving DecidableEq

/-- `bounds`. With a bound that is not negative neither end passes the sample. -/
def RuntimeSample.bounds (s : RuntimeSample) : Except ManualErr (Instant × Instant) :=
  match canonicalTime s.wall with
  | none => .error .invalid
  | some t =>
      if s.errorBound < 0 ∨ yearOf (t - s.errorBound) < 1970 ∨ 9998 < yearOf (t + s.errorBound) then
        .error .invalid
      else .ok (t - s.errorBound, t + s.errorBound)

/-- `manualRuntimeClock`. -/
structure RuntimeClock where
  maximumError : Int
  previous : Option RuntimeSample := none
  invalid : Bool := false
  faultReason : Option ClockFault := none
  faultWall : String := ""
deriving DecidableEq

/-- A fault that a read finds. -/
def RuntimeClock.fault (c : RuntimeClock) (reason : ClockFault) : RuntimeClock :=
  { c with invalid := true, faultReason := some reason }

/-- A sample that can be verified. -/
def RuntimeSample.Verifiable (s : RuntimeSample) (maximumError : Int) : Prop :=
  (canonicalTime s.wall).isSome ∧ validID s.provider = true ∧ validID s.session = true ∧
    0 ≤ s.ticks ∧ 0 ≤ s.errorBound ∧ s.errorBound ≤ maximumError ∧ 0 ≤ maximumError
deriving Decidable

/-- A sample that goes on from the previous one. -/
def RuntimeSample.Follows (s : RuntimeSample) (previous : RuntimeSample) : Prop :=
  ¬ TimeBefore s.wall previous.wall ∧ previous.ticks ≤ s.ticks ∧ s.provider = previous.provider ∧
    s.session = previous.session
deriving Decidable

/-- `read` of a clock. The clock after the read comes with the answer. -/
def RuntimeClock.read (c : RuntimeClock) (answer : SampleAnswer) :
    Except ManualErr RuntimeSample × RuntimeClock :=
  let unverifiable : ManualErr := .rejected "RUNTIME_CLOCK_UNVERIFIABLE"
  if c.invalid = true then (.error unverifiable, c)
  else
    match answer with
    | .notAsked => (.error unverifiable, c)
    | .panicked => (.error unverifiable, c.fault .unverifiable)
    | .late s => (.error .done, { c with faultWall := s.wall })
    | .sample s failed =>
        let c := { c with faultWall := s.wall }
        if failed = true ∨ ¬ s.Verifiable c.maximumError then
          (.error unverifiable, c.fault .unverifiable)
        else if ∃ p ∈ c.previous, ¬ s.Follows p then
          (.error (.rejected "RUNTIME_CLOCK_REVERSAL"), c.fault .reversal)
        else
          match s.bounds with
          | .error e => (.error e, c.fault .unverifiable)
          | .ok _ => (.ok s, { c with previous := some s })

/-- `checkManualClockFloor`. -/
def checkManualClockFloor (v : ManualClockEvent) (s : RuntimeSample) : Except ManualErr Unit :=
  if TimeNotBefore s.wall v.highWaterAt then .ok ()
  else .error (.rejected "RUNTIME_CLOCK_REVERSAL")

/-! ## The writers -/

/-- The event of a healthy clock. -/
def healthyEvent (host : ClockHost) (environment : String) (generation : Nat) (wall : String) :
    ManualClockEvent :=
  { id := host.clockID environment generation, environment := environment, generation := generation,
    highWaterAt := wall, faultLatched := false, faultReason := none, faultAt := none,
    updatedAt := wall }

/-- `initializeManualRuntimeClock`; the answers are those of the time source before and in the
transaction. -/
def initializeManualRuntimeClock (host : ClockHost) (environment : String) (maximumError : Int)
    (before inside : SampleAnswer) : Tx ManualErr Db Unit := do
  Tx.require (validID environment = true ∧ 0 ≤ maximumError) .invalid
  let (first, clock) := ({ maximumError := maximumError } : RuntimeClock).read before
  let _ ← Tx.ofExcept first
  let s ← Tx.ofExcept (clock.read inside).1
  insertManualClockEvent host (healthyEvent host environment 1 s.wall)

/-- `latchManualRuntimeClock`. -/
def latchManualRuntimeClock (host : ClockHost) (environment : String) (reason : ClockFault)
    (observed : String) : Tx ManualErr Db Unit := do
  let db ← Tx.query id
  let v ← Tx.ofExcept (readManualRuntimeClock db environment)
  let observed := if (canonicalTime observed).isSome then observed else v.highWaterAt
  insertManualClockEvent host
    { id := host.clockID environment (v.generation + 1), environment := environment,
      generation := v.generation + 1, highWaterAt := v.highWaterAt, faultLatched := true,
      faultReason := some reason, faultAt := some observed, updatedAt := observed }

/-- `advance` of the trust of a signer; the runtime verifier and the issuer of a permit do the same
with the samples of their own checks. -/
def advanceManualClock (host : ClockHost) (environment : String) (s : RuntimeSample) :
    Tx ManualErr Db Unit := do
  let db ← Tx.query id
  let v ← Tx.ofExcept (readManualRuntimeClock db environment)
  Tx.ofExcept (checkManualClockFloor v s)
  insertManualClockEvent host (healthyEvent host v.environment (v.generation + 1) s.wall)

/-! ## The trust of a signer -/

/-- The parts of `manualPreSignTrust` that a read uses. -/
structure PreSignTrust where
  environment : String
  provider : String
  clock : RuntimeClock
deriving DecidableEq

/-- What a read finds outside the database. -/
structure TrustAnswer where
  /-- The flag of the bundle. -/
  unhealthy : Bool := false
  /-- The key versions of the cipher and of the decryptor are those of the bundle. -/
  keyVersions : Bool := true
  /-- The measured process is that of the profile. -/
  identified : Bool := true
  sample : SampleAnswer
deriving DecidableEq

/-- `runtimeStopFirst`. -/
def runtimeStopFirst (db : Db) : Except ManualErr Unit :=
  match db.control with
  | none => .error (.rejected "CONTROL_UNAVAILABLE")
  | some c =>
      if c.emergencyStopped = true then .error (.rejected "EMERGENCY_STOPPED")
      else if c.mode ≠ .controlledCanary then .error (.rejected "CANARY_DISABLED")
      else .ok ()

/-- The checks of a read before the sample. -/
def TrustAnswer.before (x : TrustAnswer) (db : Db) : Except ManualErr Unit := do
  runtimeStopFirst db
  if x.unhealthy = true then throw (.rejected "SIGNING_TRUST_UNHEALTHY")
  if x.keyVersions = false then throw (.rejected "SIGNING_TRUST_KEY_VERSION_CHANGED")
  if x.identified = false then throw (.rejected "SIGNING_PROCESS_IDENTITY_UNVERIFIABLE")

/-- The checks of a read after the sample. -/
def PreSignTrust.settle (t : PreSignTrust) (db : Db) (s : RuntimeSample) :
    Except ManualErr Instant × PreSignTrust :=
  if s.provider ≠ t.provider then
    (.error (.rejected "SIGNING_CLOCK_PROVIDER_MISMATCH"),
      { t with clock := t.clock.fault .unverifiable })
  else
    match readManualRuntimeClock db t.environment with
    | .error e => (.error e, t)
    | .ok state =>
        match checkManualClockFloor state s with
        | .error e =>
            (.error e, { t with clock := { t.clock.fault .reversal with faultWall := s.wall } })
        | .ok () =>
            match canonicalTime s.wall with
            | none => (.error .invalid, t)
            | some now => (.ok now, t)

/-- `read` of the trust, in the transaction or on the store. On the store each statement has a
snapshot of its own, so the stop is read in an earlier database than the clock. -/
def PreSignTrust.read (t : PreSignTrust) (earlier db : Db) (x : TrustAnswer) :
    Except ManualErr Instant × PreSignTrust :=
  match x.before earlier with
  | .error e => (.error e, t)
  | .ok () =>
      match t.clock.read x.sample with
      | (.error e, clock) => (.error e, { t with clock := clock })
      | (.ok s, clock) => { t with clock := clock }.settle db s

end RbhTrade
