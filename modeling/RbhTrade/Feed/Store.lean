import RbhTrade.Lib.Bytes
import RbhTrade.Lib.GoTime
import RbhTrade.Lib.JsonStruct
import RbhTrade.Lib.Tables
import RbhTrade.Lib.Transaction

/-!
# The feed store and the bot that reads it

The feed keeps every observation once in `feed_events`, under a rowid that SQLite chooses, and
copies it to `feed_outbox` under the same number. The bot reads the outbox in order and takes an
item only if its offset is the next one.

SQLite's AUTOINCREMENT gives a new row the rowid after the last one it has given. An insert that is
suppressed may take a rowid too, which is then lost. So every insert comes with the number of rowids
that are lost if it is suppressed. A table is the list of its rows in the order of their rowids.
-/

namespace RbhTrade.Feed

open Tables GoTime Bytes Json

/-! ## Rows -/

/-- `Observation`. The hash is the text that `Hex` gives. -/
structure Observation where
  chainId : Nat
  source : String
  sourceSequence : Nat
  txHash : String
  stableActionPath : String
  payloadJson : String
  observedAt : Instant
deriving DecidableEq

inductive Inclusion where
  | observed
  | orphaned
deriving DecidableEq

/-- `feed_events`. -/
structure FeedEvent where
  offset : Nat
  observationId : String
  source : String
  sourceSequence : Nat
  txHash : String
  stableActionPath : String
  payloadJson : String
  observedAt : String
  inclusion : Inclusion
deriving DecidableEq

/-- `feed_outbox`. -/
structure OutboxRow where
  offset : Nat
  payloadJson : String
deriving DecidableEq

/-- `feed_progress`. -/
structure FeedProgress where
  observedSequence : Option Nat := none
  durableEventOffset : Nat := 0
  degraded : Bool := false
  degradedReason : Option String := none
  updatedAt : String := "1970-01-01T00:00:00Z"
deriving DecidableEq

/-- `feed_registry_snapshot`. -/
structure RegistrySnapshot where
  payloadJson : String
  durableEventOffset : Nat
  updatedAt : String
deriving DecidableEq

/-- The feed database, with the largest rowid that `feed_events` has given. -/
structure FeedDb where
  events : List FeedEvent := []
  outbox : List OutboxRow := []
  progress : FeedProgress := {}
  registrySnapshot : Option RegistrySnapshot := none
  sequence : Nat := 0
deriving DecidableEq

/-- `sequencer.Reorg`. -/
structure Reorg where
  sequenceNumber : Nat
  previousHash : String
  replacementHash : String
deriving DecidableEq

/-- The functions outside this development: the hash of bytes, as hexadecimal text, and
`json.Valid`. -/
structure FeedHost where
  sum : List UInt8 → String
  jsonValid : String → Bool

inductive FeedErr where
  | invalidObservation
  | storedHash
  | sql
deriving DecidableEq

/-! ## Observations -/

def sourceSequencer : String := "sequencer"

def sourceRPC : String := "rpc"

def zeroHash : String := "0x" ++ String.ofList (List.replicate 64 '0')

/-- `unicode.IsSpace`. -/
def isSpace (c : Char) : Bool :=
  let n := c.toNat
  (9 ≤ n && n ≤ 13) || n = 0x20 || n = 0x85 || n = 0xA0 || n = 0x1680 ||
    (0x2000 ≤ n && n ≤ 0x200a) || n = 0x2028 || n = 0x2029 || n = 0x202f || n = 0x205f || n = 0x3000

/-- The bytes that `ID` hashes. The text of a hash is in lower case as it is. -/
def Observation.identity (o : Observation) : List UInt8 :=
  terminated 0 [ofText (toString o.chainId), ofText o.source, ofText o.txHash,
    ofText o.stableActionPath]

/-- `ID`. -/
def Observation.id (o : Observation) (host : FeedHost) : String := host.sum o.identity

/-- `Validate`. -/
def Observation.Valid (host : FeedHost) (o : Observation) : Prop :=
  o.chainId = 4663 ∧ (o.source = sourceSequencer ∨ o.source = sourceRPC) ∧ o.txHash ≠ zeroHash ∧
    o.stableActionPath.toList.all isSpace = false ∧ o.stableActionPath.utf8ByteSize ≤ 256 ∧
    host.jsonValid o.payloadJson = true ∧ o.observedAt ≠ zeroInstant
deriving Decidable

def maxRowid : Nat := 2 ^ 63 - 1

/-- The event of an observation. -/
def eventOf (host : FeedHost) (o : Observation) (offset : Nat) : FeedEvent where
  offset := offset
  observationId := o.id host
  source := o.source
  sourceSequence := o.sourceSequence
  txHash := o.txHash
  stableActionPath := o.stableActionPath
  payloadJson := o.payloadJson
  observedAt := formatRFC3339Nano o.observedAt
  inclusion := .observed

/-- An observation with the identity is stored. -/
def FeedDb.Stores (db : FeedDb) (id : String) : Prop := ∃ e ∈ db.events, e.observationId = id
deriving Decidable

/-- `INSERT INTO feed_events … ON CONFLICT(observation_id) DO NOTHING`: the rowid of the new row, if
there is one. -/
def insertEvent (host : FeedHost) (o : Observation) (lost : Nat) :
    Tx FeedErr FeedDb (Option Nat) := do
  let db ← Tx.query id
  if db.Stores (o.id host) then
    Tx.exec fun db => { db with sequence := db.sequence + lost }
    pure none
  else
    let offset := db.sequence + 1
    Tx.require (offset ≤ maxRowid) .sql
    Tx.exec fun db => { db with events := db.events ++ [eventOf host o offset], sequence := offset }
    pure (some offset)

/-- `INSERT INTO feed_outbox`. -/
def insertOutbox (row : OutboxRow) : Tx FeedErr FeedDb Unit := do
  let db ← Tx.query id
  Tx.require (∀ r ∈ db.outbox, r.offset ≠ row.offset) .sql
  Tx.exec fun db => { db with outbox := db.outbox ++ [row] }

/-- An observation and, if it is a new one, its outbox row. -/
def publish (host : FeedHost) (o : Observation) (lost : Nat) : Tx FeedErr FeedDb (Option Nat) := do
  match ← insertEvent host o lost with
  | none => pure none
  | some offset =>
      insertOutbox ⟨offset, o.payloadJson⟩
      pure (some offset)

/-! ## Commits -/

/-- `CommitResult`. -/
structure CommitResult where
  insertedObservations : Nat := 0
  durableEventOffset : Nat := 0
deriving DecidableEq

/-- The result after one more observation. -/
def CommitResult.add (r : CommitResult) : Option Nat → CommitResult
  | none => r
  | some offset => ⟨r.insertedObservations + 1, max r.durableEventOffset offset⟩

/-- The loop of `commit`; each observation with the rowids lost if its insert is suppressed. -/
def commitEach (host : FeedHost) : List (Observation × Nat) → CommitResult →
    Tx FeedErr FeedDb CommitResult
  | [], result => pure result
  | (o, lost) :: rest, result => do
      let offset ← publish host o lost
      commitEach host rest (result.add offset)

/-- `commit`. -/
def commit (host : FeedHost) (observations : List (Observation × Nat))
    (observedSequence : Option Nat) (snapshot : Option String) (now : Instant) :
    Tx FeedErr FeedDb CommitResult := do
  Tx.require (∀ o ∈ observations, o.1.Valid host) .invalidObservation
  let result ← commitEach host observations {}
  let progress ← Tx.query FeedDb.progress
  let durable := if result.durableEventOffset = 0 then progress.durableEventOffset
    else result.durableEventOffset
  let stamp := formatRFC3339Nano now
  -- The driver refuses a number that does not fit the column.
  Tx.require (∀ n ∈ observedSequence, n ≤ maxRowid) .sql
  Tx.exec fun db => { db with progress := { db.progress with
    observedSequence := match observedSequence, db.progress.observedSequence with
      | none, old => old
      | some n, none => some n
      | some n, some old => some (if old < n then n else old),
    durableEventOffset := max db.progress.durableEventOffset durable,
    updatedAt := stamp } }
  Tx.exec fun db => { db with registrySnapshot := match snapshot with
    | none => db.registrySnapshot
    | some payload => some ⟨payload, durable, stamp⟩ }
  pure { result with durableEventOffset := durable }

/-- `CommitSequencer`. -/
def commitSequencer (host : FeedHost) (observations : List (Observation × Nat))
    (observedSequence : Nat) (now : Instant) : Tx FeedErr FeedDb CommitResult :=
  commit host observations (some observedSequence) none now

/-- `CommitObservations`. -/
def commitObservations (host : FeedHost) (observations : List (Observation × Nat)) (now : Instant) :
    Tx FeedErr FeedDb CommitResult :=
  commit host observations none none now

/-- `CommitReceipt`. -/
def commitReceipt (host : FeedHost) (observations : List (Observation × Nat)) (snapshot : String)
    (now : Instant) : Tx FeedErr FeedDb CommitResult :=
  commit host observations none (some snapshot) now

/-! ## Retractions -/

/-- `LIKE 'intent/%'`, which does not tell the case of letters apart. -/
def isIntentPath (path : String) : Bool :=
  (path.toList.take 7).map Char.toLower = "intent/".toList

/-- The rows that `RetractSequencerSequence` selects. -/
def FeedDb.orphanCandidates (db : FeedDb) (reorg : Reorg) : List FeedEvent :=
  db.events.filter fun e => e.source = sourceSequencer ∧ e.sourceSequence = reorg.sequenceNumber ∧
    e.inclusion = .observed ∧ isIntentPath e.stableActionPath = true

/-- `fmt.Sprintf("reorg/%020d/%020d", sequence, offset)`. -/
def reorgPath (sequence offset : Nat) : String :=
  "reorg/" ++ String.ofList (pad 20 sequence) ++ "/" ++ String.ofList (pad 20 offset)

/-- `json.Marshal` of a `retractionPayload`. -/
def retractionPayload (reorg : Reorg) (e : FeedEvent) : String :=
  (Value.struct [("schema_version", .nat 1), ("type", .text "observation_retracted"),
    ("reason", .text "sequencer_reorg"), ("sequence", .nat reorg.sequenceNumber),
    ("previous_hash", .text reorg.previousHash), ("replacement_hash", .text reorg.replacementHash),
    ("original_offset", .nat e.offset), ("original_observation_id", .text e.observationId),
    ("transaction_hash", .text e.txHash)]).render

/-- The reason that the feed is degraded for after a reorg. -/
def Reorg.reason (reorg : Reorg) : String :=
  "sequencer_reorg sequence=" ++ toString reorg.sequenceNumber ++ " previous=" ++
    reorg.previousHash ++
    " replacement=" ++ reorg.replacementHash

/-- The observation that compensates an orphaned one. -/
def compensation (reorg : Reorg) (e : FeedEvent) (now : Instant) : Observation where
  chainId := 4663
  source := sourceSequencer
  sourceSequence := reorg.sequenceNumber
  txHash := e.txHash
  stableActionPath := reorgPath reorg.sequenceNumber e.offset
  payloadJson := retractionPayload reorg e
  observedAt := now

def FeedEvent.orphan (e : FeedEvent) : FeedEvent := { e with inclusion := .orphaned }

/-- `UPDATE feed_events SET inclusion = 'orphaned'`. -/
def FeedDb.markOrphaned (db : FeedDb) (offset : Nat) : FeedDb :=
  { db with
    events := updateWhere (fun x => x.offset = offset ∧ x.inclusion = .observed) FeedEvent.orphan
      db.events }

/-- One candidate of a retraction. -/
def retractOne (host : FeedHost) (reorg : Reorg) (e : FeedEvent) (lost : Nat) (now : Instant) :
    Tx FeedErr FeedDb (Option Nat) := do
  let db ← Tx.query id
  Tx.exec fun db => db.markOrphaned e.offset
  if affected (fun x => x.offset = e.offset ∧ x.inclusion = .observed) db.events = 0 then pure none
  else
    Tx.require ((compensation reorg e now).Valid host) .invalidObservation
    publish host (compensation reorg e now) lost

def retractEach (host : FeedHost) (reorg : Reorg) (now : Instant) (lost : Nat → Nat) :
    List FeedEvent → CommitResult → Tx FeedErr FeedDb CommitResult
  | [], result => pure result
  | e :: rest, result => do
      let offset ← retractOne host reorg e (lost e.offset) now
      retractEach host reorg now lost rest (result.add offset)

/-- `RetractSequencerSequence`; `lost` are the rowids lost if the insert of a candidate's
compensation is suppressed. -/
def retractSequencerSequence (host : FeedHost) (reorg : Reorg) (lost : Nat → Nat) (now : Instant) :
    Tx FeedErr FeedDb Nat := do
  let db ← Tx.query id
  let candidates := db.orphanCandidates reorg
  Tx.require (∀ e ∈ candidates, e.txHash.utf8ByteSize = 66 ∧ e.txHash.toList.take 2 = ['0', 'x'])
    .storedHash
  let result ← retractEach host reorg now lost candidates {}
  Tx.require (reorg.sequenceNumber ≤ maxRowid) .sql
  Tx.exec fun db => { db with progress := {
    observedSequence := match db.progress.observedSequence with
      | none => some reorg.sequenceNumber
      | some old => some (if reorg.sequenceNumber < old then reorg.sequenceNumber else old),
    durableEventOffset := max db.progress.durableEventOffset result.durableEventOffset,
    degraded := true, degradedReason := some reorg.reason,
    updatedAt := formatRFC3339Nano now } }
  pure result.insertedObservations

/-! ## The outbox -/

/-- `OutboxItem`. -/
structure OutboxItem where
  offset : Nat
  observationId : String
  source : String
  sourceSequence : Nat
  txHash : String
  stableActionPath : String
  payloadJson : String
deriving DecidableEq

/-- A row of the outbox with its event. -/
def FeedDb.item (db : FeedDb) (r : OutboxRow) : Option OutboxItem :=
  match selectRow (fun e => e.offset = r.offset) db.events with
  | none => none
  | some e =>
      some ⟨r.offset, e.observationId, e.source, e.sourceSequence, e.txHash, e.stableActionPath,
        r.payloadJson⟩

/-- `limit <= 0 || limit > 1000`. -/
def pageLimit (limit : Int) : Nat := if limit ≤ 0 ∨ 1000 < limit then 100 else limit.toNat

/-- `ReadOutboxAfter`. -/
def readOutboxAfter (db : FeedDb) (after : Nat) (limit : Int) : Except FeedErr (List OutboxItem) :=
  let items := ((db.outbox.filter fun r => after < r.offset).filterMap db.item).take
    (pageLimit limit)
  if ∀ i ∈ items, i.txHash.utf8ByteSize = 66 then .ok items else .error .sql

/-! ## The bot -/

/-- `signal_inbox`, for the items of the feed. -/
structure InboxRow where
  feedOffset : Nat
  observationId : String
  payloadJson : String
  disposition : String
  receivedAt : String
deriving DecidableEq

structure BotDb where
  durableEventOffset : Nat := 0
  inbox : List InboxRow := []
deriving DecidableEq

inductive BotErr where
  | invalidFeedEvent
  | replayConflict
  | feedGap
  | failed
deriving DecidableEq

/-- `ProcessFeedEvent`. It returns whether the item is a duplicate. The effect is the disposition
that the payload has on the intents of the bot, which are left out; it is `none` after an error of
the payload, of a stored strategy or of the database. -/
def processFeedEvent (host : FeedHost) (item : OutboxItem) (receivedAt : Instant)
    (effect : Option String) : Tx BotErr BotDb Bool := do
  Tx.require (0 < item.offset ∧ item.observationId ≠ "" ∧ item.txHash ≠ zeroHash ∧
    host.jsonValid item.payloadJson = true ∧ receivedAt ≠ zeroInstant) .invalidFeedEvent
  let db ← Tx.query id
  if item.offset ≤ db.durableEventOffset then
    let row ← Tx.expect (selectRow (fun r => r.feedOffset = item.offset) db.inbox) .replayConflict
    Tx.require (row.observationId = item.observationId) .replayConflict
    pure true
  else
    Tx.require (item.offset = db.durableEventOffset + 1) .feedGap
    let disposition ← Tx.expect effect .failed
    Tx.require (∀ r ∈ db.inbox, r.feedOffset ≠ item.offset ∧ r.observationId ≠ item.observationId)
      .failed
    Tx.exec fun db => {
      durableEventOffset := item.offset,
      inbox := db.inbox ++ [⟨item.offset, item.observationId, item.payloadJson, disposition,
        formatRFC3339Nano receivedAt⟩] }
    pure false

/-- The loop of `RunOnce`: the bot after the items, and the error it stops with. -/
def processEach (host : FeedHost) (receivedAt : Instant) (effect : Nat → Option String) :
    List OutboxItem → BotDb → Option BotErr × BotDb
  | [], db => (none, db)
  | item :: rest, db =>
      match processFeedEvent host item receivedAt (effect item.offset) db with
      | .error e => (some e, db)
      | .ok (_, db) => processEach host receivedAt effect rest db

/-- `RunOnce`. -/
def runOnce (host : FeedHost) (feed : FeedDb) (batchSize : Int) (receivedAt : Instant)
    (effect : Nat → Option String) (bot : BotDb) : Option BotErr × BotDb :=
  match readOutboxAfter feed bot.durableEventOffset batchSize with
  | .error _ => (some .failed, bot)
  | .ok items => processEach host receivedAt effect items bot

end RbhTrade.Feed
