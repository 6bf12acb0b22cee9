import Mathlib.Data.List.Sort
import RbhTrade.Feed.Store

/-!
# The bot store

`ProcessFeedEvent` with all that it writes. An item of the feed goes to the inbox, and in the same
transaction its payload makes intents to copy a trade or retracts those of an earlier item. A
payload of the first kind is matched with the strategies of the wallet that sent the transaction.

`Feed.processFeedEvent` is the same function with the intents left out; `State.db` is the part of
the state that it knows.
-/

namespace RbhTrade.Bot

open Tables GoTime Bytes Feed Json

/-! ## Wallets and strategies -/

/-- `watched_wallets`. -/
structure WatchedWallet where
  id : String
  chainId : Nat
  address : String
  enabled : Bool
deriving DecidableEq

/-- `StrategyConfig`. -/
structure StrategyConfig where
  copyBuys : Bool
  copySells : Bool
  requireConfirmed : Bool
  fixedBuyAmount : String
  maxBuyAmount : String
  sellBps : Nat
  applicationTtlSeconds : Nat
deriving DecidableEq

/-- `strategies`. -/
structure StrategyRow where
  id : String
  watchedWalletId : String
  version : Int
  enabled : Bool
  configJson : String
deriving DecidableEq

/-- `Strategy`, for one that is enabled. -/
structure Strategy where
  id : String
  watchedWalletId : String
  version : Nat
  config : StrategyConfig
deriving DecidableEq

/-- The two tables that `ProcessFeedEvent` only reads. -/
structure Catalog where
  wallets : List WatchedWallet
  strategies : List StrategyRow

/-- The functions outside this development: the addresses of go-ethereum, and `sha256.Sum256`. -/
structure BotHost where
  isHexAddress : String → Bool
  hexToAddress : String → String
  sum : List UInt8 → Vector UInt8 32

def maxApplicationTtlSeconds : Nat := 86400

/-- `positiveInteger`. -/
def positiveInteger (value : String) : Option Nat := (Decimal.canonical? value).filter (0 < ·)

/-- `StrategyConfig.Validate`. -/
def StrategyConfig.validate (c : StrategyConfig) : Bool :=
  c.applicationTtlSeconds ≠ 0 && c.applicationTtlSeconds ≤ maxApplicationTtlSeconds &&
    (c.copyBuys || c.copySells) &&
    (!c.copyBuys || match positiveInteger c.fixedBuyAmount, positiveInteger c.maxBuyAmount with
      | some fixed, some maximum => fixed ≤ maximum
      | _, _ => false) &&
    (!c.copySells || (c.sellBps ≠ 0 && c.sellBps ≤ 10000))

/-- `Strategy.Validate`. -/
def Strategy.validate (s : Strategy) : Bool :=
  !s.id.toList.all isSpace && !s.watchedWalletId.toList.all isSpace && s.version ≠ 0 &&
    s.config.validate

def configNames : List String :=
  ["copy_buys", "copy_sells", "require_confirmed", "fixed_buy_amount", "max_buy_amount", "sell_bps",
    "application_ttl_seconds"]

/-- `json.Unmarshal` into a `StrategyConfig`. -/
def decodeConfig (text : String) : Option StrategyConfig := do
  let members ← (parse text).bind members?
  let values := fieldValues configNames members
  some {
    copyBuys := ← fill readBool false (values "copy_buys")
    copySells := ← fill readBool false (values "copy_sells")
    requireConfirmed := ← fill readBool false (values "require_confirmed")
    fixedBuyAmount := ← fill readText "" (values "fixed_buy_amount")
    maxBuyAmount := ← fill readText "" (values "max_buy_amount")
    sellBps := ← fill (readNat (2 ^ 16)) 0 (values "sell_bps")
    applicationTtlSeconds := ← fill (readNat (2 ^ 64)) 0 (values "application_ttl_seconds") }

/-- SQLite's `lower`, which knows the letters of ASCII only. -/
def lower (text : String) : List Char := text.toList.map Char.toLower

/-- The rows that `processTransactionIntent` selects. -/
def Catalog.matching (c : Catalog) (sender : String) : List StrategyRow :=
  (c.strategies.filter fun s => s.enabled = true ∧ ∃ w ∈ c.wallets, w.id = s.watchedWalletId ∧
    w.enabled = true ∧ w.chainId = 4663 ∧ lower w.address = lower sender).insertionSort
      fun s t => s.id ≤ t.id

/-- A selected row as a strategy, if it is a valid one. -/
def StrategyRow.scan (r : StrategyRow) : Option Strategy :=
  if r.version < 0 then none
  else match decodeConfig r.configJson with
    | none => none
    | some config =>
        let strategy : Strategy := ⟨r.id, r.watchedWalletId, r.version.toNat, config⟩
        if strategy.validate then some strategy else none

/-! ## Intents -/

inductive IntentKind where
  | copyBuy
  | copySell
deriving DecidableEq

def IntentKind.text : IntentKind → String
  | .copyBuy => "copy_buy"
  | .copySell => "copy_sell"

inductive AmountMode where
  | fixedInput
  | balanceBps
deriving DecidableEq

def AmountMode.text : AmountMode → String
  | .fixedInput => "fixed_input"
  | .balanceBps => "balance_bps"

inductive IntentStatus where
  | created
  | retracted
deriving DecidableEq

/-- `OperationIntent`, which is always created. -/
structure OperationIntent where
  id : String
  idempotencyKey : String
  strategyId : String
  watchedWalletId : String
  sourceEventId : String
  sourceObservationId : String
  sourceTxHash : String
  kind : IntentKind
  token : String
  amountMode : AmountMode
  amountValue : String
  policyVersion : Nat
  policy : StrategyConfig
  deadlineCapability : String
  expiresAt : String
deriving DecidableEq

def StrategyConfig.json (c : StrategyConfig) : Value :=
  .struct ([("copy_buys", .bool c.copyBuys), ("copy_sells", .bool c.copySells),
      ("require_confirmed", .bool c.requireConfirmed)] ++
    (if c.fixedBuyAmount = "" then [] else [("fixed_buy_amount", .text c.fixedBuyAmount)]) ++
    (if c.maxBuyAmount = "" then [] else [("max_buy_amount", .text c.maxBuyAmount)]) ++
    (if c.sellBps = 0 then [] else [("sell_bps", .nat c.sellBps)]) ++
    [("application_ttl_seconds", .nat c.applicationTtlSeconds)])

/-- `json.Marshal(intent)`. -/
def OperationIntent.marshal (i : OperationIntent) : String :=
  (Value.struct [("id", .text i.id), ("idempotency_key", .text i.idempotencyKey),
    ("strategy_id", .text i.strategyId), ("watched_wallet_id", .text i.watchedWalletId),
    ("source_event_id", .text i.sourceEventId),
    ("source_observation_id", .text i.sourceObservationId),
    ("source_tx_hash", .text i.sourceTxHash), ("kind", .text i.kind.text), ("token", .text i.token),
    ("amount_mode", .text i.amountMode.text), ("amount_value", .text i.amountValue),
    ("policy_version", .nat i.policyVersion), ("policy", i.policy.json),
    ("deadline_capability", .text i.deadlineCapability), ("expires_at", .text i.expiresAt),
    ("status", .text "created")]).render

/-- `operation_intents`. -/
structure IntentRow where
  id : String
  idempotencyKey : String
  strategyId : String
  sourceEventId : String
  sourceObservationId : String
  sourceTxHash : String
  kind : IntentKind
  token : String
  amountMode : AmountMode
  amountValue : String
  policyVersion : Nat
  deadlineCapability : String
  expiresAt : String
  status : IntentStatus
  payloadJson : String
  createdAt : String
  retractedAt : Option String
deriving DecidableEq

/-- The row that an intent is inserted as. -/
def OperationIntent.row (i : OperationIntent) (receivedAt : Instant) : IntentRow where
  id := i.id
  idempotencyKey := i.idempotencyKey
  strategyId := i.strategyId
  sourceEventId := i.sourceEventId
  sourceObservationId := i.sourceObservationId
  sourceTxHash := i.sourceTxHash
  kind := i.kind
  token := i.token
  amountMode := i.amountMode
  amountValue := i.amountValue
  policyVersion := i.policyVersion
  deadlineCapability := i.deadlineCapability
  expiresAt := i.expiresAt
  status := .created
  payloadJson := i.marshal
  createdAt := formatRFC3339Nano receivedAt
  retractedAt := none

/-! ## Policies -/

/-- `eventEnvelope`. -/
structure EventEnvelope where
  type : String
  intentKind : String
  sender : String
  token : String
  currencyIn : String
  currencyOut : String
  confirmed : Bool
  originalObservationId : String
deriving DecidableEq

def envelopeNames : List String :=
  ["type", "intent_kind", "sender", "token", "currency_in", "currency_out", "confirmed",
    "original_observation_id"]

/-- `json.Unmarshal` into an `eventEnvelope`. -/
def decodeEnvelope (text : String) : Option EventEnvelope := do
  let members ← (parse text).bind members?
  let values := fieldValues envelopeNames members
  some {
    type := ← fill readText "" (values "type")
    intentKind := ← fill readText "" (values "intent_kind")
    sender := ← fill readText "" (values "sender")
    token := ← fill readText "" (values "token")
    currencyIn := ← fill readText "" (values "currency_in")
    currencyOut := ← fill readText "" (values "currency_out")
    confirmed := ← fill readBool false (values "confirmed")
    originalObservationId := ← fill readText "" (values "original_observation_id") }

def deadlineCapabilityApplicationTtl : String := "APPLICATION_TTL_ONLY"

/-- `canonicalExpiry`. -/
def canonicalExpiry (now : Instant) (ttlSeconds : Nat) : Option String :=
  if now = zeroInstant ∨ ttlSeconds = 0 ∨ maxApplicationTtlSeconds < ttlSeconds then none
  else some (formatRFC3339Nano (now + ttlSeconds * nanosPerSecond))

/-- The bytes that `deterministicIntentID` hashes. -/
def intentPreimage (strategyId : List UInt8) (observationId : String) (kind : IntentKind)
    (version : Nat) : List UInt8 :=
  terminated 0 [strategyId, ofText observationId, ofText kind.text, ofText (toString version)]

/-- `deterministicIntentID`. -/
def deterministicIntentID (host : BotHost) (strategy : Strategy) (observationId : String)
    (kind : IntentKind) : String :=
  String.ofList (Hex.encode (host.sum
    (intentPreimage (ofText strategy.id) observationId kind strategy.version)).toList)

/-- The kind, the token, the mode and the amount of a trade to copy. -/
def Strategy.copies (s : Strategy) (event : EventEnvelope) :
    Option (IntentKind × String × AmountMode × String) :=
  if event.intentKind = "buy" then
    if s.config.copyBuys then some (.copyBuy, event.currencyOut, .fixedInput,
      s.config.fixedBuyAmount)
    else none
  else if event.intentKind = "sell" then
    if s.config.copySells then some (.copySell, event.currencyIn, .balanceBps,
      toString s.config.sellBps)
    else none
  else none

def zeroAddress : String := "0x0000000000000000000000000000000000000000"

/-- `applyPolicy`. -/
def applyPolicy (host : BotHost) (strategy : Strategy) (item : OutboxItem) (event : EventEnvelope)
    (now : Instant) : Option OperationIntent :=
  if strategy.config.requireConfirmed = true ∧ event.confirmed = false then none
  else match strategy.copies event with
    | none => none
    | some (kind, token, mode, amount) =>
        if host.isHexAddress token = false ∨ host.hexToAddress token = zeroAddress then none
        else match canonicalExpiry now strategy.config.applicationTtlSeconds with
          | none => none
          | some expiresAt =>
              let id := deterministicIntentID host strategy item.observationId kind
              some {
                id := id, idempotencyKey := id, strategyId := strategy.id,
                watchedWalletId := strategy.watchedWalletId, sourceEventId := item.observationId,
                sourceObservationId := item.observationId, sourceTxHash := item.txHash, kind :=
                kind, token := host.hexToAddress token, amountMode := mode, amountValue := amount,
                policyVersion := strategy.version, policy := strategy.config,
                deadlineCapability := deadlineCapabilityApplicationTtl, expiresAt := expiresAt }

/-! ## Transactions -/

/-- The tables that `ProcessFeedEvent` writes. -/
structure State where
  db : BotDb := {}
  intents : List IntentRow := []

inductive Disposition where
  | unsupported
  | retractionApplied
  | ineligible
  | noMatchingStrategy
  | policyBlocked
  | operationIntentCreated
  | duplicate
deriving DecidableEq

def Disposition.text : Disposition → String
  | .unsupported => "unsupported"
  | .retractionApplied => "retraction_applied"
  | .ineligible => "ineligible"
  | .noMatchingStrategy => "no_matching_strategy"
  | .policyBlocked => "policy_blocked"
  | .operationIntentCreated => "operation_intent_created"
  | .duplicate => "duplicate"

/-- `ProcessResult`. -/
structure ProcessResult where
  duplicate : Bool
  disposition : Disposition
  operationIntents : Nat
  retractedIntents : Nat
  durableEventOffset : Nat
deriving DecidableEq

/-- `INSERT INTO operation_intents … ON CONFLICT(id) DO NOTHING`: whether there is a new row. -/
def insertIntent (row : IntentRow) : Tx BotErr State Bool := do
  let bot ← Tx.query id
  if ∃ r ∈ bot.intents, r.id = row.id then pure false
  else
    Tx.require (∀ r ∈ bot.intents, r.idempotencyKey ≠ row.idempotencyKey) .failed
    Tx.exec fun bot => { bot with intents := bot.intents ++ [row] }
    pure true

/-- The loop over the intents of the eligible strategies: how many are new. -/
def insertIntents : List IntentRow → Tx BotErr State Nat
  | [] => pure 0
  | row :: rest => do
      let new ← insertIntent row
      let count ← insertIntents rest
      pure (if new then count + 1 else count)

/-- The intents of an item, for the strategies in their order. -/
def eligible (host : BotHost) (strategies : List Strategy) (item : OutboxItem)
    (event : EventEnvelope) (receivedAt : Instant) : List IntentRow :=
  strategies.filterMap fun s =>
    (applyPolicy host s item event receivedAt).map fun i => i.row receivedAt

/-- `processTransactionIntent`. -/
def processTransactionIntent (host : BotHost) (catalog : Catalog) (item : OutboxItem)
    (event : EventEnvelope) (receivedAt : Instant) : Tx BotErr State (Nat × Disposition) := do
  if host.isHexAddress event.sender = false then pure (0, .ineligible)
  else
    let strategies ← Tx.expect ((catalog.matching event.sender).mapM StrategyRow.scan) .failed
    let created ← insertIntents (eligible host strategies item event receivedAt)
    if 0 < created then pure (created, .operationIntentCreated)
    else if strategies = [] then pure (0, .noMatchingStrategy)
    else pure (0, .policyBlocked)

/-- `UPDATE operation_intents SET status='retracted'`: how many intents of the observation. -/
def retractIntents (observationId : String) (receivedAt : Instant) : Tx BotErr State Nat := do
  let bot ← Tx.query id
  let p : IntentRow → Prop := fun r => r.sourceObservationId = observationId ∧ r.status = .created
  Tx.exec fun bot => { bot with intents := updateWhere p (fun r => { r with
    status := .retracted, retractedAt := some (formatRFC3339Nano receivedAt) }) bot.intents }
  pure (affected p bot.intents)

/-- What an event does to the intents. -/
def processEvent (host : BotHost) (catalog : Catalog) (item : OutboxItem) (event : EventEnvelope)
    (receivedAt : Instant) : Tx BotErr State ProcessResult := do
  if event.type = "observation_retracted" then
    Tx.require (event.originalObservationId ≠ "") .invalidFeedEvent
    let retracted ← retractIntents event.originalObservationId receivedAt
    pure ⟨false, .retractionApplied, 0, retracted, item.offset⟩
  else if event.type = "transaction_intent" then
    let (created, disposition) ← processTransactionIntent host catalog item event receivedAt
    pure ⟨false, disposition, created, 0, item.offset⟩
  else pure ⟨false, .unsupported, 0, 0, item.offset⟩

/-- The inbox row of an item and the new offset. -/
def insertInbox (item : OutboxItem) (disposition : Disposition) (receivedAt : Instant) :
    Tx BotErr State Unit := do
  let bot ← Tx.query id
  Tx.require (∀ r ∈ bot.db.inbox, r.feedOffset ≠ item.offset ∧ r.observationId ≠ item.observationId)
    .failed
  Tx.exec fun bot => { bot with db := {
    durableEventOffset := item.offset,
    inbox := bot.db.inbox ++ [⟨item.offset, item.observationId, item.payloadJson, disposition.text,
      formatRFC3339Nano receivedAt⟩] } }

/-- An item that `ProcessFeedEvent` starts a transaction for. -/
def Wellformed (feed : FeedHost) (item : OutboxItem) (receivedAt : Instant) : Prop :=
  0 < item.offset ∧ item.observationId ≠ "" ∧ item.txHash ≠ zeroHash ∧
    feed.jsonValid item.payloadJson = true ∧ receivedAt ≠ zeroInstant
deriving Decidable

/-- `ProcessFeedEvent`. -/
def processFeedEvent (feed : FeedHost) (host : BotHost) (catalog : Catalog) (item : OutboxItem)
    (receivedAt : Instant) : Tx BotErr State ProcessResult := do
  Tx.require (Wellformed feed item receivedAt) .invalidFeedEvent
  let bot ← Tx.query id
  if item.offset ≤ bot.db.durableEventOffset then
    let row ← Tx.expect (selectRow (fun r => r.feedOffset = item.offset) bot.db.inbox)
      .replayConflict
    Tx.require (row.observationId = item.observationId) .replayConflict
    pure ⟨true, .duplicate, 0, 0, bot.db.durableEventOffset⟩
  else
    Tx.require (item.offset = bot.db.durableEventOffset + 1) .feedGap
    let event ← Tx.expect (decodeEnvelope item.payloadJson) .invalidFeedEvent
    let result ← processEvent host catalog item event receivedAt
    insertInbox item result.disposition receivedAt
    pure result

end RbhTrade.Bot
