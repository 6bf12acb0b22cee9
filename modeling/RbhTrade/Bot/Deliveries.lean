import Mathlib.Data.List.Induction
import RbhTrade.Bot.Store

/-!
# Deliveries to the bot

The feed delivers at least once, and anything may come between: items again, items out of order,
items with the offset of another one, and items that are no events. The state of the bot is what the
accepted items make of it, each once and in order (`replay`). Which items are accepted is said
without the tables (`Accepts`): an item must have the next offset, be an event that the strategies
can be asked about, and be none of the accepted observations.
-/

namespace RbhTrade.Bot

open Tables GoTime Feed

/-! ## Exactly once -/

/-- A call of `ProcessFeedEvent`, with a fault of the database or without. -/
structure Delivery where
  item : OutboxItem
  receivedAt : Instant
  fault : Bool
deriving DecidableEq

def State.deliver (feed : FeedHost) (host : BotHost) (catalog : Catalog) (bot : State)
    (d : Delivery) : State :=
  if d.fault then bot else (processFeedEvent feed host catalog d.item d.receivedAt).stateAfter bot

/-- The rows that have no row with their id before them. -/
def addRows (intents : List IntentRow) (rows : List IntentRow) : List IntentRow :=
  rows.foldl (fun intents row => if ∃ r ∈ intents, r.id = row.id then intents else intents ++ [row])
    intents

/-- The intents of the observation, retracted. -/
def retractRows (observationId : String) (receivedAt : Instant) (intents : List IntentRow) :
    List IntentRow :=
  updateWhere (fun r => r.sourceObservationId = observationId ∧ r.status = .created)
    (fun r => { r with
      status := .retracted, retractedAt := some (formatRFC3339Nano receivedAt) }) intents

/-- The strategies of the wallet that sent the transaction. -/
def strategiesOf (host : BotHost) (catalog : Catalog) (event : EventEnvelope) :
    Option (List Strategy) :=
  if host.isHexAddress event.sender = false then some []
  else (catalog.matching event.sender).mapM StrategyRow.scan

/-- The intents after an event. -/
def intentsAfter (host : BotHost) (catalog : Catalog) (d : Delivery) (event : EventEnvelope)
    (intents : List IntentRow) : List IntentRow :=
  if event.type = "observation_retracted" then
    retractRows event.originalObservationId d.receivedAt intents
  else if event.type = "transaction_intent" then
    addRows intents (eligible host ((strategiesOf host catalog event).getD []) d.item event
      d.receivedAt)
  else intents

/-- What becomes of an event. -/
def dispositionOf (host : BotHost) (catalog : Catalog) (d : Delivery) (event : EventEnvelope)
    (intents : List IntentRow) : Disposition :=
  if event.type = "observation_retracted" then .retractionApplied
  else if event.type = "transaction_intent" then
    if host.isHexAddress event.sender = false then .ineligible
    else if intents.length < (intentsAfter host catalog d event intents).length then
      .operationIntentCreated
    else if strategiesOf host catalog event = some [] then .noMatchingStrategy
    else .policyBlocked
  else .unsupported

/-- The state after an item is processed once. -/
def State.take (host : BotHost) (catalog : Catalog) (bot : State) (d : Delivery) : State :=
  let event := (decodeEnvelope d.item.payloadJson).getD ⟨"", "", "", "", "", "", false, ""⟩
  { db := {
      durableEventOffset := d.item.offset
      inbox := bot.db.inbox ++ [⟨d.item.offset, d.item.observationId, d.item.payloadJson,
        (dispositionOf host catalog d event bot.intents).text, formatRFC3339Nano d.receivedAt⟩] }
    intents := intentsAfter host catalog d event bot.intents }

/-- Processing the items once and in order. -/
def replay (host : BotHost) (catalog : Catalog) (log : List Delivery) : State :=
  log.foldl (State.take host catalog) {}

/-- The payload is an event that can be processed: a retraction names its observation, and the
strategies of a transaction's sender are valid. -/
def Processable (host : BotHost) (catalog : Catalog) (event : EventEnvelope) : Prop :=
  (event.type = "observation_retracted" → event.originalObservationId ≠ "") ∧
    (event.type = "transaction_intent" → (strategiesOf host catalog event).isSome = true)
deriving Decidable

/-- The item is the next one after those of the log. -/
def Accepts (feed : FeedHost) (host : BotHost) (catalog : Catalog) (log : List Delivery)
    (d : Delivery) : Prop :=
  d.fault = false ∧ Wellformed feed d.item d.receivedAt ∧ d.item.offset = log.length + 1 ∧
    (∀ e ∈ log, e.item.observationId ≠ d.item.observationId) ∧
    ∃ event ∈ decodeEnvelope d.item.payloadJson, Processable host catalog event
deriving Decidable

/-- The items accepted first at their offset, as long as there are no gaps. -/
def accepted (feed : FeedHost) (host : BotHost) (catalog : Catalog) (ds : List Delivery) :
    List Delivery :=
  ds.foldl (fun log d => if Accepts feed host catalog log d then log ++ [d] else log) []

/-! ## What the transaction does -/

variable {feed : FeedHost} {host : BotHost} {catalog : Catalog} {bot : State} {d : Delivery}

/-- The key of an intent is its id. -/
def Keyed (intents : List IntentRow) : Prop := ∀ r ∈ intents, r.idempotencyKey = r.id

variable {event : EventEnvelope} {item : OutboxItem} {log : List Delivery}

theorem applyPolicy_keyed {s : Strategy} {now : Instant} {i : OperationIntent}
    (h : applyPolicy host s item event now = some i) :
    i.idempotencyKey = i.id ∧ i.sourceObservationId = item.observationId := by
  unfold applyPolicy at h
  split at h
  · cases h
  · split at h
    · cases h
    · split at h
      · cases h
      · split at h
        · cases h
        · cases h
          exact ⟨rfl, rfl⟩

theorem mem_eligible {ss : List Strategy} {now : Instant} {r : IntentRow}
    (h : r ∈ eligible host ss item event now) :
    r.idempotencyKey = r.id ∧ r.sourceObservationId = item.observationId ∧ r.status = .created := by
  obtain ⟨s, -, hs⟩ := List.mem_filterMap.mp h
  obtain ⟨i, hi, rfl⟩ := Option.map_eq_some_iff.mp hs
  obtain ⟨hkey, hsource⟩ := applyPolicy_keyed hi
  exact ⟨hkey, hsource, rfl⟩

theorem addRows_cons (intents : List IntentRow) (row : IntentRow) (rows : List IntentRow) :
    addRows intents (row :: rows) =
      addRows (if ∃ r ∈ intents, r.id = row.id then intents else intents ++ [row]) rows := rfl

theorem mem_addRows {intents rows : List IntentRow} {r : IntentRow} (h : r ∈ addRows intents rows) :
    r ∈ intents ∨ r ∈ rows := by
  induction rows generalizing intents with
  | nil => exact .inl h
  | cons row rows ih =>
      rw [addRows_cons] at h
      rcases ih h with h | h
      · split at h
        · exact .inl h
        · rcases List.mem_append.mp h with h | h
          · exact .inl h
          · exact .inr (List.mem_cons.mpr (.inl (List.mem_singleton.mp h)))
      · exact .inr (List.mem_cons_of_mem _ h)

theorem length_le_addRows (intents rows : List IntentRow) :
    intents.length ≤ (addRows intents rows).length := by
  induction rows generalizing intents with
  | nil => exact Nat.le_refl _
  | cons row rows ih =>
      rw [addRows_cons]
      refine Nat.le_trans ?_ (ih _)
      split
      · exact Nat.le_refl _
      · simp

/-- The inserts of an item succeed; the number is that of the new rows. -/
theorem insertIntents_ok {rows : List IntentRow} (hkeyed : Keyed bot.intents)
    (hrows : ∀ r ∈ rows, r.idempotencyKey = r.id) :
    insertIntents rows bot = .ok ((addRows bot.intents rows).length - bot.intents.length,
      { bot with intents := addRows bot.intents rows }) := by
  induction rows generalizing bot with
  | nil =>
      refine Tx.pure_ok.mpr ⟨?_, rfl⟩
      simp [addRows]
  | cons row rows ih =>
      obtain ⟨hrow, hrest⟩ := List.forall_mem_cons.mp hrows
      rw [addRows_cons]
      by_cases hold : ∃ r ∈ bot.intents, r.id = row.id
      · have hone : insertIntent row bot = .ok (false, bot) := by
          simp only [insertIntent, Tx.query_bind, id, if_pos hold, Tx.pure_ok, and_self]
        refine Tx.bind_ok.mpr ⟨false, bot, hone, Tx.bind_ok.mpr ⟨_, _, ih hkeyed hrest, ?_⟩⟩
        simp only [if_pos hold, Bool.false_eq_true, if_false, Tx.pure_ok, and_self]
      · have hnew : ∀ r ∈ bot.intents, r.idempotencyKey ≠ row.idempotencyKey := by
          intro r hr heq
          exact hold ⟨r, hr, by rw [← hkeyed r hr, heq, hrow]⟩
        have hone : insertIntent row bot =
            .ok (true, { bot with intents := bot.intents ++ [row] }) := by
          simp only [insertIntent, Tx.query_bind, id, if_neg hold, Tx.require_bind_ok, Tx.exec_bind,
            Tx.pure_ok, and_self, and_true]
          exact hnew
        have hkeyed' : Keyed (bot.intents ++ [row]) := by
          intro r hr
          rcases List.mem_append.mp hr with hr | hr
          · exact hkeyed r hr
          · rw [List.mem_singleton.mp hr, hrow]
        refine Tx.bind_ok.mpr ⟨true, _, hone, Tx.bind_ok.mpr ⟨_, _, ih hkeyed' hrest, ?_⟩⟩
        rw [if_neg hold]
        refine Tx.pure_ok.mpr ⟨?_, rfl⟩
        have hle := length_le_addRows (bot.intents ++ [row]) rows
        simp only [List.length_append, List.length_singleton, if_true] at hle ⊢
        omega

theorem processTransactionIntent_ok (hkeyed : Keyed bot.intents)
    (htype : event.type = "transaction_intent") {strategies : List Strategy}
    (hstrategies : strategiesOf host catalog event = some strategies) :
    ∃ created, processTransactionIntent host catalog d.item event d.receivedAt bot =
      .ok ((created, dispositionOf host catalog d event bot.intents),
        { bot with intents := intentsAfter host catalog d event bot.intents }) := by
  have hnot : event.type ≠ "observation_retracted" := by
    rw [htype]
    decide
  have hafter : intentsAfter host catalog d event bot.intents =
      addRows bot.intents (eligible host strategies d.item event d.receivedAt) := by
    rw [intentsAfter, if_neg hnot, if_pos htype, hstrategies, Option.getD_some]
  unfold processTransactionIntent dispositionOf
  rw [if_neg hnot, if_pos htype]
  by_cases hsender : host.isHexAddress event.sender = false
  · obtain rfl : strategies = [] := by
      rw [strategiesOf, if_pos hsender] at hstrategies
      exact (Option.some.inj hstrategies).symm
    rw [if_pos hsender, if_pos hsender, hafter]
    exact ⟨0, rfl⟩
  · have hscan : (catalog.matching event.sender).mapM StrategyRow.scan = some strategies := by
      rwa [strategiesOf, if_neg hsender] at hstrategies
    have hkeys : ∀ r ∈ eligible host strategies d.item event d.receivedAt,
      r.idempotencyKey = r.id :=
      fun r hr => (mem_eligible hr).1
    have hinsert := insertIntents_ok hkeyed hkeys
    have hle := length_le_addRows bot.intents (eligible host strategies d.item event d.receivedAt)
    rw [if_neg hsender, if_neg hsender, hafter, hstrategies, hscan]
    by_cases hcreated : bot.intents.length <
        (addRows bot.intents (eligible host strategies d.item event d.receivedAt)).length
    · rw [if_pos hcreated]
      refine ⟨(addRows bot.intents (eligible host strategies d.item event d.receivedAt)).length -
        bot.intents.length, Tx.expect_bind_ok.mpr ⟨strategies, rfl,
          Tx.bind_ok.mpr ⟨_, _, hinsert, ?_⟩⟩⟩
      rw [if_pos (by omega)]
      rfl
    · rw [if_neg hcreated]
      refine ⟨0, Tx.expect_bind_ok.mpr ⟨strategies, rfl, Tx.bind_ok.mpr ⟨_, _, hinsert, ?_⟩⟩⟩
      rw [if_neg (by omega)]
      by_cases hnone : strategies = []
      · rw [if_pos hnone, if_pos (by rw [hnone])]
        rfl
      · rw [if_neg hnone, if_neg (fun h => hnone (Option.some.inj h))]
        rfl

/-- An event that can be processed has its effect on the intents. -/
theorem processEvent_ok (hkeyed : Keyed bot.intents) (h : Processable host catalog event) :
    ∃ result, result.disposition = dispositionOf host catalog d event bot.intents ∧
      processEvent host catalog d.item event d.receivedAt bot =
        .ok (result, { bot with intents := intentsAfter host catalog d event bot.intents }) := by
  unfold processEvent
  by_cases hretracted : event.type = "observation_retracted"
  · rw [if_pos hretracted, intentsAfter, if_pos hretracted, dispositionOf, if_pos hretracted]
    refine ⟨⟨false, .retractionApplied, 0, affected (fun r : IntentRow =>
      r.sourceObservationId = event.originalObservationId ∧ r.status = .created) bot.intents,
      d.item.offset⟩, rfl, Tx.require_bind_ok.mpr ⟨h.1 hretracted, rfl⟩⟩
  · rw [if_neg hretracted]
    by_cases hintent : event.type = "transaction_intent"
    · obtain ⟨strategies, hstrategies⟩ := Option.isSome_iff_exists.mp (h.2 hintent)
      obtain ⟨created, hok⟩ := processTransactionIntent_ok (d := d) hkeyed hintent hstrategies
      rw [if_pos hintent]
      exact ⟨_, rfl, Tx.bind_ok.mpr ⟨_, _, hok, rfl⟩⟩
    · refine ⟨⟨false, .unsupported, 0, 0, d.item.offset⟩, ?_, ?_⟩
      · rw [dispositionOf, if_neg hretracted, if_neg hintent]
      · rw [if_neg hintent, intentsAfter, if_neg hretracted, if_neg hintent]
        rfl

/-- An event that is processed can be. -/
theorem processable_of_ok {result : ProcessResult} {bot' : State}
    (h : processEvent host catalog d.item event d.receivedAt bot = .ok (result, bot')) :
    Processable host catalog event := by
  unfold processEvent at h
  constructor
  · intro hretracted
    rw [if_pos hretracted] at h
    exact (Tx.require_bind_ok.mp h).1
  · intro hintent
    rw [if_neg (by rw [hintent]; decide), if_pos hintent] at h
    obtain ⟨_, _, h, -⟩ := Tx.bind_ok.mp h
    unfold processTransactionIntent at h
    unfold strategiesOf
    split at h
    · rename_i hsender
      rw [if_pos hsender]
      rfl
    · rename_i hsender
      obtain ⟨strategies, hscan, -⟩ := Tx.expect_bind_ok.mp h
      rw [if_neg hsender, hscan]
      rfl

/-! ## The state is the replay of the log -/

/-- The log numbers its items from one on, and the bot has an inbox row for each. -/
structure Logged (log : List Delivery) (bot : State) : Prop where
  offset : bot.db.durableEventOffset = log.length
  offsets : log.map (·.item.offset) = List.range' 1 log.length
  inbox : bot.db.inbox.map (fun r => (r.feedOffset, r.observationId)) =
    log.map fun d => (d.item.offset, d.item.observationId)
  keyed : Keyed bot.intents

theorem Keyed.after (h : Keyed bot.intents) (event : EventEnvelope) :
    Keyed (intentsAfter host catalog d event bot.intents) := by
  unfold intentsAfter
  split
  · intro r hr
    rcases mem_updateWhere_cases hr with ⟨hr, -⟩ | ⟨r, hmem, -, rfl⟩
    · exact h r hr
    · exact h r hmem
  · split
    · intro r hr
      rcases mem_addRows hr with hr | hr
      · exact h r hr
      · exact (mem_eligible hr).1
    · exact h

theorem Logged.take (h : Logged log bot) (hnext : d.item.offset = log.length + 1) :
    Logged (log ++ [d]) (bot.take host catalog d) where
  offset := by simp [State.take, hnext]
  offsets := by
    rw [List.map_append, h.offsets, List.length_append, List.length_singleton, List.range'_concat,
      List.map_singleton, hnext]
    simp [Nat.add_comm]
  inbox := by
    show ((bot.db.inbox ++ [_]).map _) = _
    rw [List.map_append, List.map_append, h.inbox]
    rfl
  keyed := h.keyed.after _

theorem Logged.mem_inbox (h : Logged log bot) {n : Nat} {id : String} :
    (∃ r ∈ bot.db.inbox, r.feedOffset = n ∧ r.observationId = id) ↔
      ∃ e ∈ log, e.item.offset = n ∧ e.item.observationId = id := by
  have hmem : (n, id) ∈ bot.db.inbox.map (fun r => (r.feedOffset, r.observationId)) ↔
      (n, id) ∈ log.map fun d => (d.item.offset, d.item.observationId) := by rw [h.inbox]
  simpa only [List.mem_map, Prod.mk.injEq] using hmem

theorem Logged.le_length (h : Logged log bot) {e : Delivery} (he : e ∈ log) :
    0 < e.item.offset ∧ e.item.offset ≤ log.length := by
  have hmem := List.mem_map_of_mem (f := fun d : Delivery => d.item.offset) he
  rw [h.offsets, List.mem_range'_1] at hmem
  omega

/-- An item with an offset up to that of the bot leaves everything as it is. -/
theorem replay_unchanged (h : Logged log bot) (hle : d.item.offset ≤ log.length) :
    bot.deliver feed host catalog d = bot := by
  unfold State.deliver
  split
  · rfl
  · refine Tx.stateAfter_cases (· = bot) rfl fun result bot' hok => ?_
    obtain ⟨-, hok⟩ := Tx.require_bind_ok.mp hok
    simp only [Tx.query_bind, id, if_pos (h.offset ▸ hle), Tx.expect_bind_ok, Tx.require_bind_ok,
      Tx.pure_ok] at hok
    obtain ⟨-, -, -, -, rfl⟩ := hok
    rfl

/-- An item is accepted, and then has its effect, or it leaves everything as it is. -/
theorem Logged.deliver (h : Logged log bot) (d : Delivery) :
    bot.deliver feed host catalog d =
      if Accepts feed host catalog log d then bot.take host catalog d else bot := by
  by_cases hle : d.item.offset ≤ log.length
  · rw [replay_unchanged h hle, if_neg]
    rintro ⟨-, -, hnext, -⟩
    omega
  · have hbot : ¬ d.item.offset ≤ bot.db.durableEventOffset := h.offset ▸ hle
    by_cases haccepts : Accepts feed host catalog log d
    · obtain ⟨hfault, hwell, hnext, hnew, event, hevent, hprocessable⟩ := haccepts
      rw [if_pos ⟨hfault, hwell, hnext, hnew, event, hevent, hprocessable⟩]
      obtain ⟨result, hdisposition, hok⟩ := processEvent_ok (d := d) h.keyed hprocessable
      have hinbox : ∀ r ∈ bot.db.inbox, r.feedOffset ≠ d.item.offset ∧
          r.observationId ≠ d.item.observationId := by
        intro r hr
        obtain ⟨e, he, hoffset, hid⟩ := h.mem_inbox.mp ⟨r, hr, rfl, rfl⟩
        refine ⟨fun heq => ?_, fun heq => hnew e he (hid.trans heq)⟩
        have := (h.le_length he).2
        omega
      have hrun : processFeedEvent feed host catalog d.item d.receivedAt bot =
          .ok (result, bot.take host catalog d) := by
        refine Tx.require_bind_ok.mpr ⟨hwell, ?_⟩
        rw [Tx.query_bind, id, if_neg hbot]
        refine Tx.require_bind_ok.mpr ⟨h.offset.symm ▸ hnext, Tx.expect_bind_ok.mpr ⟨event, hevent,
          Tx.bind_ok.mpr ⟨result, _, hok, Tx.bind_ok.mpr ⟨(), _, ?_, rfl⟩⟩⟩⟩
        simp only [insertInbox, Tx.query_bind, id, Tx.require_bind_ok]
        refine ⟨hinbox, ?_⟩
        rw [hdisposition]
        simp only [State.take, Option.mem_def.mp hevent, Option.getD_some]
        rfl
      rw [State.deliver, hfault, if_neg (by decide), Tx.stateAfter_ok hrun]
    · rw [if_neg haccepts]
      unfold State.deliver
      split
      · rfl
      · rename_i hfault
        refine Tx.stateAfter_cases (· = bot) rfl fun result bot' hok => ?_
        obtain ⟨hwell, hok⟩ := Tx.require_bind_ok.mp hok
        rw [Tx.query_bind, id, if_neg hbot] at hok
        obtain ⟨hnext, hok⟩ := Tx.require_bind_ok.mp hok
        obtain ⟨event, hevent, hok⟩ := Tx.expect_bind_ok.mp hok
        obtain ⟨result', bot₁, hevents, hok⟩ := Tx.bind_ok.mp hok
        have hprocessable := processable_of_ok hevents
        obtain ⟨_, _, hevents'⟩ := processEvent_ok (d := d) h.keyed hprocessable
        rw [hevents'] at hevents
        cases hevents
        obtain ⟨_, _, hinsert, -⟩ := Tx.bind_ok.mp hok
        simp only [insertInbox, Tx.query_bind, id, Tx.require_bind_ok] at hinsert
        refine absurd ⟨eq_false_of_ne_true hfault, hwell, h.offset ▸ hnext, fun e he hid => ?_,
          event, hevent, hprocessable⟩ haccepts
        obtain ⟨r, hr, -, hrid⟩ := h.mem_inbox.mpr ⟨e, he, rfl, rfl⟩
        exact (hinsert.1 r hr).2 (hrid.trans hid)

/-- The log and the state that belong together after the deliveries. -/
theorem logged_run (feed : FeedHost) (host : BotHost) (catalog : Catalog) (ds : List Delivery) :
    Logged (accepted feed host catalog ds) (replay host catalog (accepted feed host catalog ds)) ∧
      ds.foldl (State.deliver feed host catalog) {} =
        replay host catalog (accepted feed host catalog ds) := by
  -- the deliveries come at the end of the run, so the induction is from there
  induction ds using List.reverseRecOn with
  | nil => exact ⟨⟨rfl, rfl, rfl, by simp [Keyed, accepted, replay]⟩, rfl⟩
  | append_singleton ds d ih =>
      obtain ⟨hlogged, hrun⟩ := ih
      have haccepted : accepted feed host catalog (ds ++ [d]) =
          if Accepts feed host catalog (accepted feed host catalog ds) d then
            accepted feed host catalog ds ++ [d] else accepted feed host catalog ds := by
        rw [accepted, List.foldl_append]
        rfl
      rw [List.foldl_append, hrun, haccepted]
      show _ ∧ State.deliver feed host catalog _ d = _
      rw [hlogged.deliver]
      split
      · rename_i haccepts
        rw [replay, List.foldl_append]
        exact ⟨hlogged.take haccepts.2.2.1, rfl⟩
      · exact ⟨hlogged, rfl⟩

theorem accepted_sublist (feed : FeedHost) (host : BotHost) (catalog : Catalog)
    (ds : List Delivery) :
    (accepted feed host catalog ds).Sublist ds := by
  induction ds using List.reverseRecOn with
  | nil => exact .slnil
  | append_singleton ds d ih =>
      rw [accepted, List.foldl_append]
      show (if Accepts feed host catalog (accepted feed host catalog ds) d then
        accepted feed host catalog ds ++ [d] else accepted feed host catalog ds).Sublist _
      split
      · exact ih.append (List.Sublist.refl _)
      · exact ih.trans (List.sublist_append_left _ _)

/-- An item with the offset and the observation of an accepted one is a duplicate. -/
theorem Logged.duplicate (h : Logged log bot) {receivedAt : Instant}
    (hwell : Wellformed feed item receivedAt)
    (hitem : ∃ e ∈ log, e.item.offset = item.offset ∧ e.item.observationId = item.observationId) :
    processFeedEvent feed host catalog item receivedAt bot =
      .ok (⟨true, .duplicate, 0, 0, log.length⟩, bot) := by
  obtain ⟨e, he, hoffset, hid⟩ := hitem
  have hle : item.offset ≤ bot.db.durableEventOffset := by
    rw [h.offset, ← hoffset]
    exact (h.le_length he).2
  obtain ⟨row, hrow, hfeed, hobservation⟩ := h.mem_inbox.mpr ⟨e, he, hoffset, hid⟩
  -- the offsets of the inbox are distinct, so the row that is selected is this one
  have hunique : KeyUnique InboxRow.feedOffset bot.db.inbox := by
    have hoffsets : bot.db.inbox.map InboxRow.feedOffset = List.range' 1 log.length := by
      have hfirst := congrArg (List.map Prod.fst) h.inbox
      rw [List.map_map, List.map_map] at hfirst
      exact hfirst.trans h.offsets
    rw [KeyUnique, hoffsets]
    exact List.nodup_range'
  have hselect : selectRow (fun r => r.feedOffset = item.offset) bot.db.inbox = some row := by
    cases hfound : selectRow (fun r => r.feedOffset = item.offset) bot.db.inbox with
    | none => exact absurd hfeed (selectRow_eq_none.mp hfound row hrow)
    | some x =>
        rw [hunique.eq (selectRow_mem hfound) hrow ((selectRow_prop hfound).trans hfeed.symm)]
  refine Tx.require_bind_ok.mpr ⟨hwell, ?_⟩
  rw [Tx.query_bind, id, if_pos hle]
  refine Tx.expect_bind_ok.mpr ⟨row, hselect, Tx.require_bind_ok.mpr ⟨hobservation, ?_⟩⟩
  rw [h.offset]
  rfl

/-- An item beyond the next offset, or with an earlier offset and another observation, is
refused. -/
theorem Logged.refused (h : Logged log bot) {receivedAt : Instant}
    (hitem : log.length + 1 < item.offset ∨ item.offset ≤ log.length ∧
      ∀ e ∈ log, e.item.offset = item.offset → e.item.observationId ≠ item.observationId) :
    ∃ e, processFeedEvent feed host catalog item receivedAt bot = .error e := by
  cases hrun : processFeedEvent feed host catalog item receivedAt bot with
  | error e => exact ⟨e, rfl⟩
  | ok r =>
      obtain ⟨result, bot'⟩ := r
      obtain ⟨-, hok⟩ := Tx.require_bind_ok.mp hrun
      rw [Tx.query_bind, id] at hok
      rcases hitem with hgap | ⟨hle, hother⟩
      · rw [if_neg (by rw [h.offset]; omega)] at hok
        obtain ⟨hnext, -⟩ := Tx.require_bind_ok.mp hok
        rw [h.offset] at hnext
        omega
      · rw [if_pos (by rw [h.offset]; exact hle)] at hok
        obtain ⟨row, hselect, hok⟩ := Tx.expect_bind_ok.mp hok
        obtain ⟨hid, -⟩ := Tx.require_bind_ok.mp hok
        have hrow := selectRow_mem hselect
        have hoffset := selectRow_prop hselect
        obtain ⟨e, he, heoffset, heid⟩ := h.mem_inbox.mp ⟨row, hrow, rfl, rfl⟩
        exact absurd (heid.trans hid) (hother e he (heoffset.trans hoffset))

/-- After every list of deliveries the bot is what the accepted items make of it, each once and in
order, with the offsets from one on. A delivery of an accepted item again is a duplicate, a gap and
a conflict are refused, and all of these and every error leave the state as it is. -/
theorem deliveries_exactly_once (feed : FeedHost) (host : BotHost) (catalog : Catalog)
    (ds : List Delivery) :
    let log := accepted feed host catalog ds
    let bot := ds.foldl (State.deliver feed host catalog) {}
    bot = replay host catalog log ∧ log.Sublist ds ∧
      log.map (·.item.offset) = List.range' 1 log.length ∧
      bot.db.durableEventOffset = log.length ∧
      (∀ d, (∃ e ∈ log, e.item = d.item) → bot.deliver feed host catalog d = bot ∧
        (Wellformed feed d.item d.receivedAt →
          processFeedEvent feed host catalog d.item d.receivedAt bot =
            .ok (⟨true, .duplicate, 0, 0, log.length⟩, bot))) ∧
      (∀ d, (log.length + 1 < d.item.offset ∨ d.item.offset ≤ log.length ∧
          ∀ e ∈ log, e.item.offset = d.item.offset →
            e.item.observationId ≠ d.item.observationId) →
        (∃ e, processFeedEvent feed host catalog d.item d.receivedAt bot = .error e) ∧
          bot.deliver feed host catalog d = bot) ∧
      ∀ d e, processFeedEvent feed host catalog d.item d.receivedAt bot = .error e →
        bot.deliver feed host catalog d = bot := by
  intro log bot
  obtain ⟨hlogged, hrun⟩ := logged_run feed host catalog ds
  have h : Logged log bot := by
    rw [← hrun] at hlogged
    exact hlogged
  have hfailed : ∀ d e, processFeedEvent feed host catalog d.item d.receivedAt bot = .error e →
      bot.deliver feed host catalog d = bot := by
    intro d e herror
    rw [State.deliver, Tx.stateAfter_error herror, ite_self]
  refine ⟨hrun, accepted_sublist feed host catalog ds, h.offsets, h.offset, ?_, ?_, hfailed⟩
  · rintro d ⟨e, he, hitem⟩
    refine ⟨replay_unchanged h (hitem ▸ (h.le_length he).2), fun hwell => ?_⟩
    exact h.duplicate hwell ⟨e, he, by rw [hitem], by rw [hitem]⟩
  · intro d hd
    obtain ⟨e, herror⟩ :
        ∃ e, processFeedEvent feed host catalog d.item d.receivedAt bot = .error e :=
      h.refused hd
    exact ⟨⟨e, herror⟩, hfailed d e herror⟩

end RbhTrade.Bot
