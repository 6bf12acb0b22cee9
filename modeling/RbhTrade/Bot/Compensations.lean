import RbhTrade.Bot.Deliveries
import RbhTrade.Feed.Retractions

/-!
# Intents and retractions, from the feed to the bot

The feed marks an observation as orphaned in the transaction that publishes its retraction, and the
bot retracts the intents of the observation when it gets there. So an intent of a bot that has read
the outbox up to an offset is created exactly if no row up to there retracts its observation. The
two services share nothing but the JSON text of the rows: the feed writes a retraction as
`retractionPayload`, and the bot reads it as an `eventEnvelope`.
-/

namespace RbhTrade.Bot

open Tables GoTime Feed Json

/-! ## Retractions as texts -/

/-- The observation that a payload retracts, if it is a retraction. -/
def retracts (payload : String) : Option String :=
  match decodeEnvelope payload with
  | some event =>
      if event.type = "observation_retracted" then some event.originalObservationId else none
  | none => none

theorem decodeEnvelope_retractionPayload (reorg : Reorg) (e : FeedEvent) :
    decodeEnvelope (retractionPayload reorg e) =
      some ⟨"observation_retracted", "", "", "", "", "", false, e.observationId⟩ := by
  have hkeys : (["schema_version", "type", "reason", "sequence", "previous_hash",
    "replacement_hash",
      "original_offset", "original_observation_id", "transaction_hash"].map
        (fieldName? envelopeNames)) = [none, some "type", none, none, none, none, none,
          some "original_observation_id", none] := by decide +kernel
  simp only [List.map_cons, List.map_nil, List.cons.injEq, and_true] at hkeys
  obtain ⟨h₁, h₂, h₃, h₄, h₅, h₆, h₇, h₈, h₉⟩ := hkeys
  rw [decodeEnvelope, retractionPayload, parse_render]
  · simp only [Option.bind_eq_bind, Option.bind_some, members?_struct, fieldValues_cons,
      fieldValues_nil, h₁, h₂, h₃, h₄, h₅, h₆, h₇, h₈, h₉, reduceCtorEq, if_false,
      Option.some.injEq, String.reduceEq, if_true, fill_text, fill_nil]
  · refine Value.marshaled_struct ?_
    simp only [List.forall_mem_cons, Value.marshaled_text, Value.marshaled_nat, true_and]
    simp

theorem retracts_retractionPayload (reorg : Reorg) (e : FeedEvent) :
    retracts (retractionPayload reorg e) = some e.observationId := by
  rw [retracts, decodeEnvelope_retractionPayload]
  rfl

/-! ## Both services -/

/-- The feed database, with the bot that reads it. -/
structure Services where
  feed : FeedDb := {}
  bot : State := {}

inductive ServiceAct where
  /-- A call of the feed store. -/
  | feed (call : Feed.Call)
  /-- A round of the consumer; the clock and the faults of the database for each offset. -/
  | consume (batchSize : Int) (clock : Nat → Instant) (fault : Nat → Bool)

/-- The loop of `RunOnce`. -/
def consumeEach (feed : FeedHost) (host : BotHost) (catalog : Catalog) (clock : Nat → Instant)
    (fault : Nat → Bool) : List OutboxItem → State → State
  | [], bot => bot
  | item :: rest, bot =>
      if fault item.offset then bot
      else match processFeedEvent feed host catalog item (clock item.offset) bot with
        | .error _ => bot
        | .ok (_, bot) => consumeEach feed host catalog clock fault rest bot

def Services.step (feed : FeedHost) (host : BotHost) (catalog : Catalog) (s : Services) :
    ServiceAct → Services
  | .feed call => { s with feed := ((⟨s.feed, {}⟩ : Feed.System).step feed call).feed }
  | .consume batchSize clock fault =>
      match readOutboxAfter s.feed s.bot.db.durableEventOffset batchSize with
      | .error _ => s
      | .ok items => { s with bot := consumeEach feed host catalog clock fault items s.bot }

/-- The call commits observations of the normaliser and of the receipt processor, and those are no
retractions. -/
def ServiceAct.Genuine : ServiceAct → Prop
  | .feed (.commitSequencer os _ _) | .feed (.commitObservations os _)
  | .feed (.commitReceipt os _ _) => ∀ o ∈ os, o.1.Genuine ∧ retracts o.1.payloadJson = none
  | _ => True

/-! ## The feed -/

variable {feed : FeedHost} {host : BotHost} {catalog : Catalog} {db : FeedDb} {log : List Delivery}
  {bot : State} {d : Delivery}

/-- The feed as it is kept; observations are stored once, and only compensations retract. -/
structure Announced (feed : FeedHost) (db : FeedDb) : Prop where
  kept : Kept feed db
  ids : KeyUnique FeedEvent.observationId db.events
  rows : ∀ e ∈ db.events, 0 < e.offset ∧
    ((retracts e.payloadJson).isSome = true → ∃ n i, e.stableActionPath = reorgPath n i)

theorem publish_ids (o : Observation) (lost : Nat) :
    Tx.Preserves (fun db => KeyUnique FeedEvent.observationId db.events) (publish feed o lost) := by
  intro db r db' h hok
  rcases publish_ok hok with ⟨-, -, rfl⟩ | ⟨hnew, -, rfl⟩
  · exact h
  · exact h.append fun x hx heq => hnew ⟨x, hx, heq⟩

theorem commit_ids {os : List (Observation × Nat)} {observed : Option Nat}
    {snapshot : Option String} {now : Instant} :
    Tx.Preserves (fun db => KeyUnique FeedEvent.observationId db.events)
      (commit feed os observed snapshot now) :=
  commit_preserves (fun _ _ _ h => h) fun _ _ _ => publish_ids _ _

theorem retract_ids {reorg : Reorg} {lost : Nat → Nat} {now : Instant} :
    Tx.Preserves (fun db => KeyUnique FeedEvent.observationId db.events)
      (retractSequencerSequence feed reorg lost now) :=
  retract_preserves (fun _ _ _ h => h) fun _ =>
    retractOne_preserves (fun _ h => h.updateWhere fun _ _ => rfl) (publish_ids _ _)

theorem Announced.commit (h : Announced feed db) {os : List (Observation × Nat)}
    (hos : ∀ o ∈ os, o.1.Genuine ∧ retracts o.1.payloadJson = none) (observed : Option Nat)
    (snapshot : Option String) (now : Instant) :
    Announced feed ((Feed.commit feed os observed snapshot now).stateAfter db) where
  kept := (commit_kept (fun o ho => (hos o ho).1) observed snapshot now).stateAfter h.kept
  ids := commit_ids.stateAfter h.ids
  rows := by
    refine (commit_forall (P := fun e => 0 < e.offset ∧ ((retracts e.payloadJson).isSome = true →
      ∃ n i, e.stableActionPath = reorgPath n i)) fun o ho offset hoffset =>
        ⟨hoffset, fun hsome => ?_⟩).stateAfter h.rows
    rw [show (eventOf feed o.1 offset).payloadJson = o.1.payloadJson from rfl, (hos o ho).2]
      at hsome
    cases hsome

theorem Announced.step (h : Announced feed db) (hsum : Function.Injective feed.sum)
    {call : Feed.Call} (hcall : (ServiceAct.feed call).Genuine) :
    Announced feed ((⟨db, {}⟩ : Feed.System).step feed call).feed := by
  cases call with
  | commitSequencer os observed now => exact h.commit hcall _ _ now
  | commitObservations os now => exact h.commit hcall _ _ now
  | commitReceipt os snapshot now => exact h.commit hcall _ _ now
  | retract reorg lost now =>
      refine ⟨h.kept.step (s := ⟨db, {}⟩) hsum (c := .retract reorg lost now) trivial,
        retract_ids.stateAfter h.ids, ?_⟩
      exact (retract_forall (P := fun e => 0 < e.offset ∧ ((retracts e.payloadJson).isSome = true →
        ∃ n i, e.stableActionPath = reorgPath n i)) (fun _ h => h) fun e offset hoffset =>
          ⟨hoffset, fun _ => ⟨reorg.sequenceNumber, e.offset, rfl⟩⟩).stateAfter h.rows
  | failed lost => exact ⟨h.kept.congr rfl rfl (Nat.le_add_right _ _), h.ids, h.rows⟩
  | consume batchSize receivedAt effect => exact h

/-- A row that retracts an observation is a compensation of its event, which comes before it. -/
theorem Announced.retracts_event (h : Announced feed db) {c : FeedEvent}
    (hc : c ∈ db.events) {id : String} (hid : retracts c.payloadJson = some id) :
    ∃ e ∈ db.events, e.observationId = id ∧ e.offset < c.offset ∧ e.inclusion = .orphaned := by
  obtain ⟨n, i, hpath⟩ := (h.rows c hc).2 (by rw [hid]; rfl)
  obtain ⟨e, he, rfl, hlt, horphaned, reorg, original, horiginal, hpayload⟩ :=
    h.kept.compensates c hc n i hpath
  rw [hpayload, retracts_retractionPayload] at hid
  exact ⟨e, he, horiginal.symm.trans (Option.some.inj hid), hlt, horphaned⟩

/-- An orphaned event has a row that retracts it. -/
theorem Announced.orphan_retracted (h : Announced feed db) {e : FeedEvent}
    (he : e ∈ db.events) (horphaned : e.inclusion = .orphaned) :
    ∃ c ∈ db.events, retracts c.payloadJson = some e.observationId := by
  obtain ⟨c, hc, n, hpath⟩ := h.kept.orphans e he horphaned
  obtain ⟨x, hx, hoffset, -, -, reorg, original, horiginal, hpayload⟩ :=
    h.kept.compensates c hc n e.offset hpath
  obtain rfl := h.kept.eq hx he hoffset
  refine ⟨c, hc, ?_⟩
  rw [hpayload, retracts_retractionPayload, horiginal]

/-! ## The bot -/

/-- An intent is of an observation of the log, and is created as long as none of the log retracts
the observation. -/
def Followed (log : List Delivery) (intents : List IntentRow) : Prop :=
  ∀ r ∈ intents, (∃ d ∈ log, d.item.observationId = r.sourceObservationId) ∧
    (r.status = .created ↔ ∀ d ∈ log, retracts d.item.payloadJson ≠ some r.sourceObservationId)

variable {intents : List IntentRow} {s : Services} {P : List IntentRow → Prop}

/-- An item that does not retract the observation of an intent leaves its status as it should be. -/
theorem Followed.other (h : Followed log intents) {r : IntentRow} (hr : r ∈ intents)
    (hother : retracts d.item.payloadJson ≠ some r.sourceObservationId) :
    (∃ e ∈ log ++ [d], e.item.observationId = r.sourceObservationId) ∧
      (r.status = .created ↔
        ∀ e ∈ log ++ [d], retracts e.item.payloadJson ≠ some r.sourceObservationId) := by
  obtain ⟨⟨e, he, hid⟩, hstatus⟩ := h r hr
  refine ⟨⟨e, List.mem_append_left _ he, hid⟩, hstatus.trans ?_⟩
  rw [List.forall_mem_append, List.forall_mem_singleton]
  exact ⟨fun hlog => ⟨hlog, hother⟩, And.left⟩

theorem Followed.take (h : Followed log bot.intents)
    (hlater : ∀ e ∈ log, retracts e.item.payloadJson ≠ some d.item.observationId) :
    Followed (log ++ [d]) (bot.take host catalog d).intents := by
  unfold State.take
  cases hevent : decodeEnvelope d.item.payloadJson with
  | none =>
      have hnone : retracts d.item.payloadJson = none := by rw [retracts, hevent]
      intro r hr
      exact h.other hr (by rw [hnone]; exact (Option.some_ne_none _).symm)
  | some event =>
      rw [Option.getD_some]
      show Followed _ (intentsAfter host catalog d event bot.intents)
      unfold intentsAfter
      split
      · rename_i htype
        have hretracts : retracts d.item.payloadJson = some event.originalObservationId := by
          rw [retracts, hevent]
          exact if_pos htype
        intro r hr
        rcases mem_updateWhere_cases hr with ⟨hr, hnot⟩ | ⟨r, hmem, ⟨hsource, -⟩, rfl⟩
        · by_cases hsource : r.sourceObservationId = event.originalObservationId
          · -- the row was retracted before
            have hold : r.status ≠ .created := fun hcreated => hnot ⟨hsource, hcreated⟩
            obtain ⟨⟨e, he, hid⟩, -⟩ := h r hr
            refine ⟨⟨e, List.mem_append_left _ he, hid⟩, fun hcreated => absurd hcreated hold, ?_⟩
            intro hnone
            exact absurd (hretracts.trans (by rw [hsource])) (hnone d (by simp))
          · refine h.other hr ?_
            rw [hretracts]
            exact fun heq => hsource (Option.some.inj heq).symm
        · obtain ⟨⟨e, he, hid⟩, -⟩ := h r hmem
          refine ⟨⟨e, List.mem_append_left _ he, hid⟩, fun hcreated => ?_, fun hnone => ?_⟩
          · cases hcreated
          · exact absurd (hretracts.trans (by rw [hsource])) (hnone d (by simp))
      · rename_i htype
        have hnone : retracts d.item.payloadJson = none := by
          rw [retracts, hevent]
          exact if_neg htype
        have hother : ∀ r : IntentRow, retracts d.item.payloadJson ≠
          some r.sourceObservationId := by
          intro r
          rw [hnone]
          exact (Option.some_ne_none _).symm
        split
        · intro r hr
          rcases mem_addRows hr with hr | hr
          · exact h.other hr (hother r)
          · obtain ⟨-, hsource, hcreated⟩ := mem_eligible hr
            refine ⟨⟨d, by simp, hsource.symm⟩, fun _ => ?_, fun _ => hcreated⟩
            rw [List.forall_mem_append, List.forall_mem_singleton]
            exact ⟨fun e he => hsource ▸ hlater e he, hother r⟩
        · exact fun r hr => h.other hr (hother r)

/-! ## Every run -/

/-- The item is of an event of the feed. -/
def OfFeed (db : FeedDb) (item : OutboxItem) : Prop :=
  ∃ e ∈ db.events, e.offset = item.offset ∧ e.observationId = item.observationId ∧
    e.payloadJson = item.payloadJson

/-- The feed is kept, the bot has a log of items of the feed, and its intents follow the log. -/
structure Joint (feed : FeedHost) (s : Services) (log : List Delivery) : Prop where
  announced : Announced feed s.feed
  logged : Logged log s.bot
  items : ∀ d ∈ log, OfFeed s.feed d.item
  followed : Followed log s.bot.intents

theorem ofFeed_step {item : OutboxItem} (h : OfFeed s.feed item) (call : Feed.Call) :
    OfFeed ((⟨s.feed, {}⟩ : Feed.System).step feed call).feed item := by
  cases call with
  | commitSequencer os observed now => exact commit_exists.stateAfter h
  | commitObservations os now => exact commit_exists.stateAfter h
  | commitReceipt os snapshot now => exact commit_exists.stateAfter h
  | retract reorg lost now => exact (retract_exists fun _ h => h).stateAfter h
  | failed lost => exact h
  | consume batchSize receivedAt effect => exact h

/-- The items that the consumer reads are of the feed. -/
theorem readOutboxAfter_ofFeed (h : Kept feed db) {after : Nat} {limit : Int}
    {items : List OutboxItem} (hread : readOutboxAfter db after limit = .ok items) :
    ∀ item ∈ items, OfFeed db item := by
  unfold readOutboxAfter at hread
  simp only at hread
  split at hread
  · cases hread
    intro item hitem
    obtain ⟨r, hr, hitem⟩ := List.mem_filterMap.mp (List.mem_of_mem_take hitem)
    have houtbox := (List.mem_filter.mp hr).1
    rw [h.outbox] at houtbox
    obtain ⟨e, he, rfl⟩ := List.mem_map.mp houtbox
    unfold FeedDb.item at hitem
    split at hitem
    · cases hitem
    · rename_i x hselect
      cases hitem
      have hoffset := selectRow_prop hselect
      obtain rfl := h.eq (selectRow_mem hselect) he hoffset
      exact ⟨x, he, rfl, rfl, rfl⟩
  · cases hread

/-- No item of the log retracts one that comes after it. -/
theorem Joint.later (h : Joint feed s log) (hitem : OfFeed s.feed d.item)
    (hnext : d.item.offset = log.length + 1) :
    ∀ e ∈ log, retracts e.item.payloadJson ≠ some d.item.observationId := by
  intro e he hretracts
  obtain ⟨x, hx, hxoffset, hxid, -⟩ := hitem
  obtain ⟨c, hc, hcoffset, -, hcpayload⟩ := h.items e he
  obtain ⟨y, hy, hyid, hlt, -⟩ := h.announced.retracts_event hc (hcpayload ▸ hretracts)
  obtain rfl := h.announced.ids.eq hy hx (hyid.trans hxid.symm)
  have := (h.logged.le_length he).2
  omega

theorem Joint.take (h : Joint feed s log) (hitem : OfFeed s.feed d.item)
    (hnext : d.item.offset = log.length + 1) :
    Joint feed { s with bot := s.bot.take host catalog d } (log ++ [d]) where
  announced := h.announced
  logged := h.logged.take hnext
  items := List.forall_mem_append.mpr ⟨h.items, List.forall_mem_singleton.mpr hitem⟩
  followed := h.followed.take (h.later hitem hnext)

/-- Of the intents with the id there is one, and all are retracted. -/
def Retired (id : String) (intents : List IntentRow) : Prop :=
  (∃ r ∈ intents, r.id = id) ∧ ∀ r ∈ intents, r.id = id → r.status = .retracted

theorem Retired.addRows {id : String} (h : Retired id intents) (rows : List IntentRow) :
    Retired id (addRows intents rows) := by
  induction rows generalizing intents with
  | nil => exact h
  | cons row rows ih =>
      rw [addRows_cons]
      refine ih ?_
      split
      · exact h
      · rename_i hnew
        obtain ⟨⟨r, hr, hid⟩, hall⟩ := h
        refine ⟨⟨r, List.mem_append_left _ hr, hid⟩, ?_⟩
        rw [List.forall_mem_append, List.forall_mem_singleton]
        exact ⟨hall, fun hrow => absurd ⟨r, hr, hid.trans hrow.symm⟩ hnew⟩

theorem Retired.take {id : String} (h : Retired id bot.intents) :
    Retired id (bot.take host catalog d).intents := by
  show Retired id (intentsAfter host catalog d _ bot.intents)
  unfold intentsAfter
  split
  · obtain ⟨⟨r, hr, hid⟩, hall⟩ := h
    refine ⟨⟨_, mem_updateWhere_of_mem hr, ?_⟩, fun x hx hxid => ?_⟩
    · split <;> exact hid
    · rcases mem_updateWhere_cases hx with ⟨hx, -⟩ | ⟨y, -, -, rfl⟩
      · exact hall x hx hxid
      · rfl
  · split
    · exact h.addRows _
    · exact h

theorem addRows_unique (h : KeyUnique IntentRow.id intents) (rows : List IntentRow) :
    KeyUnique IntentRow.id (addRows intents rows) := by
  induction rows generalizing intents with
  | nil => exact h
  | cons row rows ih =>
      rw [addRows_cons]
      refine ih ?_
      split
      · exact h
      · rename_i hnew
        exact h.append fun x hx hid => hnew ⟨x, hx, hid⟩

theorem take_unique (h : KeyUnique IntentRow.id bot.intents) :
    KeyUnique IntentRow.id (bot.take host catalog d).intents := by
  show KeyUnique IntentRow.id (intentsAfter host catalog d _ bot.intents)
  unfold intentsAfter
  split
  · exact h.updateWhere fun _ _ => rfl
  · split
    · exact addRows_unique h _
    · exact h

/-- What every accepted item keeps is kept by a round of the consumer, with the joint state. -/
theorem Joint.consumeEach (h : Joint feed s log) (hp : P s.bot.intents)
    (htake : ∀ bot d, P bot.intents → P (State.take host catalog bot d).intents)
    (clock : Nat → Instant) (fault : Nat → Bool) {items : List OutboxItem}
    (hitems : ∀ item ∈ items, OfFeed s.feed item) :
    ∃ log', Joint feed
      { s with bot := Bot.consumeEach feed host catalog clock fault items s.bot } log' ∧
        P (Bot.consumeEach feed host catalog clock fault items s.bot).intents := by
  induction items generalizing s log with
  | nil => exact ⟨log, h, hp⟩
  | cons item items ih =>
      obtain ⟨hitem, hrest⟩ := List.forall_mem_cons.mp hitems
      unfold Bot.consumeEach
      split
      · exact ⟨log, h, hp⟩
      · split
        · exact ⟨log, h, hp⟩
        · rename_i bot' hok
          have hdeliver : s.bot.deliver feed host catalog ⟨item, clock item.offset, false⟩ = bot' :=
            (if_neg Bool.false_ne_true).trans (Tx.stateAfter_ok hok)
          rw [h.logged.deliver] at hdeliver
          split at hdeliver
          · rename_i haccepts
            subst hdeliver
            exact ih (h.take hitem haccepts.2.2.1) (htake _ _ hp) hrest
          · subst hdeliver
            exact ih h hp hrest

theorem Joint.step (h : Joint feed s log) (hp : P s.bot.intents)
    (htake : ∀ bot d, P bot.intents → P (State.take host catalog bot d).intents)
    (hsum : Function.Injective feed.sum) {a : ServiceAct} (ha : a.Genuine) :
    ∃ log', Joint feed (s.step feed host catalog a) log' ∧
    P (s.step feed host catalog a).bot.intents := by
  cases a with
  | feed call =>
      exact ⟨log, ⟨h.announced.step hsum ha, h.logged, fun d hd => ofFeed_step (h.items d hd) call,
        h.followed⟩, hp⟩
  | consume batchSize clock fault =>
      simp only [Services.step]
      split
      · exact ⟨log, h, hp⟩
      · rename_i items hread
        exact h.consumeEach hp htake clock fault
          (readOutboxAfter_ofFeed h.announced.kept hread)

theorem Joint.run (h : Joint feed s log) (hp : P s.bot.intents)
    (htake : ∀ bot d, P bot.intents → P (State.take host catalog bot d).intents)
    (hsum : Function.Injective feed.sum) {acts : List ServiceAct} (hacts : ∀ a ∈ acts, a.Genuine) :
    ∃ log', Joint feed (acts.foldl (Services.step feed host catalog) s) log' ∧
      P (acts.foldl (Services.step feed host catalog) s).bot.intents := by
  refine List.foldlRecOn (motive := fun s : Services => ∃ log, Joint feed s log ∧ P s.bot.intents)
    acts _ ⟨log, h, hp⟩ ?_
  rintro s ⟨log, h, hp⟩ a ha
  exact h.step hp htake hsum (hacts a ha)

theorem joint_init : Joint feed {} [] where
  announced := ⟨by constructor <;> simp, by simp [KeyUnique], by simp⟩
  logged := ⟨rfl, rfl, rfl, by simp [Keyed]⟩
  items := by simp
  followed := by simp [Followed]

/-- The rows of the outbox up to the offset of the bot are the items of its log. -/
theorem Joint.retracted_iff (h : Joint feed s log) {id : String} :
    (∃ row ∈ s.feed.outbox, row.offset ≤ s.bot.db.durableEventOffset ∧
      retracts row.payloadJson = some id) ↔
    ∃ d ∈ log, retracts d.item.payloadJson = some id := by
  rw [h.announced.kept.outbox, h.logged.offset]
  constructor
  · rintro ⟨row, hrow, hle, hretracts⟩
    obtain ⟨e, he, rfl⟩ := List.mem_map.mp hrow
    have hmem : e.offset ∈ log.map (·.item.offset) := by
      rw [h.logged.offsets, List.mem_range'_1]
      have hpos := (h.announced.rows e he).1
      exact ⟨hpos, by simp only [FeedEvent.outboxRow] at hle; omega⟩
    obtain ⟨d, hd, hoffset⟩ := List.mem_map.mp hmem
    obtain ⟨x, hx, hxoffset, -, hpayload⟩ := h.items d hd
    obtain rfl := h.announced.kept.eq hx he (hxoffset.trans hoffset)
    exact ⟨d, hd, hpayload ▸ hretracts⟩
  · rintro ⟨d, hd, hretracts⟩
    obtain ⟨e, he, hoffset, -, hpayload⟩ := h.items d hd
    refine ⟨e.outboxRow, List.mem_map_of_mem he, ?_, (congrArg retracts hpayload).trans hretracts⟩
    show e.offset ≤ log.length
    rw [hoffset]
    exact (h.logged.le_length hd).2

/-- In every run of the feed and the bot, an intent is created exactly if no row up to the offset of
the bot retracts its observation. If the bot has read all rows, this is so exactly if the
observation is still observed. A retracted intent stays retracted. -/
theorem intents_follow_retractions (feed : FeedHost) (hsum : Function.Injective feed.sum)
    (host : BotHost) (catalog : Catalog) (acts : List ServiceAct) (hacts : ∀ a ∈ acts, a.Genuine) :
    let s := acts.foldl (Services.step feed host catalog) {}
    (∀ r ∈ s.bot.intents, r.status = .created ↔
      ¬ ∃ row ∈ s.feed.outbox, row.offset ≤ s.bot.db.durableEventOffset ∧
        retracts row.payloadJson = some r.sourceObservationId) ∧
    ((∀ row ∈ s.feed.outbox, row.offset ≤ s.bot.db.durableEventOffset) →
      ∀ r ∈ s.bot.intents, r.status = .created ↔ ∃ e ∈ s.feed.events,
        e.observationId = r.sourceObservationId ∧ e.inclusion = .observed) ∧
    ∀ later : List ServiceAct, (∀ a ∈ later, a.Genuine) → ∀ r ∈ s.bot.intents,
      r.status = .retracted → ∀ r' ∈ (later.foldl (Services.step feed host catalog) s).bot.intents,
        r'.id = r.id → r'.status = .retracted := by
  intro s
  obtain ⟨log, h, hunique⟩ : ∃ log, Joint feed s log ∧ KeyUnique IntentRow.id s.bot.intents :=
    joint_init.run (by simp [KeyUnique]) (fun _ _ => take_unique) hsum hacts
  have hcreated : ∀ r ∈ s.bot.intents, r.status = .created ↔
      ¬ ∃ row ∈ s.feed.outbox, row.offset ≤ s.bot.db.durableEventOffset ∧
        retracts row.payloadJson = some r.sourceObservationId := by
    intro r hr
    rw [h.retracted_iff, (h.followed r hr).2]
    simp
  refine ⟨hcreated, fun hall r hr => ?_, fun later hlater r hr hretracted r' hr' hid => ?_⟩
  · obtain ⟨d, hd, hsource⟩ := (h.followed r hr).1
    obtain ⟨e, he, -, heid, -⟩ := h.items d hd
    rw [hcreated r hr]
    constructor
    · intro hnone
      refine ⟨e, he, heid.trans hsource, ?_⟩
      cases hinclusion : e.inclusion with
      | observed => rfl
      | orphaned =>
          obtain ⟨c, hc, hretracts⟩ := h.announced.orphan_retracted he hinclusion
          have hrow : c.outboxRow ∈ s.feed.outbox :=
            h.announced.kept.outbox ▸ List.mem_map_of_mem hc
          exact absurd ⟨_, hrow, hall _ hrow, hretracts.trans (by rw [heid, hsource])⟩ hnone
    · rintro ⟨x, hx, hxid, hobserved⟩ ⟨row, hrow, -, hretracts⟩
      rw [h.announced.kept.outbox] at hrow
      obtain ⟨c, hc, rfl⟩ := List.mem_map.mp hrow
      obtain ⟨y, hy, hyid, -, horphaned⟩ := h.announced.retracts_event hc hretracts
      obtain rfl := h.announced.ids.eq hx hy (hxid.trans hyid.symm)
      rw [hobserved] at horphaned
      cases horphaned
  · have hretired : Retired r.id s.bot.intents :=
      ⟨⟨r, hr, rfl⟩, fun x hx hxid => hunique.eq hx hr hxid ▸ hretracted⟩
    obtain ⟨-, -, hlast⟩ := h.run hretired (fun _ _ => Retired.take) hsum hlater
    exact hlast.2 r' hr' hid

/-! ### A sale that is copied and retracted -/

def sellingHost : BotHost := ⟨fun _ => true, id, fun _ => .replicate 32 0⟩

/-- A strategy that copies the sales of one wallet. -/
def sellingCatalog : Catalog where
  wallets := [⟨"w", 4663, "0xA", true⟩]
  strategies := [⟨"s", "w", 1, true,
    "\x7b\"copy_sells\":true,\"sell_bps\":1,\"application_ttl_seconds\":1\x7d"⟩]

def sale : Observation where
  chainId := 4663
  source := sourceSequencer
  sourceSequence := 7
  txHash := sampleHash
  stableActionPath := "intent/0"
  payloadJson := "\x7b\"type\":\"transaction_intent\",\"intent_kind\":\"sell\"," ++
    "\"sender\":\"0xa\",\"currency_in\":\"0xb\"\x7d"
  observedAt := 1

/-- The bot reads the sale, and after a reorg its retraction. -/
def retractedSale : List ServiceAct :=
  [.feed (.commitSequencer [(sale, 0)] 7 1), .consume 10 (fun _ => 1) (fun _ => false),
    .feed (.retract ⟨7, "", ""⟩ (fun _ => 0) 1), .consume 10 (fun _ => 1) (fun _ => false)]

/-- The sale is copied, and its intent is retracted when the bot has read the compensation. -/
theorem sale_copied :
    ((retractedSale.take 2).foldl (Services.step sampleHost sellingHost sellingCatalog)
      {}).bot.intents.map IntentRow.status = [.created] ∧
    let s := retractedSale.foldl (Services.step sampleHost sellingHost sellingCatalog) {}
    s.bot.intents.map IntentRow.status = [.retracted] ∧
      ∀ r ∈ s.bot.intents, ∃ row ∈ s.feed.outbox, row.offset ≤ s.bot.db.durableEventOffset ∧
        retracts row.payloadJson = some r.sourceObservationId := by
  have hgenuine : ∀ a ∈ retractedSale, a.Genuine := by
    have hsale : sale.Genuine ∧ retracts sale.payloadJson = none := ⟨by decide, by decide +kernel⟩
    simp only [retractedSale, List.forall_mem_cons, ServiceAct.Genuine, List.not_mem_nil,
      false_imp_iff, implies_true, and_true]
    exact hsale
  have hretracted : (retractedSale.foldl (Services.step sampleHost sellingHost sellingCatalog)
      {}).bot.intents.map IntentRow.status = [.retracted] := by decide +kernel
  have hfollow := (intents_follow_retractions sampleHost sampleHost_sum sellingHost
    sellingCatalog retractedSale hgenuine).1
  refine ⟨by decide +kernel, ?_⟩
  generalize retractedSale.foldl (Services.step sampleHost sellingHost sellingCatalog) {} = s at *
  refine ⟨hretracted, fun r hr => ?_⟩
  have hstatus := List.mem_map_of_mem (f := IntentRow.status) hr
  rw [hretracted, List.mem_singleton] at hstatus
  by_contra hnone
  rw [(hfollow r hr).mpr hnone] at hstatus
  cases hstatus

end RbhTrade.Bot
