import RbhTrade.Feed.Store
import RbhTrade.Lib.Ranges
import RbhTrade.Lib.Run

/-!
# The offsets of the outbox

The bot refuses an item whose offset is not the next one, while the feed numbers its outbox with
rowids that SQLite may lose: to an insert that finds its observation stored, and to a transaction
that fails after an insert. As long as every observation is committed once and no call fails after
an insert, the offsets are the numbers from one on, and no round of the bot ends in a gap. If a
rowid is lost to a replay that inserts nothing, the bot stops for good.
-/

namespace RbhTrade.Feed

open Tables GoTime Ranges

/-! ## Runs of both services -/

structure System where
  feed : FeedDb := {}
  bot : BotDb := {}

inductive Call where
  | commitSequencer (observations : List (Observation × Nat)) (observedSequence : Nat)
      (now : Instant)
  | commitObservations (observations : List (Observation × Nat)) (now : Instant)
  | commitReceipt (observations : List (Observation × Nat)) (snapshot : String) (now : Instant)
  | retract (reorg : Reorg) (lost : Nat → Nat) (now : Instant)
  /-- A call whose transaction fails at any statement, with the rowids lost at each insert
  before. -/
  | failed (lost : List Nat)
  | consume (batchSize : Int) (receivedAt : Instant) (effect : Nat → Option String)

def System.step (host : FeedHost) (s : System) : Call → System
  | .commitSequencer observations observedSequence now =>
      { s with feed := (commitSequencer host observations observedSequence now).stateAfter s.feed }
  | .commitObservations observations now =>
      { s with feed := (commitObservations host observations now).stateAfter s.feed }
  | .commitReceipt observations snapshot now =>
      { s with feed := (commitReceipt host observations snapshot now).stateAfter s.feed }
  | .retract reorg lost now =>
      { s with feed := (retractSequencerSequence host reorg lost now).stateAfter s.feed }
  | .failed lost => { s with feed := { s.feed with sequence := s.feed.sequence + lost.sum } }
  | .consume batchSize receivedAt effect =>
      { s with bot := (runOnce host s.feed batchSize receivedAt effect s.bot).2 }

def run (host : FeedHost) (calls : List Call) : System := calls.foldl (System.step host) {}

/-- The observations have different identities, and none of them is stored. -/
def FeedDb.Lacks (host : FeedHost) (db : FeedDb) (os : List Observation) : Prop :=
  (os.map (·.id host)).Nodup ∧ ∀ o ∈ os, ¬ db.Stores (o.id host)
deriving Decidable

/-- The observations that the call inserts are new, and it does not fail after an insert. -/
def Call.Fresh (host : FeedHost) (db : FeedDb) : Call → Prop
  | .commitSequencer observations _ _ | .commitObservations observations _
  | .commitReceipt observations _ _ => db.Lacks host (observations.map Prod.fst)
  | .retract reorg _ now => db.Lacks host ((db.orphanCandidates reorg).map
      (compensation reorg · now))
  | .failed lost => lost = []
  | .consume _ _ _ => True

instance (host : FeedHost) (db : FeedDb) (c : Call) : Decidable (c.Fresh host db) := by
  unfold Call.Fresh
  split <;> infer_instance

/-! ## What a publication writes -/

def FeedEvent.outboxRow (e : FeedEvent) : OutboxRow := ⟨e.offset, e.payloadJson⟩

/-- A new event with its row of the outbox. -/
def FeedDb.push (db : FeedDb) (e : FeedEvent) : FeedDb :=
  { db with events := db.events ++ [e], outbox := db.outbox ++ [e.outboxRow], sequence := e.offset }

variable {host : FeedHost} {db db' : FeedDb} {n : Nat} {o : Observation} {lost : Nat}
  {os : List (Observation × Nat)} {result : CommitResult} {now : Instant} {P : FeedDb → Prop}

theorem stores_push {id : String} {offset : Nat} :
    (db.push (eventOf host o offset)).Stores id ↔ db.Stores id ∨ id = o.id host := by
  simp [FeedDb.Stores, FeedDb.push, or_and_right, exists_or, eventOf, eq_comm]

/-- A stored observation loses rowids at most; another one is pushed. -/
theorem publish_ok {r : Option Nat} (h : publish host o lost db = .ok (r, db')) :
    (db.Stores (o.id host) ∧ r = none ∧ db' = { db with sequence := db.sequence + lost }) ∨
    (¬ db.Stores (o.id host) ∧ r = some (db.sequence + 1) ∧
      db' = db.push (eventOf host o (db.sequence + 1))) := by
  simp only [publish, insertEvent, insertOutbox, bind_assoc, Tx.query_bind, id] at h
  split at h
  · rename_i hstored
    simp only [bind_assoc, Tx.exec_bind, Tx.pure_bind_apply, Tx.pure_ok] at h
    exact .inl ⟨hstored, h.1.symm, h.2.symm⟩
  · rename_i hnew
    simp only [bind_assoc, Tx.require_bind_ok, Tx.exec_bind, Tx.pure_bind_apply, Tx.query_bind,
      Tx.pure_ok] at h
    obtain ⟨-, -, rfl, rfl⟩ := h
    exact .inr ⟨hnew, rfl, rfl⟩

/-! A call keeps what its inserts keep, if that is no matter of progress and snapshot. -/

theorem commitEach_preserves (hone : ∀ o ∈ os, Tx.Preserves P (publish host o.1 o.2))
    (result : CommitResult) : Tx.Preserves P (commitEach host os result) := by
  induction os generalizing result with
  | nil => exact .pure
  | cons o os ih =>
      obtain ⟨hfirst, hrest⟩ := List.forall_mem_cons.mp hone
      exact .bind hfirst fun _ => ih hrest _

theorem commit_preserves {observed : Option Nat} {snapshot : Option String}
    (hframe : ∀ db p s, P db → P { db with progress := p, registrySnapshot := s })
    (hone : ∀ o ∈ os, o.1.Valid host → Tx.Preserves P (publish host o.1 o.2)) :
    Tx.Preserves P (commit host os observed snapshot now) := by
  intro db r db' h hok
  obtain ⟨hvalid, hok⟩ := Tx.require_bind_ok.mp hok
  exact Tx.Preserves.bind (commitEach_preserves (fun o ho => hone o ho (hvalid o ho)) {})
    (fun _ => .bind .query fun _ => .bind .require fun _ => .bind (.exec fun _ => hframe _ _ _)
      fun _ => .bind (.exec fun _ => hframe _ _ _) fun _ => .pure) h hok

section Retract

variable {reorg : Reorg} {e : FeedEvent}

theorem retractOne_preserves
    (hmark : ∀ db, P db → P (db.markOrphaned e.offset))
    (hone : Tx.Preserves P (publish host (compensation reorg e now) lost)) :
    Tx.Preserves P (retractOne host reorg e lost now) :=
  .bind .query fun _ => .bind (.exec hmark) fun _ => .ite .pure (.bind .require fun _ => hone)

theorem retractEach_preserves {lost : Nat → Nat}
    (hone : ∀ e, Tx.Preserves P (retractOne host reorg e (lost e.offset) now)) (es : List FeedEvent)
    (result : CommitResult) : Tx.Preserves P (retractEach host reorg now lost es result) := by
  induction es generalizing result with
  | nil => exact .pure
  | cons e es ih => exact .bind (hone e) fun _ => ih _

theorem retract_preserves {lost : Nat → Nat}
    (hframe : ∀ db p s, P db → P { db with progress := p, registrySnapshot := s })
    (hone : ∀ e, Tx.Preserves P (retractOne host reorg e (lost e.offset) now)) :
    Tx.Preserves P (retractSequencerSequence host reorg lost now) :=
  .bind .query fun _ => .bind .require fun _ => .bind (retractEach_preserves hone _ _) fun _ =>
    .bind .require fun _ => .bind (.exec fun _ => hframe _ _ _) fun _ => .pure

end Retract

/-! ## Numbers from one on -/

/-- Events and outbox have the offsets from one to the largest rowid, which has passed a reader. -/
structure Numbered (reader : Nat) (db : FeedDb) : Prop where
  events : db.events.map FeedEvent.offset = List.range' 1 db.sequence
  outbox : db.outbox.map OutboxRow.offset = List.range' 1 db.sequence
  reader_le : reader ≤ db.sequence

theorem Numbered.push (h : Numbered n db) {e : FeedEvent} (he : e.offset = db.sequence + 1) :
    Numbered n (db.push e) := by
  refine ⟨?_, ?_, Nat.le_trans (Nat.le_succ_of_le h.reader_le) (Nat.le_of_eq he.symm)⟩
  · rw [FeedDb.push, List.map_append, h.events, he, List.range'_1_concat, List.map_singleton, he,
      Nat.add_comm 1]
  · rw [FeedDb.push, List.map_append, h.outbox, he, List.range'_1_concat, List.map_singleton,
      FeedEvent.outboxRow, he, Nat.add_comm 1]

/-- Without the first observation, and with what its publication stores. -/
theorem FeedDb.Lacks.tail {os : List Observation} (h : db.Lacks host (o :: os))
    (hstores : ∀ id, db'.Stores id → db.Stores id ∨ id = o.id host) : db'.Lacks host os := by
  obtain ⟨hfirst, hnodup⟩ := List.nodup_cons.mp h.1
  refine ⟨hnodup, fun x hx hstored => ?_⟩
  rcases hstores _ hstored with hold | hsame
  · exact h.2 x (List.mem_cons_of_mem _ hx) hold
  · exact hfirst (List.mem_map.mpr ⟨x, hx, hsame⟩)

theorem publish_numbered (h : Numbered n db) (hnew : ¬ db.Stores (o.id host)) {r : Option Nat}
    (hok : publish host o lost db = .ok (r, db')) :
    Numbered n db' ∧ ∀ id, db'.Stores id → db.Stores id ∨ id = o.id host := by
  rcases publish_ok hok with ⟨hold, -⟩ | ⟨-, -, rfl⟩
  · exact absurd hold hnew
  · exact ⟨h.push rfl, fun _ => stores_push.mp⟩

theorem commitEach_numbered (h : Numbered n db) (hnew : db.Lacks host (os.map Prod.fst))
    {result' : CommitResult} (hok : commitEach host os result db = .ok (result', db')) :
    Numbered n db' := by
  induction os generalizing db result with
  | nil =>
      obtain ⟨-, rfl⟩ := Tx.pure_ok.mp hok
      exact h
  | cons o os ih =>
      obtain ⟨r, db₁, hone, hok⟩ := Tx.bind_ok.mp hok
      obtain ⟨hnumbered, hstores⟩ := publish_numbered h (hnew.2 _ List.mem_cons_self) hone
      exact ih hnumbered (hnew.tail hstores) hok

theorem commit_numbered (h : Numbered n db) (hnew : db.Lacks host (os.map Prod.fst))
    (observed : Option Nat) (snapshot : Option String) (now : Instant) :
    Numbered n ((commit host os observed snapshot now).stateAfter db) := by
  refine Tx.stateAfter_cases _ h fun r db' hok => ?_
  obtain ⟨-, hok⟩ := Tx.require_bind_ok.mp hok
  obtain ⟨r, db₁, heach, hok⟩ := Tx.bind_ok.mp hok
  simp only [Tx.query_bind, Tx.require_bind_ok, Tx.exec_bind, Tx.pure_ok] at hok
  obtain ⟨-, -, rfl⟩ := hok
  obtain ⟨hevents, houtbox, hle⟩ := commitEach_numbered h hnew heach
  exact ⟨hevents, houtbox, hle⟩

theorem retractOne_numbered {reorg : Reorg} {e : FeedEvent} (h : Numbered n db)
    (hnew : ¬ db.Stores ((compensation reorg e now).id host)) {r : Option Nat}
    (hok : retractOne host reorg e lost now db = .ok (r, db')) :
    Numbered n db' ∧ ∀ id, db'.Stores id → db.Stores id ∨
    id = (compensation reorg e now).id host := by
  simp only [retractOne, Tx.query_bind, Tx.exec_bind, id, Tx.ite_ok, Tx.require_bind_ok,
    Tx.pure_ok] at hok
  have hoffsets : (db.markOrphaned e.offset).events.map FeedEvent.offset =
      db.events.map FeedEvent.offset := map_updateWhere FeedEvent.offset fun _ _ => rfl
  have hnumbered : Numbered n (db.markOrphaned e.offset) :=
    ⟨hoffsets.trans h.events, h.outbox, h.reader_le⟩
  have hstores : ∀ id, (db.markOrphaned e.offset).Stores id → db.Stores id := by
    rintro id ⟨x, hx, rfl⟩
    rcases mem_updateWhere_cases hx with ⟨hx, -⟩ | ⟨y, hy, -, rfl⟩
    · exact ⟨x, hx, rfl⟩
    · exact ⟨y, hy, rfl⟩
  obtain ⟨-, -, rfl⟩ | ⟨-, -, hok⟩ := hok
  · exact ⟨hnumbered, fun id hid => .inl (hstores id hid)⟩
  · obtain ⟨hnext, hid⟩ := publish_numbered hnumbered (fun hstored => hnew (hstores _ hstored)) hok
    exact ⟨hnext, fun id h => (hid id h).imp_left (hstores id)⟩

theorem retractEach_numbered {reorg : Reorg} {lost : Nat → Nat} {es : List FeedEvent}
    (h : Numbered n db) (hnew : db.Lacks host (es.map (compensation reorg · now)))
    {result' : CommitResult}
    (hok : retractEach host reorg now lost es result db = .ok (result', db')) :
    Numbered n db' := by
  induction es generalizing db result with
  | nil =>
      obtain ⟨-, rfl⟩ := Tx.pure_ok.mp hok
      exact h
  | cons e es ih =>
      obtain ⟨r, db₁, hone, hok⟩ := Tx.bind_ok.mp hok
      obtain ⟨hnumbered, hstores⟩ := retractOne_numbered h (hnew.2 _ List.mem_cons_self) hone
      exact ih hnumbered (hnew.tail hstores) hok

theorem retract_numbered {reorg : Reorg} {lost : Nat → Nat} (h : Numbered n db)
    (hnew : db.Lacks host ((db.orphanCandidates reorg).map (compensation reorg · now))) :
    Numbered n ((retractSequencerSequence host reorg lost now).stateAfter db) := by
  refine Tx.stateAfter_cases _ h fun k db' hok => ?_
  simp only [retractSequencerSequence, Tx.query_bind, id, Tx.require_bind_ok] at hok
  obtain ⟨-, hok⟩ := hok
  obtain ⟨r, db₁, heach, hok⟩ := Tx.bind_ok.mp hok
  simp only [Tx.require_bind_ok, Tx.exec_bind, Tx.pure_ok] at hok
  obtain ⟨-, -, rfl⟩ := hok
  obtain ⟨hevents, houtbox, hle⟩ := retractEach_numbered h hnew heach
  exact ⟨hevents, houtbox, hle⟩

/-! ## The reader -/

/-- Every row of the outbox has its event. -/
theorem Numbered.item (h : Numbered n db) {r : OutboxRow} (hr : r ∈ db.outbox) :
    ∃ i, db.item r = some i ∧ i.offset = r.offset := by
  have hmem : r.offset ∈ db.events.map FeedEvent.offset := by
    rw [h.events, ← h.outbox]
    exact List.mem_map_of_mem hr
  obtain ⟨e, he, heq⟩ := List.mem_map.mp hmem
  unfold FeedDb.item
  cases hs : selectRow (fun e => e.offset = r.offset) db.events with
  | none => exact absurd heq (selectRow_eq_none.mp hs e he)
  | some e => exact ⟨_, rfl, rfl⟩

theorem Numbered.map_items (h : Numbered n db) {rows : List OutboxRow}
    (hrows : ∀ r ∈ rows, r ∈ db.outbox) :
    (rows.filterMap db.item).map OutboxItem.offset = rows.map OutboxRow.offset := by
  induction rows with
  | nil => rfl
  | cons r rows ih =>
      obtain ⟨hr, hrest⟩ := List.forall_mem_cons.mp hrows
      obtain ⟨i, hi, hoffset⟩ := h.item hr
      rw [List.filterMap_cons_some hi, List.map_cons, List.map_cons, hoffset, ih hrest]

/-- The items after an offset have the offsets that follow it, one by one. -/
theorem Numbered.read (h : Numbered n db) {limit : Int} {items : List OutboxItem}
    (hread : readOutboxAfter db n limit = .ok items) :
    ∃ k, n + k ≤ db.sequence ∧ items.map OutboxItem.offset = List.range' (n + 1) k := by
  unfold readOutboxAfter at hread
  simp only at hread
  split at hread
  · cases hread
    refine ⟨min (pageLimit limit) (db.sequence - n), ?_, ?_⟩
    · have := h.reader_le
      omega
    · have hfilter : (db.outbox.filter fun r => n < r.offset).map OutboxRow.offset =
          List.range' (n + 1) (db.sequence - n) := by
        rw [← filter_range' h.reader_le, ← h.outbox, List.filter_map]
        rfl
      rw [List.map_take, h.map_items fun r hr => (List.mem_filter.mp hr).1, hfilter,
        take_range']
  · cases hread

/-- An item with the next offset is taken, or refused for another reason than a gap. -/
theorem processFeedEvent_next {item : OutboxItem} {receivedAt : Instant} {effect : Option String}
    {bot : BotDb} (hnext : item.offset = bot.durableEventOffset + 1) :
    (∃ e, processFeedEvent host item receivedAt effect bot = .error e ∧ e ≠ .feedGap) ∨
      ∃ b bot', processFeedEvent host item receivedAt effect bot = .ok (b, bot') ∧
        bot'.durableEventOffset = item.offset := by
  cases hr : processFeedEvent host item receivedAt effect bot with
  | error e =>
      refine .inl ⟨e, rfl, ?_⟩
      rintro rfl
      simp only [processFeedEvent, Tx.require_bind_error, Tx.query_bind, Tx.ite_error,
        Tx.expect_bind_error, Tx.exec_bind, id, reduceCtorEq, and_false, false_or] at hr
      obtain ⟨-, ⟨hle, -⟩ | ⟨-, ⟨hgap, -⟩ | ⟨-, a, -, -, hend⟩⟩⟩ := hr
      · omega
      · exact hgap hnext
      · cases hend
  | ok r =>
      obtain ⟨b, bot'⟩ := r
      refine .inr ⟨b, bot', rfl, ?_⟩
      simp only [processFeedEvent, Tx.require_bind_ok, Tx.query_bind, Tx.ite_ok, id] at hr
      obtain ⟨-, ⟨hle, -⟩ | ⟨-, hr⟩⟩ := hr
      · omega
      · simp only [Tx.require_bind_ok, Tx.expect_bind_ok, Tx.exec_bind, Tx.pure_ok] at hr
        obtain ⟨-, -, -, -, -, rfl⟩ := hr
        rfl

theorem processEach_no_gap {items : List OutboxItem} {bot : BotDb} {k : Nat} (host : FeedHost)
    (receivedAt : Instant) (effect : Nat → Option String)
    (hitems : items.map OutboxItem.offset = List.range' (bot.durableEventOffset + 1) k) :
    (processEach host receivedAt effect items bot).1 ≠ some .feedGap ∧
      (processEach host receivedAt effect items bot).2.durableEventOffset ≤
        bot.durableEventOffset + k := by
  induction items generalizing bot k with
  | nil => exact ⟨by simp [processEach], Nat.le_add_right _ _⟩
  | cons item rest ih =>
      cases k with
      | zero => simp at hitems
      | succ k =>
          rw [List.map_cons, List.range'_succ, List.cons.injEq] at hitems
          unfold processEach
          obtain ⟨e, he, hgap⟩ | ⟨b, bot', hok, hoffset⟩ := processFeedEvent_next hitems.1
          · rw [he]
            exact ⟨by simpa using hgap, Nat.le_add_right _ _⟩
          · rw [hok]
            have hnext : rest.map OutboxItem.offset =
                List.range' (bot'.durableEventOffset + 1) k := by
              rw [hoffset, hitems.1, hitems.2]
            have hrest := ih hnext
            refine ⟨hrest.1, Nat.le_trans hrest.2 ?_⟩
            omega

theorem runOnce_no_gap {bot : BotDb} (h : Numbered bot.durableEventOffset db) (batchSize : Int)
    (receivedAt : Instant) (effect : Nat → Option String) :
    (runOnce host db batchSize receivedAt effect bot).1 ≠ some .feedGap ∧
      (runOnce host db batchSize receivedAt effect bot).2.durableEventOffset ≤ db.sequence := by
  unfold runOnce
  cases hread : readOutboxAfter db bot.durableEventOffset batchSize with
  | error e => exact ⟨by simp, h.reader_le⟩
  | ok items =>
      obtain ⟨k, hk, hitems⟩ := h.read hread
      obtain ⟨hgap, hle⟩ := processEach_no_gap host receivedAt effect hitems
      exact ⟨hgap, Nat.le_trans hle hk⟩

/-! ## Every run -/

/-- The feed is numbered and the bot is not beyond it. -/
def Inv (s : System) : Prop := Numbered s.bot.durableEventOffset s.feed

theorem Inv.step {s : System} (h : Inv s) {c : Call} (hc : c.Fresh host s.feed) :
    Inv (s.step host c) := by
  cases c with
  | commitSequencer observations observedSequence now => exact commit_numbered h hc _ none now
  | commitObservations observations now => exact commit_numbered h hc none none now
  | commitReceipt observations snapshot now => exact commit_numbered h hc none _ now
  | retract reorg lost now => exact retract_numbered h hc
  | failed lost =>
      obtain rfl : lost = [] := hc
      exact h
  | consume batchSize receivedAt effect =>
      exact ⟨h.events, h.outbox, (runOnce_no_gap h batchSize receivedAt effect).2⟩

/-- In every run in which no call inserts an observation that is stored and none fails after an
insert, the offsets of the outbox are the numbers from one on, and no round of the bot ends in a
gap. -/
theorem outbox_offsets_contiguous (host : FeedHost) (calls : List Call)
    (hcalls : Run.Along (System.step host) (fun s c => c.Fresh host s.feed) {} calls) :
    let s := run host calls
    s.feed.outbox.map OutboxRow.offset = List.range' 1 s.feed.outbox.length ∧
      ∀ batchSize receivedAt effect,
        (runOnce host s.feed batchSize receivedAt effect s.bot).1 ≠ some .feedGap := by
  intro s
  have h : Inv s := hcalls.foldl (P := Inv) ⟨rfl, rfl, Nat.le_refl 0⟩ fun s c hs hc => hs.step hc
  refine ⟨?_, fun batchSize receivedAt effect =>
    (runOnce_no_gap h batchSize receivedAt effect).1⟩
  have hlen : s.feed.outbox.length = s.feed.sequence := by
    have := congrArg List.length h.outbox
    simpa using this
  rw [h.outbox, hlen]

/-! ## A replay that loses a rowid -/

/-- A host whose hash is the text of the bytes. -/
def sampleHost : FeedHost where
  sum bytes := String.ofList (bytes.map Char.ofUInt8)
  jsonValid _ := true

def sampleHash : String := "0x" ++ String.ofList (List.replicate 64 'a')

/-- An intent of the sequence, with the path as its only difference. -/
def intentAt (sequence : Nat) (path : String) : Observation :=
  ⟨4663, sourceSequencer, sequence, sampleHash, path, "\x7b\x7d", 1⟩

/-- Two observations, a call that fails before its inserts, a retraction and a round of the bot. -/
def committedOnce : List Call :=
  [.commitSequencer [(intentAt 7 "intent/0", 0)] 7 1,
    .commitSequencer [(intentAt 7 "intent/1", 0)] 7 1, .failed [],
    .retract ⟨7, "", ""⟩ (fun _ => 0) 1, .consume 10 1 fun _ => some "unsupported"]

theorem committedOnce_contiguous :
    (run sampleHost committedOnce).bot.durableEventOffset = 4 ∧
      (run sampleHost committedOnce).feed.outbox.map OutboxRow.offset = List.range' 1 4 := by
  have h := (outbox_offsets_contiguous sampleHost committedOnce (by decide +kernel)).1
  refine ⟨by decide +kernel, h.trans ?_⟩
  decide +kernel

/-- An observation and its replay, which loses a rowid, then a second observation: it has offset 3,
and the bot stops before it. -/
theorem lost_rowid_stops_bot :
    let s := run sampleHost [.commitSequencer [(intentAt 7 "intent/0", 0)] 7 1,
      .commitSequencer [(intentAt 7 "intent/0", 1)] 7 1,
      .commitSequencer [(intentAt 7 "intent/1", 0)] 7 1]
    s.feed.outbox.map OutboxRow.offset = [1, 3] ∧
      (runOnce sampleHost s.feed 10 1 (fun _ => some "unsupported") {}).1 = some .feedGap := by
  refine ⟨?_, ?_⟩ <;> decide +kernel

end RbhTrade.Feed
