import RbhTrade.Feed.Offsets
import RbhTrade.Lib.TimeText

/-!
# Retractions

A retraction marks the observed intents of one sequence as orphaned and publishes a compensation for
each of them. Its path names the sequence and the offset of the original, so no commit of the
normaliser and no other retraction has its identity. In every state of every run the orphaned events
are those with a compensation (`Kept`).

Two things a reorg asks for do not happen. The intents of the sequences above the replaced one keep
their mark. And an orphaned intent that the replacement chain includes again is no new observation,
since an observation is the same in every sequence, so it is neither live nor announced again.
-/

namespace RbhTrade.Feed

open Tables GoTime Bytes

/-! ## Identities and paths -/

/-- The text that `Hex` gives of a hash. -/
def IsHash (text : String) : Prop :=
  text.toList.take 2 = ['0', 'x'] ∧ text.length = 66 ∧
    (text.toList.drop 2).all Hex.isLowerHex = true
deriving Decidable

/-- Observations of the intent normaliser and of the receipt processor, by their paths. -/
def Observation.Genuine (o : Observation) : Prop :=
  IsHash o.txHash ∧ ("intent/".toList <+: o.stableActionPath.toList ∨
    "receipt/".toList <+: o.stableActionPath.toList)
deriving Decidable

/-- Only the last part of the identity has zero bytes. -/
def Observation.Plain (o : Observation) : Prop := 0 ∉ ofText o.source ∧ 0 ∉ ofText o.txHash

theorem IsHash.zero_notMem {text : String} (h : IsHash text) : 0 ∉ ofText text := by
  refine zero_notMem_ofText fun c hc => ?_
  rw [← List.take_append_drop 2 text.toList, h.1] at hc
  rcases List.mem_append.mp hc with hc | hc
  · have hall : ∀ c ∈ ['0', 'x'], c.toNat ≠ 0 := by simp
    exact hall c hc
  · have := Hex.isLowerHex_iff_toNat.mp (List.all_eq_true.mp h.2.2 c hc)
    omega

theorem zero_notMem_source {source : String} (h : source = sourceSequencer ∨ source = sourceRPC) :
    0 ∉ ofText source := by
  rcases h with rfl | rfl <;> decide +kernel

theorem Observation.identity_inj {o o' : Observation} (ho : o.Plain) (ho' : o'.Plain)
    (h : o.identity = o'.identity) : o.source = o'.source ∧ o.txHash = o'.txHash ∧
      o.stableActionPath = o'.stableActionPath := by
  simp only [Observation.identity, terminated, List.flatMap_cons, List.flatMap_nil,
    List.append_assoc, List.singleton_append, List.append_nil] at h
  obtain ⟨-, h⟩ := cut_first_inj (zero_notMem_toString _) (zero_notMem_toString _) h
  obtain ⟨hsource, h⟩ := cut_first_inj ho.1 ho'.1 h
  obtain ⟨htx, h⟩ := cut_first_inj ho.2 ho'.2 h
  exact ⟨ofText_injective hsource, ofText_injective htx,
    ofText_injective (List.append_cancel_right h)⟩

theorem split_at_slash {a b x y : List Char} (ha : ∀ c ∈ a, c.isDigit = true)
    (hb : ∀ c ∈ b, c.isDigit = true) (h : a ++ '/' :: x = b ++ '/' :: y) : a = b ∧ x = y := by
  have htake : ∀ {l : List Char} (z : List Char), (∀ c ∈ l, c.isDigit = true) →
      (l ++ '/' :: z).takeWhile Char.isDigit = l := by
    intro l z hl
    rw [List.takeWhile_append_of_pos hl, List.takeWhile_cons_of_neg (by decide), List.append_nil]
  have hab : a = b := by
    rw [← htake x ha, h, htake y hb]
  subst hab
  exact ⟨rfl, (List.cons.inj (List.append_cancel_left h)).2⟩

theorem toList_reorgPath (m i : Nat) :
    (reorgPath m i).toList = 'r' :: 'e' :: 'o' :: 'r' :: 'g' :: '/' ::
    (pad 20 m ++ '/' :: pad 20 i) := by
  simp [reorgPath]

theorem reorgPath_inj {m n i j : Nat} (h : reorgPath m i = reorgPath n j) : m = n ∧ i = j := by
  have hlist := congrArg (fun s : String => s.toList.drop 6) h
  simp only [toList_reorgPath, List.drop_succ_cons, List.drop_zero] at hlist
  obtain ⟨hfirst, hsecond⟩ := split_at_slash (fun _ => isDigit_of_mem_pad)
    (fun _ => isDigit_of_mem_pad) hlist
  exact ⟨pad_inj hfirst, pad_inj hsecond⟩

theorem isIntentPath_reorgPath (m i : Nat) : isIntentPath (reorgPath m i) = false := by
  refine decide_eq_false fun h => ?_
  rw [toList_reorgPath, List.take_succ_cons, List.map_cons] at h
  exact absurd (List.cons.inj h).1 (by decide)

theorem Observation.Genuine.ne_reorgPath {o : Observation} (h : o.Genuine) (m i : Nat) :
    o.stableActionPath ≠ reorgPath m i := by
  intro hpath
  have hprefix := h.2
  rw [hpath, toList_reorgPath] at hprefix
  simp at hprefix

/-! ## What commits and retractions leave alone -/

variable {host : FeedHost} {db db' : FeedDb} {o : Observation} {lost : Nat}
  {os : List (Observation × Nat)} {result result' : CommitResult} {snapshot : Option String}

theorem publish_frame {p : FeedProgress} {s : Option RegistrySnapshot} :
    Tx.Preserves (fun db => db.progress = p ∧ db.registrySnapshot = s) (publish host o lost) := by
  intro db r db' hframe h
  rcases publish_ok h with ⟨-, -, rfl⟩ | ⟨-, -, rfl⟩ <;> exact hframe

theorem commitEach_frame (h : commitEach host os result db = .ok (result', db')) :
    db'.progress = db.progress ∧ db'.registrySnapshot = db.registrySnapshot :=
  commitEach_preserves (fun _ _ => publish_frame) result ⟨rfl, rfl⟩ h

theorem retractEach_frame {reorg : Reorg} {now : Instant} {lost : Nat → Nat} {es : List FeedEvent}
    (h : retractEach host reorg now lost es result db = .ok (result', db')) :
    db'.progress = db.progress ∧ db'.registrySnapshot = db.registrySnapshot :=
  retractEach_preserves (fun _ => retractOne_preserves (fun _ h => h) publish_frame) es result
    ⟨rfl, rfl⟩ h

/-! ## What commits and retractions keep -/

section Keep

variable {P : FeedEvent → Prop} {reorg : Reorg} {now : Instant}

theorem publish_exists : Tx.Preserves (fun db => ∃ e ∈ db.events, P e) (publish host o lost) := by
  rintro db r db' ⟨e, he, hp⟩ h
  rcases publish_ok h with ⟨-, -, rfl⟩ | ⟨-, -, rfl⟩
  · exact ⟨e, he, hp⟩
  · exact ⟨e, List.mem_append_left _ he, hp⟩

theorem commit_exists {observed : Option Nat} :
    Tx.Preserves (fun db => ∃ e ∈ db.events, P e) (commit host os observed snapshot now) :=
  commit_preserves (fun _ _ _ h => h) fun _ _ _ => publish_exists

theorem retract_exists (hp : ∀ e, P e → P e.orphan) {lost : Nat → Nat} :
    Tx.Preserves (fun db => ∃ e ∈ db.events, P e)
    (retractSequencerSequence host reorg lost now) := by
  refine retract_preserves (fun _ _ _ h => h) fun e => retractOne_preserves ?_ publish_exists
  rintro db ⟨x, hx, hpx⟩
  refine ⟨_, mem_updateWhere_of_mem hx, ?_⟩
  split
  · exact hp x hpx
  · exact hpx

theorem publish_forall (hnew : ∀ offset, 0 < offset → P (eventOf host o offset)) :
    Tx.Preserves (fun db => ∀ e ∈ db.events, P e) (publish host o lost) := by
  intro db r db' hall h
  rcases publish_ok h with ⟨-, -, rfl⟩ | ⟨-, -, rfl⟩
  · exact hall
  · exact List.forall_mem_append.mpr ⟨hall, List.forall_mem_singleton.mpr (hnew _ (Nat.succ_pos _))⟩

theorem commit_forall {observed : Option Nat}
    (hnew : ∀ o ∈ os, ∀ offset, 0 < offset → P (eventOf host o.1 offset)) :
    Tx.Preserves (fun db => ∀ e ∈ db.events, P e) (commit host os observed snapshot now) :=
  commit_preserves (fun _ _ _ h => h) fun o ho _ => publish_forall (hnew o ho)

theorem retract_forall (hp : ∀ e, P e → P e.orphan)
    (hnew : ∀ e offset, 0 < offset → P (eventOf host (compensation reorg e now) offset))
    {lost : Nat → Nat} :
    Tx.Preserves (fun db => ∀ e ∈ db.events, P e)
    (retractSequencerSequence host reorg lost now) := by
  refine retract_preserves (fun _ _ _ h => h) fun e => retractOne_preserves ?_
    (publish_forall (hnew e))
  intro db hall x hx
  rcases mem_updateWhere_cases hx with ⟨hx, -⟩ | ⟨y, hy, -, rfl⟩
  · exact hall x hx
  · exact hp y (hall y hy)

end Keep

/-! ## Orphans and compensations -/

/-- The observation of an event, up to the time it was made. -/
def FeedEvent.observation (e : FeedEvent) : Observation :=
  ⟨4663, e.source, e.sourceSequence, e.txHash, e.stableActionPath, e.payloadJson, 0⟩

/-- The event compensates the original. -/
def FeedEvent.Compensates (c e : FeedEvent) : Prop := ∃ n, c.stableActionPath = reorgPath n e.offset

/-- Offsets grow, the outbox has a row for each event, an event has the identity of its observation,
which can be read back, and the orphaned events are those with a compensation, of which there is
one, which comes after the event and retracts its identity. -/
structure Kept (host : FeedHost) (db : FeedDb) : Prop where
  ordered : (db.events.map FeedEvent.offset).Pairwise (· < ·)
  bounded : ∀ e ∈ db.events, e.offset ≤ db.sequence
  outbox : db.outbox = db.events.map FeedEvent.outboxRow
  identified : ∀ e ∈ db.events, e.observationId = e.observation.id host
  plain : ∀ e ∈ db.events, e.observation.Plain
  compensates : ∀ c ∈ db.events, ∀ n i, c.stableActionPath = reorgPath n i →
    ∃ e ∈ db.events, e.offset = i ∧ i < c.offset ∧ e.inclusion = .orphaned ∧
      ∃ reorg original, original.observationId = e.observationId ∧
        c.payloadJson = retractionPayload reorg original
  orphans : ∀ e ∈ db.events, e.inclusion = .orphaned → ∃ c ∈ db.events, c.Compensates e
  single : ∀ c ∈ db.events, ∀ c' ∈ db.events, ∀ n n' i, c.stableActionPath = reorgPath n i →
    c'.stableActionPath = reorgPath n' i → c.offset = c'.offset

theorem Kept.unique (h : Kept host db) : KeyUnique FeedEvent.offset db.events :=
  h.ordered.imp fun hlt => Nat.ne_of_lt hlt

theorem Kept.eq (h : Kept host db) {x y : FeedEvent} (hx : x ∈ db.events) (hy : y ∈ db.events)
    (hoffset : x.offset = y.offset) : x = y := h.unique.eq hx hy hoffset

/-- Only events, outbox and the largest rowid matter, and rowids may be lost. -/
theorem Kept.congr (h : Kept host db) (he : db'.events = db.events) (ho : db'.outbox = db.outbox)
    (hs : db.sequence ≤ db'.sequence) : Kept host db' where
  ordered := he ▸ h.ordered
  bounded := fun e hmem => Nat.le_trans (h.bounded e (he ▸ hmem)) hs
  outbox := by rw [ho, he, h.outbox]
  identified := he ▸ h.identified
  plain := he ▸ h.plain
  compensates := he ▸ h.compensates
  orphans := he ▸ h.orphans
  single := he ▸ h.single

theorem ordered_push {e : FeedEvent} (h : (db.events.map FeedEvent.offset).Pairwise (· < ·))
    (hbounded : ∀ x ∈ db.events, x.offset < e.offset) :
    ((db.events ++ [e]).map FeedEvent.offset).Pairwise (· < ·) := by
  rw [List.map_append, List.pairwise_append]
  refine ⟨h, List.pairwise_singleton _ _, fun x hx y hy => ?_⟩
  obtain ⟨x, hmem, rfl⟩ := List.mem_map.mp hx
  rw [List.map_singleton, List.mem_singleton] at hy
  exact hy ▸ hbounded x hmem

/-- A commit of the normaliser or of the receipt processor compensates nothing. -/
theorem Kept.push_genuine (h : Kept host db) (hvalid : o.Valid host) (hgenuine : o.Genuine)
    {offset : Nat} (hoffset : db.sequence < offset) :
    Kept host (db.push (eventOf host o offset)) := by
  have hbounded : ∀ x ∈ db.events, x.offset < offset := fun x hx =>
    Nat.lt_of_le_of_lt (h.bounded x hx) hoffset
  constructor
  · exact ordered_push h.ordered hbounded
  · intro e he
    rcases List.mem_append.mp he with he | he
    · exact Nat.le_of_lt (hbounded e he)
    · rw [List.mem_singleton.mp he]
      exact Nat.le_refl _
  · rw [FeedDb.push, h.outbox, List.map_append, List.map_singleton]
  · intro e he
    rcases List.mem_append.mp he with he | he
    · exact h.identified e he
    · rw [List.mem_singleton.mp he]
      show o.id host = _
      rw [Observation.id, Observation.identity, hvalid.1]
      rfl
  · exact List.forall_mem_append.mpr ⟨h.plain, List.forall_mem_singleton.mpr
      ⟨zero_notMem_source hvalid.2.1, hgenuine.1.zero_notMem⟩⟩
  · intro c hc n i hpath
    rcases List.mem_append.mp hc with hc | hc
    · obtain ⟨e, he, hrest⟩ := h.compensates c hc n i hpath
      exact ⟨e, List.mem_append_left _ he, hrest⟩
    · rw [List.mem_singleton.mp hc] at hpath
      exact absurd hpath (hgenuine.ne_reorgPath n i)
  · intro e he horphan
    rcases List.mem_append.mp he with he | he
    · obtain ⟨c, hc, hcomp⟩ := h.orphans e he horphan
      exact ⟨c, List.mem_append_left _ hc, hcomp⟩
    · rw [List.mem_singleton.mp he] at horphan
      cases horphan
  · have hold : ∀ c ∈ db.events ++ [eventOf host o offset], ∀ n i,
        c.stableActionPath = reorgPath n i → c ∈ db.events := by
      intro c hc n i hpath
      refine (List.mem_append.mp hc).resolve_right fun hnew => ?_
      rw [List.mem_singleton.mp hnew] at hpath
      exact hgenuine.ne_reorgPath n i hpath
    intro c hc c' hc' n n' i hpath hpath'
    exact h.single c (hold c hc n i hpath) c' (hold c' hc' n' i hpath') n n' i hpath hpath'

theorem commit_kept (hos : ∀ o ∈ os, o.1.Genuine) (observedSequence : Option Nat)
    (snapshot : Option String) (now : Instant) :
    Tx.Preserves (Kept host) (commit host os observedSequence snapshot now) := by
  refine commit_preserves (fun _ _ _ h => h.congr rfl rfl (Nat.le_refl _)) fun o ho hvalid => ?_
  intro db r db' h hok
  rcases publish_ok hok with ⟨-, -, rfl⟩ | ⟨-, -, rfl⟩
  · exact h.congr rfl rfl (Nat.le_add_right _ _)
  · exact h.push_genuine hvalid (hos o ho) (Nat.lt_succ_self _)

/-! ## A retraction -/

/-- The events after those at the offsets are orphaned. -/
def orphanAt (offsets : List Nat) (events : List FeedEvent) : List FeedEvent :=
  updateWhere (fun x => x.offset ∈ offsets) FeedEvent.orphan events

theorem map_offset_orphanAt (offsets : List Nat) (events : List FeedEvent) :
    (orphanAt offsets events).map FeedEvent.offset = events.map FeedEvent.offset :=
  map_updateWhere FeedEvent.offset fun _ _ => rfl

theorem orphanAt_cons (i : Nat) (offsets : List Nat) (events : List FeedEvent) :
    orphanAt offsets (orphanAt [i] events) = orphanAt (i :: offsets) events := by
  simp only [orphanAt, updateWhere, List.map_map]
  refine List.map_congr_left fun x _ => ?_
  by_cases hi : x.offset = i <;> by_cases hrest : x.offset ∈ offsets <;>
    simp [hi, hrest, FeedEvent.orphan]

theorem orphanAt_snoc {offsets : List Nat} {events : List FeedEvent} {x : FeedEvent}
    (h : x.offset ∉ offsets) :
    orphanAt offsets (events ++ [x]) = orphanAt offsets events ++ [x] := by
  simp [orphanAt, updateWhere, h]

/-- An event as it was before the marks. -/
theorem mem_orphanAt {offsets : List Nat} {events : List FeedEvent} {x : FeedEvent}
    (h : x ∈ orphanAt offsets events) : ∃ y ∈ events, y.offset = x.offset ∧
      y.observationId = x.observationId ∧ y.observation = x.observation ∧
      y.payloadJson = x.payloadJson ∧ (y.inclusion = .orphaned → x.inclusion = .orphaned) ∧
      (y.offset ∈ offsets → x.inclusion = .orphaned) ∧ (y.offset ∉ offsets → y = x) := by
  rcases mem_updateWhere_cases h with ⟨hx, hp⟩ | ⟨y, hy, hp, rfl⟩
  · exact ⟨x, hx, rfl, rfl, rfl, rfl, id, fun hmem => absurd hmem hp, fun _ => rfl⟩
  · exact ⟨y, hy, rfl, rfl, rfl, rfl, fun _ => rfl, fun _ => rfl, fun hmem => absurd hp hmem⟩

variable {reorg : Reorg} {e : FeedEvent} {now : Instant}

/-- The database after one candidate. -/
def FeedDb.retracted (host : FeedHost) (reorg : Reorg) (e : FeedEvent) (now : Instant)
    (offset : Nat) (db : FeedDb) : FeedDb :=
  FeedDb.push { db with events := orphanAt [e.offset] db.events }
    (eventOf host (compensation reorg e now) offset)

/-- An observed event has no compensation. -/
theorem Kept.not_compensates (h : Kept host db) (he : e ∈ db.events)
    (hobserved : e.inclusion = .observed) {c : FeedEvent} (hc : c ∈ db.events) (n : Nat) :
    c.stableActionPath ≠ reorgPath n e.offset := by
  intro hpath
  obtain ⟨y, hy, hoffset, -, horphan, -⟩ := h.compensates c hc n _ hpath
  rw [h.eq hy he hoffset, hobserved] at horphan
  cases horphan

/-- No event has the identity of a compensation that is still to come. -/
theorem Kept.not_stores (h : Kept host db) (hsum : Function.Injective host.sum) (he : e ∈ db.events)
    (hobserved : e.inclusion = .observed) : ¬ db.Stores ((compensation reorg e now).id host) := by
  rintro ⟨x, hx, hid⟩
  rw [h.identified x hx] at hid
  have hplain : (compensation reorg e now).Plain :=
    ⟨zero_notMem_source (.inl rfl), (h.plain e he).2⟩
  obtain ⟨-, -, hpath⟩ := Observation.identity_inj (h.plain x hx) hplain (hsum hid)
  exact h.not_compensates he hobserved hx _ hpath

theorem mem_retracted {offset : Nat} {x : FeedEvent} :
    x ∈ (db.retracted host reorg e now offset).events ↔
      x ∈ orphanAt [e.offset] db.events ∨ x = eventOf host (compensation reorg e now) offset := by
  simp [FeedDb.retracted, FeedDb.push]

theorem Kept.compensates_retracted (h : Kept host db) (he : e ∈ db.events) {offset : Nat}
    (hoffset : db.sequence < offset) {c : FeedEvent}
    (hc : c ∈ (db.retracted host reorg e now offset).events) {n i : Nat}
    (hpath : c.stableActionPath = reorgPath n i) :
    ∃ x ∈ (db.retracted host reorg e now offset).events, x.offset = i ∧ i < c.offset ∧
      x.inclusion = .orphaned ∧ ∃ reorg original, original.observationId = x.observationId ∧
        c.payloadJson = retractionPayload reorg original := by
  rcases mem_retracted.mp hc with hc | rfl
  · obtain ⟨c', hc', hoff, -, hobs, hpayload, -⟩ := mem_orphanAt hc
    have hpath' : c'.stableActionPath = reorgPath n i :=
      (congrArg Observation.stableActionPath hobs).trans hpath
    obtain ⟨y, hy, hi, hlt, horphan, r, original, horiginal, hretraction⟩ :=
      h.compensates c' hc' n i hpath'
    -- the original is orphaned, and the new mark leaves that as it is
    refine ⟨if y.offset ∈ [e.offset] then y.orphan else y,
      mem_retracted.mpr (.inl (mem_updateWhere_of_mem hy)), ?_, hoff ▸ hlt, ?_, r, original, ?_,
      hpayload ▸ hretraction⟩
    · split <;> exact hi
    · split
      · rfl
      · exact horphan
    · split <;> exact horiginal
  · have hpath' : reorgPath reorg.sequenceNumber e.offset = reorgPath n i := hpath
    obtain ⟨rfl, rfl⟩ := reorgPath_inj hpath'
    exact ⟨e.orphan, mem_retracted.mpr (.inl (mem_updateWhere_of_pos he (by simp))), rfl,
      Nat.lt_of_le_of_lt (h.bounded e he) hoffset, rfl, reorg, e, rfl, rfl⟩

theorem Kept.orphans_retracted (h : Kept host db) {offset : Nat} {x : FeedEvent}
    (hx : x ∈ (db.retracted host reorg e now offset).events) (horphan : x.inclusion = .orphaned) :
    ∃ c ∈ (db.retracted host reorg e now offset).events, c.Compensates x := by
  rcases mem_retracted.mp hx with hx | rfl
  · obtain ⟨y, hy, hoff, -, -, -, -, -, hsame⟩ := mem_orphanAt hx
    by_cases hmark : y.offset ∈ [e.offset]
    · refine ⟨_, mem_retracted.mpr (.inr rfl), reorg.sequenceNumber, ?_⟩
      rw [← hoff, List.mem_singleton.mp hmark]
      rfl
    · obtain rfl := hsame hmark
      obtain ⟨c, hc, n, hcomp⟩ := h.orphans y hy horphan
      refine ⟨if c.offset ∈ [e.offset] then c.orphan else c,
        mem_retracted.mpr (.inl (mem_updateWhere_of_mem hc)), n, ?_⟩
      split <;> exact hcomp
  · cases horphan

/-- A compensation was there before, for another event, or is the new one. -/
theorem Kept.compensation_cases (h : Kept host db) (he : e ∈ db.events)
    (hobserved : e.inclusion = .observed) {offset : Nat} {c : FeedEvent}
    (hc : c ∈ (db.retracted host reorg e now offset).events) {n i : Nat}
    (hpath : c.stableActionPath = reorgPath n i) :
    (i ≠ e.offset ∧ ∃ x ∈ db.events, x.offset = c.offset ∧ x.stableActionPath = reorgPath n i) ∨
      (i = e.offset ∧ c.offset = offset) := by
  rcases mem_retracted.mp hc with hc | rfl
  · obtain ⟨x, hx, hoff, -, hobs, -⟩ := mem_orphanAt hc
    have hold : x.stableActionPath = reorgPath n i :=
      (congrArg Observation.stableActionPath hobs).trans hpath
    refine .inl ⟨?_, x, hx, hoff, hold⟩
    rintro rfl
    exact h.not_compensates he hobserved hx n hold
  · have hpath' : reorgPath reorg.sequenceNumber e.offset = reorgPath n i := hpath
    exact .inr ⟨(reorgPath_inj hpath').2.symm, rfl⟩

theorem Kept.retracted (h : Kept host db) (he : e ∈ db.events)
    (hobserved : e.inclusion = .observed) {offset : Nat} (hoffset : db.sequence < offset) :
    Kept host (db.retracted host reorg e now offset) := by
  have hbounded : ∀ x ∈ orphanAt [e.offset] db.events, x.offset < offset := by
    intro x hx
    obtain ⟨y, hy, hsame, -⟩ := mem_orphanAt hx
    exact hsame ▸ Nat.lt_of_le_of_lt (h.bounded y hy) hoffset
  constructor
  · refine ordered_push ?_ hbounded
    rw [map_offset_orphanAt]
    exact h.ordered
  · intro x hx
    rcases mem_retracted.mp hx with hx | rfl
    · exact Nat.le_of_lt (hbounded x hx)
    · exact Nat.le_refl _
  · have hrows : (orphanAt [e.offset] db.events).map FeedEvent.outboxRow =
        db.events.map FeedEvent.outboxRow := map_updateWhere FeedEvent.outboxRow fun _ _ => rfl
    show db.outbox ++ _ = List.map FeedEvent.outboxRow (orphanAt [e.offset] db.events ++ _)
    rw [List.map_append, hrows, h.outbox, List.map_singleton]
  · intro x hx
    rcases mem_retracted.mp hx with hx | rfl
    · obtain ⟨y, hy, -, hid, hobs, -⟩ := mem_orphanAt hx
      rw [← hid, ← hobs]
      exact h.identified y hy
    · rfl
  · intro x hx
    rcases mem_retracted.mp hx with hx | rfl
    · obtain ⟨y, hy, -, -, hobs, -⟩ := mem_orphanAt hx
      exact hobs ▸ h.plain y hy
    · exact ⟨zero_notMem_source (.inl rfl), (h.plain e he).2⟩
  · exact fun c hc n i => h.compensates_retracted he hoffset hc
  · exact fun x hx => h.orphans_retracted hx
  · intro c hc c' hc' n n' i hpath hpath'
    rcases h.compensation_cases he hobserved hc hpath with ⟨hne, x, hx, hoff, hold⟩ | ⟨hi, hnew⟩ <;>
      rcases h.compensation_cases he hobserved hc' hpath' with
        ⟨hne', x', hx', hoff', hold'⟩ | ⟨hi', hnew'⟩
    · rw [← hoff, ← hoff']
      exact h.single x hx x' hx' n n' i hold hold'
    · exact absurd hi' hne
    · exact absurd hi hne'
    · rw [hnew, hnew']

/-- A candidate that is observed is marked and compensated. -/
theorem retractOne_ok (h : Kept host db) (hsum : Function.Injective host.sum) (he : e ∈ db.events)
    (hobserved : e.inclusion = .observed) {r : Option Nat}
    (hok : retractOne host reorg e lost now db = .ok (r, db')) :
    db' = db.retracted host reorg e now (db.sequence + 1) := by
  have hmarked : (db.markOrphaned e.offset).events = orphanAt [e.offset] db.events := by
    refine updateWhere_congr fun x hx => ?_
    rw [List.mem_singleton]
    constructor
    · exact And.left
    · intro hoffset
      exact ⟨hoffset, h.eq hx he hoffset ▸ hobserved⟩
  have haffected :
      affected (fun x => x.offset = e.offset ∧ x.inclusion = .observed) db.events ≠ 0 :=
    Nat.ne_of_gt (affected_pos_iff.mpr ⟨e, he, rfl, hobserved⟩)
  simp only [retractOne, Tx.query_bind, Tx.exec_bind, id, if_neg haffected, Tx.require_bind_ok]
    at hok
  obtain ⟨-, hok⟩ := hok
  rcases publish_ok hok with ⟨⟨x, hx, hid⟩, -⟩ | ⟨-, -, rfl⟩
  · rw [hmarked] at hx
    obtain ⟨y, hy, -, hsame, -⟩ := mem_orphanAt hx
    exact absurd ⟨y, hy, hsame.trans hid⟩ (h.not_stores hsum he hobserved)
  · rw [FeedDb.retracted, ← hmarked]
    rfl

/-- All candidates are marked, and what is appended are their compensations. -/
theorem retractEach_ok (hsum : Function.Injective host.sum) {lost : Nat → Nat} {es : List FeedEvent}
    (hnodup : (es.map FeedEvent.offset).Nodup) (h : Kept host db)
    (hes : ∀ e ∈ es, e ∈ db.events ∧ e.inclusion = .observed)
    (hok : retractEach host reorg now lost es result db = .ok (result', db')) :
    Kept host db' ∧ ∃ rows, db'.events = orphanAt (es.map FeedEvent.offset) db.events ++ rows ∧
      ∀ c ∈ rows, ∃ e ∈ es, ∃ offset, c = eventOf host (compensation reorg e now) offset := by
  induction es generalizing db result with
  | nil =>
      obtain ⟨-, rfl⟩ := Tx.pure_ok.mp hok
      refine ⟨h, [], ?_, by simp⟩
      rw [List.append_nil, List.map_nil, orphanAt, updateWhere_eq_self (by simp)]
  | cons e es ih =>
      obtain ⟨⟨he, hobserved⟩, hrest⟩ := List.forall_mem_cons.mp hes
      obtain ⟨hnew, hnodup⟩ := List.nodup_cons.mp hnodup
      obtain ⟨r, db₁, hone, hok⟩ := Tx.bind_ok.mp hok
      obtain rfl := retractOne_ok h hsum he hobserved hone
      have hkeep : ∀ x ∈ es, x ∈ (db.retracted host reorg e now
          (db.sequence + 1)).events ∧ x.inclusion = .observed := by
        intro x hx
        obtain ⟨hmem, hobs⟩ := hrest x hx
        refine ⟨List.mem_append_left _ (mem_updateWhere_of_not hmem ?_), hobs⟩
        rw [List.mem_singleton]
        exact fun heq => hnew (heq ▸ List.mem_map_of_mem hx)
      obtain ⟨hkept, rows, hevents, hrows⟩ :=
        ih hnodup (h.retracted he hobserved (Nat.lt_succ_self _)) hkeep hok
      refine ⟨hkept, eventOf host (compensation reorg e now) (db.sequence + 1) ::
        rows, ?_, List.forall_mem_cons.mpr ⟨⟨e, List.mem_cons_self, _, rfl⟩, fun c hc => ?_⟩⟩
      rotate_left
      · obtain ⟨x, hx, hsame⟩ := hrows c hc
        exact ⟨x, List.mem_cons_of_mem _ hx, hsame⟩
      -- the compensation has a new offset, so no later mark touches it
      have hfresh : db.sequence + 1 ∉ es.map FeedEvent.offset := by
        intro hmem
        obtain ⟨x, hx, heq⟩ := List.mem_map.mp hmem
        have := h.bounded x (hrest x hx).1
        omega
      rw [hevents]
      show orphanAt _ (orphanAt [e.offset] db.events ++ [_]) ++ rows = _
      rw [orphanAt_snoc hfresh, orphanAt_cons, List.append_assoc, List.singleton_append,
        List.map_cons]

theorem orphanCandidates_nodup (h : Kept host db) :
    ((db.orphanCandidates reorg).map FeedEvent.offset).Nodup :=
  h.unique.sublist ((List.filter_sublist).map _)

theorem mem_orphanCandidates : e ∈ db.orphanCandidates reorg ↔ e ∈ db.events ∧
    e.source = sourceSequencer ∧ e.sourceSequence = reorg.sequenceNumber ∧ e.inclusion = .observed ∧
      isIntentPath e.stableActionPath = true := by
  simp [FeedDb.orphanCandidates]

/-- A retraction that commits marks its candidates and appends their compensations. -/
theorem retract_ok (h : Kept host db) (hsum : Function.Injective host.sum) {lost : Nat → Nat}
    {k : Nat} (hok : retractSequencerSequence host reorg lost now db = .ok (k, db')) :
    Kept host db' ∧ ∃ rows,
      db'.events = orphanAt ((db.orphanCandidates reorg).map FeedEvent.offset) db.events ++ rows ∧
      ∀ c ∈ rows, ∃ e ∈ db.orphanCandidates reorg, ∃ offset,
        c = eventOf host (compensation reorg e now) offset := by
  simp only [retractSequencerSequence, Tx.query_bind, id, Tx.require_bind_ok] at hok
  obtain ⟨-, hok⟩ := hok
  obtain ⟨result, db₁, heach, hok⟩ := Tx.bind_ok.mp hok
  simp only [Tx.require_bind_ok, Tx.exec_bind, Tx.pure_ok] at hok
  obtain ⟨-, -, rfl⟩ := hok
  have hcandidates : ∀ e ∈ db.orphanCandidates reorg, e ∈ db.events ∧ e.inclusion = .observed :=
    fun e he => ⟨(mem_orphanCandidates.mp he).1, (mem_orphanCandidates.mp he).2.2.2.1⟩
  obtain ⟨hkept, rows, hevents, hrows⟩ :=
    retractEach_ok hsum (orphanCandidates_nodup h) h hcandidates heach
  exact ⟨hkept.congr rfl rfl (Nat.le_refl _), rows, hevents, hrows⟩

/-! ## Every run -/

/-- The commits of the call are those of the normaliser and of the receipt processor. -/
def Call.Genuine : Call → Prop
  | .commitSequencer observations _ _ | .commitObservations observations _
  | .commitReceipt observations _ _ => ∀ o ∈ observations, o.1.Genuine
  | .retract _ _ _ | .failed _ | .consume _ _ _ => True

theorem Kept.step {s : System} (h : Kept host s.feed) (hsum : Function.Injective host.sum)
    {c : Call} (hc : c.Genuine) : Kept host (s.step host c).feed := by
  cases c with
  | commitSequencer observations observedSequence now =>
      exact (commit_kept hc (some observedSequence) none now).stateAfter h
  | commitObservations observations now =>
      exact (commit_kept hc none none now).stateAfter h
  | commitReceipt observations snapshot now =>
      exact (commit_kept hc none (some snapshot) now).stateAfter h
  | retract reorg lost now => exact Tx.stateAfter_cases _ h fun _ _ hok => (retract_ok h hsum hok).1
  | failed lost => exact h.congr rfl rfl (Nat.le_add_right _ _)
  | consume batchSize receivedAt effect => exact h

theorem kept_run (hsum : Function.Injective host.sum) {calls : List Call}
    (hcalls : ∀ c ∈ calls, c.Genuine) : Kept host (run host calls).feed := by
  have hinit : Kept host ({} : System).feed := by
    constructor <;> simp
  exact List.foldlRecOn (motive := fun s : System => Kept host s.feed) calls _ hinit
    fun _ h c hc => h.step hsum (hcalls c hc)

/-! ## A reorg -/

/-- A transaction intent of the sequencer. -/
def FeedEvent.IsIntent (e : FeedEvent) : Prop :=
  e.source = sourceSequencer ∧ isIntentPath e.stableActionPath = true
deriving Decidable

/-- The row of the outbox announces a compensation of the event. -/
def FeedDb.Announces (db : FeedDb) (r : OutboxRow) (e : FeedEvent) : Prop :=
  ∃ c ∈ db.events, c.offset = r.offset ∧ c.Compensates e

theorem Kept.exists_unique_announcement (h : Kept host db) (he : e ∈ db.events)
    (horphan : e.inclusion = .orphaned) : ∃! r, r ∈ db.outbox ∧ db.Announces r e := by
  obtain ⟨c, hc, n, hpath⟩ := h.orphans e he horphan
  refine ⟨c.outboxRow, ⟨?_, c, hc, rfl, n, hpath⟩, ?_⟩
  · rw [h.outbox]
    exact List.mem_map_of_mem hc
  · rintro r ⟨hr, c', hc', hoffset, n', hpath'⟩
    rw [h.outbox] at hr
    obtain ⟨x, hx, rfl⟩ := List.mem_map.mp hr
    rw [← h.eq hc' hx hoffset, h.eq hc' hc (h.single c' hc' c hc n' n _ hpath' hpath)]

/-- A second retraction of the sequence finds no candidate. -/
theorem retract_again {k : Nat} {lost : Nat → Nat}
    (hnone : db.orphanCandidates reorg = [])
    (hok : retractSequencerSequence host reorg lost now db = .ok (k, db')) :
    k = 0 ∧ db'.events = db.events ∧ db'.outbox = db.outbox := by
  simp only [retractSequencerSequence, Tx.query_bind, id, Tx.require_bind_ok, hnone, retractEach,
    Tx.pure_bind_apply, Tx.exec_bind, Tx.pure_ok] at hok
  obtain ⟨-, -, rfl, rfl⟩ := hok
  exact ⟨rfl, rfl, rfl⟩

/-- An event that is no intent of the sequence is left as it is. -/
theorem Kept.mem_of_not_candidate (h : Kept host db) {rows : List FeedEvent}
    (hevents : db'.events =
      orphanAt ((db.orphanCandidates reorg).map FeedEvent.offset) db.events ++ rows)
    (he : e ∈ db.events)
    (hother : ¬ (e.IsIntent ∧ e.sourceSequence = reorg.sequenceNumber)) : e ∈ db'.events := by
  rw [hevents]
  refine List.mem_append_left _ (mem_updateWhere_of_not he fun hmem => hother ?_)
  obtain ⟨x, hx, hoffset⟩ := List.mem_map.mp hmem
  obtain ⟨hx, hsource, hsequence, -, hpath⟩ := mem_orphanCandidates.mp hx
  obtain rfl := h.eq hx he hoffset
  exact ⟨⟨hsource, hpath⟩, hsequence⟩

/-- An intent that is still observed was observed before, in another sequence. -/
theorem observed_before {rows : List FeedEvent}
    (hevents : db'.events =
      orphanAt ((db.orphanCandidates reorg).map FeedEvent.offset) db.events ++ rows)
    (hrows : ∀ c ∈ rows, ∃ x ∈ db.orphanCandidates reorg, ∃ offset,
      c = eventOf host (compensation reorg x now) offset)
    (he : e ∈ db'.events) (hintent : e.IsIntent) (hobserved : e.inclusion = .observed) :
    e ∈ db.events ∧ e.sourceSequence ≠ reorg.sequenceNumber := by
  rw [hevents] at he
  rcases List.mem_append.mp he with he | he
  · obtain ⟨x, hx, -, -, -, -, -, hmarked, hsame⟩ := mem_orphanAt he
    by_cases hmem : x.offset ∈ (db.orphanCandidates reorg).map FeedEvent.offset
    · rw [hmarked hmem] at hobserved
      cases hobserved
    · obtain rfl := hsame hmem
      refine ⟨hx, fun hsequence => hmem (List.mem_map_of_mem ?_)⟩
      exact mem_orphanCandidates.mpr ⟨hx, hintent.1, hsequence, hobserved, hintent.2⟩
  · -- a compensation is no intent
    obtain ⟨x, -, offset, rfl⟩ := hrows e he
    exact absurd hintent.2 (Bool.eq_false_iff.mp (isIntentPath_reorgPath _ _))

/-- In every run, a retraction leaves no intent observed from its sequence on exactly if none is
observed above it. Each intent of the sequence that was observed has one compensation in the outbox.
No other event is changed, and to retract the sequence again adds nothing. -/
theorem retraction_orphans_suffix (host : FeedHost) (hsum : Function.Injective host.sum)
    (calls : List Call) (hcalls : ∀ c ∈ calls, c.Genuine) (reorg : Reorg) (lost : Nat → Nat)
    (now : Instant) (k : Nat) (db' : FeedDb)
    (hok : retractSequencerSequence host reorg lost now (run host calls).feed = .ok (k, db')) :
    ((∀ e ∈ db'.events, e.IsIntent → reorg.sequenceNumber ≤ e.sourceSequence →
        e.inclusion = .orphaned) ↔
      ∀ e ∈ (run host calls).feed.events, e.IsIntent → reorg.sequenceNumber < e.sourceSequence →
        e.inclusion = .orphaned) ∧
    (∀ e ∈ (run host calls).feed.events, e.IsIntent → e.sourceSequence = reorg.sequenceNumber →
      e.inclusion = .observed → ∃! r, r ∈ db'.outbox ∧ db'.Announces r e) ∧
    (db'.outbox.map OutboxRow.offset).Nodup ∧
    (∀ e ∈ (run host calls).feed.events, ¬ (e.IsIntent ∧ e.sourceSequence = reorg.sequenceNumber) →
      e ∈ db'.events) ∧
    ∀ lost' now' k' db'', retractSequencerSequence host reorg lost' now' db' = .ok (k', db'') →
      k' = 0 ∧ db''.events = db'.events ∧ db''.outbox = db'.outbox := by
  have h := kept_run hsum hcalls
  generalize (run host calls).feed = db at *
  obtain ⟨hkept, rows, hevents, hrows⟩ := retract_ok h hsum hok
  refine ⟨⟨fun hall e he hintent hlt => ?_, fun hlast e he hintent hle => ?_⟩, ?_, ?_,
    fun e he hother => h.mem_of_not_candidate hevents he hother, fun lost' now' k' db'' hok' => ?_⟩
  · have hmem : e ∈ db'.events :=
      h.mem_of_not_candidate hevents he fun hsequence => Nat.ne_of_gt hlt hsequence.2
    exact hall e hmem hintent (Nat.le_of_lt hlt)
  · cases hinclusion : e.inclusion with
    | orphaned => rfl
    | observed =>
        obtain ⟨hold, hne⟩ := observed_before hevents hrows he hintent hinclusion
        rw [hlast e hold hintent (Nat.lt_of_le_of_ne hle hne.symm)] at hinclusion
        cases hinclusion
  · intro e he hintent hsequence hobserved
    have hcandidate : e ∈ db.orphanCandidates reorg :=
      mem_orphanCandidates.mpr ⟨he, hintent.1, hsequence, hobserved, hintent.2⟩
    have hmem : e.orphan ∈ db'.events := by
      rw [hevents]
      exact List.mem_append_left _ (mem_updateWhere_of_pos he (List.mem_map_of_mem hcandidate))
    exact hkept.exists_unique_announcement (e := e.orphan) hmem rfl
  · rw [hkept.outbox, List.map_map]
    exact hkept.unique
  · refine retract_again (List.eq_nil_iff_forall_not_mem.mpr fun x hx => ?_) hok'
    obtain ⟨hx, hsource, hsequence, hinclusion, hpath⟩ := mem_orphanCandidates.mp hx
    exact (observed_before hevents hrows hx ⟨hsource, hpath⟩ hinclusion).2 hsequence

/-! ## A commit of the same transaction again -/

/-- What a commit appends is new, and afterwards all its observations are stored. -/
theorem commitEach_ok (hok : commitEach host os result db = .ok (result', db')) :
    db.sequence ≤ db'.sequence ∧ (∃ rows, db'.events = db.events ++ rows ∧
      ∀ c ∈ rows, db.sequence < c.offset ∧ c.inclusion = .observed ∧ ¬ db.Stores c.observationId) ∧
    ∀ o ∈ os, db'.Stores (o.1.id host) := by
  induction os generalizing db result with
  | nil =>
      obtain ⟨-, rfl⟩ := Tx.pure_ok.mp hok
      exact ⟨Nat.le_refl _, ⟨[], by simp, by simp⟩, by simp⟩
  | cons o os ih =>
      obtain ⟨o, lost⟩ := o
      obtain ⟨r, db₁, hone, hok⟩ := Tx.bind_ok.mp hok
      obtain ⟨hle, ⟨rows, hevents, hrows⟩, hstored⟩ := ih hok
      have hmono : ∀ id, db₁.Stores id → db'.Stores id := by
        rintro id ⟨e, he, hid⟩
        exact ⟨e, hevents ▸ List.mem_append_left _ he, hid⟩
      rcases publish_ok hone with ⟨hold, -, rfl⟩ | ⟨hnew, -, rfl⟩
      · refine ⟨Nat.le_trans (Nat.le_add_right _ _) hle, ⟨rows, hevents, fun c hc => ?_⟩,
          List.forall_mem_cons.mpr ⟨hmono _ hold, hstored⟩⟩
        obtain ⟨hoffset, hrest⟩ := hrows c hc
        exact ⟨Nat.lt_of_le_of_lt (Nat.le_add_right _ _) hoffset, hrest⟩
      · have hself : (db.push (eventOf host o (db.sequence + 1))).Stores (o.id host) :=
          ⟨_, List.mem_append_right _ (List.mem_singleton_self _), rfl⟩
        refine ⟨Nat.le_trans (by simp only [FeedDb.push, eventOf]; omega) hle,
          ⟨eventOf host o (db.sequence + 1) :: rows, ?_,
          List.forall_mem_cons.mpr ⟨⟨?_, rfl, hnew⟩, fun c hc => ?_⟩⟩,
          List.forall_mem_cons.mpr ⟨hmono _ hself, hstored⟩⟩
        · rw [hevents, FeedDb.push, List.append_assoc, List.singleton_append]
        · simp only [eventOf]
          omega
        · obtain ⟨hoffset, hobserved, hnot⟩ := hrows c hc
          simp only [FeedDb.push, eventOf] at hoffset
          refine ⟨by omega, hobserved, ?_⟩
          rintro ⟨e, he, hid⟩
          exact hnot ⟨e, List.mem_append_left _ he, hid⟩

theorem commit_ok {observedSequence : Option Nat}
    (hok : commit host os observedSequence snapshot now db = .ok (result, db')) :
    (∀ o ∈ os, o.1.Valid host) ∧ (∃ rows, db'.events = db.events ++ rows ∧
      ∀ c ∈ rows, db.sequence < c.offset ∧ c.inclusion = .observed ∧ ¬ db.Stores c.observationId) ∧
    ∀ o ∈ os, db'.Stores (o.1.id host) := by
  obtain ⟨hvalid, hok⟩ := Tx.require_bind_ok.mp hok
  obtain ⟨r, db₁, heach, hok⟩ := Tx.bind_ok.mp hok
  obtain ⟨-, hrows, hstored⟩ := commitEach_ok heach
  simp only [Tx.query_bind, Tx.require_bind_ok, Tx.exec_bind, Tx.pure_ok] at hok
  obtain ⟨-, -, rfl⟩ := hok
  exact ⟨hvalid, hrows, hstored⟩

/-- In every run, a commit makes an intent live with an announcement after all rows of the outbox,
so after the row of a retraction too, exactly if no event has its identity yet. An intent that a
retraction has orphaned is still stored. -/
theorem recommit_live_iff (host : FeedHost) (hsum : Function.Injective host.sum) (calls : List Call)
    (hcalls : ∀ c ∈ calls, c.Genuine) (os : List (Observation × Nat)) (hos : ∀ o ∈ os, o.1.Genuine)
    (observedSequence : Nat) (now : Instant) (result : CommitResult) (db' : FeedDb)
    (hok : commitSequencer host os observedSequence now (run host calls).feed = .ok (result, db'))
    (o : Observation) (lost : Nat) (ho : (o, lost) ∈ os) :
    (∃ e ∈ db'.events, e.source = o.source ∧ e.txHash = o.txHash ∧
      e.stableActionPath = o.stableActionPath ∧ e.inclusion = .observed ∧
      ∃ r ∈ db'.outbox, r.offset = e.offset ∧
        ∀ r' ∈ (run host calls).feed.outbox, r'.offset < r.offset) ↔
    ¬ (run host calls).feed.Stores (o.id host) := by
  have h := kept_run hsum hcalls
  generalize (run host calls).feed = db at *
  have hkept := commit_kept hos _ _ _ h hok
  obtain ⟨hvalid, ⟨rows, hevents, hrows⟩, hstored⟩ := commit_ok hok
  have hidentity : ∀ e ∈ db'.events, e.source = o.source → e.txHash = o.txHash →
      e.stableActionPath = o.stableActionPath → e.observationId = o.id host := by
    intro e he hsource htx hpath
    rw [hkept.identified e he, Observation.id, Observation.id, Observation.identity,
      Observation.identity, (hvalid _ ho).1]
    simp only [FeedEvent.observation, hsource, htx, hpath]
  constructor
  · rintro ⟨e, he, hsource, htx, hpath, -, r, hr, hoffset, hlater⟩ hold
    have hid := hidentity e he hsource htx hpath
    rw [hevents] at he
    rcases List.mem_append.mp he with he | he
    · have hrow : e.outboxRow ∈ db.outbox := by
        rw [h.outbox]
        exact List.mem_map_of_mem he
      have hlt : e.offset < r.offset := hlater _ hrow
      omega
    · exact (hrows e he).2.2 (hid ▸ hold)
  · intro hnew
    obtain ⟨e, he, hid⟩ := hstored _ ho
    have hsame := (hkept.identified e he).symm.trans hid
    obtain ⟨hsource, htx, hpath⟩ := Observation.identity_inj (hkept.plain e he)
      ⟨zero_notMem_source (hvalid _ ho).2.1, (hos _ ho).1.zero_notMem⟩ (hsum hsame)
    have hrow : e.outboxRow ∈ db'.outbox := by
      rw [hkept.outbox]
      exact List.mem_map_of_mem he
    rw [hevents] at he
    rcases List.mem_append.mp he with hold | hmem
    · exact absurd ⟨e, hold, hid⟩ hnew
    · obtain ⟨hlt, hobserved, -⟩ := hrows e hmem
      refine ⟨e, hevents ▸ he, hsource, htx, hpath, hobserved, e.outboxRow, hrow, rfl,
        fun r hr => ?_⟩
      rw [h.outbox] at hr
      obtain ⟨x, hx, rfl⟩ := List.mem_map.mp hr
      exact Nat.lt_of_le_of_lt (h.bounded x hx) hlt

/-! ## Reorgs of two sequences -/

theorem sampleHost_sum : Function.Injective sampleHost.sum := fun _ _ h =>
  List.map_injective_iff.mpr (fun _ _ hchar => UInt8.toUInt32_inj.mp (congrArg Char.val hchar))
    (String.ofList_injective h)

/-- Intents of two sequences. -/
def twoSequences : List Call :=
  [.commitSequencer [(intentAt 7 "intent/0", 0)] 7 1,
    .commitSequencer [(intentAt 8 "intent/1", 0)] 8 1]

theorem twoSequences_genuine : ∀ c ∈ twoSequences, c.Genuine := by
  simp only [twoSequences, List.forall_mem_cons, Call.Genuine]
  exact ⟨⟨by decide, by simp⟩, ⟨by decide, by simp⟩, by simp⟩

/-- A reorg at the last sequence with an intent. -/
theorem last_sequence_retracts : ∃ k db',
    retractSequencerSequence sampleHost ⟨8, "", ""⟩ (fun _ => 0) 1
    (run sampleHost twoSequences).feed =
      .ok (k, db') ∧
    ∀ e ∈ db'.events, e.IsIntent → 8 ≤ e.sourceSequence → e.inclusion = .orphaned := by
  obtain ⟨k, db', hok⟩ := Tx.Commits.of_isOk (m := retractSequencerSequence sampleHost ⟨8, "", ""⟩
    (fun _ => 0) 1) (s := (run sampleHost twoSequences).feed) (by decide +kernel)
  refine ⟨k, db', hok, (retraction_orphans_suffix sampleHost sampleHost_sum twoSequences
    twoSequences_genuine _ _ _ k db' hok).1.mpr ?_⟩
  decide +kernel

/-- A reorg at the first of two sequences leaves the intent of the second observed. -/
theorem later_sequence_stays_observed :
    let db := (run sampleHost (twoSequences ++ [.retract ⟨7, "", ""⟩ (fun _ => 0) 1])).feed
    (∃ e ∈ db.events, e.IsIntent ∧ e.sourceSequence = 7 ∧ e.inclusion = .orphaned) ∧
      ∃ e ∈ db.events, e.IsIntent ∧ 7 ≤ e.sourceSequence ∧ e.inclusion = .observed := by
  decide +kernel

/-- An intent and a reorg of its sequence. -/
def retractedIntent : List Call :=
  [.commitSequencer [(intentAt 7 "intent/0", 0)] 7 1, .retract ⟨7, "", ""⟩ (fun _ => 0) 1]

/-- The replacement chain has an intent that was not stored before. -/
theorem new_intent_goes_live : ∃ result db',
    commitSequencer sampleHost [(intentAt 8 "intent/1", 0)] 8 1
    (run sampleHost retractedIntent).feed =
      .ok (result, db') ∧
    ∃ e ∈ db'.events, e.txHash = sampleHash ∧ e.inclusion = .observed ∧
      ∃ r ∈ db'.outbox, r.offset = e.offset ∧
        ∀ r' ∈ (run sampleHost retractedIntent).feed.outbox, r'.offset < r.offset := by
  have hcalls : ∀ c ∈ retractedIntent, c.Genuine := by
    simp only [retractedIntent, List.forall_mem_cons, Call.Genuine]
    exact ⟨⟨by decide, by simp⟩, trivial, by simp⟩
  obtain ⟨result, db', hok⟩ := Tx.Commits.of_isOk (m := commitSequencer sampleHost
    [(intentAt 8 "intent/1", 0)] 8 1) (s := (run sampleHost retractedIntent).feed)
    (by decide +kernel)
  obtain ⟨e, he, -, htx, -, hobserved, hrow⟩ :=
    (recommit_live_iff sampleHost sampleHost_sum retractedIntent hcalls
      [(intentAt 8 "intent/1", 0)] (List.forall_mem_singleton.mpr (by decide)) 8 1 result db' hok
      _ 0 (List.mem_singleton_self _)).mpr (by decide +kernel)
  exact ⟨result, db', hok, e, he, htx, hobserved, hrow⟩

/-- The replacement chain has the intent again, in the next sequence: it stays orphaned, and the
outbox has no new row. -/
theorem recommitted_intent_stays_orphaned :
    let again := retractedIntent ++ [.commitSequencer [(intentAt 8 "intent/0", 0)] 8 1]
    (run sampleHost again).feed.progress.observedSequence = some 8 ∧
      (∀ e ∈ (run sampleHost again).feed.events, e.txHash = sampleHash →
        e.stableActionPath = "intent/0" → e.inclusion = .orphaned) ∧
      (run sampleHost again).feed.outbox = (run sampleHost retractedIntent).feed.outbox := by
  decide +kernel

end RbhTrade.Feed
