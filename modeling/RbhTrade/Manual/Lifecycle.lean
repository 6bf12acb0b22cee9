import RbhTrade.Lib.Ranges
import RbhTrade.Store.ManualLifecycle

/-!
# The journal over whole runs

Requests are recorded, audit rows are inserted and a client reads pages, in any order. The journal
of a request is at every time the list of its audit rows, in the order in which they were inserted,
numbered from the sequence of the intake on. So a page is the next piece of one growing list, and
what the client has read is a prefix of it.
-/

namespace RbhTrade.Lifecycle

open Tables Ranges

/-! ## Runs -/

/-- A reader of one request: the cursor it passes next and the events it has read. -/
structure Client where
  identity : Identity
  request : String
  cursor : Nat := 0
  read : List Event := []

structure System where
  db : JournalDb := {}
  client : Client

inductive Call where
  /-- An operation of another kind. -/
  | operation (id : String)
  | record (source : Source) (lost : Nat)
  | audit (row : Audit)
  | page

/-- The client after a page; an error leaves it as it is. -/
def Client.page (host : AddressHost) (c : Client) (db : JournalDb) : Client :=
  match manualLifecycleEvents host db c.identity c.request c.cursor with
  | .error _ => c
  | .ok page => { c with cursor := page.nextCursor, read := c.read ++ page.events }

def System.step (host : AddressHost) (s : System) : Call → System
  | .operation id => { s with db := { s.db with operations := s.db.operations ++ [id] } }
  | .record source lost => { s with db := (recordSource source lost).stateAfter s.db }
  | .audit row => { s with db := (insertAudit row).stateAfter s.db }
  | .page => { s with client := s.client.page host s.db }

def run (host : AddressHost) (identity : Identity) (request : String) (calls : List Call) :
    System :=
  calls.foldl (System.step host) { client := { identity := identity, request := request } }

/-! ## The journal of a request -/

/-- The events of audit rows, numbered from a cursor on. -/
def Source.journal (s : Source) : Nat → List Audit → List LifecycleEvent
  | _, [] => []
  | cursor, a :: rest => s.event cursor a :: s.journal (cursor + 1) rest

variable {db db' : JournalDb} {s t : Source} {a : Audit}

@[simp] theorem event_requestId (s : Source) (n : Nat) (a : Audit) :
(s.event n a).requestId = s.id :=
  rfl

theorem journal_append (s : Source) (n : Nat) (as : List Audit) (a : Audit) :
    s.journal n (as ++ [a]) = s.journal n as ++ [s.event (n + as.length) a] := by
  induction as generalizing n with
  | nil => rfl
  | cons b as ih =>
      simp only [List.cons_append, Source.journal, ih, List.length_cons]
      rw [Nat.add_right_comm, Nat.add_assoc]

theorem journal_cursors (s : Source) (n : Nat) (as : List Audit) :
    (s.journal n as).map LifecycleEvent.cursor = List.range' n as.length := by
  induction as generalizing n with
  | nil => rfl
  | cons a as ih => rw [Source.journal, List.map_cons, ih, List.length_cons, List.range'_succ]; rfl

theorem journal_audits (s : Source) (n : Nat) (as : List Audit) :
    (s.journal n as).map LifecycleEvent.auditId = as.map Audit.id := by
  induction as generalizing n with
  | nil => rfl
  | cons a as ih => rw [Source.journal, List.map_cons, ih]; rfl

@[simp] theorem length_journal (s : Source) (n : Nat) (as : List Audit) :
    (s.journal n as).length = as.length := by
  simpa using congrArg List.length (journal_audits s n as)

/-- The audit rows of a request, the oldest first. -/
def JournalDb.auditsOf (db : JournalDb) (s : Source) : List Audit :=
  db.audits.filter fun a => s.Owns a

/-- What every insert keeps: every source has its journal. -/
structure Journaled (db : JournalDb) : Prop where
  journal : ∀ s ∈ db.sources, db.eventsOf s.id = s.journal s.sequence (db.auditsOf s)
  audits : KeyUnique Audit.id db.audits
  ids : KeyUnique Source.id db.sources
  positive : ∀ s ∈ db.sources, 0 < s.sequence
  known : ∀ s ∈ db.sources, s.operationId ∈ db.operations
  audited : ∀ a ∈ db.audits, ∀ o ∈ a.operationId, o ∈ db.operations
  sourced : ∀ e ∈ db.events, ∃ s ∈ db.sources, s.id = e.requestId

/-- The journal of every source begins with its intake. -/
def Begun (db : JournalDb) : Prop := ∀ s ∈ db.sources, ∃ rest, db.auditsOf s = s.intake :: rest

theorem Journaled.empty : Journaled {} where
  journal := by simp
  audits := by simp [KeyUnique]
  ids := by simp [KeyUnique]
  positive := by simp
  known := by simp
  audited := by simp
  sourced := by simp

/-! ## The next cursor -/

/-- The next cursor follows the journal. -/
theorem nextCursor_eq {as : List Audit} (h : db.eventsOf s.id = s.journal s.sequence as) :
    db.nextCursor s = s.sequence + as.length := by
  unfold JournalDb.nextCursor
  rw [h, journal_cursors]
  cases as with
  | nil => rfl
  | cons a as => rw [List.length_cons, max?_range']; rfl

/-! ## Inserts -/

theorem eventsOf_append {e : LifecycleEvent} (h : db'.events = db.events ++ [e])
    (request : String) :
    db'.eventsOf request = db.eventsOf request ++ if e.requestId = request then [e] else [] := by
  simp only [JournalDb.eventsOf, h, List.filter_append, List.filter_singleton, Bool.cond_decide]

theorem auditsOf_append (h : db'.audits = db.audits ++ [a]) (s : Source) :
    db'.auditsOf s = db.auditsOf s ++ if s.Owns a then [a] else [] := by
  simp only [JournalDb.auditsOf, h, List.filter_append, List.filter_singleton, Bool.cond_decide]

/-- An audit row has one event at most, so the insert fails if two sources own the row. -/
theorem insertLifecycleEvents_ok {l : List Source} {u : Unit}
    (h : insertLifecycleEvents a l db = .ok (u, db')) :
    (l = [] ∧ db' = db) ∨
      ∃ s, l = [s] ∧ db' = { db with events := db.events ++ [s.event (db.nextCursor s) a] } := by
  cases l with
  | nil =>
      obtain ⟨-, rfl⟩ := Tx.pure_ok.mp h
      exact .inl ⟨rfl, rfl⟩
  | cons s rest =>
      simp only [insertLifecycleEvents, insertLifecycleEvent, bind_assoc, Tx.query_bind,
        Tx.require_bind_ok, Tx.exec_bind, id] at h
      obtain ⟨-, h⟩ := h
      cases rest with
      | nil =>
          obtain ⟨-, rfl⟩ := Tx.pure_ok.mp h
          exact .inr ⟨s, rfl, rfl⟩
      | cons t rest =>
          exfalso
          simp only [insertLifecycleEvents, insertLifecycleEvent, bind_assoc, Tx.query_bind,
            Tx.require_bind_ok, id] at h
          exact (h.1.1 _ (List.mem_append_right _ (List.mem_singleton_self _))).1 rfl

/-- An audit row goes to the journal of the one source that owns it, if there is one. -/
structure Audited (a : Audit) (db db' : JournalDb) : Prop where
  fresh : ∀ x ∈ db.audits, x.id ≠ a.id
  referenced : ∀ o ∈ a.operationId, o ∈ db.operations
  operations : db'.operations = db.operations
  sources : db'.sources = db.sources
  audits : db'.audits = db.audits ++ [a]
  events : (db'.events = db.events ∧ ∀ s ∈ db.sources, ¬ s.Owns a) ∨
    ∃ s ∈ db.sources, s.Owns a ∧ (∀ t ∈ db.sources, t.Owns a → t = s) ∧
      db'.events = db.events ++ [s.event (db.nextCursor s) a]

theorem insertAudit_ok {u : Unit} (h : insertAudit a db = .ok (u, db')) : Audited a db db' := by
  simp only [insertAudit, Tx.query_bind, Tx.require_bind_ok, Tx.exec_bind, id] at h
  obtain ⟨⟨hfresh, hops⟩, h⟩ := h
  obtain ⟨hnone, rfl⟩ | ⟨s, hone, rfl⟩ := insertLifecycleEvents_ok h
  · refine ⟨hfresh, hops, rfl, rfl, rfl, .inl ⟨rfl, fun s hs howns => ?_⟩⟩
    have hmem : s ∈ db.sources.filter fun s => s.Owns a :=
      List.mem_filter.mpr ⟨hs, decide_eq_true howns⟩
    rw [hnone] at hmem
    cases hmem
  · have hs := List.mem_filter.mp (hone ▸ List.mem_singleton_self s)
    refine ⟨hfresh, hops, rfl, rfl, rfl, .inr ⟨s, hs.1, of_decide_eq_true hs.2,
      fun t ht howns => ?_, rfl⟩⟩
    have hmem : t ∈ db.sources.filter fun s => s.Owns a :=
      List.mem_filter.mpr ⟨ht, decide_eq_true howns⟩
    rw [hone] at hmem
    exact List.mem_singleton.mp hmem

theorem Journaled.audit (h : Journaled db) (ha : Audited a db db') : Journaled db' where
  journal := by
    intro t ht
    rw [ha.sources] at ht
    obtain ⟨hevents, hnone⟩ | ⟨s, hs, howns, huniq, hevents⟩ := ha.events
    · rw [auditsOf_append ha.audits, if_neg (hnone t ht), List.append_nil]
      simpa only [JournalDb.eventsOf, hevents] using h.journal t ht
    · rw [eventsOf_append hevents, auditsOf_append ha.audits, event_requestId]
      by_cases hts : t = s
      · subst hts
        rw [if_pos rfl, if_pos howns, journal_append, h.journal t ht,
          nextCursor_eq (h.journal t ht)]
      · have hid : s.id ≠ t.id := fun heq => hts (h.ids.eq ht hs heq.symm)
        rw [if_neg hid, if_neg fun howns' => hts (huniq t ht howns'), List.append_nil,
          List.append_nil, h.journal t ht]
  audits := ha.audits ▸ h.audits.append ha.fresh
  ids := ha.sources ▸ h.ids
  positive := ha.sources ▸ h.positive
  known := by
    rw [ha.sources, ha.operations]
    exact h.known
  audited := by
    rw [ha.audits, ha.operations]
    exact List.forall_mem_append.mpr ⟨h.audited, List.forall_mem_singleton.mpr ha.referenced⟩
  sourced := by
    rw [ha.sources]
    obtain ⟨hevents, -⟩ | ⟨s, hs, -, -, hevents⟩ := ha.events
    · exact hevents ▸ h.sourced
    · rw [hevents]
      exact List.forall_mem_append.mpr
        ⟨h.sourced, List.forall_mem_singleton.mpr ⟨s, hs, rfl⟩⟩

theorem Begun.audit (h : Begun db) (ha : Audited a db db') : Begun db' := by
  intro s hs
  rw [ha.sources] at hs
  obtain ⟨rest, hrest⟩ := h s hs
  exact ⟨rest ++ if s.Owns a then [a] else [], by rw [auditsOf_append ha.audits, hrest]; rfl⟩

/-- The database with a source that has no audit row yet. -/
def JournalDb.withSource (db : JournalDb) (s : Source) : JournalDb :=
  { db with operations := db.operations ++ [s.operationId], sources := db.sources ++ [s],
            sequence := s.sequence }

theorem recordSource_ok {lost : Nat} {u : Unit} (h : recordSource s lost db = .ok (u, db')) :
    ∃ t, 0 < t.sequence ∧ t.operationId ∉ db.operations ∧ (∀ x ∈ db.sources, x.id ≠ t.id) ∧
      Audited t.intake (db.withSource t) db' := by
  simp only [recordSource, Tx.query_bind, Tx.require_bind_ok, Tx.exec_bind, id] at h
  obtain ⟨hop, hids, h⟩ := h
  exact ⟨{ s with sequence := db.sequence + lost + 1 }, Nat.succ_pos _, hop,
    fun x hx => (hids x hx).1, insertAudit_ok h⟩

/-- A new operation has no audit row, and a new intake none either. -/
theorem Journaled.withSource (h : Journaled db) (hpos : 0 < s.sequence)
    (hop : s.operationId ∉ db.operations) (hids : ∀ x ∈ db.sources, x.id ≠ s.id)
    (hfresh : ∀ x ∈ db.audits, x.id ≠ intakeId s.id) :
    Journaled (db.withSource s) ∧ (db.withSource s).auditsOf s = [] := by
  have hnone : db.auditsOf s = [] := by
    refine List.filter_eq_nil_iff.mpr fun a ha howns => ?_
    obtain howns | howns := of_decide_eq_true howns
    · exact hop (h.audited a ha _ howns)
    · exact hfresh a ha howns
  have hevents : db.eventsOf s.id = [] := by
    refine List.filter_eq_nil_iff.mpr fun e he heq => ?_
    obtain ⟨x, hx, hxe⟩ := h.sourced e he
    exact hids x hx (hxe.trans (of_decide_eq_true heq))
  refine ⟨?_, hnone⟩
  constructor
  · refine List.forall_mem_append.mpr ⟨h.journal, List.forall_mem_singleton.mpr ?_⟩
    exact hevents.trans (by rw [show (db.withSource s).auditsOf s = [] from hnone]; rfl)
  · exact h.audits
  · exact h.ids.append hids
  · exact List.forall_mem_append.mpr ⟨h.positive, List.forall_mem_singleton.mpr hpos⟩
  · refine List.forall_mem_append.mpr ⟨fun x hx => ?_, List.forall_mem_singleton.mpr ?_⟩
    · exact List.mem_append_left _ (h.known x hx)
    · exact List.mem_append_right _ (List.mem_singleton_self _)
  · exact fun a ha o ho => List.mem_append_left _ (h.audited a ha o ho)
  · intro e he
    obtain ⟨x, hx, hxe⟩ := h.sourced e he
    exact ⟨x, List.mem_append_left _ hx, hxe⟩

theorem Journaled.record (h : Journaled db) (hb : Begun db) {lost : Nat} {u : Unit}
    (hok : recordSource s lost db = .ok (u, db')) : Journaled db' ∧ Begun db' := by
  obtain ⟨t, hpos, hop, hids, ha⟩ := recordSource_ok hok
  obtain ⟨hj, hnone⟩ := h.withSource hpos hop hids ha.fresh
  refine ⟨hj.audit ha, fun x hx => ?_⟩
  rw [ha.sources] at hx
  obtain hx | hx := List.mem_append.mp hx
  · obtain ⟨rest, hrest⟩ := hb x hx
    refine ⟨rest ++ if x.Owns t.intake then [t.intake] else [], ?_⟩
    rw [auditsOf_append ha.audits]
    exact congrArg (· ++ _) hrest
  · cases List.mem_singleton.mp hx
    exact ⟨[], by rw [auditsOf_append ha.audits, hnone, if_pos (.inr rfl)]; rfl⟩

/-! ## No corruption -/

theorem mem_journal {n : Nat} {as : List Audit} {e : LifecycleEvent} (he : e ∈ s.journal n as) :
    ∃ a ∈ as, ∃ k, e = s.event k a := by
  induction as generalizing n with
  | nil => cases he
  | cons a as ih =>
      obtain rfl | he := List.mem_cons.mp he
      · exact ⟨a, List.mem_cons_self, n, rfl⟩
      · obtain ⟨b, hb, k, rfl⟩ := ih he
        exact ⟨b, List.mem_cons_of_mem _ hb, k, rfl⟩

theorem Journaled.not_corrupt (h : Journaled db) (hb : Begun db) (hs : s ∈ db.sources) :
    ¬ db.Corrupt s := by
  have hj := h.journal s hs
  obtain ⟨rest, hrest⟩ := hb s hs
  have hcursors : (db.eventsOf s.id).map LifecycleEvent.cursor =
      List.range' s.sequence (rest.length + 1) := by
    rw [hj, journal_cursors, hrest]
    rfl
  rintro (hfirst | ⟨a, ha, howns, hmissing⟩ | ⟨e, he, hdiff⟩ | ⟨low, hlow, high, hhigh, hcount⟩ |
    ⟨low, hlow, hne⟩)
  · refine hfirst ⟨s.event s.sequence s.intake, ?_, rfl, rfl⟩
    rw [hj, hrest]
    exact List.mem_cons_self
  · have hid : a.id ∈ (db.eventsOf s.id).map LifecycleEvent.auditId := by
      rw [hj, journal_audits]
      exact List.mem_map_of_mem (List.mem_filter.mpr ⟨ha, decide_eq_true howns⟩)
    obtain ⟨e, he, heq⟩ := List.mem_map.mp hid
    exact hmissing e he heq
  · rw [hj] at he
    obtain ⟨a, ha, k, rfl⟩ := mem_journal he
    obtain ⟨ha, howns⟩ := List.mem_filter.mp ha
    obtain hnone | ⟨b, hb, hbid, hdiffers⟩ := hdiff
    · exact hnone a ha rfl
    · obtain rfl : b = a := h.audits.eq hb ha hbid
      simp [Source.Differs, Source.event, of_decide_eq_true howns] at hdiffers
  · rw [hcursors, min?_range'] at hlow
    rw [hcursors, max?_range'] at hhigh
    cases hlow
    cases hhigh
    have hlen : (db.eventsOf s.id).length = rest.length + 1 := by
      simpa using congrArg List.length hcursors
    omega
  · rw [hcursors, min?_range'] at hlow
    cases hlow
    exact hne rfl

/-! ## Pages -/

/-- The events after a cursor are those from a position on. -/
theorem filter_journal {n k after : Nat} (as : List Audit)
    (h : after + 1 = n + k ∨ (k = 0 ∧ after < n)) :
    (s.journal n as).filter (fun e => after < e.cursor) = (s.journal n as).drop k := by
  induction as generalizing n k with
  | nil => simp [Source.journal]
  | cons a as ih =>
      cases k with
      | zero =>
          have hhead : after < n := by omega
          have hrest := ih (n := n + 1) (k := 0) (.inr ⟨rfl, by omega⟩)
          simp only [Source.journal, List.drop_zero] at hrest ⊢
          rw [List.filter_cons_of_pos (p := fun e : LifecycleEvent => after < e.cursor)
            (decide_eq_true hhead), hrest]
      | succ k =>
          have hhead : ¬ after < n := by omega
          have hrest := ih (n := n + 1) (k := k) (.inl (by omega))
          simp only [Source.journal, List.drop_succ_cons]
          rw [List.filter_cons_of_neg (p := fun e : LifecycleEvent => after < e.cursor)
            fun hd => hhead (of_decide_eq_true hd), hrest]

/-- What the client has read are the first events of the request, and its cursor is the last
one's. -/
def Client.Read (c : Client) (db : JournalDb) (k : Nat) : Prop :=
  k ≤ (db.eventsOf c.request).length ∧
    c.read = ((db.eventsOf c.request).take k).map LifecycleEvent.toEvent ∧
    ((k = 0 ∧ c.cursor = 0) ∨ ∃ s ∈ db.sources, s.id = c.request ∧ c.cursor + 1 = s.sequence + k)

/-- A page goes on where the client stopped. -/
theorem Client.Read.page {host : AddressHost} {c : Client} {k : Nat} (hc : c.Read db k)
    (h : Journaled db) (hb : Begun db) (hs : s ∈ db.owned host c.identity c.request) :
    (c.page host db).Read db
    (min (k + manualLifecyclePageSize) (db.eventsOf c.request).length) := by
  have hmem := selectRow_mem hs
  have hid : s.id = c.request := (selectRow_prop hs).1
  have hj := h.journal s hmem
  rw [hid] at hj
  obtain ⟨hk, hread, hcursor⟩ := hc
  -- The cursor is the one before position `k`.
  have hpos : c.cursor + 1 = s.sequence + k ∨ (k = 0 ∧ c.cursor < s.sequence) := by
    obtain ⟨hzero, hcur⟩ | ⟨t, ht, htid, hcur⟩ := hcursor
    · exact .inr ⟨hzero, hcur ▸ h.positive s hmem⟩
    · obtain rfl : t = s := h.ids.eq ht hmem (htid.trans hid.symm)
      exact .inl hcur
  have hfilter : (db.eventsOf c.request).filter (fun e => c.cursor < e.cursor) =
      (db.eventsOf c.request).drop k := by
    rw [hj]
    exact filter_journal _ hpos
  have hcursors : (((db.eventsOf c.request).drop k).take manualLifecyclePageSize).map
      LifecycleEvent.cursor = List.range' (s.sequence + k)
        (min manualLifecyclePageSize ((db.eventsOf c.request).length - k)) := by
    have hall : (db.eventsOf c.request).map LifecycleEvent.cursor =
        List.range' s.sequence (db.eventsOf c.request).length := by
      rw [hj, journal_cursors, length_journal]
    rw [List.map_take, List.map_drop, hall, drop_range', take_range']
  have hpage : c.page host db =
      { c with cursor := ((((db.eventsOf c.request).drop k).take manualLifecyclePageSize).map
                 LifecycleEvent.cursor).getLastD c.cursor,
               read := c.read ++ (((db.eventsOf c.request).drop k).take
                 manualLifecyclePageSize).map LifecycleEvent.toEvent } := by
    have hs' : db.owned host c.identity c.request = some s := hs
    simp only [Client.page, manualLifecycleEvents, hs', if_neg (h.not_corrupt hb hmem), hfilter]
  rw [hpage]
  refine ⟨Nat.min_le_right _ _, ?_, ?_⟩
  · rw [hread, ← List.map_append, ← List.take_add, ← List.take_take, List.take_length]
  · rw [hcursors]
    cases hm : min manualLifecyclePageSize ((db.eventsOf c.request).length - k) with
    | zero =>
        have hk' : min (k + manualLifecyclePageSize) (db.eventsOf c.request).length = k := by
          simp only [manualLifecyclePageSize] at hm ⊢
          omega
        rw [hk']
        exact hcursor
    | succ m =>
        refine .inr ⟨s, hmem, hid, ?_⟩
        rw [getLastD_range']
        simp only [manualLifecyclePageSize] at hm ⊢
        omega

/-! ## Every state of every run -/

structure Inv (s : System) : Prop where
  journaled : Journaled s.db
  begun : Begun s.db
  read : ∃ k, s.client.Read s.db k

/-- A database whose journals only grow keeps what was read. -/
theorem Client.Read.grow {c : Client} {k : Nat} (h : c.Read db k) (hs : db.sources ⊆ db'.sources)
    (he : db.eventsOf c.request <+: db'.eventsOf c.request) : c.Read db' k := by
  obtain ⟨hk, hread, hcursor⟩ := h
  refine ⟨Nat.le_trans hk he.length_le, ?_, ?_⟩
  · obtain ⟨rest, hrest⟩ := he
    rw [hread, ← hrest, List.take_append_of_le_length hk]
  · obtain hzero | ⟨s, hmem, hid, hcur⟩ := hcursor
    · exact .inl hzero
    · exact .inr ⟨s, hs hmem, hid, hcur⟩

theorem Audited.grows (h : Audited a db db') (request : String) :
    db.eventsOf request <+: db'.eventsOf request := by
  obtain ⟨hevents, -⟩ | ⟨s, -, -, -, hevents⟩ := h.events
  · simp only [JournalDb.eventsOf, hevents, List.prefix_refl]
  · rw [eventsOf_append hevents]
    exact List.prefix_append _ _

theorem Inv.step {host : AddressHost} {s : System} (h : Inv s) (c : Call) :
    Inv (s.step host c) := by
  obtain ⟨k, hk⟩ := h.read
  cases c with
  | operation id =>
      have hj := h.journaled
      refine ⟨⟨hj.journal, hj.audits, hj.ids, hj.positive, fun x hx => ?_, fun a ha o ho => ?_,
        hj.sourced⟩, h.begun, k, hk⟩
      · exact List.mem_append_left _ (hj.known x hx)
      · exact List.mem_append_left _ (hj.audited a ha o ho)
  | record source lost =>
      refine Tx.stateAfter_cases (fun db => Inv { s with db := db }) h fun _ db' hok => ?_
      obtain ⟨hj, hb⟩ := h.journaled.record h.begun hok
      obtain ⟨t, -, -, -, ha⟩ := recordSource_ok hok
      refine ⟨hj, hb, k, hk.grow ?_ (ha.grows s.client.request)⟩
      show s.db.sources ⊆ db'.sources
      rw [ha.sources]
      exact List.subset_append_left _ _
  | audit row =>
      refine Tx.stateAfter_cases (fun db => Inv { s with db := db }) h fun _ db' hok => ?_
      have ha := insertAudit_ok hok
      refine ⟨h.journaled.audit ha, h.begun.audit ha, k, hk.grow ?_ (ha.grows s.client.request)⟩
      exact ha.sources ▸ List.Subset.refl _
  | page =>
      refine ⟨h.journaled, h.begun, ?_⟩
      cases howned : s.db.owned host s.client.identity s.client.request with
      | none =>
          refine ⟨k, ?_⟩
          simpa only [System.step, Client.page, manualLifecycleEvents, howned] using hk
      | some t => exact ⟨_, hk.page h.journaled h.begun howned⟩

theorem Inv.run (host : AddressHost) (identity : Identity) (request : String) (calls : List Call) :
    Inv (run host identity request calls) := by
  have hinit : Inv { client := { identity := identity, request := request } } :=
    ⟨.empty, by simp [Begun], 0, Nat.zero_le _, rfl, .inl ⟨rfl, rfl⟩⟩
  exact List.foldlRecOn calls _ hinit fun _ h c _ => h.step c

theorem Client.page_identity (host : AddressHost) (c : Client) (db : JournalDb) :
    (c.page host db).identity = c.identity ∧ (c.page host db).request = c.request := by
  unfold Client.page
  split <;> exact ⟨rfl, rfl⟩

theorem run_identity (host : AddressHost) (identity : Identity) (request : String)
    (calls : List Call) :
    (run host identity request calls).client.identity = identity ∧
      (run host identity request calls).client.request = request := by
  refine List.foldlRecOn (motive := fun s : System => s.client.identity = identity ∧
    s.client.request = request) calls _ ⟨rfl, rfl⟩ fun s hs c _ => ?_
  cases c with
  | operation id => exact hs
  | record source lost => exact hs
  | audit row => exact hs
  | page =>
      obtain ⟨hid, hreq⟩ := s.client.page_identity host s.db
      exact ⟨hid.trans hs.1, hreq.trans hs.2⟩

/-- Pages with nothing between them read a hundred events each. -/
theorem pages_read {host : AddressHost} {sys : System} (h : Inv sys)
    (hs : s ∈ sys.db.owned host sys.client.identity sys.client.request) (n : Nat) :
    ∃ c k, (List.replicate n Call.page).foldl (System.step host) sys = { sys with client := c } ∧
      c.identity = sys.client.identity ∧ c.request = sys.client.request ∧ c.Read sys.db k ∧
      min (n * manualLifecyclePageSize) (sys.db.eventsOf sys.client.request).length ≤ k := by
  induction n with
  | zero =>
      obtain ⟨k, hk⟩ := h.read
      exact ⟨sys.client, k, rfl, rfl, rfl, hk, by simp⟩
  | succ n ih =>
      obtain ⟨c, k, hfold, hid, hreq, hread, hk⟩ := ih
      obtain ⟨hid', hreq'⟩ := c.page_identity host sys.db
      rw [← hid, ← hreq] at hs
      have hpage := hread.page h.journaled h.begun hs
      refine ⟨c.page host sys.db, _, ?_, hid'.trans hid, hreq'.trans hreq, hpage, ?_⟩
      · rw [List.replicate_succ', List.foldl_append, hfold]
        rfl
      · rw [hreq]
        simp only [manualLifecyclePageSize] at hk ⊢
        omega

/-- In every state of every run: the cursors of a request count on from its intake, it has one event
for each of its audit rows, and no read reports corruption. What the client has read is a prefix of
the events of its request, and all of them after enough pages with nothing between them. -/
theorem lifecycle_pages_sound (host : AddressHost) (identity : Identity) (request : String)
    (calls : List Call) :
    let s := run host identity request calls
    (∀ src ∈ s.db.sources,
      (s.db.eventsOf src.id).map LifecycleEvent.cursor =
        List.range' src.sequence (s.db.eventsOf src.id).length ∧
      (s.db.eventsOf src.id).map LifecycleEvent.auditId = (s.db.auditsOf src).map Audit.id ∧
      (∃ rest, s.db.auditsOf src = src.intake :: rest)) ∧
    (s.db.audits.map Audit.id).Nodup ∧
    (∀ identity' request' after,
      manualLifecycleEvents host s.db identity' request' after ≠ .error .conflict) ∧
    s.client.read <+: (s.db.eventsOf request).map LifecycleEvent.toEvent ∧
    ∀ n, (s.db.owned host identity request).isSome →
      (s.db.eventsOf request).length ≤ n * manualLifecyclePageSize →
      (run host identity request (calls ++ List.replicate n .page)).client.read =
        (s.db.eventsOf request).map LifecycleEvent.toEvent := by
  intro s
  have h : Inv s := Inv.run host identity request calls
  obtain ⟨hident, hrequest⟩ : s.client.identity = identity ∧ s.client.request = request :=
    run_identity host identity request calls
  refine ⟨fun src hsrc => ⟨?_, ?_, h.begun src hsrc⟩, h.journaled.audits, ?_, ?_, ?_⟩
  · rw [h.journaled.journal src hsrc, journal_cursors, length_journal]
  · rw [h.journaled.journal src hsrc, journal_audits]
  · intro identity' request' after
    unfold manualLifecycleEvents
    cases howned : s.db.owned host identity' request' with
    | none => simp
    | some t =>
        simp only [if_neg (h.journaled.not_corrupt h.begun (selectRow_mem howned))]
        simp
  · obtain ⟨k, -, hread, -⟩ := h.read
    rw [hread, hrequest]
    exact (List.take_prefix _ _).map _
  · intro n howned hn
    obtain ⟨t, ht⟩ := Option.isSome_iff_exists.mp howned
    obtain ⟨c, k, hfold, -, hreq, ⟨hk, hread, -⟩, hmin⟩ :=
      pages_read h (s := t) (by rw [hident, hrequest]; exact ht) n
    have hclient : (run host identity request (calls ++ List.replicate n .page)).client = c := by
      unfold run
      rw [List.foldl_append]
      exact congrArg System.client hfold
    rw [hrequest] at hreq hmin
    rw [hreq] at hk
    rw [hclient, hread, hreq, List.take_of_length_le (by omega)]

end RbhTrade.Lifecycle
