import RbhTrade.Lib.Run
import RbhTrade.Store.ManualClock

/-!
# The clock log over whole runs

Any number of processes initialise, advance and latch the clocks of any environments, and signers
read them, on the store or in a read transaction with the snapshot it began with. The log of an
environment is a `Growth.Grown` log in every state of every run. So its generations count its
events, its high water never falls, nothing follows a latched event, and a read that succeeds is not
below any event of the database it reads.
-/

namespace RbhTrade

open Tables GoTime Growth

/-! ## Times -/

theorem compare_ne_lt_iff (x y : Int) : compare x y = .eq ∨ compare x y = .gt ↔ y ≤ x := by
  have hcmp : compare x y = if x < y then .lt else if x = y then .eq else .gt := rfl
  rw [hcmp]
  split
  · simp; omega
  split
  · simp; omega
  · simp; omega

theorem timeNotBefore_iff {a b : String} :
    TimeNotBefore a b ↔ ∃ x y, canonicalTime a = some x ∧ canonicalTime b = some y ∧ y ≤ x := by
  unfold TimeNotBefore timeCmp
  cases canonicalTime a with
  | none => simp
  | some x =>
      cases canonicalTime b with
      | none => simp
      | some y =>
          simp only [Option.some.injEq, exists_and_left, exists_eq_left']
          exact compare_ne_lt_iff x y

theorem timeNotBefore_refl {a : String} (h : (canonicalTime a).isSome) : TimeNotBefore a a := by
  obtain ⟨x, hx⟩ := Option.isSome_iff_exists.mp h
  exact timeNotBefore_iff.mpr ⟨x, x, hx, hx, Int.le_refl x⟩

theorem timeNotBefore_trans {a b c : String} (hab : TimeNotBefore a b) (hbc : TimeNotBefore b c) :
    TimeNotBefore a c := by
  obtain ⟨x, y, hx, hy, hle⟩ := timeNotBefore_iff.mp hab
  obtain ⟨y', z, hy', hz, hle'⟩ := timeNotBefore_iff.mp hbc
  obtain rfl : y = y' := Option.some.inj (hy.symm.trans hy')
  exact timeNotBefore_iff.mpr ⟨x, z, hx, hz, Int.le_trans hle' hle⟩

namespace Clocks

/-! ## Processes on one database -/

/-- An invocation of the signer: its trust, and the snapshot of the read transaction it is in. -/
structure Session where
  trust : PreSignTrust
  snapshot : Option Db := none

structure System where
  db : Db := {}
  sessions : List Session := []

/-- The database that a session reads. -/
def System.basis (s : System) (x : Session) : Db := x.snapshot.getD s.db

inductive Call where
  | bootstrap (environment : String) (maximumError : Int) (before inside : SampleAnswer)
  | latch (environment : String) (reason : ClockFault) (observed : String)
  | advance (environment : String) (sample : RuntimeSample)
  /-- Any INSERT into the log that a process may try. -/
  | insert (event : ManualClockEvent)
  /-- Any other statement. The triggers keep the log from UPDATE and DELETE. -/
  | other (write : Db → Db)
  | start (trust : PreSignTrust)
  | snapshot (session : Nat)
  | release (session : Nat)
  /-- A read, with the database at its stop check and what it finds outside. -/
  | read (session : Nat) (earlier : Db) (answer : TrustAnswer)

/-- The result of a read of a session. -/
def System.readOf (s : System) (x : Session) (earlier : Db) (answer : TrustAnswer) :
    Except ManualErr Instant × PreSignTrust :=
  x.trust.read earlier (s.basis x) answer

def System.setSession (s : System) (i : Nat) (f : Session → Session) : System :=
  { s with sessions := s.sessions.modify i f }

/-- The system after a call. -/
def System.step (host : ClockHost) (s : System) : Call → System
  | .bootstrap environment maximumError before inside =>
      { s with db := (initializeManualRuntimeClock host environment maximumError before
          inside).stateAfter s.db }
  | .latch environment reason observed =>
      { s with db := (latchManualRuntimeClock host environment reason observed).stateAfter s.db }
  | .advance environment sample =>
      { s with db := (advanceManualClock host environment sample).stateAfter s.db }
  | .insert event => { s with db := (insertManualClockEvent host event).stateAfter s.db }
  | .other write =>
      { s with db := { write s.db with manualClockEvents := s.db.manualClockEvents } }
  | .start trust => { s with sessions := s.sessions ++ [{ trust := trust }] }
  | .snapshot i => s.setSession i fun x => { x with snapshot := some s.db }
  | .release i => s.setSession i fun x => { x with snapshot := none }
  | .read i earlier answer =>
      s.setSession i fun x => { x with trust := (s.readOf x earlier answer).2 }

/-! ## What a writer writes -/

/-- The log keeps its events, or has one more that the triggers accept. -/
def Appends (host : ClockHost) (db db' : Db) : Prop :=
  db'.manualClockEvents = db.manualClockEvents ∨
    ∃ e, e.Canonical host ∧ db.ClockTransition e ∧
      db'.manualClockEvents = db.manualClockEvents ++ [e]

variable {host : ClockHost} {db db' : Db} {environment : String}

variable {e : ManualClockEvent}

theorem insertManualClockEvent_ok {u : Unit} (h : insertManualClockEvent host e db = .ok (u, db')) :
    Appends host db db' := by
  simp only [insertManualClockEvent, Tx.query_bind, Tx.require_bind_ok, Tx.exec_ok, id] at h
  obtain ⟨⟨hc, -⟩, ht, rfl⟩ := h
  exact .inr ⟨e, hc, ht, rfl⟩

theorem initializeManualRuntimeClock_ok {maximumError : Int} {before inside : SampleAnswer}
    {u : Unit}
    (h : initializeManualRuntimeClock host environment maximumError before inside db =
    .ok (u, db')) :
    Appends host db db' := by
  simp only [initializeManualRuntimeClock, Tx.require_bind_ok, Tx.ofExcept_bind_ok] at h
  obtain ⟨-, _, -, s, -, h⟩ := h
  exact insertManualClockEvent_ok h

theorem latchManualRuntimeClock_ok {reason : ClockFault} {observed : String} {u : Unit}
    (h : latchManualRuntimeClock host environment reason observed db = .ok (u, db')) :
    Appends host db db' := by
  simp only [latchManualRuntimeClock, Tx.query_bind, Tx.ofExcept_bind_ok] at h
  obtain ⟨v, -, h⟩ := h
  exact insertManualClockEvent_ok h

theorem advanceManualClock_ok {s : RuntimeSample} {u : Unit}
    (h : advanceManualClock host environment s db = .ok (u, db')) : Appends host db db' := by
  simp only [advanceManualClock, Tx.query_bind, Tx.ofExcept_bind_ok] at h
  obtain ⟨v, -, -, -, h⟩ := h
  exact insertManualClockEvent_ok h

theorem System.step_appends (host : ClockHost) (s : System) (c : Call) :
    Appends host s.db (s.step host c).db := by
  have hkeep : Appends host s.db s.db := .inl rfl
  cases c with
  | bootstrap environment maximumError before inside =>
      exact Tx.stateAfter_cases _ hkeep fun _ _ h => initializeManualRuntimeClock_ok h
  | latch environment reason observed =>
      exact Tx.stateAfter_cases _ hkeep fun _ _ h => latchManualRuntimeClock_ok h
  | advance environment sample =>
      exact Tx.stateAfter_cases _ hkeep fun _ _ h => advanceManualClock_ok h
  | insert event => exact Tx.stateAfter_cases _ hkeep fun _ _ h => insertManualClockEvent_ok h
  | other write => exact .inl rfl
  | start trust => exact hkeep
  | snapshot i => exact hkeep
  | release i => exact hkeep
  | read i earlier answer => exact hkeep

/-! ## The log of an environment -/

/-- Events in the order of their high water. -/
def Rises (x y : ManualClockEvent) : Prop := TimeNotBefore y.highWaterAt x.highWaterAt

theorem Rises.trans {x y z : ManualClockEvent} (hxy : Rises x y) (hyz : Rises y z) : Rises x z :=
  timeNotBefore_trans hyz hxy

/-- The log of every environment has grown event by event. -/
def LogsGrown (db : Db) : Prop :=
  ∀ environment, Grown ManualClockEvent.generation (fun e => e.faultLatched = true) Rises
    (db.clockEvents environment)

theorem mem_clockState (h : e ∈ db.clockState environment) :
    e ∈ db.clockEvents environment ∧
      ∀ x ∈ db.clockEvents environment, x.generation ≤ e.generation :=
  ⟨selectRow_mem h, (selectRow_prop h).2⟩

theorem clockEvents_append (h : db'.manualClockEvents = db.manualClockEvents ++ [e]) :
    db'.clockEvents environment =
      db.clockEvents environment ++ if e.environment = environment then [e] else [] := by
  simp only [Db.clockEvents, h, List.filter_append, List.filter_singleton, Bool.cond_decide]

theorem LogsGrown.append (h : LogsGrown db) (ha : Appends host db db') : LogsGrown db' := by
  intro environment
  obtain hsame | ⟨e, hc, ht, happ⟩ := ha
  · simpa only [Db.clockEvents, hsame] using h environment
  rw [clockEvents_append happ]
  by_cases henv : e.environment = environment
  · subst henv
    rw [if_pos rfl]
    obtain ⟨hgen, -, hnone⟩ | ⟨old, hold, hopen, -, hgen, hrise⟩ := ht
    · rw [hnone]
      exact .first hgen
    · obtain ⟨hmem, hmax⟩ := mem_clockState hold
      refine (h e.environment).snoc hmem hmax (by simp [hopen]) hgen ?_
      -- A latch repeats the high water of the event before it.
      obtain ⟨-, hle⟩ | ⟨-, heq⟩ := hrise
      · exact hle
      · show TimeNotBefore e.highWaterAt old.highWaterAt
        rw [← heq]
        exact timeNotBefore_refl hc.2.2.1
  · rw [if_neg henv, List.append_nil]
    exact h environment

/-- After a latched event the log of its environment stays as it is. -/
theorem clockEvents_of_latched (h : LogsGrown db) (he : e ∈ db.clockEvents environment)
    (hl : e.faultLatched = true) (ha : Appends host db db') :
    db'.clockEvents environment = db.clockEvents environment := by
  obtain hsame | ⟨x, -, ht, happ⟩ := ha
  · simp only [Db.clockEvents, hsame]
  rw [clockEvents_append happ]
  by_cases henv : x.environment = environment
  · subst henv
    exfalso
    obtain ⟨-, -, hnone⟩ | ⟨old, hold, hopen, -⟩ := ht
    · simp [hnone] at he
    · -- The state is the last event, and so is the latched one.
      obtain ⟨hmem, hmax⟩ := mem_clockState hold
      obtain ⟨l, hl₁⟩ := (h x.environment).last_of_max hmem hmax
      obtain ⟨l', hl₂⟩ := (h x.environment).last_of_max he ((h x.environment).latched_max he hl)
      obtain ⟨-, heq⟩ := List.append_inj' (hl₁.symm.trans hl₂) rfl
      obtain rfl : old = e := by simpa using heq
      rw [hl] at hopen
      cases hopen
  · rw [if_neg henv, List.append_nil]

/-! ## Reads -/

theorem readManualRuntimeClock_ok {v : ManualClockEvent}
    (h : readManualRuntimeClock db environment = .ok v) : v ∈ db.clockState environment := by
  unfold readManualRuntimeClock at h
  cases hs : db.clockState environment with
  | none => simp [hs] at h
  | some w =>
      simp only [hs] at h
      split at h
      · cases h
      split at h
      · cases h
      · cases h
        exact rfl

theorem checkManualClockFloor_ok {v : ManualClockEvent} {s : RuntimeSample}
    (h : checkManualClockFloor v s = .ok ()) : TimeNotBefore s.wall v.highWaterAt := by
  unfold checkManualClockFloor at h
  split at h
  · assumption
  · cases h

/-- A read that succeeds returns the time of a sample that is not below the state of the clock. -/
theorem read_ok {t : PreSignTrust} {earlier : Db} {x : TrustAnswer} {now : Instant}
    (h : (t.read earlier db x).1 = .ok now) :
    ∃ state ∈ db.clockState t.environment, ∃ wall, canonicalTime wall = some now ∧
      TimeNotBefore wall state.highWaterAt := by
  unfold PreSignTrust.read at h
  cases hb : x.before earlier with
  | error e => simp [hb] at h
  | ok u =>
      cases hr : t.clock.read x.sample with
      | mk answer clock =>
          cases answer with
          | error e => simp [hb, hr] at h
          | ok s =>
              simp only [hb, hr, PreSignTrust.settle] at h
              split at h
              · cases h
              cases hstate : readManualRuntimeClock db t.environment with
              | error e => simp [hstate] at h
              | ok state =>
                  cases hfloor : checkManualClockFloor state s with
                  | error e => simp [hstate, hfloor] at h
                  | ok u =>
                      cases hnow : canonicalTime s.wall with
                      | none => simp [hstate, hfloor, hnow] at h
                      | some t' =>
                          obtain rfl : t' = now := by simpa [hstate, hfloor, hnow] using h
                          exact ⟨state, readManualRuntimeClock_ok hstate, s.wall, hnow,
                            checkManualClockFloor_ok hfloor⟩

/-- A sample that is not below the state is not below any event of the log. -/
theorem LogsGrown.floor (h : LogsGrown db) {state : ManualClockEvent}
    (hs : state ∈ db.clockState environment) (he : e ∈ db.clockEvents environment) {wall : String}
    (hw : TimeNotBefore wall state.highWaterAt) : TimeNotBefore wall e.highWaterAt := by
  obtain ⟨hmem, hmax⟩ := mem_clockState hs
  obtain ⟨l, hl⟩ := (h environment).last_of_max hmem hmax
  have hrising := (h environment).rising fun _ _ _ => Rises.trans
  rw [hl] at hrising he
  obtain he | he := List.mem_append.mp he
  · have hle : Rises e state :=
      (List.pairwise_append.mp hrising).2.2 e he state (List.mem_singleton_self state)
    exact timeNotBefore_trans hw hle
  · cases List.mem_singleton.mp he
    exact hw

/-! ## Runs -/

/-- The logs of the database and of every snapshot have grown. -/
structure Inv (s : System) : Prop where
  db : LogsGrown s.db
  snapshots : ∀ x ∈ s.sessions, ∀ d ∈ x.snapshot, LogsGrown d

theorem Inv.basis {s : System} (h : Inv s) {x : Session} (hx : x ∈ s.sessions) :
    LogsGrown (s.basis x) := by
  unfold System.basis
  cases hd : x.snapshot with
  | none => exact h.db
  | some d => exact h.snapshots x hx d hd

/-- A session that changes only by a snapshot of the database, or by none. -/
theorem Inv.setSession {s : System} (h : Inv s) (i : Nat) {f : Session → Session}
    (hf : ∀ x, ∀ d ∈ (f x).snapshot, d = s.db ∨ d ∈ x.snapshot) : Inv (s.setSession i f) := by
  refine ⟨h.db, fun x hx d hd => ?_⟩
  obtain ⟨j, hj⟩ := List.mem_iff_getElem?.mp hx
  simp only [System.setSession, List.getElem?_modify, Option.map_eq_map, Option.map_eq_some_iff]
    at hj
  obtain ⟨y, hy, rfl⟩ := hj
  have hy := List.mem_of_getElem? hy
  split at hd
  · obtain rfl | hd := hf y d hd
    · exact h.db
    · exact h.snapshots y hy d hd
  · exact h.snapshots y hy d hd

theorem Inv.step {s : System} (h : Inv s) (c : Call) : Inv (s.step host c) := by
  have hdb : LogsGrown (s.step host c).db := h.db.append (s.step_appends host c)
  cases c with
  | bootstrap environment maximumError before inside => exact ⟨hdb, h.snapshots⟩
  | latch environment reason observed => exact ⟨hdb, h.snapshots⟩
  | advance environment sample => exact ⟨hdb, h.snapshots⟩
  | insert event => exact ⟨hdb, h.snapshots⟩
  | other write => exact ⟨hdb, h.snapshots⟩
  | start trust =>
      refine ⟨hdb, fun x hx d hd => ?_⟩
      obtain hx | hx := List.mem_append.mp hx
      · exact h.snapshots x hx d hd
      · cases List.mem_singleton.mp hx
        cases hd
  | snapshot i => exact h.setSession i fun x d hd => .inl (Option.some.inj hd).symm
  | release i => exact h.setSession i fun x d hd => nomatch hd
  | read i earlier answer => exact h.setSession i fun x d hd => .inr hd

/-- The states of a run from a database without clock events. -/
def run (host : ClockHost) (db : Db) (calls : List Call) : System :=
  calls.foldl (System.step host) { db := { db with manualClockEvents := [] } }

theorem Inv.run (host : ClockHost) (db : Db) (calls : List Call) : Inv (run host db calls) := by
  have hinit : Inv { db := { db with manualClockEvents := [] } } :=
    ⟨fun _ => .nil, fun x hx => by simp at hx⟩
  exact List.foldlRecOn calls _ hinit fun _ h c _ => h.step c

theorem run_append (host : ClockHost) (db : Db) (calls later : List Call) :
    run host db (calls ++ later) = later.foldl (System.step host) (run host db calls) :=
  List.foldl_append

theorem latched_stays {s : System} (h : Inv s) (he : e ∈ s.db.clockEvents environment)
    (hl : e.faultLatched = true) (later : List Call) :
    (later.foldl (System.step host) s).db.clockEvents environment =
    s.db.clockEvents environment := by
  induction later generalizing s with
  | nil => rfl
  | cons c later ih =>
      have hsame := clockEvents_of_latched h.db he hl (s.step_appends host c)
      rw [List.foldl_cons, ih (h.step c) (hsame ▸ he), hsame]

/-- In every state of every run the generations of an environment count its events, its high water
never falls, and its log ends at a latched event. A read that succeeds is at or after the high water
of every event that was committed when the transaction of the read took its snapshot, or before the
read where it is made on the store. -/
theorem clock_logs_sound (host : ClockHost) (db : Db) (calls later : List Call)
    (environment : String) :
    let s := run host db calls
    let log := s.db.clockEvents environment
    log.map ManualClockEvent.generation = List.range' 1 log.length ∧
      log.Pairwise (fun x y => TimeNotBefore y.highWaterAt x.highWaterAt) ∧
      (∀ e ∈ log, e.faultLatched = true →
        (run host db (calls ++ later)).db.clockEvents environment = log) ∧
      ∀ x ∈ s.sessions, ∀ earlier answer now, (s.readOf x earlier answer).1 = .ok now →
        ∀ e ∈ (s.basis x).clockEvents x.trust.environment,
          ∃ floor, canonicalTime e.highWaterAt = some floor ∧ floor ≤ now := by
  intro s log
  have hinv : Inv s := Inv.run host db calls
  have hgrown := hinv.db environment
  refine ⟨hgrown.generations, hgrown.rising fun _ _ _ => Rises.trans, fun e he hl => ?_,
    fun x hx earlier answer now hread e he => ?_⟩
  · rw [run_append]
    exact latched_stays hinv he hl later
  · obtain ⟨state, hstate, wall, hwall, hfloor⟩ := read_ok hread
    have hbelow := (hinv.basis hx).floor hstate he hfloor
    obtain ⟨t, floor, ht, hf, hle⟩ := timeNotBefore_iff.mp hbelow
    obtain rfl : t = now := Option.some.inj (ht.symm.trans hwall)
    exact ⟨floor, hf, hle⟩

/-! ## A read in an old snapshot -/

def sampleHost : ClockHost where
  clockID environment generation := "manual-clock:" ++ environment ++ ":" ++ toString generation

def sampleDb : Db where
  control := some ⟨.controlledCanary, 1, false, "2026-01-01T00:00:00Z"⟩

def sampleAt (wall : String) : RuntimeSample := ⟨wall, 0, 0, "provider", "session"⟩

def sampleTrust : PreSignTrust := ⟨"test", "provider", { maximumError := 0 }⟩

/-- Another process advances the clock after the snapshot. -/
def advancedAfterSnapshot : List Call :=
  [.bootstrap "test" 0 (.sample (sampleAt "2026-01-01T00:00:00Z") false)
      (.sample (sampleAt "2026-01-01T00:00:01Z") false),
    .start sampleTrust, .snapshot 0, .advance "test" (sampleAt "2026-01-01T00:00:09Z")]

/-- The read of the snapshot succeeds five seconds below an event that was committed before it. -/
theorem read_below_committed_event :
    ∃ x ∈ (run sampleHost sampleDb advancedAfterSnapshot).sessions, ∃ now floor,
      ((run sampleHost sampleDb advancedAfterSnapshot).readOf x sampleDb
        { sample := .sample (sampleAt "2026-01-01T00:00:04Z") false }).1 = .ok now ∧
      (∃ e ∈ (run sampleHost sampleDb advancedAfterSnapshot).db.clockEvents x.trust.environment,
        canonicalTime e.highWaterAt = some floor) ∧ now < floor := by
  refine ⟨{ trust := sampleTrust, snapshot := some (run sampleHost sampleDb
    (advancedAfterSnapshot.take 1)).db }, ?_, 1767225604000000000, 1767225609000000000, ?_, ?_, ?_⟩
  · exact List.mem_of_getElem? (i := 0) rfl
  all_goals decide +kernel

end Clocks

end RbhTrade
