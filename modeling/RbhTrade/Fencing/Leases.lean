import RbhTrade.Lib.Run
import RbhTrade.Store.Leases

/-!
# Ownership of a lease over time

Runs of the three functions that write `canary_worker_leases`, by any callers with any clocks. Two
of them order expiries as instants. `acquireCanaryWorkerLease` orders them as texts, and a text
sorts after the text of every later instant that it truncates (`format_lt_iff`): a lease that
expires within the caller's own second can be taken while it is live, and one that expired on the
whole second is refused for the rest of it.

`Ordered` excludes the first case. Along runs that meet it the laws of `LeaseLaws` hold at every
call.
-/

namespace RbhTrade.Fencing

open Tables GoTime

/-! ## Calls -/

/-- A call of one of the three functions. -/
inductive LeaseCall where
  | acquire (role : LeaseRole) (environment holder : String) (epoch : Nat) (expires now : Instant)
  | acquireNext (role : LeaseRole) (environment holder : String) (ttl : Int) (now : Instant)
  | renew (role : LeaseRole) (lease : LeaseFence) (ttl : Int) (now : Instant)

namespace LeaseCall

/-- The transaction of a call; the allocated epoch is returned to the caller only. -/
def tx : LeaseCall → Tx Err Db Unit
  | acquire role environment holder epoch expires now =>
      acquireCanaryWorkerLease role environment holder epoch expires now
  | acquireNext role environment holder ttl now => do
      let _ ← acquireNextCanaryWorkerLease role environment holder ttl now
  | renew role lease ttl now => renewCanaryWorkerLease role lease ttl now

/-- The caller's clock. -/
def now : LeaseCall → Instant
  | acquire _ _ _ _ _ now | acquireNext _ _ _ _ now | renew _ _ _ now => now

/-- The call takes a lease instead of renewing one. -/
def Acquires : LeaseCall → Prop
  | acquire .. | acquireNext .. => True
  | renew .. => False

/-- The times that the call stores have four-digit years, and an `AcquireCanaryWorkerLease` is not
called with a time that truncates the stored expiry of the lease it asks for. -/
def Ordered (db : Db) : LeaseCall → Prop
  | acquire role environment _ _ expires now =>
      FourDigitYear now ∧ FourDigitYear expires ∧ ∀ l ∈ db.leases, l.Keyed role environment →
        ∀ e ∈ parseRFC3339Nano l.expiresAt, ¬ Truncates now e
  | acquireNext _ _ _ ttl now | renew _ _ ttl now => FourDigitYear (now + ttl)

instance (db : Db) : DecidablePred (Ordered db)
  | acquire .. => inferInstanceAs (Decidable (_ ∧ _ ∧ ∀ l ∈ db.leases, _))
  | acquireNext .. | renew .. => inferInstanceAs (Decidable (FourDigitYear _))

end LeaseCall

/-- The database after a call; a refused call changes nothing. -/
def leaseStep (db : Db) (c : LeaseCall) : Db := c.tx.stateAfter db

/-! ## What a committed call does -/

/-- A committed acquisition put a row with a larger epoch in the place of the row it displaced. -/
structure Taken (db db' : Db) (row : WorkerLease) : Prop where
  larger : ∀ l ∈ db.leases, l.Keyed row.role row.environment → l.leaseEpoch < row.leaseEpoch
  leases : db'.leases = putLease row db.leases

/-- A committed renewal found its own live row and changed no identity column of any row. -/
structure Renewed (db db' : Db) (role : LeaseRole) (lease : LeaseFence) (now : Instant) : Prop where
  live : ∃ l ∈ db.leases, l.Matches role lease ∧ l.LiveAt now
  rows : ∀ l' ∈ db'.leases, ∃ l ∈ db.leases, l'.role = l.role ∧ l'.environment = l.environment ∧
    l'.holderId = l.holderId ∧ l'.leaseEpoch = l.leaseEpoch

variable {db db' : Db} {c : LeaseCall} {u : Unit}

theorem tx_acquires (hok : LeasesOk db.leases) (hacq : c.Acquires)
    (h : c.tx db = .ok (u, db')) : ∃ row, Taken db db' row := by
  cases c with
  | acquire role environment holder epoch expires now =>
      obtain ⟨-, hold, hput⟩ := acquireCanaryWorkerLease_ok hok h
      exact ⟨_, fun l hl hkey => (hold l hl hkey).2, hput⟩
  | acquireNext role environment holder ttl now =>
      obtain ⟨epoch, db₁, hnext, h⟩ := Tx.bind_ok.mp h
      obtain ⟨-, rfl⟩ := Tx.pure_ok.mp h
      obtain ⟨-, hold, hput⟩ := acquireNextCanaryWorkerLease_ok hok hnext
      exact ⟨_, fun l hl hkey => (hold l hl hkey).1, hput⟩
  | renew role lease ttl now => cases hacq

theorem renew_ok {role : LeaseRole} {lease : LeaseFence} {ttl : Int} {now : Instant}
    (h : renewCanaryWorkerLease role lease ttl now db = .ok (u, db')) :
    Renewed db db' role lease now := by
  obtain ⟨x, hx, hmatch, hlive, hleases⟩ := renewCanaryWorkerLease_ok h
  refine ⟨⟨x, hx, hmatch, hlive⟩, fun l' hl' => ?_⟩
  rw [hleases] at hl'
  obtain ⟨hl, -⟩ | ⟨l, hl, -, rfl⟩ := mem_updateWhere_cases hl'
  · exact ⟨l', hl, rfl, rfl, rfl, rfl⟩
  · exact ⟨l, hl, rfl, rfl, rfl, rfl⟩

/-- Ordered calls keep the table in shape. -/
theorem leasesOk_step (hok : LeasesOk db.leases) (hord : c.Ordered db) :
    LeasesOk (leaseStep db c).leases := by
  refine Tx.stateAfter_cases (fun db' : Db => LeasesOk db'.leases) hok fun u db' h => ?_
  cases c with
  | acquire role environment holder epoch expires now =>
      obtain ⟨henv, -, hput⟩ := acquireCanaryWorkerLease_ok hok h
      rw [hput]
      exact hok.put ⟨henv, expires, hord.2.1, rfl⟩
  | acquireNext role environment holder ttl now =>
      obtain ⟨epoch, db₁, hnext, h⟩ := Tx.bind_ok.mp h
      obtain ⟨-, rfl⟩ := Tx.pure_ok.mp h
      obtain ⟨henv, -, hput⟩ := acquireNextCanaryWorkerLease_ok hok hnext
      rw [hput]
      exact hok.put ⟨henv, now + ttl, hord, rfl⟩
  | renew role lease ttl now =>
      obtain ⟨x, -, -, -, hleases⟩ := renewCanaryWorkerLease_ok h
      rw [hleases]
      refine ⟨hok.keys.updateWhere fun a b hab => ?_, fun l hl => ?_⟩
      · simpa only [WorkerLease.Keyed, apply_ite WorkerLease.role,
          apply_ite WorkerLease.environment, ite_self] using hab
      · obtain ⟨hold, -⟩ | ⟨k, hk, -, rfl⟩ := mem_updateWhere_cases hl
        · exact hok.written l hold
        · exact ⟨(hok.written k hk).1, now + ttl, hord, rfl⟩

/-! ## The laws -/

/-- A change of holder comes with a larger epoch. -/
theorem epoch_increases (hok : LeasesOk db.leases) {l l' : WorkerLease} (hl : l ∈ db.leases)
    (hl' : l' ∈ (leaseStep db c).leases) (hkey : l'.Keyed l.role l.environment)
    (hholder : l'.holderId ≠ l.holderId) : l.leaseEpoch < l'.leaseEpoch := by
  revert hl'
  refine Tx.stateAfter_cases (fun db' : Db => l' ∈ db'.leases → l.leaseEpoch < l'.leaseEpoch)
    (fun hl' => ?_) fun u db' h hl' => ?_
  · exact absurd (congrArg _ (hok.eq hl' hl hkey)) hholder
  · by_cases hacq : c.Acquires
    · obtain ⟨row, htaken⟩ := tx_acquires hok hacq h
      rw [htaken.leases] at hl'
      obtain rfl | ⟨hold, -⟩ := mem_putLease.mp hl'
      · exact htaken.larger l hl ⟨hkey.1.symm, hkey.2.symm⟩
      · exact absurd (congrArg _ (hok.eq hold hl hkey)) hholder
    · cases c with
      | acquire => exact absurd trivial hacq
      | acquireNext => exact absurd trivial hacq
      | renew role lease ttl now =>
          obtain ⟨k, hk, hrole, henv, hkholder, -⟩ := (renew_ok h).rows l' hl'
          obtain rfl := hok.eq hk hl ⟨hrole.symm.trans hkey.1, henv.symm.trans hkey.2⟩
          exact absurd hkholder hholder

/-- An ordered acquisition leaves a live lease in place. -/
theorem live_lease_stays (hok : LeasesOk db.leases) (hord : c.Ordered db) (hacq : c.Acquires)
    {l : WorkerLease} (hl : l ∈ db.leases) (hlive : l.LiveAt c.now) :
    l ∈ (leaseStep db c).leases := by
  obtain ⟨e, he, hlt⟩ := hlive
  refine Tx.stateAfter_cases (fun db' : Db => l ∈ db'.leases) hl fun u db' h => ?_
  cases c with
  | acquire role environment holder epoch expires now =>
      obtain ⟨-, hold, hput⟩ := acquireCanaryWorkerLease_ok hok h
      rw [hput, mem_putLease]
      refine .inr ⟨hl, fun hkey => (hold l hl hkey).1 ?_⟩
      -- the stored text is that of `e`, and texts of ordered times sort like the times
      obtain ⟨-, e', he', htext⟩ := hok.written l hl
      rw [htext, parse_format he'] at he
      cases he
      rw [htext]
      refine format_lt_of_lt hord.1 he' hlt (hord.2.2 l hl hkey e ?_)
      rw [htext, parse_format he']
      rfl
  | acquireNext role environment holder ttl now =>
      obtain ⟨epoch, db₁, hnext, h⟩ := Tx.bind_ok.mp h
      obtain ⟨-, rfl⟩ := Tx.pure_ok.mp h
      obtain ⟨-, hold, hput⟩ := acquireNextCanaryWorkerLease_ok hok hnext
      rw [hput, mem_putLease]
      refine .inr ⟨hl, fun hkey => ?_⟩
      obtain ⟨-, e', he', hle⟩ := hold l hl hkey
      rw [he] at he'
      cases he'
      exact absurd hlt (not_lt.mpr hle)
  | renew role lease ttl now => cases hacq

/-- An expired lease can be taken: by `acquireNextCanaryWorkerLease` at any time, and by
`acquireCanaryWorkerLease` with any larger epoch at a time that the expiry does not truncate. -/
def Takeable (db : Db) (l : WorkerLease) : Prop :=
  ∃ e, parseRFC3339Nano l.expiresAt = some e ∧
    ∀ holder now, holder ≠ "" → now ≠ zeroInstant → e ≤ now →
      (∀ ttl, 0 < ttl → l.leaseEpoch < maxInteger →
        ∃ db', acquireNextCanaryWorkerLease l.role l.environment holder ttl now db =
          .ok (l.leaseEpoch + 1, db')) ∧
      ∀ epoch expires, FourDigitYear now → ¬ Truncates e now → now < expires →
        l.leaseEpoch < epoch → epoch ≤ maxInteger →
        ∃ db', acquireCanaryWorkerLease l.role l.environment holder epoch expires now db =
          .ok ((), db')

theorem takeable_of_mem (hok : LeasesOk db.leases) {l : WorkerLease} (hl : l ∈ db.leases) :
    Takeable db l := by
  obtain ⟨-, e, he, htext⟩ := hok.written l hl
  have hparse : parseRFC3339Nano l.expiresAt = some e := by rw [htext, parse_format he]
  refine ⟨e, hparse, fun holder now hholder hnow hexpired => ⟨fun ttl httl hmax => ?_, ?_⟩⟩
  · exact acquireNextCanaryWorkerLease_commits hok hl hholder httl hnow hparse hexpired hmax
  · intro epoch expires hyear hno hexpires hepoch hmax
    refine acquireCanaryWorkerLease_commits hok hl hholder hnow hexpires ?_ hepoch hmax
    rw [htext]
    intro hlt
    obtain ⟨hback, -⟩ | htr := (format_lt_iff hyear he).mp hlt
    · exact absurd hback (not_lt.mpr hexpired)
    · exact hno htr

/-- What a call may do in a state. -/
structure LeaseLaws (db : Db) (c : LeaseCall) : Prop where
  /-- A change of holder comes with a larger epoch. -/
  epoch : ∀ l ∈ db.leases, ∀ l' ∈ (leaseStep db c).leases, l'.Keyed l.role l.environment →
    l'.holderId ≠ l.holderId → l.leaseEpoch < l'.leaseEpoch
  /-- A live lease is not displaced. -/
  undisplaced : c.Acquires → ∀ l ∈ db.leases, l.LiveAt c.now → l ∈ (leaseStep db c).leases
  /-- A renewal that succeeds is one of the live holder. -/
  renewal : ∀ role lease ttl now db', renewCanaryWorkerLease role lease ttl now db = .ok ((), db') →
    ∃ l ∈ db.leases, l.Matches role lease ∧ l.LiveAt now
  /-- An expired lease can be taken. -/
  takeover : ∀ l ∈ db.leases, Takeable db l

theorem lease_laws_hold (start : Db) (hstart : LeasesOk start.leases) (calls : List LeaseCall)
    (hrun : Run.Along leaseStep LeaseCall.Ordered start calls) (n : Nat) (c : LeaseCall)
    (hc : calls[n]? = some c) : LeaseLaws ((calls.take n).foldl leaseStep start) c := by
  have hok : LeasesOk ((calls.take n).foldl leaseStep start).leases :=
    hrun.always hstart (fun db c hok hord => leasesOk_step hok hord) n
  have hord := hrun.get hc
  exact
    { epoch := fun l hl l' hl' hkey hholder => epoch_increases hok hl hl' hkey hholder
      undisplaced := fun hacq l hl hlive => live_lease_stays hok hord hacq hl hlive
      renewal := fun role lease ttl now db' h => (renew_ok h).live
      takeover := fun l hl => takeable_of_mem hok hl }

/-! ### A second shared by the expiry and the call -/

/-- 2026-09-27T00:00:00Z. -/
def midnight : Instant := 1790467200000000000

/-- A lease of a second and a half, taken one second before midnight. -/
def halfPast : LeaseCall :=
  .acquire .submission "prod" "first" 1 (midnight + 500000000) (midnight - 1000000000)

theorem lease_laws_hold_before_expiry :
    LeaseLaws (leaseStep {} halfPast) (.acquire .submission "prod" "second" 2
      (midnight + 60000000000) (midnight + 1000000000)) :=
  lease_laws_hold {} ⟨.nil, fun l hl => by cases hl⟩
    [halfPast, .acquire .submission "prod" "second" 2 (midnight + 60000000000)
      (midnight + 1000000000)]
    (by decide +kernel) 1 _ rfl

/-- At midnight the lease has half a second left. Its expiry is written `00:00:00.5Z`, which sorts
before `00:00:00Z`, and the second caller displaces the first. -/
theorem live_lease_displaced :
    let db := leaseStep {} halfPast
    let call := LeaseCall.acquire .submission "prod" "second" 2 (midnight + 60000000000) midnight
    (∃ l ∈ db.leases, l.LiveAt midnight) ∧ call.Acquires ∧
      ∀ l ∈ (leaseStep db call).leases, l.holderId = "second" := by
  refine ⟨⟨_, List.mem_singleton.mpr rfl, midnight + 500000000, ?_, ?_⟩, trivial, ?_⟩
  · decide +kernel
  · decide
  · decide +kernel

end RbhTrade.Fencing
