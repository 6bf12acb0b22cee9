import RbhTrade.Lib.TimeText
import RbhTrade.Store.Controls

/-!
# Acquiring and renewing worker leases

A lease is the row of its role and environment. `acquireCanaryWorkerLease` is one upsert whose
`WHERE` clause compares the stored expiry with the caller's time as texts.
`acquireNextCanaryWorkerLease` and `renewCanaryWorkerLease` parse the stored expiry and then write
only if the row is still the one they read.
-/

namespace RbhTrade

open Tables GoTime

/-- The largest value of an `INTEGER` column. -/
def maxInteger : Nat := 2 ^ 63 - 1

/-- The primary key of `canary_worker_leases`. -/
def WorkerLease.Keyed (l : WorkerLease) (role : LeaseRole) (environment : String) : Prop :=
  l.role = role ∧ l.environment = environment
deriving Decidable

/-- The lease row of a role and environment. -/
def Db.leaseOf (db : Db) (role : LeaseRole) (environment : String) : Option WorkerLease :=
  selectRow (·.Keyed role environment) db.leases

/-- The lease has not expired. -/
def WorkerLease.LiveAt (l : WorkerLease) (now : Instant) : Prop :=
  ∃ e, parseRFC3339Nano l.expiresAt = some e ∧ now < e

/-- `INSERT … ON CONFLICT(role,environment) DO UPDATE SET … WHERE mayReplace`, refused when it
changes no row. -/
def upsertLeaseTx (row : WorkerLease) (mayReplace : WorkerLease → Prop)
    [DecidablePred mayReplace] : Tx Err Db Unit := do
  match ← Tx.query fun db => db.leaseOf row.role row.environment with
  | none => Tx.exec fun db => { db with leases := db.leases ++ [row] }
  | some stored => do
      Tx.require (mayReplace stored) .canaryRuntimeRejected
      Tx.exec fun db => { db with
        leases := updateWhere (·.Keyed row.role row.environment) (fun _ => row) db.leases }

/-- `AcquireCanaryWorkerLease`. The driver refuses an epoch that does not fit a signed integer. -/
def acquireCanaryWorkerLease (role : LeaseRole) (environment holder : String) (epoch : Nat)
    (expires now : Instant) : Tx Err Db Unit := do
  Tx.require (environment ≠ "" ∧ holder ≠ "" ∧ epoch ≠ 0 ∧ now ≠ zeroInstant ∧ now < expires)
    .canaryRuntimeRejected
  Tx.require (epoch ≤ maxInteger) .sql
  upsertLeaseTx
    { role := role, environment := environment, holderId := holder, leaseEpoch := epoch,
      expiresAt := formatRFC3339Nano expires, updatedAt := formatRFC3339Nano now }
    fun stored => stored.expiresAt ≤ formatRFC3339Nano now ∧ stored.leaseEpoch < epoch

/-- The epoch that `AcquireNextCanaryWorkerLease` allocates after reading the prior row. -/
def nextLeaseEpoch (now : Instant) : Option WorkerLease → Tx Err Db Nat
  | none => pure 1
  | some prior => do
      let expiry ← Tx.expect (parseRFC3339Nano prior.expiresAt) .canaryRuntimeRejected
      Tx.require (¬ now < expiry ∧ prior.leaseEpoch < maxInteger) .canaryRuntimeRejected
      return prior.leaseEpoch + 1

/-- The row is still the one that was read. -/
def WorkerLease.Unchanged (prior : Option WorkerLease) (stored : WorkerLease) : Prop :=
  ∃ p, prior = some p ∧ stored.leaseEpoch = p.leaseEpoch ∧ stored.expiresAt = p.expiresAt ∧
    stored.holderId = p.holderId

instance (prior : Option WorkerLease) (stored : WorkerLease) :
    Decidable (WorkerLease.Unchanged prior stored) :=
  match prior with
  | none => isFalse fun h => by obtain ⟨_, hp, _⟩ := h; cases hp
  | some p => decidable_of_iff (stored.leaseEpoch = p.leaseEpoch ∧
      stored.expiresAt = p.expiresAt ∧ stored.holderId = p.holderId)
      ⟨fun h => ⟨p, rfl, h⟩, fun h => by obtain ⟨_, hp, h⟩ := h; cases hp; exact h⟩

/-- `AcquireNextCanaryWorkerLease`. -/
def acquireNextCanaryWorkerLease (role : LeaseRole) (environment holder : String) (ttl : Int)
    (now : Instant) : Tx Err Db Nat := do
  Tx.require (environment ≠ "" ∧ holder ≠ "" ∧ 0 < ttl ∧ now ≠ zeroInstant) .canaryRuntimeRejected
  let prior ← Tx.query fun db => db.leaseOf role environment
  let epoch ← nextLeaseEpoch now prior
  upsertLeaseTx
    { role := role, environment := environment, holderId := holder, leaseEpoch := epoch,
      expiresAt := formatRFC3339Nano (now + ttl), updatedAt := formatRFC3339Nano now }
    fun stored => stored.Unchanged prior ∧ stored.leaseEpoch < epoch
  return epoch

/-- `RenewCanaryWorkerLease`. -/
def renewCanaryWorkerLease (role : LeaseRole) (lease : LeaseFence) (ttl : Int) (now : Instant) :
    Tx Err Db Unit := do
  Tx.require (lease.Complete ∧ 0 < ttl ∧ now ≠ zeroInstant) .canaryRuntimeRejected
  let row ← Tx.query fun db => selectRow (·.Matches role lease) db.leases
  let row ← Tx.expect row .recoveryLeaseLost
  let expiry ← Tx.expect (parseRFC3339Nano row.expiresAt) .recoveryLeaseLost
  Tx.require (now < expiry) .recoveryLeaseLost
  let changed ← Tx.query fun db =>
    affected (fun l => l.Matches role lease ∧ l.expiresAt = row.expiresAt) db.leases
  Tx.exec fun db => { db with
    leases := updateWhere (fun l => l.Matches role lease ∧ l.expiresAt = row.expiresAt)
      (fun l => { l with
        expiresAt := formatRFC3339Nano (now + ttl), updatedAt := formatRFC3339Nano now })
      db.leases }
  Tx.require (changed = 1) .recoveryLeaseLost

/-! ## What the writes do to the table -/

/-- The table after an upsert of the row. -/
def putLease (row : WorkerLease) (t : List WorkerLease) : List WorkerLease :=
  if ∃ l ∈ t, l.Keyed row.role row.environment then
    updateWhere (·.Keyed row.role row.environment) (fun _ => row) t
  else t ++ [row]

/-- A row as the three functions write it: of a named environment, with an expiry that some instant
of a four-digit year was written as. -/
def WorkerLease.WellWritten (l : WorkerLease) : Prop :=
  l.environment ≠ "" ∧ ∃ e, FourDigitYear e ∧ l.expiresAt = formatRFC3339Nano e

/-- The table as the three functions keep it. -/
structure LeasesOk (t : List WorkerLease) : Prop where
  keys : NoConflict (fun x y : WorkerLease => x.Keyed y.role y.environment) t
  written : ∀ l ∈ t, l.WellWritten

section

variable {db db' : Db} {t : List WorkerLease} {row l : WorkerLease}

theorem LeasesOk.eq (h : LeasesOk t) {x y : WorkerLease} (hx : x ∈ t) (hy : y ∈ t)
    (he : x.Keyed y.role y.environment) : x = y :=
  h.keys.eq (fun _ _ hk => ⟨hk.1.symm, hk.2.symm⟩) hx hy he

theorem mem_putLease :
    l ∈ putLease row t ↔ l = row ∨ (l ∈ t ∧ ¬ l.Keyed row.role row.environment) := by
  unfold putLease
  split
  · rename_i hex
    obtain ⟨k, hk, hkey⟩ := hex
    constructor
    · intro hl
      obtain hold | ⟨-, -, -, rfl⟩ := mem_updateWhere_cases hl
      · exact .inr hold
      · exact .inl rfl
    · rintro (rfl | ⟨hl, hno⟩)
      · exact mem_updateWhere_of_pos hk hkey
      · exact mem_updateWhere_of_not hl hno
  · rename_i hno
    simp only [List.mem_append, List.mem_singleton]
    constructor
    · rintro (hl | rfl)
      · exact .inr ⟨hl, fun hkey => hno ⟨l, hl, hkey⟩⟩
      · exact .inl rfl
    · rintro (rfl | ⟨hl, -⟩)
      · exact .inr rfl
      · exact .inl hl

theorem LeasesOk.put (h : LeasesOk t) (hrow : row.WellWritten) : LeasesOk (putLease row t) := by
  refine ⟨?_, fun l hl => ?_⟩
  · unfold putLease
    split
    · refine h.keys.updateWhere fun x y hxy => ?_
      split at hxy <;> split at hxy <;> simp_all [WorkerLease.Keyed]
    · rename_i hno
      exact h.keys.append fun x hx hkey => hno ⟨x, hx, hkey⟩
  · obtain rfl | ⟨hold, -⟩ := mem_putLease.mp hl
    · exact hrow
    · exact h.written l hold

theorem leaseOf_eq_some (h : LeasesOk db.leases) (hl : l ∈ db.leases) :
    db.leaseOf l.role l.environment = some l := by
  cases hsel : db.leaseOf l.role l.environment with
  | none => exact absurd ⟨rfl, rfl⟩ (selectRow_eq_none.mp hsel l hl)
  | some x =>
      have hkey := selectRow_prop hsel
      rw [h.eq (selectRow_mem hsel) hl hkey]

/-- A committed upsert replaced the row of its key, which it was allowed to, or inserted it. -/
theorem upsertLeaseTx_ok {mayReplace : WorkerLease → Prop} [DecidablePred mayReplace] {u : Unit}
    (hok : LeasesOk db.leases) (h : upsertLeaseTx row mayReplace db = .ok (u, db')) :
    (∀ x ∈ db.leases, x.Keyed row.role row.environment → mayReplace x) ∧
      db'.leases = putLease row db.leases := by
  unfold upsertLeaseTx at h
  rw [Tx.query_bind] at h
  cases hsel : db.leaseOf row.role row.environment with
  | none =>
      simp only [hsel, Tx.exec_ok] at h
      have hno : ∀ x ∈ db.leases, ¬ x.Keyed row.role row.environment := selectRow_eq_none.mp hsel
      refine ⟨fun x hx hkey => absurd hkey (hno x hx), ?_⟩
      rw [← h, putLease, if_neg fun hex => by
        obtain ⟨x, hx, hkey⟩ := hex
        exact hno x hx hkey]
  | some stored =>
      simp only [hsel, Tx.require_bind_ok, Tx.exec_ok] at h
      obtain ⟨hmay, rfl⟩ := h
      have hstored := selectRow_mem hsel
      have hkey := selectRow_prop hsel
      refine ⟨fun x hx hxkey => ?_, ?_⟩
      · rwa [hok.eq hx hstored ⟨hxkey.1.trans hkey.1.symm, hxkey.2.trans hkey.2.symm⟩]
      · rw [putLease, if_pos ⟨stored, hstored, hkey⟩]

/-- An upsert that may replace the stored row commits. -/
theorem upsertLeaseTx_commits {mayReplace : WorkerLease → Prop} [DecidablePred mayReplace]
    (hmay : ∀ x ∈ db.leases, x.Keyed row.role row.environment → mayReplace x) :
    ∃ db', upsertLeaseTx row mayReplace db = .ok ((), db') := by
  unfold upsertLeaseTx
  rw [Tx.query_bind]
  cases hsel : db.leaseOf row.role row.environment with
  | none => exact ⟨_, rfl⟩
  | some stored =>
      simp only [Tx.require_bind_ok, Tx.exec_ok]
      have hkey := selectRow_prop hsel
      exact ⟨_, hmay stored (selectRow_mem hsel) hkey, rfl⟩

variable {holder : String} {now : Instant}

theorem acquireCanaryWorkerLease_ok {role : LeaseRole} {environment : String} {epoch : Nat}
    {expires : Instant} {u : Unit} (hok : LeasesOk db.leases)
    (h : acquireCanaryWorkerLease role environment holder epoch expires now db = .ok (u, db')) :
    environment ≠ "" ∧ (∀ x ∈ db.leases, x.Keyed role environment →
      x.expiresAt ≤ formatRFC3339Nano now ∧ x.leaseEpoch < epoch) ∧
    db'.leases = putLease
      { role := role, environment := environment, holderId := holder, leaseEpoch := epoch,
        expiresAt := formatRFC3339Nano expires, updatedAt := formatRFC3339Nano now }
      db.leases := by
  unfold acquireCanaryWorkerLease at h
  rw [Tx.require_bind_ok, Tx.require_bind_ok] at h
  exact ⟨h.1.1, upsertLeaseTx_ok hok h.2.2⟩

/-- The epoch after a prior row is one larger, and that row has expired. -/
theorem nextLeaseEpoch_ok {prior : WorkerLease} {epoch : Nat}
    (h : nextLeaseEpoch now (some prior) db = .ok (epoch, db')) :
    db' = db ∧ epoch = prior.leaseEpoch + 1 ∧
      ∃ e, parseRFC3339Nano prior.expiresAt = some e ∧ e ≤ now := by
  simp only [nextLeaseEpoch, Tx.expect_bind_ok, Tx.require_bind_ok, Tx.pure_ok] at h
  obtain ⟨e, he, ⟨hexpired, -⟩, rfl, rfl⟩ := h
  exact ⟨rfl, rfl, e, he, not_lt.mp hexpired⟩

theorem acquireNextCanaryWorkerLease_ok {role : LeaseRole} {environment : String} {ttl : Int}
    {epoch : Nat} (hok : LeasesOk db.leases)
    (h : acquireNextCanaryWorkerLease role environment holder ttl now db = .ok (epoch, db')) :
    environment ≠ "" ∧ (∀ x ∈ db.leases, x.Keyed role environment →
      x.leaseEpoch < epoch ∧ ∃ e, parseRFC3339Nano x.expiresAt = some e ∧ e ≤ now) ∧
    db'.leases = putLease
      { role := role, environment := environment, holderId := holder, leaseEpoch := epoch,
        expiresAt := formatRFC3339Nano (now + ttl), updatedAt := formatRFC3339Nano now }
      db.leases := by
  unfold acquireNextCanaryWorkerLease at h
  rw [Tx.require_bind_ok, Tx.query_bind] at h
  obtain ⟨hargs, h⟩ := h
  refine ⟨hargs.1, ?_⟩
  obtain ⟨epoch', db₁, hnext, h⟩ := Tx.bind_ok.mp h
  obtain ⟨_, db₂, hput, h⟩ := Tx.bind_ok.mp h
  obtain ⟨rfl, rfl⟩ := Tx.pure_ok.mp h
  cases hsel : db.leaseOf role environment with
  | none =>
      rw [hsel] at hnext
      obtain ⟨rfl, rfl⟩ := Tx.pure_ok.mp hnext
      have hno : ∀ x ∈ db.leases, ¬ x.Keyed role environment := selectRow_eq_none.mp hsel
      exact ⟨fun x hx hkey => absurd hkey (hno x hx), (upsertLeaseTx_ok hok hput).2⟩
  | some prior =>
      rw [hsel] at hnext
      obtain ⟨rfl, rfl, hexpired⟩ := nextLeaseEpoch_ok hnext
      refine ⟨fun x hx hkey => ?_, (upsertLeaseTx_ok hok hput).2⟩
      have hprior := selectRow_prop hsel
      obtain rfl := hok.eq hx (selectRow_mem hsel)
        ⟨hkey.1.trans hprior.1.symm, hkey.2.trans hprior.2.symm⟩
      exact ⟨Nat.lt_succ_self _, hexpired⟩

/-- A committed renewal found its own row, not yet expired, and moved the expiry of that row. -/
theorem renewCanaryWorkerLease_ok {role : LeaseRole} {lease : LeaseFence} {ttl : Int} {u : Unit}
    (h : renewCanaryWorkerLease role lease ttl now db = .ok (u, db')) :
    ∃ x ∈ db.leases, x.Matches role lease ∧ x.LiveAt now ∧
      db'.leases = updateWhere (fun y => y.Matches role lease ∧ y.expiresAt = x.expiresAt)
        (fun y => { y with
          expiresAt := formatRFC3339Nano (now + ttl), updatedAt := formatRFC3339Nano now })
        db.leases := by
  simp only [renewCanaryWorkerLease, Tx.require_bind_ok, Tx.query_bind, Tx.expect_bind_ok,
    Tx.exec_bind, Tx.require_ok] at h
  obtain ⟨-, x, hx, e, he, hlive, -, rfl⟩ := h
  have hmatch := selectRow_prop hx
  exact ⟨x, selectRow_mem hx, hmatch, ⟨e, he, hlive⟩, rfl⟩

/-! ## Taking an expired lease -/

theorem acquireNextCanaryWorkerLease_commits {ttl : Int} {e : Instant} (hok : LeasesOk db.leases)
    (hl : l ∈ db.leases) (hholder : holder ≠ "") (httl : 0 < ttl) (hnow : now ≠ zeroInstant)
    (he : parseRFC3339Nano l.expiresAt = some e) (hexpired : e ≤ now)
    (hepoch : l.leaseEpoch < maxInteger) :
    ∃ db', acquireNextCanaryWorkerLease l.role l.environment holder ttl now db =
      .ok (l.leaseEpoch + 1, db') := by
  have hnext : nextLeaseEpoch now (some l) db = .ok (l.leaseEpoch + 1, db) := by
    rw [nextLeaseEpoch, Tx.expect_bind_ok]
    exact ⟨e, he, Tx.require_bind_ok.mpr ⟨⟨not_lt.mpr hexpired, hepoch⟩, rfl⟩⟩
  obtain ⟨db', hput⟩ : ∃ db', upsertLeaseTx
      { role := l.role, environment := l.environment, holderId := holder,
        leaseEpoch := l.leaseEpoch + 1, expiresAt := formatRFC3339Nano (now + ttl),
        updatedAt := formatRFC3339Nano now }
      (fun x => x.Unchanged (some l) ∧ x.leaseEpoch < l.leaseEpoch + 1) db = .ok ((), db') := by
    refine upsertLeaseTx_commits fun x hx hkey => ?_
    obtain rfl := hok.eq hx hl hkey
    exact ⟨⟨x, rfl, rfl, rfl, rfl⟩, Nat.lt_succ_self _⟩
  refine ⟨db', ?_⟩
  unfold acquireNextCanaryWorkerLease
  rw [Tx.require_bind_ok, Tx.query_bind, leaseOf_eq_some hok hl]
  refine ⟨⟨(hok.written l hl).1, hholder, httl, hnow⟩, Tx.bind_ok.mpr ⟨_, _, hnext, ?_⟩⟩
  exact Tx.bind_ok.mpr ⟨_, _, hput, rfl⟩

theorem acquireCanaryWorkerLease_commits {epoch : Nat} {expires : Instant}
    (hok : LeasesOk db.leases) (hl : l ∈ db.leases) (hholder : holder ≠ "")
    (hnow : now ≠ zeroInstant) (hexpires : now < expires)
    (htext : l.expiresAt ≤ formatRFC3339Nano now) (hepoch : l.leaseEpoch < epoch)
    (hmax : epoch ≤ maxInteger) :
    ∃ db', acquireCanaryWorkerLease l.role l.environment holder epoch expires now db =
      .ok ((), db') := by
  obtain ⟨db', hput⟩ : ∃ db', upsertLeaseTx
      { role := l.role, environment := l.environment, holderId := holder, leaseEpoch := epoch,
        expiresAt := formatRFC3339Nano expires, updatedAt := formatRFC3339Nano now }
      (fun x => x.expiresAt ≤ formatRFC3339Nano now ∧ x.leaseEpoch < epoch) db =
        .ok ((), db') := by
    refine upsertLeaseTx_commits fun x hx hkey => ?_
    obtain rfl := hok.eq hx hl hkey
    exact ⟨htext, hepoch⟩
  refine ⟨db', ?_⟩
  unfold acquireCanaryWorkerLease
  rw [Tx.require_bind_ok, Tx.require_bind_ok]
  exact ⟨⟨(hok.written l hl).1, hholder, by omega, hnow, hexpires⟩, hmax, hput⟩

end

end RbhTrade
