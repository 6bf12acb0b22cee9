import RbhTrade.Controlled.Broadcasts
import RbhTrade.Settlement.Expiries
import RbhTrade.Settlement.Outcomes

/-!
# What a recovery may write again

`RecoverControlledInflight` closes the sends that a crash left in flight, and then writes the
executions of every send that carries one of its two classes, now or from an earlier run. Run again
at once it changes only stamps. An operation without such a send is left alone, and so is a step
without an attempt unless a first send of its operation was not begun.

A class is never removed, so after a settlement or a reorganisation the next run writes the
execution back to what the crash had left. The release of a first send writes every step of its
operation, the dry run included. And a step that is written back to `broadcast_unknown` may break
the index on the steps, with which the whole recovery fails.
-/

namespace RbhTrade

open Tables GoTime

/-! ## Stamps -/

/-- The database without the stamps of the tables that a recovery writes. -/
def Db.unstamped (db : Db) : Db :=
  { db with
    leases := db.leases.map fun l => { l with updatedAt := "" },
    lanes := db.lanes.map fun l => { l with updatedAt := "" },
    reservations := db.reservations.map fun r => { r with updatedAt := "" },
    riskReservations := db.riskReservations.map fun r => { r with updatedAt := "" },
    attempts := db.attempts.map fun t => { t with updatedAt := "" },
    steps := db.steps.map fun s => { s with updatedAt := "" },
    operations := db.operations.map fun o => { o with updatedAt := "" } }

theorem Db.unstamped_congr {x y : Db}
    (hrest : x = { y with
      leases := x.leases, lanes := x.lanes, reservations := x.reservations,
      riskReservations := x.riskReservations, attempts := x.attempts, steps := x.steps,
      operations := x.operations })
    (hleases : x.unstamped.leases = y.unstamped.leases)
    (hlanes : x.unstamped.lanes = y.unstamped.lanes)
    (hreservations : x.unstamped.reservations = y.unstamped.reservations)
    (hrisk : x.unstamped.riskReservations = y.unstamped.riskReservations)
    (hattempts : x.unstamped.attempts = y.unstamped.attempts)
    (hsteps : x.unstamped.steps = y.unstamped.steps)
    (hoperations : x.unstamped.operations = y.unstamped.operations) :
    x.unstamped = y.unstamped := by
  have hx : x.unstamped = { y.unstamped with
      leases := x.unstamped.leases, lanes := x.unstamped.lanes,
      reservations := x.unstamped.reservations, riskReservations := x.unstamped.riskReservations,
      attempts := x.unstamped.attempts, steps := x.unstamped.steps,
      operations := x.unstamped.operations } := by
    rw [hrest]
    rfl
  rw [hx, hleases, hlanes, hreservations, hrisk, hattempts, hsteps, hoperations]

/-- Two updates made again, each row by itself. -/
theorem map_updateWhere_again {ρ κ : Type} {erase : ρ → κ} {t : List ρ} {p q : ρ → Prop}
    [DecidablePred p] [DecidablePred q] {f f' g g' : ρ → ρ}
    (h : ∀ x ∈ t,
      erase ((fun y => if q y then g' y else y) ((fun y => if p y then f' y else y)
        ((fun y => if q y then g y else y) (if p x then f x else x)))) =
      erase ((fun y => if q y then g y else y) (if p x then f x else x))) :
    (updateWhere q g' (updateWhere p f' (updateWhere q g (updateWhere p f t)))).map erase =
      (updateWhere q g (updateWhere p f t)).map erase := by
  simp only [updateWhere, List.map_map]
  exact List.map_congr_left h

section Rows

variable {c d e : Db} {stamp stamp' : String}

/-- The writes keep the index if the steps that end as `broadcast_unknown` were unresolved. -/
theorem SettledRows.unresolvedOnce (h : SettledRows c stamp d e) (hindex : UnresolvedOnce d.steps)
    (hstep : ∀ s ∈ d.steps, c.StepRecoveredUnknown s.id → s.status.Unresolved) :
    UnresolvedOnce e.steps := by
  have hs := h.steps
  simp only [Db.settleRecovered, Db.freezeUnknown, Db.releaseFirst, updateWhere, List.map_map] at hs
  rw [hs]
  refine hindex.map fun s hs => ?_
  by_cases hu : c.StepRecoveredUnknown s.id <;>
    by_cases hf : c.OwnsSubmission Submission.FirstKnownUnsent s.operationId
  · simpa [hu, hf] using fun _ => hstep s hs hu
  · simpa [hu, hf] using fun _ => hstep s hs hu
  · simpa [hu, hf] using fun hc => absurd hc (show ¬ StepStatus.Unresolved .knownUnsent by decide)
  · simp [hu, hf]

/-- The same writes again, at another time, change only stamps. -/
theorem SettledRows.again {e' : Db} (h : SettledRows c stamp d e) (h' : SettledRows c stamp' e e')
    (hrest : e' = { e with
      lanes := e'.lanes, reservations := e'.reservations, riskReservations := e'.riskReservations,
      attempts := e'.attempts, steps := e'.steps, operations := e'.operations }) :
    e'.unstamped = e.unstamped := by
  obtain ⟨hl, hr, hk, ha, hs, ho⟩ := h
  obtain ⟨hl', hr', hk', ha', hs', ho'⟩ := h'
  simp only [Db.settleRecovered, Db.freezeUnknown, Db.releaseFirst] at hl hr hk ha hs ho
  simp only [Db.settleRecovered, Db.freezeUnknown, Db.releaseFirst] at hl' hr' hk' ha' hs' ho'
  refine Db.unstamped_congr ?_ ?_ ?_ ?_ ?_ ?_ ?_ ?_
  · rw [hrest]
  · rw [hrest]
    rfl
  · simp only [Db.unstamped]
    rw [hl', hl]
    refine map_updateWhere_again fun l _ => ?_
    cases hop : l.operationId with
    | none => simp [WalletLane.OwnerIn, hop]
    | some o =>
        by_cases hf : c.OwnsSubmission Submission.FirstKnownUnsent o
        · simp [WalletLane.OwnerIn, WalletLane.clear, hop, hf]
        · by_cases hu : c.OwnsSubmission Submission.RecoveredUnknown o <;>
            simp [WalletLane.OwnerIn, WalletLane.freeze, hop, hf, hu]
  · simp only [Db.unstamped]
    rw [hr', hr]
    refine map_updateWhere_again fun r _ => ?_
    by_cases hf : c.OwnsSubmission Submission.FirstKnownUnsent r.operationId <;>
      by_cases hu : c.OwnsSubmission Submission.RecoveredUnknown r.operationId <;> simp [hf, hu]
  · simp only [Db.unstamped]
    rw [hk', hk]
    refine map_updateWhere_again fun r _ => ?_
    by_cases hf : c.OwnsSubmission Submission.FirstKnownUnsent r.operationId <;>
      by_cases hu : c.OwnsSubmission Submission.RecoveredUnknown r.operationId <;>
      cases hs : r.state <;> simp [RiskState.Active, hf, hu, hs]
  · simp only [Db.unstamped]
    rw [ha', ha, updateWhere, List.map_map, updateWhere, List.map_map, List.map_map]
    refine List.map_congr_left fun t _ => ?_
    by_cases hu : c.AttemptKnownUnsent t.id <;> simp [hu]
  · simp only [Db.unstamped]
    rw [hs', hs]
    refine map_updateWhere_again fun s _ => ?_
    by_cases hf : c.OwnsSubmission Submission.FirstKnownUnsent s.operationId <;>
      by_cases hu : c.StepRecoveredUnknown s.id <;> simp [hf, hu]
  · simp only [Db.unstamped]
    rw [ho', ho, updateWhere, List.map_map, updateWhere, List.map_map, List.map_map]
    refine List.map_congr_left fun o _ => ?_
    by_cases hf : c.OwnsSubmission Submission.FirstKnownUnsent o.id <;> simp [hf]

theorem Db.settleRecovered_again (leases : List WorkerLease) (he : e = d.settleRecovered d stamp) :
    (Db.settleRecovered { e with leases := leases } { e with leases := leases } stamp').unstamped =
      ({ e with leases := leases } : Db).unstamped := by
  -- The classes are read from tables that the writes leave alone.
  have hsends : d.SameSends e := he ▸ d.settleRecovered_sends d stamp
  have hcopy : d.SameSends { e with leases := leases } :=
    ⟨hsends.submissions, hsends.permits, hsends.gateSnapshots,
      hsends.sources.trans ⟨⟨rfl, rfl⟩, rfl, rfl, rfl, rfl, rfl⟩⟩
  have hrows : SettledRows d stamp d { e with leases := leases } := by
    subst he
    exact ⟨rfl, rfl, rfl, rfl, rfl, rfl⟩
  rw [hcopy.settleRecovered]
  exact hrows.again ⟨rfl, rfl, rfl, rfl, rfl, rfl⟩ rfl

end Rows

/-! ## Committed recoveries -/

section Commits

variable {lease lease' : LeaseFence} {clock now clock' now' : Instant} {db db' : Db} {u : Unit}

theorem assertSubmissionLeaseTx_stamps (h : assertSubmissionLeaseTx lease clock db = .ok (u, db')) :
    ∃ leases, db' = { db with leases := leases } ∧
      (leases.map fun l => { l with updatedAt := "" }) =
        db.leases.map fun l => { l with updatedAt := "" } := by
  simp only [assertSubmissionLeaseTx, Tx.require_bind_ok, Tx.exec_bind, Tx.query_bind,
    Tx.expect_bind_ok, Tx.require_ok] at h
  obtain ⟨-, _, -, _, -, -, rfl⟩ := h
  exact ⟨_, rfl, map_updateWhere _ fun _ _ => rfl⟩

/-- A recovery stamps its lease, classifies the rows and makes its writes. -/
theorem recoverControlledInflight_settles
    (h : recoverControlledInflight lease clock now db = .ok (u, db')) :
    ∃ leases c, (leases.map fun l => { l with updatedAt := "" }) =
        (db.leases.map fun l => { l with updatedAt := "" }) ∧
      c = Db.classified { db with leases := leases } lease.environment (formatRFC3339Nano now) ∧
      db' = c.settleRecovered c (formatRFC3339Nano now) := by
  obtain ⟨_, c, hlease, hc, hdb, -, -⟩ := recoverControlledInflight_iff.mp h
  obtain ⟨leases, rfl, hstamps⟩ := assertSubmissionLeaseTx_stamps hlease
  exact ⟨leases, c, hstamps, hc, hdb⟩

/-- After a committed recovery, and whoever holds the lease by then, one that finds no row to
classify changes only stamps. -/
theorem recoverControlledInflight_again
    (h : recoverControlledInflight lease clock now db = .ok (u, db')) (leases : List WorkerLease)
    (hnone : ∀ s ∈ db'.submissions,
      recoverSubmission db' lease'.environment (formatRFC3339Nano now') s = s) :
    ((recoverControlledInflight lease' clock' now').stateAfter
    { db' with leases := leases }).unstamped =
      ({ db' with leases := leases } : Db).unstamped := by
  obtain ⟨_, _, -, -, hdb⟩ := recoverControlledInflight_settles h
  refine Tx.stateAfter_cases (fun x : Db => x.unstamped =
    ({ db' with leases := leases } : Db).unstamped)
    rfl fun _ db'' h' => ?_
  obtain ⟨leases', _, hstamps, rfl, hdb'⟩ := recoverControlledInflight_settles h'
  have hsame : Db.classified { db' with leases := leases' } lease'.environment
    (formatRFC3339Nano now') =
      { db' with leases := leases' } := by
    have hmap : db'.submissions.map (recoverSubmission { db' with leases := leases' }
        lease'.environment (formatRFC3339Nano now')) = db'.submissions :=
      (List.map_congr_left hnone).trans (List.map_id _)
    rw [Db.classified, hmap]
  rw [hdb', hsame, Db.settleRecovered_again leases' hdb]
  exact Db.unstamped_congr rfl hstamps rfl rfl rfl rfl rfl rfl

/-! ## What is left alone -/

/-- A send of the step's attempt is doubtful. -/
def Db.StepDoubtful (db : Db) (step : String) : Prop :=
  ∃ t ∈ db.attempts, t.stepId = step ∧ ∃ s ∈ db.submissions, s.attemptId = t.id ∧ s.Doubtful
deriving Decidable

/-- The attempt is one of the operation. -/
def TransactionAttempt.BelongsTo (db : Db) (operation : String) (t : TransactionAttempt) : Prop :=
  ∃ s ∈ db.steps, s.id = t.stepId ∧ s.operationId = operation
deriving Decidable

/-- The rows of an operation are the same. -/
structure Db.SameFor (operation : String) (db db' : Db) : Prop where
  lanes : db'.lanes.filter (·.operationId = some operation) =
    db.lanes.filter (·.operationId = some operation)
  reservations : db'.reservations.filter (·.operationId = operation) =
    db.reservations.filter (·.operationId = operation)
  riskReservations : db'.riskReservations.filter (·.operationId = operation) =
    db.riskReservations.filter (·.operationId = operation)
  attempts : db'.attempts.filter (·.BelongsTo db operation) = db.attempts.filter
    (·.BelongsTo db operation)
  steps : db'.steps.filter (·.operationId = operation) = db.steps.filter (·.operationId = operation)
  operations : db'.operations.filter (·.id = operation) = db.operations.filter (·.id = operation)

variable {operation : String}

/-- The classes that a recovery gives were there, or the rows were in flight. -/
theorem classified_owns {environment stamp : String} {q q' : Submission → Prop} [DecidablePred q]
    [DecidablePred q'] (hq : ∀ s, q' (recoverSubmission db environment stamp s) → q s)
    (h : (db.classified environment stamp).OwnsSubmission q' operation) :
    db.OwnsSubmission q operation := by
  obtain ⟨s, hs, t, ht, r', hr', hstep, hattempt, hq', hlegacy, hop⟩ := h
  obtain ⟨r, hr, rfl⟩ := List.mem_map.mp hr'
  have hid := recoverSubmission_identity db environment stamp r
  simp only [Submission.identity, Prod.mk.injEq] at hid
  exact ⟨s, hs, t, ht, r, hr, hstep, hid.2.1.symm.trans hattempt, hq r hq', hlegacy, hop⟩

theorem SettledRows.sameFor {c : Db} {stamp : String} (h : SettledRows c stamp db db')
    (hfirst : ¬ c.OwnsSubmission Submission.FirstKnownUnsent operation)
    (hunknown : ¬ c.OwnsSubmission Submission.RecoveredUnknown operation)
    (hattempt : ∀ t ∈ db.attempts, c.AttemptKnownUnsent t.id → ¬ t.BelongsTo db operation)
    (hstep : ∀ s ∈ db.steps, c.StepRecoveredUnknown s.id → s.operationId ≠ operation) :
    db.SameFor operation db' := by
  have hne : ∀ {q : String → Prop} {x : String}, ¬ q operation → q x → x ≠ operation :=
    fun hno hx he => hno (he ▸ hx)
  obtain ⟨hl, hr, hk, ha, hs, ho⟩ := h
  simp only [Db.settleRecovered, Db.freezeUnknown, Db.releaseFirst] at hl hr hk ha hs ho
  refine ⟨?_, ?_, ?_, ?_, ?_, ?_⟩
  · rw [hl, filter_updateWhere, filter_updateWhere]
    · rintro l - ⟨o, ho, hf⟩
      exact ⟨fun hl => hne hfirst hf (Option.some.inj (ho.symm.trans hl)),
        (Option.some_ne_none operation).symm⟩
    · rintro l - ⟨o, ho, hu⟩
      have hl : l.operationId ≠ some operation :=
        fun hl => hne hunknown hu (Option.some.inj (ho.symm.trans hl))
      exact ⟨hl, hl⟩
  · rw [hr, filter_updateWhere, filter_updateWhere]
    · exact fun r _ hr => ⟨hne hfirst hr, hne hfirst hr⟩
    · exact fun r _ hr => ⟨hne hunknown hr, hne hunknown hr⟩
  · rw [hk, filter_updateWhere, filter_updateWhere]
    · exact fun r _ hr => ⟨hne hfirst hr.1, hne hfirst hr.1⟩
    · exact fun r _ hr => ⟨hne hunknown hr.1, hne hunknown hr.1⟩
  · rw [ha, filter_updateWhere]
    exact fun t ht ha => ⟨hattempt t ht ha, hattempt t ht ha⟩
  · rw [hs, filter_updateWhere, filter_updateWhere]
    · exact fun s _ hs => ⟨hne hfirst hs, hne hfirst hs⟩
    · intro s hs hu
      have hop : s.operationId ≠ operation := by
        obtain ⟨hs, -⟩ | ⟨x, hx, -, rfl⟩ := mem_updateWhere_cases hs
        · exact hstep s hs hu
        · exact hstep x hx hu
      exact ⟨hop, hop⟩
  · rw [ho, filter_updateWhere]
    exact fun o _ ho => ⟨hne hfirst ho, hne hfirst ho⟩

/-- A step that is marked belongs to an operation with an ambiguous send. -/
theorem Db.StepRecoveredUnknown.owns {s : ExecutionStep} (h : db.StepRecoveredUnknown s.id)
    (hsteps : KeyUnique ExecutionStep.id db.steps)
    (hattempts : KeyUnique TransactionAttempt.id db.attempts) (hs : s ∈ db.steps) :
    db.OwnsSubmission Submission.RecoveredUnknown s.operationId := by
  obtain ⟨t, ht, r, hr, hatt, hq, ⟨t', ht', s', hs', hst, hid, hl⟩, hstep⟩ := h
  obtain rfl := hattempts.eq ht' ht hid
  obtain rfl := hsteps.eq hs' hs (hst.trans hstep)
  exact ⟨s', hs', t', ht', r, hr, hst.symm, hatt, hq, hl, rfl⟩

theorem Db.AttemptKnownUnsent.owns {t : TransactionAttempt} (h : db.AttemptKnownUnsent t.id)
    (hsteps : KeyUnique ExecutionStep.id db.steps)
    (hattempts : KeyUnique TransactionAttempt.id db.attempts) (ht : t ∈ db.attempts)
    (hof : t.BelongsTo db operation) :
    db.OwnsSubmission Submission.FirstKnownUnsent operation := by
  obtain ⟨⟨r, hr, hq, hatt⟩, t', ht', s', hs', hst, hid, hl⟩ := h
  obtain rfl := hattempts.eq ht' ht hid
  obtain ⟨s, hs, hsid, hop⟩ := hof
  obtain rfl := hsteps.eq hs' hs (hst.trans hsid.symm)
  exact ⟨s', hs', t', ht', r, hr, hst.symm, hatt, hq, hl, hop⟩

/-- The rows after a recovery, by the classes of the classified database. -/
theorem recoverControlledInflight_rows {d : Db}
    (hd : d = db.classified lease.environment (formatRFC3339Nano now))
    (h : recoverControlledInflight lease clock now db = .ok (u, db')) :
    SettledRows d (formatRFC3339Nano now) db db' := by
  obtain ⟨leases, c, -, rfl, hdb⟩ := recoverControlledInflight_settles h
  have hsends : d.SameSends (Db.classified { db with leases := leases } lease.environment
      (formatRFC3339Nano now)) := hd ▸ ⟨rfl, rfl, rfl, ⟨rfl, rfl⟩, rfl, rfl, rfl, rfl, rfl⟩
  rw [hsends.settleRecovered] at hdb
  subst hdb
  exact ⟨rfl, rfl, rfl, rfl, rfl, rfl⟩

/-- An operation without a send that the recovery classes, or has classed, is left alone. -/
theorem recoverControlledInflight_sameFor (hsteps : KeyUnique ExecutionStep.id db.steps)
    (hattempts : KeyUnique TransactionAttempt.id db.attempts)
    (hdoubt : ¬ db.OwnsSubmission Submission.Doubtful operation)
    (hbegun : ¬ db.OwnsSubmission Submission.NotBegun operation) :
    db.SameFor operation ((recoverControlledInflight lease clock now).stateAfter db) := by
  refine Tx.stateAfter_cases (db.SameFor operation) ⟨rfl, rfl, rfl, rfl, rfl, rfl⟩ fun _ db' h => ?_
  have hrows := recoverControlledInflight_rows rfl h
  refine hrows.sameFor (fun hf => ?_) (fun hu => ?_) (fun t ht ha hof => ?_) fun s hs hu he => ?_
  · exact hbegun (classified_owns (fun _ => notBegun_of_recovered) hf)
  · exact hdoubt (classified_owns (fun _ => doubtful_of_recovered) hu)
  · exact hbegun (classified_owns (fun _ => notBegun_of_recovered)
      (ha.owns hsteps hattempts ht hof))
  · exact hdoubt (classified_owns (fun _ => doubtful_of_recovered)
      (he ▸ hu.owns hsteps hattempts hs))

/-- A step without an attempt is left alone unless a first send of its operation was not begun. -/
theorem recoverControlledInflight_keeps_step {s : ExecutionStep} (hs : s ∈ db.steps)
    (halone : ∀ t ∈ db.attempts, t.stepId ≠ s.id)
    (hbegun : ¬ db.OwnsSubmission Submission.NotBegun s.operationId) :
    s ∈ ((recoverControlledInflight lease clock now).stateAfter db).steps := by
  refine Tx.stateAfter_cases (fun x : Db => s ∈ x.steps) hs fun _ db' h => ?_
  have hrows := recoverControlledInflight_rows rfl h
  rw [hrows.steps]
  refine mem_updateWhere_of_not (mem_updateWhere_of_not hs fun hf => ?_) fun hu => ?_
  · exact hbegun (classified_owns (fun _ => notBegun_of_recovered) hf)
  · obtain ⟨t, ht, _, _, _, _, _, hstep⟩ := hu
    exact halone t ht hstep

theorem stepDoubtful_of_recovered {environment stamp step : String}
    (h : (db.classified environment stamp).StepRecoveredUnknown step) : db.StepDoubtful step := by
  obtain ⟨t, ht, r', hr', hatt, hq, -, hstep⟩ := h
  obtain ⟨r, hr, rfl⟩ := List.mem_map.mp hr'
  have hid := recoverSubmission_identity db environment stamp r
  simp only [Submission.identity, Prod.mk.injEq] at hid
  exact ⟨t, ht, hstep, r, hr, hid.2.1.symm.trans hatt, doubtful_of_recovered hq⟩

/-- Past its fence a recovery commits if the steps of doubtful sends are unresolved. -/
theorem recoverControlledInflight_commits (hindex : UnresolvedOnce db.steps)
    (hdoubt : ∀ s ∈ db.steps, db.StepDoubtful s.id → s.status.Unresolved)
    (hlease : assertSubmissionLeaseTx lease clock db = .ok ((), db')) :
    ∃ db'', recoverControlledInflight lease clock now db = .ok ((), db'') := by
  obtain ⟨leases, rfl, -⟩ := assertSubmissionLeaseTx_stamps hlease
  refine ⟨_, recoverControlledInflight_iff.mpr ⟨_, _, hlease, rfl, rfl, ?_, ?_⟩⟩
  · exact hindex.resolve fun s => ⟨rfl, show ¬ StepStatus.Unresolved .knownUnsent by decide⟩
  · refine SettledRows.unresolvedOnce ⟨rfl, rfl, rfl, rfl, rfl, rfl⟩ hindex fun s hs hu =>
      hdoubt s hs ?_
    exact stepDoubtful_of_recovered hu

end Commits

namespace Settlement

/-- In any database that keeps its keys: after a committed recovery another one that finds no row to
classify changes only stamps, an operation without a send that a recovery classes, or has classed,
is left alone, so is a step without an attempt unless a first send of its operation was not begun,
and past its fence a recovery commits if the steps of doubtful sends are still unresolved. -/
theorem recovery_writes_only_its_sends (db : Db) (hsteps : KeyUnique ExecutionStep.id db.steps)
    (hattempts : KeyUnique TransactionAttempt.id db.attempts) (hindex : UnresolvedOnce db.steps)
    (lease : LeaseFence) (clock now : Instant) :
    (∀ db', recoverControlledInflight lease clock now db = .ok ((), db') →
      ∀ leases (lease' : LeaseFence) (clock' now' : Instant),
        (∀ s ∈ db'.submissions,
          recoverSubmission db' lease'.environment (formatRFC3339Nano now') s = s) →
        ((recoverControlledInflight lease' clock' now').stateAfter
            { db' with leases := leases }).unstamped =
            ({ db' with leases := leases } : Db).unstamped) ∧
      (∀ operation, ¬ db.OwnsSubmission Submission.Doubtful operation →
        ¬ db.OwnsSubmission Submission.NotBegun operation →
        db.SameFor operation ((recoverControlledInflight lease clock now).stateAfter db)) ∧
      (∀ s ∈ db.steps, (∀ t ∈ db.attempts, t.stepId ≠ s.id) →
        ¬ db.OwnsSubmission Submission.NotBegun s.operationId →
        s ∈ ((recoverControlledInflight lease clock now).stateAfter db).steps) ∧
      ((∀ s ∈ db.steps, db.StepDoubtful s.id → s.status.Unresolved) →
        ∀ db₀, assertSubmissionLeaseTx lease clock db = .ok ((), db₀) →
          ∃ db', recoverControlledInflight lease clock now db = .ok ((), db')) :=
  ⟨fun _ h leases _ _ _ hnone => recoverControlledInflight_again h leases hnone,
    fun _ hdoubt hbegun => recoverControlledInflight_sameFor hsteps hattempts hdoubt hbegun,
    fun _ hs halone hbegun => recoverControlledInflight_keeps_step hs halone hbegun,
    fun hdoubt _ hlease => recoverControlledInflight_commits hindex hdoubt hlease⟩

/-! ### A worker that crashed -/

/-- A signed operation with its permit, and another one of its wallet that passed its dry run. -/
def crashDb : Db :=
  { Sample.signedDb with
    operations := Sample.signedDb.operations ++ dryRunDb.operations.filter (·.id = "b"),
    dryRunWallets := dryRunDb.dryRunWallets, dryRunResults := dryRunDb.dryRunResults,
    steps := [{ id := "op/dry", operationId := "op", stepIndex := 0, status := .succeeded },
              { id := "b/dry", operationId := "b", stepIndex := 0, status := .succeeded }] ++
      Sample.signedDb.steps,
    lanes := Sample.signedDb.lanes.map fun l => { l with address := "0xw" },
    reservations := [{ operationId := "op", stepId := "step", walletId := "wallet", status :=
    .signed }], gateSnapshots := [Sample.gate "admission" .executionAdmission none,
      Sample.gate "pre-sign" .preSign none, Sample.gate "first" .firstBroadcast (some "attempt")],
    permits := [Sample.permit] }

def holder : LeaseFence := ⟨"prod", "holder", 1⟩

def nextMinute : Instant := Sample.midnight + 60000000000

/-- The worker begins the send. -/
def beginOp : ExecutionCall :=
  .beginControlled Sample.snapshot (workItem Sample.permit Sample.authorization) holder
    Sample.midnight
    Sample.midnight

def intendOp : ExecutionCall :=
  .markIntent (workItem Sample.permit Sample.authorization) Sample.snapshot
    ⟨"attempt/submission/0", "attempt", "tx", 0, .submitting⟩ holder Sample.midnight Sample.midnight

def recoverOp : ExecutionCall := .recover holder nextMinute nextMinute

def opArtifact : SignedArtifact :=
  { attemptId := "attempt", operation := "op", stepId := "step", walletId := "wallet", nonce := 0,
    payload := { txHash := "tx", encryptedRawTx := "raw" }, policyVersion := 1,
    expiresAt := Sample.tomorrow }

def opReceipt : ReceiptObservation :=
  { id := "attempt/0xc", attemptId := "attempt", txHash := "tx", blockNumber := 9, blockHash :=
    "0xc", status := 1, state := .observed, version := 1 }

/-- The send is recovered as unknown, and its receipt is found and settled. -/
def settleOp : List ExecutionCall :=
  [beginOp, intendOp, recoverOp, .lane (.receipt opArtifact (.observe opReceipt 0 {})),
    .lane (.receipt opArtifact (.canonicalize opReceipt (some ⟨"0xtoken", "5"⟩) 0 {}))]

def crashRun (calls : List ExecutionCall) : Db :=
    calls.foldl (executionStep ServiceHost.plain {}) crashDb

/-- The second recovery keeps the lease and commits, and it changes stamps only. -/
theorem recovery_of_unknown_send :
    let db := crashRun [beginOp, intendOp]
    let again := recoverControlledInflight holder (nextMinute + 1) (nextMinute + 1)
    ∃ db', recoverControlledInflight holder nextMinute nextMinute db = .ok ((), db') ∧
      db'.steps.map (·.status) = [.succeeded, .succeeded, .broadcastUnknown] ∧
      (again db').isOk = true ∧ again.stateAfter db' ≠ db' ∧
      (again.stateAfter db').unstamped = db'.unstamped := by
  intro db again
  obtain ⟨hagain, -, -, hcommits⟩ := recovery_writes_only_its_sends db
    (show List.Nodup _ by decide +kernel) (show List.Nodup _ by decide +kernel) (by decide +kernel)
    holder nextMinute nextMinute
  obtain ⟨_, _, hlease⟩ :=
    Tx.Commits.of_isOk (m := assertSubmissionLeaseTx holder nextMinute) (s := db)
      (by decide +kernel)
  obtain ⟨db', h⟩ := hcommits (by decide +kernel) _ hlease
  have hdb : db' = (recoverControlledInflight holder nextMinute nextMinute).stateAfter db := by
    rw [Tx.stateAfter, h]
  have hsteps : (again.stateAfter db').steps ≠ db'.steps := by
    subst hdb
    decide +kernel
  refine ⟨db', h, ?_, ?_, fun heq => hsteps (congrArg Db.steps heq),
    hagain db' h db'.leases holder _ _ ?_⟩
  all_goals
    subst hdb
    decide +kernel

/-- The statuses of the steps, of the reservations and of the operations. -/
def statuses (db : Db) : List StepStatus × List ReservationStatus × List OperationStatus :=
  (db.steps.map (·.status), db.reservations.map (·.status), db.operations.map (·.status))

/-- A recovery after the settlement freezes the reservation and makes the step unknown again. The
first send of which no intent is stored takes the dry run with it. And once the other operation has
reserved the lane, the recovery fails on the index. -/
theorem recovery_undoes_settlement :
    statuses (crashRun settleOp) =
      ([.succeeded, .succeeded, .canonicalSuccess], [.settled],
      [.canonicalSuccess, .dryRunSucceeded]) ∧
    (crashRun settleOp).submissions.map (·.state) = [.broadcastUnknown] ∧
    statuses (crashRun (settleOp ++ [recoverOp])) =
      ([.succeeded, .succeeded, .broadcastUnknown], [.frozen],
      [.canonicalSuccess, .dryRunSucceeded]) ∧
    statuses (crashRun [beginOp, recoverOp]) =
      ([.knownUnsent, .succeeded, .knownUnsent], [.released], [.knownUnsent, .dryRunSucceeded]) ∧
    (assertSubmissionLeaseTx holder nextMinute
      (crashRun (settleOp ++ [.lane (reserveOp "b" 8)]))).isOk = true ∧
    (recoverControlledInflight holder nextMinute nextMinute
      (crashRun (settleOp ++ [.lane (reserveOp "b" 8)]))).isOk = false := by
  decide +kernel

end Settlement

end RbhTrade
