import RbhTrade.Store.ManualRecovery

/-!
# Receipts, settlement and reorganisations

`ObserveReceiptFenced`, `CanonicalizeFenced` and `OrphanFenced`. A receipt is observed once per
block; making it canonical applies the position effect of its attempt and settles the execution;
orphaning it rolls the effect back and freezes the execution again. Receipts of a MANUAL attempt go
through a recovery command; every other attempt is written directly, by the transactions whose
names lack the suffix.

`clock` is what the fence's clock returns at the check of the lease, and `recheck` what it returns
when a MANUAL transaction checks it again before the commit.
-/

namespace RbhTrade

open Tables GoTime

/-! ## Observation -/

/-- The receipt as it is stored: its id and attempt are the store's own. -/
def ReceiptObservation.observedFor (host : Host) (a : SignedArtifact) (r : ReceiptObservation)
    (stamp : String) : ReceiptObservation :=
  { r with
    id := host.deterministicID [a.attemptId, r.blockHash], attemptId := a.attemptId,
    state := .observed, version := 1, observedAt := stamp, updatedAt := stamp }

/-- `INSERT … ON CONFLICT(attempt_id,block_hash) DO NOTHING`. -/
def insertReceiptOnceTx (r : ReceiptObservation) : Tx Err Db Unit := do
  let db ← Tx.query id
  if ∃ x ∈ db.receipts, x.attemptId = r.attemptId ∧ x.blockHash = r.blockHash then pure ()
  else insertReceiptTx r

/-- The observation of an attempt that is not MANUAL. The stored row must carry the observed
facts. -/
def observeReceiptTx (r : ReceiptObservation) (lease : Option LeaseFence) (clock : Instant) :
    Tx Err Db ReceiptObservation := do
  assertRecoveryLeaseTx lease clock
  insertReceiptOnceTx r
  let stored ← Tx.query fun db => selectRow (·.id = r.id) db.receipts
  let stored ← Tx.expect stored .sql
  Tx.require (stored.txHash = r.txHash ∧ stored.blockNumber = r.blockNumber ∧
    stored.blockHash = r.blockHash ∧ stored.status = r.status) .artifactIntegrity
  return r

variable {clock : Instant} {db db' : Db} {lease : Option LeaseFence} {r : ReceiptObservation}
  {host : Host} {receipt stamp : String} {u : Unit} {a : SignedArtifact}
  {effect : Option EffectFacts}

/-- An observation adds the receipt or changes nothing. -/
theorem observeReceiptTx_ok {r' : ReceiptObservation}
    (h : observeReceiptTx r lease clock db = .ok (r', db')) :
    db' = db ∨ ((∀ x ∈ db.receipts, ¬ x.Conflicts r) ∧
      db' = { db with receipts := db.receipts ++ [r] }) := by
  simp only [observeReceiptTx] at h
  obtain ⟨_, _, hl, h⟩ := Tx.bind_ok.mp h
  obtain rfl := assertRecoveryLeaseTx_ok hl
  obtain ⟨_, db₁, hi, h⟩ := Tx.bind_ok.mp h
  simp only [Tx.query_bind, Tx.expect_bind_ok, Tx.require_bind_ok, Tx.pure_ok] at h
  obtain ⟨_, -, -, -, rfl⟩ := h
  simp only [insertReceiptOnceTx, Tx.query_bind, Tx.ite_ok, Tx.pure_ok] at hi
  obtain ⟨-, -, rfl⟩ | ⟨-, hi⟩ := hi
  · exact .inl rfl
  · exact .inr (insertReceiptTx_ok hi)

/-- `ObserveReceiptFenced`. -/
def observeReceiptFenced (host : Host) (views : ManualViews) (a : SignedArtifact)
    (r : ReceiptObservation) (now : Instant) (lease : Option LeaseFence)
    (clock recheck : Instant) : Tx Err Db ReceiptObservation := do
  Tx.require (r.txHash = a.txHash ∧ r.blockHash ≠ "" ∧ r.blockNumber ≠ 0 ∧ r.status ≤ 1)
    .artifactIntegrity
  let manual ← manualRecoverySourceTx views a
  let r := r.observedFor host a (formatRFC3339Nano now)
  if manual = true then do
    let observed ← observeManualReceiptTx host views a r now lease clock
    assertRecoveryLeaseTx lease recheck
    return observed
  else
    observeReceiptTx r lease clock

/-! ## Settlement -/

/-- The state that a canonical receipt of the given status takes. -/
def canonicalStateOf (status : Nat) : CanonicalState :=
  if status = 1 then .canonicalSuccess else .canonicalRevert

/-- The `WHERE` clause with which `CanonicalizeFenced` finds the receipt. -/
def ReceiptObservation.Pending (x : ReceiptObservation) (id attempt : String) : Prop :=
  x.id = id ∧ x.attemptId = attempt ∧ (x.state = .observed ∨ x.state = .orphaned)
deriving Decidable

def EffectTransition.text : EffectTransition → String
  | .apply => "apply"
  | .rollback => "rollback"
  | .reapply => "reapply"

/-- `INSERT INTO position_effect_history … ON CONFLICT DO NOTHING`. The receipt of a new row must
exist. -/
def recordHistoryTx (host : Host) (effect receipt : String) (transition : EffectTransition)
    (stamp : String) : Tx Err Db Unit := do
  let id := host.deterministicID [effect, receipt, transition.text]
  let db ← Tx.query fun db => db
  if ∃ h ∈ db.effectHistory, h.id = id ∨
      (h.effectId = effect ∧ h.receiptId = receipt ∧ h.transition = transition) then
    pure ()
  else do
    Tx.require (∃ r ∈ db.receipts, r.id = receipt) .sql
    Tx.exec fun db => { db with
      effectHistory := db.effectHistory ++
        [{ id := id, effectId := effect, transition := transition, receiptId := receipt,
           createdAt := stamp }] }

/-- Recording history changes nothing else. -/
theorem recordHistoryTx_ok {effect : String} {transition : EffectTransition}
    (h : recordHistoryTx host effect receipt transition stamp db = .ok (u, db')) :
    ∃ t, { db with effectHistory := t } = db' := by
  simp only [recordHistoryTx, Tx.query_bind, Tx.ite_ok, Tx.require_bind_ok, Tx.pure_ok,
    Tx.exec_ok] at h
  obtain ⟨-, -, rfl⟩ | ⟨-, -, rfl⟩ := h
  · exact ⟨_, rfl⟩
  · exact ⟨_, rfl⟩

/-- The history of a stored receipt can always be recorded. -/
theorem recordHistoryTx_commits {effect : String} {transition : EffectTransition}
    (hr : ∃ r ∈ db.receipts, r.id = receipt) :
    Tx.Commits (recordHistoryTx host effect receipt transition stamp) db := by
  simp only [Tx.Commits, recordHistoryTx, Tx.query_bind, Tx.ite_ok, Tx.require_bind_ok, Tx.pure_ok,
    Tx.exec_ok]
  by_cases hold : ∃ h ∈ db.effectHistory,
      h.id = host.deterministicID [effect, receipt, transition.text] ∨
        (h.effectId = effect ∧ h.receiptId = receipt ∧ h.transition = transition)
  · exact ⟨(), db, .inl ⟨hold, trivial, rfl⟩⟩
  · exact ⟨(), _, .inr ⟨hold, hr, rfl⟩⟩

/-- `INSERT INTO position_effects … ON CONFLICT(attempt_id) DO UPDATE`: the stored effect of the
attempt becomes active under the new receipt. A new effect needs a free id and a known wallet. -/
def upsertEffectTx (p : PositionEffect) : Tx Err Db Unit := do
  let db ← Tx.query id
  if ∃ x ∈ db.effects, x.attemptId = p.attemptId then
    Tx.exec fun db => { db with
      effects := updateWhere (·.attemptId = p.attemptId)
        (fun x => { x with
          receiptId := p.receiptId, state := .active, updatedAt := p.updatedAt }) db.effects }
  else do
    Tx.require ((∀ x ∈ db.effects, x.id ≠ p.id) ∧ ∃ w ∈ db.dryRunWallets, w.id = p.walletId) .sql
    Tx.exec fun db => { db with effects := db.effects ++ [p] }

/-- Apply the position effect of a successful receipt. An attempt has one effect: a later receipt
must give the same asset and delta. -/
def applyPositionEffectTx (host : Host) (a : SignedArtifact) (receipt : String)
    (effect : Option EffectFacts) (stamp : String) : Tx Err Db Unit := do
  let effect ← Tx.expect effect .invalidRequest
  Tx.require (effect.asset ≠ "" ∧ effect.delta ≠ "") .invalidRequest
  let prior ← Tx.query fun db => selectRow (·.attemptId = a.attemptId) db.effects
  Tx.require (∀ p ∈ prior, p.asset = effect.asset ∧ p.delta = effect.delta) .artifactIntegrity
  upsertEffectTx
    { id := positionEffectID host a.attemptId, attemptId := a.attemptId, receiptId := receipt,
      walletId := a.walletId, asset := effect.asset, delta := effect.delta, state := .active,
      appliedAt := stamp, updatedAt := stamp }
  recordHistoryTx host (positionEffectID host a.attemptId) receipt
    (if ∃ p ∈ prior, p.state = .rolledBack then .reapply else .apply) stamp

/-- What the settlement of an execution writes. The lane is found by its wallet alone. -/
def Db.settleExecution (db : Db) (a : SignedArtifact) (status : Nat) (stamp : String) : Db :=
  { db with
    reservations := updateWhere (·.operationId = a.operation)
      (fun r => { r with
        status := if status = 1 then .settled else .revertedReleased,
        nonceConsumed := true, gasConsumed := true, updatedAt := stamp }) db.reservations,
    lanes := updateWhere (·.walletId = a.walletId) (WalletLane.clear none stamp) db.lanes,
    steps := updateWhere (·.id = a.stepId)
      (fun s => { s with status := if status = 1 then .canonicalSuccess else .canonicalRevert })
      db.steps,
    operations := updateWhere (·.id = a.operation)
      (fun o => { o with status := if status = 1 then .canonicalSuccess else .canonicalRevert })
      db.operations }

/-- The first write of a settlement: the pending receipt becomes canonical. -/
def Db.markCanonical (db : Db) (a : SignedArtifact) (r : ReceiptObservation) (stamp : String) :
    Db :=
  { db with
    receipts := updateWhere (·.Pending r.id a.attemptId)
      (fun x => { x with
        state := canonicalStateOf r.status, version := x.version + 1, updatedAt := stamp })
      db.receipts }

/-- The settlement of an attempt that is not MANUAL. The receipt's status is the caller's. A receipt
that is already canonical, or unknown, is left alone without an error. -/
def canonicalizeTx (host : Host) (a : SignedArtifact) (r : ReceiptObservation)
    (effect : Option EffectFacts) (stamp : String) (lease : Option LeaseFence) (clock : Instant) :
    Tx Err Db Unit := do
  assertRecoveryLeaseTx lease clock
  let changed ← Tx.query fun db => affected (·.Pending r.id a.attemptId) db.receipts
  if changed = 0 then pure ()
  else do
    Tx.exec (·.markCanonical a r stamp)
    if r.status = 1 then do
      applyPositionEffectTx host a r.id effect stamp
      updateTx (·.settleExecution a r.status stamp)
    else
      updateTx (·.settleExecution a r.status stamp)

/-- The effects after the effect of an attempt was applied: the stored one is active again, or a new
active one is the only one of the attempt. -/
def EffectApplied (host : Host) (attempt : String) (t t' : List PositionEffect) : Prop :=
  ((∃ p ∈ t, p.attemptId = attempt) ∧ ∃ receipt stamp,
    t' = updateWhere (·.attemptId = attempt)
      (fun p => { p with receiptId := receipt, state := .active, updatedAt := stamp }) t) ∨
  ((∀ p ∈ t, p.attemptId ≠ attempt) ∧ ∃ p : PositionEffect, p.attemptId = attempt ∧
    p.id = positionEffectID host attempt ∧ p.state = .active ∧ t' = t ++ [p])

/-- Applying the effect leaves the attempt with an active effect under its own id. -/
theorem EffectApplied.own_and_active {attempt : String} {t t' : List PositionEffect}
    (h : EffectApplied host attempt t t')
    (hown : ∀ p ∈ t, p.attemptId = attempt → p.id = positionEffectID host attempt) :
    (∀ p ∈ t', p.attemptId = attempt → p.id = positionEffectID host attempt) ∧
      ∃ p ∈ t', p.attemptId = attempt ∧ p.state = .active := by
  obtain ⟨⟨p, hp, ha⟩, receipt, stamp, rfl⟩ | ⟨-, p, ha, hid, hs, rfl⟩ := h
  · refine ⟨fun q hq haq => ?_, _, mem_updateWhere_of_pos hp ha, ha, rfl⟩
    obtain ⟨hq, -⟩ | ⟨x, hx, -, rfl⟩ := mem_updateWhere_cases hq
    · exact hown q hq haq
    · exact hown x hx haq
  · refine ⟨fun q hq haq => ?_, p, List.mem_append_right _ (List.mem_singleton_self p), ha, hs⟩
    obtain hq | hq := List.mem_append.mp hq
    · exact hown q hq haq
    · exact (List.mem_singleton.mp hq) ▸ hid

theorem applyPositionEffectTx_ok
    (h : applyPositionEffectTx host a receipt effect stamp db = .ok (u, db')) :
    ∃ effects history, EffectApplied host a.attemptId db.effects effects ∧
      db' = { db with effects := effects, effectHistory := history } := by
  simp only [applyPositionEffectTx, Tx.expect_bind_ok, Tx.require_bind_ok, Tx.query_bind] at h
  obtain ⟨_, -, -, -, h⟩ := h
  obtain ⟨_, _, hu, h⟩ := Tx.bind_ok.mp h
  obtain ⟨t, rfl⟩ := recordHistoryTx_ok h
  simp only [upsertEffectTx, Tx.query_bind, Tx.ite_ok, Tx.require_bind_ok, Tx.exec_ok, id_eq] at hu
  obtain ⟨hold, rfl⟩ | ⟨hnew, -, rfl⟩ := hu
  · exact ⟨_, t, .inl ⟨hold, _, _, rfl⟩, rfl⟩
  · push Not at hnew
    exact ⟨_, t, .inr ⟨hnew, _, rfl, rfl, rfl, rfl⟩, rfl⟩

/-- The stored position effect of an attempt. -/
def Db.effectOf (db : Db) (attempt : String) : Option PositionEffect :=
  selectRow (·.attemptId = attempt) db.effects

/-- Applying the effect leaves the attempt with an active one of the given facts, under the receipt
that it was applied for. -/
theorem applyPositionEffectTx_effectOf
    (h : applyPositionEffectTx host a receipt effect stamp db = .ok (u, db')) :
    ∃ e p, effect = some e ∧ (e.asset ≠ "" ∧ e.delta ≠ "") ∧
      db'.effectOf a.attemptId = some p ∧ p.state = .active ∧ p.receiptId = receipt ∧
      p.asset = e.asset ∧ p.delta = e.delta := by
  simp only [applyPositionEffectTx, Tx.expect_bind_ok, Tx.require_bind_ok, Tx.query_bind] at h
  obtain ⟨e, he, hne, hfacts, h⟩ := h
  obtain ⟨_, _, hu, h⟩ := Tx.bind_ok.mp h
  obtain ⟨t, rfl⟩ := recordHistoryTx_ok h
  refine ⟨e, ?_⟩
  simp only [upsertEffectTx, Tx.query_bind, Tx.ite_ok, Tx.require_bind_ok, Tx.exec_ok, id_eq] at hu
  obtain ⟨hold, rfl⟩ | ⟨hnew, -, rfl⟩ := hu
  · obtain ⟨p, hp⟩ : ∃ p, selectRow (·.attemptId = a.attemptId) db.effects = some p := by
      rw [← Option.ne_none_iff_exists', Ne, selectRow_eq_none]
      push Not
      exact hold
    have hpa := selectRow_prop hp
    have hsel : selectRow (·.attemptId = a.attemptId) (updateWhere (·.attemptId = a.attemptId)
        (fun x => { x with receiptId := receipt, state := .active, updatedAt := stamp })
        db.effects) =
          some { p with receiptId := receipt, state := .active, updatedAt := stamp } := by
      rw [selectRow_updateWhere, hp, Option.map_some, if_pos hpa]
      exact fun _ _ => Iff.rfl
    exact ⟨_, he, hne, hsel, rfl, rfl, hfacts p hp⟩
  · push Not at hnew
    refine ⟨⟨positionEffectID host a.attemptId, a.attemptId, receipt, a.walletId, e.asset, e.delta,
      .active, stamp, stamp⟩, he, hne, ?_, rfl, rfl, rfl, rfl⟩
    simp only [Db.effectOf, selectRow_append, selectRow_eq_none.mpr hnew]
    simp [selectRow]

/-- The effect of an attempt can be applied again with the facts it has. -/
theorem applyPositionEffectTx_commits {e : EffectFacts} {p : PositionEffect}
    (hp : db.effectOf a.attemptId = some p) (hfacts : p.asset = e.asset ∧ p.delta = e.delta)
    (hne : e.asset ≠ "" ∧ e.delta ≠ "") (hr : ∃ r ∈ db.receipts, r.id = receipt) :
    Tx.Commits (applyPositionEffectTx host a receipt (some e) stamp) db := by
  unfold Db.effectOf at hp
  have hpa := selectRow_prop hp
  have hold : ∃ x ∈ db.effects, x.attemptId = a.attemptId := ⟨p, selectRow_mem hp, hpa⟩
  have hprior : ∀ q ∈ selectRow (·.attemptId = a.attemptId) db.effects,
      q.asset = e.asset ∧ q.delta = e.delta := by
    intro q hq
    obtain rfl := Option.some.inj (hp.symm.trans hq)
    exact hfacts
  have hupsert : upsertEffectTx
      { id := positionEffectID host a.attemptId, attemptId := a.attemptId, receiptId := receipt,
        walletId := a.walletId, asset := e.asset, delta := e.delta, state := .active,
        appliedAt := stamp, updatedAt := stamp } db = .ok ((), { db with
      effects := updateWhere (·.attemptId = a.attemptId)
        (fun x => { x with receiptId := receipt, state := .active, updatedAt := stamp })
        db.effects }) := by
    simp only [upsertEffectTx, Tx.query_bind, id_eq, if_pos hold, Tx.exec_ok]
  exact .expect rfl <| .require hne <| .query <| .require hprior <|
    .bind hupsert (recordHistoryTx_commits hr)

/-- What settling a pending receipt does. -/
structure Canonicalized (host : Host) (a : SignedArtifact) (r : ReceiptObservation)
    (stamp : String) (db db' : Db) : Prop where
  origins : db.SameOrigins db'
  attempts : db'.attempts = db.attempts
  pending : ∃ x ∈ db.receipts, x.Pending r.id a.attemptId
  receipts : db'.receipts = (db.markCanonical a r stamp).receipts
  effects : (r.status = 1 ∧ EffectApplied host a.attemptId db.effects db'.effects) ∨
    (r.status ≠ 1 ∧ db'.effects = db.effects)
  lanes : db'.lanes = (db.settleExecution a r.status stamp).lanes
  steps : db'.steps = (db.settleExecution a r.status stamp).steps
  index : UnresolvedOnce db'.steps
  reservations : db'.reservations = (db.settleExecution a r.status stamp).reservations
  operations : db'.operations = (db.settleExecution a r.status stamp).operations
  riskReservations : db'.riskReservations = db.riskReservations
  submissions : db'.submissions = db.submissions

/-- Past the fence, a pending receipt is settled in three parts: the receipt itself, the effect of a
success, and the execution. -/
theorem canonicalizeTx_eq (hlease : assertRecoveryLeaseTx lease clock db = .ok ((), db)) :
    canonicalizeTx host a r effect stamp lease clock db =
      if ∃ x ∈ db.receipts, x.Pending r.id a.attemptId then
        (if r.status = 1 then do
            applyPositionEffectTx host a r.id effect stamp
            updateTx (·.settleExecution a r.status stamp)
          else updateTx (·.settleExecution a r.status stamp)) (db.markCanonical a r stamp)
      else .ok ((), db) := by
  rw [canonicalizeTx, Tx.bind_of_ok hlease, Tx.query_bind]
  by_cases hpending : ∃ x ∈ db.receipts, x.Pending r.id a.attemptId
  · rw [if_neg (Nat.ne_of_gt (affected_pos_iff.mpr hpending)), if_pos hpending, Tx.exec_bind]
  · have hzero : affected (·.Pending r.id a.attemptId) db.receipts = 0 :=
      Nat.eq_zero_of_not_pos (affected_pos_iff.not.mpr hpending)
    rw [if_pos hzero, if_neg hpending]
    rfl

theorem canonicalizeTx_ok (h : canonicalizeTx host a r effect stamp lease clock db = .ok (u, db')) :
    db' = db ∨ Canonicalized host a r stamp db db' := by
  have hlease : assertRecoveryLeaseTx lease clock db = .ok ((), db) := by
    obtain ⟨_, _, hl, -⟩ := Tx.bind_ok.mp h
    obtain rfl := assertRecoveryLeaseTx_ok hl
    exact hl
  rw [canonicalizeTx_eq hlease] at h
  by_cases hpending : ∃ x ∈ db.receipts, x.Pending r.id a.attemptId
  · rw [if_pos hpending, Tx.ite_ok] at h
    obtain ⟨hone, h⟩ | ⟨hrevert, h⟩ := h
    · obtain ⟨_, _, ha, h⟩ := Tx.bind_ok.mp h
      obtain ⟨_, _, happ, rfl⟩ := applyPositionEffectTx_ok ha
      obtain ⟨hindex, rfl⟩ := updateTx_ok.mp h
      exact .inr ⟨⟨rfl, rfl⟩, rfl, hpending, rfl, .inl ⟨hone, happ⟩, rfl, rfl, hindex, rfl, rfl,
        rfl, rfl⟩
    · obtain ⟨hindex, rfl⟩ := updateTx_ok.mp h
      exact .inr ⟨⟨rfl, rfl⟩, rfl, hpending, rfl, .inr ⟨hrevert, rfl⟩, rfl, rfl, hindex, rfl, rfl,
        rfl, rfl⟩
  · rw [if_neg hpending] at h
    cases h
    exact .inl rfl

/-- `CanonicalizeFenced`. -/
def canonicalizeFenced (host : Host) (views : ManualViews) (a : SignedArtifact)
    (r : ReceiptObservation) (effect : Option EffectFacts) (now : Instant)
    (lease : Option LeaseFence) (clock recheck : Instant) : Tx Err Db Unit := do
  let manual ← manualRecoverySourceTx views a
  if manual = true then do
    transitionManualReceiptTx host views a r .canonical effect now lease clock
    assertRecoveryLeaseTx lease recheck
  else
    canonicalizeTx host a r effect (formatRFC3339Nano now) lease clock

/-! ## Reorganisations -/

/-- The `WHERE` clause with which `OrphanFenced` finds the receipt. -/
def ReceiptObservation.Orphanable (x : ReceiptObservation) (id : String) : Prop :=
  x.id = id ∧ (x.state = .observed ∨ x.state.Canonical)
deriving Decidable

/-- A row of a claimed MANUAL attempt, which only a recovery command may write. -/
def Db.ClaimedAttempt (db : Db) (attempt : String) : Prop :=
  ∃ q ∈ db.manualNonceClaims, q.attemptId = attempt
deriving Decidable

/-- The receipt is orphaned and the active effect of the attempt rolled back. The receipt is found
by its id alone, the effect by its attempt alone. -/
def Db.rollback (db : Db) (host : Host) (a : SignedArtifact) (receipt stamp : String) : Db :=
  { db with
    receipts := updateWhere (·.Orphanable receipt)
      (fun x => { x with state := .orphaned, version := x.version + 1, updatedAt := stamp })
      db.receipts,
    effects := updateWhere (fun p => p.id = positionEffectID host a.attemptId ∧ p.state = .active)
      (fun p => { p with state := .rolledBack, updatedAt := stamp }) db.effects }

def rollbackReceiptTx (host : Host) (a : SignedArtifact) (receipt stamp : String) :
    Tx Err Db Unit := do
  let effect := positionEffectID host a.attemptId
  let db ← Tx.query id
  Tx.require ((∀ x ∈ db.receipts, x.Orphanable receipt → ¬ db.ClaimedAttempt x.attemptId) ∧
    ∀ p ∈ db.effects, p.id = effect → p.state = .active → ¬ db.ClaimedAttempt p.attemptId) .sql
  Tx.exec (·.rollback host a receipt stamp)
  let known ← Tx.query fun db => decide (∃ p ∈ db.effects, p.id = effect)
  if known = true then recordHistoryTx host effect receipt .rollback stamp else pure ()

/-- The lane may be taken back by the orphaned operation. -/
def WalletLane.Reclaimable (l : WalletLane) (operation : String) : Prop :=
  l.state = .idle ∨ l.operationId = some operation
deriving Decidable

/-- The lane and the execution are frozen again. A lane that another operation holds keeps its
owner, and the orphaned step does not become unresolved. -/
def Db.refreeze (db : Db) (a : SignedArtifact) (lane : WalletLane) (stamp : String) : Db :=
  { db with
    lanes := updateWhere (·.walletId = a.walletId)
      (fun l =>
        if lane.Reclaimable a.operation then
          { l.freeze "canonical_reorg" stamp with
            operationId := some a.operation, stepId := some a.stepId }
        else l.freeze "prior_canonical_reorg" stamp) db.lanes,
    reservations := updateWhere (·.operationId = a.operation)
      (fun r => { r with status := .frozen, updatedAt := stamp }) db.reservations,
    steps := updateWhere (·.id = a.stepId)
      (fun s => { s with
        status := if lane.Reclaimable a.operation then .reconciling else .orphaned }) db.steps }

def refreezeExecutionTx (a : SignedArtifact) (stamp : String) : Tx Err Db Unit := do
  let lane ← Tx.query fun db => selectRow (·.walletId = a.walletId) db.lanes
  let lane ← Tx.expect lane .sql
  updateTx (·.refreeze a lane stamp)

/-- The reorganisation of an attempt that is not MANUAL. -/
def orphanTx (host : Host) (a : SignedArtifact) (receipt stamp : String)
    (lease : Option LeaseFence) (clock : Instant) : Tx Err Db Unit := do
  assertRecoveryLeaseTx lease clock
  rollbackReceiptTx host a receipt stamp
  refreezeExecutionTx a stamp

/-- What a reorganisation does. `lane` is the lane that the transaction read. -/
structure Orphaned (host : Host) (a : SignedArtifact) (receipt stamp : String) (lane : WalletLane)
    (db db' : Db) : Prop where
  origins : db.SameOrigins db'
  attempts : db'.attempts = db.attempts
  read : selectRow (·.walletId = a.walletId) db.lanes = some lane
  receipts : db'.receipts = (db.rollback host a receipt stamp).receipts
  effects : db'.effects = (db.rollback host a receipt stamp).effects
  lanes : db'.lanes = (db.refreeze a lane stamp).lanes
  steps : db'.steps = (db.refreeze a lane stamp).steps
  index : UnresolvedOnce db'.steps
  reservations : db'.reservations = (db.refreeze a lane stamp).reservations
  operations : db'.operations = db.operations
  riskReservations : db'.riskReservations = db.riskReservations
  submissions : db'.submissions = db.submissions

theorem orphanTx_ok (h : orphanTx host a receipt stamp lease clock db = .ok (u, db')) :
    ∃ lane, Orphaned host a receipt stamp lane db db' := by
  simp only [orphanTx] at h
  obtain ⟨_, _, hl, h⟩ := Tx.bind_ok.mp h
  obtain rfl := assertRecoveryLeaseTx_ok hl
  obtain ⟨_, db₁, hr, h⟩ := Tx.bind_ok.mp h
  simp only [rollbackReceiptTx, Tx.query_bind, Tx.require_bind_ok, Tx.exec_bind, Tx.ite_ok,
    Tx.pure_ok] at hr
  -- Whether or not the history grows, the other tables are as the update left them.
  have hdb : ∃ t, { db.rollback host a receipt stamp with effectHistory := t } = db₁ := by
    obtain ⟨-, ⟨-, hh⟩ | ⟨-, -, rfl⟩⟩ := hr
    · obtain ⟨t, rfl⟩ := recordHistoryTx_ok hh
      exact ⟨t, rfl⟩
    · exact ⟨_, rfl⟩
  obtain ⟨t, rfl⟩ := hdb
  simp only [refreezeExecutionTx, Tx.query_bind, Tx.expect_bind_ok, updateTx_ok] at h
  obtain ⟨lane, hlane, hindex, rfl⟩ := h
  exact ⟨lane, ⟨rfl, rfl⟩, rfl, hlane, rfl, rfl, rfl, rfl, hindex, rfl, rfl, rfl, rfl⟩

/-- `OrphanFenced`. -/
def orphanFenced (host : Host) (views : ManualViews) (a : SignedArtifact) (r : ReceiptObservation)
    (now : Instant) (lease : Option LeaseFence) (clock recheck : Instant) : Tx Err Db Unit := do
  let manual ← manualRecoverySourceTx views a
  if manual = true then do
    transitionManualReceiptTx host views a r .orphan none now lease clock
    assertRecoveryLeaseTx lease recheck
  else
    orphanTx host a r.id (formatRFC3339Nano now) lease clock

/-! ## Attempts that are not MANUAL -/

section Legacy

variable {host : Host} {views : ManualViews} {a : SignedArtifact} {r : ReceiptObservation}
  {now clock recheck : Instant} {lease : Option LeaseFence} {db db' : Db}

theorem observeReceiptFenced_legacy (hm : ¬ db.IsManual a) {r' : ReceiptObservation}
    (h : observeReceiptFenced host views a r now lease clock recheck db = .ok (r', db')) :
    observeReceiptTx (r.observedFor host a (formatRFC3339Nano now)) lease clock db =
      .ok (r', db') := by
  simp only [observeReceiptFenced, Tx.require_bind_ok] at h
  obtain ⟨_, _, hs, h⟩ := Tx.bind_ok.mp h.2
  obtain ⟨rfl, hmanual⟩ := manualRecoverySourceTx_ok hs
  rw [if_neg (hmanual.not.mpr hm)] at h
  exact h

theorem canonicalizeFenced_legacy (hm : ¬ db.IsManual a)
    (h : canonicalizeFenced host views a r effect now lease clock recheck db = .ok (u, db')) :
    canonicalizeTx host a r effect (formatRFC3339Nano now) lease clock db = .ok (u, db') := by
  simp only [canonicalizeFenced] at h
  obtain ⟨_, _, hs, h⟩ := Tx.bind_ok.mp h
  obtain ⟨rfl, hmanual⟩ := manualRecoverySourceTx_ok hs
  rw [if_neg (hmanual.not.mpr hm)] at h
  exact h

theorem orphanFenced_legacy (hm : ¬ db.IsManual a)
    (h : orphanFenced host views a r now lease clock recheck db = .ok (u, db')) :
    orphanTx host a r.id (formatRFC3339Nano now) lease clock db = .ok (u, db') := by
  simp only [orphanFenced] at h
  obtain ⟨_, _, hs, h⟩ := Tx.bind_ok.mp h
  obtain ⟨rfl, hmanual⟩ := manualRecoverySourceTx_ok hs
  rw [if_neg (hmanual.not.mpr hm)] at h
  exact h

end Legacy

end RbhTrade
