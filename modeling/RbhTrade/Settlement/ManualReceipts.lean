import RbhTrade.Settlement.Effects

/-!
# The settlement of a MANUAL operation

The receipts of a MANUAL attempt are moved by recovery commands. A command that settles or orphans a
receipt also rewrites what the operation holds: its risk reservation, its usage, its step and its
lane. After every call these should agree with the sole canonical receipt of the attempt, and so
should the position effect.

The triggers keep one receipt canonical at most. But an orphan command is accepted about a receipt
that was only ever observed while another one is canonical, and it freezes the reservation, the
usage and the step of an operation that stays settled. Settling the canonical receipt again does
not mend this, since such a call finds nothing to do. The law holds along every run without such an
orphan call.
-/

namespace RbhTrade.Settlement

open Tables GoTime

/-! ## The law -/

section Law

variable (operation : String) (o : RecoveryOpen) (db : Db)

/-- The last canonical command about a receipt. -/
def lastCanonical (receipt : String) : Option ManualRecoveryCommand :=
  (db.manualRecoveryCommands.filter
    fun c => c.receiptId = receipt ∧ c.kind = .canonical).getLast?

/-- The effect of the attempt is active for the receipt, with the delta of its last canonical
command. -/
def EffectFrom (receipt : String) : Prop :=
  (∃ p ∈ db.effects, p.attemptId = o.attemptId) ∧
    ∀ p ∈ db.effects, p.attemptId = o.attemptId → p.state = .active ∧ p.receiptId = receipt ∧
      (lastCanonical db receipt).bind (·.effectDelta) = some p.delta
deriving Decidable

/-- The states of what the operation holds; its usage is consumed. -/
def SettledAs (risk : RiskState) (step : StepStatus) : Prop :=
  ((∃ r ∈ db.riskReservations, r.id = o.reservationId) ∧
    ∀ r ∈ db.riskReservations, r.id = o.reservationId → r.state = risk) ∧
  ((∃ u ∈ db.operationUsage, u.operationId = operation) ∧
    ∀ u ∈ db.operationUsage, u.operationId = operation → u.state = .consumed) ∧
  (∃ s ∈ db.steps, s.id = o.executionStepId) ∧
    ∀ s ∈ db.steps, s.id = o.executionStepId → s.status = step
deriving Decidable

/-- What a receipt of the attempt asks for while it is canonical. -/
def Settles (x : ReceiptObservation) : Prop :=
  (x.state = .canonicalSuccess →
    EffectFrom o db x.id ∧ SettledAs operation o db .committed .canonicalSuccess) ∧
  (x.state = .canonicalRevert →
    ¬ EffectActive db o.attemptId ∧ SettledAs operation o db .released .canonicalRevert)
deriving Decidable

/-- No receipt of the attempt is canonical. -/
def NoneCanonical : Prop :=
  ∀ x ∈ db.receipts, x.attemptId = o.attemptId → ¬ x.state.Canonical
deriving Decidable

/-- Nothing is settled: no effect is active, and the reservation is neither released nor
committed. -/
def Unsettled : Prop :=
  ¬ EffectActive db o.attemptId ∧ ∀ r ∈ db.riskReservations, r.id = o.reservationId →
    r.state ≠ .released ∧ r.state ≠ .committed
deriving Decidable

/-- The operation is settled as its sole canonical receipt tells. -/
def SettlementLaw : Prop :=
  canonicalCount db o.attemptId ≤ 1 ∧
    (∀ x ∈ db.receipts, x.attemptId = o.attemptId → Settles operation o db x) ∧
    (NoneCanonical o db → Unsettled o db)
deriving Decidable

end Law

section

variable (operation : String) (o : RecoveryOpen) (db : Db)

end

/-! ## Runs -/

/-- A call about a receipt of the operation, or any change of the worker leases. -/
inductive ManualAct where
  | call (call : ReceiptCall)
  | lease (leases : List WorkerLease)

/-- The database after an act. -/
def manualStep (host : Host) (views : ManualViews) (a : SignedArtifact) (db : Db) : ManualAct → Db
  | .call call => receiptStep host views a db call
  | .lease leases => { db with leases := leases }

/-- An orphan call about a receipt that is only observed comes while none is canonical. -/
def Orderly (o : RecoveryOpen) (db : Db) : ManualAct → Prop
  | .call (.orphan r _ _) =>
      (∃ x ∈ db.receipts, x.id = r.id ∧ x.state = .observed) → NoneCanonical o db
  | _ => True

instance (o : RecoveryOpen) (db : Db) : DecidablePred (Orderly o db) := fun act => by
  unfold Orderly
  split <;> infer_instance

/-- A MANUAL operation about which nothing has been observed yet. -/
def Unreceived (a : SignedArtifact) (o : RecoveryOpen) (db : Db) : Prop :=
  db.IsManual a ∧ db.recoveryOpen a.operation = some o ∧
    (∀ r ∈ db.receipts, r.attemptId ≠ o.attemptId) ∧ Unsettled o db
deriving Decidable

/-! ## The invariant -/

/-- What every orderly act keeps. -/
structure ManualInv (a : SignedArtifact) (o : RecoveryOpen) (db : Db) : Prop where
  manual : db.IsManual a
  opened : db.recoveryOpen a.operation = some o
  ids : NoConflict (SameReceipt o.attemptId) db.receipts
  sole : ∀ x ∈ db.receipts, ∀ y ∈ db.receipts, x.attemptId = o.attemptId →
    y.attemptId = o.attemptId → x.state.Canonical → y.state.Canonical → x.id = y.id
  settled : ∀ x ∈ db.receipts, x.attemptId = o.attemptId → Settles a.operation o db x
  free : NoneCanonical o db → Unsettled o db

section Inv

variable {host : Host} {views : ManualViews} {a : SignedArtifact} {o : RecoveryOpen}
  {c : ManualRecoveryCommand} {db db' : Db}

theorem ManualInv.init (h : Unreceived a o db) : ManualInv a o db := by
  obtain ⟨hm, ho, hr, hfree⟩ := h
  refine ⟨hm, ho, ?_, fun x hx _ _ hax => ?_, fun x hx hax => ?_, fun _ => hfree⟩
  · exact List.pairwise_of_forall_mem_list fun x hx _ _ hc => hr x hx hc.1
  · exact absurd hax (hr x hx)
  · exact absurd hax (hr x hx)

theorem ManualInv.law (h : ManualInv a o db) : SettlementLaw a.operation o db :=
  ⟨h.ids.affected_le_one fun x hx y hy hpx hpy =>
    ⟨hpx.1, hpy.1, h.sole x hx y hy hpx.1 hpy.1 hpx.2 hpy.2⟩, h.settled, h.free⟩

theorem ManualInv.unique (h : ManualInv a o db) {x y : ReceiptObservation} (hx : x ∈ db.receipts)
    (hy : y ∈ db.receipts) (hax : x.attemptId = o.attemptId) (hay : y.attemptId = o.attemptId)
    (hid : x.id = y.id) : x = y :=
  h.ids.eq (fun _ _ hc => ⟨hc.2.1, hc.1, hc.2.2.symm⟩) hx hy ⟨hax, hay, hid⟩

theorem lastCanonical_append (hk : c.kind ≠ .canonical)
    (hdb : db'.manualRecoveryCommands = db.manualRecoveryCommands ++ [c]) (receipt : String) :
    lastCanonical db' receipt = lastCanonical db receipt := by
  simp [lastCanonical, hdb, List.filter_append, hk]

theorem lastCanonical_self (hk : c.kind = .canonical)
    (hdb : db'.manualRecoveryCommands = db.manualRecoveryCommands ++ [c]) :
    lastCanonical db' c.receiptId = some c := by
  simp [lastCanonical, hdb, List.filter_append, hk]

theorem ManualInv.observe (h : ManualInv a o db) (hk : c.kind = .observe)
    (hfresh : ∀ x ∈ db.receipts, ¬ x.Conflicts (c.receipt o)) :
    ManualInv a o { db with
      receipts := db.receipts ++ [c.receipt o],
      manualRecoveryCommands := db.manualRecoveryCommands ++ [c] } := by
  have hnot : ¬ (c.receipt o).state.Canonical := by rintro (hc | hc) <;> cases hc
  -- A canonical receipt of the longer list was there before.
  have hold : ∀ x ∈ db.receipts ++ [c.receipt o], x.state.Canonical → x ∈ db.receipts := by
    intro x hx hc
    obtain hx | hx := List.mem_append.mp hx
    · exact hx
    · exact absurd (List.mem_singleton.mp hx ▸ hc) hnot
  refine ⟨h.manual, h.opened, h.ids.append fun x hx hc => hfresh x hx (.inl hc.2.2), ?_, ?_, ?_⟩
  · intro x hx y hy hax hay hcx hcy
    exact h.sole x (hold x hx hcx) y (hold y hy hcy) hax hay hcx hcy
  · intro x hx hax
    refine ⟨fun hs => ?_, fun hs => (h.settled x (hold x hx (.inr hs)) hax).2 hs⟩
    obtain ⟨⟨heffect, hall⟩, hheld⟩ := (h.settled x (hold x hx (.inl hs)) hax).1 hs
    refine ⟨⟨heffect, fun p hp hpa => ?_⟩, hheld⟩
    obtain ⟨hactive, hreceipt, hdelta⟩ := hall p hp hpa
    refine ⟨hactive, hreceipt, ?_⟩
    rw [lastCanonical_append (by rw [hk]; exact nofun) rfl]
    exact hdelta
  · exact fun hnone => h.free fun x hx => hnone x (List.mem_append_left _ hx)

/-- What the operation holds after a command. -/
theorem settledAs_of_closed {mid : Db} (hdb : db' = mid.settleRecovery c o)
    (hclosed : db'.RecoveryClosed host c o) (hk : c.kind = .canonical) :
    SettledAs c.operationId o db' c.riskState c.stepStatus := by
  obtain ⟨⟨r, hr, hrid, -⟩, ⟨u, hu, huo, -⟩, ⟨s, hs, hsid, -⟩, -⟩ := hclosed
  subst hdb
  refine ⟨⟨⟨r, hr, hrid⟩, fun x hx hid => ?_⟩, ⟨⟨u, hu, huo⟩, fun x hx hid => ?_⟩, ⟨s, hs, hsid⟩,
    fun x hx hid => ?_⟩
  · obtain ⟨-, hno⟩ | ⟨y, -, -, rfl⟩ := mem_updateWhere_cases hx
    · exact absurd hid hno
    · rfl
  · obtain ⟨-, hno⟩ | ⟨y, -, -, rfl⟩ := mem_updateWhere_cases hx
    · exact absurd hid hno
    · exact if_neg (by rw [hk]; exact nofun)
  · obtain ⟨-, hno⟩ | ⟨y, -, -, rfl⟩ := mem_updateWhere_cases hx
    · exact absurd hid hno
    · rfl

/-- Before a canonical command no receipt of the attempt is canonical. -/
theorem ManualInv.noneCanonical (h : ManualInv a o db) (hop : c.operationId = a.operation)
    (hk : c.kind = .canonical) (hphase : db.RecoveryPhase c) (hsole : db.RecoverySole c)
    (hcited : ∀ r ∈ db.receipts, r.id = c.receiptId → r.attemptId = o.attemptId) :
    NoneCanonical o db := by
  intro x hx hax hc
  by_cases hid : x.id = c.receiptId
  · obtain ⟨r, hr, hcr, -, hstate⟩ := hphase.2.1 hk
    obtain rfl := h.unique hx hr hax (hcited r hr hcr.1) (hid.trans hcr.1.symm)
    obtain hs | hs := hstate <;> obtain hc | hc := hc <;> rw [hs] at hc <;> cases hc
  · refine (hsole hk).1 x hx hid ?_ hc
    rw [hop, hax]
    exact Db.recoveryOpen_firstAttempt h.opened

theorem ManualInv.canonical (h : ManualInv a o db) {mid : Db} (hop : c.operationId = a.operation)
    (hk : c.kind = .canonical) (hphase : db.RecoveryPhase c) (hsole : db.RecoverySole c)
    (hcited : ∀ r ∈ db.receipts, r.id = c.receiptId → r.attemptId = o.attemptId)
    (hdb : db' = mid.settleRecovery c o) (hclosed : db'.RecoveryClosed host c o)
    (hsame : db.SameOrigins db') (hopened : db'.recoveryOpen a.operation = some o)
    (hreceipts : db'.receipts = c.move db.receipts)
    (heffects : EffectsMoved c o db.effects db'.effects)
    (hcommands : db'.manualRecoveryCommands = db.manualRecoveryCommands ++ [c]) :
    ManualInv a o db' := by
  have hnone := h.noneCanonical hop hk hphase hsole hcited
  have hheld := settledAs_of_closed hdb hclosed hk
  rw [hop] at hheld
  have hmoved : ∀ x ∈ db'.receipts, x.attemptId = o.attemptId → x.state.Canonical →
      x.id = c.receiptId ∧ x.state = c.receiptState := by
    intro x hx hax hc
    rw [hreceipts] at hx
    obtain ⟨hx, -⟩ | ⟨y, -, hid, rfl⟩ := mem_updateWhere_cases hx
    · exact absurd hc (hnone x hx hax)
    · exact ⟨hid, rfl⟩
  have hstate : c.receiptState = if c.receiptStatus = 1 then .canonicalSuccess
      else .canonicalRevert := by
    rw [ManualRecoveryCommand.receiptState, hk]
  have hkind : c.kind ≠ .orphan := by
    rw [hk]
    exact nofun
  refine ⟨(hsame.isManual a).mpr h.manual, hopened, ?_, ?_, ?_, ?_⟩
  · rw [hreceipts]
    exact h.ids.updateWhere SameReceipt.of_update
  · intro x hx y hy hax hay hcx hcy
    exact (hmoved x hx hax hcx).1.trans (hmoved y hy hay hcy).1.symm
  · intro x hx hax
    constructor
    · intro hs
      obtain ⟨hid, hxs⟩ := hmoved x hx hax (.inl hs)
      have hone : c.receiptStatus = 1 := by
        by_contra hne
        rw [hstate, if_neg hne, hs] at hxs
        cases hxs
      obtain ⟨p, hp, -, hpa, -, -, -, hdelta, -⟩ := hclosed.2.2.2.2.1 ⟨hk, hone⟩
      refine ⟨⟨⟨p, hp, hpa⟩, fun q hq hqa => ?_⟩, ?_⟩
      · obtain ⟨hactive, hreceipt, hqd⟩ := heffects.applied ⟨hk, hone⟩ q hq hqa
        refine ⟨hactive, hreceipt.trans hid.symm, ?_⟩
        rw [hid, lastCanonical_self hk hcommands, Option.bind_some, hqd, ← hdelta]
        rfl
      · simpa only [ManualRecoveryCommand.riskState, ManualRecoveryCommand.stepStatus, if_neg hkind,
          if_pos hone] using hheld
    · intro hs
      obtain ⟨-, hxs⟩ := hmoved x hx hax (.inr hs)
      have hone : c.receiptStatus ≠ 1 := by
        intro hone
        rw [hstate, if_pos hone, hs] at hxs
        cases hxs
      constructor
      · unfold EffectActive
        rw [heffects.kept hk fun ha => hone ha.2]
        exact (h.free hnone).1
      · simpa only [ManualRecoveryCommand.riskState, ManualRecoveryCommand.stepStatus, if_neg hkind,
          if_neg hone] using hheld
  · -- The receipt of the command is canonical now.
    intro hnone'
    obtain ⟨r, hr, hcr, -⟩ := hphase.2.1 hk
    have hmem : { r with
        state := c.receiptState, version := r.version + 1, updatedAt := c.checkedAt } ∈
        db'.receipts := by
      rw [hreceipts]
      exact mem_updateWhere_of_pos hr hcr.1
    refine absurd ?_ (hnone' _ hmem (hcited r hr hcr.1))
    dsimp only
    rw [hstate]
    split
    · exact .inl rfl
    · exact .inr rfl

theorem ManualInv.orphan (h : ManualInv a o db) {mid : Db} (hk : c.kind = .orphan)
    (hphase : db.RecoveryPhase c)
    (hcited : ∀ r ∈ db.receipts, r.id = c.receiptId → r.attemptId = o.attemptId)
    (horderly : (∃ x ∈ db.receipts, x.id = c.receiptId ∧ x.state = .observed) →
      NoneCanonical o db)
    (hdb : db' = mid.settleRecovery c o)
    (hsame : db.SameOrigins db') (hopened : db'.recoveryOpen a.operation = some o)
    (hreceipts : db'.receipts = c.move db.receipts)
    (heffects : EffectsMoved c o db.effects db'.effects) : ManualInv a o db' := by
  obtain ⟨r, hr, hcr, -, hstate⟩ := hphase.2.2 hk
  have har := hcited r hr hcr.1
  -- No receipt stays canonical: the one that was is the one of the command.
  have hnone : NoneCanonical o db' := by
    intro x hx hax hc
    rw [hreceipts] at hx
    obtain ⟨hx, hid⟩ | ⟨y, -, -, rfl⟩ := mem_updateWhere_cases hx
    · obtain hs | hs := hstate
      · exact horderly ⟨r, hr, hcr.1, hs⟩ x hx hax hc
      · exact hid ((h.sole x hx r hr hax har hc hs).trans hcr.1)
    · rw [ManualRecoveryCommand.receiptState, hk] at hc
      obtain hc | hc := hc <;> cases hc
  -- An active effect was that of the receipt of the command, and is rolled back.
  have heffect : ¬ EffectActive db' o.attemptId := by
    rintro ⟨p, hp, hpa, hps⟩
    rw [heffects.rolledBack hk] at hp
    obtain ⟨hp, hno⟩ | ⟨q, -, -, rfl⟩ := mem_updateWhere_cases hp
    · obtain hs | hs | hs := hstate
      · exact (h.free (horderly ⟨r, hr, hcr.1, hs⟩)).1 ⟨p, hp, hpa, hps⟩
      · obtain ⟨⟨-, hall⟩, -⟩ := (h.settled r hr har).1 hs
        exact hno ⟨(hall p hp hpa).2.1.trans hcr.1, hps⟩
      · exact ((h.settled r hr har).2 hs).1 ⟨p, hp, hpa, hps⟩
    · cases hps
  refine ⟨(hsame.isManual a).mpr h.manual, hopened, ?_, ?_, ?_, fun _ => ⟨heffect, ?_⟩⟩
  · rw [hreceipts]
    exact h.ids.updateWhere SameReceipt.of_update
  · exact fun x hx _ _ hax _ hcx => absurd hcx (hnone x hx hax)
  · exact fun x hx hax =>
      ⟨fun hs => absurd (.inl hs) (hnone x hx hax), fun hs => absurd (.inr hs) (hnone x hx hax)⟩
  · intro x hx hid
    subst hdb
    obtain ⟨-, hno⟩ | ⟨y, -, -, rfl⟩ := mem_updateWhere_cases hx
    · exact absurd hid hno
    · simp only [ManualRecoveryCommand.riskState, if_pos hk]
      exact ⟨nofun, nofun⟩

/-- A command that is accepted keeps the invariant. -/
theorem ManualInv.command (h : ManualInv a o db) (hop : c.operationId = a.operation)
    (horderly : c.kind = .orphan →
      (∃ x ∈ db.receipts, x.id = c.receiptId ∧ x.state = .observed) → NoneCanonical o db)
    (hok : manualRecoveryCommandTx host views c db = .ok ((), db')) : ManualInv a o db' := by
  obtain ⟨⟨-, -, -, hphase, hsole, -⟩, o', ho', hcases⟩ := manualRecoveryCommandTx_ok hok
  obtain rfl : o' = o := by
    rw [hop, h.opened] at ho'
    exact (Option.some.inj ho').symm
  obtain ⟨hk, hfresh, rfl⟩ | ⟨hk, hcited, effects, history, heffects, hdb, hclosed⟩ := hcases
  · exact h.observe hk hfresh
  · cases hkind : c.kind with
    | observe => exact absurd hkind hk
    | canonical =>
        exact h.canonical hop hkind hphase hsole hcited hdb hclosed (hdb ▸ ⟨rfl, rfl⟩)
          (hdb ▸ h.opened) (hdb ▸ rfl) (hdb ▸ heffects) (hdb ▸ rfl)
    | orphan =>
        exact h.orphan hkind hphase hcited (horderly hkind) hdb (hdb ▸ ⟨rfl, rfl⟩)
          (hdb ▸ h.opened) (hdb ▸ rfl) (hdb ▸ heffects)

/-- A call about a MANUAL receipt makes one command at most. -/
theorem receiptStep_commands (host : Host) (views : ManualViews) (hm : db.IsManual a)
    (call : ReceiptCall) :
    ∃ kind receipt, db.Commands host views a.operation kind receipt
        (receiptStep host views a db call) ∧
      (kind = .orphan → ∃ r now f, call = .orphan r now f ∧ receipt = r.id) := by
  cases call with
  | observe r now f =>
      refine ⟨.observe, (r.observedFor host a (formatRFC3339Nano now)).id, ?_,
        fun hk => by cases hk⟩
      refine Tx.stateAfter_cases (db.Commands host views a.operation _ _) (.inl rfl)
        fun _ db' h => ?_
      simp only [observeReceiptFenced, Tx.require_bind_ok] at h
      obtain ⟨_, _, hs, h⟩ := Tx.bind_ok.mp h.2
      obtain ⟨rfl, hmanual⟩ := manualRecoverySourceTx_ok hs
      rw [if_pos (hmanual.mpr hm)] at h
      obtain ⟨_, _, hobserve, h⟩ := Tx.bind_ok.mp h
      obtain ⟨_, _, hlease, h⟩ := Tx.bind_ok.mp h
      obtain rfl := assertRecoveryLeaseTx_ok hlease
      obtain ⟨-, rfl⟩ := Tx.pure_ok.mp h
      exact observeManualReceiptTx_ok hobserve
  | canonicalize r effect now f =>
      refine ⟨.canonical, r.id, ?_, fun hk => by cases hk⟩
      refine Tx.stateAfter_cases (db.Commands host views a.operation _ _) (.inl rfl)
        fun _ db' h => ?_
      simp only [canonicalizeFenced] at h
      obtain ⟨_, _, hs, h⟩ := Tx.bind_ok.mp h
      obtain ⟨rfl, hmanual⟩ := manualRecoverySourceTx_ok hs
      rw [if_pos (hmanual.mpr hm)] at h
      obtain ⟨_, _, htransition, h⟩ := Tx.bind_ok.mp h
      obtain rfl := assertRecoveryLeaseTx_ok h
      exact transitionManualReceiptTx_ok htransition
  | orphan r now f =>
      refine ⟨.orphan, r.id, ?_, fun _ => ⟨r, now, f, rfl, rfl⟩⟩
      refine Tx.stateAfter_cases (db.Commands host views a.operation _ _) (.inl rfl)
        fun _ db' h => ?_
      simp only [orphanFenced] at h
      obtain ⟨_, _, hs, h⟩ := Tx.bind_ok.mp h
      obtain ⟨rfl, hmanual⟩ := manualRecoverySourceTx_ok hs
      rw [if_pos (hmanual.mpr hm)] at h
      obtain ⟨_, _, htransition, h⟩ := Tx.bind_ok.mp h
      obtain rfl := assertRecoveryLeaseTx_ok h
      exact transitionManualReceiptTx_ok htransition

theorem ManualInv.step (h : ManualInv a o db) (act : ManualAct) (horderly : Orderly o db act) :
    ManualInv a o (manualStep host views a db act) := by
  cases act with
  | lease leases => exact ⟨h.manual, h.opened, h.ids, h.sole, h.settled, h.free⟩
  | call call =>
      obtain ⟨kind, receipt, hsame | ⟨c, hop, hkind, hreceipt, hok⟩, horphan⟩ :=
        receiptStep_commands host views h.manual call
      · rw [manualStep, hsame]
        exact h
      · refine h.command hop (fun hk => ?_) hok
        obtain ⟨r, now, f, rfl, rfl⟩ := horphan (hkind.symm.trans hk)
        rw [hreceipt]
        exact horderly

end Inv

/-- In every state of an orderly run about a MANUAL operation, its effect, its reservation, its
usage and its step are as its sole canonical receipt tells, and nothing is settled while it has
none. -/
theorem manual_settlement_follows_receipt (host : Host) (views : ManualViews) (a : SignedArtifact)
    (o : RecoveryOpen) (db : Db) (hnew : Unreceived a o db) (acts : List ManualAct)
    (hok : Run.Along (manualStep host views a) (Orderly o) db acts) (n : Nat) :
    SettlementLaw a.operation o ((acts.take n).foldl (manualStep host views a) db) :=
  (hok.always (P := ManualInv a o) (.init hnew) (fun _ act h hc => h.step act hc) n).law

/-! ## A second block -/

/-- A submitted transaction of a MANUAL operation that buys a token. -/
def manualArtifact : SignedArtifact :=
  { attemptId := "manual-nonce:manual_op_1", operation := "manual_op_1",
    stepId := "manual-exec:manual_op_1", walletId := "wallet", nonce := 7,
    payload := { txHash := "0xtx" } }

def manualOpen : RecoveryOpen :=
  ⟨"manual-nonce:manual_op_1", "wallet", "manual-exec:manual_op_1", 7, "reservation", "auth"⟩

def manualDb : Db :=
  { steps := [{ id := "manual-exec:manual_op_1", operationId := "manual_op_1", stepIndex := 1,
                status := .signed, walletId := some "wallet" }],
    attempts := [{ id := "manual-nonce:manual_op_1", stepId := "manual-exec:manual_op_1",
                   nonce := 7, status := .signed, walletId := "wallet",
                   payload := some { txHash := "0xtx" } }],
    lanes := [{ walletId := "wallet", address := "0xw", state := .signed,
                operationId := some "manual_op_1", stepId := some "manual-exec:manual_op_1",
                reservedNonce := some 7 }],
    riskReservations := [{ id := "reservation", operationId := "manual_op_1",
                           walletId := "wallet", tokenAddress := "0xtoken", policyVersion := 1,
                           inputAmount := "9", state := .reserved }],
    operationUsage := [{ authorizationId := "auth", operationId := "manual_op_1", amount := "9",
                         state := .reserved }],
    leases := [⟨.recovery, "prod", "worker", 1, "2026-01-02T00:00:00Z", "1970-01-01T00:00:00Z"⟩],
    manualOrderSources := [{ operationId := "manual_op_1", stepId := "step" }],
    manualExecutionBindings := [⟨"manual_op_1", "manual-exec:manual_op_1", "wallet", "auth"⟩],
    manualNonceClaims := [{ operationId := "manual_op_1", attemptId := "manual-nonce:manual_op_1",
                            executionStepId := "manual-exec:manual_op_1", walletId := "wallet",
                            nonce := 7, reservationId := "reservation" }],
    manualFirstBindings := [⟨"manual_op_1", "manual-nonce:manual_op_1"⟩],
    manualAdmissionCommands := [⟨"manual_op_1", ⟨.buy, "0xtoken", "9", "5"⟩⟩] }

/-- The recovery source of the operation. -/
def manualViews : ManualViews where
  recoverySource := fun db => db.manualNonceClaims.map fun q =>
    ⟨q.operationId, q.executionStepId, q.attemptId, q.walletId, "0xtx", q.nonce, "prod",
      .submitted⟩

/-- A block hash. -/
def blockHash (digit : Char) : String := "0x" ++ String.ofList (List.replicate 64 digit)

/-- The successful receipt of the transaction in a block. -/
def manualReceipt (digit : Char) : ReceiptObservation :=
  { id := "manual-nonce:manual_op_1/" ++ blockHash digit, attemptId := "manual-nonce:manual_op_1",
    txHash := "0xtx", blockNumber := 1, blockHash := blockHash digit, status := 1,
    state := .observed, version := 0 }

def manualFence : Fence := { lease := some ⟨"prod", "worker", 1⟩ }

def observeBlock (digit : Char) : ManualAct := .call (.observe (manualReceipt digit) 0 manualFence)

def settleBlock (digit : Char) : ManualAct :=
  .call (.canonicalize (manualReceipt digit) (some ⟨"0xtoken", "6"⟩) 0 manualFence)

def orphanBlock (digit : Char) : ManualAct := .call (.orphan (manualReceipt digit) 0 manualFence)

/-- The database after the acts. -/
def manualRun (acts : List ManualAct) : Db :=
  acts.foldl (manualStep Host.plain manualViews manualArtifact) manualDb

/-- The states of the receipts, the effects, the reservations, the usage and the steps. -/
def manualStates (db : Db) : List CanonicalState × List EffectState × List RiskState ×
    List UsageState × List StepStatus :=
  (db.receipts.map (·.state), db.effects.map (·.state), db.riskReservations.map (·.state),
    db.operationUsage.map (·.state), db.steps.map (·.status))

/-- A transaction is settled in a block and seen in a second one. -/
def seenTwice : List ManualAct := [observeBlock 'a', settleBlock 'a', observeBlock 'b']

/-- The first block is reorganised away: its receipt is orphaned, and that of the second block is
settled. -/
theorem manual_reorg_moves_settlement :
    manualStates (manualRun (seenTwice ++ [orphanBlock 'a', settleBlock 'b'])) =
      ([.orphaned, .canonicalSuccess], [.active], [.committed], [.consumed], [.canonicalSuccess]) ∧
    SettlementLaw "manual_op_1" manualOpen
      (manualRun (seenTwice ++ [orphanBlock 'a', settleBlock 'b'])) :=
  ⟨by decide +kernel, manual_settlement_follows_receipt Host.plain manualViews manualArtifact
    manualOpen manualDb (by decide +kernel) (seenTwice ++ [orphanBlock 'a', settleBlock 'b'])
    (by decide +kernel) 5⟩

/-- The receipt of the second block is orphaned, which was never settled: the operation is frozen,
its effect stays active, and settling it again changes nothing. -/
theorem orphan_of_observed_receipt_unsettles :
    Unreceived manualArtifact manualOpen manualDb ∧
    manualStates (manualRun seenTwice) = ([.canonicalSuccess, .observed], [.active], [.committed],
      [.consumed], [.canonicalSuccess]) ∧
    manualStates (manualRun (seenTwice ++ [orphanBlock 'b', settleBlock 'a'])) =
      ([.canonicalSuccess, .orphaned], [.active], [.frozen], [.frozen], [.reconciling]) ∧
    ¬ SettlementLaw "manual_op_1" manualOpen (manualRun (seenTwice ++ [orphanBlock 'b'])) ∧
    ¬ SettlementLaw "manual_op_1" manualOpen
      (manualRun (seenTwice ++ [orphanBlock 'b', settleBlock 'a'])) := by
  refine ⟨?_, ?_, ?_, ?_, ?_⟩ <;> decide +kernel

end RbhTrade.Settlement
