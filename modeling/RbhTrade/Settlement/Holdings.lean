import RbhTrade.Store.ControlledSubmission

/-!
# What an execution holds

An execution holds its wallet's lane, its execution reservation and its risk reservation. The
outcomes of its sends freeze or release them, and each writer selects the rows it changes in its own
way: by operation and wallet, by status, or by a subquery over the submissions. This module says
for each writer what it does to the holdings of one execution, whether or not it was called for that
execution.
-/

namespace RbhTrade.Settlement

open Tables GoTime

/-- An execution: an attempt, its step, and the operation and wallet they belong to. -/
structure Execution where
  attempt : String
  operation : String
  step : String
  wallet : String

namespace Execution

/-- The execution as the tables have it. `ReserveExecution` derives the ids of the step and of the
attempt from the operation, so an operation has one attempt. -/
structure Stored (x : Execution) (db : Db) : Prop where
  attempt : ∀ t ∈ db.attempts, t.id = x.attempt → t.stepId = x.step ∧ t.walletId = x.wallet
  step : ∀ s ∈ db.steps, s.id = x.step → s.operationId = x.operation
  sole : ∀ t ∈ db.attempts, ∀ s ∈ db.steps, s.id = t.stepId → s.operationId = x.operation →
    t.id = x.attempt

/-- A lane names the operation. -/
def Named (x : Execution) (db : Db) : Prop := ∃ l ∈ db.lanes, l.operationId = some x.operation
deriving Decidable

/-- A frozen lane names the operation. -/
def FrozenLane (x : Execution) (db : Db) : Prop :=
  ∃ l ∈ db.lanes, l.operationId = some x.operation ∧ l.state = .frozen

/-- Neither reservation of the operation is released. -/
def Reserved (x : Execution) (db : Db) : Prop :=
  (∀ r ∈ db.reservations, r.operationId = x.operation → r.status ≠ .released) ∧
    ∀ r ∈ db.riskReservations, r.operationId = x.operation → r.state ≠ .released
deriving Decidable

/-- The wallet's lane names the operation and is not idle, and neither reservation is released. -/
def Retained (x : Execution) (db : Db) : Prop :=
  (∃ l ∈ db.lanes, l.walletId = x.wallet) ∧
    (∀ l ∈ db.lanes, l.walletId = x.wallet →
      l.operationId = some x.operation ∧ l.state ≠ .idle) ∧ x.Reserved db

/-- What holds of an execution's holdings whatever was called. A lane that names the operation is
its wallet's and in use; while there is one, nothing is released, and while it is frozen, so is the
execution reservation. -/
structure Holds (x : Execution) (db : Db) : Prop where
  laneKeys : NoConflict WalletLane.Conflicts db.lanes
  lanes : ∀ l ∈ db.lanes, l.operationId = some x.operation →
    l.walletId = x.wallet ∧ l.state ≠ .idle
  kept : x.Named db → x.Reserved db
  frozen : x.FrozenLane db → ∀ r ∈ db.reservations, r.operationId = x.operation →
    r.status = .frozen

variable {x : Execution} {db db' : Db} {a : SignedArtifact}

theorem FrozenLane.named (h : x.FrozenLane db) : x.Named db :=
  h.imp fun _ hl => ⟨hl.1, hl.2.1⟩

theorem Holds.lane_eq (h : x.Holds db) {k l : WalletLane} (hk : k ∈ db.lanes) (hl : l ∈ db.lanes)
    (hwk : k.walletId = x.wallet) (hwl : l.walletId = x.wallet) : k = l :=
  h.laneKeys.eq (fun _ _ => Eq.symm) hk hl (hwk.trans hwl.symm)

theorem Holds.retained (h : x.Holds db) (hn : x.Named db) : x.Retained db := by
  obtain ⟨l, hl, hop⟩ := hn
  have hown := h.lanes l hl hop
  refine ⟨⟨l, hl, hown.1⟩, fun k hk hwk => ?_, h.kept ⟨l, hl, hop⟩⟩
  obtain rfl := h.lane_eq hk hl hwk hown.1
  exact ⟨hop, hown.2⟩

/-! ## Artifacts of the execution -/

theorem Stored.of_identities (h : x.Stored db) (hs : db.SameIdentities db') : x.Stored db' := by
  refine ⟨fun t' ht' hid => ?_, fun s' hs' hid => ?_, fun t' ht' s' hs' hst hop => ?_⟩
  · obtain ⟨t, ht, htid, htstep, htw⟩ := hs.attempt ht'
    rw [← htstep, ← htw]
    exact h.attempt t ht (htid.trans hid)
  · obtain ⟨s, hsm, hsid, hsop, -⟩ := hs.step hs'
    rw [← hsop]
    exact h.step s hsm (hsid.trans hid)
  · obtain ⟨t, ht, htid, htstep, -⟩ := hs.attempt ht'
    obtain ⟨s, hsm, hsid, hsop, -⟩ := hs.step hs'
    rw [← htid]
    exact h.sole t ht s hsm (by rw [hsid, htstep, hst]) (hsop.trans hop)

/-- A stored artifact is the execution's own exactly if its operation is, and then names its
wallet. -/
theorem Stored.own (h : x.Stored db) (ha : db.Stores a) :
    (a.operation = x.operation ↔ a.attemptId = x.attempt) ∧
      (a.operation = x.operation → a.walletId = x.wallet) := by
  obtain ⟨t, ht, s, hs, hid, hstep, hw, hst, hop⟩ := ha
  have hown : a.operation = x.operation → a.attemptId = x.attempt := fun ho => by
    rw [← hid]
    exact h.sole t ht s hs hst (hop.trans ho)
  have hback : a.attemptId = x.attempt → a.operation = x.operation := fun ho => by
    rw [← hop]
    exact h.step s hs (hst.trans (h.attempt t ht (hid.trans ho)).1)
  refine ⟨⟨hown, hback⟩, fun ho => ?_⟩
  rw [← hw]
  exact (h.attempt t ht (hid.trans (hown ho))).2

/-- A consumed permit of the attempt names its operation. -/
theorem Stored.legacySource (h : x.Stored db) {environment : String}
    (hp : db.HasConsumedPermit environment x.attempt) :
    db.LegacySource x.operation x.attempt := by
  obtain ⟨p, -, -, -, -, -, hatt, -, -, hl, -⟩ := hp
  obtain ⟨t, ht, s, hs, hst, hid, hop, -⟩ := hl.2.1
  have hop' := h.step s hs (hst.trans (h.attempt t ht (hid.trans hatt)).1)
  rw [← hatt, ← hop', hop]
  exact hl

/-! ## Writers -/

/-- A write that gives up nothing the execution holds. -/
structure Keeps (x : Execution) (db db' : Db) : Prop where
  holds : x.Holds db'
  named : x.Named db' ↔ x.Named db
  frozen : x.FrozenLane db → x.FrozenLane db'

theorem Keeps.of_same (h : x.Holds db) (hs : db.SameHoldings db') : x.Keeps db db' := by
  have hn : x.Named db' ↔ x.Named db := by
    unfold Named
    rw [hs.lanes]
  have hf : x.FrozenLane db' ↔ x.FrozenLane db := by
    unfold FrozenLane
    rw [hs.lanes]
  refine ⟨⟨hs.lanes ▸ h.laneKeys, hs.lanes ▸ h.lanes, fun hn' => ?_, fun hf' => ?_⟩, hn, hf.mpr⟩
  · rw [Reserved, hs.reservations, hs.riskReservations]
    exact h.kept (hn.mp hn')
  · rw [hs.reservations]
    exact h.frozen (hf.mp hf')

/-- No risk reservation of the operation is newly released. -/
def RiskKept (x : Execution) (db db' : Db) : Prop :=
  ∀ r' ∈ db'.riskReservations, r'.operationId = x.operation → ∃ r ∈ db.riskReservations,
    r.operationId = x.operation ∧ (r'.state = .released → r.state = .released)

section Bulk

/-! A writer selects lanes and reservations by clauses of its own. `hit` says that the clauses
select the rows of this execution. -/

variable {p : WalletLane → Prop} [DecidablePred p] {q : ExecutionReservation → Prop}
  [DecidablePred q] {hit : Prop} {stamp : String}

theorem Holds.freezeWhere (h : x.Holds db) {reason : String}
    (hlanes : db'.lanes = updateWhere p (WalletLane.freeze reason stamp) db.lanes)
    (hres : db'.reservations = updateWhere q
      (fun r => { r with status := .frozen, updatedAt := stamp }) db.reservations)
    (hrisk : x.RiskKept db db')
    (hp : ∀ l ∈ db.lanes, l.operationId = some x.operation → (p l ↔ hit))
    (hq : ∀ r ∈ db.reservations, r.operationId = x.operation → (q r ↔ hit)) :
    x.Keeps db db' ∧ (hit → x.Named db → x.FrozenLane db') := by
  have hn : x.Named db' ↔ x.Named db := by
    unfold Named
    rw [hlanes]
    exact exists_updateWhere_iff fun _ _ => Iff.rfl
  have hthaw : x.FrozenLane db' → hit ∨ x.FrozenLane db := by
    rintro ⟨l, hl, ho, hs⟩
    rw [hlanes] at hl
    obtain ⟨hl, -⟩ | ⟨k, hk, hpk, rfl⟩ := mem_updateWhere_cases hl
    · exact .inr ⟨l, hl, ho, hs⟩
    · exact .inl ((hp k hk ho).mp hpk)
  refine ⟨⟨⟨hlanes ▸ WalletLane.keys_updateWhere h.laneKeys fun _ => rfl, ?_, fun hn' => ⟨?_, ?_⟩,
    ?_⟩, hn, ?_⟩, ?_⟩
  · intro l hl ho
    rw [hlanes] at hl
    obtain ⟨hl, -⟩ | ⟨k, hk, -, rfl⟩ := mem_updateWhere_cases hl
    · exact h.lanes l hl ho
    · exact ⟨(h.lanes k hk ho).1, fun hc => by cases hc⟩
  · intro r hr ho
    rw [hres] at hr
    obtain ⟨hr, -⟩ | ⟨k, -, -, rfl⟩ := mem_updateWhere_cases hr
    · exact (h.kept (hn.mp hn')).1 r hr ho
    · exact fun hc => by cases hc
  · intro r' hr' ho hrel
    obtain ⟨r, hr, hro, hst⟩ := hrisk r' hr' ho
    exact (h.kept (hn.mp hn')).2 r hr hro (hst hrel)
  · intro hf r hr ho
    rw [hres] at hr
    obtain ⟨hr, hno⟩ | ⟨k, -, -, rfl⟩ := mem_updateWhere_cases hr
    · obtain hhit | hf := hthaw hf
      · exact absurd ((hq r hr ho).mpr hhit) hno
      · exact h.frozen hf r hr ho
    · rfl
  · rintro ⟨l, hl, ho, hs⟩
    unfold FrozenLane
    rw [hlanes]
    by_cases hpl : p l
    · exact ⟨_, mem_updateWhere_of_pos hl hpl, ho, rfl⟩
    · exact ⟨l, mem_updateWhere_of_not hl hpl, ho, hs⟩
  · rintro hhit ⟨l, hl, ho⟩
    unfold FrozenLane
    rw [hlanes]
    exact ⟨_, mem_updateWhere_of_pos hl ((hp l hl ho).mpr hhit), ho, rfl⟩

theorem Holds.clearWhere (h : x.Holds db) {reason : Option String}
    (hlanes : db'.lanes = updateWhere p (WalletLane.clear reason stamp) db.lanes)
    (hres : db'.reservations = updateWhere q
      (fun r => { r with status := .released, updatedAt := stamp }) db.reservations)
    (hrisk : ¬ hit → x.RiskKept db db')
    (hp : ∀ l ∈ db.lanes, l.operationId = some x.operation → (p l ↔ hit))
    (hq : ∀ r ∈ db.reservations, r.operationId = x.operation → (q r ↔ hit)) :
    (hit ∧ x.Holds db' ∧ ¬ x.Named db') ∨ (¬ hit ∧ x.Keeps db db') := by
  have hkeys : NoConflict WalletLane.Conflicts db'.lanes :=
    hlanes ▸ WalletLane.keys_updateWhere h.laneKeys fun _ => rfl
  -- A lane that names the operation was left alone.
  have hback : ∀ l ∈ db'.lanes, l.operationId = some x.operation → l ∈ db.lanes ∧ ¬ hit := by
    intro l hl ho
    rw [hlanes] at hl
    obtain ⟨hl, hno⟩ | ⟨k, -, -, rfl⟩ := mem_updateWhere_cases hl
    · exact ⟨hl, fun hhit => hno ((hp l hl ho).mpr hhit)⟩
    · cases ho
  by_cases hhit : hit
  · have hn : ¬ x.Named db' := fun ⟨l, hl, ho⟩ => (hback l hl ho).2 hhit
    exact .inl ⟨hhit, ⟨hkeys, fun l hl ho => absurd hhit (hback l hl ho).2, fun hc => absurd hc hn,
      fun hc => absurd hc.named hn⟩, hn⟩
  · have hforth : ∀ l ∈ db.lanes, l.operationId = some x.operation → l ∈ db'.lanes := by
      intro l hl ho
      rw [hlanes]
      exact mem_updateWhere_of_not hl fun hc => hhit ((hp l hl ho).mp hc)
    have hsame : ∀ r ∈ db'.reservations, r.operationId = x.operation → r ∈ db.reservations := by
      intro r hr ho
      rw [hres] at hr
      obtain ⟨hr, -⟩ | ⟨k, hk, hqk, rfl⟩ := mem_updateWhere_cases hr
      · exact hr
      · exact absurd ((hq k hk ho).mp hqk) hhit
    have hn : x.Named db' ↔ x.Named db :=
      ⟨fun ⟨l, hl, ho⟩ => ⟨l, (hback l hl ho).1, ho⟩, fun ⟨l, hl, ho⟩ => ⟨l, hforth l hl ho, ho⟩⟩
    refine .inr ⟨hhit, ⟨hkeys, fun l hl ho => h.lanes l (hback l hl ho).1 ho, fun hn' => ⟨?_, ?_⟩,
      ?_⟩, hn, fun ⟨l, hl, ho, hs⟩ => ⟨l, hforth l hl ho, ho, hs⟩⟩
    · exact fun r hr ho => (h.kept (hn.mp hn')).1 r (hsame r hr ho) ho
    · intro r' hr' ho hrel
      obtain ⟨r, hr, hro, hst⟩ := hrisk hhit r' hr' ho
      exact (h.kept (hn.mp hn')).2 r hr hro (hst hrel)
    · rintro ⟨l, hl, ho, hs⟩ r hr hro
      exact h.frozen ⟨l, (hback l hl ho).1, ho, hs⟩ r (hsame r hr hro) hro

end Bulk

theorem Holds.ownedBy_iff (h : x.Holds db) (hown : a.operation = x.operation →
    a.walletId = x.wallet)
    {l : WalletLane} (hl : l ∈ db.lanes) (ho : l.operationId = some x.operation) :
    l.OwnedBy a.walletId a.operation ↔ a.operation = x.operation := by
  refine ⟨fun hc => Option.some.inj (hc.2.symm.trans ho), fun hop => ⟨?_, hop ▸ ho⟩⟩
  exact (h.lanes l hl ho).1.trans (hown hop).symm

/-- Freezing an execution gives up nothing, and freezes the lane of the execution it is for. -/
theorem Holds.freeze (h : x.Holds db) {reason stamp : String}
    (hlanes : db'.lanes = (db.freezeLane stamp a.walletId a.operation reason).lanes)
    (hres : db'.reservations = (db.freezeLane stamp a.walletId a.operation reason).reservations)
    (hrisk : ∀ r' ∈ db'.riskReservations, ∃ r ∈ db.riskReservations,
      r.operationId = r'.operationId ∧ (r'.state = .released → r.state = .released))
    (hown : a.operation = x.operation → a.walletId = x.wallet) :
    x.Keeps db db' ∧ (a.operation = x.operation → x.Named db → x.FrozenLane db') := by
  refine h.freezeWhere hlanes hres (fun r' hr' ho => ?_)
    (fun l hl ho => h.ownedBy_iff hown hl ho) fun r _ ho => ?_
  · obtain ⟨r, hr, hro, hst⟩ := hrisk r' hr'
    exact ⟨r, hr, hro.trans ho, hst⟩
  · rw [ho]
    exact eq_comm

/-- Releasing an execution clears its lane, and gives up nothing of another's. -/
theorem Holds.release (h : x.Holds db) {stamp : String}
    (hr : (db.releaseUnsent a stamp none).SameHoldings db')
    (hown : a.operation = x.operation → a.walletId = x.wallet) :
    (a.operation = x.operation ∧ x.Holds db' ∧ ¬ x.Named db') ∨
      (a.operation ≠ x.operation ∧ x.Keeps db db') := by
  refine h.clearWhere hr.lanes hr.reservations (fun hop r' hr' ho => ?_)
    (fun l hl ho => h.ownedBy_iff hown hl ho) fun r _ ho => ?_
  · rw [hr.riskReservations] at hr'
    obtain ⟨hm, -⟩ | ⟨k, -, hpk, rfl⟩ := mem_updateWhere_cases hr'
    · exact ⟨r', hm, ho, id⟩
    · exact absurd (hpk.1.symm.trans ho) hop
  · rw [ho]
    exact eq_comm

/-- Expiring an execution leaves a frozen lane alone, and gives up nothing of another's. -/
theorem Holds.expire (h : x.Holds db) {stamp : String} (he : (db.expire a stamp).SameHoldings db')
    (hown : a.operation = x.operation → a.walletId = x.wallet) :
    x.Holds db' ∧ (x.FrozenLane db → x.FrozenLane db') ∧ (x.Named db' → x.Named db) ∧
      (a.operation ≠ x.operation → x.Named db → x.Named db') := by
  have hkeys : NoConflict WalletLane.Conflicts db'.lanes :=
    he.lanes ▸ WalletLane.keys_updateWhere h.laneKeys fun _ => rfl
  by_cases hop : a.operation = x.operation
  · -- A lane that still names the operation was left alone, so it is frozen.
    have hback : ∀ l ∈ db'.lanes, l.operationId = some x.operation →
        l ∈ db.lanes ∧ l.state = .frozen := by
      intro l hl ho
      rw [he.lanes] at hl
      obtain ⟨hl, hno⟩ | ⟨k, -, -, rfl⟩ := mem_updateWhere_cases hl
      · have hlane := h.lanes l hl ho
        have hol : l.OwnedBy a.walletId a.operation := ⟨hlane.1.trans (hown hop).symm, hop ▸ ho⟩
        refine ⟨hl, ?_⟩
        cases hs : l.state with
        | idle => exact absurd hs hlane.2
        | reserved => exact absurd ⟨hol, .inl hs⟩ hno
        | signed => exact absurd ⟨hol, .inr hs⟩ hno
        | frozen => rfl
      · cases ho
    have hfrozen : x.Named db' → x.FrozenLane db := fun ⟨l, hl, ho⟩ =>
      ⟨l, (hback l hl ho).1, ho, (hback l hl ho).2⟩
    have hres : x.Named db' → ∀ r ∈ db'.reservations, r.operationId = x.operation →
        r ∈ db.reservations := by
      intro hn r hr ho
      rw [he.reservations] at hr
      obtain ⟨hr, -⟩ | ⟨k, hk, hpk, rfl⟩ := mem_updateWhere_cases hr
      · exact hr
      · have hst := h.frozen (hfrozen hn) k hk ho
        obtain hc | hc := hpk.2 <;> rw [hst] at hc <;> cases hc
    refine ⟨⟨hkeys, fun l hl ho => h.lanes l (hback l hl ho).1 ho, fun hn => ?_, fun hf => ?_⟩,
      ?_, fun hn => (hfrozen hn).named, fun hc => absurd hop hc⟩
    · have hkept := h.kept (hfrozen hn).named
      exact ⟨fun r hr ho => hkept.1 r (hres hn r hr ho) ho, he.riskReservations ▸ hkept.2⟩
    · exact fun r hr ho => h.frozen (hfrozen hf.named) r (hres hf.named r hr ho) ho
    · rintro ⟨l, hl, ho, hs⟩
      unfold FrozenLane
      rw [he.lanes]
      refine ⟨l, mem_updateWhere_of_not hl fun hc => ?_, ho, hs⟩
      obtain hc | hc := hc.2 <;> rw [hs] at hc <;> cases hc
  · have hother : (False ∧ x.Holds db' ∧ ¬ x.Named db') ∨ (¬ False ∧ x.Keeps db db') :=
      h.clearWhere he.lanes he.reservations
        (fun _ r hr ho => ⟨r, he.riskReservations ▸ hr, ho, id⟩)
        (fun l _ ho => iff_of_false (fun hc => hop (Option.some.inj (hc.1.2.symm.trans ho))) id)
        fun r _ ho => iff_of_false (fun hc => hop (hc.1.symm.trans ho)) id
    obtain ⟨hc, -⟩ | ⟨-, hk⟩ := hother
    · exact hc.elim
    · exact ⟨hk.holds, hk.frozen, hk.named.mp, fun _ => hk.named.mpr⟩

/-- A recovery clears the lane of an execution whose first send was proved unsent; of any other it
gives up nothing, and it freezes the lane of one whose send is ambiguous. -/
theorem Holds.recover (h : x.Holds db) {environment stamp : String}
    (hr : Recovered environment stamp db db') :
    (db'.OwnsSubmission Submission.FirstKnownUnsent x.operation ∧ x.Holds db' ∧ ¬ x.Named db') ∨
      (¬ db'.OwnsSubmission Submission.FirstKnownUnsent x.operation ∧ x.Keeps db db' ∧
        (db'.OwnsSubmission Submission.RecoveredUnknown x.operation → x.Named db →
          x.FrozenLane db')) := by
  have howner : ∀ (l : WalletLane) (q : String → Prop), l.operationId = some x.operation →
      (l.OwnerIn q ↔ q x.operation) := by
    intro l q ho
    constructor
    · rintro ⟨o, hl, hq⟩
      exact Option.some.inj (hl.symm.trans ho) ▸ hq
    · intro hq
      exact ⟨_, ho, hq⟩
  -- The state between the two groups of writes.
  obtain ⟨db₁, hdb₁⟩ : ∃ db₁, db₁ = db.releaseFirst db' stamp := ⟨_, rfl⟩
  have hl : db'.lanes = (db₁.freezeUnknown db' stamp).lanes := hdb₁ ▸ hr.lanes
  have hres : db'.reservations = (db₁.freezeUnknown db' stamp).reservations :=
    hdb₁ ▸ hr.reservations
  have hk : db'.riskReservations = (db₁.freezeUnknown db' stamp).riskReservations :=
    hdb₁ ▸ hr.riskReservations
  have hrelease : (db'.OwnsSubmission Submission.FirstKnownUnsent x.operation ∧ x.Holds db₁ ∧
        ¬ x.Named db₁) ∨
      (¬ db'.OwnsSubmission Submission.FirstKnownUnsent x.operation ∧ x.Keeps db db₁) := by
    subst hdb₁
    refine h.clearWhere rfl rfl (fun hno r' hr' ho => ?_) (fun l _ ho => howner l _ ho)
      fun r _ ho => by rw [ho]
    obtain ⟨hm, -⟩ | ⟨k, -, hpk, rfl⟩ := mem_updateWhere_cases hr'
    · exact ⟨r', hm, ho, id⟩
    · exact absurd (ho ▸ hpk.1) hno
  have hfreeze : ∀ h₁ : x.Holds db₁, x.Keeps db₁ db' ∧
      (db'.OwnsSubmission Submission.RecoveredUnknown x.operation → x.Named db₁ →
        x.FrozenLane db') := fun h₁ => by
    refine h₁.freezeWhere hl hres (fun r' hr' ho => ?_) (fun l _ ho => howner l _ ho)
      fun r _ ho => by rw [ho]
    rw [hk] at hr'
    obtain ⟨hm, -⟩ | ⟨k, hkm, -, rfl⟩ := mem_updateWhere_cases hr'
    · exact ⟨r', hm, ho, id⟩
    · exact ⟨k, hkm, ho, fun hc => by cases hc⟩
  obtain ⟨hfirst, h₁, hnot⟩ | ⟨hno, h₁⟩ := hrelease
  · have h₂ := (hfreeze h₁).1
    exact .inl ⟨hfirst, h₂.holds, h₂.named.not.mpr hnot⟩
  · obtain ⟨h₂, hfro⟩ := hfreeze h₁.holds
    exact .inr ⟨hno, ⟨h₂.holds, h₂.named.trans h₁.named, fun hf => h₂.frozen (h₁.frozen hf)⟩,
      fun hu hn => hfro hu (h₁.named.mpr hn)⟩

end Execution

end RbhTrade.Settlement
