import RbhTrade.Service.Submit
import RbhTrade.Settlement.Freezes

/-!
# What a closed operation holds

An operation that expired before its send, or whose send is known unsent, is closed: it is to own no
lane and no execution reservation. `ExpirePreBroadcast` gives up only what is not frozen, and a
freeze does not look at the operation; a closed operation that is frozen keeps its lane for good.

The next call closes an expired operation from two points only: `Prepare` before the reservation,
and `Submit` after the signature. Between the two neither of them does.
-/

namespace RbhTrade

/-- The operation was given up before anything was sent. -/
def OperationStatus.Closed (s : OperationStatus) : Prop := s = .expiredPrebroadcast ∨
    s = .knownUnsent
deriving Decidable

/-- The reservation still counts. -/
def ReservationStatus.Held (s : ReservationStatus) : Prop :=
  s = .reserved ∨ s = .signed ∨ s = .frozen
deriving Decidable

theorem ReservationStatus.not_held_released : ¬ ReservationStatus.Held .released := by decide

/-- A send that a crash recovery finds, or has found, ambiguous. -/
def Submission.Doubtful (s : Submission) : Prop :=
  s.failureClass = some .restartAfterSendIntent ∨ (s.state = .submitting ∧ s.sendIntentAt ≠ none)
deriving Decidable

/-- A first send that a crash recovery finds, or has found, not begun. -/
def Submission.NotBegun (s : Submission) : Prop :=
  (s.failureClass = some .restartBeforeSendIntent ∨
    (s.state = .submitting ∧ s.sendIntentAt = none)) ∧
    s.sequence = 0
deriving Decidable

variable {environment stamp : String}

section Recovery

variable {db db' : Db} {operation : String}

/-- A send that the recovery leaves ambiguous was doubtful before. -/
theorem doubtful_of_recovered {s : Submission}
    (h : (recoverSubmission db environment stamp s).RecoveredUnknown) : s.Doubtful := by
  unfold recoverSubmission at h
  split at h
  · rename_i hc
    split at h
    · cases h
    · rename_i hintent
      exact .inr ⟨hc.1, by rw [hintent]; nofun⟩
  · exact .inl h

theorem notBegun_of_recovered {s : Submission}
    (h : (recoverSubmission db environment stamp s).FirstKnownUnsent) : s.NotBegun := by
  unfold recoverSubmission at h
  split at h
  · rename_i hc
    split at h
    · rename_i hintent
      exact ⟨.inr ⟨hc.1, hintent⟩, h.2⟩
    · cases h.1
  · exact ⟨.inl h.1, h.2⟩

/-- The sends that a recovery classifies were there before. -/
theorem Recovered.owns (hr : Recovered environment stamp db db') {q q' : Submission → Prop}
    [DecidablePred q] [DecidablePred q']
    (hq : ∀ s, q' (recoverSubmission db environment stamp s) → q s)
    (h : db'.OwnsSubmission q' operation) : db.OwnsSubmission q operation := by
  obtain ⟨s', hs', t', ht', r', hr', hstep, hattempt, hq', hlegacy, hop⟩ := h
  obtain ⟨s, hs, hsid, hsop, -⟩ := hr.sources.identities.step hs'
  obtain ⟨t, ht, htid, htstep, -⟩ := hr.sources.identities.attempt ht'
  rw [hr.submissions] at hr'
  obtain ⟨r, hmem, rfl⟩ := List.mem_map.mp hr'
  have hid := recoverSubmission_identity db environment stamp r
  simp only [Submission.identity, Prod.mk.injEq] at hid
  refine ⟨s, hs, t, ht, r, hmem, ?_, ?_, hq r hq', ?_, hsop.trans hop⟩
  · rw [htstep, hstep, hsid]
  · rw [← hid.2.1, hattempt, htid]
  · rw [hsop, htid]
    exact hr.sources.symm.legacySource hlegacy

end Recovery

namespace Settlement

open Tables GoTime

/-- The operation owns no lane and no reservation that counts. -/
def HoldsNothing (operation : String) (db : Db) : Prop :=
  (∀ l ∈ db.lanes, l.operationId ≠ some operation) ∧
    ∀ r ∈ db.reservations, r.operationId = operation → ¬ r.status.Held

/-- Closed operations hold nothing. -/
def ClosedHoldNothing (db : Db) : Prop :=
  ∀ o ∈ db.operations, o.status.Closed → HoldsNothing o.id db

/-- The operation is closed. -/
def ClosedIn (db : Db) (operation : String) : Prop :=
  ∃ o ∈ db.operations, o.id = operation ∧ o.status.Closed
deriving Decidable

/-- The call does not freeze, settle or roll back a closed operation, does not expire a frozen one,
and does not recover an ambiguous send of an operation that is closed or is closed by it. -/
def SparesClosed (db : Db) : ExecutionCall → Prop
  | .lane (.freezeExecution _ operation ..) => ¬ ClosedIn db operation
  | .lane (.receipt a (.orphan ..)) => ¬ ClosedIn db a.operation
  | .lane (.finishSubmission a ..) => ¬ ClosedIn db a.operation
  | .sendGate _ _ _ a .. => ¬ ClosedIn db a.operation
  | .sendOutcome _ _ a .. => ¬ ClosedIn db a.operation
  | .lane (.expirePreBroadcast a ..) => ¬ FrozenFor a.walletId a.operation db ∧
      ∀ r ∈ db.reservations, r.operationId = a.operation → r.status ≠ .frozen
  | .recover .. => ∀ o ∈ db.operations, db.OwnsSubmission Submission.Doubtful o.id →
      ¬ o.status.Closed ∧ ¬ db.OwnsSubmission Submission.NotBegun o.id
  | _ => True

instance (db : Db) : DecidablePred (SparesClosed db) := fun call => by
  unfold SparesClosed
  split <;> infer_instance

/-! ## One transaction -/

variable {a : SignedArtifact}

section Step

variable {host : ServiceHost} {db db' : Db} {operation : String}

theorem SparesClosed.outcome {call : ExecutionCall} (h : SparesClosed db call)
    (ha : call.outcomeOf = some a) : ¬ ClosedIn db a.operation := by
  unfold ExecutionCall.outcomeOf at ha
  split at ha
  · exact Option.some.inj ha ▸ h
  · exact Option.some.inj ha ▸ h
  · exact Option.some.inj ha ▸ h
  · cases ha

/-- The operation gains no lane and no reservation that counts. -/
structure GainsNothing (operation : String) (db db' : Db) : Prop where
  lanes : ∀ l ∈ db'.lanes, l.operationId = some operation →
    ∃ k ∈ db.lanes, k.operationId = some operation
  reservations : ∀ r ∈ db'.reservations, r.operationId = operation → r.status.Held →
    ∃ q ∈ db.reservations, q.operationId = operation ∧ q.status.Held

theorem HoldsNothing.keep (h : HoldsNothing operation db) (hg : GainsNothing operation db db') :
    HoldsNothing operation db' := by
  refine ⟨fun l hl ho => ?_, fun r hr ho hheld => ?_⟩
  · obtain ⟨k, hk, hko⟩ := hg.lanes l hl ho
    exact h.1 k hk hko
  · obtain ⟨q, hq, hqo, hqh⟩ := hg.reservations r hr ho hheld
    exact h.2 q hq hqo hqh

theorem GainsNothing.same (hl : db'.lanes = db.lanes) (hr : db'.reservations = db.reservations) :
    GainsNothing operation db db' :=
  ⟨fun l hm ho => ⟨l, hl ▸ hm, ho⟩, fun r hm ho hs => ⟨r, hr ▸ hm, ho, hs⟩⟩

/-- A write to the lanes that names no new operation, and to the reservation of another one. -/
theorem GainsNothing.other {p : WalletLane → Prop} [DecidablePred p] {f : WalletLane → WalletLane}
    {k : String} {q : ExecutionReservation → Prop} [DecidablePred q]
    {g : ExecutionReservation → ExecutionReservation} (hl : db'.lanes = updateWhere p f db.lanes)
    (hr : db'.reservations = updateWhere q g db.reservations)
    (hf : ∀ l ∈ db.lanes, p l → (f l).operationId = some operation → l.operationId = some operation)
    (hq : ∀ r, q r → r.operationId = k) (hg : ∀ r, (g r).operationId = r.operationId)
    (hne : operation ≠ k) : GainsNothing operation db db' := by
  constructor
  · intro l hm ho
    rw [hl] at hm
    obtain ⟨hm, -⟩ | ⟨x, hx, hp, rfl⟩ := mem_updateWhere_cases hm
    · exact ⟨l, hm, ho⟩
    · exact ⟨x, hx, hf x hx hp ho⟩
  · intro r hm ho hs
    rw [hr] at hm
    obtain ⟨hm, -⟩ | ⟨x, -, hx, rfl⟩ := mem_updateWhere_cases hm
    · exact ⟨r, hm, ho, hs⟩
    · exact absurd (ho.symm.trans ((hg x).trans (hq x hx))) hne

/-- It is enough to look at the operations that are closed afterwards. -/
theorem ClosedHoldNothing.step (h : ClosedHoldNothing db)
    (hstep : ∀ o ∈ db'.operations, o.status.Closed →
      (ClosedIn db o.id ∧ GainsNothing o.id db db') ∨ HoldsNothing o.id db') :
    ClosedHoldNothing db' := by
  intro o ho hc
  obtain ⟨⟨x, hx, hid, hxc⟩, hg⟩ | hnone := hstep o ho hc
  · exact hid ▸ (h x hx hxc).keep (hid.symm ▸ hg)
  · exact hnone

theorem ClosedHoldNothing.same (h : ClosedHoldNothing db) (ho : db'.operations = db.operations)
    (hl : db'.lanes = db.lanes) (hr : db'.reservations = db.reservations) :
    ClosedHoldNothing db' :=
  h.step fun o hm hc => .inl ⟨⟨o, ho ▸ hm, rfl, hc⟩, .same hl hr⟩

/-- A write to one operation. The others keep their status and gain nothing. -/
theorem ClosedHoldNothing.update (h : ClosedHoldNothing db) {k : String} {f : Operation → Operation}
    (ho : db'.operations = updateWhere (·.id = k) f db.operations) (hid : ∀ o, (f o).id = o.id)
    (hk : (∀ o, ¬ (f o).status.Closed) ∨ HoldsNothing k db')
    (hother : ∀ o, o ≠ k → GainsNothing o db db') : ClosedHoldNothing db' := by
  refine h.step fun o hm hc => ?_
  rw [ho] at hm
  obtain ⟨hm, hne⟩ | ⟨x, -, hx, rfl⟩ := mem_updateWhere_cases hm
  · exact .inl ⟨⟨o, hm, rfl, hc⟩, hother o.id hne⟩
  · obtain hopen | hnone := hk
    · exact absurd hc (hopen x)
    · rw [hid, hx]
      exact .inr hnone

/-- A freeze of an operation that is not closed. -/
theorem ClosedHoldNothing.freeze (h : ClosedHoldNothing db) {p : WalletLane → Prop}
    [DecidablePred p] {f : WalletLane → WalletLane} {k : String} (hopen : ¬ ClosedIn db k)
    (ho : db'.operations = db.operations) (hl : db'.lanes = updateWhere p f db.lanes)
    (hr : db'.reservations = updateWhere (·.operationId = k)
      (fun r => { r with status := .frozen, updatedAt := stamp }) db.reservations)
    (hf : ∀ o, o ≠ k → ∀ l ∈ db.lanes, p l → (f l).operationId = some o → l.operationId = some o) :
    ClosedHoldNothing db' := by
  refine h.step fun o hm hc => ?_
  have hclosed : ClosedIn db o.id := ⟨o, ho ▸ hm, rfl, hc⟩
  have hne : o.id ≠ k := fun he => hopen (he ▸ hclosed)
  exact .inl ⟨hclosed, .other hl hr (hf o.id hne) (fun _ hr => hr) (fun _ => rfl) hne⟩

theorem ClosedHoldNothing.reserve (h : ClosedHoldNothing db) {k walletId signer : String}
    {nonce : Nat} (hl : LaneReserved k walletId signer stamp db db')
    (hm : ReservationMade host.toHost k walletId nonce stamp db db') : ClosedHoldNothing db' := by
  obtain ⟨step, laneNonce, hlanes⟩ := hl.lanes
  obtain ⟨r₀, hop, -, -, hres⟩ := hm.reservations
  refine h.update hm.operations (fun _ => rfl) (.inl fun _ => by simp [OperationStatus.Closed])
    fun o hne => ⟨?_, ?_⟩
  · intro l hmem ho
    rw [hlanes] at hmem
    obtain ⟨hmem, -⟩ | ⟨x, -, -, rfl⟩ := mem_updateWhere_cases hmem
    · unfold withLane at hmem
      split at hmem
      · exact ⟨l, hmem, ho⟩
      · obtain hmem | hmem := List.mem_append.mp hmem
        · exact ⟨l, hmem, ho⟩
        · rw [List.mem_singleton.mp hmem] at ho
          cases ho
    · exact absurd (Option.some.inj ho).symm hne
  · intro r hmem ho hs
    rw [hres] at hmem
    obtain hmem | hmem := List.mem_append.mp hmem
    · exact ⟨r, hmem, ho, hs⟩
    · rw [List.mem_singleton.mp hmem] at ho
      exact absurd (ho.symm.trans hop) hne

theorem Keyed.ownedBy (hk : Keyed host.toHost db) (ha : db.Stores a) {l : WalletLane}
    (hl : l ∈ db.lanes) (ho : l.operationId = some a.operation) :
    l.OwnedBy a.walletId a.operation :=
  ⟨hk.wallet_eq (hk.lanes.named l hl _ ho) (executes_of_stores ha), ho⟩

/-- What expires without being frozen holds nothing afterwards. -/
theorem holdsNothing_expire (hk : Keyed host.toHost db) (stamp : String) (rows : List Submission)
    (ha : db.Stores a) (hlane : ¬ FrozenFor a.walletId a.operation db)
    (hres : ∀ r ∈ db.reservations, r.operationId = a.operation → r.status ≠ .frozen) :
    HoldsNothing a.operation ({ db with submissions := rows }.expire a stamp) := by
  refine ⟨fun l hl ho => ?_, fun r hr ho hheld => ?_⟩
  · obtain ⟨hl, hno⟩ | ⟨x, -, -, rfl⟩ := mem_updateWhere_cases hl
    · have hown := hk.ownedBy ha hl ho
      cases hs : l.state with
      | idle =>
          rw [hk.lanes.idle l hl hs] at ho
          cases ho
      | reserved => exact hno ⟨hown, .inl hs⟩
      | signed => exact hno ⟨hown, .inr hs⟩
      | frozen => exact hlane ⟨l, hl, hown, hs⟩
    · cases ho
  · obtain ⟨hr, hno⟩ | ⟨x, -, -, rfl⟩ := mem_updateWhere_cases hr
    · obtain hs | hs | hs := hheld
      · exact hno ⟨ho, .inl hs⟩
      · exact hno ⟨ho, .inr hs⟩
      · exact hres r hr ho hs
    · exact ReservationStatus.not_held_released hheld

/-- What is known unsent holds nothing. -/
theorem holdsNothing_release (hk : Keyed host.toHost db) {c : Option FailureClass} {mid : Db}
    (hl : mid.lanes = db.lanes) (ha : db.Stores a) :
    HoldsNothing a.operation (mid.releaseUnsent a stamp c) := by
  refine ⟨fun l hm ho => ?_, fun r hr ho hheld => ?_⟩
  · obtain ⟨hm, hno⟩ | ⟨x, -, -, rfl⟩ := mem_updateWhere_cases hm
    · exact hno (hk.ownedBy ha (hl ▸ hm) ho)
    · cases ho
  · obtain ⟨-, hno⟩ | ⟨x, -, -, rfl⟩ := mem_updateWhere_cases hr
    · exact hno ho
    · exact ReservationStatus.not_held_released hheld

theorem ClosedHoldNothing.recover (h : ClosedHoldNothing db)
    (hr : Recovered environment stamp db db') (hok : ∀ o ∈ db.operations,
    db.OwnsSubmission Submission.Doubtful o.id →
      ¬ o.status.Closed ∧ ¬ db.OwnsSubmission Submission.NotBegun o.id) :
    ClosedHoldNothing db' := by
  refine h.step fun o ho hc => ?_
  -- A closed operation has no ambiguous send, so the second group of writes leaves it alone.
  have hsure : ¬ db'.OwnsSubmission Submission.RecoveredUnknown o.id := by
    intro hunknown
    have hdoubt := hr.owns (fun _ => doubtful_of_recovered) hunknown
    rw [hr.operations] at ho
    obtain ⟨ho, -⟩ | ⟨x, hx, hfirst, rfl⟩ := mem_updateWhere_cases ho
    · exact (hok o ho hdoubt).1 hc
    · exact (hok x hx hdoubt).2 (hr.owns (fun _ => notBegun_of_recovered) hfirst)
  have hlane : ∀ l ∈ db'.lanes, l.operationId = some o.id →
      ¬ db'.OwnsSubmission Submission.FirstKnownUnsent o.id ∧
        ∃ k ∈ db.lanes, k.operationId = some o.id := by
    intro l hl hlo
    rw [hr.lanes] at hl
    have hmid : ∃ k ∈ updateWhere (·.OwnerIn (db'.OwnsSubmission Submission.FirstKnownUnsent))
        (WalletLane.clear (some "known_unsent") stamp) db.lanes, k.operationId = some o.id := by
      obtain ⟨hl, -⟩ | ⟨k, hk, -, rfl⟩ := mem_updateWhere_cases hl
      · exact ⟨l, hl, hlo⟩
      · exact ⟨k, hk, hlo⟩
    obtain ⟨k, hk, hko⟩ := hmid
    obtain ⟨hk, hno⟩ | ⟨x, -, -, rfl⟩ := mem_updateWhere_cases hk
    · exact ⟨fun hfirst => hno ⟨o.id, hko, hfirst⟩, k, hk, hko⟩
    · cases hko
  have hres : ∀ r ∈ db'.reservations, r.operationId = o.id → r.status.Held →
      ¬ db'.OwnsSubmission Submission.FirstKnownUnsent o.id ∧ r ∈ db.reservations := by
    intro r hm hro hheld
    rw [hr.reservations] at hm
    obtain ⟨hm, -⟩ | ⟨x, hx, hunknown, rfl⟩ := mem_updateWhere_cases hm
    · obtain ⟨hm, hno⟩ | ⟨x, -, -, rfl⟩ := mem_updateWhere_cases hm
      · exact ⟨hro ▸ hno, hm⟩
      · exact absurd hheld ReservationStatus.not_held_released
    · exact absurd (hro ▸ hunknown) hsure
  have hmem := ho
  rw [hr.operations] at hmem
  obtain ⟨hmem, -⟩ | ⟨x, -, hfirst, rfl⟩ := mem_updateWhere_cases hmem
  · refine .inl ⟨⟨o, hmem, rfl, hc⟩, fun l hl hlo => (hlane l hl hlo).2, fun r hm hro hheld => ?_⟩
    exact ⟨r, (hres r hm hro hheld).2, hro, hheld⟩
  · exact .inr ⟨fun l hl hlo => (hlane l hl hlo).1 hfirst,
      fun r hm hro hheld => (hres r hm hro hheld).1 hfirst⟩

theorem ClosedHoldNothing.wrote (h : ClosedHoldNothing db) {call : ExecutionCall}
    (hk : Keyed host.toHost db) (hok : SparesClosed db call) (hw : Wrote host db call db') :
    ClosedHoldNothing db' := by
  cases hw with
  | nothing => exact h
  | beside hs ho => exact h.same ho hs.lanes hs.reservations
  | admitted _ hstatus =>
      refine h.step fun x hx hc => ?_
      obtain hx | hx := List.mem_append.mp hx
      · exact .inl ⟨⟨x, hx, rfl, hc⟩, .same rfl rfl⟩
      · rw [List.mem_singleton.mp hx, hstatus] at hc
        exact absurd hc (by decide)
  | dryRun _ ho =>
      refine h.update rfl (fun o => (ho o).1) (.inl fun o hc => ?_) fun _ _ => .same rfl rfl
      obtain hs | hs | hs := (ho o).2 <;> rw [hs] at hc <;> exact absurd hc (by decide)
  | unreserved hfree =>
      refine h.step fun o ho hc => ?_
      obtain ⟨ho, -⟩ | ⟨x, -, hx, rfl⟩ := mem_updateWhere_cases ho
      · exact .inl ⟨⟨o, ho, rfl, hc⟩, .same rfl rfl⟩
      · -- It has no attempt, so it has neither a lane nor a reservation.
        have hnone : ∀ w, ¬ Executes db x.id w := fun w ⟨t, ht, s, hs, hst, hop, _⟩ =>
          hfree t ht s hs hst (hop.trans hx.1)
        exact .inr ⟨fun l hl ho => hnone _ (hk.lanes.named l hl _ ho),
          fun r hr ho _ => hnone r.walletId (ho ▸ hk.reserved r hr)⟩
  | reserved _ hl hm => exact h.reserve hl hm
  | signed =>
      refine h.update rfl (fun _ => rfl) (.inl fun _ => by simp [OperationStatus.Closed])
        fun o hne => ?_
      exact .other rfl rfl (fun _ _ _ ho => ho) (fun _ hr => hr) (fun _ => rfl) hne
  | opened hs ho => exact h.same ho hs.lanes hs.reservations
  | marked hs ho => exact h.same ho hs.lanes hs.reservations
  | settled => exact h.same rfl rfl rfl
  | released leases hout =>
      refine h.update rfl (fun _ => rfl) (.inr (holdsNothing_release hk rfl hout.stored))
        fun o hne => ?_
      exact .other rfl rfl (fun _ _ _ ho => by cases ho) (fun _ hr => hr) (fun _ => rfl) hne
  | @frozen call a _ _ _ _ _ hout =>
      refine h.freeze (k := a.operation) ?_ rfl rfl rfl fun _ _ _ _ _ ho => ho
      exact hok.outcome hout.of
  | @frozenRisk call a _ _ _ _ _ hout =>
      refine h.freeze (k := a.operation) ?_ rfl rfl rfl fun _ _ _ _ _ ho => ho
      exact hok.outcome hout.of
  | froze => exact h.freeze hok rfl rfl rfl fun _ _ _ _ _ ho => ho
  | expired ha =>
      refine h.update rfl (fun _ => rfl) (.inr (holdsNothing_expire hk _ _ ha hok.1 hok.2))
        fun o hne => ?_
      exact .other rfl rfl (fun _ _ _ ho => by cases ho) (fun _ hr => hr.1) (fun _ => rfl) hne
  | @canonicalized a r _ _ _ _ _ hc =>
      refine h.update hc.operations (fun _ => rfl) (.inl fun _ => ?_) fun o hne => ?_
      · by_cases hs : r.status = 1 <;> simp [hs, OperationStatus.Closed]
      · exact .other hc.lanes hc.reservations (fun _ _ _ ho => by cases ho) (fun _ hr => hr)
          (fun _ => rfl) hne
  | @orphaned a _ _ _ _ _ _ ho =>
      refine h.freeze hok ho.operations ho.lanes ho.reservations fun o hne l _ _ hlo => ?_
      split at hlo
      · exact absurd (Option.some.inj hlo).symm hne
      · exact hlo
  | recovered hr => exact h.recover hr hok

end Step

/-! ## The next call -/

/-- The operation has expired and holds nothing: its lane is idle or another operation's, and its
reservation is released or absent. -/
structure ExpiredFree (operation : String) (db : Db) : Prop where
  status : ∃ o ∈ db.operations, o.id = operation ∧ o.status = .expiredPrebroadcast
  lanes : ∀ l ∈ db.lanes, l.operationId ≠ some operation
  reservations : ∀ r ∈ db.reservations, r.operationId = operation → r.status = .released

/-- `Prepare` finds an operation that passed its dry run, has no attempt and is past its TTL. -/
structure PrepareExpires (host : ServiceHost) (operation walletId : String) (x : PrepareInput)
    (db : Db) : Prop where
  named : operation ≠ "" ∧ walletId ≠ ""
  unreserved : ∀ t ∈ db.attempts, ∀ s ∈ db.steps, s.id = t.stepId → s.operationId ≠ operation
  status : ∃ o ∈ db.operations, o.id = operation ∧ o.status = .dryRunSucceeded
  candidate : ∃ request dryRun wallet e,
    ((executionCandidate host operation walletId).alone db).1 = .ok (request, dryRun, wallet) ∧
      request.checkTTL x.ttl = .error e
  clock : x.unreservedAt ≠ zeroInstant

/-- `Submit` finds a signed artifact that was never sent, is past its TTL and is not frozen. -/
structure SubmitExpires (host : ServiceHost) (operation : String) (clock : SubmitClock) (db : Db) :
    Prop where
  signed : ∃ a, loadEncryptedArtifact host.toHost db operation = some a ∧
    host.openArtifact a.payload ≠ none ∧ (∀ s ∈ db.submissions, s.attemptId ≠ a.attemptId) ∧
    ¬ FrozenFor a.walletId operation db
  expired : ∃ e, checkOperationTTL db operation clock.ttl = .error e
  reservations : ∀ r ∈ db.reservations, r.operationId = operation →
    r.status = .reserved ∨ r.status = .signed ∨ r.status = .released
  clock : clock.outcome ≠ zeroInstant

section Calls

variable {host : ServiceHost} {db : Db} {operation walletId : String}

theorem loadEncryptedArtifact_unreserved
    (h : ∀ t ∈ db.attempts, ∀ s ∈ db.steps, s.id = t.stepId → s.operationId ≠ operation) :
    loadEncryptedArtifact host.toHost db operation = none := by
  refine Option.eq_none_iff_forall_ne_some.mpr fun a ha => ?_
  obtain ⟨t, ht, -, -, ⟨s, hs, hst, hop⟩, -⟩ := loadEncryptedArtifact_row ha
  exact h t ht s hs hst hop

/-- The candidate is only read. -/
theorem executionCandidate_alone :
    ((executionCandidate host operation walletId).alone db).2 = db := by
  simp only [executionCandidate, Process.alone_bind, Process.alone_read]
  split
  · rfl
  · simp only [Process.alone_bind, Process.alone_read]
    split
    · rfl
    · split
      · rfl
      · split
        · simp only [Process.alone_bind, Process.alone_read]
          split
          · rfl
          · split <;> rfl
        · rfl

/-- Without an attempt, `ExpireUnreserved` commits. -/
theorem expireUnreserved_commits (hk : KeyUnique Operation.id db.operations) {now : Instant}
    (hop : operation ≠ "") (hnow : now ≠ zeroInstant)
    (hfree : ∀ t ∈ db.attempts, ∀ s ∈ db.steps, s.id = t.stepId → s.operationId ≠ operation)
    (hstatus : ∃ o ∈ db.operations, o.id = operation ∧ o.status = .dryRunSucceeded) :
    ∃ db', expireUnreserved operation now db = .ok ((), db') := by
  have hone : affected (fun o => o.id = operation ∧ o.status = .dryRunSucceeded)
      db.operations = 1 := by
    refine le_antisymm ?_ (affected_pos_iff.mpr hstatus)
    have hkeys : NoConflict (fun x y : Operation => x.id = y.id) db.operations :=
      List.pairwise_map.mp hk
    exact hkeys.affected_le_one fun o _ p _ hx hy => hx.1.trans hy.1.symm
  simp only [expireUnreserved, Tx.require_bind_ok, Tx.query_bind, id_eq, Tx.exec_ok]
  exact ⟨_, ⟨hop, hnow⟩, hfree, hone, rfl⟩

theorem prepare_expires (hk : Keyed host.toHost db) {x : PrepareInput}
    (h : PrepareExpires host operation walletId x db) :
    ExpiredFree operation ((prepare host operation walletId x).alone db).2 := by
  obtain ⟨request, dryRun, wallet, e, hcandidate, httl⟩ := h.candidate
  obtain ⟨db', hok⟩ := expireUnreserved_commits hk.operations h.named.1 h.clock h.unreserved
    h.status
  have hafter : ((prepare host operation walletId x).alone db).2 = db' := by
    unfold prepare
    rw [if_neg (not_or.mpr h.named)]
    simp only [Process.alone_bind, Process.alone_read,
      loadEncryptedArtifact_unreserved h.unreserved, prepareNew, hcandidate,
      executionCandidate_alone, httl, Process.alone_tx]
    exact Tx.stateAfter_ok hok
  obtain ⟨-, rfl⟩ := expireUnreserved_ok hok
  have hnone : ∀ w, ¬ Executes db operation w := fun w ⟨t, ht, s, hs, hst, hop, _⟩ =>
    h.unreserved t ht s hs hst hop
  rw [hafter]
  obtain ⟨o, ho, hid, hs⟩ := h.status
  exact ⟨⟨_, mem_updateWhere_of_pos ho ⟨hid, hs⟩, hid, rfl⟩,
    fun l hl ho => hnone _ (hk.lanes.named l hl _ ho),
    fun r hr ho => absurd (ho ▸ hk.reserved r hr) (hnone r.walletId)⟩

/-- Without a submission, `ExpirePreBroadcast` commits. -/
theorem expirePreBroadcast_commits (hindex : UnresolvedOnce db.steps) {now : Instant}
    (hnow : now ≠ zeroInstant) (hnone : ∀ s ∈ db.submissions, s.attemptId ≠ a.attemptId) :
    expirePreBroadcast a none now db = .ok ((), db.expire a (formatRFC3339Nano now)) := by
  have hzero : affected (·.attemptId = a.attemptId) db.submissions = 0 :=
    List.countP_eq_zero.mpr fun s hs => by simpa using hnone s hs
  have hresolved : UnresolvedOnce (updateWhere (·.id = a.stepId) (fun s : ExecutionStep =>
      { s with status := .expiredPrebroadcast, updatedAt := formatRFC3339Nano now }) db.steps) :=
    hindex.resolve fun _ => ⟨rfl, (show ¬ StepStatus.Unresolved .expiredPrebroadcast by decide)⟩
  simp only [expirePreBroadcast, Tx.require_bind_ok, Tx.query_bind, updateTx_ok]
  exact ⟨hnow, hzero, hresolved, trivial⟩

theorem submit_expires (hk : Keyed host.toHost db) {clock : SubmitClock} {answer : Option Answer}
    (h : SubmitExpires host operation clock db) :
    ExpiredFree operation (submit host.toHost operation false clock answer db).2 := by
  obtain ⟨a, hload, hopen, hnone, hlane⟩ := h.signed
  obtain ⟨e, hexpired⟩ := h.expired
  obtain ⟨ha, rfl⟩ := loadEncryptedArtifact_some hload
  have hlatest : latestSubmission a.attemptId db.submissions = none :=
    selectRow_eq_none.mpr fun s hs hc => hnone s hs hc.1
  have hafter : (submit host.toHost a.operation false clock answer db).2 =
      db.expire a (formatRFC3339Nano clock.outcome) := by
    obtain ⟨raw, hraw⟩ := Option.ne_none_iff_exists'.mp hopen
    simp only [submit, hload, hraw, hlatest, sendArtifact, hexpired]
    exact Tx.stateAfter_ok (expirePreBroadcast_commits hk.index h.clock hnone)
  have hfree := holdsNothing_expire hk (formatRFC3339Nano clock.outcome) db.submissions ha hlane
    fun r hr ho hf => by
      obtain hs | hs | hs := h.reservations r hr ho <;> rw [hs] at hf <;> cases hf
  rw [hafter]
  refine ⟨?_, hfree.1, fun r hr ho => ?_⟩
  · obtain ⟨_, _, _, _, _, o, ho, hid⟩ := loadEncryptedArtifact_row hload
    exact ⟨_, mem_updateWhere_of_pos ho hid, hid, rfl⟩
  · obtain ⟨hr, hno⟩ | ⟨q, -, -, rfl⟩ := mem_updateWhere_cases hr
    · obtain hs | hs | hs := h.reservations r hr ho
      · exact absurd ⟨ho, .inl hs⟩ hno
      · exact absurd ⟨ho, .inr hs⟩ hno
      · exact hs
    · rfl

end Calls

/-! ## Runs -/

theorem Untouched.closedHoldNothing {db : Db} (h : Untouched db) : ClosedHoldNothing db := by
  refine fun o _ _ => ⟨fun l hl ho => ?_, fun r hr => ?_⟩
  · rw [h.lanes l hl] at ho
    cases ho
  · rw [h.reservations] at hr
    cases hr

/-- After any number of transactions of a run that spares what is closed, closed operations hold
nothing. The next `Prepare` of an operation that has passed its TTL before it was reserved, and the
next `Submit` of one that has passed it before it was sent, expires it and leaves it nothing. -/
theorem expired_operation_holds_nothing (host : ServiceHost) (views : ManualViews) (db : Db)
    (hnew : Untouched db) (calls : List ExecutionCall)
    (hok : Run.Along (executionStep host views) SparesClosed db calls) (n : Nat) :
    let now := (calls.take n).foldl (executionStep host views) db
    ClosedHoldNothing now ∧
      (∀ operation walletId x, PrepareExpires host operation walletId x now →
        ExpiredFree operation ((prepare host operation walletId x).alone now).2) ∧
      ∀ operation clock answer, SubmitExpires host operation clock now →
        ExpiredFree operation (submit host.toHost operation false clock answer now).2 := by
  intro now
  have hinv : Keyed host.toHost now ∧ ClosedHoldNothing now :=
    hok.always (P := fun db => Keyed host.toHost db ∧ ClosedHoldNothing db)
      ⟨hnew.keyed, hnew.closedHoldNothing⟩ (fun db call h hc => ⟨h.1.step views call,
        h.2.wrote h.1 hc (executionStep_wrote host views db call)⟩) n
  exact ⟨hinv.2, fun _ _ _ => prepare_expires hinv.1, fun _ _ _ => submit_expires hinv.1⟩

/-! ### The points between the two -/

/-- An operation that passed its dry run, with its TTL. -/
def ttlDb : Db :=
  { Kernel.candidateDb with
    operations := [{ id := "a", walletId := "wallet", requestJson := "a", requestFingerprint := "a",
                     status := .dryRunSucceeded, policyVersion := some 1,
                     deadlineCapability := some "APPLICATION_TTL_ONLY",
                     expiresAt := some "2026-01-02T00:00:00Z" }] }

/-- A time after the TTL: the first of January 2027. -/
def lateTime : Instant := 1798761600 * nanosPerSecond

/-- A call of `Prepare` all of whose clock reads are late. -/
def latePrepare : PrepareInput :=
  { (Kernel.callerWith "0x1").input with
    ttl := lateTime, unreservedAt := lateTime, recheck := lateTime, expiredAt := lateTime }

def lateSubmit : SubmitClock := ⟨lateTime, lateTime, lateTime, lateTime⟩

/-- The transactions of a `Prepare` that signs. -/
def preparedRun : List ExecutionCall := [reserveOp "a" 7, signA].map .lane

theorem ttlDb_untouched : Untouched ttlDb where
  operations := (show List.Nodup _ by decide)
  steps := by decide
  wallets := by decide
  attempts := rfl
  reservations := rfl
  submissions := rfl
  keys := .nil
  lanes := fun _ hl => absurd hl List.not_mem_nil

theorem signed_operation_expires :
    ExpiredFree "a" (submit ServiceHost.plain.toHost "a" false lateSubmit none
      ((preparedRun.take 2).foldl (executionStep ServiceHost.plain {}) ttlDb)).2 := by
  refine (expired_operation_holds_nothing ServiceHost.plain {} ttlDb ttlDb_untouched preparedRun
    (by decide +kernel) 2).2.2 "a" lateSubmit none ⟨⟨artifactA, ?_⟩, ⟨.ttlExpired, ?_⟩, ?_, ?_⟩
  all_goals decide +kernel

/-- The status, the lanes and the reservations of what an execution left. -/
def leftovers (db : Db) :
    List OperationStatus × List (Option String × LaneState) × List ReservationStatus :=
  (db.operations.map (·.status), db.lanes.map fun l => (l.operationId, l.state),
    db.reservations.map (·.status))

/-- A process that dies after its reservation leaves an operation that neither call expires.
`Prepare` of a signed operation returns its artifact, however late. A reservation that was frozen
expires and stays frozen. -/
theorem late_prepare_expires_nothing :
    let reserved := [ExecutionCall.lane (reserveOp "a" 7)].foldl
      (executionStep ServiceHost.plain {}) ttlDb
    let signed := preparedRun.foldl (executionStep ServiceHost.plain {}) ttlDb
    let drifted := ((Kernel.prepareProgram ServiceHost.plain "a" driftedCaller).alone ttlDb).2
    leftovers ((prepare ServiceHost.plain "a" "wallet" latePrepare).alone reserved).2 =
      ([.executionPrepared], [(some "a", .reserved)], [.reserved]) ∧
    leftovers (submit ServiceHost.plain.toHost "a" false lateSubmit none reserved).2 =
      ([.executionPrepared], [(some "a", .reserved)], [.reserved]) ∧
    leftovers ((prepare ServiceHost.plain "a" "wallet" latePrepare).alone signed).2 =
      ([.signedPrebroadcast], [(some "a", .signed)], [.signed]) ∧
    leftovers ((prepare ServiceHost.plain "a" "wallet"
        { latePrepare with ttl := 0 }).alone drifted).2 =
      ([.expiredPrebroadcast], [(some "a", .frozen)], [.frozen]) := by
  refine ⟨?_, ?_, ?_, ?_⟩ <;> decide +kernel

end Settlement

end RbhTrade
