import RbhTrade.Lib.Claims
import RbhTrade.Controlled.System

/-!
# The invariant of the controlled workers

The invariant has three parts. The tables satisfy their own constraints, and a submission row that
was recovered before its send intent has none. The submissions and the permits that workers hold
are exclusive claims in the sense of `Claims.Exclusive`: a row belongs to one worker at a time, a
permit is behind one row, and each is spent by at most one broadcaster call. And every claim, held
or spent, is backed by the database: its row exists, its permit is consumed, its gates passed, and
once the worker has moved past the intent marker the row carries the intent.

What a single transaction may do to the tables is said once, by `RowStep` for a submission row and
by `Grows` for the tables; each action is then a few lines.
-/

namespace RbhTrade

open Tables GoTime Claims

/-! ## Tables -/

/-- A row in flight has no failure class, and a row recovered before its send intent has no
intent. -/
def Submission.Sane (r : Submission) : Prop :=
  (r.state = .submitting → r.failureClass = none) ∧
    (r.failureClass = some .restartBeforeSendIntent → r.sendIntentAt = none)

/-- What holds of the three protocol tables in every state. -/
structure TablesOk (db : Db) : Prop where
  rows : NoConflict Submission.Conflicts db.submissions
  permits : NoConflict SendPermit.Conflicts db.permits
  gates : NoConflict GateSnapshot.Conflicts db.gateSnapshots
  sane : ∀ r ∈ db.submissions, r.Sane

theorem SendPermit.Conflicts.symm {x y : SendPermit} (h : x.Conflicts y) : y.Conflicts x := by
  unfold SendPermit.Conflicts at *
  tauto

/-- A permit that keeps its identity and does not return to `ISSUED`. -/
structure SendPermit.Closed (p p' : SendPermit) : Prop where
  id : p'.id = p.id
  purpose : p'.purpose = p.purpose
  attemptId : p'.attemptId = p.attemptId
  issued : p'.state = .issued → p.state = .issued

/-- Closing permits creates no conflict. -/
theorem SendPermit.Closed.conflicts {x y x' y' : SendPermit} (hx : x.Closed x') (hy : y.Closed y')
    (h : x'.Conflicts y') : x.Conflicts y := by
  unfold SendPermit.Conflicts at *
  rw [hx.id, hx.purpose, hx.attemptId, hy.id, hy.purpose, hy.attemptId] at h
  rcases h with h | h | ⟨hpx, hsx, hpy, hsy, ha⟩
  · exact .inl h
  · exact .inr (.inl h)
  · exact .inr (.inr ⟨hpx, hx.issued hsx, hpy, hy.issued hsy, ha⟩)

theorem SendPermit.Closed.ite {p p' : SendPermit} {q : Prop} [Decidable q] (h : p.Closed p') :
    p.Closed (if q then p' else p) := by
  split
  · exact h
  · exact ⟨rfl, rfl, rfl, fun h => h⟩

variable {now : Instant} {db : Db} {sub : SubmissionRecord} {work : ControlledSubmissionWork}

theorem SendPermit.Closed.consume {p : SendPermit} : p.Closed (p.consume now) :=
  ⟨rfl, rfl, rfl, nofun⟩

theorem TablesOk.row_eq (h : TablesOk db) {x y : Submission} (hx : x ∈ db.submissions)
    (hy : y ∈ db.submissions) (he : x.id = y.id) : x = y :=
  h.rows.eq (fun _ _ => Submission.Conflicts.symm) hx hy (.inl he)

theorem TablesOk.permit_eq (h : TablesOk db) {x y : SendPermit} (hx : x ∈ db.permits)
    (hy : y ∈ db.permits) (he : x.id = y.id) : x = y :=
  h.permits.eq (fun _ _ => SendPermit.Conflicts.symm) hx hy (.inl he)

/-! ## One transaction -/

/-- What a transaction may do to a submission row. -/
structure RowStep (r r' : Submission) : Prop where
  id : r'.id = r.id
  attemptId : r'.attemptId = r.attemptId
  sequence : r'.sequence = r.sequence
  intent : r.sendIntentAt ≠ none → r'.sendIntentAt = r.sendIntentAt
  sane : r.Sane → r'.Sane

theorem RowStep.refl (r : Submission) : RowStep r r := ⟨rfl, rfl, rfl, fun _ => rfl, fun h => h⟩

theorem RowStep.ite {p : Submission → Prop} [DecidablePred p] {f : Submission → Submission}
    (hf : ∀ r, p r → RowStep r (f r)) (r : Submission) : RowStep r (if p r then f r else r) := by
  split
  · exact hf r ‹_›
  · exact .refl r

/-- What a transaction keeps: rows and their intents, consumed permits, gate snapshots. -/
structure Grows (db db' : Db) : Prop where
  rows : ∀ r ∈ db.submissions, ∃ r' ∈ db'.submissions, RowStep r r'
  permits : ∀ p ∈ db.permits, p.state = .consumed → p ∈ db'.permits
  gates : ∀ g ∈ db.gateSnapshots, g ∈ db'.gateSnapshots

theorem Grows.refl (db : Db) : Grows db db :=
  ⟨fun r hr => ⟨r, hr, .refl r⟩, fun _ hp _ => hp, fun _ hg => hg⟩

/-- A transaction that changes submission rows in place, and neither permits nor gates. -/
theorem TablesOk.map_rows {db' : Db} {g : Submission → Submission} (h : TablesOk db)
    (hs : db'.submissions = db.submissions.map g) (hp : db'.permits = db.permits)
    (hg : db'.gateSnapshots = db.gateSnapshots) (hrow : ∀ r ∈ db.submissions, RowStep r (g r)) :
    TablesOk db' ∧ Grows db db' := by
  refine ⟨⟨?_, hp ▸ h.permits, hg ▸ h.gates, ?_⟩, ⟨?_, ?_, ?_⟩⟩
  · rw [hs]
    refine h.rows.map fun x hx y hy hc => ?_
    have hx := hrow x hx
    have hy := hrow y hy
    unfold Submission.Conflicts at *
    rwa [hx.id, hy.id, hx.attemptId, hy.attemptId, hx.sequence, hy.sequence] at hc
  · intro r' hr'
    rw [hs] at hr'
    obtain ⟨r, hr, rfl⟩ := List.mem_map.mp hr'
    exact (hrow r hr).sane (h.sane r hr)
  · exact fun r hr => ⟨g r, hs ▸ List.mem_map_of_mem hr, hrow r hr⟩
  · exact fun p hp' _ => hp ▸ hp'
  · exact fun x hx => hg ▸ hx

theorem RowStep.markIntent {r : Submission} (stamp : String) (h : r.AwaitsIntent sub) :
    RowStep r (r.markIntent stamp) := by
  obtain ⟨⟨-, -, hstate⟩, -, hnone⟩ := h
  refine ⟨rfl, rfl, rfl, fun hi => absurd hnone hi, fun hs => ⟨hs.1, fun hc => ?_⟩⟩
  have hclass : r.failureClass = some .restartBeforeSendIntent := hc
  rw [hs.1 hstate] at hclass
  cases hclass

theorem RowStep.settle {r : Submission} {o : Outcome} (stamp : String) (ho : o.Ends) :
    RowStep r (r.settle o stamp) :=
  ⟨rfl, rfl, rfl, fun _ => rfl, fun _ => ⟨fun h => absurd h ho.1, fun h => absurd h ho.2⟩⟩

theorem RowStep.recover (db : Db) (environment stamp : String) (r : Submission) :
    RowStep r (recoverSubmission db environment stamp r) := by
  unfold recoverSubmission
  split
  · split
    · rename_i hnone
      exact ⟨rfl, rfl, rfl, fun hi => absurd hnone hi,
        fun _ => ⟨nofun, fun _ => hnone⟩⟩
    · exact ⟨rfl, rfl, rfl, fun _ => rfl, fun _ => ⟨nofun, nofun⟩⟩
  · exact .refl r

/-! ## Claims and the database -/

/-- The permit of a work item, consumed under the authorization the item names. -/
def SendPermit.Backs (host : Host) (work : ControlledSubmissionWork) (p : SendPermit) : Prop :=
  p.IsFor host work ∧ p.authorizationId = work.request.authorizationId ∧
    p.authorizationEpoch = work.request.authorizationEpoch ∧ p.state = .consumed

/-- A passed gate of the given stage, for the operation and authorization of a request. -/
def Db.GatePassed (db : Db) (r : CanaryGateRequest) (stage : GateStage) (attempt : Option String) :
    Prop :=
  ∃ g ∈ db.gateSnapshots, g.operationId = r.operationId ∧ g.authorizationId = r.authorizationId ∧
    g.authorizationEpoch = r.authorizationEpoch ∧ g.decision = .pass ∧ g.stage = stage ∧
    g.attemptId = attempt

/-- The whole gate chain of a send passed. -/
structure Db.GateChain (db : Db) (work : ControlledSubmissionWork) : Prop where
  admission : db.GatePassed work.request .executionAdmission none
  preSign : db.GatePassed work.request .preSign none
  firstBroadcast :
    db.GatePassed work.request .firstBroadcast (some work.artifact.attemptId)

theorem GateSnapshot.PriorGate.conflicts {r : CanaryGateRequest} {attempt : String}
    {x y : GateSnapshot} (hx : x.PriorGate r attempt) (hy : y.PriorGate r attempt)
    (he : x.stage = y.stage) : x.Conflicts y := by
  obtain ⟨hox, -, hex, -, hsx⟩ := hx
  obtain ⟨hoy, -, hey, -, hsy⟩ := hy
  refine .inr ⟨?_, ?_, hox.trans hoy.symm, he, hex.trans hey.symm, ?_⟩
  · rcases hsx with ⟨h | h, -⟩ | ⟨h, -⟩ <;> rw [h] <;> decide
  · rcases hsy with ⟨h | h, -⟩ | ⟨h, -⟩ <;> rw [h] <;> decide
  · rcases hsx with ⟨h | h, hax⟩ | ⟨h, hax⟩ <;> rcases hsy with ⟨h' | h', hay⟩ | ⟨h', hay⟩ <;>
      first | exact absurd (h.symm.trans (he.trans h')) (by decide) | rw [hax, hay]

/-- Three prior gates are one of each stage, since a stage is recorded once. -/
theorem gateChain_of_priorGates (h : NoConflict GateSnapshot.Conflicts db.gateSnapshots)
    (h3 : affected (GateSnapshot.PriorGate work.request work.artifact.attemptId)
      db.gateSnapshots = 3) : db.GateChain work := by
  let gates := db.gateSnapshots.filter
    fun g => decide (g.PriorGate work.request work.artifact.attemptId)
  have hmem : ∀ g ∈ gates, g ∈ db.gateSnapshots ∧
      g.PriorGate work.request work.artifact.attemptId := by
    intro g hg
    simpa [gates] using hg
  have hlen : (gates.map (·.stage)).length = 3 := by
    rw [List.length_map, ← List.countP_eq_length_filter]
    exact h3
  have hnodup : (gates.map (·.stage)).Nodup := by
    refine List.pairwise_map.mpr (List.Pairwise.imp_of_mem ?_ (List.Pairwise.filter _ h))
    exact fun hx hy hno he => hno ((hmem _ hx).2.conflicts (hmem _ hy).2 he)
  have hsub : gates.map (·.stage) ⊆
      [GateStage.executionAdmission, .preSign, .firstBroadcast] := by
    intro stage hstage
    obtain ⟨g, hg, rfl⟩ := List.mem_map.mp hstage
    rcases (hmem g hg).2.2.2.2.2 with ⟨h | h, -⟩ | ⟨h, -⟩ <;> simp [h]
  have hperm := (List.subperm_of_subset hnodup hsub).perm_of_length_le (by rw [hlen]; simp)
  have hget : ∀ stage ∈ [GateStage.executionAdmission, .preSign, .firstBroadcast],
      ∃ g ∈ gates, g.stage = stage := fun stage hs =>
    List.mem_map.mp (hperm.mem_iff.mpr hs)
  have hpass : ∀ stage ∈ [GateStage.executionAdmission, .preSign, .firstBroadcast],
      db.GatePassed work.request stage
        (if stage = .firstBroadcast then some work.artifact.attemptId else none) := by
    intro stage hs
    obtain ⟨g, hg, rfl⟩ := hget stage hs
    obtain ⟨hin, hop, hauth, hepoch, hdecision, hstage⟩ := hmem g hg
    refine ⟨g, hin, hop, hauth, hepoch, hdecision, rfl, ?_⟩
    rcases hstage with ⟨h | h, ha⟩ | ⟨h, ha⟩ <;> simp [h, ha]
  exact ⟨hpass _ (by simp), hpass _ (by simp), hpass _ (by simp)⟩

/-- What the database holds for a begun submission. -/
structure Claimed (host : Host) (db : Db) (c : Claim) : Prop where
  attempt : c.sub.attemptId = c.work.artifact.attemptId
  row : ∃ r ∈ db.submissions, r.id = c.sub.id ∧ r.attemptId = c.sub.attemptId
  permit : ∃ p ∈ db.permits, p.Backs host c.work
  gates : db.GateChain c.work

/-- The row of a submission carries its send intent. -/
def HasIntent (db : Db) (sub : SubmissionRecord) : Prop :=
  ∃ r ∈ db.submissions, r.id = sub.id ∧ r.sendIntentAt ≠ none

theorem Grows.gatePassed {db' : Db} (h : Grows db db') {r : CanaryGateRequest} {stage : GateStage}
    {attempt : Option String} (hg : db.GatePassed r stage attempt) :
    db'.GatePassed r stage attempt := by
  obtain ⟨g, hg, hrest⟩ := hg
  exact ⟨g, h.gates g hg, hrest⟩

theorem Grows.claimed {host : Host} {db' : Db} {c : Claim} (h : Grows db db')
    (hc : Claimed host db c) : Claimed host db' c := by
  obtain ⟨r, hr, hid, hattempt⟩ := hc.row
  obtain ⟨r', hr', hstep⟩ := h.rows r hr
  obtain ⟨p, hp, hbacks⟩ := hc.permit
  exact ⟨hc.attempt, ⟨r', hr', hstep.id.trans hid, hstep.attemptId.trans hattempt⟩,
    ⟨p, h.permits p hp hbacks.2.2.2, hbacks⟩,
    ⟨h.gatePassed hc.gates.admission, h.gatePassed hc.gates.preSign,
      h.gatePassed hc.gates.firstBroadcast⟩⟩

theorem Grows.hasIntent {db' : Db} (h : Grows db db') (hi : HasIntent db sub) :
    HasIntent db' sub := by
  obtain ⟨r, hr, hid, hintent⟩ := hi
  obtain ⟨r', hr', hstep⟩ := h.rows r hr
  exact ⟨r', hr', hstep.id.trans hid, by rwa [hstep.intent hintent]⟩

/-- What holds in the state in which the broadcaster is called. -/
structure Call.Fenced (host : Host) (lease : LeaseFence) (k : Call) : Prop where
  tables : TablesOk k.db
  ready : SendReady k.claim.work k.claim.sub lease k.clock k.db
  claimed : Claimed host k.db k.claim
  intent : HasIntent k.db k.claim.sub

/-! ## The invariant -/

/-- The submission a worker holds. -/
def Pc.subKey (p : Pc) : Option String := p.claim.map (·.sub.id)

/-- The permit a worker holds. -/
def Pc.permitKey (p : Pc) : Option String := p.claim.map (·.work.permitId)

/-- A row whose call was made and whose outcome is lost is in flight or ambiguous. -/
def UnknownOnly (db : Db) (k : Call) : Prop :=
  ∀ r ∈ db.submissions, r.id = k.claim.sub.id → r.state = .submitting ∨ r.state = .broadcastUnknown

structure Inv (host : Host) (fence : WorkerId → LeaseFence) (s : System) : Prop where
  tables : TablesOk s.db
  subs : Exclusive (Pc.subKey ∘ s.pc) (s.calls.map (·.claim.sub.id))
  permits : Exclusive (Pc.permitKey ∘ s.pc) (s.calls.map (·.claim.work.permitId))
  claimed : ∀ w c, (s.pc w).claim = some c → Claimed host s.db c
  intended : ∀ w c, (s.pc w).intended = some c → HasIntent s.db c.sub
  calledClaimed : ∀ k ∈ s.calls, Claimed host s.db k.claim
  calledIntended : ∀ k ∈ s.calls, HasIntent s.db k.claim.sub
  fenced : ∀ k ∈ s.calls, k.Fenced host (fence k.worker)
  unknownOnly : ∀ k ∈ s.calls, k.committed = false → UnknownOnly s.db k

section Inv

variable {host : Host} {fence : WorkerId → LeaseFence} {s : System} {w : WorkerId} {p : Pc}
  {c : Claim} {db' : Db}

theorem Inv.init : Inv host fence System.init where
  tables := ⟨.nil, .nil, .nil, fun r hr => absurd hr List.not_mem_nil⟩
  subs := .start fun _ => rfl
  permits := .start fun _ => rfl
  claimed := fun w c h => by cases h
  intended := fun w c h => by cases h
  calledClaimed := fun k hk => absurd hk List.not_mem_nil
  calledIntended := fun k hk => absurd hk List.not_mem_nil
  fenced := fun k hk => absurd hk List.not_mem_nil
  unknownOnly := fun k hk => absurd hk List.not_mem_nil

/-- A write that keeps rows, permits and gates and leaves lost calls ambiguous. -/
theorem Inv.write (h : Inv host fence s) (ht : TablesOk db') (hg : Grows s.db db')
    (hu : ∀ k ∈ s.calls, k.committed = false → UnknownOnly db' k) :
    Inv host fence { s with db := db' } where
  tables := ht
  subs := h.subs
  permits := h.permits
  claimed := fun w c hc => hg.claimed (h.claimed w c hc)
  intended := fun w c hc => hg.hasIntent (h.intended w c hc)
  calledClaimed := fun k hk => hg.claimed (h.calledClaimed k hk)
  calledIntended := fun k hk => hg.hasIntent (h.calledIntended k hk)
  fenced := h.fenced
  unknownOnly := hu

theorem intended_claim {c : Claim} (h : p.intended = some c) : p.claim = some c := by
  cases p <;> first | exact h | cases h

/-- A worker moves on, with the claim it had or with none. -/
theorem Inv.move (h : Inv host fence s) (hc : ∀ c, p.claim = some c → (s.pc w).claim = some c)
    (hi : ∀ c, p.intended = some c → HasIntent s.db c.sub) : Inv host fence (s.setPc w p) where
  tables := h.tables
  subs := h.subs.move fun k hk => by
    obtain ⟨c, hclaim, rfl⟩ := Option.map_eq_some_iff.mp hk
    exact Option.map_eq_some_iff.mpr ⟨c, hc c hclaim, rfl⟩
  permits := h.permits.move fun k hk => by
    obtain ⟨c, hclaim, rfl⟩ := Option.map_eq_some_iff.mp hk
    exact Option.map_eq_some_iff.mpr ⟨c, hc c hclaim, rfl⟩
  claimed := fun v c hv => by
    by_cases hvw : v = w
    · subst hvw
      exact h.claimed v c (hc c (by simpa [System.setPc] using hv))
    · exact h.claimed v c (by simpa [System.setPc, hvw] using hv)
  intended := fun v c hv => by
    by_cases hvw : v = w
    · subst hvw
      exact hi c (by simpa [System.setPc] using hv)
    · exact h.intended v c (by simpa [System.setPc, hvw] using hv)
  calledClaimed := h.calledClaimed
  calledIntended := h.calledIntended
  fenced := h.fenced
  unknownOnly := h.unknownOnly

theorem Inv.drop (h : Inv host fence s) (hc : p.claim = none) : Inv host fence (s.setPc w p) :=
  h.move (fun c hp => by rw [hc] at hp; cases hp)
    fun c hp => by rw [intended_claim hp] at hc; cases hc

/-! ### Beginning -/

theorem consume_keeps {t : List SendPermit} {p : SendPermit} (hp : p ∈ t) (hs : p.state = .consumed)
    :
    p ∈ updateWhere (SendPermit.Consumable host work now) (SendPermit.consume now) t :=
  mem_updateWhere_of_not hp fun h => by
    rw [h.2.2.2.1] at hs
    cases hs

variable {v : RuntimeGateSnapshot} {rest : List ControlledSubmissionWork} {a : SignedArtifact}

theorem Begun.tables (hb : Begun host work v now db db' sub) (h : TablesOk db) :
    TablesOk db' ∧ Grows db db' := by
  refine ⟨⟨?_, ?_, ?_, ?_⟩, ⟨?_, ?_, ?_⟩⟩
  · rw [hb.submissions]
    exact h.rows.append hb.rowFresh
  · rw [hb.permits]
    exact h.permits.map fun x _ y _ hc =>
      (SendPermit.Closed.ite .consume).conflicts (SendPermit.Closed.ite .consume) hc
  · rw [hb.gateSnapshots]
    exact h.gates.append hb.gateFresh
  · intro r hr
    rw [hb.submissions] at hr
    rcases List.mem_append.mp hr with hr | hr
    · exact h.sane r hr
    · rw [List.mem_singleton.mp hr]
      exact ⟨fun _ => rfl, fun _ => rfl⟩
  · intro r hr
    exact ⟨r, by rw [hb.submissions]; exact List.mem_append_left _ hr, .refl r⟩
  · intro p hp hs
    rw [hb.permits]
    exact consume_keeps hp hs
  · intro g hg
    rw [hb.gateSnapshots]
    exact List.mem_append_left _ hg

/-- The new claim is backed by what the transaction wrote. -/
theorem Begun.claimed (hb : Begun host work v now db db' sub) (h : TablesOk db) :
    Claimed host db' ⟨work, v, sub⟩ := by
  have hgrows := (hb.tables h).2
  obtain ⟨p, hp, hcons⟩ := exists_of_affected_eq_one hb.oneConsumable
  have hchain := gateChain_of_priorGates h.gates hb.priorGates
  refine ⟨by rw [hb.sub_eq]; rfl, ⟨openedRow host work now db, ?_, ?_⟩, ⟨p.consume now, ?_, ?_⟩,
    ⟨hgrows.gatePassed hchain.admission, hgrows.gatePassed hchain.preSign,
      hgrows.gatePassed hchain.firstBroadcast⟩⟩
  · rw [hb.submissions]
    exact List.mem_append_right _ (List.mem_singleton_self _)
  · rw [hb.sub_eq]
    exact ⟨rfl, rfl⟩
  · rw [hb.permits]
    exact mem_updateWhere_of_pos hp hcons
  · exact ⟨hcons.1, hcons.2.1, hcons.2.2.1, rfl⟩

/-- A submission row that did not exist, and a permit that was not consumed, are in nobody's
hands. -/
theorem Begun.fresh (h : Inv host fence s) (hb : Begun host work v now s.db db' sub) :
    Fresh (Pc.subKey ∘ s.pc) (s.calls.map (·.claim.sub.id)) sub.id ∧
      Fresh (Pc.permitKey ∘ s.pc) (s.calls.map (·.claim.work.permitId)) work.permitId := by
  obtain ⟨p, hp, hcons⟩ := exists_of_affected_eq_one hb.oneConsumable
  have hsub : ∀ c : Claim, Claimed host s.db c → c.sub.id ≠ sub.id := by
    intro c hc he
    obtain ⟨r, hr, hid, -⟩ := hc.row
    refine hb.rowFresh r hr (.inl ?_)
    rw [hid, he, hb.sub_eq]
    rfl
  have hpermit : ∀ c : Claim, Claimed host s.db c → c.work.permitId ≠ work.permitId := by
    intro c hc he
    obtain ⟨q, hq, hbacks⟩ := hc.permit
    have hqp : q = p := h.tables.permit_eq hq hp (by rw [hbacks.1.1, he, hcons.1.1])
    have hissued := hcons.2.2.2.1
    rw [← hqp, hbacks.2.2.2] at hissued
    cases hissued
  refine ⟨⟨?_, ?_⟩, ⟨?_, ?_⟩⟩
  · intro v hv
    obtain ⟨c, hc, he⟩ := Option.map_eq_some_iff.mp hv
    exact hsub c (h.claimed v c hc) he
  · intro hm
    obtain ⟨k, hk, he⟩ := List.mem_map.mp hm
    exact hsub k.claim (h.calledClaimed k hk) he
  · intro v hv
    obtain ⟨c, hc, he⟩ := Option.map_eq_some_iff.mp hv
    exact hpermit c (h.claimed v c hc) he
  · intro hm
    obtain ⟨k, hk, he⟩ := List.mem_map.mp hm
    exact hpermit k.claim (h.calledClaimed k hk) he

theorem Inv.begun (h : Inv host fence s) (hb : Begun host work v now s.db db' sub) :
    Inv host fence { s.setPc w (.begun ⟨work, v, sub⟩ rest) with db := db' } := by
  obtain ⟨ht, hg⟩ := hb.tables h.tables
  obtain ⟨hfs, hfp⟩ := hb.fresh h
  have hwrite : Inv host fence { s with db := db' } := by
    refine h.write ht hg fun k hk hcom r hr he => ?_
    rw [hb.submissions] at hr
    rcases List.mem_append.mp hr with hr | hr
    · exact h.unknownOnly k hk hcom r hr he
    · rw [List.mem_singleton.mp hr]
      exact .inl rfl
  exact { hwrite with
    subs := h.subs.grant hfs rfl
    permits := h.permits.grant hfp rfl
    claimed := fun u c hu => by
      by_cases huw : u = w
      · subst huw
        have hc : Claim.mk work v sub = c := by simpa [System.setPc, Pc.claim] using hu
        exact hc ▸ hb.claimed h.tables
      · exact hwrite.claimed u c (by simpa [System.setPc, huw] using hu)
    intended := fun u c hu => by
      by_cases huw : u = w
      · subst huw
        simp [System.setPc, Pc.intended] at hu
      · exact hwrite.intended u c (by simpa [System.setPc, huw] using hu) }

/-! ### Rows changed in place -/

/-- A change of rows in place keeps the invariant as long as it leaves lost calls ambiguous. -/
theorem Inv.map_rows {g : Submission → Submission} (h : Inv host fence s)
    (hs : db'.submissions = s.db.submissions.map g) (hp : db'.permits = s.db.permits)
    (hg : db'.gateSnapshots = s.db.gateSnapshots)
    (hrow : ∀ r ∈ s.db.submissions, RowStep r (g r))
    (hu : ∀ k ∈ s.calls, k.committed = false → ∀ r ∈ s.db.submissions, r.id = k.claim.sub.id →
      (g r).state = .submitting ∨ (g r).state = .broadcastUnknown) :
    Inv host fence { s with db := db' } := by
  obtain ⟨ht, hgrows⟩ := h.tables.map_rows hs hp hg hrow
  refine h.write ht hgrows fun k hk hcom r' hr' he => ?_
  rw [hs] at hr'
  obtain ⟨r, hr, rfl⟩ := List.mem_map.mp hr'
  exact hu k hk hcom r hr ((hrow r hr).id ▸ he)

/-- A worker commits the send intent of the submission it holds. -/
theorem Inv.mark {stamp : String} (h : Inv host fence s) (hpc : s.pc w = .loaded c a rest)
    (hone : affected (·.AwaitsIntent c.sub) s.db.submissions = 1)
    (hs : db'.submissions = updateWhere (·.AwaitsIntent c.sub) (Submission.markIntent stamp)
      s.db.submissions) (hp : db'.permits = s.db.permits)
    (hg : db'.gateSnapshots = s.db.gateSnapshots) :
    Inv host fence { s.setPc w (.marked c a rest) with db := db' } := by
  have hwrite : Inv host fence { s with db := db' } := by
    refine h.map_rows hs hp hg (fun r _ => .ite (fun _ => .markIntent stamp) r)
      fun k hk hcom r hr he => ?_
    have hold := h.unknownOnly k hk hcom r hr he
    by_cases hr : r.AwaitsIntent c.sub
    · simpa [hr, Submission.markIntent] using hold
    · simpa [hr] using hold
  refine hwrite.move (w := w) (p := .marked c a rest) (fun c' hc' => ?_) fun c' hc' => ?_
  · simpa [hpc, Pc.claim] using hc'
  · obtain rfl : c = c' := by simpa [Pc.intended] using hc'
    obtain ⟨r, hr, hawaits⟩ := exists_of_affected_eq_one hone
    refine ⟨r.markIntent stamp, ?_, hawaits.1.1, nofun⟩
    exact hs ▸ mem_updateWhere_of_pos hr hawaits

/-- An outcome is recorded on a row that no lost call concerns. -/
theorem Inv.settle {o : Outcome} {stamp : String} (h : Inv host fence s) (ho : o.Ends)
    (hs : db'.submissions = updateWhere (·.AwaitsOutcome sub.id a) (Submission.settle o stamp)
      s.db.submissions) (hp : db'.permits = s.db.permits)
    (hg : db'.gateSnapshots = s.db.gateSnapshots)
    (hne : ∀ k ∈ s.calls, k.committed = false → k.claim.sub.id ≠ sub.id) :
    Inv host fence { s with db := db' } := by
  refine h.map_rows hs hp hg (fun r _ => .ite (p := (·.AwaitsOutcome sub.id a))
    (fun _ _ => .settle stamp ho) r) fun k hk hcom r hr he => ?_
  have hno : ¬ r.AwaitsOutcome sub.id a := fun hr => hne k hk hcom (he ▸ hr.1.1)
  simpa [hno] using h.unknownOnly k hk hcom r hr he

/-- The crash classifier turns a lost call's row, which carries its intent, into an ambiguous
one. -/
theorem Inv.recover {environment stamp : String} (h : Inv host fence s)
    (hs : db'.submissions =
      s.db.submissions.map (recoverSubmission s.db environment stamp))
    (hp : db'.permits = s.db.permits) (hg : db'.gateSnapshots = s.db.gateSnapshots) :
    Inv host fence { s with db := db' } := by
  refine h.map_rows hs hp hg (fun r _ => .recover _ _ _ r) fun k hk hcom r hr he => ?_
  have hold := h.unknownOnly k hk hcom r hr he
  obtain ⟨r₁, hr₁, hid, hintent⟩ := h.calledIntended k hk
  obtain rfl : r₁ = r := h.tables.row_eq hr₁ hr (hid.trans he.symm)
  unfold recoverSubmission
  split
  · split
    · rename_i hnone
      exact absurd hnone hintent
    · exact .inr rfl
  · exact hold

/-! ### Calling -/

/-- The broadcaster is called for the submission a worker holds with its intent durable. -/
theorem Inv.call {clock : Instant} (h : Inv host fence s) (committed : Bool)
    (hpc : s.pc w = .marked c a rest) (hready : SendReady c.work c.sub (fence w) clock s.db)
    (hp : p.claim = none) :
    Inv host fence
      { s.setPc w p with calls := ⟨w, c, clock, s.db, committed⟩ :: s.calls } := by
  have hclaim : (s.pc w).claim = some c := by rw [hpc]; rfl
  have hc := h.claimed w c hclaim
  have hi := h.intended w c (by rw [hpc]; rfl)
  have hdrop : Inv host fence (s.setPc w p) := h.drop hp
  exact { hdrop with
    subs := h.subs.spend (k := c.sub.id) (by simp [Pc.subKey, hclaim]) (by simp [Pc.subKey, hp])
    permits := h.permits.spend (k := c.work.permitId) (by simp [Pc.permitKey, hclaim])
      (by simp [Pc.permitKey, hp])
    calledClaimed := List.forall_mem_cons.mpr ⟨hc, h.calledClaimed⟩
    calledIntended := List.forall_mem_cons.mpr ⟨hi, h.calledIntended⟩
    fenced := List.forall_mem_cons.mpr ⟨⟨h.tables, hready, hc, hi⟩, h.fenced⟩
    unknownOnly := List.forall_mem_cons.mpr ⟨fun _ r hr he => by
      obtain ⟨r₁, hr₁, hid, -, -, hstate⟩ := hready.row
      obtain rfl : r₁ = r := h.tables.row_eq hr₁ hr (hid.trans he.symm)
      exact .inl hstate, h.unknownOnly⟩ }

theorem Inv.send {clock : Instant} {answer : Option Answer} (h : Inv host fence s)
    (hpc : s.pc w = .marked c a rest) :
    Inv host fence (s.send host fence w c a rest clock now answer) := by
  have hheld : (s.pc w).subKey = some c.sub.id := by rw [hpc]; rfl
  unfold System.send
  split
  · exact h.drop rfl
  · rename_i db' hgate
    obtain ⟨leases, ⟨hf, -⟩ | ⟨-, reason, _, hfin⟩⟩ := controlledSendGateTx_eq hgate
    · cases hf
    · obtain ⟨hs, hp, hg⟩ := finishControlledSubmissionTx_rows hfin
      have hsettled := h.settle (refusedOutcome_ends reason) hs hp hg fun k hk _ he =>
        h.subs.unspent hheld (List.mem_map.mpr ⟨k, hk, he⟩)
      exact hsettled.drop rfl
  · rename_i db₁ hgate
    obtain ⟨leases, ⟨-, hready, rfl⟩ | ⟨hf, -⟩⟩ := controlledSendGateTx_eq hgate
    · cases answer with
      | none => exact h.call false hpc hready rfl
      | some answer =>
          dsimp only
          split
          · rename_i db' hout
            have hcall : Inv host fence _ := h.call true hpc hready
              (p := .working rest) rfl
            obtain ⟨hs, hp, hg⟩ := finishControlledSubmissionTx_rows hout
            refine hcall.settle (controlledOutcome_ends host a answer) hs hp hg ?_
            -- The call just made is committed; the others concern other rows.
            intro k hk hcom he
            rcases List.mem_cons.mp hk with rfl | hk
            · cases hcom
            · exact h.subs.unspent hheld (List.mem_map.mpr ⟨k, hk, he⟩)
          · exact h.call false hpc hready rfl
    · cases hf

/-! ### Other writers -/

theorem EnvWrite.grows (e : EnvWrite) (db : Db) : Grows db (e.apply db) := by
  cases e with
  | others new => exact ⟨(Grows.refl db).rows, fun _ hp _ => hp, fun _ hg => hg⟩
  | issuePermit q =>
      simp only [EnvWrite.apply]
      split
      · rename_i t ht
        obtain ⟨-, rfl⟩ := insertUnique_eq_some.mp ht
        exact ⟨(Grows.refl db).rows, fun _ hp _ => List.mem_append_left _ hp, fun _ hg => hg⟩
      · exact .refl db
  | closePermit id state stamp =>
      refine ⟨(Grows.refl db).rows, fun p hp hc => mem_updateWhere_of_not hp fun hq => ?_,
        fun _ hg => hg⟩
      rw [hc] at hq
      cases hq.2
  | recordGate g =>
      simp only [EnvWrite.apply]
      split
      · rename_i t ht
        obtain ⟨-, rfl⟩ := insertUnique_eq_some.mp ht
        exact ⟨(Grows.refl db).rows, fun _ hp _ => hp, fun _ hg => List.mem_append_left _ hg⟩
      · exact .refl db

theorem Inv.environment (h : Inv host fence s) (e : EnvWrite) :
    Inv host fence { s with db := e.apply s.db } := by
  refine h.write ?_ (e.grows s.db) ?_
  · cases e with
    | others new => exact ⟨h.tables.rows, h.tables.permits, h.tables.gates, h.tables.sane⟩
    | issuePermit q =>
        simp only [EnvWrite.apply]
        split
        · rename_i t ht
          exact ⟨h.tables.rows, h.tables.permits.insertUnique ht, h.tables.gates, h.tables.sane⟩
        · exact h.tables
    | closePermit id state stamp =>
        refine ⟨h.tables.rows, h.tables.permits.map fun x _ y _ hc => ?_, h.tables.gates,
          h.tables.sane⟩
        have hclosed : ∀ q : SendPermit, q.Closed
            (if q.id = id ∧ q.state = .issued then
              { q with state := state, consumedAt := some stamp } else q) := by
          intro q
          split
          · rename_i hq
            exact ⟨rfl, rfl, rfl, fun _ => hq.2⟩
          · exact ⟨rfl, rfl, rfl, fun hi => hi⟩
        exact (hclosed x).conflicts (hclosed y) hc
    | recordGate g =>
        simp only [EnvWrite.apply]
        split
        · rename_i t ht
          exact ⟨h.tables.rows, h.tables.permits, h.tables.gates.insertUnique ht, h.tables.sane⟩
        · exact h.tables
  · have hsame : (e.apply s.db).submissions = s.db.submissions := by
      cases e <;> simp only [EnvWrite.apply] <;> first | rfl | (split <;> rfl)
    intro k hk hcom
    unfold UnknownOnly
    rw [hsame]
    exact h.unknownOnly k hk hcom

/-! ### Runs -/

/-- Every action keeps the invariant. -/
theorem Inv.step (h : Inv host fence s) (act : Act) : Inv host fence (s.step host fence act) := by
  cases act with
  | list w now =>
      simp only [System.step]
      split
      · exact h.drop rfl
      · exact h
  | begin w item v clock now =>
      simp only [System.step]
      split
      · split
        · split
          · rename_i hb
            exact h.begun (beginControlledSubmissionAfterGate_ok hb)
          · exact h.drop rfl
        · exact h
      · exact h
  | load w =>
      simp only [System.step]
      split
      · rename_i c rest hpc
        split
        · exact h.move (fun c' hc' => by rw [hpc]; exact hc') fun c' hc' => by cases hc'
        · exact h.drop rfl
      · exact h
  | mark w clock now =>
      simp only [System.step]
      split
      · rename_i c a rest hpc
        split
        · rename_i hm
          obtain ⟨hone, hs, hp, hg, -⟩ := markControlledSendIntent_ok hm
          exact h.mark hpc hone hs hp hg
        · exact h.drop rfl
      · exact h
  | send w clock now answer =>
      simp only [System.step]
      split
      · rename_i c a rest hpc
        exact h.send hpc
      · exact h
  | recover w clock now =>
      refine Tx.stateAfter_cases (fun db' => Inv host fence { s with db := db' }) h ?_
      intro _ db' hr
      obtain ⟨-, hs, hp, hg, -⟩ := recoverControlledInflight_ok hr
      exact h.recover hs hp hg
  | crash w => exact h.drop rfl
  | environment e => exact h.environment e

/-- What is begun stays begun, whoever acts or dies. -/
theorem Inv.step_grows (h : Inv host fence s) (act : Act) :
    Grows s.db (s.step host fence act).db := by
  have hrows : ∀ {db' : Db} {g : Submission → Submission},
      db'.submissions = s.db.submissions.map g → db'.permits = s.db.permits →
      db'.gateSnapshots = s.db.gateSnapshots → (∀ r, RowStep r (g r)) → Grows s.db db' :=
    fun hs hp hg hrow => (h.tables.map_rows hs hp hg fun r _ => hrow r).2
  cases act with
  | begin w item v clock now =>
      simp only [System.step]
      repeat' split
      all_goals first
        | exact .refl _
        | exact ((beginControlledSubmissionAfterGate_ok ‹_›).tables h.tables).2
  | mark w clock now =>
      simp only [System.step]
      repeat' split
      all_goals first
        | exact .refl _
        | (obtain ⟨-, hs, hp, hg, -⟩ := markControlledSendIntent_ok ‹_›
           exact hrows hs hp hg (.ite fun _ => .markIntent _))
  | send w clock now answer =>
      simp only [System.step]
      split
      · unfold System.send
        split
        · exact .refl _
        · rename_i hgate
          obtain ⟨leases, ⟨hf, -⟩ | ⟨-, reason, _, hfin⟩⟩ := controlledSendGateTx_eq hgate
          · cases hf
          · obtain ⟨hs, hp, hg⟩ := finishControlledSubmissionTx_rows hfin
            exact hrows hs hp hg (.ite fun _ _ => .settle _ (refusedOutcome_ends reason))
        · rename_i hgate
          obtain ⟨leases, ⟨-, -, rfl⟩ | ⟨hf, -⟩⟩ := controlledSendGateTx_eq hgate
          · cases answer with
            | none => exact .refl _
            | some answer =>
                dsimp only
                split
                · rename_i hout
                  obtain ⟨hs, hp, hg⟩ := finishControlledSubmissionTx_rows hout
                  exact hrows hs hp hg
                    (.ite fun _ _ => .settle _ (controlledOutcome_ends host _ answer))
                · exact .refl _
          · cases hf
      · exact .refl _
  | recover w clock now =>
      refine Tx.stateAfter_cases (Grows s.db) (.refl _) fun _ db' hr => ?_
      obtain ⟨-, hs, hp, hg, -⟩ := recoverControlledInflight_ok hr
      exact hrows hs hp hg (.recover _ _ _)
  | environment e => exact e.grows s.db
  | list w now =>
      simp only [System.step]
      split <;> exact .refl _
  | load w =>
      simp only [System.step]
      repeat' split
      all_goals exact .refl _
  | crash w => exact .refl _

theorem Inv.run (acts : List Act) : Inv host fence (System.run host fence acts) :=
  List.foldlRecOn acts _ Inv.init fun _ h act _ => h.step act

theorem Claimed.later (acts later : List Act) (h : Claimed host (System.run host fence acts).db c) :
    Claimed host (System.run host fence (acts ++ later)).db c := by
  unfold System.run at h ⊢
  rw [List.foldl_append]
  refine (List.foldlRecOn later _ (motive := fun s => Inv host fence s ∧ Claimed host s.db c)
    ⟨Inv.run acts, h⟩ fun s hs act _ => ⟨hs.1.step act, (hs.1.step_grows act).claimed hs.2⟩).2

end Inv

end RbhTrade
