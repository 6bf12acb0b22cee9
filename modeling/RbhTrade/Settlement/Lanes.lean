import RbhTrade.Settlement.Effects

/-!
# One lane for the operations of a wallet

A wallet has one lane, and its operations take turns with it. An idle lane should mean that no
execution step of the wallet is unresolved, and a transaction of one operation should leave a lane
alone that names another. Every writer selects the lane by wallet and operation, except two.
`Orphan` reads the lane first and keeps the owner it finds. `Canonicalize` clears the lane by its
wallet alone, so an operation that is settled again after a reorganisation clears the lane that a
later operation holds.

Two writers set an unresolved status without a look at the lane: `CommitSigned`, and
`FinishSubmission` for an ambiguous or contradicted outcome. Along every run in which these find the
lane with their own operation, and a settlement finds it idle or with its own operation, both laws
hold.
-/

namespace RbhTrade.Settlement

open Tables GoTime

/-! ## Calls -/

/-- A transaction of an operation that is not MANUAL. -/
inductive LaneCall where
  | reserveExecution (operation walletId signer : String) (nonce : Nat)
      (inputAsset inputAmount gasBudget : String) (now : Instant)
  | commitSigned (reservation : ReservedExecution) (a : SignedArtifact) (now : Instant)
  | beginSubmission (a : SignedArtifact) (allowFrozen : Bool) (now : Instant)
  | finishSubmission (a : SignedArtifact) (sub : SubmissionRecord) (o : Outcome) (now : Instant)
  | expirePreBroadcast (a : SignedArtifact) (submission : Option SubmissionRecord) (now : Instant)
  | freezeExecution (walletId operation reason : String) (now : Instant)
  | receipt (a : SignedArtifact) (call : ReceiptCall)

/-- The operation that a transaction is of. -/
def LaneCall.operation : LaneCall → String
  | .reserveExecution operation .. => operation
  | .commitSigned _ a _ => a.operation
  | .beginSubmission a .. => a.operation
  | .finishSubmission a .. => a.operation
  | .expirePreBroadcast a .. => a.operation
  | .freezeExecution _ operation .. => operation
  | .receipt a _ => a.operation

/-- The database after a transaction. An artifact names the stored rows of its operation. -/
def laneStep (host : Host) (views : ManualViews) (db : Db) : LaneCall → Db
  | .reserveExecution operation walletId signer nonce asset amount gas now =>
      (reserveExecution host operation walletId signer nonce asset amount gas now).stateAfter db
  | .commitSigned reservation a now =>
      if db.Stores a then (commitSigned reservation a now).stateAfter db else db
  | .beginSubmission a allowFrozen now =>
      (beginSubmission host a allowFrozen now).stateAfter db
  | .finishSubmission a sub o now =>
      if db.Stores a then (finishSubmission a sub o now).stateAfter db else db
  | .expirePreBroadcast a submission now =>
      if db.Stores a then (expirePreBroadcast a submission now).stateAfter db else db
  | .freezeExecution walletId operation reason now =>
      (freezeExecution walletId operation reason now).stateAfter db
  | .receipt a call =>
      if db.Stores a ∧ ¬ db.IsManual a then receiptStep host views a db call else db

/-! ## The laws -/

/-- A wallet whose lane is idle has no unresolved execution step. -/
def IdleResolved (db : Db) : Prop :=
  ∀ l ∈ db.lanes, l.state = .idle → ∀ s ∈ db.steps, s.walletId = some l.walletId →
    ¬ s.status.Unresolved
deriving Decidable

/-- A lane that names another operation than the given one is neither cleared nor re-assigned. -/
def OthersKept (operation : String) (db db' : Db) : Prop :=
  ∀ l ∈ db.lanes, ∀ o ∈ l.operationId, o ≠ operation →
    ∃ l' ∈ db'.lanes, l'.walletId = l.walletId ∧ l'.operationId = some o ∧ l'.state ≠ .idle

/-- The lane of the artifact's wallet names its operation. -/
def OwnsLane (a : SignedArtifact) (db : Db) : Prop :=
  ∃ l ∈ db.lanes, l.OwnedBy a.walletId a.operation
deriving Decidable

/-- The outcome leaves the execution unresolved. -/
def Outcome.Freezes (o : Outcome) : Prop :=
  o.state = .broadcastUnknown ∨ o.state = .manualResolution
deriving Decidable

/-- A transaction that makes its step unresolved finds the lane with its own operation, and one that
settles a receipt does not find it with another's. -/
def HoldsLane (db : Db) : LaneCall → Prop
  | .commitSigned _ a _ => OwnsLane a db
  | .finishSubmission a _ o _ => Outcome.Freezes o → OwnsLane a db
  | .receipt a (.canonicalize r _ _ _) => (∃ x ∈ db.receipts, x.Pending r.id a.attemptId) →
      ∀ l ∈ db.lanes, l.walletId = a.walletId → l.Reclaimable a.operation
  | _ => True

instance (db : Db) : DecidablePred (HoldsLane db) := fun call => by
  unfold HoldsLane
  split <;> infer_instance

/-! ## The invariant -/

/-- The primary key of the steps and `UNIQUE(operation_id, step_index)`. -/
def StepConflict (s t : ExecutionStep) : Prop :=
  s.id = t.id ∨ (s.operationId = t.operationId ∧ s.stepIndex = t.stepIndex)
deriving Decidable

variable {s : ExecutionStep} {f : WalletLane → WalletLane} {operation stamp : String}
  {p : WalletLane → Prop}

theorem StepConflict.symm {t : ExecutionStep} (h : StepConflict s t) : StepConflict t s :=
  h.imp Eq.symm fun h => ⟨h.1.symm, h.2.symm⟩

theorem StepConflict.of_identity {t s' t' : ExecutionStep} (hs : s'.identity = s.identity)
    (ht : t'.identity = t.identity) (h : StepConflict s' t') : StepConflict s t := by
  simp only [ExecutionStep.identity, Prod.mk.injEq] at hs ht
  rwa [StepConflict, hs.1, hs.2.1, hs.2.2.1, ht.1, ht.2.1, ht.2.2.1] at h

/-- What every transaction keeps. An execution step has index one, its attempt has its wallet, an
idle lane names no operation, and an unresolved step has the lane of its wallet. -/
structure LaneInv (db : Db) : Prop where
  stepKeys : NoConflict StepConflict db.steps
  index : ∀ s ∈ db.steps, s.walletId ≠ none → s.stepIndex = 1
  attempts : ∀ t ∈ db.attempts, ∃ s ∈ db.steps, s.id = t.stepId ∧ s.walletId = some t.walletId
  laneKeys : NoConflict WalletLane.Conflicts db.lanes
  idle : ∀ l ∈ db.lanes, l.state = .idle → l.operationId = none
  held : ∀ s ∈ db.steps, s.status.Unresolved → ∀ w, s.walletId = some w →
    ∃ l ∈ db.lanes, l.OwnedBy w s.operationId

variable {db db' : Db} {a : SignedArtifact}

theorem LaneInv.lane_eq (h : LaneInv db) {k l : WalletLane} (hk : k ∈ db.lanes) (hl : l ∈ db.lanes)
    (he : k.walletId = l.walletId) : k = l :=
  h.laneKeys.eq (fun _ _ => Eq.symm) hk hl he

theorem LaneInv.idleResolved (h : LaneInv db) : IdleResolved db := by
  intro l hl hidle s hs hw hu
  obtain ⟨k, hk, hkw, hko⟩ := h.held s hs hu l.walletId hw
  obtain rfl := h.lane_eq hk hl hkw
  rw [h.idle k hk hidle] at hko
  cases hko

theorem LaneInv.step_eq (h : LaneInv db) {t : ExecutionStep} (hs : s ∈ db.steps) (ht : t ∈ db.steps)
    (hws : s.walletId ≠ none) (hwt : t.walletId ≠ none) (he : s.operationId = t.operationId) :
    s = t :=
  h.stepKeys.eq (fun _ _ => StepConflict.symm) hs ht
    (.inr ⟨he, (h.index s hs hws).trans (h.index t ht hwt).symm⟩)

/-- The step that a stored artifact names has its operation and its wallet. -/
theorem LaneInv.stored_step (h : LaneInv db) (ha : db.Stores a) (hs : s ∈ db.steps)
    (hid : s.id = a.stepId) :
    s.operationId = a.operation ∧ s.walletId = some a.walletId := by
  obtain ⟨t, ht, s₁, hs₁, -, hstep, hw, hst, hop⟩ := ha
  obtain ⟨s₂, hs₂, hid₂, hsw⟩ := h.attempts t ht
  have heq : ∀ x ∈ db.steps, x.id = a.stepId → x = s := fun x hx hxid =>
    h.stepKeys.eq (fun _ _ => StepConflict.symm) hx hs (.inl (hxid.trans hid.symm))
  obtain rfl := heq s₁ hs₁ (hst.trans hstep)
  obtain rfl := heq s₂ hs₂ (hid₂.trans hstep)
  exact ⟨hop, hsw.trans (congrArg some hw)⟩

theorem stores_step (ha : db.Stores a) : ∃ s ∈ db.steps, s.id = a.stepId := by
  obtain ⟨t, -, s, hs, -, hstep, -, hst, -⟩ := ha
  exact ⟨s, hs, hst.trans hstep⟩

/-! ## Writes to lanes -/

/-- A write of one operation that leaves the lanes well formed. -/
structure LaneWrite (operation : String) (db db' : Db) : Prop where
  keys : NoConflict WalletLane.Conflicts db'.lanes
  idle : ∀ l ∈ db'.lanes, l.state = .idle → l.operationId = none
  others : OthersKept operation db db'

theorem LaneInv.unchanged (h : LaneInv db) (hl : db'.lanes = db.lanes) (operation : String) :
    LaneWrite operation db db' := by
  refine ⟨hl ▸ h.laneKeys, hl ▸ h.idle, fun l hm o ho _ => ⟨l, hl ▸ hm, rfl, ho, fun hc => ?_⟩⟩
  rw [h.idle l hm hc] at ho
  cases ho

/-- An update of the lanes that forgets no other operation. -/
theorem LaneInv.update (h : LaneInv db) [DecidablePred p]
    (hl : db'.lanes = updateWhere p f db.lanes) (hw : ∀ l, (f l).walletId = l.walletId)
    (hidle : ∀ l ∈ db.lanes, p l → (f l).state = .idle → (f l).operationId = none)
    (hkeep : ∀ l ∈ db.lanes, p l → ∀ o, l.operationId = some o → o ≠ operation →
      (f l).operationId = some o) : LaneWrite operation db db' := by
  have hidle' : ∀ l ∈ db'.lanes, l.state = .idle → l.operationId = none := by
    intro l hm hs
    rw [hl] at hm
    obtain ⟨hm, -⟩ | ⟨k, hk, hpk, rfl⟩ := mem_updateWhere_cases hm
    · exact h.idle l hm hs
    · exact hidle k hk hpk hs
  refine ⟨hl ▸ WalletLane.keys_updateWhere h.laneKeys hw, hidle', fun l hm o ho hne => ?_⟩
  have hin : ∃ l' ∈ db'.lanes, l'.walletId = l.walletId ∧ l'.operationId = some o := by
    rw [hl]
    by_cases hp : p l
    · exact ⟨_, mem_updateWhere_of_pos hm hp, hw l, hkeep l hm hp o ho hne⟩
    · exact ⟨l, mem_updateWhere_of_not hm hp, rfl, ho⟩
  obtain ⟨l', hm', hw', ho'⟩ := hin
  refine ⟨l', hm', hw', ho', fun hs => ?_⟩
  rw [hidle' l' hm' hs] at ho'
  cases ho'

theorem LaneInv.refreeze (h : LaneInv db) [DecidablePred p]
    (hl : db'.lanes = updateWhere p f db.lanes)
    (hf : ∀ l, (f l).walletId = l.walletId ∧ (f l).operationId = l.operationId ∧
      (f l).state ≠ .idle) : LaneWrite operation db db' :=
  h.update hl (fun l => (hf l).1) (fun l _ _ hs => absurd hs (hf l).2.2)
    fun l _ _ _ ho _ => (hf l).2.1.trans ho

/-- An update that clears lanes of the operation only. -/
theorem LaneInv.clear (h : LaneInv db) [DecidablePred p] {reason : Option String}
    (hl : db'.lanes = updateWhere p (WalletLane.clear reason stamp) db.lanes)
    (hp : ∀ l ∈ db.lanes, p l → l.Reclaimable operation) : LaneWrite operation db db' := by
  refine h.update hl (fun _ => rfl) (fun _ _ _ _ => rfl) fun l hm hpl o ho hne => ?_
  obtain hs | ho' := hp l hm hpl
  · rw [h.idle l hm hs] at ho
    cases ho
  · exact absurd (Option.some.inj (ho.symm.trans ho')) hne

/-- An update that keeps owners keeps the lane of the artifact. -/
theorem OwnsLane.update (h : OwnsLane a db) [DecidablePred p]
    (hl : db'.lanes = updateWhere p f db.lanes)
    (hf : ∀ l, (f l).walletId = l.walletId ∧ (f l).operationId = l.operationId) :
    OwnsLane a db' := by
  unfold OwnsLane
  rw [hl, exists_updateWhere_iff fun l _ => ?_]
  · exact h
  · unfold WalletLane.OwnedBy
    rw [(hf l).1, (hf l).2]

/-! ## Writes to steps -/

/-- The invariant after a transaction, and what it left of other operations' lanes. -/
structure LaneAdvance (operation : String) (db db' : Db) : Prop where
  inv : LaneInv db'
  others : OthersKept operation db db'

/-- A transaction that writes no status. -/
theorem LaneInv.keep (h : LaneInv db) (hs : db'.steps = db.steps) (ha : db'.attempts = db.attempts)
    (hw : LaneWrite operation db db')
    (hown : ∀ l ∈ db.lanes, l.operationId = some operation → ∃ l' ∈ db'.lanes,
      l'.walletId = l.walletId ∧ l'.operationId = some operation) :
    LaneAdvance operation db db' := by
  refine ⟨⟨hs ▸ h.stepKeys, hs ▸ h.index, by rw [hs, ha]; exact h.attempts, hw.keys, hw.idle, ?_⟩,
    hw.others⟩
  intro s hm hu w hsw
  rw [hs] at hm
  obtain ⟨l, hl, hlw, hlo⟩ := h.held s hm hu w hsw
  by_cases hop : s.operationId = operation
  · obtain ⟨l', hl', hw', ho'⟩ := hown l hl (hop ▸ hlo)
    exact ⟨l', hl', hw'.trans hlw, hop ▸ ho'⟩
  · obtain ⟨l', hl', hw', ho', -⟩ := hw.others l hl _ hlo hop
    exact ⟨l', hl', hw'.trans hlw, ho'⟩

theorem LaneInv.untouched (h : LaneInv db) (hs : db'.steps = db.steps)
    (ha : db'.attempts = db.attempts) (hl : db'.lanes = db.lanes) (operation : String) :
    LaneAdvance operation db db' :=
  h.keep hs ha (h.unchanged hl operation) fun l hm ho => ⟨l, hl ▸ hm, rfl, ho⟩

theorem LaneInv.stay (h : LaneInv db) (operation : String) : LaneAdvance operation db db :=
  h.untouched rfl rfl rfl operation

/-- A transaction that writes the status of its artifact's step. If the new status is unresolved, it
leaves the lane with its operation. -/
theorem LaneInv.setStep (h : LaneInv db) (ha : db.Stores a) (hid : db.SameIdentities db')
    {f : ExecutionStep → ExecutionStep} (hs : db'.steps = updateWhere (·.id = a.stepId) f db.steps)
    (hf : ∀ s, (f s).identity = s.identity) (hw : LaneWrite a.operation db db')
    (hown : (∀ s, (f s).status.Unresolved → OwnsLane a db')) : LaneAdvance a.operation db db' := by
  refine ⟨⟨?_, fun s hm => ?_, fun t ht => ?_, hw.keys, hw.idle, fun s hm hu w hsw => ?_⟩,
    hw.others⟩
  · rw [hs]
    refine h.stepKeys.updateWhere fun x y => StepConflict.of_identity ?_ ?_
    · split
      · exact hf x
      · rfl
    · split
      · exact hf y
      · rfl
  · obtain ⟨s₀, hs₀, -, -, hidx, hwal⟩ := hid.step hm
    rw [← hwal, ← hidx]
    exact h.index s₀ hs₀
  · obtain ⟨t₀, ht₀, -, hstep, hwal⟩ := hid.attempt ht
    obtain ⟨s₀, hs₀, hs₀id, hs₀w⟩ := h.attempts t₀ ht₀
    obtain ⟨s, hsm, hsid, -, -, hsw⟩ := hid.symm.step hs₀
    exact ⟨s, hsm, by rw [hsid, hs₀id, hstep], by rw [hsw, hs₀w, hwal]⟩
  · rw [hs] at hm
    obtain ⟨hm, hne⟩ | ⟨s₀, hs₀, hid₀, rfl⟩ := mem_updateWhere_cases hm
    · obtain ⟨l, hl, hlw, hlo⟩ := h.held s hm hu w hsw
      -- Another step of the wallet belongs to another operation.
      have hop : s.operationId ≠ a.operation := by
        intro hop
        obtain ⟨s₁, hs₁, hid₁⟩ := stores_step ha
        obtain ⟨hop₁, hw₁⟩ := h.stored_step ha hs₁ hid₁
        obtain rfl := h.step_eq hm hs₁ (by rw [hsw]; exact Option.some_ne_none w)
          (by rw [hw₁]; exact Option.some_ne_none _) (hop.trans hop₁.symm)
        exact hne hid₁
      obtain ⟨l', hl', hw', ho', -⟩ := hw.others l hl _ hlo hop
      exact ⟨l', hl', hw'.trans hlw, ho'⟩
    · have he := hf s₀
      simp only [ExecutionStep.identity, Prod.mk.injEq] at he
      obtain ⟨hop, hwal⟩ := h.stored_step ha hs₀ hid₀
      obtain ⟨l, hl, hlw, hlo⟩ := hown s₀ hu
      rw [he.2.2.2, hwal] at hsw
      exact ⟨l, hl, hlw.trans (Option.some.inj hsw), by rw [he.2.1, hop]; exact hlo⟩

/-! ## One lemma per transaction -/

theorem LaneInv.reserve (h : LaneInv db) {walletId signer : String}
    (hr : LaneReserved operation walletId signer stamp db db') : LaneAdvance operation db db' := by
  obtain ⟨step, nonce, hlanes⟩ := hr.lanes
  obtain ⟨s, t, hop, hidx, hw, hts, htw, hfresh, hsteps, hattempts⟩ := hr.rows
  obtain ⟨free, hfree, hfor⟩ := exists_of_affected_eq_one hr.one
  have hwith : ∀ l ∈ withLane walletId signer stamp db.lanes,
      l ∈ db.lanes ∨ l.operationId = none := by
    intro l hl
    unfold withLane at hl
    split at hl
    · exact .inl hl
    · refine (List.mem_append.mp hl).imp_right fun hl => ?_
      rw [List.mem_singleton.mp hl]
  have hkeys : NoConflict WalletLane.Conflicts (withLane walletId signer stamp db.lanes) := by
    unfold withLane
    split
    · exact h.laneKeys
    · rename_i hno
      exact h.laneKeys.append fun l hl hc => hno ⟨l, hl, hc⟩
  -- A lane in use is not the one that the reservation takes.
  have hkept : ∀ l ∈ db.lanes, l.operationId ≠ none → l ∈ db'.lanes := by
    intro l hl ho
    rw [hlanes]
    refine mem_updateWhere_of_not ?_ fun hc => ho (h.idle l hl hc.2.2)
    unfold withLane
    split
    · exact hl
    · exact List.mem_append_left _ hl
  have hidle : ∀ l ∈ db'.lanes, l.state = .idle → l.operationId = none := by
    intro l hl hs
    rw [hlanes] at hl
    obtain ⟨hl, -⟩ | ⟨k, -, -, rfl⟩ := mem_updateWhere_cases hl
    · exact (hwith l hl).elim (fun hl => h.idle l hl hs) id
    · cases hs
  refine ⟨⟨?_, ?_, ?_, ?_, hidle, ?_⟩, fun l hl o ho _ => ?_⟩
  · rw [hsteps]
    refine h.stepKeys.append fun x hx hc => ?_
    obtain hc | hc := hc
    · exact (hfresh x hx).1 hc
    · exact (hfresh x hx).2 ⟨hc.1.trans hop, hc.2.trans hidx⟩
  · intro x hx hxw
    rw [hsteps] at hx
    obtain hx | hx := List.mem_append.mp hx
    · exact h.index x hx hxw
    · exact List.mem_singleton.mp hx ▸ hidx
  · intro y hy
    rw [hattempts] at hy
    rw [hsteps]
    obtain hy | hy := List.mem_append.mp hy
    · obtain ⟨x, hx, hxid, hxw⟩ := h.attempts y hy
      exact ⟨x, List.mem_append_left _ hx, hxid, hxw⟩
    · obtain rfl := List.mem_singleton.mp hy
      exact ⟨s, List.mem_append_right _ (List.mem_singleton_self s), hts.symm,
        hw.trans (congrArg some htw.symm)⟩
  · rw [hlanes]
    exact WalletLane.keys_updateWhere hkeys fun _ => rfl
  · intro x hx hu w hxw
    rw [hsteps] at hx
    obtain hx | hx := List.mem_append.mp hx
    · obtain ⟨l, hl, hlw, hlo⟩ := h.held x hx hu w hxw
      exact ⟨l, hkept l hl (by rw [hlo]; exact Option.some_ne_none _), hlw, hlo⟩
    · obtain rfl := List.mem_singleton.mp hx
      rw [hw] at hxw
      refine ⟨free.reserve operation step nonce stamp, ?_, ?_, congrArg some hop.symm⟩
      · rw [hlanes]
        exact mem_updateWhere_of_pos hfree hfor
      · exact hfor.1.trans (Option.some.inj hxw)
  · refine ⟨l, hkept l hl (by rw [Option.mem_def.mp ho]; exact Option.some_ne_none _), rfl, ho,
      fun hs => ?_⟩
    rw [h.idle l hl hs] at ho
    cases ho

theorem LaneInv.sign (h : LaneInv db) (ha : db.Stores a) (hown : OwnsLane a db) :
    LaneAdvance a.operation db (db.sign a stamp) := by
  have hw : LaneWrite a.operation db (db.sign a stamp) :=
    h.refreeze rfl fun l => ⟨rfl, rfl, fun hs => by cases hs⟩
  refine h.setStep ha (.of_updates rfl rfl (fun _ => rfl) fun _ => rfl) rfl (fun _ => rfl) hw
    fun _ _ => ?_
  exact hown.update rfl fun _ => ⟨rfl, rfl⟩

theorem LaneInv.finish (h : LaneInv db) (ha : db.Stores a) {sub : SubmissionRecord} {o : Outcome}
    {now : Instant} {u : Unit} (hok : finishSubmission a sub o now db = .ok (u, db'))
    (hown : Outcome.Freezes o → OwnsLane a db) : LaneAdvance a.operation db db' := by
  obtain ⟨-, ⟨-, rfl⟩ | ⟨ho, rfl, -⟩ | ⟨-, rfl⟩⟩ := finishSubmission_eq hok
  · refine h.setStep ha (.of_updates rfl rfl (fun _ => rfl) fun _ => rfl) rfl (fun _ => rfl)
      (h.clear rfl fun l _ hl => .inr hl.2) fun s hu => ?_
    obtain hu | hu | hu | hu | hu | hu := hu <;> cases hu
  · refine h.setStep ha (.of_steps rfl rfl fun _ => rfl) rfl (fun _ => rfl)
      (h.refreeze rfl fun l => ⟨rfl, rfl, fun hs => by cases hs⟩) fun _ _ => ?_
    exact (hown ho).update rfl fun _ => ⟨rfl, rfl⟩
  · refine h.untouched ?_ ?_ ?_ _ <;> rfl

theorem LaneInv.expire (h : LaneInv db) (ha : db.Stores a)
    (he : (db.expire a stamp).SameHoldings db') : LaneAdvance a.operation db db' := by
  have hw : LaneWrite a.operation db db' := h.clear he.lanes fun l _ hl => .inr hl.1.2
  refine h.setStep ha ((db.expire_identities a stamp).trans he.identities) he.steps
    (fun _ => rfl) hw
    fun s hu => ?_
  obtain hu | hu | hu | hu | hu | hu := hu <;> cases hu

theorem LaneInv.canonicalize (h : LaneInv db) (ha : db.Stores a) {host : Host}
    {r : ReceiptObservation} (hc : Canonicalized host a r stamp db db')
    (hlane : ∀ l ∈ db.lanes, l.walletId = a.walletId → l.Reclaimable a.operation) :
    LaneAdvance a.operation db db' := by
  have hw : LaneWrite a.operation db db' := h.clear hc.lanes hlane
  refine h.setStep ha (.of_steps hc.attempts hc.steps fun _ => rfl) hc.steps (fun _ => rfl) hw
    fun s hu => ?_
  dsimp only at hu
  split at hu <;> obtain hu | hu | hu | hu | hu | hu := hu <;> cases hu

/-- A reorganisation takes an idle lane back, and keeps the owner of any other. -/
theorem LaneInv.orphan (h : LaneInv db) (ha : db.Stores a) {host : Host} {receipt : String}
    {lane : WalletLane} (hc : Orphaned host a receipt stamp lane db db') :
    LaneAdvance a.operation db db' := by
  have hread := selectRow_prop hc.read
  have hmem := selectRow_mem hc.read
  have hid : db.SameIdentities db' := .of_steps hc.attempts hc.steps fun _ => rfl
  have hlanes := hc.lanes
  have hsteps := hc.steps
  by_cases hre : lane.Reclaimable a.operation
  · simp only [Db.refreeze, if_pos hre] at hlanes hsteps
    have hw : LaneWrite a.operation db db' := by
      refine h.update hlanes (fun _ => rfl) (fun _ _ _ hs => by cases hs)
        fun l hl hlw o ho hne => ?_
      obtain rfl := h.lane_eq hl hmem (hlw.trans hread.symm)
      obtain hs | ho' := hre
      · rw [h.idle l hl hs] at ho
        cases ho
      · exact absurd (Option.some.inj (ho.symm.trans ho')) hne
    refine h.setStep ha hid hsteps (fun _ => rfl) hw fun _ _ => ?_
    unfold OwnsLane
    rw [hlanes]
    exact ⟨_, mem_updateWhere_of_pos hmem hread, hread, rfl⟩
  · simp only [Db.refreeze, if_neg hre] at hlanes hsteps
    have hw : LaneWrite a.operation db db' :=
      h.refreeze hlanes fun l => ⟨rfl, rfl, fun hs => by cases hs⟩
    refine h.setStep ha hid hsteps (fun _ => rfl) hw fun s hu => ?_
    obtain hu | hu | hu | hu | hu | hu := hu <;> cases hu

/-! ## Runs -/

theorem LaneInv.receipt (h : LaneInv db) (host : Host) (views : ManualViews) (ha : db.Stores a)
    (hm : ¬ db.IsManual a) (call : ReceiptCall) (hok : HoldsLane db (.receipt a call)) :
    LaneAdvance a.operation db (receiptStep host views a db call) := by
  have hw := receiptStep_wrote host views hm call
  generalize receiptStep host views a db call = db' at hw ⊢
  cases hw with
  | nothing => exact h.stay _
  | observed => refine h.untouched ?_ ?_ ?_ _ <;> rfl
  | canonicalized hc => exact h.canonicalize ha hc (hok hc.pending)
  | orphaned hc => exact h.orphan ha hc

theorem LaneInv.step (h : LaneInv db) (host : Host) (views : ManualViews) (call : LaneCall)
    (hok : HoldsLane db call) :
    LaneAdvance call.operation db (laneStep host views db call) := by
  cases call with
  | reserveExecution operation walletId signer nonce asset amount gas now =>
      refine Tx.stateAfter_cases (LaneAdvance operation db) (h.stay _) fun _ db' hdb => ?_
      obtain rfl | hr := reserveExecution_ok hdb
      · exact h.stay _
      · exact h.reserve hr
  | commitSigned reservation a now =>
      by_cases ha : db.Stores a
      · simp only [laneStep, if_pos ha]
        refine Tx.stateAfter_cases (LaneAdvance a.operation db) (h.stay _) fun _ db' hdb => ?_
        obtain ⟨-, -, rfl⟩ := commitSigned_eq hdb
        exact h.sign ha hok
      · simpa only [laneStep, if_neg ha] using h.stay _
  | beginSubmission a allowFrozen now =>
      refine Tx.stateAfter_cases (LaneAdvance a.operation db) (h.stay _) fun _ db' hdb => ?_
      obtain ⟨-, -, rfl⟩ := openSubmissionTx_ok (beginSubmission_ok hdb).2
      refine h.untouched ?_ ?_ ?_ _ <;> rfl
  | finishSubmission a sub o now =>
      by_cases ha : db.Stores a
      · simp only [laneStep, if_pos ha]
        exact Tx.stateAfter_cases (LaneAdvance a.operation db) (h.stay _) fun _ db' hdb =>
          h.finish ha hdb hok
      · simpa only [laneStep, if_neg ha] using h.stay _
  | expirePreBroadcast a submission now =>
      by_cases ha : db.Stores a
      · simp only [laneStep, if_pos ha]
        refine Tx.stateAfter_cases (LaneAdvance a.operation db) (h.stay _) fun _ db' hdb => ?_
        obtain ⟨rows, rfl, -⟩ := expirePreBroadcast_eq hdb
        exact h.expire ha ⟨rfl, rfl, rfl, rfl, rfl⟩
      · simpa only [laneStep, if_neg ha] using h.stay _
  | freezeExecution walletId operation reason now =>
      refine h.keep rfl rfl (h.refreeze rfl fun l => ⟨rfl, rfl, fun hs => by cases hs⟩)
        fun l hl ho => ?_
      by_cases hp : l.OwnedBy walletId operation
      · exact ⟨_, mem_updateWhere_of_pos hl hp, rfl, ho⟩
      · exact ⟨l, mem_updateWhere_of_not hl hp, rfl, ho⟩
  | receipt a call =>
      by_cases ha : db.Stores a ∧ ¬ db.IsManual a
      · simp only [laneStep, if_pos ha]
        exact h.receipt host views ha.1 ha.2 call hok
      · simpa only [laneStep, if_neg ha] using h.stay _

/-- Nothing has been reserved yet: there are only dry runs, and lanes that are idle. -/
structure Unreserved (db : Db) : Prop where
  stepKeys : NoConflict StepConflict db.steps
  laneKeys : NoConflict WalletLane.Conflicts db.lanes
  steps : ∀ s ∈ db.steps, s.walletId = none
  attempts : db.attempts = []
  lanes : ∀ l ∈ db.lanes, l.state = .idle ∧ l.operationId = none

theorem Unreserved.inv (h : Unreserved db) : LaneInv db where
  stepKeys := h.stepKeys
  index := fun s hs hw => absurd (h.steps s hs) hw
  attempts := fun t ht => by
    rw [h.attempts] at ht
    cases ht
  laneKeys := h.laneKeys
  idle := fun l hl _ => (h.lanes l hl).2
  held := fun s hs _ w hw => by
    rw [h.steps s hs] at hw
    cases hw

/-- In a run in which no transaction takes a lane from another operation or leaves its own without
one, an idle lane means that its wallet has no unresolved step, and no transaction clears or
re-assigns a lane that names another operation. -/
theorem lane_is_idle_only_when_resolved (host : Host) (views : ManualViews) (db : Db)
    (hnew : Unreserved db) (calls : List LaneCall)
    (hok : Run.Along (laneStep host views) HoldsLane db calls) (n : Nat) :
    IdleResolved ((calls.take n).foldl (laneStep host views) db) ∧
      ∀ call, calls[n]? = some call →
        OthersKept call.operation ((calls.take n).foldl (laneStep host views) db)
          (laneStep host views ((calls.take n).foldl (laneStep host views) db) call) := by
  have hinv : LaneInv ((calls.take n).foldl (laneStep host views) db) :=
    hok.always hnew.inv (fun _ call h hc => (h.step host views call hc).inv) n
  exact ⟨hinv.idleResolved, fun call hcall => (hinv.step host views call (hok.get hcall)).others⟩

/-! ## Two operations

An operation whose receipt is orphaned after the next one has taken the lane. -/

/-- Two operations of a wallet with successful dry runs. -/
def dryRunDb : Db :=
  { operations := [{ id := "a", walletId := "wallet", requestJson := "a", requestFingerprint := "a",
                     status := .dryRunSucceeded },
                   { id := "b", walletId := "wallet", requestJson := "b", requestFingerprint := "b",
                     status := .dryRunSucceeded }],
    dryRunWallets := [{ id := "wallet", address := "0xw", enabled := true }],
    steps := [{ id := "a/dry", operationId := "a", stepIndex := 0, status := .succeeded },
              { id := "b/dry", operationId := "b", stepIndex := 0, status := .succeeded }],
    dryRunResults := [{ operationId := "a", stepId := "a/dry", success := true, blockNumber := 5,
                        blockHash := "0xb" },
                      { operationId := "b", stepId := "b/dry", success := true, blockNumber := 5,
                        blockHash := "0xb" }] }

def reserveOp (operation : String) (nonce : Nat) : LaneCall :=
  .reserveExecution operation "wallet" "0xw" nonce "eth" "5" "1" 0

/-- The artifact of operation `a`. -/
def artifactA : SignedArtifact :=
  { attemptId := "a/execution/1/attempt/0", operation := "a", stepId := "a/execution/1",
    walletId := "wallet", nonce := 7,
    payload := { txHash := "0xtx", keyVersion := "1", encryptionNonce := "0x1",
                 encryptedRawTx := "0x2" },
    policyVersion := 1, quoteBlockNumber := 5, quoteBlockHash := "0xb",
    expiresAt := "2026-01-02T00:00:00Z" }

def receiptA : ReceiptObservation :=
  { id := "a/execution/1/attempt/0/0xc", attemptId := "a/execution/1/attempt/0",
    txHash := "0xtx", blockNumber := 9, blockHash := "0xc", status := 1, state := .observed,
    version := 1 }

def signA : LaneCall :=
  .commitSigned ⟨"a", "a/execution/1", artifactA.attemptId, "wallet", "0xw", 7, false⟩ artifactA 0

/-- An outcome of a send of operation `a`, by the sequence of its row. -/
def finishA (sequence : Nat) (o : Outcome) : LaneCall :=
  .finishSubmission artifactA
    ⟨"a/execution/1/attempt/0/submission/" ++ toString sequence, artifactA.attemptId, "0xtx",
      sequence, .submitting⟩ o 0

def observeA : LaneCall := .receipt artifactA (.observe receiptA 0 {})

def canonicalizeA : LaneCall :=
  .receipt artifactA (.canonicalize receiptA (some ⟨"0xtoken", "5"⟩) 0 {})

def orphanA : LaneCall := .receipt artifactA (.orphan receiptA 0 {})

/-- Operation `a` is reserved, signed, sent, observed and settled. -/
def settleA : List LaneCall :=
  [reserveOp "a" 7, signA, .beginSubmission artifactA false 0,
    finishA 0 { state := .submitted, rpcHash := "0xtx" }, observeA, canonicalizeA]

theorem dryRunDb_unreserved : Unreserved dryRunDb :=
  ⟨by decide, by decide, by decide, rfl, by decide⟩

/-- The receipt is settled again before the next operation reserves the lane. -/
def settledFirst : List LaneCall :=
  settleA ++ [orphanA, canonicalizeA, reserveOp "b" 8]

/-- The next operation has the lane when the receipt is orphaned and settled again. -/
def reservedFirst : List LaneCall :=
  settleA ++ [reserveOp "b" 8, orphanA, canonicalizeA]

/-- Two sends of one artifact, of which the first is rejected and the second ambiguous. -/
def rejectedThenUnknown : List LaneCall :=
  [reserveOp "a" 7, signA, .beginSubmission artifactA false 0, .beginSubmission artifactA false 0,
    finishA 0 { state := .knownUnsent }, finishA 1 { state := .broadcastUnknown }]

/-- An artifact committed after its receipt was settled. -/
def signedAfterSettlement : List LaneCall := [reserveOp "a" 7, observeA, canonicalizeA, signA]

theorem settled_first_keeps_lane :
    (settledFirst.foldl (laneStep Host.plain {}) dryRunDb).lanes.map
      (fun l => (l.operationId, l.state)) = [(some "b", .reserved)] ∧
    IdleResolved ((settledFirst.take 8).foldl (laneStep Host.plain {}) dryRunDb) ∧
    ∀ call, settledFirst[8]? = some call →
      OthersKept call.operation ((settledFirst.take 8).foldl (laneStep Host.plain {}) dryRunDb)
        (laneStep Host.plain {} ((settledFirst.take 8).foldl (laneStep Host.plain {}) dryRunDb)
          call) :=
  ⟨by decide +kernel,
    lane_is_idle_only_when_resolved Host.plain {} dryRunDb dryRunDb_unreserved settledFirst
      (by decide +kernel) 8⟩

/-- Settling operation `a` again clears the lane that operation `b` has reserved, whose step is left
unresolved under an idle lane. The other two runs leave the step of `a` so. -/
theorem settling_again_clears_other_lane :
    ((reservedFirst.take 8).foldl (laneStep Host.plain {}) dryRunDb).lanes.map
      (fun l => (l.operationId, l.state)) = [(some "b", .frozen)] ∧
    (reservedFirst.foldl (laneStep Host.plain {}) dryRunDb).lanes.map
      (fun l => (l.operationId, l.state)) = [(none, .idle)] ∧
    ¬ IdleResolved (reservedFirst.foldl (laneStep Host.plain {}) dryRunDb) ∧
    ¬ IdleResolved (rejectedThenUnknown.foldl (laneStep Host.plain {}) dryRunDb) ∧
    ¬ IdleResolved (signedAfterSettlement.foldl (laneStep Host.plain {}) dryRunDb) := by
  decide +kernel

end RbhTrade.Settlement
