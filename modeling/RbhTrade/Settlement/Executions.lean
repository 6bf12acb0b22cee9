import RbhTrade.Settlement.Transactions

/-!
# What every transaction keeps

The keys of the tables, the index on the steps, and that a lane or a reservation belongs to an
operation with an attempt. An operation has one attempt, because the identifier of the attempt is
derived from it. No transaction of an execution breaks any of this, in whatever order they run.
-/

namespace RbhTrade.Settlement

open Tables GoTime

/-- The operation has an attempt of the wallet. -/
def Executes (db : Db) (operation wallet : String) : Prop :=
  ∃ t ∈ db.attempts, ∃ s ∈ db.steps, s.id = t.stepId ∧ s.operationId = operation ∧
    t.walletId = wallet

/-- The lanes have their key, an idle one names no operation, and any other one that is executed. -/
structure LanesOk (db : Db) (t : List WalletLane) : Prop where
  keys : NoConflict WalletLane.Conflicts t
  idle : ∀ l ∈ t, l.state = .idle → l.operationId = none
  named : ∀ l ∈ t, ∀ o, l.operationId = some o → Executes db o l.walletId

/-- The submissions have their keys, and the class that the recovery gives to a send that was not
begun stands only on a row that is known unsent. -/
structure SendsOk (t : List Submission) : Prop where
  keys : NoConflict Submission.Conflicts t
  classed : ∀ s ∈ t, s.failureClass = some .restartBeforeSendIntent → s.state = .knownUnsent

structure Keyed (host : Host) (db : Db) : Prop where
  operations : KeyUnique Operation.id db.operations
  steps : NoConflict StepConflict db.steps
  index : UnresolvedOnce db.steps
  attempts : KeyUnique TransactionAttempt.id db.attempts
  own : ∀ t ∈ db.attempts, ∃ s ∈ db.steps, s.id = t.stepId ∧
    t.id = attemptID host (executionStepID host s.operationId)
  lanes : LanesOk db db.lanes
  reserved : ∀ r ∈ db.reservations, Executes db r.operationId r.walletId
  sends : SendsOk db.submissions

/-! ## Rows -/

variable {operation stamp : String}

section Rows

variable {host : Host} {db db' : Db} {a : SignedArtifact}

theorem Executes.of_identities {wallet : String} (h : Executes db operation wallet)
    (hid : db.SameIdentities db') : Executes db' operation wallet := by
  obtain ⟨t, ht, s, hs, hst, hop, hw⟩ := h
  obtain ⟨t', ht', -, htstep, htw⟩ := hid.symm.attempt ht
  obtain ⟨s', hs', hsid, hsop, -⟩ := hid.symm.step hs
  exact ⟨t', ht', s', hs', by rw [hsid, htstep, hst], hsop.trans hop, htw.trans hw⟩

theorem Executes.append {wallet : String} (h : Executes db operation wallet)
    {steps : List ExecutionStep} {attempts : List TransactionAttempt}
    (hs : db'.steps = db.steps ++ steps) (ht : db'.attempts = db.attempts ++ attempts) :
    Executes db' operation wallet := by
  obtain ⟨t, htm, s, hsm, h⟩ := h
  exact ⟨t, ht ▸ List.mem_append_left _ htm, s, hs ▸ List.mem_append_left _ hsm, h⟩

theorem executes_of_stores (h : db.Stores a) : Executes db a.operation a.walletId := by
  obtain ⟨t, ht, s, hs, -, -, hw, hst, hop⟩ := h
  exact ⟨t, ht, s, hs, hst, hop, hw⟩

/-- An operation is executed by one wallet. -/
theorem Keyed.wallet_eq (h : Keyed host db) {w w' : String} (hw : Executes db operation w)
    (hw' : Executes db operation w') : w = w' := by
  obtain ⟨t, ht, s, hs, hst, hop, rfl⟩ := hw
  obtain ⟨u, hu, r, hr, hru, hop', rfl⟩ := hw'
  obtain ⟨s₁, hs₁, hst₁, hid⟩ := h.own t ht
  obtain ⟨r₁, hr₁, hru₁, hid'⟩ := h.own u hu
  have hstep : ∀ {x y}, x ∈ db.steps → y ∈ db.steps → x.id = y.id → x = y := fun hx hy he =>
    h.steps.eq (fun _ _ => StepConflict.symm) hx hy (.inl he)
  obtain rfl := hstep hs hs₁ (hst.trans hst₁.symm)
  obtain rfl := hstep hr hr₁ (hru.trans hru₁.symm)
  rw [h.attempts.eq ht hu (by rw [hid, hid', hop, hop'])]

variable {p : WalletLane → Prop}

theorem LanesOk.update {t : List WalletLane} (h : LanesOk db t) [DecidablePred p]
    {f : WalletLane → WalletLane} (hw : ∀ l, (f l).walletId = l.walletId)
    (hidle : ∀ l ∈ t, p l → (f l).state = .idle → (f l).operationId = none)
    (hop : ∀ l ∈ t, p l → ∀ o, (f l).operationId = some o →
      l.operationId = some o ∨ Executes db o l.walletId) : LanesOk db (updateWhere p f t) := by
  refine ⟨WalletLane.keys_updateWhere h.keys hw, fun l hl hs => ?_, fun l hl o ho => ?_⟩
  · obtain ⟨hl, -⟩ | ⟨k, hk, hpk, rfl⟩ := mem_updateWhere_cases hl
    · exact h.idle l hl hs
    · exact hidle k hk hpk hs
  · obtain ⟨hl, -⟩ | ⟨k, hk, hpk, rfl⟩ := mem_updateWhere_cases hl
    · exact h.named l hl o ho
    · rw [hw]
      exact (hop k hk hpk o ho).elim (h.named k hk o) id

theorem LanesOk.clear {t : List WalletLane} (h : LanesOk db t) [DecidablePred p]
    {reason : Option String} :
    LanesOk db (updateWhere p (WalletLane.clear reason stamp) t) :=
  h.update (fun _ => rfl) (fun _ _ _ _ => rfl) fun _ _ _ o ho => by cases ho

theorem LanesOk.freeze {t : List WalletLane} (h : LanesOk db t) [DecidablePred p] {reason : String}
    :
    LanesOk db (updateWhere p (WalletLane.freeze reason stamp) t) :=
  h.update (fun _ => rfl) (fun _ _ _ hs => by cases hs) fun _ _ _ _ ho => .inl ho

theorem SendsOk.map {t : List Submission} (h : SendsOk t) {g : Submission → Submission}
    (hg : ∀ s ∈ t, (g s).identity = s.identity ∧
      ((g s).failureClass = some .restartBeforeSendIntent → (g s).state = .knownUnsent)) :
    SendsOk (t.map g) := by
  refine ⟨h.keys.map fun x hx y hy hc => hc.of_identity (hg x hx).1 (hg y hy).1, fun s hs hc => ?_⟩
  obtain ⟨x, hx, rfl⟩ := List.mem_map.mp hs
  exact (hg x hx).2 hc

theorem SendsOk.update {t : List Submission} (h : SendsOk t) {p : Submission → Prop}
    [DecidablePred p] {f : Submission → Submission}
    (hf : ∀ s ∈ t, p s → (f s).identity = s.identity ∧
      ((f s).failureClass = some .restartBeforeSendIntent → (f s).state = .knownUnsent)) :
    SendsOk (updateWhere p f t) := by
  refine h.map fun s hs => ?_
  split
  · rename_i hp
    exact hf s hs hp
  · exact ⟨rfl, h.classed s hs⟩

theorem SendsOk.settle {t : List Submission} (h : SendsOk t) {id : String} {o : Outcome}
    (ho : o.Ends) : SendsOk (updateWhere (·.AwaitsOutcome id a) (Submission.settle o stamp) t) :=
  h.update fun _ _ _ => ⟨rfl, fun hc => absurd hc ho.2⟩

end Rows

/-! ## Transactions -/

section Step

variable {host : ServiceHost} {db db' : Db}

/-- A transaction that adds no operation, step, attempt or reservation. -/
theorem Keyed.update (h : Keyed host.toHost db)
    (hops : db'.operations.map Operation.id = db.operations.map Operation.id)
    (hid : db.SameIdentities db') (hindex : UnresolvedOnce db'.steps)
    (hlanes : LanesOk db db'.lanes)
    (hres : db'.reservations.map (fun r => (r.operationId, r.walletId)) =
      db.reservations.map fun r => (r.operationId, r.walletId))
    (hsends : SendsOk db'.submissions) : Keyed host.toHost db' where
  operations := by
    unfold KeyUnique
    rw [hops]
    exact h.operations
  steps := by
    have hsteps (t : List ExecutionStep) : (t.map ExecutionStep.identity).Pairwise
        (fun x y => ¬ (x.1 = y.1 ∨ (x.2.1 = y.2.1 ∧ x.2.2.1 = y.2.2.1))) ↔
          NoConflict StepConflict t := List.pairwise_map
    exact (hsteps _).mp (hid.steps ▸ (hsteps _).mpr h.steps)
  index := hindex
  attempts := by
    have hids : db'.attempts.map TransactionAttempt.id = db.attempts.map TransactionAttempt.id := by
      have := congrArg (List.map Prod.fst) hid.attempts
      rwa [List.map_map, List.map_map] at this
    unfold KeyUnique
    rw [hids]
    exact h.attempts
  own := fun t ht => by
    obtain ⟨t₀, ht₀, htid, htstep, -⟩ := hid.attempt ht
    obtain ⟨s₀, hs₀, hst, hown⟩ := h.own t₀ ht₀
    obtain ⟨s, hs, hsid, hsop, -⟩ := hid.symm.step hs₀
    exact ⟨s, hs, by rw [hsid, hst, htstep], by rw [← htid, hown, hsop]⟩
  lanes := ⟨hlanes.keys, hlanes.idle, fun l hl o ho => (hlanes.named l hl o ho).of_identities hid⟩
  reserved := fun r hr => by
    have hmem : (r.operationId, r.walletId) ∈
        db.reservations.map fun r => (r.operationId, r.walletId) := hres ▸ List.mem_map_of_mem hr
    obtain ⟨r₀, hr₀, he⟩ := List.mem_map.mp hmem
    simp only [Prod.mk.injEq] at he
    rw [← he.1, ← he.2]
    exact (h.reserved r₀ hr₀).of_identities hid
  sends := hsends

theorem Keyed.rows (h : Keyed host.toHost db) (hs : db.SameHoldings db')
    (ho : db'.operations = db.operations) (hsends : SendsOk db'.submissions) :
    Keyed host.toHost db' :=
  h.update (by rw [ho]) hs.identities (hs.steps ▸ h.index) (hs.lanes ▸ h.lanes)
    (by rw [hs.reservations]) hsends

theorem Keyed.reserve (h : Keyed host.toHost db) {walletId signer : String} {nonce : Nat}
    (hl : LaneReserved operation walletId signer stamp db db')
    (hm : ReservationMade host.toHost operation walletId nonce stamp db db') :
    Keyed host.toHost db' := by
  obtain ⟨request, dryRun, hsteps, hattempts⟩ := hm.rows
  have hnew : Executes db' operation walletId :=
    ⟨_, hattempts ▸ List.mem_append_right _ (List.mem_singleton_self _), _,
      hsteps ▸ List.mem_append_right _ (List.mem_singleton_self _), rfl, rfl, rfl⟩
  have hold : ∀ {o w}, Executes db o w → Executes db' o w := fun hx => hx.append hsteps hattempts
  obtain ⟨step, laneNonce, hlanes⟩ := hl.lanes
  have hwith : LanesOk db' (withLane walletId signer stamp db.lanes) := by
    have hlanes' : LanesOk db' db.lanes :=
      ⟨h.lanes.keys, h.lanes.idle, fun l hm o ho => hold (h.lanes.named l hm o ho)⟩
    unfold withLane
    split
    · exact hlanes'
    · rename_i hno
      refine ⟨hlanes'.keys.append fun l hm hc => hno ⟨l, hm, hc⟩, fun l hm hs => ?_,
        fun l hm o ho => ?_⟩
      · obtain hm | hm := List.mem_append.mp hm
        · exact hlanes'.idle l hm hs
        · rw [List.mem_singleton.mp hm]
      · obtain hm | hm := List.mem_append.mp hm
        · exact hlanes'.named l hm o ho
        · rw [List.mem_singleton.mp hm] at ho
          cases ho
  refine ⟨?_, ?_, hl.index, ?_, fun t ht => ?_, ?_, fun r hr => ?_, hm.submissions ▸ h.sends⟩
  · rw [hm.operations]
    exact h.operations.updateWhere fun _ _ => rfl
  · rw [hsteps]
    exact h.steps.append fun x hx hc => hc.elim (hm.fresh x hx).1 (hm.fresh x hx).2
  · rw [hattempts]
    exact h.attempts.append hm.free
  · rw [hattempts] at ht
    rw [hsteps]
    obtain ht | ht := List.mem_append.mp ht
    · obtain ⟨s, hs, hst, hid⟩ := h.own t ht
      exact ⟨s, List.mem_append_left _ hs, hst, hid⟩
    · rw [List.mem_singleton.mp ht]
      exact ⟨_, List.mem_append_right _ (List.mem_singleton_self _), rfl, rfl⟩
  · rw [hlanes]
    refine hwith.update (fun _ => rfl) (fun _ _ _ hs => by cases hs) fun l _ hfree o ho => .inr ?_
    obtain rfl := Option.some.inj ho
    rw [hfree.1]
    exact hnew
  · obtain ⟨r₀, hop, hw, -, hres⟩ := hm.reservations
    rw [hres] at hr
    obtain hr | hr := List.mem_append.mp hr
    · exact hold (h.reserved r hr)
    · rw [List.mem_singleton.mp hr, hop, hw]
      exact hnew

theorem Keyed.orphan (h : Keyed host.toHost db) {a : SignedArtifact} {receipt : String}
    {lane : WalletLane} (ha : db.Stores a) (ho : Orphaned host.toHost a receipt stamp lane db db') :
    Keyed host.toHost db' := by
  refine h.update (by rw [ho.operations]) (.of_steps ho.attempts ho.steps fun _ => rfl) ho.index ?_
    (by rw [ho.reservations]; exact map_updateWhere _ fun _ _ => rfl) (ho.submissions ▸ h.sends)
  rw [ho.lanes]
  refine h.lanes.update (fun l => ?_) (fun l _ _ hs => ?_) fun l hl hw o hlo => ?_
  · split <;> rfl
  · split at hs <;> cases hs
  · split at hlo
    · obtain rfl := Option.some.inj hlo
      rw [hw]
      exact .inr (executes_of_stores ha)
    · exact .inl hlo

theorem Keyed.recover (h : Keyed host.toHost db) {environment : String}
    (hr : Recovered environment stamp db db') (hindex : UnresolvedOnce db'.steps) :
    Keyed host.toHost db' := by
  refine h.update ?_ hr.sources.identities hindex ?_ ?_ ?_
  · rw [hr.operations]
    exact map_updateWhere _ fun _ _ => rfl
  · rw [hr.lanes]
    exact h.lanes.clear.freeze
  · simp only [hr.reservations, Db.settleRecovered, Db.freezeUnknown, Db.releaseFirst]
    rw [map_updateWhere, map_updateWhere] <;> exact fun _ _ => rfl
  · rw [hr.submissions]
    refine h.sends.map fun s hs => ⟨recoverSubmission_identity db environment stamp s, fun hc => ?_⟩
    obtain he | ⟨-, -, state, c, detail, he, hcase⟩ :=
      recoverSubmission_cases db environment stamp s
    · rw [he] at hc ⊢
      exact h.sends.classed s hs hc
    · rw [he] at hc ⊢
      obtain ⟨rfl, -⟩ | ⟨-, rfl⟩ := hcase
      · rfl
      · cases hc

theorem Keyed.wrote (h : Keyed host.toHost db) {call : ExecutionCall}
    (hw : Wrote host db call db') :
    Keyed host.toHost db' := by
  cases hw with
  | nothing => exact h
  | beside hs ho hsub => exact h.rows hs ho (hsub ▸ h.sends)
  | admitted hfresh hstatus hidx hwallet hres hfree =>
      refine ⟨h.operations.append hfresh, h.steps.append hfree, ?_, h.attempts, fun t ht => ?_,
        ⟨h.lanes.keys, h.lanes.idle, fun l hl o ho => ?_⟩, fun r hr => ?_, h.sends⟩
      · refine List.pairwise_append.mpr ⟨h.index, List.pairwise_singleton _ _, fun x _ y hy => ?_⟩
        rw [List.mem_singleton.mp hy]
        exact fun hc => hres hc.2.2.2
      · obtain ⟨s, hs, hx⟩ := h.own t ht
        exact ⟨s, List.mem_append_left _ hs, hx⟩
      · exact (h.lanes.named l hl o ho).append rfl (List.append_nil _).symm
      · exact (h.reserved r hr).append rfl (List.append_nil _).symm
  | dryRun results ho hs hindex =>
      exact h.update (map_updateWhere _ fun o _ => (ho o).1)
        (.of_steps rfl rfl hs) hindex h.lanes rfl
        h.sends
  | unreserved hfree =>
      exact h.update (map_updateWhere _ fun _ _ => rfl) ⟨rfl, rfl⟩ h.index h.lanes rfl h.sends
  | reserved _ hl hm => exact h.reserve hl hm
  | signed _ _ hindex =>
      refine h.update (map_updateWhere _ fun _ _ => rfl)
        (.of_updates rfl rfl (fun _ => rfl) fun _ => rfl) hindex ?_
        (map_updateWhere _ fun _ _ => rfl) h.sends
      exact h.lanes.update (fun _ => rfl) (fun _ _ _ hs => by cases hs) fun _ _ _ _ ho => .inl ho
  | opened hs ho hfresh hsub =>
      refine h.rows hs ho (hsub ▸ ⟨h.sends.keys.append hfresh, fun s hm hc => ?_⟩)
      obtain hm | hm := List.mem_append.mp hm
      · exact h.sends.classed s hm hc
      · rw [List.mem_singleton.mp hm] at hc
        cases hc
  | marked hs ho hsub =>
      exact h.rows hs ho (hsub ▸ h.sends.update fun s hm _ => ⟨rfl, h.sends.classed s hm⟩)
  | settled leases ho =>
      exact h.rows ⟨rfl, rfl, rfl, rfl, rfl⟩ rfl (h.sends.settle ho.ends)
  | released leases ho =>
      exact h.update (map_updateWhere _ fun _ _ => rfl)
        (.of_updates rfl rfl (fun _ => rfl) fun _ => rfl)
        (h.index.resolve fun _ => ⟨rfl, show ¬ StepStatus.Unresolved .knownUnsent by decide⟩)
        h.lanes.clear (map_updateWhere _ fun _ _ => rfl)
        (h.sends.settle ho.ends)
  | frozen ho hindex =>
      exact h.update rfl (.of_steps rfl rfl fun _ => rfl) hindex h.lanes.freeze
        (map_updateWhere _ fun _ _ => rfl) (h.sends.settle ho.ends)
  | frozenRisk leases ho =>
      exact h.update rfl ⟨rfl, rfl⟩ h.index h.lanes.freeze (map_updateWhere _ fun _ _ => rfl)
        (h.sends.settle ho.ends)
  | froze =>
      exact h.update rfl ⟨rfl, rfl⟩ h.index h.lanes.freeze
        (map_updateWhere _ fun _ _ => rfl) h.sends
  | expired _ hrows =>
      refine h.update (map_updateWhere _ fun _ _ => rfl)
        (.of_updates rfl rfl (fun _ => rfl) fun _ => rfl)
        (h.index.resolve fun _ =>
          ⟨rfl, show ¬ StepStatus.Unresolved .expiredPrebroadcast by decide⟩)
        h.lanes.clear (map_updateWhere _ fun _ _ => rfl) ?_
      obtain rfl | ⟨id, rfl⟩ := hrows
      · exact h.sends
      · exact h.sends.update fun _ _ _ => ⟨rfl, fun hc => by cases hc⟩
  | canonicalized _ hc =>
      refine h.update (by rw [hc.operations]; exact map_updateWhere _ fun _ _ => rfl)
        (.of_steps hc.attempts hc.steps fun _ => rfl) hc.index (hc.lanes ▸ h.lanes.clear)
        (by rw [hc.reservations]; exact map_updateWhere _ fun _ _ => rfl) (hc.submissions ▸ h.sends)
  | orphaned ha ho => exact h.orphan ha ho
  | recovered hr hindex => exact h.recover hr hindex

theorem Keyed.step (h : Keyed host.toHost db) (views : ManualViews) (call : ExecutionCall) :
    Keyed host.toHost (executionStep host views db call) :=
  h.wrote (executionStep_wrote host views db call)

/-- Nothing has been reserved yet. -/
structure Untouched (db : Db) : Prop where
  operations : KeyUnique Operation.id db.operations
  steps : NoConflict StepConflict db.steps
  wallets : ∀ s ∈ db.steps, s.walletId = none
  attempts : db.attempts = []
  reservations : db.reservations = []
  submissions : db.submissions = []
  keys : NoConflict WalletLane.Conflicts db.lanes
  lanes : ∀ l ∈ db.lanes, l.operationId = none

theorem Untouched.keyed (h : Untouched db) : Keyed host.toHost db where
  operations := h.operations
  steps := h.steps
  index := List.Pairwise.imp_of_mem (fun {x y} hx _ _ hc => hc.1 (h.wallets x hx)) h.steps
  attempts := by
    rw [h.attempts]
    exact List.nodup_nil
  own := fun t ht => by
    rw [h.attempts] at ht
    cases ht
  lanes := ⟨h.keys, fun l hl _ => h.lanes l hl, fun l hl o ho => by
    rw [h.lanes l hl] at ho
    cases ho⟩
  reserved := fun r hr => by
    rw [h.reservations] at hr
    cases hr
  sends := by
    rw [h.submissions]
    exact ⟨.nil, fun _ hs => absurd hs List.not_mem_nil⟩

end Step

/-- From tables without executions, in whatever order the transactions run: a wallet has one
unresolved step at most, a lane that names an operation is the only one and is not idle, and the
lane and the reservation of an operation are of the one wallet that executes it. -/
theorem executions_have_one_owner (host : ServiceHost) (views : ManualViews) (db₀ : Db)
    (calls : List ExecutionCall) :
    let db := calls.foldl (executionStep host views) { db₀ with
      operations := [], steps := [], attempts := [], reservations := [], submissions := [],
      lanes := [] }
    UnresolvedOnce db.steps ∧
    (∀ l ∈ db.lanes, ∀ o, l.operationId = some o → l.state ≠ .idle ∧
      (∀ k ∈ db.lanes, k.operationId = some o → k = l) ∧ ∀ w, Executes db o w ↔ w = l.walletId) ∧
    ∀ r ∈ db.reservations, ∀ w, Executes db r.operationId w ↔ w = r.walletId := by
  intro db
  have h : Keyed host.toHost db := by
    refine List.foldlRecOn calls _ (Untouched.keyed ?_) fun _ h call _ => h.step views call
    constructor <;> first | exact .nil | simp
  have howner : ∀ {o w}, Executes db o w → ∀ w', Executes db o w' ↔ w' = w :=
    fun hw w' => ⟨fun hw' => h.wallet_eq hw' hw, fun he => he ▸ hw⟩
  refine ⟨h.index, fun l hl o ho => ⟨fun hidle => ?_, fun k hk hko => ?_, ?_⟩, fun r hr =>
    howner (h.reserved r hr)⟩
  · cases ho.symm.trans (h.lanes.idle l hl hidle)
  · have hw := h.wallet_eq (h.lanes.named k hk o hko) (h.lanes.named l hl o ho)
    exact h.lanes.keys.eq (fun _ _ => Eq.symm) hk hl hw
  · exact howner (h.lanes.named l hl o ho)

end RbhTrade.Settlement
