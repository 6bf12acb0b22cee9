import RbhTrade.Service.Prepare

/-!
# One durable artifact for an operation

Several callers may prepare the same operation at once, and each may sign a transaction of its own.
The attempt of an operation has a fixed identifier. A reservation either inserts it or finds it with
the same nonce, and a commit fills it only while it is prepared; its payload is never overwritten.
So one of the callers stores its artifact, and any other that returns one has read it back.
-/

namespace RbhTrade.Kernel

open Tables GoTime

/-- A call of `Prepare` for the operation. -/
structure PrepareCall where
  walletId : String
  input : PrepareInput

/-! ## The attempt of an operation -/

/-- The attempt is of a step of the operation. -/
def OfOperation (db : Db) (operation : String) (t : TransactionAttempt) : Prop :=
  ∃ s ∈ db.steps, s.id = t.stepId ∧ s.operationId = operation
deriving Decidable

/-- The signed artifacts of the operation that are durable. -/
def artifacts (db : Db) (operation : String) : List SignedArtifact :=
  (db.attempts.filter (OfOperation db operation ·)).filterMap (·.artifact operation)

/-- The identifier of the operation's attempt. -/
def attemptOf (host : ServiceHost) (operation : String) : String :=
  attemptID host.toHost (executionStepID host.toHost operation)

/-- The operation has one attempt at most, which is under the step and the wallet of the operation
and has no payload while it is prepared. -/
structure OneAttempt (host : ServiceHost) (operation : String) (db : Db) : Prop where
  operationKeys : NoConflict (fun x y => x.id = y.id) db.operations
  keys : NoConflict (fun t u => t.id = u.id) db.attempts
  foreign : ∀ t ∈ db.attempts, ∃ s ∈ db.steps, s.id = t.stepId
  own : ∀ t ∈ db.attempts, OfOperation db operation t → t.id = attemptOf host operation
  step : ∀ t ∈ db.attempts, t.id = attemptOf host operation →
    t.stepId = executionStepID host.toHost operation ∧ OfOperation db operation t
  wallet : ∀ t ∈ db.attempts, t.id = attemptOf host operation →
    ∀ o ∈ db.operations, o.id = operation → o.walletId = t.walletId
  unsigned : ∀ t ∈ db.attempts, t.id = attemptOf host operation → t.status = .prepared →
    t.payload = none

/-- The columns of an attempt that the writers of the kernel keep. -/
structure SameAttempt (operation : String) (t t' : TransactionAttempt) : Prop where
  id : t'.id = t.id
  stepId : t'.stepId = t.stepId
  nonce : t'.nonce = t.nonce
  walletId : t'.walletId = t.walletId
  artifact : ∀ a, t.artifact operation = some a → t'.artifact operation = some a

/-- Steps and attempts stay, and so does an artifact. -/
structure Keeps (operation : String) (db db' : Db) : Prop where
  steps : ∀ s ∈ db.steps, ∃ s' ∈ db'.steps, s'.id = s.id ∧ s'.operationId = s.operationId
  attempts : ∀ t ∈ db.attempts, ∃ t' ∈ db'.attempts, SameAttempt operation t t'

/-- What every access of a `Prepare` call of the operation does. -/
def Evolves (host : ServiceHost) (operation : String) (db db' : Db) : Prop :=
  OneAttempt host operation db → OneAttempt host operation db' ∧ Keeps operation db db'

/-- The artifact is durable. -/
def Stored (operation : String) (a : SignedArtifact) (db : Db) : Prop :=
  ∃ t ∈ db.attempts, OfOperation db operation t ∧ t.artifact operation = some a

variable {host : ServiceHost} {operation : String} {db db' db'' : Db}

theorem SameAttempt.refl (t : TransactionAttempt) : SameAttempt operation t t :=
  ⟨rfl, rfl, rfl, rfl, fun _ h => h⟩

variable {t : TransactionAttempt} {a : SignedArtifact} {now : Instant}
  {reservation : ReservedExecution} {walletId : String}

theorem SameAttempt.trans {t' t'' : TransactionAttempt} (h : SameAttempt operation t t')
    (h' : SameAttempt operation t' t'') : SameAttempt operation t t'' :=
  ⟨h'.id.trans h.id, h'.stepId.trans h.stepId, h'.nonce.trans h.nonce,
    h'.walletId.trans h.walletId, fun a ha => h'.artifact a (h.artifact a ha)⟩

theorem Keeps.refl (db : Db) : Keeps operation db db :=
  ⟨fun s hs => ⟨s, hs, rfl, rfl⟩, fun t ht => ⟨t, ht, .refl t⟩⟩

theorem Keeps.trans (h : Keeps operation db db') (h' : Keeps operation db' db'') :
    Keeps operation db db'' := by
  constructor
  · intro s hs
    obtain ⟨s', hs', hid, hop⟩ := h.steps s hs
    obtain ⟨s'', hs'', hid', hop'⟩ := h'.steps s' hs'
    exact ⟨s'', hs'', hid'.trans hid, hop'.trans hop⟩
  · intro t ht
    obtain ⟨t', ht', hsame⟩ := h.attempts t ht
    obtain ⟨t'', ht'', hsame'⟩ := h'.attempts t' ht'
    exact ⟨t'', ht'', hsame.trans hsame'⟩

theorem Keeps.ofOperation (h : Keeps operation db db') {t' : TransactionAttempt}
    (ht : OfOperation db operation t) (hsame : t'.stepId = t.stepId) :
    OfOperation db' operation t' := by
  obtain ⟨s, hs, hid, hop⟩ := ht
  obtain ⟨s', hs', hid', hop'⟩ := h.steps s hs
  exact ⟨s', hs', by rw [hid', hid, hsame], hop'.trans hop⟩

theorem Evolves.refl (db : Db) : Evolves host operation db db := fun h => ⟨h, .refl db⟩

theorem Evolves.trans (h : Evolves host operation db db') (h' : Evolves host operation db' db'') :
    Evolves host operation db db'' := fun hi => by
  obtain ⟨hi', hk⟩ := h hi
  obtain ⟨hi'', hk'⟩ := h' hi'
  exact ⟨hi'', hk.trans hk'⟩

theorem Stored.keep (h : Stored operation a db) (hk : Keeps operation db db') :
    Stored operation a db' := by
  obtain ⟨t, ht, hop, ha⟩ := h
  obtain ⟨t', ht', hsame⟩ := hk.attempts t ht
  exact ⟨t', ht', hk.ofOperation hop hsame.stepId, hsame.artifact a ha⟩

/-! ## The transactions -/

section Transactions

/-- Updates that keep operations, steps and attempts what they are. -/
theorem Evolves.update {p : Operation → Prop} [DecidablePred p] {f : Operation → Operation}
    {q : ExecutionStep → Prop} [DecidablePred q] {g : ExecutionStep → ExecutionStep}
    {r : TransactionAttempt → Prop} [DecidablePred r] {k : TransactionAttempt → TransactionAttempt}
    (ho : db'.operations = updateWhere p f db.operations)
    (hs : db'.steps = updateWhere q g db.steps) (ha : db'.attempts = updateWhere r k db.attempts)
    (hf : ∀ o, (f o).id = o.id ∧ (f o).walletId = o.walletId)
    (hg : ∀ s, (g s).identity = s.identity)
    (hk : OneAttempt host operation db → ∀ t ∈ db.attempts, r t →
      SameAttempt operation t (k t) ∧ (k t).status ≠ .prepared) :
    Evolves host operation db db' := by
  intro h
  have hattempt : ∀ t' ∈ db'.attempts, ∃ t ∈ db.attempts, SameAttempt operation t t' ∧
      (t'.status = .prepared → t' = t) := by
    intro t' ht'
    rw [ha] at ht'
    obtain ⟨ht', -⟩ | ⟨t, ht, hr, rfl⟩ := mem_updateWhere_cases ht'
    · exact ⟨t', ht', .refl t', fun _ => rfl⟩
    · exact ⟨t, ht, (hk h t ht hr).1, fun hc => absurd hc (hk h t ht hr).2⟩
  have hrow : ∀ o ∈ db'.operations, ∃ x ∈ db.operations, x.id = o.id ∧ x.walletId = o.walletId := by
    intro o hmem
    rw [ho] at hmem
    obtain ⟨hmem, -⟩ | ⟨x, hx, -, rfl⟩ := mem_updateWhere_cases hmem
    · exact ⟨o, hmem, rfl, rfl⟩
    · exact ⟨x, hx, (hf x).1.symm, (hf x).2.symm⟩
  have hsteps : ∀ {t : TransactionAttempt} {op : String},
      OfOperation db' op t ↔ OfOperation db op t := by
    intro t op
    unfold OfOperation
    rw [hs]
    refine exists_updateWhere_iff fun s _ => ?_
    have hid := hg s
    simp only [ExecutionStep.identity, Prod.mk.injEq] at hid
    rw [hid.1, hid.2.1]
  have hkeeps : Keeps operation db db' := by
    constructor
    · intro s hmem
      rw [hs]
      refine ⟨_, mem_updateWhere_of_mem hmem, ?_⟩
      have hid := hg s
      simp only [ExecutionStep.identity, Prod.mk.injEq] at hid
      split
      · exact ⟨hid.1, hid.2.1⟩
      · exact ⟨rfl, rfl⟩
    · intro t ht
      rw [ha]
      refine ⟨_, mem_updateWhere_of_mem ht, ?_⟩
      split
      · exact (hk h t ht (by assumption)).1
      · exact .refl t
  refine ⟨⟨?_, ?_, ?_, fun t' ht' hop => ?_, fun t' ht' hid => ?_, fun t' ht' hid o hmem hoid => ?_,
    fun t' ht' hid hprep => ?_⟩, hkeeps⟩
  · rw [ho]
    refine h.operationKeys.updateWhere fun x y hxy => ?_
    split at hxy <;> split at hxy <;> simpa only [(hf _).1] using hxy
  · rw [ha]
    refine h.keys.map fun t ht u hu hc => ?_
    have hid : ∀ t ∈ db.attempts, (if r t then k t else t).id = t.id := fun t ht => by
      split
      · exact (hk h t ht (by assumption)).1.id
      · rfl
    rwa [hid t ht, hid u hu] at hc
  · intro t' ht'
    obtain ⟨t, ht, hsame, -⟩ := hattempt t' ht'
    obtain ⟨s, hmem, hsid⟩ := h.foreign t ht
    obtain ⟨s', hs', hid, -⟩ := hkeeps.steps s hmem
    exact ⟨s', hs', by rw [hid, hsid, hsame.stepId]⟩
  · obtain ⟨t, ht, hsame, -⟩ := hattempt t' ht'
    rw [hsame.id]
    refine h.own t ht ?_
    obtain ⟨s, hmem, hsid, hsop⟩ := hsteps.mp hop
    exact ⟨s, hmem, hsid.trans hsame.stepId, hsop⟩
  · obtain ⟨t, ht, hsame, -⟩ := hattempt t' ht'
    obtain ⟨hstep, hop⟩ := h.step t ht (hsame.id.symm.trans hid)
    exact ⟨hsame.stepId.trans hstep, hkeeps.ofOperation hop hsame.stepId⟩
  · obtain ⟨t, ht, hsame, -⟩ := hattempt t' ht'
    obtain ⟨x, hx, hxid, hxw⟩ := hrow o hmem
    rw [← hxw, hsame.walletId]
    exact h.wallet t ht (hsame.id.symm.trans hid) x hx (hxid.trans hoid)
  · obtain ⟨t, ht, hsame, hprepared⟩ := hattempt t' ht'
    obtain rfl := hprepared hprep
    exact h.unsigned t' ht hid hprep

/-- A write of operations only. -/
theorem Evolves.operations {p : Operation → Prop} [DecidablePred p] {f : Operation → Operation}
    (ho : db'.operations = updateWhere p f db.operations)
    (hf : ∀ o, (f o).id = o.id ∧ (f o).walletId = o.walletId) (hs : db'.steps = db.steps)
    (ha : db'.attempts = db.attempts) : Evolves host operation db db' := by
  refine .update (q := fun _ => False) (g := id) (r := fun _ => False) (k := id) ho ?_ ?_ hf
    (fun _ => rfl) fun _ _ _ hc => hc.elim
  · rw [hs, updateWhere_eq_self fun _ _ => not_false]
  · rw [ha, updateWhere_eq_self fun _ _ => not_false]

theorem Evolves.same (ho : db'.operations = db.operations) (hs : db'.steps = db.steps)
    (ha : db'.attempts = db.attempts) : Evolves host operation db db' := by
  refine .operations (p := fun _ => False) (f := id) ?_ (fun _ => ⟨rfl, rfl⟩) hs ha
  rw [ho, updateWhere_eq_self fun _ _ => not_false]

theorem Evolves.expireUnreserved (op : String) (now : Instant) (db : Db) :
    Evolves host operation db ((expireUnreserved op now).stateAfter db) := by
  refine Tx.stateAfter_cases (Evolves host operation db) (.refl db) fun _ db' h => ?_
  obtain ⟨-, rfl⟩ := expireUnreserved_ok h
  exact .operations rfl (fun _ => ⟨rfl, rfl⟩) rfl rfl

theorem Evolves.freeze (walletId op reason : String) (now : Instant) (db : Db) :
    Evolves host operation db ((freezeExecution walletId op reason now).stateAfter db) :=
  .same rfl rfl rfl

theorem Evolves.expirePreBroadcast (a : SignedArtifact) (sub : Option SubmissionRecord)
    (now : Instant) (db : Db) :
    Evolves host operation db ((expirePreBroadcast a sub now).stateAfter db) := by
  refine Tx.stateAfter_cases (Evolves host operation db) (.refl db) fun _ db' h => ?_
  obtain ⟨rows, rfl, -⟩ := expirePreBroadcast_eq h
  refine .update rfl rfl rfl (fun _ => ⟨rfl, rfl⟩)
    (fun _ => rfl) fun _ t _ _ => ⟨⟨rfl, rfl, rfl, rfl, fun _ ha => ha⟩, ?_⟩
  exact fun hc => by cases hc

/-- A commit fills the attempt of the operation, which was empty. -/
theorem Evolves.commit {u : Unit} (hid : a.attemptId = attemptOf host operation)
    (h : commitSigned reservation a now db = .ok (u, db')) : Evolves host operation db db' := by
  obtain ⟨-, -, rfl⟩ := commitSigned_eq h
  refine .update rfl rfl rfl (fun _ => ⟨rfl, rfl⟩) (fun _ => rfl)
    fun hone t ht hp => ⟨⟨rfl, rfl, rfl, rfl, fun b hb => ?_⟩, fun hc => by cases hc⟩
  have hnone : t.artifact operation = none := by
    rw [TransactionAttempt.artifact, hone.unsigned t ht (hp.1.trans hid) hp.2.2.2.1]
    rfl
  rw [hnone] at hb
  cases hb

theorem Evolves.reserve {nonce : Nat} {stamp : String}
    (hop : ∃ o ∈ db.operations, o.id = operation ∧ o.walletId = walletId)
    (hr : ReservationMade host.toHost operation walletId nonce stamp db db') :
    Evolves host operation db db' := by
  intro h
  obtain ⟨request, dryRun, hsteps, hattempts⟩ := hr.rows
  obtain ⟨o₀, ho₀, hid₀, hw₀⟩ := hop
  have hnew : OfOperation db' operation
      (reservedAttempt host.toHost operation walletId nonce request dryRun stamp) := by
    refine ⟨reservedStep host.toHost operation walletId request dryRun stamp, ?_, rfl, rfl⟩
    rw [hsteps]
    exact List.mem_append_right _ (List.mem_singleton_self _)
  have hkeeps : Keeps operation db db' := by
    constructor
    · intro s hs
      rw [hsteps]
      exact ⟨s, List.mem_append_left _ hs, rfl, rfl⟩
    · intro t ht
      rw [hattempts]
      exact ⟨t, List.mem_append_left _ ht, .refl t⟩
  have hcases : ∀ t ∈ db'.attempts, t ∈ db.attempts ∨
      t = reservedAttempt host.toHost operation walletId nonce request dryRun stamp := by
    intro t ht
    rw [hattempts] at ht
    exact (List.mem_append.mp ht).imp_right List.mem_singleton.mp
  refine ⟨⟨?_, ?_, fun t ht => ?_, fun t ht hop => ?_, fun t ht hid => ?_,
    fun t ht hid o hmem hoid => ?_, fun t ht hid hprep => ?_⟩, hkeeps⟩
  · rw [hr.operations]
    refine h.operationKeys.updateWhere fun x y hxy => ?_
    split at hxy <;> split at hxy <;> exact hxy
  · rw [hattempts]
    exact h.keys.append hr.free
  · obtain ht | rfl := hcases t ht
    · obtain ⟨s, hs, hid⟩ := h.foreign t ht
      obtain ⟨s', hs', hid', -⟩ := hkeeps.steps s hs
      exact ⟨s', hs', hid'.trans hid⟩
    · obtain ⟨s, hs, hid, -⟩ := hnew
      exact ⟨s, hs, hid⟩
  · obtain ht | rfl := hcases t ht
    · obtain ⟨s, hs, hsid, hsop⟩ := hop
      rw [hsteps] at hs
      obtain hs | hs := List.mem_append.mp hs
      · exact h.own t ht ⟨s, hs, hsid, hsop⟩
      · -- An old attempt has an old step, and the new step has a new identifier.
        obtain ⟨x, hx, hxid⟩ := h.foreign t ht
        refine absurd (hxid.trans ?_) (hr.fresh x hx).1
        rw [← hsid, List.mem_singleton.mp hs]
        rfl
    · rfl
  · obtain ht | rfl := hcases t ht
    · exact absurd hid (hr.free t ht)
    · exact ⟨rfl, hnew⟩
  · obtain ht | rfl := hcases t ht
    · exact absurd hid (hr.free t ht)
    · rw [hr.operations] at hmem
      obtain ⟨hmem, hne⟩ | ⟨x, hx, hxid, rfl⟩ := mem_updateWhere_cases hmem
      · exact absurd hoid hne
      · obtain rfl := h.operationKeys.eq (fun _ _ => Eq.symm) hx ho₀ (hxid.trans hid₀.symm)
        exact hw₀
  · obtain ht | rfl := hcases t ht
    · exact h.unsigned t ht hid hprep
    · rfl

end Transactions

/-! ## The call

In a state with one attempt, whatever other calls do, each access keeps to `Evolves`, and an
artifact that is returned is durable from then on. -/

/-- An artifact that is returned is durable. -/
def ReturnsStored (operation : String) (r : Except Err SignedArtifact) (db : Db) : Prop :=
  ∀ a, r = .ok a → Stored operation a db

/-- The specification of what is left of a call. -/
abbrev Conforms (host : ServiceHost) (operation : String)
    (p : Process Db (Except Err SignedArtifact)) (db : Db) : Prop :=
  p.Meets (Evolves host operation) (fun _ _ => True) (Evolves host operation)
    (ReturnsStored operation) db

/-- The reservation of the operation is in the table. -/
def Holds (host : ServiceHost) (operation walletId : String) (db : Db) : Prop :=
  ∃ t ∈ db.attempts, t.id = attemptOf host operation ∧ t.walletId = walletId

theorem Holds.keep (h : Holds host operation walletId db) (hk : Keeps operation db db') :
    Holds host operation walletId db' := by
  obtain ⟨t, ht, hid, hw⟩ := h
  obtain ⟨t', ht', hsame⟩ := hk.attempts t ht
  exact ⟨t', ht', hsame.id.trans hid, hsame.walletId.trans hw⟩

theorem conforms_error (e : Err) : Conforms host operation (pure (.error e)) db :=
  Process.meets_pure.mpr fun _ _ _ ha => by cases ha

theorem conforms_ok (hone : OneAttempt host operation db) (ha : Stored operation a db) :
    Conforms host operation (pure (.ok a)) db := by
  refine Process.meets_pure.mpr fun db' hdb b hb => ?_
  obtain rfl := Except.ok.inj hb
  exact ha.keep (hdb hone).2

theorem conforms_verify (hone : OneAttempt host operation db) (ha : Stored operation a db) :
    Conforms host operation (pure (verifyEncrypted host a)) db := by
  unfold verifyEncrypted
  split
  · exact conforms_ok hone ha
  · exact conforms_error _

theorem stored_of_load (h : loadEncryptedArtifact host.toHost db operation = some a) :
    Stored operation a db := by
  obtain ⟨t, ht, -, ha, hop, -⟩ := loadEncryptedArtifact_row h
  exact ⟨t, ht, hop, ha⟩

/-- The row that a commit fills holds the artifact. -/
theorem artifact_of_preparedFor {stamp : String} (hp : t.PreparedFor a)
    (hw : t.walletId = a.walletId) :
    ({ t with status := .signed, payload := some a.payload, updatedAt := stamp } :
      TransactionAttempt).artifact a.operation = some a := by
  obtain ⟨hid, hstep, hnonce, -, hpolicy, hnumber, hhash, hexpires⟩ := hp
  simp only [TransactionAttempt.artifact, Option.map_some, hid, hstep, hnonce, hpolicy, hnumber,
    hhash, hexpires, hw]

/-- A commit makes its artifact durable. -/
theorem stored_of_commit {u : Unit} (hone : OneAttempt host operation db)
    (hid : a.attemptId = attemptOf host operation) (hop : a.operation = operation)
    (hheld : Holds host operation a.walletId db)
    (h : commitSigned reservation a now db = .ok (u, db')) : Stored operation a db' := by
  obtain ⟨t, ht, hp⟩ := exists_of_affected_eq_one (commitSigned_eq h).1
  obtain ⟨t₀, ht₀, hid₀, hw⟩ := hheld
  obtain rfl := hone.keys.eq (fun _ _ => Eq.symm) ht ht₀ (by rw [hp.1, hid, hid₀])
  have hkeeps := ((Evolves.commit hid h) hone).2
  refine ⟨{ t with
    status := .signed, payload := some a.payload, updatedAt := formatRFC3339Nano now }, ?_,
    hkeeps.ofOperation (hone.step t ht hid₀).2 rfl, ?_⟩
  · rw [(commitSigned_eq h).2.2]
    exact mem_updateWhere_of_pos ht hp
  · rw [← hop]
    exact artifact_of_preparedFor hp hw

theorem conforms_commit (hone : OneAttempt host operation db)
    (hid : a.attemptId = attemptOf host operation) (hop : a.operation = operation)
    (hheld : Holds host operation a.walletId db) :
    Conforms host operation (commitArtifact host operation reservation a now) db := by
  refine Process.meets_tx_bind.mpr fun db₁ hdb₁ _ => ?_
  obtain ⟨hone₁, hkeeps₁⟩ := hdb₁ hone
  cases hcommit : Process.outcome (commitSigned reservation a now) db₁ with
  | ok u =>
      obtain ⟨db₂, hok, hafter⟩ := Process.outcome_ok hcommit
      have hevolves := Evolves.commit hid hok
      rw [hafter]
      exact ⟨hevolves, conforms_ok (hevolves hone₁).1
        (stored_of_commit hone₁ hid hop (hheld.keep hkeeps₁) hok)⟩
  | error e =>
      rw [(Process.outcome_error hcommit).2]
      refine ⟨.refl db₁, Process.meets_read_bind.mpr fun db₂ hdb₂ _ => ⟨.refl db₂, ?_⟩⟩
      cases hload : loadEncryptedArtifact host.toHost db₂ operation with
      | some existing => exact conforms_verify (hdb₂ hone₁).1 (stored_of_load hload)
      | none => exact conforms_error e

theorem conforms_freeze (walletId op reason : String) (now : Instant) (e : Err) (db : Db) :
    Conforms host operation (freezeWith walletId op reason now e) db :=
  Process.meets_tx_bind.mpr fun db₁ _ _ => ⟨.freeze walletId op reason now db₁, conforms_error e⟩

theorem signReserved_ok {wallet : String} {request : DecodedRequest} {dryRun : DryRunResult}
    {q : ExecutionQuote} {x : PrepareInput}
    (h : signReserved host wallet request dryRun q reservation x = .ok a) :
    a.attemptId = reservation.attemptId ∧ a.operation = reservation.operationId ∧
      a.walletId = reservation.walletId := by
  unfold signReserved at h
  split at h
  · cases h
  · split at h
    · cases h
    · dsimp only at h
      split at h
      · cases h
      · split at h
        · cases h
        · cases h
          exact ⟨rfl, rfl, rfl⟩

theorem conforms_reserved {wallet : String} {request : DecodedRequest} {dryRun : DryRunResult}
    {q : ExecutionQuote} {x : PrepareInput} (hone : OneAttempt host operation db)
    (hid : reservation.attemptId = attemptOf host operation)
    (hop : reservation.operationId = operation)
    (hheld : Holds host operation reservation.walletId db) :
    Conforms host operation
      (prepareReserved host operation walletId wallet request dryRun q reservation x) db := by
  unfold prepareReserved
  split
  · exact conforms_freeze _ _ _ _ _ _
  · split
    · exact Process.meets_tx_bind.mpr fun db₁ _ _ =>
        ⟨.expirePreBroadcast _ _ _ db₁, conforms_error _⟩
    · split
      · exact conforms_freeze _ _ _ _ _ _
      · exact conforms_error _
      · rename_i a hsigned
        obtain ⟨haid, haop, haw⟩ := signReserved_ok hsigned
        exact conforms_commit hone (haid.trans hid) (haop.trans hop) (haw ▸ hheld)

/-- A reservation is of the operation's attempt, which is then in the table. -/
theorem reserve_holds {signer : String} {nonce : Nat} {inputAsset inputAmount gasBudget : String}
    {r : ReservedExecution} (hone : OneAttempt host operation db)
    (h : reserveExecution host.toHost operation walletId signer nonce inputAsset inputAmount
      gasBudget now db = .ok (r, db')) :
    Evolves host operation db db' ∧ r.attemptId = attemptOf host operation ∧
      r.operationId = operation ∧ Holds host operation r.walletId db' := by
  obtain ⟨hr, ⟨o, ho, hoid, how, -⟩, -, ⟨rfl, t, ht, hid, -⟩ | hmade⟩ := reserveExecution_made h
  · rw [hr]
    exact ⟨.refl db', rfl, rfl, t, ht, hid, (hone.wallet t ht hid o ho hoid).symm.trans how⟩
  · rw [hr]
    refine ⟨.reserve ⟨o, ho, hoid, how⟩ hmade, rfl, rfl, ?_⟩
    obtain ⟨request, dryRun, -, hattempts⟩ := hmade.rows
    refine ⟨reservedAttempt host.toHost operation walletId nonce request dryRun
      (formatRFC3339Nano now), ?_, rfl, rfl⟩
    rw [hattempts]
    exact List.mem_append_right _ (List.mem_singleton_self _)

/-- The candidate is read, and the others keep to one attempt meanwhile. -/
theorem candidate_meets (hone : OneAttempt host operation db) :
    (executionCandidate host operation walletId).Meets (Evolves host operation) (fun _ _ => True)
      (Evolves host operation) (fun _ db' => OneAttempt host operation db') db := by
  have hdone : ∀ {db₀ : Db} (r : Except Err (DecodedRequest × DryRunResult × String)),
      OneAttempt host operation db₀ → (pure r : Process Db _).Meets (Evolves host operation)
        (fun _ _ => True) (Evolves host operation)
        (fun _ db' => OneAttempt host operation db') db₀ :=
    fun r h => Process.meets_pure.mpr fun _ hdb => (hdb h).1
  refine Process.meets_read_bind.mpr fun db₁ hdb₁ _ => ⟨.refl db₁, ?_⟩
  have hone₁ := (hdb₁ hone).1
  split
  · exact hdone _ hone₁
  · refine Process.meets_read_bind.mpr fun db₂ hdb₂ _ => ⟨.refl db₂, ?_⟩
    have hone₂ := (hdb₂ hone₁).1
    split
    · exact hdone _ hone₂
    · split
      · exact hdone _ hone₂
      · split
        · refine Process.meets_read_bind.mpr fun db₃ hdb₃ _ => ⟨.refl db₃, ?_⟩
          have hone₃ := (hdb₃ hone₂).1
          split
          · exact hdone _ hone₃
          · split
            · exact hdone _ hone₃
            · exact hdone _ hone₃
        · exact hdone _ hone₂

theorem conforms_new (walletId : String) (x : PrepareInput)
    (hone : OneAttempt host operation db) :
    Conforms host operation (prepareNew host operation walletId x) db := by
  refine Process.Meets.bind Evolves.refl ((candidate_meets hone).mono fun r db₁ hone₁ => ?_)
  split
  · exact conforms_error _
  · split
    · exact Process.meets_tx_bind.mpr fun db₂ _ _ => ⟨.expireUnreserved _ _ db₂, conforms_error _⟩
    · split
      · exact conforms_error _
      · refine Process.meets_tx_bind.mpr fun db₂ hdb₂ _ => ?_
        have hone₂ := (hdb₂ hone₁).1
        split
        · rename_i e hreserve
          rw [(Process.outcome_error hreserve).2]
          exact ⟨.refl db₂, conforms_error e⟩
        · rename_i reservation hreserve
          obtain ⟨db₃, hok, hafter⟩ := Process.outcome_ok hreserve
          obtain ⟨hevolves, hid, hop, hheld⟩ := reserve_holds hone₂ hok
          rw [hafter]
          exact ⟨hevolves, conforms_reserved (hevolves hone₂).1 hid hop hheld⟩

theorem conforms_prepare (call : PrepareCall) (hone : OneAttempt host operation db) :
    Conforms host operation (prepare host operation call.walletId call.input) db := by
  unfold prepare
  split
  · exact conforms_error _
  · refine Process.meets_read_bind.mpr fun db₁ hdb₁ _ => ⟨.refl db₁, ?_⟩
    have hone₁ := (hdb₁ hone).1
    split
    · rename_i hload
      exact conforms_verify hone₁ (stored_of_load hload)
    · exact conforms_new _ _ hone₁

/-! ## Runs -/

/-- The calls of `Prepare` for the operation. -/
def prepareProgram (host : ServiceHost) (operation : String) (call : PrepareCall) :
    Process Db (Except Err SignedArtifact) :=
  prepare host operation call.walletId call.input

/-- A pool of such calls. -/
abbrev PreparePool := Pool PrepareCall Db (Except Err SignedArtifact)

/-- What is kept along a schedule. -/
structure Prepared (host : ServiceHost) (operation : String) (p : PreparePool) : Prop where
  one : OneAttempt host operation p.shared
  sound : p.Sound (fun _ => True) (fun _ _ => True) (fun _ => Evolves host operation)
    (fun _ => Evolves host operation) fun _ => ReturnsStored operation

theorem Prepared.act {p : PreparePool} (h : Prepared host operation p)
    (a : Pool.Action PrepareCall) :
    Prepared host operation (p.act (prepareProgram host operation) a) ∧
      Evolves host operation p.shared (p.act (prepareProgram host operation) a).shared := by
  obtain ⟨hsound, hstep⟩ := h.sound.act (prepareProgram host operation)
    (fun _ => Evolves.refl) (fun _ _ _ _ => Evolves.trans) (fun _ _ => trivial) (a := a) trivial
    fun call _ => ⟨conforms_prepare call h.one, fun _ _ _ =>
      ⟨fun _ _ _ h => h, fun _ _ _ h => h⟩⟩
  have hevolves : Evolves host operation p.shared
      (p.act (prepareProgram host operation) a).shared := by
    obtain hsame | ⟨-, -, hg⟩ := hstep
    · rw [hsame]
      exact .refl _
    · exact hg
  exact ⟨⟨(hevolves h.one).1, hsound⟩, hevolves⟩

/-- Along a schedule, the database evolves. -/
theorem Prepared.run {p : PreparePool} (h : Prepared host operation p)
    (as : List (Pool.Action PrepareCall)) :
    Prepared host operation (p.run (prepareProgram host operation) as) ∧
      Evolves host operation p.shared (p.run (prepareProgram host operation) as).shared := by
  induction as generalizing p with
  | nil => exact ⟨h, .refl _⟩
  | cons a as ih =>
      obtain ⟨h₁, hstep⟩ := h.act a
      obtain ⟨h₂, hrest⟩ := ih h₁
      exact ⟨h₂, hstep.trans hrest⟩

theorem Prepared.init (h : OneAttempt host operation db) :
    Prepared host operation ({ shared := db } : PreparePool) :=
  ⟨h, .init db⟩

theorem OneAttempt.length_le (h : OneAttempt host operation db) :
    (db.attempts.filter (OfOperation db operation ·)).length ≤ 1 := by
  rw [← List.countP_eq_length_filter]
  exact h.keys.affected_le_one fun t ht u hu hto huo => (h.own t ht hto).trans (h.own u hu huo).symm

theorem OneAttempt.artifacts_length_le (h : OneAttempt host operation db) :
    (artifacts db operation).length ≤ 1 :=
  Nat.le_trans (List.length_filterMap_le _ _) h.length_le

theorem mem_artifacts :
    a ∈ artifacts db operation ↔ Stored operation a db := by
  simp [artifacts, Stored, List.mem_filterMap, and_assoc]

/-- A durable artifact is the only one. -/
theorem OneAttempt.artifacts_eq (h : OneAttempt host operation db) (ha : Stored operation a db) :
    artifacts db operation = [a] := by
  have hlen := h.artifacts_length_le
  have hmem := mem_artifacts.mpr ha
  match hlist : artifacts db operation with
  | [] =>
      rw [hlist] at hmem
      cases hmem
  | [b] =>
      rw [hlist] at hmem
      rw [List.mem_singleton.mp hmem]
  | _ :: _ :: _ =>
      rw [hlist] at hlen
      simp at hlen

/-- Over any interleaving of `Prepare` calls of an operation, at every time: there is at most one
durable artifact; one that was there stays the one; it has the identifier and the nonce with which
the attempt was reserved; and a call that has returned an artifact returned this one. -/
theorem prepare_agrees_on_one_artifact (host : ServiceHost) (operation : String) (init : Db)
    (hinit : OneAttempt host operation init) (as : List (Pool.Action PrepareCall)) (m n : Nat)
    (hmn : m ≤ n) :
    let earlier := Pool.run (prepareProgram host operation) { shared := init } (as.take m)
    let later := Pool.run (prepareProgram host operation) { shared := init } (as.take n)
    (artifacts later.shared operation).length ≤ 1 ∧
      (∀ a ∈ artifacts earlier.shared operation, artifacts later.shared operation = [a]) ∧
      (∀ t ∈ earlier.shared.attempts, OfOperation earlier.shared operation t →
        ∀ a ∈ artifacts later.shared operation, a.attemptId = t.id ∧ a.nonce = t.nonce) ∧
      ∀ call a, later.Returned call (.ok a) → artifacts later.shared operation = [a] := by
  intro earlier later
  have hearlier : Prepared host operation earlier := ((Prepared.init hinit).run _).1
  have hlater : later = earlier.run (prepareProgram host operation) ((as.take n).drop m) :=
    Pool.run_take _ _ as hmn
  obtain ⟨hprepared, hevolves⟩ := hearlier.run ((as.take n).drop m)
  rw [← hlater] at hprepared hevolves
  have hkeeps := (hevolves hearlier.one).2
  refine ⟨hprepared.one.artifacts_length_le, fun a ha => ?_, fun t ht hop a ha => ?_,
    fun call a hreturned => ?_⟩
  · exact hprepared.one.artifacts_eq ((mem_artifacts.mp ha).keep hkeeps)
  · obtain ⟨t', ht', hsame⟩ := hkeeps.attempts t ht
    obtain ⟨u, hu, huop, hua⟩ := mem_artifacts.mp ha
    have hid : u.id = t'.id := by
      rw [hprepared.one.own u hu huop, hsame.id, hearlier.one.own t ht hop]
    obtain rfl := hprepared.one.keys.eq (fun _ _ => Eq.symm) hu ht' hid
    obtain ⟨payload, -, rfl⟩ := Option.map_eq_some_iff.mp hua
    exact ⟨hsame.id, hsame.nonce⟩
  · refine hprepared.one.artifacts_eq ?_
    exact hprepared.sound.meets _ hreturned _ rfl trivial _ (.refl _) a rfl

/-! ### Two callers

Both reserve the one nonce and sign a transaction each. The second commit fails, and its caller
returns the artifact of the first. -/

/-- An operation that passed its dry run. -/
def candidateDb : Db :=
  { operations := [{ id := "a", walletId := "wallet", requestJson := "a", requestFingerprint := "a",
                     status := .dryRunSucceeded, policyVersion := some 1,
                     expiresAt := some "2026-01-02T00:00:00Z" }],
    dryRunWallets := [{ id := "wallet", address := "0xw", enabled := true }],
    steps := [{ id := "a/dry", operationId := "a", stepIndex := 0, status := .succeeded,
                route := some ⟨"pons-v2-curve", "0xtoken", "0xcurve", zeroAddress, true⟩ }],
    dryRunResults := [{ operationId := "a", stepId := "a/dry", success := true, blockNumber := 5,
                        blockHash := "0xb" }] }

/-- A caller whose signer returns the transaction hash. -/
def callerWith (hash : String) : PrepareCall where
  walletId := "wallet"
  input :=
    { signer := "0xw", keyVersion := "1", ttl := 0, unreservedAt := 0,
      executionChainId := some 4663, block := some ⟨9, "0xc"⟩,
      route := some ⟨"pons-v2-curve", "0xtoken", "0xcurve", zeroAddress, true⟩,
      sellBalance := none, minimum := some 1, call := .ok ⟨"0xcurve", 5, "0x"⟩,
      fee := some ⟨1, some 1, some 1⟩, nativeBalance := some 9, tokenBalance := none,
      snapshotHolds := true, pendingNonce := some 7, reservedAt := 0, currentNonce := some 7,
      frozenAt := 0, recheck := 0, expiredAt := 0, signed := .ok ⟨hash, some hash⟩,
      encrypted := some (hash, "0x1"), committedAt := 0 }

/-- Both callers get to their reservation before the first one commits. -/
def twoCallers : List (Pool.Action PrepareCall) :=
  [.start (callerWith "0x1"), .start (callerWith "0x2")] ++ List.replicate 5 (.access 0) ++
    List.replicate 5 (.access 1) ++ [.access 0, .access 1, .access 1]

theorem candidateDb_oneAttempt : OneAttempt ServiceHost.plain "a" candidateDb where
  operationKeys := by decide
  keys := .nil
  foreign := fun _ ht => (List.not_mem_nil ht).elim
  own := fun _ ht => (List.not_mem_nil ht).elim
  step := fun _ ht => (List.not_mem_nil ht).elim
  wallet := fun _ ht => (List.not_mem_nil ht).elim
  unsigned := fun _ ht => (List.not_mem_nil ht).elim

theorem two_callers_agree :
    OneAttempt ServiceHost.plain "a" candidateDb ∧
    (Pool.run (prepareProgram ServiceHost.plain "a") { shared := candidateDb }
      (twoCallers.take 15)).threads.map
        (fun t => t.rest.map fun
          | .done (.ok a) => a.payload.txHash
          | _ => "") = [some "0x1", some "0x1"] ∧
    ∀ call a, (Pool.run (prepareProgram ServiceHost.plain "a") { shared := candidateDb }
        (twoCallers.take 15)).Returned call (.ok a) →
      artifacts (Pool.run (prepareProgram ServiceHost.plain "a") { shared := candidateDb }
        (twoCallers.take 15)).shared "a" = [a] :=
  ⟨candidateDb_oneAttempt, by decide +kernel,
    (prepare_agrees_on_one_artifact ServiceHost.plain "a" candidateDb candidateDb_oneAttempt
      twoCallers 0 15 (Nat.zero_le 15)).2.2.2⟩

end RbhTrade.Kernel
