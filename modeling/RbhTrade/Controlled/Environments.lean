import RbhTrade.Settlement.Recoveries

/-!
# Workers of several environments

A lease is held for an environment, and a permit is issued under an authorization of one. The list
of work is not restricted to the environment of the worker's lease, and no check of a send compares
the two. Where every worker begins only work of its own environment, calls are made under
authorizations of the environment of the lease, and what a worker leaves in flight is found by the
recovery of its environment.

A recovery looks for the environment of the authorization and compares stamps as texts. The work of
another environment is recovered under the other lease, and a row whose stamp ends a second may not
be older than a later stamp of that second.
-/

namespace RbhTrade

open Tables GoTime

variable {host : Host} {fence : WorkerId → LeaseFence} {s : System} {w : WorkerId} {p : Pc}

/-- The claim is for work of the environment. -/
def Claim.Of (environment : String) (c : Claim) : Prop :=
  c.work.request.deployment.environment = environment

/-- The workers have begun and sent only work of the environments of their leases. -/
structure OwnClaims (fence : WorkerId → LeaseFence) (s : System) : Prop where
  held : ∀ w c, (s.pc w).claim = some c → c.Of (fence w).environment
  called : ∀ k ∈ s.calls, k.claim.Of (fence k.worker).environment

theorem OwnClaims.move (h : OwnClaims fence s)
    (hp : ∀ c, p.claim = some c → c.Of (fence w).environment) : OwnClaims fence (s.setPc w p) where
  held := fun w' c hc => by
    by_cases he : w' = w
    · subst he
      exact hp c (by simpa [System.setPc] using hc)
    · exact h.held w' c (by simpa [System.setPc, he] using hc)
  called := h.called

theorem OwnClaims.drop (h : OwnClaims fence s) (hp : p.claim = none) :
    OwnClaims fence (s.setPc w p) :=
  h.move fun c hc => by rw [hp] at hc; cases hc

theorem OwnClaims.send (h : OwnClaims fence s) {c : Claim} {a : SignedArtifact}
    {rest : List ControlledSubmissionWork} {clock now : Instant} {answer : Option Answer}
    (hc : c.Of (fence w).environment) :
    OwnClaims fence (s.send host fence w c a rest clock now answer) := by
  have hdrop : ∀ p : Pc, p.claim = none → OwnClaims fence (s.setPc w p) := fun p hp => h.drop hp
  unfold System.send
  split
  · exact hdrop _ rfl
  · exact ⟨(hdrop _ rfl).held, h.called⟩
  · split
    · exact ⟨(hdrop .idle rfl).held, List.forall_mem_cons.mpr ⟨hc, h.called⟩⟩
    · split <;> exact ⟨(hdrop (.working rest) rfl).held, List.forall_mem_cons.mpr ⟨hc, h.called⟩⟩

/-- A worker begins only work of the environment of its lease. -/
def Act.Own (fence : WorkerId → LeaseFence) : Act → Prop
  | .begin w item _ _ _ => item.request.deployment.environment = (fence w).environment
  | _ => True

instance : DecidablePred (Act.Own fence)
  | .begin .. => inferInstanceAs (Decidable (_ = _))
  | .list .. | .load .. | .mark .. | .send .. | .recover .. | .crash .. | .environment .. =>
      inferInstanceAs (Decidable True)

theorem OwnClaims.step (h : OwnClaims fence s) {act : Act} (hact : act.Own fence) :
    OwnClaims fence (s.step host fence act) := by
  cases act with
  | list w now =>
      simp only [System.step]
      split
      · exact h.drop rfl
      · exact h
  | begin w item v clock now =>
      simp only [System.step]
      split
      · split
        · split
          · refine ⟨(h.move fun c hc => ?_).held, h.called⟩
            cases hc
            exact hact
          · exact h.drop rfl
        · exact h
      · exact h
  | load w =>
      simp only [System.step]
      split
      · rename_i c rest hpc
        split
        · exact h.move fun c' hc' => h.held w c' (by rw [hpc]; exact hc')
        · exact h.drop rfl
      · exact h
  | mark w clock now =>
      simp only [System.step]
      split
      · rename_i c a rest hpc
        split
        · exact ⟨(h.move fun c' hc' => h.held w c' (by rw [hpc]; exact hc')).held, h.called⟩
        · exact h.drop rfl
      · exact h
  | send w clock now answer =>
      simp only [System.step]
      split
      · rename_i c a rest hpc
        exact h.send (h.held w c (by rw [hpc]; rfl))
      · exact h
  | recover w clock now => exact ⟨h.held, h.called⟩
  | crash w => exact h.drop rfl
  | environment e => exact ⟨h.held, h.called⟩

theorem OwnClaims.run {acts : List Act} (hacts : ∀ act ∈ acts, act.Own fence) :
    OwnClaims fence (System.run host fence acts) :=
  List.foldlRecOn acts _ ⟨fun _ _ hc => (by cases hc), fun _ hk => absurd hk List.not_mem_nil⟩
    fun _ h act hact => h.step (hacts act hact)

/-! ## Recovery of a claim -/

/-- The rows that the recovery joins to a submission of the work are still there. -/
def Db.Backed (db : Db) (work : ControlledSubmissionWork) : Prop :=
  (∃ a ∈ db.authorizations, a.id = work.request.authorizationId ∧
    a.epoch = work.request.authorizationEpoch ∧
    a.deployment.environment = work.request.deployment.environment) ∧
  ∀ p ∈ db.permits, p.id = work.permitId → db.LegacyPermit p
deriving Decidable

theorem Claimed.hasConsumedPermit {db : Db} {c : Claim} {environment : String}
    (h : Claimed host db c) (hof : c.Of environment) (hbacked : db.Backed c.work) :
    db.HasConsumedPermit environment c.sub.attemptId := by
  obtain ⟨⟨a, ha, hid, hepoch, henv⟩, hlegacy⟩ := hbacked
  obtain ⟨p, hp, hfor, hauth, hpepoch, hstate⟩ := h.permit
  exact ⟨p, hp, a, ha, hid.trans hauth.symm, hepoch.trans hpepoch.symm,
    hfor.2.2.1.trans h.attempt.symm, hstate, henv.trans hof, hlegacy p hp hfor.1⟩

theorem recoverSubmission_settles {db : Db} {environment stamp : String} {r : Submission}
    (hp : db.HasConsumedPermit environment r.attemptId) (hold : r.createdAt < stamp) :
    (recoverSubmission db environment stamp r).state ≠ .submitting := by
  unfold recoverSubmission
  split
  · split <;> nofun
  · rename_i hno
    exact fun hs => hno ⟨hs, hold, hp⟩

theorem Inv.claim_recovered (h : Inv host fence s) {c : Claim} (hclaimed : Claimed host s.db c)
    {environment stamp : String} {db' : Db} (hof : c.Of environment) (hbacked : s.db.Backed c.work)
    (hold : ∀ r ∈ s.db.submissions, r.id = c.sub.id → r.createdAt < stamp)
    (hr : Recovered environment stamp s.db db') :
    ∀ r ∈ db'.submissions, r.id = c.sub.id → r.state ≠ .submitting := by
  rw [hr.submissions]
  intro r' hr' hid
  obtain ⟨r, hrow, rfl⟩ := List.mem_map.mp hr'
  have hidentity := recoverSubmission_identity s.db environment stamp r
  simp only [Submission.identity, Prod.mk.injEq] at hidentity
  have hrid : r.id = c.sub.id := hidentity.1.symm.trans hid
  obtain ⟨x, hx, hxid, hattempt⟩ := hclaimed.row
  obtain rfl := h.tables.row_eq hx hrow (hxid.trans hrid.symm)
  exact recoverSubmission_settles (hattempt ▸ hclaimed.hasConsumedPermit hof hbacked)
    (hold x hrow hrid)

/-! ## Main result -/

/-- In a run in which every worker begins only work of its lease's environment: each call was made
under an authorization of that environment. And whatever a worker had begun at any time of the run,
whether or not it died since, a recovery under any current lease of its environment at a later stamp
commits and takes out of flight, as long as the rows it joins are there and the steps of doubtful
sends are unresolved. -/
theorem environments_stay_apart (host : Host) (fence : WorkerId → LeaseFence) (acts : List Act)
    (hacts : ∀ act ∈ acts, act.Own fence) :
    let s := System.run host fence acts
    (∀ k ∈ s.calls, ∃ p ∈ k.db.permits, k.db.PermitInForce k.claim p ∧
      ∀ a, selectRow (·.id = p.authorizationId) k.db.authorizations = some a →
        a.deployment.environment = (fence k.worker).environment) ∧
    ∀ n w c, ((System.run host fence (acts.take n)).pc w).claim = some c → s.db.Backed c.work →
      UnresolvedOnce s.db.steps →
      (∀ x ∈ s.db.steps, s.db.StepDoubtful x.id → x.status.Unresolved) →
      ∀ (lease : LeaseFence) (clock now : Instant) (db₀ : Db),
        lease.environment = (fence w).environment →
        assertSubmissionLeaseTx lease clock s.db = .ok ((), db₀) →
        (∀ r ∈ s.db.submissions, r.id = c.sub.id → r.createdAt < formatRFC3339Nano now) →
        ∃ db', recoverControlledInflight lease clock now s.db = .ok ((), db') ∧
          ∀ r ∈ db'.submissions, r.id = c.sub.id → r.state ≠ .submitting := by
  intro s
  have hinv : Inv host fence s := Inv.run acts
  refine ⟨fun k hk => ?_,
    fun n w c hc hbacked hindex hdoubt lease clock now db₀ hlease hheld hold => ?_⟩
  · obtain ⟨p, hp, hforce⟩ := (hinv.call_authorized hk).permit
    obtain ⟨htables, hready, hclaimed, -⟩ := hinv.fenced k hk
    obtain ⟨p', hp', hfor, hauth, -⟩ := hclaimed.permit
    obtain rfl := htables.permit_eq hp' hp (hfor.1.trans hforce.id.symm)
    exact ⟨p', hp, hforce, fun a ha => (hready.controls.environment a (hauth ▸ ha)).trans
      ((OwnClaims.run hacts).called k hk)⟩
  · have hown := (OwnClaims.run fun act hact => hacts act (List.mem_of_mem_take hact)).held w c hc
    have hclaimed := ((Inv.run (acts.take n)).claimed w c hc).later (acts.take n) (acts.drop n)
    rw [List.take_append_drop] at hclaimed
    obtain ⟨db', hok⟩ : ∃ db', recoverControlledInflight lease clock now _ = .ok ((), db') :=
      recoverControlledInflight_commits hindex hdoubt hheld
    exact ⟨db', hok, hinv.claim_recovered hclaimed (hlease ▸ hown) hbacked hold
      (recoverControlledInflight_ok hok)⟩

/-! ### Two environments -/

namespace Sample

/-- The leases of the two environments. Worker 0 is one of staging, the others are of prod. -/
def twoFences : WorkerId → LeaseFence
  | 0 => ⟨"staging", "holder", 1⟩
  | _ => ⟨"prod", "holder", 1⟩

def twoLeases : Db :=
  { signedDb with leases :=
    signedDb.leases.flatMap fun l => [l, { l with environment := "staging" }] }

/-- The worker sends the permit of prod, as in `sendOnce`, with the given answer. -/
def sendBy (w : WorkerId) (answer : Option Answer) : List Act :=
  [.environment (.others twoLeases),
    .environment (.recordGate (gate "admission" .executionAdmission none)),
    .environment (.recordGate (gate "pre-sign" .preSign none)),
    .environment (.recordGate (gate "first" .firstBroadcast (some "attempt"))),
    .environment (.issuePermit permit), .list w midnight,
    .begin w (workItem permit authorization) snapshot midnight midnight, .load w,
    .mark w midnight midnight, .send w midnight midnight answer]

/-- The states of the rows after a recovery by the worker at the time. -/
def recoveredBy (w : WorkerId) (now : Instant) (acts : List Act) : List SubmissionState :=
  (System.run Host.plain twoFences (acts ++ [.recover w now now])).db.submissions.map (·.state)

end Sample

open Sample

/-- A worker of prod marks its intent and dies, and another one of prod recovers. -/
theorem environments_stay_apart_in_prod :
    let acts := (sendBy 1 none).take 9 ++ [.crash 1]
    let s := System.run Host.plain twoFences acts
    let later := midnight + 60000000000
    (s.pc 1).claim.isNone = true ∧ s.db.submissions.map (·.state) = [.submitting] ∧
      ∃ db', recoverControlledInflight (twoFences 2) later later s.db = .ok ((), db') ∧
        ∀ r ∈ db'.submissions, ∀ x ∈ s.db.submissions, r.id = x.id → r.state ≠ .submitting := by
  intro acts s later
  have hbegun : ((System.run Host.plain twoFences (acts.take 9)).pc 1).claim.map
      (fun c => (c.work, [c.sub.id])) =
        some (workItem permit authorization, s.db.submissions.map (·.id)) := by decide +kernel
  obtain ⟨c, hc, hpair⟩ := Option.map_eq_some_iff.mp hbegun
  obtain ⟨hitem, hids⟩ := Prod.mk.inj hpair
  obtain ⟨_, db₀, hheld⟩ := Tx.Commits.of_isOk (m := assertSubmissionLeaseTx (twoFences 2) later)
    (s := s.db) (by decide +kernel)
  have hbacked : s.db.Backed (workItem permit authorization) := by decide +kernel
  have hold : ∀ r ∈ s.db.submissions, r.createdAt < formatRFC3339Nano later := by decide +kernel
  obtain ⟨db', hok, hout⟩ := (environments_stay_apart Host.plain twoFences acts
    (by decide +kernel)).2
    9 1 c hc (hitem ▸ hbacked) (by decide +kernel) (by decide +kernel) (twoFences 2) later later db₀
    rfl hheld fun r hr _ => hold r hr
  refine ⟨by decide +kernel, by decide +kernel, db', hok, fun r hr x hx he => hout r hr ?_⟩
  exact he.trans (List.mem_singleton.mp (hids ▸ List.mem_map_of_mem hx))

/-- The worker of staging sends under an authorization of prod. What it leaves in flight is
recovered under a lease of prod, and not under its own. And a worker of prod leaves a row that is
not older as a text half a second later. -/
theorem worker_sends_for_other_environment :
    (System.run Host.plain twoFences (sendBy 0 (some (.accepted "tx")))).calls.map (fun k =>
      ((twoFences k.worker).environment, k.committed,
        k.db.authorizations.map (·.deployment.environment)))
      = [("staging", true, ["prod"])] ∧
    recoveredBy 0 (midnight + 60000000000) ((sendBy 0 none).take 9) = [.submitting] ∧
    recoveredBy 1 (midnight + 60000000000) ((sendBy 0 none).take 9) = [.broadcastUnknown] ∧
    recoveredBy 1 (midnight + 500000000) ((sendBy 1 none).take 9) = [.submitting] ∧
    recoveredBy 1 (midnight + 1000000000) ((sendBy 1 none).take 9) = [.broadcastUnknown] := by
  decide +kernel

end RbhTrade
