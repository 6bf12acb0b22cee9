import RbhTrade.Manual.Times
import RbhTrade.Store.ManualPermit

/-!
# Issuers of first-broadcast permits

Any number of issuers, each with its own profile, lease, clock and answers, call `issue` on one
database. A call is one transaction after what it prepared, so an interleaving is a list of calls
and of what others write in between. Issuances are immutable and no other statement inserts them; a
permit is inserted under its unique indexes, keeps its identity and is never deleted.

A ghost list records the call that committed each issuance, another what the calls returned: a call
whose context is done after the commit returns an error and leaves its rows.
-/

namespace RbhTrade.Permits

open Tables GoTime

/-! ## Times -/

/-- Two formatted times that compare are canonical. -/
theorem canonicalTime_of_timeBefore {a b : Instant}
    (h : TimeBefore (formatRFC3339Nano a) (formatRFC3339Nano b)) :
    canonicalTime (formatRFC3339Nano a) = some a ∧
      canonicalTime (formatRFC3339Nano b) = some b := by
  unfold TimeBefore timeCmp at h
  cases ha : canonicalTime (formatRFC3339Nano a) with
  | none => simp [ha] at h
  | some x =>
      cases hb : canonicalTime (formatRFC3339Nano b) with
      | none => simp [ha, hb] at h
      | some y =>
          rw [format_injective (canonicalTime_eq_some.mp ha).2,
            format_injective (canonicalTime_eq_some.mp hb).2]
          exact ⟨rfl, rfl⟩

theorem shortest_isLeast (operation authorization lease window : Instant) :
    IsLeast {operation, authorization, lease, window}
      (shortest operation authorization lease window) := by
  unfold shortest
  constructor
  · grind
  · intro t ht
    simp only [Set.mem_insert_iff, Set.mem_singleton_iff] at ht
    grind

/-! ## What a call does -/

/-- The call is for the attempt, artifact, transaction and authorization of the issuance. -/
structure For (call : IssueCall) (i : ManualIssuance) : Prop where
  attempt : i.attemptId = call.attemptId
  artifact : i.artifactHash = call.artifactHash
  tx : i.txHash = call.txHash
  authorization : i.authorizationId = call.profile.authorizationId
  epoch : i.authorizationEpoch = call.profile.authorizationEpoch.toNat

/-- The issuance is valid from its issue time up to the first of the expiries of the operation, the
authorization and the lease of its source and the age that the profile allows. -/
structure Expires (host : PermitHost) (profile : RuntimeProfile) (i : ManualIssuance)
    (issued expires : Instant) : Prop where
  issuedAt : canonicalTime i.issuedAt = some issued
  expiresAt : canonicalTime i.expiresAt = some expires
  after : issued < expires
  least : ∃ p m operation authorization lease, host.project i.sourceJson = some p ∧
    host.sourceMeta i.sourceJson = some m ∧ canonicalTime p.facts.expiresAt = some operation ∧
    canonicalTime m.authorizationExpiresAt = some authorization ∧
    canonicalTime m.leaseExpiresAt = some lease ∧
    IsLeast {operation, authorization, lease, issued + profile.maxAge} expires

/-- The permit is the issuance. -/
structure Shows (i : ManualIssuance) (p : FirstBroadcastPermit) : Prop where
  permit : p = permitOf i p.issuedAt p.expiresAt
  issuedAt : canonicalTime i.issuedAt = some p.issuedAt
  expiresAt : canonicalTime i.expiresAt = some p.expiresAt

/-- The transaction of a call inserts an issuance and its permit. -/
structure Creates (host : PermitHost) (call : IssueCall) (db db' : Db) (i : ManualIssuance) :
    Prop where
  issuances : db'.manualIssuances = db.manualIssuances ++ [i]
  permits : db'.permits = db.permits ++ [permitRow i]
  id : i.id = issuanceID i.attemptId
  fresh : ∀ x ∈ db.manualIssuances, x.id ≠ i.id
  noConflict : ∀ x ∈ db.permits, ¬ x.Conflicts (permitRow i)
  expires : ∃ issued expires, Expires host call.profile i issued expires

section Calls

variable {host : PermitHost} {call : IssueCall} {db db' : Db} {g : RuntimeGate} {s : RuntimeSample}
  {p : FirstBroadcastPermit}

theorem loadGate_ok (h : loadGate host call.profile call.identity call.request s db =
    .ok (g, db')) :
    db = db' ∧ host.project g.source = some g.projection ∧
      g.projection.facts.authorizationId = call.profile.authorizationId ∧
      g.projection.facts.authorizationEpoch = call.profile.authorizationEpoch := by
  unfold loadGate at h
  simp only [Tx.query_bind, Tx.ofExcept_bind_ok, Tx.require_bind_ok, Tx.expect_bind_ok] at h
  obtain ⟨_, -, -, _, -, _, -, _, -, _, -, _, -, e, -, p, hp, hscope, h⟩ := h
  obtain ⟨rfl, rfl⟩ := Tx.pure_ok.mp h
  obtain ⟨-, -, -, -, -, -, -, hauthorization, hepoch, -⟩ := hscope
  exact ⟨rfl, hp, hauthorization, hepoch⟩

theorem checkObservation_ok {prepared : Prepared} {q : Projection} {u : Unit}
    (h : checkObservation call.profile prepared s q db = .ok (u, db')) : db = db' := by
  unfold checkObservation at h
  simp only [Tx.expect_bind_ok, Tx.ofExcept_bind_ok, Tx.require_bind_ok] at h
  obtain ⟨_, -, _, -, -, h⟩ := h
  exact (Tx.require_ok.mp h).2

theorem finalCheck_ok (h : finalCheck host call.profile call.identity call.request call.clock
      call.prepared call.answer db = .ok ((g, s), db')) :
    db = db' ∧ host.project g.source = some g.projection ∧
      g.projection.facts.authorizationId = call.profile.authorizationId ∧
      g.projection.facts.authorizationEpoch = call.profile.authorizationEpoch := by
  unfold finalCheck at h
  simp only [Tx.query_bind, Tx.ofExcept_bind_ok, Tx.require_bind_ok] at h
  obtain ⟨_, -, -, _, -, h⟩ := h
  obtain ⟨g', _, hgate, h⟩ := Tx.bind_ok.mp h
  obtain ⟨rfl, hfound⟩ := loadGate_ok hgate
  simp only [Tx.ofExcept_bind_ok, Tx.require_bind_ok] at h
  obtain ⟨-, _, -, -, -, _, -, s', -, h⟩ := h
  obtain ⟨_, _, hagain, h⟩ := Tx.bind_ok.mp h
  obtain ⟨rfl, -⟩ := loadGate_ok hagain
  obtain ⟨_, _, hobserved, h⟩ := Tx.bind_ok.mp h
  obtain rfl := checkObservation_ok hobserved
  rw [Tx.require_bind_ok] at h
  obtain ⟨hsame, rfl⟩ := Tx.pure_ok.mp h.2
  obtain ⟨rfl, rfl⟩ := Prod.mk.inj hsame
  exact ⟨rfl, hfound⟩

theorem readPrior_ok {prior : ManualIssuance} (h : readPrior call g prior db = .ok (p, db')) :
    db' = db ∧ Shows prior p ∧ prior.authorizationId = g.projection.facts.authorizationId ∧
      prior.authorizationEpoch = g.projection.facts.authorizationEpoch.toNat ∧
      prior.artifactHash = call.artifactHash ∧ prior.txHash = call.txHash := by
  unfold readPrior at h
  rw [Tx.expect_bind_ok] at h
  obtain ⟨issued, hissued, h⟩ := h
  rw [Tx.expect_bind_ok] at h
  obtain ⟨expires, hexpires, h⟩ := h
  rw [Tx.require_bind_ok] at h
  obtain ⟨hsame, h⟩ := h
  obtain ⟨rfl, rfl⟩ := Tx.pure_ok.mp h
  exact ⟨rfl, ⟨rfl, hissued, hexpires⟩, hsame⟩

theorem insertClock_ok {e : ManualClockEvent} {clock : ClockHost} {u : Unit}
    (h : insertManualClockEvent clock e db = .ok (u, db')) :
    db'.manualIssuances = db.manualIssuances ∧ db'.permits = db.permits := by
  unfold insertManualClockEvent at h
  simp only [Tx.query_bind, Tx.require_bind_ok] at h
  obtain ⟨-, rfl⟩ := Tx.exec_ok.mp h.2.2
  exact ⟨rfl, rfl⟩

theorem insertIssuance_ok {i : ManualIssuance} {u : Unit}
    (h : insertIssuance host i db = .ok (u, db')) : Accepts host db i ∧
      db'.manualIssuances = db.manualIssuances ++ [i] ∧ db'.permits = db.permits := by
  unfold insertIssuance at h
  simp only [Tx.query_bind, Tx.require_bind_ok] at h
  obtain ⟨haccepts, -, h⟩ := h
  obtain ⟨-, rfl⟩ := Tx.exec_ok.mp h
  exact ⟨haccepts, rfl, rfl⟩

theorem insertSnapshot_ok {r : GateSnapshot} {u : Unit} (h : insertSnapshot r db = .ok (u, db')) :
    db'.manualIssuances = db.manualIssuances ∧ db'.permits = db.permits := by
  simp only [insertSnapshot, Tx.put?_ok, Option.map_eq_some_iff] at h
  obtain ⟨t, -, rfl⟩ := h
  exact ⟨rfl, rfl⟩

theorem insertPermit_ok {r : SendPermit} {u : Unit} (h : insertPermit r db = .ok (u, db')) :
    (∀ x ∈ db.permits, ¬ x.Conflicts r) ∧ db'.manualIssuances = db.manualIssuances ∧
      db'.permits = db.permits ++ [r] := by
  simp only [insertPermit, Tx.put?_ok, Option.map_eq_some_iff, insertUnique_eq_some] at h
  obtain ⟨t, ⟨hno, rfl⟩, rfl⟩ := h
  exact ⟨hno, rfl, rfl⟩

/-- The tables after a new issuance, and what its insert checked. -/
theorem issueNew_ok {issued expires : Instant}
    (h : issueNew host call g s issued expires db = .ok (p, db')) :
    let i := issuanceRow call g issued expires
    p = permitOf i issued expires ∧ db'.manualIssuances = db.manualIssuances ++ [i] ∧
      db'.permits = db.permits ++ [permitRow i] ∧ (∀ x ∈ db.manualIssuances, x.id ≠ i.id) ∧
      (∀ x ∈ db.permits, ¬ x.Conflicts (permitRow i)) ∧ TimeBefore i.issuedAt i.expiresAt := by
  unfold issueNew at h
  obtain ⟨_, db₁, hclock, h⟩ := Tx.bind_ok.mp h
  obtain ⟨hclockIssuances, hclockPermits⟩ := insertClock_ok hclock
  obtain ⟨_, db₂, hissuance, h⟩ := Tx.bind_ok.mp h
  obtain ⟨haccepts, hissuances, hissuancePermits⟩ := insertIssuance_ok hissuance
  obtain ⟨_, db₃, hsnapshot, h⟩ := Tx.bind_ok.mp h
  obtain ⟨hsnapshotIssuances, hsnapshotPermits⟩ := insertSnapshot_ok hsnapshot
  obtain ⟨_, db₄, hpermit, h⟩ := Tx.bind_ok.mp h
  obtain ⟨hno, hpermitIssuances, hpermits⟩ := insertPermit_ok hpermit
  rw [Tx.require_bind_ok] at h
  obtain ⟨rfl, rfl⟩ := Tx.pure_ok.mp h.2
  rw [hsnapshotPermits, hissuancePermits, hclockPermits] at hno hpermits
  rw [hsnapshotIssuances, hissuances, hclockIssuances] at hpermitIssuances
  obtain ⟨-, -, -, -, -, -, -, -, htimes, -, -, -, -, hfresh⟩ := haccepts
  exact ⟨rfl, hpermitIssuances, hpermits,
    fun x hx => (hfresh x (hclockIssuances ▸ hx)).1, hno, htimes⟩

/-- A call returns the issuance that is there, or commits one and returns it. -/
theorem issue_ok (h : issue host call db = .ok (p, db')) :
    (db' = db ∧ ∃ i ∈ db.manualIssuances, For call i ∧ Shows i p) ∨
      ∃ i, Creates host call db db' i ∧ For call i ∧ Shows i p := by
  unfold issue at h
  rw [Tx.require_bind_ok] at h
  obtain ⟨⟨g, s⟩, _, hcheck, h⟩ := Tx.bind_ok.mp h.2
  obtain ⟨rfl, hproject, hauthorization, hepoch⟩ := finalCheck_ok hcheck
  simp only [Tx.expect_bind_ok, Tx.require_bind_ok, Tx.query_bind, id_eq] at h
  obtain ⟨-, m, hm, operation, hoperation, authorization, hauthExpiry, lease, hlease, issued,
    -, hafter, h⟩ := h
  generalize hprior : selectRow (Prior call g) db.manualIssuances = found at h
  cases found with
  | some prior =>
    obtain ⟨rfl, hshows, hid, hpriorEpoch, hraw, htx⟩ := readPrior_ok h
    exact .inl ⟨rfl, prior, selectRow_mem hprior,
      ⟨(selectRow_prop hprior).2, hraw, htx, hid.trans hauthorization,
        hpriorEpoch.trans (congrArg UInt64.toNat hepoch)⟩, hshows⟩
  | none =>
    obtain ⟨rfl, hissuances, hpermits, hfresh, hno, htimes⟩ := issueNew_ok h
    obtain ⟨hcanonical, hcanonicalExpires⟩ := canonicalTime_of_timeBefore htimes
    exact .inr ⟨_, ⟨hissuances, hpermits, rfl, hfresh, hno, issued, _, hcanonical,
      hcanonicalExpires,
        hafter, _, m, operation, authorization, lease, hproject, hm, hoperation, hauthExpiry,
        hlease, shortest_isLeast _ _ _ _⟩,
      ⟨rfl, rfl, rfl, hauthorization, congrArg UInt64.toNat hepoch⟩, rfl, hcanonical,
      hcanonicalExpires⟩

end Calls

/-! ## Runs -/

/-- An issuance and the call that committed it. -/
structure Commit where
  call : IssueCall
  issuance : ManualIssuance

/-- A call and the permit that it returned. -/
structure Answer where
  call : IssueCall
  permit : FirstBroadcastPermit

structure System where
  db : Db := {}
  commits : List Commit := []
  answers : List Answer := []

/-- A write committed by anyone but an issuer. -/
inductive OtherWrite where
  /-- Any change of the other tables: leases, controls, authorizations, clocks, evidence. -/
  | others (new : Db)
  | insertPermit (row : SendPermit)
  | updatePermit (id : String) (state : PermitState) (consumedAt : Option String)

def OtherWrite.apply (db : Db) : OtherWrite → Db
  | .others new => { new with manualIssuances := db.manualIssuances, permits := db.permits }
  | .insertPermit row =>
      match insertUnique SendPermit.Conflicts row db.permits with
      | some t => { db with permits := t }
      | none => db
  | .updatePermit id state consumedAt =>
      let t := updateWhere (·.id = id)
        (fun p => { p with state := state, consumedAt := consumedAt }) db.permits
      if NoConflict SendPermit.Conflicts t then { db with permits := t } else db

inductive Act where
  | issue (call : IssueCall)
  | other (write : OtherWrite)

def System.step (host : PermitHost) (s : System) : Act → System
  | .other write => { s with db := write.apply s.db }
  | .issue call =>
      match issue host call s.db with
      | .error _ => s
      | .ok (p, db') =>
          -- only a new issuance is followed by a look at the context
          let created := db'.manualIssuances.drop s.db.manualIssuances.length
          { db := db',
            commits := s.commits ++ created.map fun i => ⟨call, i⟩,
            answers := if call.doneAfter = true ∧ created ≠ [] then s.answers
              else s.answers ++ [⟨call, p⟩] }

/-- The permit is that of the issuance, consumed or not. -/
def PermitFor (i : ManualIssuance) (p : SendPermit) : Prop :=
  { p with state := .issued, consumedAt := none } = permitRow i

/-- Every issuance was committed by a call for it, is the only one of its attempt, and has its
permit; every answer shows one of them. -/
structure Permitted (host : PermitHost) (s : System) : Prop where
  rows : s.db.manualIssuances = s.commits.map Commit.issuance
  ids : ∀ i ∈ s.db.manualIssuances, i.id = issuanceID i.attemptId
  one : NoConflict (fun x y => x.attemptId = y.attemptId) s.db.manualIssuances
  permits : NoConflict SendPermit.Conflicts s.db.permits
  paired : ∀ i ∈ s.db.manualIssuances, ∃ p ∈ s.db.permits, PermitFor i p
  terms : ∀ c ∈ s.commits, For c.call c.issuance ∧
    ∃ issued expires, Expires host c.call.profile c.issuance issued expires
  answers : ∀ a ∈ s.answers, ∃ i ∈ s.db.manualIssuances, For a.call i ∧ Shows i a.permit

section Runs

variable {host : PermitHost} {s : System}

theorem Permitted.init : Permitted host {} where
  rows := rfl
  ids := by simp
  one := NoConflict.nil
  permits := NoConflict.nil
  paired := by simp
  terms := by simp
  answers := by simp

/-- Other writers keep the issuances, the constraint on permits and what a permit stands for. -/
theorem OtherWrite.apply_spec (write : OtherWrite) (db : Db)
    (h : NoConflict SendPermit.Conflicts db.permits) :
    (write.apply db).manualIssuances = db.manualIssuances ∧
      NoConflict SendPermit.Conflicts (write.apply db).permits ∧
      ∀ i, (∃ p ∈ db.permits, PermitFor i p) → ∃ p ∈ (write.apply db).permits, PermitFor i p := by
  cases write with
  | others new => exact ⟨rfl, h, fun _ hp => hp⟩
  | insertPermit row =>
      simp only [OtherWrite.apply]
      split
      · rename_i t ht
        obtain ⟨hno, rfl⟩ := insertUnique_eq_some.mp ht
        refine ⟨rfl, h.append hno, ?_⟩
        rintro i ⟨p, hp, hfor⟩
        exact ⟨p, List.mem_append_left _ hp, hfor⟩
      · exact ⟨rfl, h, fun _ hp => hp⟩
  | updatePermit id state consumedAt =>
      simp only [OtherWrite.apply]
      split
      · rename_i ht
        refine ⟨rfl, ht, ?_⟩
        rintro i ⟨p, hp, hfor⟩
        obtain ⟨q, hq, hpq⟩ : ∃ q ∈ updateWhere (·.id = id) (fun p => { p with
            state := state, consumedAt := consumedAt }) db.permits, PermitFor i q := by
          by_cases hid : p.id = id
          · exact ⟨_, mem_updateWhere_of_pos hp hid, hfor⟩
          · exact ⟨p, mem_updateWhere_of_not hp hid, hfor⟩
        exact ⟨q, hq, hpq⟩
      · exact ⟨rfl, h, fun _ hp => hp⟩

theorem Permitted.other (h : Permitted host s) (write : OtherWrite) :
    Permitted host (s.step host (.other write)) := by
  obtain ⟨hissuances, hpermits, hkeep⟩ := write.apply_spec s.db h.permits
  exact
    { rows := hissuances.trans h.rows
      ids := fun i hi => h.ids i (hissuances ▸ hi)
      one := hissuances.symm ▸ h.one
      permits := hpermits
      paired := fun i hi => hkeep i (h.paired i (hissuances ▸ hi))
      terms := h.terms
      answers := fun a ha => hissuances.symm ▸ h.answers a ha }

/-- A call that finds an issuance only answers. -/
theorem Permitted.answer {call : IssueCall} {p : FirstBroadcastPermit} {i : ManualIssuance}
    (h : Permitted host s) (hi : i ∈ s.db.manualIssuances) (hfor : For call i)
    (hshows : Shows i p) :
    Permitted host { s with answers := s.answers ++ [⟨call, p⟩] } where
  rows := h.rows
  ids := h.ids
  one := h.one
  permits := h.permits
  paired := h.paired
  terms := h.terms
  answers := by
    intro a ha
    obtain ha | ha := List.mem_append.mp ha
    · exact h.answers a ha
    · obtain rfl := List.mem_singleton.mp ha
      exact ⟨i, hi, hfor, hshows⟩

/-- A call that creates an issuance. -/
theorem Permitted.create {call : IssueCall} {db' : Db} {i : ManualIssuance} (h : Permitted host s)
    (hcreates : Creates host call s.db db' i) (hfor : For call i) :
    Permitted host { s with db := db', commits := s.commits ++ [⟨call, i⟩] } where
  rows := by simp [hcreates.issuances, h.rows]
  ids := by
    intro x hx
    rw [hcreates.issuances] at hx
    obtain hx | hx := List.mem_append.mp hx
    · exact h.ids x hx
    · exact List.mem_singleton.mp hx ▸ hcreates.id
  one := by
    rw [hcreates.issuances]
    refine h.one.append fun x hx heq => hcreates.fresh x hx ?_
    rw [h.ids x hx, hcreates.id, heq]
  permits := by
    rw [hcreates.permits]
    exact h.permits.append hcreates.noConflict
  paired := by
    intro x hx
    rw [hcreates.issuances] at hx
    rw [hcreates.permits]
    obtain hx | hx := List.mem_append.mp hx
    · obtain ⟨p, hp, hpx⟩ := h.paired x hx
      exact ⟨p, List.mem_append_left _ hp, hpx⟩
    · obtain rfl := List.mem_singleton.mp hx
      exact ⟨permitRow x, by simp, rfl⟩
  terms := by
    intro c hc
    obtain hc | hc := List.mem_append.mp hc
    · exact h.terms c hc
    · obtain rfl := List.mem_singleton.mp hc
      exact ⟨hfor, hcreates.expires⟩
  answers := by
    intro a ha
    obtain ⟨x, hx, hax⟩ := h.answers a ha
    exact ⟨x, hcreates.issuances ▸ List.mem_append_left _ hx, hax⟩

theorem Permitted.issue (h : Permitted host s) (call : IssueCall) :
    Permitted host (s.step host (.issue call)) := by
  simp only [System.step]
  split
  · exact h
  · rename_i p db' hissue
    obtain ⟨rfl, i, hi, hfor, hshows⟩ | ⟨i, hcreates, hfor, hshows⟩ := issue_ok hissue
    · simpa using h.answer hi hfor hshows
    · have hcreated := h.create hcreates hfor
      simp only [hcreates.issuances, List.drop_left, List.map_cons, List.map_nil, ne_eq,
        List.cons_ne_nil, not_false_eq_true, and_true]
      split
      · exact hcreated
      · exact hcreated.answer (by simp [hcreates.issuances]) hfor hshows

theorem Permitted.step (h : Permitted host s) (a : Act) : Permitted host (s.step host a) := by
  cases a with
  | issue call => exact h.issue call
  | other write => exact h.other write

theorem Permitted.run (host : PermitHost) (acts : List Act) :
    Permitted host (acts.foldl (System.step host) {}) :=
  List.foldlRecOn (motive := Permitted host) acts _ .init fun _ h a _ => h.step a

end Runs

/-- However calls for an attempt interleave with one another and with other writers, at most one of
them commits an issuance and the attempt has at most one first-broadcast permit. The permit of an
issuance has its artifact, transaction and authorization; it expires after it was issued, at the
first of the four expiries. Every call that returns a permit returns that issuance. -/
theorem first_permit_unique (host : PermitHost) (acts : List Act) (attempt : String) :
    let s := acts.foldl (System.step host) {}
    affected (fun c => c.issuance.attemptId = attempt) s.commits ≤ 1 ∧
      affected (fun i => i.attemptId = attempt) s.db.manualIssuances ≤ 1 ∧
      affected (fun p => p.attemptId = attempt ∧ p.purpose = .firstBroadcast) s.db.permits ≤ 1 ∧
      (∀ i ∈ s.db.manualIssuances, i.attemptId = attempt →
        (∃ p ∈ s.db.permits, PermitFor i p) ∧
        ∃ c ∈ s.commits, c.issuance = i ∧ For c.call i ∧
          ∃ issued expires, Expires host c.call.profile i issued expires) ∧
      ∀ a ∈ s.answers, a.call.attemptId = attempt → ∃ i ∈ s.db.manualIssuances,
        i.attemptId = attempt ∧ For a.call i ∧ Shows i a.permit := by
  intro s
  have h : Permitted host s := Permitted.run host acts
  refine ⟨?_, ?_, ?_, ?_, ?_⟩
  · have hone := h.one
    rw [h.rows] at hone
    have hcommits : NoConflict (fun x y : Commit => x.issuance.attemptId = y.issuance.attemptId)
        s.commits := List.pairwise_map.mp hone
    exact hcommits.affected_le_one fun x _ y _ hx hy => hx.trans hy.symm
  · exact h.one.affected_le_one fun x _ y _ hx hy => hx.trans hy.symm
  · refine h.permits.affected_le_one fun x _ y _ hx hy => ?_
    exact .inr (.inl ⟨hx.2, hy.2, hx.1.trans hy.1.symm⟩)
  · intro i hi _
    refine ⟨h.paired i hi, ?_⟩
    rw [h.rows] at hi
    obtain ⟨c, hc, rfl⟩ := List.mem_map.mp hi
    exact ⟨c, hc, rfl, h.terms c hc⟩
  · intro a ha hattempt
    obtain ⟨i, hi, hfor, hshows⟩ := h.answers a ha
    exact ⟨i, hi, hfor.attempt.trans hattempt, hfor, hshows⟩

end RbhTrade.Permits
