import RbhTrade.Service.Submit
import RbhTrade.Settlement.Holdings

/-!
# What an ambiguous send keeps

Once a send of an attempt has ended as `broadcast_unknown` its transaction may be on the chain, so
until a receipt is settled the wallet's lane must keep naming the operation and neither reservation
may be released. The steps are the calls of the two submission services and of the recovery, each
with any answer of the broadcaster and any clock values; a process may die between two transactions
of a call.

Three writers decide what is released, and each looks at a different part of the history.
`ExpirePreBroadcast` spares what is frozen, the recovery releases only a first submission, and the
controlled writer freezes a replay that was proved unsent. The plain `FinishSubmission` looks at its
own row alone: a `ReplayUnknown` whose node answers with a rejection releases what the earlier
ambiguous send holds. Along every run without such an answer the holdings are retained.
-/

namespace RbhTrade.Settlement

open Tables GoTime

namespace Execution

/-! ## The submissions of an execution -/

/-- A send of the attempt has no outcome yet. -/
def InFlight (x : Execution) (db : Db) : Prop :=
  ∃ s ∈ db.submissions, s.attemptId = x.attempt ∧ s.state = .submitting

/-- A send of the attempt ended as `broadcast_unknown`. -/
def Ambiguous (x : Execution) (db : Db) : Prop :=
  ∃ s ∈ db.submissions, s.attemptId = x.attempt ∧ s.state = .broadcastUnknown
deriving Decidable

/-- The recovery proved the first send of the attempt unsent. -/
def ProvedUnsent (x : Execution) (db : Db) : Prop :=
  ∃ s ∈ db.submissions, s.attemptId = x.attempt ∧ s.FirstKnownUnsent

/-- The rows respect the constraints of their table, and a send in flight is the latest. -/
structure RowsOk (x : Execution) (db : Db) : Prop where
  keys : NoConflict Submission.Conflicts db.submissions
  latest : ∀ s ∈ db.submissions, s.attemptId = x.attempt → s.state = .submitting →
    s.sequence + 1 = nextSequence x.attempt db.submissions

variable {x : Execution} {db db' : Db} {a : SignedArtifact}

theorem RowsOk.row_eq (h : x.RowsOk db) {s r : Submission} (hs : s ∈ db.submissions)
    (hr : r ∈ db.submissions) (has : s.attemptId = x.attempt) (har : r.attemptId = x.attempt)
    (he : s.sequence = r.sequence) : s = r :=
  h.keys.eq (fun _ _ => Submission.Conflicts.symm) hs hr (.inr ⟨has.trans har.symm, he⟩)

/-- Two sends in flight of the attempt are the same row. -/
theorem RowsOk.sole (h : x.RowsOk db) {s r : Submission} (hs : s ∈ db.submissions)
    (hr : r ∈ db.submissions) (has : s.attemptId = x.attempt) (har : r.attemptId = x.attempt)
    (hss : s.state = .submitting) (hrs : r.state = .submitting) : s = r := by
  refine h.row_eq hs hr has har ?_
  have := h.latest s hs has hss
  have := h.latest r hr har hrs
  omega

/-- No send is in flight when the latest one has its outcome. -/
theorem RowsOk.not_inFlight (h : x.RowsOk db)
    (hl : ∀ s, latestSubmission x.attempt db.submissions = some s → s.state ≠ .submitting) :
    ¬ x.InFlight db := by
  rintro ⟨r, hr, har, hrs⟩
  have hseq := h.latest r hr har hrs
  cases hlat : latestSubmission x.attempt db.submissions with
  | none => exact selectRow_eq_none.mp hlat r hr ⟨har, hseq⟩
  | some s =>
      obtain ⟨has, hss⟩ := selectRow_prop hlat
      obtain rfl := h.row_eq (selectRow_mem hlat) hr has har (by omega)
      exact hl s hlat hrs

/-- A change of rows that opens no send. -/
theorem RowsOk.map (h : x.RowsOk db) {g : Submission → Submission}
    (hsub : db'.submissions = db.submissions.map g)
    (hg : ∀ s ∈ db.submissions, (g s).identity = s.identity ∧
      ((g s).state = .submitting → s.state = .submitting)) : x.RowsOk db' := by
  have hid : ∀ s ∈ db.submissions, (g s).identity = s.identity := fun s hs => (hg s hs).1
  refine ⟨?_, fun s' hs' has hss => ?_⟩
  · rw [hsub]
    exact h.keys.map fun s hs r hr => Submission.Conflicts.of_identity (hid s hs) (hid r hr)
  · rw [hsub, nextSequence_map hid]
    rw [hsub] at hs'
    obtain ⟨s, hs, rfl⟩ := List.mem_map.mp hs'
    have he := hid s hs
    simp only [Submission.identity, Prod.mk.injEq] at he
    rw [he.2.2]
    exact h.latest s hs (he.2.1.symm.trans has) ((hg s hs).2 hss)

variable {attempt stamp environment : String} {host : Host} {state : SubmissionState}
  {sub : SubmissionRecord}

/-- A new row, opened while no send of its attempt is in flight. -/
theorem RowsOk.opens (h : x.RowsOk db) {txHash : String} (hsub : db'.submissions = db.submissions ++
      [openedSubmission host attempt txHash stamp db.submissions]) (hfresh : ∀ s ∈ db.submissions,
      ¬ s.Conflicts (openedSubmission host attempt txHash stamp db.submissions))
    (hidle : attempt = x.attempt → ¬ x.InFlight db) : x.RowsOk db' := by
  refine ⟨hsub ▸ h.keys.append hfresh, fun s hs has hss => ?_⟩
  rw [hsub, nextSequence_opened]
  rw [hsub] at hs
  obtain hs | hs := List.mem_append.mp hs
  · have hne : attempt ≠ x.attempt := fun hc => hidle hc ⟨s, hs, has, hss⟩
    rw [if_neg hne]
    exact h.latest s hs has hss
  · obtain rfl := List.mem_singleton.mp hs
    have hatt : attempt = x.attempt := has
    rw [if_pos hatt, ← hatt]
    rfl

/-! ## Rows that get an outcome -/

/-- What recording an outcome on a send of an attempt does to the submissions of an execution. -/
structure Settled (x : Execution) (attempt : String) (state : SubmissionState) (db db' : Db) :
    Prop where
  rows : x.RowsOk db'
  was : attempt = x.attempt → x.InFlight db
  inFlight : x.InFlight db' → attempt ≠ x.attempt ∧ x.InFlight db
  ambiguous : x.Ambiguous db' →
    x.Ambiguous db ∨ (attempt = x.attempt ∧ state = .broadcastUnknown)
  unsent : x.ProvedUnsent db' → x.ProvedUnsent db
  persists : x.Ambiguous db → x.Ambiguous db'

/-- An outcome written to the one row that awaits it. -/
theorem RowsOk.settle (h : x.RowsOk db) {p : Submission → Prop} [DecidablePred p]
    {f : Submission → Submission} (hone : affected p db.submissions = 1)
    (hsub : db'.submissions = updateWhere p f db.submissions)
    (hp : ∀ s, p s → s.attemptId = attempt ∧ s.state = .submitting)
    (hf : ∀ s, (f s).identity = s.identity ∧ (f s).state = state ∧
      (f s).failureClass ≠ some .restartBeforeSendIntent) (hstate : state ≠ .submitting) :
    x.Settled attempt state db db' := by
  have hatt : ∀ s, (f s).attemptId = s.attemptId := fun s => by
    have he := (hf s).1
    simp only [Submission.identity, Prod.mk.injEq] at he
    exact he.2.1
  obtain ⟨w, hw, hpw⟩ := exists_of_affected_eq_one hone
  refine ⟨?_, fun ha => ⟨w, hw, (hp w hpw).1.trans ha, (hp w hpw).2⟩, ?_, ?_, ?_, ?_⟩
  · refine h.map hsub fun s _ => ?_
    split
    · exact ⟨(hf s).1, fun hc => absurd ((hf s).2.1.symm.trans hc) hstate⟩
    · exact ⟨rfl, id⟩
  · rintro ⟨s, hs, has, hss⟩
    rw [hsub] at hs
    obtain ⟨hs, hno⟩ | ⟨r, -, -, rfl⟩ := mem_updateWhere_cases hs
    · refine ⟨fun ha => ?_, s, hs, has, hss⟩
      obtain rfl := h.sole hs hw has ((hp w hpw).1.trans ha) hss (hp w hpw).2
      exact hno hpw
    · exact absurd ((hf r).2.1.symm.trans hss) hstate
  · rintro ⟨s, hs, has, hss⟩
    rw [hsub] at hs
    obtain ⟨hs, -⟩ | ⟨r, -, hpr, rfl⟩ := mem_updateWhere_cases hs
    · exact .inl ⟨s, hs, has, hss⟩
    · exact .inr ⟨(hp r hpr).1.symm.trans ((hatt r).symm.trans has), (hf r).2.1.symm.trans hss⟩
  · rintro ⟨s, hs, has, hss⟩
    rw [hsub] at hs
    obtain ⟨hs, -⟩ | ⟨r, -, -, rfl⟩ := mem_updateWhere_cases hs
    · exact ⟨s, hs, has, hss⟩
    · exact absurd hss.1 (hf r).2.2
  · rintro ⟨s, hs, has, hss⟩
    refine ⟨s, ?_, has, hss⟩
    rw [hsub]
    refine mem_updateWhere_of_not hs fun hc => ?_
    rw [(hp s hc).2] at hss
    cases hss

/-! ## The invariant -/

/-- What every transaction keeps: a send in flight has its lane, an ambiguous one has it frozen, and
a first send that the recovery proved unsent has given it up. -/
structure Inv (x : Execution) (db : Db) : Prop where
  stored : x.Stored db
  holds : x.Holds db
  rows : x.RowsOk db
  opened : x.InFlight db → x.Named db
  unknown : x.Ambiguous db → x.FrozenLane db
  unsent : x.ProvedUnsent db → ¬ x.Named db

/-- A transaction keeps the invariant and forgets no ambiguous send. -/
structure Advances (x : Execution) (db db' : Db) : Prop where
  inv : x.Inv db'
  persists : x.Ambiguous db → x.Ambiguous db'

theorem Inv.advances (h : x.Inv db) : x.Advances db db := ⟨h, id⟩

theorem Advances.trans {db₁ : Db} (h : x.Advances db db₁) (h' : x.Advances db₁ db') :
    x.Advances db db' := ⟨h'.inv, fun ha => h'.persists (h.persists ha)⟩

theorem Inv.retained (h : x.Inv db) (ha : x.Ambiguous db) : x.Retained db :=
  h.holds.retained (h.unknown ha).named

/-- An outcome that gives up nothing the execution holds. -/
theorem Inv.settle_keeps (h : x.Inv db) (hs : x.Settled attempt state db db')
    (hid : db.SameIdentities db') (hk : x.Keeps db db')
    (hamb : attempt = x.attempt → state = .broadcastUnknown → x.FrozenLane db') :
    x.Advances db db' where
  persists := hs.persists
  inv :=
    { stored := h.stored.of_identities hid
      holds := hk.holds
      rows := hs.rows
      opened := fun hf => hk.named.mpr (h.opened (hs.inFlight hf).2)
      unknown := fun ha => (hs.ambiguous ha).elim (fun ha => hk.frozen (h.unknown ha))
        fun ha => hamb ha.1 ha.2
      unsent := fun hu => hk.named.not.mpr (h.unsent (hs.unsent hu)) }

/-- An outcome that releases an execution none of whose sends is ambiguous. -/
theorem Inv.settle_releases (h : x.Inv db) (hs : x.Settled attempt state db db')
    (hid : db.SameIdentities db') (hh : x.Holds db') (hn : ¬ x.Named db')
    (hatt : attempt = x.attempt) (hstate : state ≠ .broadcastUnknown) (hclean : ¬ x.Ambiguous db) :
    x.Advances db db' where
  persists := hs.persists
  inv :=
    { stored := h.stored.of_identities hid
      holds := hh
      rows := hs.rows
      opened := fun hf => absurd hatt (hs.inFlight hf).1
      unknown := fun ha => (hs.ambiguous ha).elim (fun ha => absurd ha hclean)
        fun ha => absurd ha.2 hstate
      unsent := fun _ => hn }

/-! ## One lemma per transaction -/

theorem RowsOk.outcome (h : x.RowsOk db) {id : String} {o : Outcome}
    (hone : affected (·.AwaitsOutcome id a) db.submissions = 1) (hends : o.Ends)
    (hsub : db'.submissions = (db.settleRow a stamp id o).submissions) :
    x.Settled a.attemptId o.state db db' :=
  h.settle hone hsub (fun _ hs => ⟨hs.1.2.1, hs.1.2.2⟩) (fun _ => ⟨rfl, rfl, hends.2⟩) hends.1

/-- An outcome that releases what its execution holds, while no send of it is ambiguous. -/
theorem Inv.release (h : x.Inv db) (ha : db.Stores a) (hs : x.Settled a.attemptId state db db')
    (hr : (db.releaseUnsent a stamp none).SameHoldings db') (hstate : state = .knownUnsent)
    (hclean : a.attemptId = x.attempt → ¬ x.Ambiguous db) : x.Advances db db' := by
  obtain ⟨howns, hwallet⟩ := h.stored.own ha
  have hid := (db.releaseUnsent_identities a stamp none).trans hr.identities
  obtain ⟨hop, hh, hn⟩ | ⟨hop, hk⟩ := h.holds.release hr hwallet
  · exact h.settle_releases hs hid hh hn (howns.mp hop) (by rw [hstate]; nofun)
      (hclean (howns.mp hop))
  · exact h.settle_keeps hs hid hk fun hatt => absurd (howns.mpr hatt) hop

/-- An outcome that freezes what its execution holds. -/
theorem Inv.freeze (h : x.Inv db) (ha : db.Stores a) {reason : String}
    (hs : x.Settled a.attemptId state db db')
    (hlanes : db'.lanes = (db.freezeLane stamp a.walletId a.operation reason).lanes)
    (hres : db'.reservations = (db.freezeLane stamp a.walletId a.operation reason).reservations)
    (hrisk : ∀ r' ∈ db'.riskReservations, ∃ r ∈ db.riskReservations,
      r.operationId = r'.operationId ∧ (r'.state = .released → r.state = .released))
    (hid : db.SameIdentities db') : x.Advances db db' := by
  obtain ⟨howns, hwallet⟩ := h.stored.own ha
  obtain ⟨hk, hfreeze⟩ := h.holds.freeze hlanes hres hrisk hwallet
  exact h.settle_keeps hs hid hk fun hatt _ => hfreeze (howns.mpr hatt) (h.opened (hs.was hatt))

/-- The outcome writer of the plain service. It may record a rejection only while no send of the
attempt is ambiguous. -/
theorem Inv.finish (h : x.Inv db) {o : Outcome} {now : Instant} {u : Unit} (ha : db.Stores a)
    (hok : finishSubmission a sub o now db = .ok (u, db')) (hends : o.Ends)
    (hclean : o.state = .knownUnsent → a.attemptId = x.attempt → ¬ x.Ambiguous db) :
    x.Advances db db' := by
  obtain ⟨hone, hw⟩ := finishSubmission_eq hok
  have hs := h.rows.outcome hone hends (finishSubmission_rows hok)
  obtain ⟨ho, rfl⟩ | ⟨ho, rfl, -⟩ | ⟨ho, rfl⟩ := hw
  · exact h.release ha hs ⟨rfl, rfl, rfl, rfl, rfl⟩ ho (hclean ho)
  · exact h.freeze ha hs rfl rfl (fun r hr => ⟨r, hr, rfl, id⟩) (.of_steps rfl rfl fun _ => rfl)
  · refine h.settle_keeps hs ⟨rfl, rfl⟩ (.of_same h.holds ⟨rfl, rfl, rfl, rfl, rfl⟩) fun _ hu => ?_
    obtain ho | ho := ho <;> rw [ho] at hu <;> cases hu

/-- The outcome writer of the controlled service. It releases only for a first broadcast. -/
theorem Inv.finishControlled (h : x.Inv db) {o : Outcome} {purpose : PermitPurpose} {now : Instant}
    {leases : List WorkerLease} {u : Unit} (ha : db.Stores a)
    (hok : finishControlledSubmissionTx a sub o purpose now { db with leases := leases } =
    .ok (u, db'))
    (hends : o.Ends)
    (hclean : purpose ≠ .unknownReplay → a.attemptId = x.attempt → ¬ x.Ambiguous db) :
    x.Advances db db' := by
  obtain ⟨hone, hw⟩ := finishControlledSubmissionTx_eq hok
  have hs : x.Settled a.attemptId o.state db db' :=
    h.rows.outcome hone hends (finishControlledSubmissionTx_rows hok).1
  obtain ⟨ho, hp, rfl⟩ | ⟨-, rfl⟩ | ⟨-, ⟨ho, -⟩, rfl⟩ := hw
  · exact h.release ha hs ⟨rfl, rfl, rfl, rfl, rfl⟩ ho (hclean hp)
  · exact h.freeze ha hs rfl rfl (db.freezeRisk_kept _ _) ⟨rfl, rfl⟩
  · exact h.settle_keeps hs ⟨rfl, rfl⟩ (.of_same h.holds ⟨rfl, rfl, rfl, rfl, rfl⟩) fun _ hu =>
      absurd hu ho

/-- An expiry closes the row that its send opened, or finds that nothing was ever sent. -/
theorem Inv.expire (h : x.Inv db) {submission : Option SubmissionRecord} {now : Instant} {u : Unit}
    (ha : db.Stores a) (hok : expirePreBroadcast a submission now db = .ok (u, db')) :
    x.Advances db db' := by
  obtain ⟨howns, hwallet⟩ := h.stored.own ha
  obtain ⟨rows, hdb', hrows⟩ := expirePreBroadcast_eq hok
  have he : (db.expire a (formatRFC3339Nano now)).SameHoldings db' := by
    rw [hdb']
    exact ⟨rfl, rfl, rfl, rfl, rfl⟩
  have hid : db.SameIdentities db' := (db.expire_identities a _).trans he.identities
  obtain rfl : db'.submissions = rows := by rw [hdb']; rfl
  obtain ⟨hh, hfrozen, hback, hother⟩ := h.holds.expire he hwallet
  obtain ⟨-, hzero, hsub⟩ | ⟨sub, -, hone, hsub⟩ := hrows
  · have hno : a.attemptId = x.attempt → ∀ s ∈ db.submissions, s.attemptId ≠ x.attempt := by
      intro hatt s hs has
      have hpos : 0 < affected (·.attemptId = a.attemptId) db.submissions :=
        affected_pos_iff.mpr ⟨s, hs, has.trans hatt.symm⟩
      omega
    refine ⟨⟨h.stored.of_identities hid, hh, ⟨hsub ▸ h.rows.keys, hsub ▸ h.rows.latest⟩,
      ?_, ?_, ?_⟩, fun ⟨s, hs, hss⟩ => ⟨s, hsub ▸ hs, hss⟩⟩
    · rintro ⟨s, hs, has, hss⟩
      rw [hsub] at hs
      exact hother (fun hop => hno (howns.mp hop) s hs has) (h.opened ⟨s, hs, has, hss⟩)
    · exact fun ⟨s, hs, hss⟩ => hfrozen (h.unknown ⟨s, hsub ▸ hs, hss⟩)
    · exact fun ⟨s, hs, hss⟩ hn => h.unsent ⟨s, hsub ▸ hs, hss⟩ (hback hn)
  · have hs : x.Settled a.attemptId .expiredPrebroadcast db db' :=
      h.rows.settle hone hsub (fun s hs => ⟨hs.2.1, hs.2.2⟩)
        (fun _ => ⟨rfl, rfl, fun hc => by cases hc⟩) fun hc => by cases hc
    refine ⟨⟨h.stored.of_identities hid, hh, hs.rows, fun hf => ?_, fun hu => ?_,
      fun hu hn => h.unsent (hs.unsent hu) (hback hn)⟩, hs.persists⟩
    · exact hother (fun hop => (hs.inFlight hf).1 (howns.mp hop)) (h.opened (hs.inFlight hf).2)
    · obtain hu | ⟨-, hc⟩ := hs.ambiguous hu
      · exact hfrozen (h.unknown hu)
      · cases hc

/-- A new row for an attempt that has its lane and no send in flight. -/
theorem Inv.opens (h : x.Inv db) {txHash : String} (hsub : db'.submissions = db.submissions ++
      [openedSubmission host attempt txHash stamp db.submissions]) (hfresh : ∀ s ∈ db.submissions,
      ¬ s.Conflicts (openedSubmission host attempt txHash stamp db.submissions))
    (hsame : db.SameHoldings db') (hlane : attempt = x.attempt → x.Named db)
    (hidle : attempt = x.attempt → ¬ x.InFlight db) : x.Advances db db' := by
  have hk := Keeps.of_same h.holds hsame
  have hmem : ∀ s ∈ db'.submissions, s ∈ db.submissions ∨
      s = openedSubmission host attempt txHash stamp db.submissions := fun s hs => by
    rw [hsub] at hs
    exact (List.mem_append.mp hs).imp_right List.mem_singleton.mp
  refine ⟨⟨h.stored.of_identities hsame.identities, hk.holds, h.rows.opens hsub hfresh hidle,
    ?_, ?_, ?_⟩, fun ⟨s, hs, hss⟩ => ⟨s, hsub ▸ List.mem_append_left _ hs, hss⟩⟩
  · rintro ⟨s, hs, has, hss⟩
    obtain hs | rfl := hmem s hs
    · exact hk.named.mpr (h.opened ⟨s, hs, has, hss⟩)
    · exact hk.named.mpr (hlane has)
  · rintro ⟨s, hs, has, hss⟩
    obtain hs | rfl := hmem s hs
    · exact hk.frozen (h.unknown ⟨s, hs, has, hss⟩)
    · cases hss
  · rintro ⟨s, hs, has, hss⟩
    obtain hs | rfl := hmem s hs
    · exact hk.named.not.mpr (h.unsent ⟨s, hs, has, hss⟩)
    · cases hss.1

/-- The intent marker changes no state. -/
theorem Inv.mark (h : x.Inv db)
    (hsub : db'.submissions = updateWhere (·.AwaitsIntent sub) (Submission.markIntent stamp)
      db.submissions) (hsame : db.SameHoldings db') : x.Advances db db' := by
  have hk := Keeps.of_same h.holds hsame
  have hrows : ∀ q : Submission → Prop, (∀ s, q (s.markIntent stamp) ↔ q s) →
      ((∃ s ∈ db'.submissions, q s) ↔ ∃ s ∈ db.submissions, q s) := fun q hq => by
    rw [hsub]
    exact exists_updateWhere_iff fun s _ => hq s
  have hunknown : x.Ambiguous db' ↔ x.Ambiguous db := hrows _ fun _ => Iff.rfl
  refine ⟨⟨h.stored.of_identities hsame.identities, hk.holds, ?_, fun hf => ?_, fun ha => ?_,
    fun hu => ?_⟩, hunknown.mpr⟩
  · refine h.rows.map hsub fun s _ => ?_
    split <;> exact ⟨rfl, id⟩
  · exact hk.named.mpr (h.opened ((hrows _ fun _ => Iff.rfl).mp hf))
  · exact hk.frozen (h.unknown (hunknown.mp ha))
  · exact hk.named.not.mpr (h.unsent ((hrows _ fun _ => Iff.rfl).mp hu))

/-! ## Recovery -/

/-- A row of the attempt that the classifier closed. -/
structure Reclassified (x : Execution) (db db' : Db) (s s' : Submission) : Prop where
  mem : s ∈ db.submissions
  attempt : s.attemptId = x.attempt
  state : s.state = .submitting
  sequence : s'.sequence = s.sequence
  legacy : db'.LegacySource x.operation x.attempt
  outcome : (s'.state = .knownUnsent ∧ s'.failureClass = some .restartBeforeSendIntent) ∨
    (s'.state = .broadcastUnknown ∧ s'.failureClass = some .restartAfterSendIntent)

theorem Stored.recovered_row (h : x.Stored db) (hr : Recovered environment stamp db db')
    {s' : Submission} (hs' : s' ∈ db'.submissions) (ha : s'.attemptId = x.attempt) :
    s' ∈ db.submissions ∨ ∃ s, x.Reclassified db db' s s' := by
  rw [hr.submissions] at hs'
  obtain ⟨s, hs, rfl⟩ := List.mem_map.mp hs'
  obtain he | ⟨hss, hp, state, c, detail, he, hout⟩ :=
    recoverSubmission_cases db environment stamp s
  · exact .inl (he.symm ▸ hs)
  · rw [he] at ha ⊢
    have ha : s.attemptId = x.attempt := ha
    refine .inr ⟨s, hs, ha, hss, rfl, hr.sources.legacySource (h.legacySource (ha ▸ hp)), ?_⟩
    exact hout.imp (fun ⟨h₁, h₂⟩ => ⟨h₁, congrArg some h₂⟩) fun ⟨h₁, h₂⟩ => ⟨h₁, congrArg some h₂⟩

theorem RowsOk.recover (h : x.RowsOk db) (hr : Recovered environment stamp db db') :
    x.RowsOk db' := by
  refine h.map hr.submissions fun s _ => ⟨recoverSubmission_identity .., fun hs => ?_⟩
  obtain he | ⟨hss, -⟩ := recoverSubmission_cases db environment stamp s
  · rwa [he] at hs
  · exact hss

/-- When the recovery releases the execution, no send of it is in flight or ambiguous. -/
theorem Inv.first_unsent_sole (h : x.Inv db) (hr : Recovered environment stamp db db')
    (hfirst : db'.OwnsSubmission Submission.FirstKnownUnsent x.operation) :
    ¬ x.InFlight db' ∧ ¬ x.Ambiguous db' := by
  have hstored := h.stored.of_identities hr.sources.identities
  obtain ⟨st, hst, t, ht, s', hs', hstep, hatt, hq, -, hop⟩ := hfirst
  have ha : s'.attemptId = x.attempt := hatt.trans (hstored.sole t ht st hst hstep.symm hop)
  obtain hs | ⟨s, hs⟩ := h.stored.recovered_row hr hs' ha
  · -- It was released before, so nothing has been sent since.
    have hnot := h.unsent ⟨s', hs, ha, hq⟩
    refine ⟨fun ⟨r', hr', har, hrs⟩ => ?_, fun ⟨r', hr', har, hrs⟩ => ?_⟩
    · obtain hm | ⟨r, hrr⟩ := h.stored.recovered_row hr hr' har
      · exact hnot (h.opened ⟨r', hm, har, hrs⟩)
      · exact hnot (h.opened ⟨r, hrr.mem, hrr.attempt, hrr.state⟩)
    · obtain hm | ⟨r, hrr⟩ := h.stored.recovered_row hr hr' har
      · exact hnot (h.unknown ⟨r', hm, har, hrs⟩).named
      · exact hnot (h.opened ⟨r, hrr.mem, hrr.attempt, hrr.state⟩)
  · -- The classifier closes it now. It is the latest and has sequence zero, so it is the only one.
    have hsole : ∀ r ∈ db'.submissions, r.attemptId = x.attempt → r = s' := by
      intro r hrm har
      refine (h.rows.recover hr).row_eq hrm hs' har ha ?_
      have hle := succ_le_nextSequence hrm har
      rw [hr.submissions, nextSequence_map fun s _ => recoverSubmission_identity ..,
        ← h.rows.latest s hs.mem hs.attempt hs.state, ← hs.sequence, hq.2] at hle
      have := hq.2
      omega
    have hout : s'.state = .knownUnsent := by
      obtain hc | hc := hs.outcome
      · exact hc.1
      · rw [hq.1] at hc
        cases hc.2
    refine ⟨fun ⟨r, hrm, har, hrs⟩ => ?_, fun ⟨r, hrm, har, hrs⟩ => ?_⟩
    all_goals
      rw [hsole r hrm har, hout] at hrs
      cases hrs

/-- The recovery releases only a first send that never began, and freezes an ambiguous one. -/
theorem Inv.recover (h : x.Inv db) (hr : Recovered environment stamp db db') :
    x.Advances db db' := by
  have hpersists : x.Ambiguous db → x.Ambiguous db' := by
    rintro ⟨s, hs, ha, hss⟩
    refine ⟨s, ?_, ha, hss⟩
    rw [hr.submissions]
    refine List.mem_map.mpr ⟨s, hs, ?_⟩
    obtain he | ⟨hc, -⟩ := recoverSubmission_cases db environment stamp s
    · exact he
    · rw [hss] at hc
      cases hc
  have hflight : ∀ {s s'}, x.Reclassified db db' s s' → x.Named db := fun hs =>
    h.opened ⟨_, hs.mem, hs.attempt, hs.state⟩
  refine ⟨?_, hpersists⟩
  have hstored := h.stored.of_identities hr.sources.identities
  obtain ⟨hfirst, hh, hn⟩ | ⟨hno, hk, hfreeze⟩ := h.holds.recover hr
  · obtain ⟨hidle, hclear⟩ := h.first_unsent_sole hr hfirst
    exact ⟨hstored, hh, h.rows.recover hr, fun hc => absurd hc hidle, fun hc => absurd hc hclear,
      fun _ => hn⟩
  · refine ⟨hstored, hk.holds, h.rows.recover hr, ?_, ?_, ?_⟩
    · rintro ⟨s', hs', ha, hss⟩
      obtain hm | ⟨s, hs⟩ := h.stored.recovered_row hr hs' ha
      · exact hk.named.mpr (h.opened ⟨s', hm, ha, hss⟩)
      · exact hk.named.mpr (hflight hs)
    · rintro ⟨s', hs', ha, hss⟩
      obtain hm | ⟨s, hs⟩ := h.stored.recovered_row hr hs' ha
      · exact hk.frozen (h.unknown ⟨s', hm, ha, hss⟩)
      · refine hfreeze (hs.legacy.ownsSubmission hs' ha ?_) (hflight hs)
        obtain hc | hc := hs.outcome
        · rw [hss] at hc
          cases hc.1
        · exact hc.2
    · rintro ⟨s', hs', ha, hq⟩
      obtain hm | ⟨s, hs⟩ := h.stored.recovered_row hr hs' ha
      · exact hk.named.not.mpr (h.unsent ⟨s', hm, ha, hq⟩)
      · exact absurd (hs.legacy.ownsSubmission hs' ha hq) hno

/-! ## Calls -/

/-- Under a signed lane no send of the execution is ambiguous. -/
theorem Inv.clean_of_signed (h : x.Inv db) {l : WalletLane} (hl : l ∈ db.lanes)
    (ho : l.operationId = some x.operation) (hs : l.state = .signed) : ¬ x.Ambiguous db := by
  intro ha
  obtain ⟨k, hk, hko, hks⟩ := h.unknown ha
  obtain rfl := h.holds.lane_eq hk hl (h.holds.lanes k hk hko).1 (h.holds.lanes l hl ho).1
  rw [hs] at hks
  cases hks

theorem plainOutcome_ends (a : SignedArtifact) (answer : Answer) :
    (plainOutcome a answer).Ends := by
  cases answer with
  | rejected _ => exact ⟨nofun, nofun⟩
  | failed _ => exact ⟨nofun, nofun⟩
  | accepted hash => by_cases h : hash = a.txHash <;> simp [plainOutcome, Outcome.Ends, h]

theorem plainOutcome_knownUnsent {answer : Answer}
    (h : (plainOutcome a answer).state = .knownUnsent) : ∃ detail, answer = .rejected detail := by
  cases answer with
  | rejected detail => exact ⟨detail, rfl⟩
  | failed _ => cases h
  | accepted hash => by_cases hh : hash = a.txHash <;> simp [plainOutcome, hh] at h

theorem Inv.finishSend (h : x.Inv db) {replay : Bool} {clock : SubmitClock} {answer : Answer}
    (ha : db.Stores a) (hclean : replay = false → a.attemptId = x.attempt → ¬ x.Ambiguous db)
    (hans : replay = true → ∀ detail, answer ≠ .rejected detail) :
    x.Advances db (finishSend a sub replay clock answer db).2 := by
  unfold RbhTrade.finishSend
  split
  · split
    · refine Tx.stateAfter_cases (x.Advances db) h.advances fun _ db' hok => ?_
      exact h.finish ha hok ⟨nofun, nofun⟩ nofun
    · split
      · exact h.expire ha (by assumption)
      · exact h.advances
  · split
    · rename_i hok
      refine h.finish ha hok (plainOutcome_ends a answer) fun hk hatt => ?_
      obtain ⟨detail, rfl⟩ := plainOutcome_knownUnsent hk
      refine hclean ?_ hatt
      by_contra hreplay
      exact hans (by simpa using hreplay) detail rfl
    · exact h.advances

theorem Inv.sendArtifact (h : x.Inv db) {latest : Option Submission} {replay : Bool}
    {clock : SubmitClock} {answer : Option Answer} (ha : db.Stores a)
    (hlatest : ∀ s, latestSubmission a.attemptId db.submissions = some s → s.state ≠ .submitting)
    (hans : replay = true → ∀ detail, answer ≠ some (.rejected detail)) :
    x.Advances db (sendArtifact host a latest replay clock answer db).2 := by
  obtain ⟨howns, hwallet⟩ := h.stored.own ha
  unfold RbhTrade.sendArtifact
  split
  · dsimp only
    split
    · exact Tx.stateAfter_cases (x.Advances db) h.advances fun _ db' hok => h.expire ha hok
    · exact h.advances
  · split
    · exact h.advances
    · rename_i sub db₁ hbegin
      obtain ⟨⟨l, hl, hown, hstate⟩, hopen⟩ := beginSubmission_ok hbegin
      obtain ⟨-, hfresh, hdb₁⟩ := openSubmissionTx_ok hopen
      have hsame : db.SameHoldings db₁ := by
        rw [hdb₁]
        exact ⟨rfl, rfl, rfl, rfl, rfl⟩
      have h₁ : x.Advances db db₁ := by
        refine h.opens (by rw [hdb₁]) hfresh hsame (fun hatt => ⟨l, hl, ?_⟩) fun hatt => ?_
        · rw [hown.2, howns.mpr hatt]
        · exact h.rows.not_inFlight (hatt ▸ hlatest)
      split
      · exact h₁
      · rename_i answer
        refine h₁.trans (h₁.inv.finishSend (hsame.identities.stores ha) ?_ ?_)
        · intro hreplay hatt
          have hsigned : l.state = .signed := by simpa [hreplay] using hstate
          exact h₁.inv.clean_of_signed (hsame.lanes ▸ hl) (by rw [hown.2, howns.mpr hatt]) hsigned
        · exact fun hreplay detail hc => hans hreplay detail (congrArg some hc)

theorem Inv.submit (h : x.Inv db) {operation : String} {replay : Bool} {clock : SubmitClock}
    {answer : Option Answer} (hans : replay = true → ∀ detail, answer ≠ some (.rejected detail)) :
    x.Advances db (submit host operation replay clock answer db).2 := by
  unfold RbhTrade.submit
  split
  · exact h.advances
  · rename_i a hload
    have ha := (loadEncryptedArtifact_some hload).1
    split
    · exact h.advances
    · split
      · rename_i hnone
        split
        · exact h.advances
        · refine h.sendArtifact ha (fun s hs => ?_) hans
          rw [hnone] at hs
          cases hs
      · rename_i latest hlatest
        have hstate : ∀ state, latest.state = state → state ≠ .submitting →
            ∀ s, latestSubmission a.attemptId db.submissions = some s → s.state ≠ .submitting := by
          intro state hst hne s hs
          rw [hlatest] at hs
          rw [← Option.some.inj hs, hst]
          exact hne
        split
        · exact h.advances
        · refine Tx.stateAfter_cases (x.Advances db) h.advances fun _ db' hok => ?_
          exact h.finish ha hok ⟨nofun, nofun⟩ nofun
        · rename_i hunknown
          split
          · exact h.sendArtifact ha (hstate _ hunknown fun hc => by cases hc) hans
          · exact h.advances
        · rename_i hother _
          split
          · exact h.advances
          · exact h.sendArtifact ha (hstate _ rfl (by assumption)) hans

theorem Inv.controlledSend (h : x.Inv db) {work : ControlledSubmissionWork}
    {v : RuntimeGateSnapshot} {lease : LeaseFence} {clock : ControlledClock} {answer : Answer}
    (ha : db.Stores a)
    (hclean : work.purpose ≠ .unknownReplay → a.attemptId = x.attempt → ¬ x.Ambiguous db) :
    x.Advances db (controlledSend host work v sub a lease clock answer db) := by
  unfold RbhTrade.controlledSend
  split
  · exact h.advances
  · rename_i hgate
    obtain ⟨leases, ⟨hc, -⟩ | ⟨-, reason, _, hok⟩⟩ := controlledSendGateTx_eq hgate
    · cases hc
    · exact h.finishControlled ha hok (refusedOutcome_ends reason) hclean
  · rename_i hgate
    obtain ⟨leases, ⟨-, -, rfl⟩ | ⟨hc, -⟩⟩ := controlledSendGateTx_eq hgate
    · split
      · rename_i hok
        exact h.finishControlled ha hok (controlledOutcome_ends host a answer) hclean
      · exact h.advances
    · cases hc

theorem Inv.sendControlled (h : x.Inv db) {work : ControlledSubmissionWork}
    {v : RuntimeGateSnapshot} {lease : LeaseFence} {clock : ControlledClock} {fate : SendFate}
    (hlist : db.Lists work) : x.Advances db (sendControlled host work v lease clock fate db) := by
  have hop : work.artifact.attemptId = x.attempt → work.request.operationId = x.operation := by
    intro hatt
    obtain ⟨t, ht, s, hs, hst, hid, hop⟩ := hlist
    rw [← hop]
    exact h.stored.step s hs (hst.trans (h.stored.attempt t ht (hid.trans hatt)).1)
  unfold RbhTrade.sendControlled
  split
  · exact h.advances
  · rename_i sub db₁ hbegin
    have hb := beginControlledSubmissionAfterGate_ok hbegin
    obtain ⟨l, hl, hown, hsigned⟩ := hb.lane
    have h₁ : x.Advances db db₁ := by
      refine h.opens hb.submissions hb.rowFresh hb.holdings (fun hatt => ⟨l, hl, ?_⟩) fun hatt => ?_
      · rw [hown.2, hop hatt]
      · refine h.rows.not_inFlight fun s hs => ?_
        rw [← hatt] at hs
        obtain ⟨-, hzero⟩ | ⟨-, hlatest⟩ := hb.history
        · have hprop := selectRow_prop hs
          have hpos : 0 < affected (·.attemptId = work.artifact.attemptId) db.submissions :=
            affected_pos_iff.mpr ⟨s, selectRow_mem hs, hprop.1⟩
          omega
        · rw [hs, Option.map_some, Option.some.injEq] at hlatest
          rw [hlatest]
          exact fun hc => by cases hc
    split
    · exact h₁
    · exact h₁
    · rename_i a _ hload
      obtain ⟨ha, hatt⟩ := loadControlledArtifact_some hload
      split
      · exact h₁
      · rename_i db₂ hmark
        obtain ⟨-, hsub, -, -, hsame, -⟩ := markControlledSendIntent_ok hmark
        have h₂ := h₁.trans (h₁.inv.mark hsub hsame)
        split
        · refine h₂.trans (h₂.inv.controlledSend (hsame.identities.stores ha) fun hp hax => ?_)
          have hlanes : l ∈ db₂.lanes := by
            rw [hsame.lanes, hb.holdings.lanes]
            exact hl
          refine h₂.inv.clean_of_signed hlanes ?_ (hsigned ?_)
          · rw [hown.2, hop (hatt.symm.trans hax)]
          · cases hpurpose : work.purpose with
            | firstBroadcast => rfl
            | unknownReplay => exact absurd hpurpose hp
        · exact h₂

end Execution

/-! ## Runs -/

/-- A call of one of the services. Work items were listed, and artifacts loaded, at some earlier
time; their identities never change. -/
inductive ServiceCall where
  | submit (operation : String) (clock : SubmitClock) (answer : Option Answer)
  | replayUnknown (operation : String) (clock : SubmitClock) (answer : Option Answer)
  | sendControlled (work : ControlledSubmissionWork) (snapshot : RuntimeGateSnapshot)
      (lease : LeaseFence) (clock : ControlledClock) (fate : SendFate)
  | expirePreBroadcast (a : SignedArtifact) (submission : Option SubmissionRecord) (now : Instant)
  | recoverControlledInflight (lease : LeaseFence) (clock now : Instant)

/-- The database after a call. -/
def serviceStep (host : Host) (db : Db) : ServiceCall → Db
  | .submit operation clock answer => (submit host operation false clock answer db).2
  | .replayUnknown operation clock answer => (submit host operation true clock answer db).2
  | .sendControlled work v lease clock fate =>
      if db.Lists work then sendControlled host work v lease clock fate db else db
  | .expirePreBroadcast a submission now =>
      if db.Stores a then (expirePreBroadcast a submission now).stateAfter db else db
  | .recoverControlledInflight lease clock now =>
      (recoverControlledInflight lease clock now).stateAfter db

/-- The call is not a `ReplayUnknown` that the node answers with a rejection. -/
def Unrejected (_ : Db) : ServiceCall → Prop
  | .replayUnknown _ _ (some (.rejected _)) => False
  | _ => True

instance (db : Db) : DecidablePred (Unrejected db) := fun call => by
  unfold Unrejected
  split <;> infer_instance

namespace Execution

variable {x : Execution} {db db' : Db}

theorem Inv.step (h : x.Inv db) (host : Host) (call : ServiceCall) (hok : Unrejected db call) :
    x.Advances db (serviceStep host db call) := by
  cases call with
  | submit operation clock answer => exact h.submit fun hc => by cases hc
  | replayUnknown operation clock answer =>
      refine h.submit fun _ detail hc => ?_
      subst hc
      exact hok
  | sendControlled work v lease clock fate =>
      by_cases hlist : db.Lists work
      · simpa only [serviceStep, if_pos hlist] using h.sendControlled hlist
      · simpa only [serviceStep, if_neg hlist] using h.advances
  | expirePreBroadcast a submission now =>
      by_cases ha : db.Stores a
      · simp only [serviceStep, if_pos ha]
        exact Tx.stateAfter_cases (x.Advances db) h.advances fun _ db' hdb => h.expire ha hdb
      · simpa only [serviceStep, if_neg ha] using h.advances
  | recoverControlledInflight lease clock now =>
      exact Tx.stateAfter_cases (x.Advances db) h.advances fun _ db' hdb =>
        h.recover (recoverControlledInflight_ok hdb)

/-- An execution that is reserved or signed and of which nothing has been sent. -/
structure Prepared (x : Execution) (db : Db) : Prop where
  stored : x.Stored db
  laneKeys : NoConflict WalletLane.Conflicts db.lanes
  rowKeys : NoConflict Submission.Conflicts db.submissions
  unsent : ∀ s ∈ db.submissions, s.attemptId ≠ x.attempt
  lanes : ∀ l ∈ db.lanes, l.operationId = some x.operation →
    l.walletId = x.wallet ∧ (l.state = .reserved ∨ l.state = .signed)
  reserved : x.Reserved db

theorem Prepared.inv (h : x.Prepared db) : x.Inv db := by
  refine ⟨h.stored, ⟨h.laneKeys, fun l hl ho => ⟨(h.lanes l hl ho).1, fun hc => ?_⟩,
    fun _ => h.reserved, fun ⟨l, hl, ho, hs⟩ => ?_⟩, ⟨h.rowKeys, fun s hs ha => ?_⟩, ?_, ?_, ?_⟩
  · obtain hs | hs := (h.lanes l hl ho).2 <;> rw [hc] at hs <;> cases hs
  · obtain hc | hc := (h.lanes l hl ho).2 <;> rw [hs] at hc <;> cases hc
  · exact absurd ha (h.unsent s hs)
  all_goals exact fun ⟨s, hs, ha, _⟩ => absurd ha (h.unsent s hs)

end Execution

/-- In a run without a rejected `ReplayUnknown`, an execution keeps its lane and its reservations
from the first ambiguous send on. -/
theorem ambiguous_send_retains_holdings (host : Host) (x : Execution) (db : Db)
    (hnew : x.Prepared db) (calls : List ServiceCall)
    (hok : Run.Along (serviceStep host) Unrejected db calls) (m n : Nat) (hmn : m ≤ n)
    (hunknown : x.Ambiguous ((calls.take m).foldl (serviceStep host) db)) :
    x.Retained ((calls.take n).foldl (serviceStep host) db) := by
  have hm : x.Inv ((calls.take m).foldl (serviceStep host) db) :=
    hok.always hnew.inv (fun _ call h hc => (h.step host call hc).inv) m
  have hn := hok.later (P := fun db => x.Inv db ∧ x.Ambiguous db) hmn ⟨hm, hunknown⟩
    fun _ call h hc => ⟨(h.1.step host call hc).inv, (h.1.step host call hc).persists h.2⟩
  exact hn.1.retained hn.2

/-! ## A send whose connection broke -/

/-- A signed execution with its risk reservation. -/
def heldExecution : Execution := ⟨"attempt", "op", "step", "wallet"⟩

def heldDb : Db :=
  { operations := [{ id := "op", walletId := "wallet", status := .signedPrebroadcast,
                     policyVersion := some 1, deadlineCapability := some "APPLICATION_TTL_ONLY",
                     expiresAt := some "2026-01-02T00:00:00Z" }],
    dryRunWallets := [{ id := "wallet", address := "0xw", enabled := true }],
    steps := [{ id := "step", operationId := "op", stepIndex := 1, status := .signed,
                walletId := some "wallet", policyVersion := some 1, quoteBlockNumber := some 5,
                quoteBlockHash := some "0xb", expiresAt := some "2026-01-02T00:00:00Z" }],
    attempts := [{ id := "attempt", stepId := "step", nonce := 7, status := .signed,
                   walletId := "wallet", payload := some { txHash := "0xtx" }, policyVersion := 1,
                   quoteBlockNumber := 5, quoteBlockHash := "0xb",
                   expiresAt := "2026-01-02T00:00:00Z" }],
    lanes := [{ walletId := "wallet", address := "0xw", state := .signed,
                operationId := some "op", stepId := some "step", reservedNonce := some 7 }],
    reservations := [{ operationId := "op", stepId := "step", walletId := "wallet",
                       status := .signed }],
    riskReservations := [{ id := "risk", operationId := "op", walletId := "wallet",
                           tokenAddress := "0xtoken", policyVersion := 1, inputAmount := "5",
                           state := .reserved }] }

/-- A send whose connection broke, and a replay of it with an answer. -/
def brokenThen (answer : Answer) : List ServiceCall :=
  [.submit "op" ⟨0, 0, 0, 0⟩ (some (.failed "connection reset")),
    .replayUnknown "op" ⟨1, 1, 1, 1⟩ (some answer)]

theorem heldDb_prepared : heldExecution.Prepared heldDb :=
  ⟨⟨by decide, by decide, by decide⟩, by decide, by decide, by decide, by decide, by decide⟩

theorem accepted_replay_retains_holdings :
    heldExecution.Ambiguous
      (((brokenThen (.accepted "0xtx")).take 1).foldl (serviceStep Host.plain) heldDb) ∧
    heldExecution.Retained
      (((brokenThen (.accepted "0xtx")).take 2).foldl (serviceStep Host.plain) heldDb) := by
  have hunknown : heldExecution.Ambiguous
      (((brokenThen (.accepted "0xtx")).take 1).foldl (serviceStep Host.plain) heldDb) := by
    decide +kernel
  exact ⟨hunknown, ambiguous_send_retains_holdings Host.plain heldExecution heldDb heldDb_prepared
    (brokenThen (.accepted "0xtx")) (by decide +kernel) 1 2 (by decide) hunknown⟩

/-- The node rejects the replay because the nonce is used, which is what it answers once the first
send is mined: the lane is idle and both reservations are released. -/
theorem rejected_replay_releases_holdings :
    heldExecution.Ambiguous (((brokenThen (.rejected "nonce too low")).take 1).foldl
      (serviceStep Host.plain) heldDb) ∧
    heldExecution.Ambiguous ((brokenThen (.rejected "nonce too low")).foldl
      (serviceStep Host.plain) heldDb) ∧
    ¬ heldExecution.Named ((brokenThen (.rejected "nonce too low")).foldl
      (serviceStep Host.plain) heldDb) ∧
    (∀ r ∈ ((brokenThen (.rejected "nonce too low")).foldl (serviceStep Host.plain)
      heldDb).reservations, r.status = .released) ∧
    ∀ r ∈ ((brokenThen (.rejected "nonce too low")).foldl (serviceStep Host.plain)
      heldDb).riskReservations, r.state = .released := by
  decide +kernel

end RbhTrade.Settlement
