import RbhTrade.Feed.Retractions

/-!
# The receipt processor

`Process` writes an audit row, lets the parser read the receipt, and commits the parser's events
together with a snapshot of the parser's registry. The registry is in memory, so there are several
steps at which an error leaves the two apart. The source restores the registry at each of them.

The parser is outside this development. Its registry is a value of any type, and what a call of
`ParseReceipt` returns is part of the call. The sequencer runner writes to the same database at the
same time, also between the audit and the commit of a receipt.

In every run the registry is what a restart would load from the database (`Hydrated`).
-/

namespace RbhTrade.Feed

open GoTime Tables

/-! ## The parser and the store -/

/-- The registry of `parser.New`, and the JSON form of its snapshots. -/
structure ParserHost (σ : Type) where
  initial : σ
  encode : σ → Option String
  decode : String → Option σ
  decode_encode : ∀ registry payload, encode registry = some payload →
    decode payload = some registry

variable {σ : Type}

/-- `parser.Event`, as far as `Process` reads it; the JSON is what `json.Marshal` gives. -/
structure Event where
  logIndex : Nat
  protocol : String
  kind : String
  json : Option String
deriving DecidableEq

/-- `types.Receipt`. -/
structure Receipt where
  txHash : String
  status : Nat
  blockNumber : Option Int
deriving DecidableEq

def receiptStatusSuccessful : Nat := 1

/-- `ReceiptAudit`. -/
structure ReceiptAudit where
  transactionHash : String
  blockNumber : Nat
  receiptStatus : Nat
  reason : String
deriving DecidableEq

/-- `feed_receipt_audits`. -/
structure AuditRow where
  audit : ReceiptAudit
  persistedAt : String
deriving DecidableEq

inductive ReceiptErr where
  | unavailable
  | nilReceipt
  | audit
  | auditConflict
  | parse
  | marshal
  | invalidObservation
  | commit
deriving DecidableEq

/-- Where the statements of `PersistReceiptAudit` fail. -/
inductive AuditFault where
  | insert
  | verify
deriving DecidableEq

/-- `PersistReceiptAudit`. -/
def persistReceiptAudit (audit : ReceiptAudit) (fault : Option AuditFault) (now : Instant)
    (audits : List AuditRow) : Except ReceiptErr Unit × List AuditRow :=
  if audit.transactionHash = zeroHash then (.error .unavailable, audits)
  else if fault = some .insert ∨ maxRowid < audit.blockNumber ∨ maxRowid < audit.receiptStatus then
    (.error .audit, audits)
  else
    let audits := if ∃ r ∈ audits, r.audit.transactionHash = audit.transactionHash then audits
      else audits ++ [⟨audit, formatRFC3339Nano now⟩]
    if fault = some .verify then (.error .audit, audits)
    else match audits.find? fun r => r.audit.transactionHash = audit.transactionHash with
      | none => (.error .audit, audits)
      | some r => (if r.audit = audit then .ok () else .error .auditConflict, audits)

inductive LoadErr where
  | offset
  | decode
deriving DecidableEq

/-- `LoadRegistrySnapshot`, and the registry that `Restore` makes of the result. -/
def loadRegistrySnapshot (parser : ParserHost σ) (db : FeedDb) : Except LoadErr (Option σ) :=
  match db.registrySnapshot with
  | none => .ok none
  | some row =>
      if db.progress.durableEventOffset < row.durableEventOffset then .error .offset
      else match parser.decode row.payloadJson with
        | none => .error .decode
        | some registry => .ok (some registry)

/-! ## `Process` -/

/-- `ReceiptResult`. -/
structure ReceiptResult where
  transactionHash : String
  blockNumber : Nat
  economicEvents : List Event

/-- The registry in memory and the tables of the feed. -/
structure ReceiptState (σ : Type) where
  registry : σ
  db : FeedDb := {}
  audits : List AuditRow := []

/-- The other writers of the feed store; a call may fail at any statement. -/
inductive StoreCall where
  | commitSequencer (observations : List (Observation × Nat)) (observedSequence : Nat)
      (now : Instant)
  | commitObservations (observations : List (Observation × Nat)) (now : Instant)
  | retract (reorg : Reorg) (lost : Nat → Nat) (now : Instant)
  | markDegraded (reason : String) (now : Instant)
  | clearDegraded (now : Instant)
  | failed (lost : List Nat)

def StoreCall.apply (host : FeedHost) (db : FeedDb) : StoreCall → FeedDb
  | .commitSequencer observations observedSequence now =>
      (Feed.commitSequencer host observations observedSequence now).stateAfter db
  | .commitObservations observations now =>
      (Feed.commitObservations host observations now).stateAfter db
  | .retract reorg lost now => (retractSequencerSequence host reorg lost now).stateAfter db
  | .markDegraded reason now =>
      { db with progress := { db.progress with
        degraded := true, degradedReason := some reason, updatedAt := formatRFC3339Nano now } }
  | .clearDegraded now =>
      { db with progress := { db.progress with
        degraded := false, degradedReason := none, updatedAt := formatRFC3339Nano now } }
  | .failed lost => { db with sequence := db.sequence + lost.sum }

/-- A call of `Process`: its arguments, what the parser does with the receipt, the faults of the
store, the calls of others between the audit and the commit, and the clock. -/
structure ProcessCall (σ : Type) where
  receipt : Option Receipt
  observedAt : Instant
  /-- The events and the registry after them, or an error. -/
  parsed : Option (List Event × σ)
  auditFault : Option AuditFault
  meanwhile : List StoreCall
  commitFault : Bool
  lost : Observation → Nat
  now : Instant

/-- `uint64` of the block number, zero if it has none. -/
def Receipt.block (r : Receipt) : Nat :=
  match r.blockNumber with
  | some n => if 0 ≤ n ∧ n < 2 ^ 64 then n.toNat else 0
  | none => 0

/-- The audit of a receipt. -/
def Receipt.audit (r : Receipt) : ReceiptAudit :=
  ⟨r.txHash, r.block, r.status,
    if r.status = receiptStatusSuccessful then "receipt_successful" else "receipt_reverted"⟩

/-- `ReceiptGate.Process`. -/
def gateProcess (call : ProcessCall σ) (s : ReceiptState σ) :
    Except ReceiptErr ReceiptResult × ReceiptState σ :=
  match call.receipt with
  | none => (.error .nilReceipt, s)
  | some receipt =>
      match persistReceiptAudit receipt.audit call.auditFault call.now s.audits with
      | (.error e, audits) => (.error e, { s with audits := audits })
      | (.ok (), audits) =>
          let s := { s with audits := audits }
          if receipt.status ≠ receiptStatusSuccessful then
            (.ok ⟨receipt.txHash, receipt.block, []⟩, s)
          else match call.parsed with
            | none => (.error .parse, s)
            | some (events, registry) =>
                (.ok ⟨receipt.txHash, receipt.block, events⟩, { s with registry := registry })

/-- The path of an event: `receipt/log/%06d/%s/%s`. -/
def Event.path (event : Event) : String :=
  "receipt/log/" ++ String.ofList (pad 6 event.logIndex) ++ "/" ++ event.protocol ++ "/" ++
    event.kind

/-- One round of the loop over the events. -/
def observe (host : FeedHost) (result : ReceiptResult) (observedAt : Instant) (event : Event) :
    Except ReceiptErr Observation :=
  match event.json with
  | none => .error .marshal
  | some payload =>
      let observation : Observation := ⟨4663, sourceRPC, result.blockNumber, result.transactionHash,
        event.path, payload, observedAt⟩
      if observation.Valid host then .ok observation else .error .invalidObservation

/-- `ReceiptProcessor.Process`. -/
def process (host : FeedHost) (parser : ParserHost σ) (call : ProcessCall σ) (s : ReceiptState σ) :
    Except ReceiptErr CommitResult × ReceiptState σ :=
  if call.observedAt = zeroInstant then (.error .unavailable, s)
  else
    let before := s.registry
    match gateProcess call s with
    | (.error e, s) => (.error e, s)
    | (.ok result, s) =>
        let s := { s with db := call.meanwhile.foldl (StoreCall.apply host) s.db }
        match result.economicEvents.mapM (observe host result call.observedAt) with
        | .error e => (.error e, { s with registry := before })
        | .ok observations =>
            match parser.encode s.registry with
            | none => (.error .commit, { s with registry := before })
            | some payload =>
                match commitReceipt host (observations.map fun o => (o, call.lost o)) payload
                  call.now
                    s.db with
                | .error _ => (.error .commit, { s with registry := before })
                | .ok (commit, db) =>
                    if call.commitFault then (.error .commit, { s with registry := before })
                    else (.ok commit, { s with db := db })

/-! ## Runs -/

inductive ReceiptAct (σ : Type) where
  | process (call : ProcessCall σ)
  | store (call : StoreCall)
  /-- The service stops and starts; it does not start if the snapshot does not load. -/
  | restart

def ReceiptState.step (host : FeedHost) (parser : ParserHost σ) (s : ReceiptState σ) :
    ReceiptAct σ → ReceiptState σ
  | .process call => (process host parser call s).2
  | .store call => { s with db := call.apply host s.db }
  | .restart =>
      match loadRegistrySnapshot parser s.db with
      | .error _ => s
      | .ok none => { s with registry := parser.initial }
      | .ok (some registry) => { s with registry := registry }

/-! ## Snapshots -/

variable {host : FeedHost} {parser : ParserHost σ} {db db' : FeedDb} {registry : σ}

/-- The registry is what a start of the service makes of the database. -/
structure Hydrates (parser : ParserHost σ) (db : FeedDb) (registry : σ) : Prop where
  offset : ∀ row ∈ db.registrySnapshot, row.durableEventOffset ≤ db.progress.durableEventOffset
  decoded : ∀ row ∈ db.registrySnapshot, parser.decode row.payloadJson = some registry
  fresh : db.registrySnapshot = none → registry = parser.initial

theorem Hydrates.load (h : Hydrates parser db registry) :
    ∃ loaded, loadRegistrySnapshot parser db = .ok loaded ∧
    loaded.getD parser.initial = registry := by
  unfold loadRegistrySnapshot
  cases hrow : db.registrySnapshot with
  | none => exact ⟨none, rfl, (h.fresh hrow).symm⟩
  | some row =>
      refine ⟨some registry, ?_, rfl⟩
      simp only [if_neg (Nat.not_lt.mpr (h.offset row hrow)), h.decoded row hrow]

/-- The snapshot stays as it is while the durable offset grows. -/
theorem Hydrates.mono (h : Hydrates parser db registry)
    (hsnapshot : db'.registrySnapshot = db.registrySnapshot)
    (hoffset : db.progress.durableEventOffset ≤ db'.progress.durableEventOffset) :
    Hydrates parser db' registry where
  offset row hrow := Nat.le_trans (h.offset row (hsnapshot ▸ hrow)) hoffset
  decoded row hrow := h.decoded row (hsnapshot ▸ hrow)
  fresh hnone := h.fresh (hsnapshot ▸ hnone)

section Store

variable {os : List (Observation × Nat)} {now : Instant} {result : CommitResult}

/-- The durable offset grows with every commit, and a snapshot has the one of its commit. -/
theorem commit_snapshot {observed : Option Nat} {snapshot : Option String}
    (h : commit host os observed snapshot now db = .ok (result, db')) :
    db.progress.durableEventOffset ≤ db'.progress.durableEventOffset ∧
      (snapshot = none → db'.registrySnapshot = db.registrySnapshot) ∧
      ∀ payload ∈ snapshot, ∃ row, db'.registrySnapshot = some row ∧ row.payloadJson = payload ∧
        row.durableEventOffset ≤ db'.progress.durableEventOffset := by
  obtain ⟨-, h⟩ := Tx.require_bind_ok.mp h
  obtain ⟨r, db₁, heach, h⟩ := Tx.bind_ok.mp h
  obtain ⟨hprogress, hsnapshot⟩ := commitEach_frame heach
  simp only [Tx.query_bind, Tx.require_bind_ok, Tx.exec_bind, Tx.pure_ok] at h
  obtain ⟨-, -, rfl⟩ := h
  refine ⟨?_, ?_, ?_⟩
  · rw [← hprogress]
    exact Nat.le_max_left _ _
  · rintro rfl
    exact hsnapshot
  · rintro payload rfl
    exact ⟨_, rfl, rfl, Nat.le_max_right _ _⟩

theorem commit_hydrates {observed : Option Nat} (h : Hydrates parser db registry) :
    Hydrates parser ((commit host os observed none now).stateAfter db) registry := by
  refine Tx.stateAfter_cases (fun db => Hydrates parser db registry) h fun result db' hok => ?_
  obtain ⟨hoffset, hsame, -⟩ := commit_snapshot hok
  exact h.mono (hsame rfl) hoffset

theorem retract_hydrates {reorg : Reorg} {lost : Nat → Nat} (h : Hydrates parser db registry) :
    Hydrates parser ((retractSequencerSequence host reorg lost now).stateAfter db) registry := by
  refine Tx.stateAfter_cases (fun db => Hydrates parser db registry) h fun k db' hok => ?_
  simp only [retractSequencerSequence, Tx.query_bind, id, Tx.require_bind_ok] at hok
  obtain ⟨-, hok⟩ := hok
  obtain ⟨r, db₁, heach, hok⟩ := Tx.bind_ok.mp hok
  simp only [Tx.require_bind_ok, Tx.exec_bind, Tx.pure_ok] at hok
  obtain ⟨-, -, rfl⟩ := hok
  obtain ⟨hprogress, hsnapshot⟩ := retractEach_frame heach
  refine h.mono hsnapshot ?_
  rw [← hprogress]
  exact Nat.le_max_left _ _

theorem StoreCall.apply_hydrates (h : Hydrates parser db registry) (call : StoreCall) :
    Hydrates parser (call.apply host db) registry := by
  cases call with
  | commitSequencer os n now => exact commit_hydrates h
  | commitObservations os now => exact commit_hydrates h
  | retract reorg lost now => exact retract_hydrates h
  | markDegraded reason now => exact h.mono rfl (Nat.le_refl _)
  | clearDegraded now => exact h.mono rfl (Nat.le_refl _)
  | failed lost => exact h.mono rfl (Nat.le_refl _)

/-- A snapshot is of the registry that it is committed with. -/
theorem commitReceipt_hydrates {payload : String} (hpayload : parser.encode registry = some payload)
    (hok : commitReceipt host os payload now db = .ok (result, db')) :
    Hydrates parser db' registry := by
  obtain ⟨-, -, hrow⟩ := commit_snapshot hok
  obtain ⟨row, hsome, rfl, hoffset⟩ := hrow payload rfl
  refine ⟨?_, ?_, ?_⟩
  · intro row' hrow'
    obtain rfl := Option.some.inj (hsome.symm.trans hrow')
    exact hoffset
  · intro row' hrow'
    obtain rfl := Option.some.inj (hsome.symm.trans hrow')
    exact parser.decode_encode _ _ hpayload
  · intro hnone
    rw [hsome] at hnone
    cases hnone

end Store

/-! ## What a call does -/

variable {s s' : ReceiptState σ} {call : ProcessCall σ}

/-- The database as the calls of others leave it, before or after those that come between. -/
def ProcessCall.Others (call : ProcessCall σ) (host : FeedHost) (s : ReceiptState σ) (db : FeedDb) :
    Prop :=
  db = s.db ∨ db = call.meanwhile.foldl (StoreCall.apply host) s.db

theorem gateProcess_error {e : ReceiptErr} (h : gateProcess call s = (.error e, s')) :
    s'.registry = s.registry ∧ s'.db = s.db := by
  unfold gateProcess at h
  split at h
  · cases h
    exact ⟨rfl, rfl⟩
  · split at h
    · cases h
      exact ⟨rfl, rfl⟩
    · dsimp only at h
      split at h
      · cases h
      · split at h <;> cases h
        exact ⟨rfl, rfl⟩

/-- The gate writes audits only, and lets the parser see successful receipts only. -/
theorem gateProcess_ok {result : ReceiptResult} (h : gateProcess call s = (.ok result, s')) :
    s'.db = s.db ∧ ∀ receipt ∈ call.receipt, receipt.status ≠ receiptStatusSuccessful →
      result.economicEvents = [] ∧ s'.registry = s.registry := by
  unfold gateProcess at h
  split at h
  · cases h
  · rename_i receipt hreceipt
    split at h
    · cases h
    · dsimp only at h
      split at h
      · cases h
        exact ⟨rfl, fun _ _ _ => ⟨rfl, rfl⟩⟩
      · rename_i hsuccessful
        split at h
        · cases h
        · cases h
          refine ⟨rfl, fun other hother hstatus => ?_⟩
          obtain rfl := Option.some.inj (hreceipt.symm.trans hother)
          exact absurd hstatus hsuccessful

/-- A call that fails leaves the registry and writes nothing. One that succeeds commits the events
of the receipt with the registry after them. -/
theorem process_cases (host : FeedHost) (parser : ParserHost σ) (call : ProcessCall σ)
    (s : ReceiptState σ) :
    (∃ e, (process host parser call s).1 = .error e ∧
      (process host parser call s).2.registry = s.registry ∧
      call.Others host s (process host parser call s).2.db) ∨
    ∃ result s' os payload commit db, gateProcess call s = (.ok result, s') ∧
      result.economicEvents.mapM (observe host result call.observedAt) = .ok os ∧
      parser.encode s'.registry = some payload ∧
      commitReceipt host (os.map fun o => (o, call.lost o)) payload call.now
        (call.meanwhile.foldl (StoreCall.apply host) s.db) = .ok (commit, db) ∧
      process host parser call s = (.ok commit, { s' with db := db }) := by
  generalize hout : process host parser call s = out
  unfold process at hout
  split at hout
  · cases hout
    exact .inl ⟨_, rfl, rfl, .inl rfl⟩
  · dsimp only at hout
    split at hout
    · rename_i e s' hgate
      cases hout
      obtain ⟨hregistry, hdb⟩ := gateProcess_error hgate
      exact .inl ⟨e, rfl, hregistry, .inl hdb⟩
    · rename_i result s' hgate
      rw [(gateProcess_ok hgate).1] at hout
      split at hout
      · cases hout
        exact .inl ⟨_, rfl, rfl, .inr rfl⟩
      · rename_i os hos
        split at hout
        · cases hout
          exact .inl ⟨_, rfl, rfl, .inr rfl⟩
        · rename_i payload hpayload
          split at hout
          · cases hout
            exact .inl ⟨_, rfl, rfl, .inr rfl⟩
          · rename_i commit db hcommit
            split at hout
            · cases hout
              exact .inl ⟨_, rfl, rfl, .inr rfl⟩
            · cases hout
              exact .inr ⟨result, s', os, payload, commit, db, hgate, hos, hpayload, hcommit, rfl⟩

/-- A receipt that is not successful is committed without events, with the registry as it was. -/
theorem process_reverted (host : FeedHost) (parser : ParserHost σ) (s : ReceiptState σ)
    {receipt : Receipt} (hreceipt : call.receipt = some receipt)
    (hstatus : receipt.status ≠ receiptStatusSuccessful) :
    (process host parser call s).2.registry = s.registry ∧
      ∃ db, call.Others host s db ∧ (process host parser call s).2.db.outbox = db.outbox := by
  rcases process_cases host parser call s with
    ⟨e, -, hregistry, hothers⟩ | ⟨result, s', os, payload, commit, db, hgate, hos, -, hcommit, hout⟩
  · exact ⟨hregistry, _, hothers, rfl⟩
  · obtain ⟨hevents, hregistry⟩ := (gateProcess_ok hgate).2 receipt hreceipt hstatus
    rw [hout]
    refine ⟨hregistry, _, .inr rfl, ?_⟩
    -- no events, no observations
    rw [hevents] at hos
    cases hos
    obtain ⟨-, hcommit⟩ := Tx.require_bind_ok.mp hcommit
    obtain ⟨r, db₁, heach, hcommit⟩ := Tx.bind_ok.mp hcommit
    obtain ⟨-, rfl⟩ := Tx.pure_ok.mp heach
    simp only [Tx.query_bind, Tx.require_bind_ok, Tx.exec_bind, Tx.pure_ok] at hcommit
    obtain ⟨-, -, rfl⟩ := hcommit
    rfl

/-! ## Every run -/

theorem meanwhile_hydrates (h : Hydrates parser db registry) (calls : List StoreCall) :
    Hydrates parser (calls.foldl (StoreCall.apply host) db) registry :=
  List.foldlRecOn (motive := fun db => Hydrates parser db registry) calls _ h fun _ hdb c _ =>
    StoreCall.apply_hydrates hdb c

theorem process_hydrates (h : Hydrates parser s.db s.registry) (call : ProcessCall σ) :
    Hydrates parser (process host parser call s).2.db (process host parser call s).2.registry := by
  rcases process_cases host parser call s with
    ⟨e, -, hregistry, hothers⟩ | ⟨result, s', os, payload, commit, db, -, -, hpayload, hcommit,
    hout⟩
  · rw [hregistry]
    rcases hothers with hdb | hdb
    · rw [hdb]
      exact h
    · rw [hdb]
      exact meanwhile_hydrates h call.meanwhile
  · rw [hout]
    exact commitReceipt_hydrates hpayload hcommit

theorem step_hydrates (h : Hydrates parser s.db s.registry) (a : ReceiptAct σ) :
    Hydrates parser (s.step host parser a).db (s.step host parser a).registry := by
  cases a with
  | process call => exact process_hydrates h call
  | store call => exact StoreCall.apply_hydrates h call
  | restart =>
      obtain ⟨loaded, hload, hregistry⟩ := h.load
      simp only [ReceiptState.step, hload]
      cases loaded with
      | none =>
          rw [← hregistry] at h
          exact h
      | some registry =>
          rw [← hregistry] at h
          exact h

/-- In every run of receipts, other commits, retractions and restarts, the snapshot of the database
loads and is the registry in memory, a call that fails leaves both, and a receipt that is not
successful changes neither the registry nor the outbox. -/
theorem registry_follows_snapshot (host : FeedHost) (parser : ParserHost σ)
    (acts : List (ReceiptAct σ)) :
    let s := acts.foldl (ReceiptState.step host parser) { registry := parser.initial }
    (∃ loaded, loadRegistrySnapshot parser s.db = .ok loaded ∧
      loaded.getD parser.initial = s.registry) ∧
    (∀ row ∈ s.db.registrySnapshot, row.durableEventOffset ≤ s.db.progress.durableEventOffset) ∧
    (∀ call e, (process host parser call s).1 = .error e →
      (process host parser call s).2.registry = s.registry ∧
        call.Others host s (process host parser call s).2.db) ∧
    ∀ call receipt, call.receipt = some receipt → receipt.status ≠ receiptStatusSuccessful →
      (process host parser call s).2.registry = s.registry ∧
        ∃ db, call.Others host s db ∧ (process host parser call s).2.db.outbox = db.outbox := by
  intro s
  have h : Hydrates parser s.db s.registry :=
    List.foldlRecOn (motive := fun s : ReceiptState σ => Hydrates parser s.db s.registry) acts _
      ⟨by simp, by simp, fun _ => rfl⟩ fun s hs a _ => step_hydrates hs a
  refine ⟨h.load, h.offset, ?_, fun call receipt => process_reverted host parser s⟩
  intro call e herror
  rcases process_cases host parser call s with ⟨_, -, hsame⟩ | ⟨_, _, _, _, _, _, -, -, -, -, hout⟩
  · exact hsame
  · rw [hout] at herror
    cases herror

/-! ### A receipt, and a commit that fails -/

/-- A parser whose registry is a text. -/
def textParser : ParserHost String := ⟨"", some, some, fun _ _ h => h.symm⟩

/-- A receipt with one event, which makes the registry the text. -/
def swapCall (registry : String) (commitFault : Bool) : ProcessCall String where
  receipt := some ⟨sampleHash, 1, some 5⟩
  observedAt := 1
  parsed := some ([⟨0, "amm", "swap", some "\x7b\x7d"⟩], registry)
  auditFault := none
  meanwhile := []
  commitFault := commitFault
  lost _ := 0
  now := 1

/-- The first call commits its registry with the event. The second one fails at its commit, and the
registry is what the first one left and what a restart loads. -/
theorem failed_commit_restores_registry :
    let s := [ReceiptAct.process (swapCall "pool" false)].foldl
      (ReceiptState.step sampleHost textParser) { registry := "" }
    let call := swapCall "other" true
    s.registry = "pool" ∧ s.db.outbox.length = 1 ∧
      (∃ loaded, loadRegistrySnapshot textParser s.db = .ok loaded ∧ loaded.getD "" = "pool") ∧
      (process sampleHost textParser call s).1.isOk = false ∧
      (process sampleHost textParser call s).2.registry = "pool" := by
  intro s call
  have hregistry : s.registry = "pool" := by decide +kernel
  have hfails : (process sampleHost textParser call s).1.isOk = false := by decide +kernel
  obtain ⟨hload, -, herror, -⟩ := registry_follows_snapshot sampleHost textParser
    [ReceiptAct.process (swapCall "pool" false)]
  refine ⟨hregistry, by decide +kernel, hregistry ▸ hload, hfails, ?_⟩
  cases hresult : (process sampleHost textParser call s).1 with
  | ok r =>
      rw [hresult] at hfails
      cases hfails
  | error e => exact (herror call e hresult).1.trans hregistry

end RbhTrade.Feed
