import RbhTrade.Lib.Tables
import RbhTrade.Lib.Transaction
import RbhTrade.Store.ManualMath

/-!
# The lifecycle journal of MANUAL requests

`manual_lifecycle_events` has one row for every audit row of a MANUAL request, under a cursor that
counts on from the sequence of the request's intake. Triggers write it: the intake writes its audit
row, and an audit row writes the event. Audit rows, sources and events are never changed or removed.
-/

namespace RbhTrade.Lifecycle

open Tables

/-! ## Rows -/

/-- The columns of `manual_http_order_sources` that the journal reads. -/
structure Source where
  sequence : Nat
  id : String
  principalId : String
  walletId : String
  walletAddress : String
  operationId : String
  createdAt : String
deriving DecidableEq

/-- The columns of `canary_runtime_audit` that the journal reads. -/
structure Audit where
  id : String
  eventType : String
  operationId : Option String
  reasonCode : String
  createdAt : String
deriving DecidableEq

/-- `manual_lifecycle_events`. -/
structure LifecycleEvent where
  requestId : String
  cursor : Nat
  auditId : String
  eventType : String
  reasonCode : String
  createdAt : String
deriving DecidableEq

/-- The tables, with the identifiers of the operations and the largest sequence that was given. -/
structure JournalDb where
  operations : List String := []
  sources : List Source := []
  audits : List Audit := []
  events : List LifecycleEvent := []
  sequence : Nat := 0
deriving DecidableEq

def intakeId (request : String) : String := "manual-http-audit:" ++ request

/-- The audit rows of a request. -/
def Source.Owns (s : Source) (a : Audit) : Prop :=
  a.operationId = some s.operationId ∨ a.id = intakeId s.id
deriving Decidable

/-- The events of a request. -/
def JournalDb.eventsOf (db : JournalDb) (request : String) : List LifecycleEvent :=
  db.events.filter fun e => e.requestId = request

/-! ## The triggers -/

/-- `COALESCE((SELECT MAX(e.cursor)+1 …), src.sequence)`. -/
def JournalDb.nextCursor (db : JournalDb) (s : Source) : Nat :=
  match ((db.eventsOf s.id).map LifecycleEvent.cursor).max? with
  | some n => n + 1
  | none => s.sequence

/-- The event of an audit row. -/
def Source.event (s : Source) (cursor : Nat) (a : Audit) : LifecycleEvent :=
  ⟨s.id, cursor, a.id, a.eventType, a.reasonCode, a.createdAt⟩

/-- The INSERT of an event, with `manual_lifecycle_source` and the constraints of the table. The
rest of that trigger holds of the row which `manual_lifecycle_audit` inserts. -/
def insertLifecycleEvent (s : Source) (a : Audit) : Tx ManualErr JournalDb Unit := do
  let db ← Tx.query id
  let e := s.event (db.nextCursor s) a
  Tx.require ((∀ x ∈ db.events, x.auditId ≠ e.auditId ∧
    ¬ (x.requestId = e.requestId ∧ x.cursor = e.cursor)) ∧ 0 < e.cursor) .sql
  Tx.exec fun db => { db with events := db.events ++ [e] }

/-- `INSERT INTO manual_lifecycle_events … SELECT … FROM manual_http_order_sources`. -/
def insertLifecycleEvents (a : Audit) : List Source → Tx ManualErr JournalDb Unit
  | [] => pure ()
  | s :: rest => do
      insertLifecycleEvent s a
      insertLifecycleEvents a rest

/-- `INSERT INTO canary_runtime_audit` with `manual_lifecycle_audit`; the operation is a foreign
key. -/
def insertAudit (a : Audit) : Tx ManualErr JournalDb Unit := do
  let db ← Tx.query id
  Tx.require ((∀ x ∈ db.audits, x.id ≠ a.id) ∧ ∀ o ∈ a.operationId, o ∈ db.operations) .sql
  Tx.exec fun db => { db with audits := db.audits ++ [a] }
  insertLifecycleEvents a (db.sources.filter fun s => s.Owns a)

/-- The audit row of an intake. -/
def Source.intake (s : Source) : Audit :=
  ⟨intakeId s.id, "MANUAL_HTTP_ORDER_RECORDED", none, "VALIDATION_NOT_CONNECTED", s.createdAt⟩

/-- The INSERTs of `RecordManual`: the operation, then the source with `manual_http_source_audit`.
The sequence is given by AUTOINCREMENT, which may lose some. -/
def recordSource (s : Source) (lost : Nat) : Tx ManualErr JournalDb Unit := do
  let db ← Tx.query id
  let s := { s with sequence := db.sequence + lost + 1 }
  Tx.require (s.operationId ∉ db.operations) .sql
  Tx.require (∀ x ∈ db.sources, x.id ≠ s.id ∧ x.operationId ≠ s.operationId) .sql
  Tx.exec fun db => { db with
    operations := db.operations ++ [s.operationId],
    sources := db.sources ++ [s],
    sequence := s.sequence }
  insertAudit s.intake

/-! ## Pages -/

structure Identity where
  principalId : String
  walletId : String
  walletAddress : String
deriving DecidableEq

/-- `Event`. -/
structure Event where
  cursor : Nat
  type : String
  reason : String
  createdAt : String
deriving DecidableEq

/-- `Events`, without its constant scope. -/
structure Events where
  events : List Event
  nextCursor : Nat
deriving DecidableEq

def LifecycleEvent.toEvent (e : LifecycleEvent) : Event :=
  ⟨e.cursor, e.eventType, e.reasonCode, e.createdAt⟩

/-- The event does not agree with the audit row. -/
def Source.Differs (s : Source) (e : LifecycleEvent) (a : Audit) : Prop :=
  ¬ s.Owns a ∨ e.eventType ≠ a.eventType ∨ e.reasonCode ≠ a.reasonCode ∨ e.createdAt ≠ a.createdAt
deriving Decidable

/-- The query of `manualLifecycleEvents` for entries that are missing or do not match. -/
def JournalDb.Corrupt (db : JournalDb) (s : Source) : Prop :=
  let events := db.eventsOf s.id
  let cursors := events.map LifecycleEvent.cursor
  (¬ ∃ e ∈ events, e.cursor = s.sequence ∧ e.auditId = intakeId s.id) ∨
    (∃ a ∈ db.audits, s.Owns a ∧ ∀ e ∈ events, e.auditId ≠ a.id) ∨
    (∃ e ∈ events, (∀ a ∈ db.audits, a.id ≠ e.auditId) ∨
      ∃ a ∈ db.audits, a.id = e.auditId ∧ s.Differs e a) ∨
    (∃ low ∈ cursors.min?, ∃ high ∈ cursors.max?, (events.length : Int) ≠ high - low + 1) ∨
    ∃ low ∈ cursors.min?, low ≠ s.sequence
deriving Decidable

def manualLifecyclePageSize : Nat := 100

/-- The functions outside this development: `common.IsHexAddress` and `common.HexToAddress`. -/
structure AddressHost where
  isHexAddress : String → Bool
  hexToAddress : String → String

/-- The source of a request, if it belongs to the identity. -/
def JournalDb.owned (host : AddressHost) (db : JournalDb) (identity : Identity) (request : String) :
    Option Source :=
  selectRow (fun s => s.id = request ∧ s.principalId = identity.principalId ∧
    s.walletId = identity.walletId ∧ host.isHexAddress s.walletAddress = true ∧
    host.hexToAddress s.walletAddress = host.hexToAddress identity.walletAddress) db.sources

/-- `manualLifecycleEvents`. The rows of a request are kept in the order of their cursors. -/
def manualLifecycleEvents (host : AddressHost) (db : JournalDb) (identity : Identity)
    (request : String) (after : Nat) : Except ManualErr Events :=
  match db.owned host identity request with
  | none => .error .notFound
  | some s =>
      if db.Corrupt s then .error .conflict
      else
        let page := ((db.eventsOf request).filter fun e => after < e.cursor).take
          manualLifecyclePageSize
        .ok { events := page.map LifecycleEvent.toEvent,
              nextCursor := (page.map LifecycleEvent.cursor).getLastD after }

end RbhTrade.Lifecycle
