import RbhTrade.Store.ControlledSubmission

/-!
# Controlled workers on one database

Any number of controlled submission workers share the database. A worker's volatile state is a
program counter: the work it listed, the submission it has begun, the artifact it has loaded, and
whether its send intent is durable. Every action below is one committed transaction, one read, or
the death of a process; clock values and the answers of the broadcaster are arguments of the
actions and so are arbitrary. An action that is not enabled changes nothing.

The broadcaster call lies inside the send transaction. A send that dies after the call leaves the
database as it was, so the call itself is recorded in the ghost list `calls`, together with the
committed state it was made in and whether its outcome was committed.

`EnvWrite` is everything else that may be committed between two actions: lease takeovers, control
and authorization updates, and any change of the tables a send only reads. Permits and gate
snapshots change only as their triggers and unique indexes allow.
-/

namespace RbhTrade

open Tables GoTime

/-! ## Other writers -/

/-- A write committed by anyone but the controlled workers. -/
inductive EnvWrite where
  /-- Any change of the tables other than submissions, permits and gate snapshots. -/
  | others (new : Db)
  /-- A permit is inserted; the issuing statements write state `ISSUED`. -/
  | issuePermit (p : SendPermit)
  /-- A permit leaves `ISSUED`, the only state its trigger lets it leave. -/
  | closePermit (id : String) (state : PermitState) (stamp : String)
  /-- A gate snapshot is inserted. Snapshots are never updated or deleted. -/
  | recordGate (g : GateSnapshot)

def EnvWrite.apply (db : Db) : EnvWrite → Db
  | .others new => { new with
      submissions := db.submissions, permits := db.permits, gateSnapshots := db.gateSnapshots }
  | .issuePermit p =>
      match insertUnique SendPermit.Conflicts { p with state := .issued } db.permits with
      | some t => { db with permits := t }
      | none => db
  | .closePermit id state stamp => { db with
      permits := updateWhere (fun p => p.id = id ∧ p.state = .issued)
        (fun p => { p with state := state, consumedAt := some stamp }) db.permits }
  | .recordGate g =>
      match insertUnique GateSnapshot.Conflicts g db.gateSnapshots with
      | some t => { db with gateSnapshots := t }
      | none => db

/-! ## Workers -/

abbrev WorkerId := Nat

/-- A begun submission in the memory of a worker. -/
structure Claim where
  work : ControlledSubmissionWork
  snapshot : RuntimeGateSnapshot
  sub : SubmissionRecord

/-- Where a worker stands in `RunOnce`; the work it has not reached yet comes last. -/
inductive Pc where
  | idle
  | working (rest : List ControlledSubmissionWork)
  | begun (c : Claim) (rest : List ControlledSubmissionWork)
  | loaded (c : Claim) (a : SignedArtifact) (rest : List ControlledSubmissionWork)
  | marked (c : Claim) (a : SignedArtifact) (rest : List ControlledSubmissionWork)

/-- The submission a worker may still send. -/
def Pc.claim : Pc → Option Claim
  | .idle => none
  | .working _ => none
  | .begun c _ => some c
  | .loaded c _ _ => some c
  | .marked c _ _ => some c

/-- The submission whose send intent a worker has committed. -/
def Pc.intended : Pc → Option Claim
  | .marked c _ _ => some c
  | _ => none

/-- One call of `SendRawTransaction`: who made it, for which submission, at which clock value of
the lease check, in which committed state, and whether its outcome was committed. -/
structure Call where
  worker : WorkerId
  claim : Claim
  clock : Instant
  db : Db
  committed : Bool

structure System where
  db : Db
  pc : WorkerId → Pc
  calls : List Call

/-- A fresh database and idle workers. -/
def System.init : System := ⟨{}, fun _ => .idle, []⟩

def System.setPc (s : System) (w : WorkerId) (p : Pc) : System :=
  { s with pc := Function.update s.pc w p }

inductive Act where
  | list (w : WorkerId) (now : Instant)
  | begin (w : WorkerId) (item : ControlledSubmissionWork) (v : RuntimeGateSnapshot)
      (clock now : Instant)
  | load (w : WorkerId)
  | mark (w : WorkerId) (clock now : Instant)
  /-- `none` is a process that dies after the call and before the commit. -/
  | send (w : WorkerId) (clock now : Instant) (answer : Option Answer)
  | recover (w : WorkerId) (clock now : Instant)
  | crash (w : WorkerId)
  | environment (e : EnvWrite)

section Step

variable (host : Host) (fence : WorkerId → LeaseFence)

/-- The send transaction of a worker whose intent is durable. -/
def System.send (s : System) (w : WorkerId) (c : Claim) (a : SignedArtifact)
    (rest : List ControlledSubmissionWork) (clock now : Instant) (answer : Option Answer) :
    System :=
  match controlledSendGateTx host c.work c.snapshot c.sub a (fence w) clock now s.db with
  | .error _ => s.setPc w (.working rest)
  | .ok (false, db') => { s.setPc w (.working rest) with db := db' }
  | .ok (true, db₁) =>
      let call (committed : Bool) : Call := ⟨w, c, clock, s.db, committed⟩
      match answer with
      | none => { s.setPc w .idle with calls := call false :: s.calls }
      | some answer =>
          match controlledSendOutcomeTx host c.work c.sub a now answer db₁ with
          | .ok (_, db') =>
              { s.setPc w (.working rest) with db := db', calls := call true :: s.calls }
          | .error _ => { s.setPc w (.working rest) with calls := call false :: s.calls }

/-- One action. -/
def System.step (s : System) : Act → System
  | .list w now =>
      match s.pc w with
      | .idle => s.setPc w (.working (listControlledSubmissionWork s.db now))
      | _ => s
  | .begin w item v clock now =>
      match s.pc w with
      | .working items =>
          if item ∈ items then
            match beginControlledSubmissionAfterGate host v item (fence w) clock now s.db with
            | .ok (sub, db') =>
                { s.setPc w (.begun ⟨item, v, sub⟩ (items.erase item)) with db := db' }
            | .error _ => s.setPc w (.working (items.erase item))
          else s
      | _ => s
  | .load w =>
      match s.pc w with
      | .begun c rest =>
          match loadControlledArtifact host c.work s.db with
          | some a => s.setPc w (.loaded c a rest)
          | none => s.setPc w (.working rest)
      | _ => s
  | .mark w clock now =>
      match s.pc w with
      | .loaded c a rest =>
          match markControlledSendIntent host c.work c.snapshot c.sub (fence w) clock now s.db with
          | .ok (_, db') => { s.setPc w (.marked c a rest) with db := db' }
          | .error _ => s.setPc w (.working rest)
      | _ => s
  | .send w clock now answer =>
      match s.pc w with
      | .marked c a rest => s.send host fence w c a rest clock now answer
      | _ => s
  | .recover w clock now =>
      { s with db := (recoverControlledInflight (fence w) clock now).stateAfter s.db }
  | .crash w => s.setPc w .idle
  | .environment e => { s with db := e.apply s.db }

/-- The state after a sequence of actions on a fresh system. -/
def System.run (acts : List Act) : System := acts.foldl (System.step host fence) System.init

end Step

end RbhTrade
