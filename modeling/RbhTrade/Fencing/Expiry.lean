import RbhTrade.Fencing.Leases
import RbhTrade.Store.Permits

/-!
# Expiries of permits and authorizations

Every statement that looks at the expiry of a permit or of an authorization compares the stored text
with the text of the caller's time. The two orders agree unless one of the two times is the other
cut off in its fraction, as `00:00:00Z` is `00:00:00.5Z` cut off: `Z` sorts after any digit and
after the point, so the earlier of the two has the later text. Away from such pairs the statements
do what their names say, and at such pairs they do not; `expired_permit_consumed` is one.
-/

namespace RbhTrade.Fencing

open Tables GoTime

section Texts

variable {now e : Instant}

end Texts

/-! ## Consuming, issuing and arming -/

/-- The permits and authorizations that the schema and the writers admit: one row an identifier, one
armed authorization for a wallet and an environment, every permit under an authorization, and the
hash of its artifact in lower case. -/
structure PermitTables (host : Host) (db : Db) : Prop where
  keys : PermitKeys db.permits
  authorizations : NoConflict (fun x y => x.id = y.id) db.authorizations
  armed : ArmedOnce db.authorizations
  authorization : ∀ p ∈ db.permits, ∃ a ∈ db.authorizations,
    a.id = p.authorizationId ∧ a.epoch = p.authorizationEpoch
  lowered : ∀ p ∈ db.permits, ∃ hash, p.artifactHash = host.toLower hash

section Laws

variable {host : Host} {db db' : Db} {now : Instant} {p : SendPermit} {a : RuntimeAuthorization}

/-- Some call at the given time consumes the permit. -/
def Consumed (host : Host) (db : Db) (p : SendPermit) (now : Instant) : Prop :=
  ∃ db' : Db, p ∉ db'.permits ∧
    ((∃ v work lease clock sub,
        beginControlledSubmissionAfterGate host v work lease clock now db = .ok (sub, db')) ∨
      (∃ v r permitId purpose artifactHash,
        consumeCanaryPermitAfterGate host v r permitId purpose artifactHash now db =
          .ok ((), db')) ∨
      ∃ id purpose artifactHash,
        consumeSendPermit host id purpose artifactHash now db = .ok ((), db'))

/-- Some call at the given time arms the authorization. -/
def Armed (db : Db) (a : RuntimeAuthorization) (now : Instant) : Prop :=
  ∃ id source db', transitionRuntimeAuthorization id source .armed now db = .ok ((), db') ∧
    a ∉ db'.authorizations

/-- The authorization is pending, and none of its wallet and environment is armed. -/
def Armable (db : Db) (a : RuntimeAuthorization) : Prop :=
  a.state = .pending ∧ a.id ≠ "" ∧ ∀ x ∈ db.authorizations, x.state = .armed →
    x.deployment.environment = a.deployment.environment → x.walletId ≠ a.walletId

/-- Some call at the given time issues a permit under the authorization. -/
def IssuedUnder (host : Host) (db : Db) (a : RuntimeAuthorization) (now : Instant) : Prop :=
  ∃ v p db', p.issuedAt = now ∧ p.authorizationId = a.id ∧
    issueCanaryPermitAfterGate host v p db = .ok ((), db')

/-- `expireControlledSendPermits` commits and leaves the permit expired. -/
def Expires (host : Host) (db : Db) (p : SendPermit) (now : Instant) : Prop :=
  ∃ db', expireControlledSendPermits host now db = .ok ((), db') ∧
    ∃ q ∈ db'.permits, q.id = p.id ∧ q.state = .expired

theorem Consumed.live (h : Consumed host db p now) (hp : p ∈ db.permits) :
    p.state = .issued ∧ formatRFC3339Nano now < p.expiresAt := by
  obtain ⟨db', hgone, ⟨v, work, lease, clock, sub, hok⟩ | ⟨v, r, id, purpose, hash, hok⟩ |
    ⟨id, purpose, hash, hok⟩⟩ := h
  · exact (of_not_mem_updateWhere (beginControlledSubmissionAfterGate_ok hok).permits hp
      hgone).2.2.2
  · exact (of_not_mem_updateWhere
      (congrArg Db.permits (consumeCanaryPermitAfterGate_ok hok)) hp hgone).2.2.2.2
  · exact (of_not_mem_updateWhere (consumeSendPermit_ok hok) hp hgone).2.2.2

theorem Armed.live (h : Armed db a now) (ht : PermitTables host db) (ha : a ∈ db.authorizations) :
    Armable db a ∧ formatRFC3339Nano now < a.expiresAt := by
  obtain ⟨id, source, db', hok, hgone⟩ := h
  simp only [transitionRuntimeAuthorization, Tx.require_bind_ok, Tx.query_bind, Tx.exec_bind,
    Tx.require_ok] at hok
  obtain ⟨⟨hid, -, hmay⟩, honce, -, rfl⟩ := hok
  have hc : a.Transitions id source .armed (formatRFC3339Nano now) :=
    of_not_mem_updateWhere rfl ha hgone
  have hsource : source = .pending := by
    obtain ⟨hs, -⟩ | ⟨-, ht | ht | ht⟩ := hmay
    · exact hs
    all_goals cases ht
  have hpending : a.state = .pending := hc.2.1.trans hsource
  refine ⟨⟨hpending, hc.1 ▸ hid, fun x hx harmed henv hwallet => ?_⟩, hc.2.2 rfl⟩
  -- The armed row is not the updated one, and after the update the two would share the index.
  have hkept := mem_updateWhere_of_not (f := fun a : RuntimeAuthorization =>
    { a with state := .armed })
    hx fun hxc : x.Transitions id source .armed (formatRFC3339Nano now) => by
      rw [hxc.2.1, hsource] at harmed
      cases harmed
  have heq := NoConflict.eq honce (fun _ _ h => ⟨h.2.1, h.1, h.2.2.1.symm, h.2.2.2.symm⟩) hkept
    (mem_updateWhere_of_pos ha hc) ⟨harmed, rfl, henv, hwallet⟩
  have hsame := NoConflict.eq ht.authorizations (fun _ _ h => h.symm) hx ha (heq ▸ rfl)
  rw [hsame, hpending] at harmed
  cases harmed

theorem IssuedUnder.live (h : IssuedUnder host db a now) (ht : PermitTables host db)
    (ha : a ∈ db.authorizations) : formatRFC3339Nano now < a.expiresAt := by
  obtain ⟨v, p, db', hissue, hid, hok⟩ := h
  obtain ⟨⟨b, hb, hbid, -, -, hlt⟩, -⟩ := issueCanaryPermitAfterGate_ok hok
  obtain rfl := NoConflict.eq ht.authorizations (fun _ _ h => h.symm) hb ha (hbid.trans hid)
  exact hissue ▸ hlt

end Laws

/-! ### A second shared by the expiry and the call -/

end RbhTrade.Fencing
