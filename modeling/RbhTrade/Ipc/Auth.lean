import Mathlib.Data.List.Nodup
import RbhTrade.Lib.GoTime
import RbhTrade.Lib.Joined
import RbhTrade.Lib.Run

/-!
# Authentication between the services

`Authenticator` of package `ipc`: a request carries a timestamp, a nonce, the hash of its body and a
signature over these, its method and its URI. `Verify` accepts a timestamp at most one window away
from the clock, on either side, and remembers the nonce until one window after the clock. So a
request whose timestamp is not before the clock outlives the memory of its nonce, and is accepted
twice. Where each accepted request is older than the clock, no nonce is accepted twice.
-/

namespace RbhTrade.Ipc

open GoTime Joined

/-! ## The model -/

/-- The functions outside this development: the hash of a body and the signature of a message, both
in hexadecimal, and `strings.ToLower`. -/
structure AuthHost where
  sha256 : List UInt8 → String
  hmac : String → String → String
  toLower : String → String

/-- The parts of a request that `Verify` reads. An absent header is empty; a body that cannot be
read to its end is `none`. -/
structure Request where
  method : String
  uri : String
  timestamp : String
  nonce : String
  bodyHash : String
  signature : String
  body : Option (List UInt8)
deriving DecidableEq

/-- The errors of `Verify`, in the order of its checks. -/
inductive AuthErr where
  | headers
  | timestamp
  | unreadable
  | bodyLimit
  | bodyHash
  | signature
  | replayed
deriving DecidableEq

/-- `strconv.ParseInt(text, 10, 64)`. -/
def parseInt64 (text : String) : Option Int :=
  match Decimal.bigInt? text with
  | some n => if -2 ^ 63 ≤ n ∧ n < 2 ^ 63 then some n else none
  | none => none

/-- `time.Unix(seconds, 0)`. Go counts the seconds from the year one in 64 bits. -/
def unixTime (seconds : Int) : Instant :=
  let internal := (seconds + 62135596800 + 2 ^ 63) % 2 ^ 64 - 2 ^ 63
  (internal - 62135596800) * nanosPerSecond

/-- `Authenticator`. -/
structure Authenticator where
  secret : String
  window : Int
  seen : List (String × Instant) := []
deriving DecidableEq

/-- The parts that are signed. -/
def Request.parts (host : AuthHost) (r : Request) : List String :=
  [r.method, r.uri, r.timestamp, r.nonce, host.toLower r.bodyHash]

/-- The text that `signature` signs: the parts of a request, one a line. -/
def Request.message (host : AuthHost) (r : Request) : String := join '\n' (r.parts host)

/-- `claimNonce`. -/
def Authenticator.claimNonce (a : Authenticator) (nonce : String) (now : Instant) :
    Except AuthErr Unit × Authenticator :=
  let a := { a with seen := a.seen.filter fun x => now < x.2 }
  if nonce ∈ a.seen.map Prod.fst then (.error .replayed, a)
  else (.ok (), { a with seen := (nonce, now + a.window) :: a.seen })

/-- The checks of `Verify` before the nonce. -/
def Authenticator.check (host : AuthHost) (a : Authenticator) (now : Instant) (r : Request) :
    Except AuthErr Unit :=
  match parseInt64 r.timestamp with
  | none => .error .headers
  | some unix =>
      if r.nonce = "" ∨ host.toLower r.bodyHash = "" ∨ host.toLower r.signature = "" then
        .error .headers
      else if unixTime unix < now - a.window ∨ now + a.window < unixTime unix then
        .error .timestamp
      else
        match r.body with
        | none => .error .unreadable
        | some body =>
            if 2 ^ 20 < body.length then .error .bodyLimit
            else if host.toLower r.bodyHash ≠ host.sha256 body then .error .bodyHash
            else if host.toLower r.signature ≠ host.hmac a.secret (r.message host) then
              .error .signature
            else .ok ()

/-- `Verify` at a reading of the clock. -/
def Authenticator.verify (host : AuthHost) (a : Authenticator) (now : Instant) (r : Request) :
    Except AuthErr Unit × Authenticator :=
  match a.check host now r with
  | .error e => (.error e, a)
  | .ok () => a.claimNonce r.nonce now

/-! ## Presentations in turn -/

/-- A request presented at a reading of the clock. -/
abbrev Presentation := Instant × Request

/-- An authenticator and the presentations it has accepted, the last one first. -/
structure State where
  auth : Authenticator
  accepted : List Presentation := []

/-- The presentation is accepted. -/
def State.Accepts (host : AuthHost) (s : State) (p : Presentation) : Prop :=
  (s.auth.verify host p.1 p.2).1 = .ok ()
deriving Decidable

def State.step (host : AuthHost) (s : State) (p : Presentation) : State :=
  { auth := (s.auth.verify host p.1 p.2).2,
    accepted := if s.Accepts host p then p :: s.accepted else s.accepted }

/-- An authenticator from `NewAuthenticator` that is presented with requests in turn. -/
def run (host : AuthHost) (secret : String) (window : Int) (ps : List Presentation) : State :=
  ps.foldl (State.step host) { auth := { secret := secret, window := window } }

/-! ## Signed requests -/

/-- The request carries the signature of the secret. -/
def Request.Signed (host : AuthHost) (secret : String) (r : Request) : Prop :=
  host.toLower r.signature = host.hmac secret (r.message host)

/-- The signature cannot be forged: a request that carries it has the message of one that the
holders of the secret signed, they sign no two with one nonce, and no part of a request holds a line
break. -/
structure Unforgeable (host : AuthHost) (secret : String) (issued : List Request)
    (ps : List Presentation) : Prop where
  signed : ∀ p ∈ ps, p.2.Signed host secret → ∃ r ∈ issued, p.2.message host = r.message host
  fresh : (issued.map Request.nonce).Nodup
  presented : ∀ p ∈ ps, ∀ x ∈ p.2.parts host, Plain '\n' x
  issued : ∀ r ∈ issued, ∀ x ∈ r.parts host, Plain '\n' x

variable {host : AuthHost} {secret : String} {issued : List Request} {ps : List Presentation}

/-- Signed requests of one nonce have one timestamp. -/
theorem Unforgeable.timestamp_eq (h : Unforgeable host secret issued ps) {p q : Presentation}
    (hp : p ∈ ps) (hq : q ∈ ps) (hps : p.2.Signed host secret) (hqs : q.2.Signed host secret)
    (hn : p.2.nonce = q.2.nonce) : p.2.timestamp = q.2.timestamp := by
  -- A presented request has the parts of an issued one.
  have hparts : ∀ x ∈ ps, x.2.Signed host secret → ∃ r ∈ issued, x.2.parts host = r.parts host := by
    intro x hx hxs
    obtain ⟨r, hr, hmsg⟩ := h.signed x hx hxs
    exact ⟨r, hr, join_inj (List.cons_ne_nil _ _) (List.cons_ne_nil _ _) (h.presented x hx)
      (h.issued r hr) hmsg⟩
  obtain ⟨r, hr, hpr⟩ := hparts p hp hps
  obtain ⟨r', hr', hqr⟩ := hparts q hq hqs
  simp only [Request.parts, List.cons.injEq] at hpr hqr
  obtain rfl : r = r' :=
    List.inj_on_of_nodup_map h.fresh hr hr' (hpr.2.2.2.1.symm.trans (hn.trans hqr.2.2.2.1))
  exact hpr.2.2.1.trans hqr.2.2.1.symm

/-! ## What an acceptance says -/

/-- The time that a request carries. -/
def Request.time (r : Request) : Option Instant := (parseInt64 r.timestamp).map unixTime

variable {a : Authenticator} {now : Instant}

theorem check_ok {r : Request} (h : a.check host now r = .ok ()) :
    (∃ t, r.time = some t ∧ now - a.window ≤ t) ∧ r.Signed host a.secret := by
  unfold Authenticator.check at h
  cases ht : parseInt64 r.timestamp with
  | none => simp [ht] at h
  | some unix =>
      simp only [ht] at h
      split at h
      · cases h
      split at h
      · cases h
      · rename_i hwindow
        cases hb : r.body with
        | none => simp [hb] at h
        | some body =>
            simp only [hb] at h
            split at h
            · cases h
            split at h
            · cases h
            split at h
            · cases h
            · rename_i hsig
              refine ⟨⟨unixTime unix, by simp [Request.time, ht], ?_⟩, not_not.mp hsig⟩
              exact Int.not_lt.mp fun hlt => hwindow (.inl hlt)

theorem verify_ok {r : Request} (h : (a.verify host now r).1 = .ok ()) :
    a.check host now r = .ok () ∧ ∀ x ∈ a.seen, x.1 = r.nonce → x.2 ≤ now := by
  unfold Authenticator.verify at h
  cases hc : a.check host now r with
  | error e => simp [hc] at h
  | ok u =>
      simp only [hc, Authenticator.claimNonce] at h
      split at h
      · cases h
      · rename_i hnew
        refine ⟨rfl, fun x hx hxn => Int.not_lt.mp fun hlt => hnew ?_⟩
        exact List.mem_map.mpr ⟨x, List.mem_filter.mpr ⟨hx, by simpa using hlt⟩, hxn⟩

theorem verify_window (host : AuthHost) (a : Authenticator) (now : Instant) (r : Request) :
    (a.verify host now r).2.window = a.window ∧ (a.verify host now r).2.secret = a.secret := by
  unfold Authenticator.verify Authenticator.claimNonce
  split
  · exact ⟨rfl, rfl⟩
  · simp only
    split
    · exact ⟨rfl, rfl⟩
    · exact ⟨rfl, rfl⟩

/-- A nonce in memory stays there until its time has come. -/
theorem verify_keeps {r : Request} {x : String × Instant} (hx : x ∈ a.seen) (hnow : now < x.2) :
    x ∈ (a.verify host now r).2.seen := by
  have hkept : x ∈ a.seen.filter fun x => now < x.2 := List.mem_filter.mpr ⟨hx, by simpa using hnow⟩
  unfold Authenticator.verify Authenticator.claimNonce
  split
  · exact hx
  · simp only
    split
    · exact hkept
    · exact List.mem_cons_of_mem _ hkept

/-- An accepted nonce is in memory for one window. -/
theorem verify_remembers {r : Request} (h : (a.verify host now r).1 = .ok ()) :
    (r.nonce, now + a.window) ∈ (a.verify host now r).2.seen := by
  have hc := (verify_ok h).1
  unfold Authenticator.verify Authenticator.claimNonce at h ⊢
  simp only [hc] at h ⊢
  split
  · rename_i hseen
    simp [hseen] at h
  · exact List.mem_cons_self

/-! ## Every nonce once -/

/-- The presentation is not accepted, or its request is older than the clock. -/
def Older (host : AuthHost) (s : State) (p : Presentation) : Prop :=
  s.Accepts host p → ∃ t ∈ p.2.time, t < p.1
deriving Decidable

/-- An accepted nonce is in memory, or its window has passed for every presentation to come. -/
structure Inv (host : AuthHost) (key : String) (span : Int) (s : State) (rest : List Presentation) :
    Prop where
  secret : s.auth.secret = key
  window : s.auth.window = span
  nodup : (s.accepted.map fun p => p.2.nonce).Nodup
  signed : ∀ p ∈ s.accepted, p.2.Signed host key
  older : ∀ p ∈ s.accepted, ∃ t ∈ p.2.time, t < p.1
  remembered : ∀ p ∈ s.accepted, (p.2.nonce, p.1 + span) ∈ s.auth.seen ∨
    ∀ q ∈ rest, p.1 + span ≤ q.1

variable {window : Int} {s : State} {p : Presentation} {rest : List Presentation}

/-- The nonce of an accepted presentation is not accepted again. -/
theorem Inv.nonce_ne (h : Inv host secret window s (p :: rest))
    (hu : ∀ q ∈ s.accepted, p.2.Signed host secret → q.2.nonce = p.2.nonce →
      q.2.timestamp = p.2.timestamp)
    (ha : s.Accepts host p) {q : Presentation} (hq : q ∈ s.accepted) : q.2.nonce ≠ p.2.nonce := by
  intro hn
  obtain ⟨hcheck, hseen⟩ := verify_ok ha
  obtain ⟨⟨t, ht, hlow⟩, hsigned⟩ := check_ok hcheck
  rw [h.secret] at hsigned
  rw [h.window] at hlow
  -- Both carry one time, which is before the earlier acceptance.
  obtain ⟨t', ht', hlt⟩ := h.older q hq
  have htime : q.2.time = p.2.time := by
    rw [Request.time, hu q hq hsigned hn, Request.time]
  obtain rfl : t' = t := Option.some.inj ((ht'.symm.trans htime).trans ht)
  have hnow : p.1 < q.1 + window := by
    have hle : p.1 ≤ t' + window := Int.le_add_of_sub_right_le hlow
    exact Int.lt_of_le_of_lt hle (Int.add_lt_add_right hlt window)
  obtain hmem | hpast := h.remembered q hq
  · exact absurd (hseen _ hmem hn) (Int.not_le.mpr hnow)
  · exact absurd (hpast p List.mem_cons_self) (Int.not_le.mpr hnow)

theorem Inv.step (h : Inv host secret window s (p :: rest))
    (hu : ∀ q ∈ s.accepted, p.2.Signed host secret → q.2.nonce = p.2.nonce →
      q.2.timestamp = p.2.timestamp)
    (hold : Older host s p) (hclock : ∀ q ∈ rest, p.1 ≤ q.1) :
    Inv host secret window (s.step host p) rest := by
  obtain ⟨hwindow, hsecret⟩ := verify_window host s.auth p.1 p.2
  -- What was in memory is still there, or the clock has reached its end.
  have hkept : ∀ q ∈ s.accepted, (q.2.nonce, q.1 + window) ∈ (s.step host p).auth.seen ∨
      ∀ r ∈ rest, q.1 + window ≤ r.1 := by
    intro q hq
    obtain hmem | hpast := h.remembered q hq
    · by_cases hnow : p.1 < q.1 + window
      · exact .inl (verify_keeps hmem hnow)
      · exact .inr fun r hr => Int.le_trans (Int.not_lt.mp hnow) (hclock r hr)
    · exact .inr fun r hr => hpast r (List.mem_cons_of_mem _ hr)
  by_cases ha : s.Accepts host p
  · have hacc : (s.step host p).accepted = p :: s.accepted := if_pos ha
    have hsigned : p.2.Signed host secret := h.secret ▸ (check_ok (verify_ok ha).1).2
    refine ⟨hsecret.trans h.secret, hwindow.trans h.window, ?_, ?_, ?_, ?_⟩
    · rw [hacc, List.map_cons, List.nodup_cons]
      refine ⟨fun hmem => ?_, h.nodup⟩
      obtain ⟨q, hq, hn⟩ := List.mem_map.mp hmem
      exact h.nonce_ne hu ha hq hn
    · rw [hacc]
      exact List.forall_mem_cons.mpr ⟨hsigned, h.signed⟩
    · rw [hacc]
      exact List.forall_mem_cons.mpr ⟨hold ha, h.older⟩
    · rw [hacc]
      refine List.forall_mem_cons.mpr ⟨.inl ?_, hkept⟩
      have hmem := verify_remembers ha
      rw [h.window] at hmem
      exact hmem
  · have hacc : (s.step host p).accepted = s.accepted := if_neg ha
    refine ⟨hsecret.trans h.secret, hwindow.trans h.window, ?_, ?_, ?_, ?_⟩
    · exact hacc ▸ h.nodup
    · exact hacc ▸ h.signed
    · exact hacc ▸ h.older
    · exact hacc ▸ hkept

theorem Inv.foldl (h : Inv host secret window s rest) (hu : Unforgeable host secret issued ps)
    (hacc : ∀ q ∈ s.accepted, q ∈ ps) (hrest : ∀ q ∈ rest, q ∈ ps)
    (hclock : rest.Pairwise fun p q => p.1 ≤ q.1)
    (hold : Run.Along (State.step host) (Older host) s rest) :
    Inv host secret window (rest.foldl (State.step host) s) [] := by
  induction rest generalizing s with
  | nil => exact h
  | cons p rest ih =>
      have hp := hrest p List.mem_cons_self
      have hstep := h.step (fun q hq hs hn => hu.timestamp_eq (hacc q hq) hp (h.signed q hq) hs hn)
        hold.1 (List.pairwise_cons.mp hclock).1
      refine ih hstep (fun q hq => ?_) (fun q hq => hrest q (List.mem_cons_of_mem _ hq))
        (List.pairwise_cons.mp hclock).2 hold.2
      simp only [State.step] at hq
      split at hq
      · obtain rfl | hq := List.mem_cons.mp hq
        · exact hp
        · exact hacc q hq
      · exact hacc q hq

/-- No nonce is accepted twice, whatever is presented at whatever non-decreasing readings of the
clock, if each accepted request carries a time before the reading it is accepted at. -/
theorem accepted_nonces_nodup (host : AuthHost) (secret : String) (window : Int)
    (ps : List Presentation) (issued : List Request)
    (hclock : ps.Pairwise fun p q => p.1 ≤ q.1) (hu : Unforgeable host secret issued ps)
    (hold : Run.Along (State.step host) (Older host)
      { auth := { secret := secret, window := window } } ps) :
    ((run host secret window ps).accepted.map fun p => p.2.nonce).Nodup := by
  have hinit : Inv host secret window { auth := { secret := secret, window := window } } ps :=
    ⟨rfl, rfl, List.nodup_nil, by simp, by simp, by simp⟩
  exact (hinit.foldl hu (by simp) (fun _ hq => hq) hclock hold).nodup

/-! ## A request that is as old as the clock -/

def sampleHost : AuthHost where
  sha256 _ := "e3b0"
  hmac _ message := message
  toLower text := text

/-- A secret of 32 bytes, the fewest that `NewAuthenticator` takes. -/
def sampleSecret : String := "00112233445566778899aabbccddeeff"

/-- A request with an empty body, signed at a second. -/
def signedAt (timestamp : String) : Request :=
  let r : Request := ⟨"GET", "/", timestamp, "nonce", "e3b0", "", some []⟩
  { r with signature := r.message sampleHost }

/-- The replay of a request one second later, and one window after its timestamp. -/
def replays : List Presentation :=
  [(1001 * nanosPerSecond, signedAt "1000"), (1002 * nanosPerSecond, signedAt "1000"),
    (1060 * nanosPerSecond, signedAt "1000")]

theorem replays_refused :
    (run sampleHost sampleSecret (60 * nanosPerSecond) replays).accepted.length = 1 ∧
      ((run sampleHost sampleSecret (60 * nanosPerSecond) replays).accepted.map
        fun p => p.2.nonce).Nodup := by
  refine ⟨by decide +kernel, accepted_nonces_nodup sampleHost sampleSecret
    (60 * nanosPerSecond) replays
    [signedAt "1000"] (by decide +kernel) ⟨?_, by decide +kernel, by decide +kernel,
    by decide +kernel⟩ (by decide +kernel)⟩
  intro p hp _
  simp only [replays, List.mem_cons, List.not_mem_nil, or_false] at hp
  obtain rfl | rfl | rfl := hp <;> exact ⟨_, List.mem_singleton_self _, rfl⟩

/-- A request accepted in the second of its timestamp is accepted again one window later. -/
theorem nonce_accepted_twice :
    let s := run sampleHost sampleSecret (60 * nanosPerSecond)
      [(1000 * nanosPerSecond, signedAt "1000"), (1060 * nanosPerSecond, signedAt "1000")]
    s.accepted.map (fun p => p.2.nonce) = ["nonce", "nonce"] := by
  decide +kernel

end RbhTrade.Ipc
