import Mathlib.Data.Nat.Digits.Defs
import RbhTrade.Store.ManualOperator

/-!
# Proofs of operator rows

`manual_operator_bootstrap_valid` checks the MAC of a trust-root bootstrap and of a C07 attestation,
and `manual_operator_gate_set_hash` is the digest of the four gate attestations of an authorization.
Both take their arguments joined with a bar. The table constraints leave some of those arguments
free text, so two rows can have one joined text. The rows with the text of a row are found by
cutting it at four bars in every way; a proof of the row is accepted for no other exactly if no
other is found. For a row without bars there is one way, and no row of the other kind, since no
printed epoch is as long as a key.
-/

namespace RbhTrade.Operator

open Hex Joined

/-! ## The joined text -/

/-- The joined parts of a row. -/
def Row.parts : Row → List String
  | .bootstrap b =>
      [b.operatorKeyId, b.publicKeyHex, b.rootFingerprint, b.bootstrapEvidenceHash, b.deploymentId]
  | .c07 a =>
      [a.authorizationId, toString a.authorizationEpoch, a.evidenceHash, a.reviewedHead,
        a.attestedAt]

/-- What is printed of a value. -/
def SqlValue.print : SqlValue → String
  | .text s => s
  | .int n => toString n
  | .other => ""

def SqlValue.NoBar : SqlValue → Prop
  | .text s => Plain '|' s
  | _ => True

/-- No text of the row holds a bar. The constraints do not exclude one after a NUL character, even
in a column of hexadecimal digits. -/
def Row.NoBar (r : Row) : Prop := ∀ v ∈ r.args, v.NoBar

theorem plain_toString_nat (n : Nat) : Plain '|' (toString n) := by
  intro hbar
  have hdigit := Nat.isDigit_of_mem_toDigits (by decide) (by decide)
    (show '|' ∈ Nat.toDigits 10 n by simpa using hbar)
  revert hdigit
  decide

theorem plain_toString (n : Int) : Plain '|' (toString n) := by
  cases n with
  | ofNat n => exact plain_toString_nat n
  | negSucc n =>
      have htext : toString (Int.negSucc n) = "-" ++ toString (n + 1) := rfl
      have hdigits := plain_toString_nat (n + 1)
      unfold Plain at hdigits ⊢
      rw [htext, String.toList_append]
      simp only [List.mem_append, not_or]
      exact ⟨by decide, hdigits⟩

theorem SqlValue.NoBar.plain {v : SqlValue} (h : v.NoBar) : Plain '|' v.print := by
  cases v with
  | text s => exact h
  | int n => exact plain_toString n
  | other => exact (by decide : Plain '|' "")

theorem Row.parts_eq (r : Row) : r.parts = r.args.map SqlValue.print := by
  cases r <;> rfl

theorem toString_ne_empty (n : Int) : toString n ≠ "" := by
  intro h
  have hparse := Decimal.bigInt?_toString_int n
  rw [h] at hparse
  cases hparse

theorem SqlValue.part_eq_some {v : SqlValue} {s : String} :
    v.part = some s ↔ v.print = s ∧ s ≠ "" := by
  cases v with
  | text t =>
      simp only [SqlValue.part, SqlValue.print, Option.ite_none_left_eq_some, Option.some.injEq]
      grind
  | int n =>
      simp only [SqlValue.part, SqlValue.print, Option.some.injEq]
      exact ⟨fun h => ⟨h, h ▸ toString_ne_empty n⟩, And.left⟩
  | other => simp [SqlValue.part, SqlValue.print, eq_comm]

theorem mapM_part {args : List SqlValue} {parts : List String} :
    args.mapM SqlValue.part = some parts ↔ args.map SqlValue.print = parts ∧ "" ∉ parts := by
  induction args generalizing parts with
  | nil => cases parts <;> simp
  | cons v args ih =>
      simp only [List.mapM_cons, Option.bind_eq_bind, Option.bind_eq_some_iff, Option.pure_def,
        Option.some.injEq, SqlValue.part_eq_some, ih]
      constructor
      · rintro ⟨_, ⟨rfl, hv⟩, _, ⟨rfl, hargs⟩, rfl⟩
        exact ⟨rfl, List.not_mem_cons_of_ne_of_not_mem hv.symm hargs⟩
      · rintro ⟨rfl, hparts⟩
        obtain ⟨hv, hargs⟩ := List.ne_and_not_mem_of_not_mem_cons hparts
        exact ⟨_, ⟨rfl, hv.symm⟩, _, ⟨rfl, hargs⟩, rfl⟩

/-- A MAC is accepted if it is the one of the joined parts and none of them is empty. -/
theorem Row.proves_iff {host : CryptoHost} {r : Row} {mac : String} :
    r.Proves host mac ↔ host.secret ≠ "" ∧ mac ≠ "" ∧ "" ∉ r.parts ∧
      host.toLower mac = host.hmac host.secret (join '|' r.parts) := by
  have hlen : r.parts.length = 5 := by cases r <;> rfl
  have hparts : (r.args ++ [SqlValue.text mac]).map SqlValue.print = r.parts ++ [mac] := by
    rw [List.map_append, ← Row.parts_eq]
    rfl
  have hlast : (r.parts ++ [mac])[5]? = some mac := by
    rw [← hlen]
    exact List.getElem?_concat_length
  simp only [Row.Proves, bootstrapValid, Option.mem_def, mapM_part, hparts]
  constructor
  · rintro ⟨-, hsecret, _, ⟨rfl, hne⟩, m, hm, hmac⟩
    obtain rfl := Option.some.inj (hlast.symm.trans hm)
    rw [List.take_left' hlen] at hmac
    simp only [List.mem_append, List.mem_singleton, not_or] at hne
    exact ⟨hsecret, Ne.symm hne.2, hne.1, hmac⟩
  · rintro ⟨hsecret, hmacne, hne, hmac⟩
    refine ⟨by cases r <;> rfl, hsecret, _, ⟨rfl, ?_⟩, mac, hlast, ?_⟩
    · simp only [List.mem_append, List.mem_singleton, not_or]
      exact ⟨hne, Ne.symm hmacne⟩
    · rw [List.take_left' hlen]
      exact hmac

/-! ## Readings of a joined text -/

instance : (r : Row) → Decidable r.Accepted
  | .bootstrap b => inferInstanceAs (Decidable b.Accepted)
  | .c07 a => inferInstanceAs (Decidable a.Accepted)

def GateSet.Accepted (q : GateSet) : Prop := ∀ g ∈ q.gates, g.Accepted
deriving Decidable

def sampleHost : CryptoHost where
  secret := "secret"
  hmac _ message := message
  sha256 message := "0" ++ message
  toLower text := text

def key (c : Char) : String := String.ofList (List.replicate 64 c)

theorem hex_replicate {n : Nat} {c : Char} (hc : isHex c = true) :
    SqlText.length (String.ofList (List.replicate n c)) = n ∧
      SqlText.allIn isHex (String.ofList (List.replicate n c)) = true := by
  have hnul : SqlText.NoNul (String.ofList (List.replicate n c)) := by
    intro hmem
    rw [String.toList_ofList] at hmem
    rw [← List.eq_of_mem_replicate hmem] at hc
    exact absurd hc (by decide)
  constructor
  · rw [SqlText.length_of_noNul hnul, String.length_ofList, List.length_replicate]
  · rw [SqlText.allIn_of_noNul hnul, String.toList_ofList, List.all_replicate]
    simp [hc]

theorem hex64_key {c : Char} (hc : isHex c = true) : Hex64 (key c) := hex_replicate hc

end RbhTrade.Operator
