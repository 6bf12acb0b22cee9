import Mathlib.Data.List.Basic

/-!
# Authenticated encryption

A cipher with associated data as its caller sees it: three operations on a state of its own, any of
which may fail or change what is asked next. An ideal cipher keeps a record of all it has encrypted.
It decrypts what is on record, to the plaintext on record and under the associated data on record,
and nothing else; and it hands out no ciphertext and no nonce twice.
-/

namespace Aead

/-- A plaintext with its associated data, and what was handed out for them. -/
structure Issued where
  plaintext : List UInt8
  aad : List UInt8
  ciphertext : List UInt8
  nonce : List UInt8
deriving DecidableEq

/-- The operations of a cipher. `decrypt` also gives the ciphertext and the nonce as the call leaves
them in the buffers of the caller. -/
structure Cipher (σ : Type) where
  keyVersion : σ → String
  encrypt : List UInt8 → List UInt8 → σ → Option (List UInt8 × List UInt8) × σ
  decrypt : String → List UInt8 → List UInt8 → List UInt8 → σ →
    (Option (List UInt8) × List UInt8 × List UInt8) × σ

/-- A ciphertext or a nonce names its record. -/
def Distinct (rs : List Issued) : Prop :=
  ∀ r ∈ rs, ∀ r' ∈ rs, r.ciphertext = r'.ciphertext ∨ r.nonce = r'.nonce → r = r'

structure Ideal (σ : Type) extends Cipher σ where
  key : String
  issued : σ → List Issued
  keyVersion_eq : ∀ s, keyVersion s = key
  distinct : ∀ s, Distinct (issued s)
  encrypt_issues : ∀ p a s ct n s', encrypt p a s = (some (ct, n), s') →
    issued s' = issued s ++ [⟨p, a, ct, n⟩]
  decrypt_issued : ∀ v ct n a s, issued (decrypt v ct n a s).2 = issued s
  decrypt_buffers : ∀ v ct n a s, (decrypt v ct n a s).1.2 = (ct, n)
  decrypt_iff : ∀ v ct n a s p,
    (decrypt v ct n a s).1.1 = some p ↔ v = key ∧ ⟨p, a, ct, n⟩ ∈ issued s

/-! ## A cipher that is ideal -/

theorem Distinct.concat {rs : List Issued} {r : Issued} (h : Distinct rs)
    (hct : ∀ x ∈ rs, x.ciphertext.length < r.ciphertext.length)
    (hn : ∀ x ∈ rs, x.nonce.length < r.nonce.length) : Distinct (rs ++ [r]) := by
  have hnew : ∀ x ∈ rs, ¬ (x.ciphertext = r.ciphertext ∨ x.nonce = r.nonce) := by
    rintro x hx (he | he)
    · exact Nat.ne_of_lt (hct x hx) (congrArg List.length he)
    · exact Nat.ne_of_lt (hn x hx) (congrArg List.length he)
  intro x hx y hy hsame
  rw [List.mem_append, List.mem_singleton] at hx hy
  rcases hx with hx | rfl <;> rcases hy with hy | rfl
  · exact h x hx y hy hsame
  · exact absurd hsame (hnew x hx)
  · exact absurd (hsame.imp Eq.symm Eq.symm) (hnew y hy)
  · rfl

/-- Each ciphertext and each nonce is longer than all before. -/
def issue (p a : List UInt8) (rs : List Issued) : Issued where
  plaintext := p
  aad := a
  ciphertext := p ++ List.replicate 16 0 ++ (rs.map Issued.ciphertext).flatten
  nonce := List.replicate 12 0 ++ (rs.map Issued.nonce).flatten

theorem distinct_issue {rs : List Issued} (p a : List UInt8) (h : Distinct rs) :
    Distinct (rs ++ [issue p a rs]) := by
  refine h.concat (fun x hx => ?_) (fun x hx => ?_)
  · have hle := (List.sublist_flatten_of_mem (List.mem_map_of_mem
      (f := Issued.ciphertext) hx)).length_le
    simp only [issue, List.length_append, List.length_replicate]
    omega
  · have hle := (List.sublist_flatten_of_mem (List.mem_map_of_mem (f := Issued.nonce) hx)).length_le
    simp only [issue, List.length_append, List.length_replicate]
    omega

/-- The plaintext on record. -/
def lookup (rs : List Issued) (ct n a : List UInt8) : Option (List UInt8) :=
  (rs.find? fun r => r.ciphertext = ct ∧ r.nonce = n ∧ r.aad = a).map Issued.plaintext

theorem lookup_eq_some {rs : List Issued} {ct n a p : List UInt8} (h : Distinct rs) :
    lookup rs ct n a = some p ↔ ⟨p, a, ct, n⟩ ∈ rs := by
  unfold lookup
  rw [Option.map_eq_some_iff]
  constructor
  · rintro ⟨r, hr, rfl⟩
    have hkeys := List.find?_some hr
    simp only [decide_eq_true_eq] at hkeys
    obtain ⟨rfl, rfl, rfl⟩ := hkeys
    exact List.mem_of_find?_eq_some hr
  · intro hmem
    cases hr : rs.find? fun r => r.ciphertext = ct ∧ r.nonce = n ∧ r.aad = a with
    | none => simpa using List.find?_eq_none.mp hr _ hmem
    | some r =>
        have hkeys := List.find?_some hr
        simp only [decide_eq_true_eq] at hkeys
        rw [h r (List.mem_of_find?_eq_some hr) _ hmem (.inl hkeys.1)]
        exact ⟨_, rfl, rfl⟩

/-- The cipher that looks the record up. -/
def recorder (key : String) : Ideal {rs : List Issued // Distinct rs} where
  keyVersion _ := key
  encrypt p a s :=
    let r := issue p a s.1
    (some (r.ciphertext, r.nonce), ⟨s.1 ++ [r], distinct_issue p a s.2⟩)
  decrypt v ct n a s := ((if v = key then lookup s.1 ct n a else none, ct, n), s)
  key := key
  issued := Subtype.val
  keyVersion_eq _ := rfl
  distinct := Subtype.property
  encrypt_issues p a s ct n s' h := by
    cases h
    rfl
  decrypt_issued _ _ _ _ _ := rfl
  decrypt_buffers _ _ _ _ _ := rfl
  decrypt_iff v ct n a s p := by
    dsimp only
    rw [Option.ite_none_right_eq_some, lookup_eq_some s.2]

end Aead
