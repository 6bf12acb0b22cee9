import RbhTrade.Lib.FixedPoint
import RbhTrade.Manual.Times
import RbhTrade.Store.ManualObservation

/-!
# The observations that are accepted

`verify` accepts exactly the canonical texts of observations that agree with the facts, the nonce
and the claim time. Beyond the digest, the identity, the block, the counts and the times it asks
that the facts and the hashes are well formed, that the nonce has a successor, and that the block
was reported as canonical.
-/

namespace RbhTrade.ManualNonce

open GoTime Json ManualArtifact

/-! ## Reading encoded observations -/

theorem Observation.marshaled (o : Observation) : o.json.Marshaled := by
  refine Value.marshaled_struct ?_
  simp [Observation.members, Value.marshaled_text, Value.marshaled_nat, Value.Marshaled]

theorem decodeObservation_json (o : Observation) : decodeObservation o.json = some o := by
  have hmembers : members? o.json = some o.members := members?_struct _
  have hknown : noUnknown observationNames o.members = true := noUnknown_self rfl
  have hvalues := fieldValues_self observationNames o.members rfl (by simp [observationNames])
  simp only [Observation.members, List.forall_mem_cons] at hvalues
  obtain ⟨h₁, h₂, h₃, h₄, h₅, h₆, h₇, h₈, h₉, h₁₀, h₁₁, h₁₂, h₁₃, h₁₄, -⟩ := hvalues
  unfold decodeObservation
  rw [hmembers, Option.bind_eq_bind, Option.bind_some, hknown]
  unfold Observation.members
  simp only [h₁, h₂, h₃, h₄, h₅, h₆, h₇, h₈, h₉, h₁₀, h₁₁, h₁₂, h₁₃, h₁₄, fill_text,
    fill_nat (UInt64.toNat_lt _), fill_bool, Option.bind_eq_bind, Option.bind_some, guard, if_true,
    UInt64.ofNat_toNat, Option.pure_def]

/-- An encoded observation of at most 4096 bytes is read back. -/
theorem decode_encode {o : Observation} (h : (Bytes.ofText o.encode).length ≤ 4096) :
    decode (Bytes.ofText o.encode) = some o := by
  have hne : (Bytes.ofText o.encode).length ≠ 0 := by
    intro hempty
    have htext : o.encode = "" := Bytes.ofText_injective (List.length_eq_zero_iff.mp hempty)
    have hread := firstValue?_render o.marshaled
    rw [← Observation.encode, htext] at hread
    cases hread
  rw [decode, if_neg (by omega), Bytes.toText_ofText, Observation.encode,
    firstValue?_render o.marshaled, Option.bind_some, decodeObservation_json]

theorem encode_injective : Function.Injective Observation.encode := by
  intro o o' h
  have ho := firstValue?_render o.marshaled
  rw [← Observation.encode, h, Observation.encode, firstValue?_render o'.marshaled] at ho
  have hdecoded := decodeObservation_json o
  rw [← Option.some.inj ho, decodeObservation_json] at hdecoded
  exact (Option.some.inj hdecoded).symm

/-! ## What is accepted -/

/-- The claim time is canonical and timely for the facts and the observation. -/
def Observation.ClaimableAt (o : Observation) (f : Facts) (claimedAt : String) : Prop :=
  ∃ bound observed claimed expiry, canonicalTime f.boundAt = some bound ∧
    canonicalTime o.observedAt = some observed ∧ canonicalTime claimedAt = some claimed ∧
    canonicalTime f.expiresAt = some expiry ∧ Timely bound observed claimed expiry

theorem verify_eq_some {sum : Sum256} {raw : List UInt8} {digested nonce claimedAt : String}
    {f : Facts} {o : Observation} : verify sum raw digested nonce f claimedAt = some o ↔
      raw = Bytes.ofText o.encode ∧ raw.length ≤ 4096 ∧ digest sum raw = digested ∧ f.Sound ∧
        o.SameIdentity f ∧ o.SoundBlock ∧ o.SinceQuote f ∧ o.SameNonce nonce ∧
        (nonce? nonce).isSome = true ∧ o.ClaimableAt f claimedAt := by
  constructor
  · intro h
    obtain ⟨o', hdecode, h⟩ := Option.bind_eq_some_iff.mp h
    rw [FixedPoint.guard_bind, FixedPoint.guard_bind] at h
    obtain ⟨⟨hraw, hdigest⟩, ⟨hfacts, hidentity, hblock, hquote, hnonce⟩, h⟩ := h
    obtain ⟨n, hn, h⟩ := Option.bind_eq_some_iff.mp h
    obtain ⟨bound, hbound, h⟩ := Option.bind_eq_some_iff.mp h
    obtain ⟨expiry, hexpiry, h⟩ := Option.bind_eq_some_iff.mp h
    obtain ⟨observed, hobserved, h⟩ := Option.bind_eq_some_iff.mp h
    obtain ⟨claimed, hclaimed, h⟩ := Option.bind_eq_some_iff.mp h
    rw [FixedPoint.guard_bind] at h
    obtain ⟨htimely, h⟩ := h
    obtain rfl := Option.some.inj h
    obtain ⟨hsize, -⟩ := Option.ite_none_left_eq_some.mp hdecode
    exact ⟨hraw.symm, by omega, hdigest, hfacts, hidentity, hblock, hquote, hnonce,
      Option.isSome_of_eq_some hn, bound, observed, claimed, expiry, hbound, hobserved, hclaimed,
      hexpiry, htimely⟩
  · rintro ⟨rfl, hsize, hdigest, hfacts, hidentity, hblock, hquote, hnonce, hn, bound, observed,
      claimed, expiry, hbound, hobserved, hclaimed, hexpiry, htimely⟩
    obtain ⟨n, hn⟩ := Option.isSome_iff_exists.mp hn
    rw [verify, decode_encode hsize, Option.bind_eq_bind, Option.bind_some, FixedPoint.guard_bind,
      FixedPoint.guard_bind]
    refine ⟨⟨rfl, hdigest⟩, ⟨hfacts, hidentity, hblock, hquote, hnonce⟩, ?_⟩
    simp only [hn, hbound, hobserved, hclaimed, hexpiry, Option.bind_eq_bind, Option.bind_some]
    exact FixedPoint.guard_bind.mpr ⟨htimely, rfl⟩

/-- The times at which an observation may be claimed are an interval. -/
theorem ClaimableAt.between {o : Observation} {f : Facts} {a b c : ManualTime}
    (hab : a.instant ≤ b.instant) (hbc : b.instant ≤ c.instant) (ha : o.ClaimableAt f a.text)
    (hc : o.ClaimableAt f c.text) : o.ClaimableAt f b.text := by
  obtain ⟨bound, observed, claimed, expiry, hbound, hobserved, hclaimed, hexpiry, hba, hoa, -, -⟩ :=
    ha
  obtain ⟨bound', observed', claimed', expiry', hbound', hobserved', hclaimed', hexpiry', -, -, hce,
    hfresh⟩ := hc
  rw [hbound] at hbound'
  rw [hobserved] at hobserved'
  rw [hexpiry] at hexpiry'
  rw [ManualTime.canonicalTime_text] at hclaimed hclaimed'
  cases hbound'
  cases hobserved'
  cases hexpiry'
  cases hclaimed
  cases hclaimed'
  refine ⟨bound, observed, b.instant, expiry, hbound, hobserved, b.canonicalTime_text, hexpiry, hba,
    le_trans hoa hab, lt_of_le_of_lt hbc hce, ?_⟩
  exact le_trans (Int.sub_le_sub_right hbc observed) hfresh

/-- The text, the digest, the identity, the block, the counts and the times agree. -/
def Agrees (sum : Sum256) (raw : List UInt8) (digested nonce : String) (f : Facts)
    (claimedAt : String) (o : Observation) : Prop :=
  raw = Bytes.ofText o.encode ∧ raw.length ≤ 4096 ∧ digest sum raw = digested ∧ o.SameIdentity f ∧
    o.SinceQuote f ∧ o.SameNonce nonce ∧ o.ClaimableAt f claimedAt

/-- An observation is accepted if and only if it agrees, the facts and its block are sound, and the
nonce has a successor; the claim times that are accepted for one text are an interval. -/
theorem observations_accepted :
    (∀ sum raw digested nonce f claimedAt o, verify sum raw digested nonce f claimedAt = some o ↔
      Agrees sum raw digested nonce f claimedAt o ∧ f.Sound ∧ o.SoundBlock ∧
        (nonce? nonce).isSome = true) ∧
    ∀ sum raw digested nonce f (a b c : ManualTime), a.instant ≤ b.instant → b.instant ≤ c.instant →
      (verify sum raw digested nonce f a.text).isSome = true →
      (verify sum raw digested nonce f c.text).isSome = true →
      (verify sum raw digested nonce f b.text).isSome = true := by
  refine ⟨fun sum raw digested nonce f claimedAt o => ?_, ?_⟩
  · rw [verify_eq_some]
    constructor
    · rintro ⟨hraw, hsize, hdigest, hfacts, hidentity, hblock, hquote, hnonce, hn, htimes⟩
      exact ⟨⟨hraw, hsize, hdigest, hidentity, hquote, hnonce, htimes⟩, hfacts, hblock, hn⟩
    · rintro ⟨⟨hraw, hsize, hdigest, hidentity, hquote, hnonce, htimes⟩, hfacts, hblock, hn⟩
      exact ⟨hraw, hsize, hdigest, hfacts, hidentity, hblock, hquote, hnonce, hn, htimes⟩
  · intro sum raw digested nonce f a b c hab hbc ha hc
    obtain ⟨o, ha⟩ := Option.isSome_iff_exists.mp ha
    obtain ⟨o', hc⟩ := Option.isSome_iff_exists.mp hc
    obtain ⟨hraw, hsize, hdigest, hfacts, hidentity, hblock, hquote, hnonce, hn, hta⟩ :=
      verify_eq_some.mp ha
    obtain ⟨hraw', -, -, -, -, -, -, -, -, htc⟩ := verify_eq_some.mp hc
    obtain rfl := encode_injective (Bytes.ofText_injective (hraw.symm.trans hraw'))
    exact Option.isSome_of_eq_some (verify_eq_some.mpr ⟨hraw, hsize, hdigest, hfacts, hidentity,
      hblock, hquote, hnonce, hn, ClaimableAt.between hab hbc hta htc⟩)

/-- The facts of a bound operation. -/
def boundFacts : Facts where
  operationId := "op"
  requestId := "request"
  bindingHash := String.ofList (List.replicate 64 'a')
  chainId := 4663
  walletId := "wallet"
  walletAddress := String.ofList ('0' :: 'x' :: List.replicate 40 '1')
  contractAddress := String.ofList ('0' :: 'x' :: List.replicate 40 '2')
  runtimeCodeHash := String.ofList ('0' :: 'x' :: List.replicate 64 '3')
  quoteBlock := 10
  quoteHash := String.ofList ('0' :: 'x' :: List.replicate 64 '4')
  boundAt := "2026-10-12T00:00:00.123Z"
  expiresAt := "2026-10-12T00:01:00.123Z"

/-- An observation of the quoted block that the backend did not report as canonical. -/
def doubtfulObservation : Observation where
  operationId := boundFacts.operationId
  requestId := boundFacts.requestId
  bindingHash := boundFacts.bindingHash
  chainId := boundFacts.chainId
  walletId := boundFacts.walletId
  walletAddress := boundFacts.walletAddress
  contractAddress := boundFacts.contractAddress
  runtimeCodeHash := boundFacts.runtimeCodeHash
  blockNumber := boundFacts.quoteBlock
  blockHash := boundFacts.quoteHash
  blockCanonical := false
  confirmedNonce := "0"
  pendingNonce := "0"
  observedAt := boundFacts.boundAt

/-- A hash of zeros. -/
def zeroSum : Sum256 := fun _ => Vector.replicate 32 0

def doubtfulRaw : List UInt8 := Bytes.ofText doubtfulObservation.encode

theorem doubtful_fits : doubtfulObservation.json.Fits 4096 :=
  Value.fits_struct observationNames [4, 9, 66, 20, 8, 44, 44, 68, 20, 68, 5, 3, 3, 26] rfl
    (by decide +kernel) (by decide +kernel)
    (.cons (Value.fits_text (by decide) (by decide)) <|
      .cons (Value.fits_text (by decide) (by decide)) <|
      .cons (Value.fits_text (by decide +kernel) (by decide +kernel)) <|
      .cons (Value.fits_uint64 _) <| .cons (Value.fits_text (by decide) (by decide)) <|
      .cons (Value.fits_text (by decide +kernel) (by decide +kernel)) <|
      .cons (Value.fits_text (by decide +kernel) (by decide +kernel)) <|
      .cons (Value.fits_text (by decide +kernel) (by decide +kernel)) <|
      .cons (Value.fits_uint64 _) <|
      .cons (Value.fits_text (by decide +kernel) (by decide +kernel)) <|
      .cons (Value.fits_bool _) <| .cons (Value.fits_text (by decide) (by decide)) <|
      .cons (Value.fits_text (by decide) (by decide)) <|
      .cons (Value.fits_text (by decide +kernel) (by decide +kernel)) .nil)

theorem doubtful_claimable : doubtfulObservation.ClaimableAt boundFacts boundFacts.boundAt := by
  have htimes : ((canonicalTime boundFacts.boundAt).bind fun b =>
      (canonicalTime boundFacts.expiresAt).map fun e => decide (b < e)) = some true := by
    decide +kernel
  obtain ⟨b, hb, h⟩ := Option.bind_eq_some_iff.mp htimes
  obtain ⟨e, he, hlt⟩ := Option.map_eq_some_iff.mp h
  refine ⟨b, b, b, e, hb, hb, hb, he, le_refl b, le_refl b, of_decide_eq_true hlt, ?_⟩
  rw [Int.sub_self]
  decide

theorem doubtful_block_refused :
    Agrees zeroSum doubtfulRaw (digest zeroSum doubtfulRaw) "0" boundFacts boundFacts.boundAt
        doubtfulObservation ∧
      verify zeroSum doubtfulRaw (digest zeroSum doubtfulRaw) "0" boundFacts boundFacts.boundAt =
      none := by
  refine ⟨⟨rfl, ?_, rfl, ⟨rfl, rfl, rfl, rfl, rfl, rfl, rfl, rfl⟩, ⟨UInt64.le_refl _, fun _ => rfl⟩,
    ⟨rfl, rfl⟩, doubtful_claimable⟩, ?_⟩
  · exact (Bytes.length_ofText _).trans_le doubtful_fits.utf8ByteSize_le
  · rw [Option.eq_none_iff_forall_ne_some]
    intro o h
    obtain ⟨hraw, -, -, -, -, hblock, -⟩ := verify_eq_some.mp h
    obtain rfl := encode_injective (Bytes.ofText_injective hraw)
    cases hblock.1

end RbhTrade.ManualNonce
