import RbhTrade.Manual.ArtifactTexts
import RbhTrade.Store.ManualEnvelope

/-!
# Sealed artifacts are what was signed

What `Seal` accepts is the canonical encoding of the transaction that the facts ask for, whatever
the cipher does. With an ideal cipher, `Open` accepts exactly the values that `Seal` makes of what
the cipher encrypted for these facts. A ciphertext or a nonce names one encryption, and that one has
one plaintext and one set of facts; so nothing of a sealed value can be exchanged. The stored
envelope is the only text that is read as the value and its time.
-/

namespace RbhTrade.ManualArtifact

open Aead GoTime Hex Json

section

variable {Signature σ : Type} {codec : Codec Signature} {sum : Sum256} {raw : List UInt8}
  {f g : Facts}

/-! ## Bytes and digits -/

theorem hexBytes_encode (bytes : List UInt8) : hexBytes (encode bytes) = some bytes := by
  have hbytes : (bytes.map UInt8.toNat).map UInt8.ofNat = bytes := by
    rw [List.map_map, show UInt8.ofNat ∘ UInt8.toNat = id from funext fun b => UInt8.ofNat_toNat,
      List.map_id]
  rw [hexBytes, decode_encode, Option.map_some, hbytes]

theorem textBytes_of_hexBytes {s : String} {bytes : List UInt8} (hlower : lowerCase s.toList = true)
    (h : hexBytes s.toList = some bytes) : s = textBytes bytes := by
  obtain ⟨ns, hns, rfl⟩ := Option.map_eq_some_iff.mp h
  have hhex := isHex_of_decode (Option.isSome_iff_exists.mpr ⟨ns, hns⟩)
  simp only [lowerCase, List.all_eq_true, decide_eq_true_eq] at hlower
  rw [textBytes, encode_decode (fun c hc => isLowerHex_iff.mpr ⟨hhex c hc, hlower c hc⟩) hns,
    String.ofList_toList]

theorem isHex_textBytes (bytes : List UInt8) : ∀ c ∈ (textBytes bytes).toList, isHex c = true := by
  rw [textBytes, String.toList_ofList]
  exact fun c hc => (isLowerHex_iff.mp (isLowerHex_encode bytes c hc)).1

theorem lowerCase_textBytes (bytes : List UInt8) : lowerCase (textBytes bytes).toList = true := by
  rw [textBytes, String.toList_ofList, lowerCase, List.all_eq_true]
  exact fun c hc => decide_eq_true (isLowerHex_iff.mp (isLowerHex_encode bytes c hc)).2

theorem length_textBytes (bytes : List UInt8) : (textBytes bytes).length = 2 * bytes.length := by
  rw [textBytes, String.length_ofList, length_encode]

theorem utf8ByteSize_textBytes (bytes : List UInt8) :
    (textBytes bytes).utf8ByteSize = 2 * bytes.length := by
  rw [SqlText.utf8ByteSize_eq_length fun c hc => utf8Size_of_isHex (isHex_textBytes bytes c hc),
    length_textBytes]

/-! ## What is signed -/

/-- The fields are those that the texts of the facts name. -/
structure Facts.Asks (f : Facts) (x : Fields) : Prop where
  chain : f.chainId = 4663 ∧ x.chainId = 4663
  nonce : f.nonce = toString x.nonce
  recipient : ∃ a, addressOf f.recipient = some a ∧ x.recipient = some a
  value : f.value = toString x.value
  data : f.data = "0x" ++ textBytes x.data
  gas : x.gas = f.gasLimit.toNat
  feeCap : f.gasFeeCap = toString x.gasFeeCap
  tipCap : f.gasTipCap = toString x.gasTipCap

/-- The bytes are the canonical encoding of a transaction with the fields of the facts, which their
sender signed for the chain. -/
structure Signs (codec : Codec Signature) (raw : List UInt8) (f : Facts)
    (tx : Transaction Signature) :
    Prop where
  canonical : codec.marshal tx = some raw ∧ codec.unmarshal raw = some tx
  dynamicFee : tx.kind = 2 ∧ tx.accessList = 0
  fields : f.Asks tx.fields
  sender : ∃ a, addressOf f.sender = some a ∧ codec.sender 4663 tx = some a

theorem addressOf_of_address {v : String} (h : address v = true) : ∃ a, addressOf v = some a := by
  unfold address at h
  split at h
  · rename_i digits hdigits
    simp only [Bool.and_eq_true, decide_eq_true_eq] at h
    have hdecoded := decode_isSome (by rw [h.1.1.2]) h.1.2
    obtain ⟨ns, hns⟩ := Option.isSome_iff_exists.mp hdecoded
    exact ⟨ns.map UInt8.ofNat, by rw [addressOf, hdigits, Option.bind_some, hexBytes, hns,
      Option.map_some]⟩
  · cases h

theorem Facts.parts_of_validate (h : f.validate = true) :
    f.validData = true ∧ f.chainId = 4663 ∧ ∃ a, addressOf f.recipient = some a := by
  simp only [Facts.validate, Facts.validIdentity, Bool.and_eq_true, decide_eq_true_eq] at h
  obtain ⟨⟨⟨⟨⟨⟨-, hidentity⟩, -⟩, -⟩, -⟩, hdata⟩, -⟩ := h
  obtain ⟨⟨⟨⟨⟨⟨⟨⟨⟨⟨-, hchain⟩, -⟩, -⟩, -⟩, -⟩, hrecipient⟩, -⟩, -⟩, -⟩, -⟩ := hidentity
  exact ⟨hdata, hchain, addressOf_of_address hrecipient⟩

theorem Facts.transaction_eq_some {x : Fields} (h : f.transaction = some x) :
    f.validate = true ∧ f.Asks x := by
  unfold Facts.transaction at h
  obtain ⟨hvalid, h⟩ := Option.ite_none_right_eq_some.mp h
  simp only [Option.bind_eq_bind, Option.bind_eq_some_iff, Option.some.injEq] at h
  obtain ⟨nonce, hnonce, value, hvalue, fee, hfee, tip, htip, data, ⟨digits, hdigits, hdata⟩,
    rfl⟩ := h
  obtain ⟨hvalidData, hchain, a, ha⟩ := Facts.parts_of_validate hvalid
  have hnonceText : f.nonce = toString nonce := by
    unfold nonce? at hnonce
    split at hnonce
    · rename_i n hn
      obtain ⟨-, he⟩ := Option.ite_none_right_eq_some.mp hnonce
      rw [← Option.some.inj he]
      exact Decimal.canonical?_eq_some.mp hn
    · cases hnonce
  have hdataText : f.data = "0x" ++ textBytes data := by
    unfold Facts.validData at hvalidData
    rw [hdigits] at hvalidData
    simp only [Bool.and_eq_true] at hvalidData
    have htext : (String.ofList digits) = textBytes data :=
      textBytes_of_hexBytes (by rw [String.toList_ofList]; exact hvalidData.1.2)
        (by rwa [String.toList_ofList])
    have hmark : "0x".toList = ['0', 'x'] := rfl
    rw [← htext, ← String.toList_inj, marked?_eq_some hdigits, String.toList_append, hmark,
      String.toList_ofList]
    rfl
  exact ⟨hvalid, ⟨hchain, rfl⟩, hnonceText, ⟨a, ha, ha⟩, (u256_eq_some.mp hvalue).1, hdataText, rfl,
    (u256_eq_some.mp hfee).1, (u256_eq_some.mp htip).1⟩

variable {x : Verification}

theorem verify_ok (h : verify codec sum raw f = .ok x) :
    f.validate = true ∧ raw.length ≤ maxRawBytes ∧ raw ≠ [] ∧ ∃ tx, Signs codec raw f tx ∧
      x = ⟨digest sum f.marshal, "0x" ++ textBytes (codec.hash tx).toList, rawDigest sum raw⟩ := by
  unfold verify at h
  split at h
  · cases h
  rename_i expected hexpected
  obtain ⟨hvalid, hasks⟩ := Facts.transaction_eq_some hexpected
  split at h
  · cases h
  rename_i hsize
  rw [not_or, Nat.not_lt] at hsize
  split at h
  · cases h
  rename_i tx htx
  split at h
  · cases h
  rename_i hkind
  rw [not_or, not_not, not_not] at hkind
  split at h
  · cases h
  rename_i hmarshal
  split at h
  · cases h
  rename_i hfields
  split at h
  · cases h
  rename_i hsender
  rw [not_or, not_not] at hsender
  obtain ⟨a, ha⟩ := Option.ne_none_iff_exists'.mp hsender.1
  cases h
  exact ⟨hvalid, hsize.2, hsize.1, tx, ⟨⟨not_not.mp hmarshal, htx⟩, hkind,
    not_not.mp hfields ▸ hasks, a, hsender.2 ▸ ha, ha⟩, rfl⟩

/-! ## `Open` -/

theorem Facts.aadBytes_eq (h : f.validate = true) : f.aad sum = some ((f.aad sum).getD "") := by
  rw [Facts.aad_eq sum h]
  rfl

/-- Without a collision of their canonical texts, the authenticated bytes name the facts. -/
theorem facts_of_aadBytes (hf : f.validate = true) (hg : g.validate = true)
    (hcollision : sum f.marshal.toByteArray = sum g.marshal.toByteArray →
      f.marshal.toByteArray = g.marshal.toByteArray)
    (h : f.aadBytes sum = g.aadBytes sum) : f = g := by
  have haad : f.aad sum = g.aad sum := by
    rw [Facts.aadBytes_eq hf, Facts.aadBytes_eq hg, Bytes.ofText_injective h]
  have hsum := digest_inj.mp (digest_of_aad hf hg haad)
  exact Facts.marshal_injective (String.toByteArray_inj.mp (hcollision hsum))

variable (c : Ideal σ) {v : Encrypted} {s s' : σ}

/-- `Open` leaves the record of the cipher as it is. -/
theorem issued_openSealed : c.issued (openSealed codec sum c.toCipher v f s).2 = c.issued s := by
  have hkeeps := c.decrypt_issued v.keyVersion v.ciphertext v.nonce (f.aadBytes sum) s
  unfold openSealed
  split
  · rfl
  split
  · rfl
  split
  · rename_i hdecrypt
    rwa [hdecrypt] at hkeeps
  · rename_i hdecrypt
    rw [hdecrypt] at hkeeps
    split
    · exact hkeeps
    · split <;> exact hkeeps

/-- `Open` accepts a value with the ciphertext and the nonce of an encryption for these facts whose
plaintext is signed and has the hashes of the value. -/
theorem openSealed_ok :
    (openSealed codec sum c.toCipher v f s).1 = .ok x ↔
      v.Shaped c.key (digest sum f.marshal) ∧ f.validate = true ∧
      x = ⟨v.factsHash, v.txHash, v.rawSha256⟩ ∧
      ∃ p, ⟨p, f.aadBytes sum, v.ciphertext, v.nonce⟩ ∈ c.issued s ∧
      verify codec sum p f = .ok x := by
  have hplain := c.decrypt_iff v.keyVersion v.ciphertext v.nonce (f.aadBytes sum) s
  have hbuffers := c.decrypt_buffers v.keyVersion v.ciphertext v.nonce (f.aadBytes sum) s
  unfold openSealed
  by_cases hvalid : f.validate = true
  swap
  · rw [Facts.canonical, if_neg hvalid]
    exact ⟨nofun, fun h => absurd h.2.1 hvalid⟩
  rw [Facts.canonical_eq sum hvalid]
  dsimp only
  rw [c.keyVersion_eq]
  by_cases hshaped : v.Shaped c.key (digest sum f.marshal)
  swap
  · rw [if_pos hshaped]
    exact ⟨nofun, fun h => absurd h.1 hshaped⟩
  rw [if_neg (not_not_intro hshaped), and_iff_right hshaped, and_iff_right hvalid]
  rcases hdecrypt : c.decrypt v.keyVersion v.ciphertext v.nonce (f.aadBytes sum) s with
    ⟨⟨_ | plaintext, buffers⟩, t⟩
  · rw [hdecrypt] at hplain
    refine ⟨nofun, fun h => ?_⟩
    obtain ⟨-, p, hp, -⟩ := h
    cases (hplain p).mpr ⟨hshaped.2.2.1, hp⟩
  · rw [hdecrypt] at hplain hbuffers
    obtain ⟨-, hissued⟩ := (hplain plaintext).mp rfl
    have honly : ∀ p, ⟨p, f.aadBytes sum, v.ciphertext, v.nonce⟩ ∈ c.issued s → p = plaintext :=
      fun p hp => (Option.some.inj ((hplain p).mpr ⟨hshaped.2.2.1, hp⟩)).symm
    have hexists : (∃ p, ⟨p, f.aadBytes sum, v.ciphertext, v.nonce⟩ ∈ c.issued s ∧
        verify codec sum p f = .ok x) ↔ verify codec sum plaintext f = .ok x :=
      ⟨fun ⟨p, hp, h⟩ => honly p hp ▸ h, fun h => ⟨plaintext, hissued, h⟩⟩
    rw [hexists]
    dsimp only
    rcases verify codec sum plaintext f with e | y
    · exact ⟨nofun, fun h => nomatch h.2⟩
    dsimp only
    rw [c.keyVersion_eq]
    by_cases hy : y = ⟨v.factsHash, v.txHash, v.rawSha256⟩
    · rw [if_neg (by simp only [hy, hshaped.2.2.1, show buffers = _ from hbuffers, ne_eq,
        not_true_eq_false, or_self, not_false_eq_true])]
      exact ⟨fun h => ⟨(Except.ok.inj h).symm.trans hy, h⟩, And.right⟩
    · rw [if_pos (.inl hy)]
      exact ⟨nofun, fun h => absurd ((Except.ok.inj h.2).trans h.1) hy⟩

/-! ## `Seal` -/

/-- Whatever the cipher does, what is sealed has been verified. -/
theorem verify_of_sealRaw (c : Cipher σ) (h : sealRaw codec sum c raw f s = (.ok v, s')) :
    verify codec sum raw f = .ok ⟨v.factsHash, v.txHash, v.rawSha256⟩ := by
  unfold sealRaw at h
  split at h
  · cases h
  rename_i verified hverified
  split at h
  · cases h
  split at h
  · cases h
  split at h
  · cases h
  dsimp only at h
  split at h
  · cases h
  · cases h
    exact hverified

/-- A value with a record in the cipher, of verified bytes and the facts they were verified
against. -/
structure Sealed (codec : Codec Signature) (sum : Sum256) (c : Ideal σ) (raw : List UInt8)
    (f : Facts) (v : Encrypted) (t : σ) : Prop where
  verified : verify codec sum raw f = .ok ⟨v.factsHash, v.txHash, v.rawSha256⟩
  valid : f.validate = true
  shaped : v.Shaped c.key (digest sum f.marshal)
  issued : ⟨raw, f.aadBytes sum, v.ciphertext, v.nonce⟩ ∈ c.issued t

theorem sealed_of_sealRaw (h : sealRaw codec sum c.toCipher raw f s = (.ok v, s')) :
    Sealed codec sum c raw f v s' := by
  have hverify := verify_of_sealRaw c.toCipher h
  unfold sealRaw at h
  split at h
  · cases h
  rename_i verified hverified
  split at h
  · cases h
  split at h
  · cases h
  rename_i ciphertext nonce t hencrypt
  split at h
  · cases h
  dsimp only at h
  split at h
  · cases h
  rename_i x t' hopen
  have hissued : c.issued (openSealed codec sum c.toCipher ⟨1, verified.factsHash, verified.txHash,
      verified.rawSha256, c.keyVersion s, ciphertext, nonce⟩ f t).2 = c.issued t :=
      issued_openSealed c
  cases h
  have hok := (openSealed_ok c).mp (congrArg Prod.fst hopen)
  refine ⟨hverify, hok.2.1, hok.1, ?_⟩
  rw [hopen] at hissued
  rw [show c.issued s' = c.issued t from hissued, c.encrypt_issues _ _ _ _ _ _ hencrypt]
  exact List.mem_append_right _ (List.mem_singleton_self _)

/-- Verified bytes are sealed if their hashes are not zero, and the cipher has a valid key and
encrypts them with a tag and a nonce of the usual lengths. -/
theorem sealRaw_complete (hverify : verify codec sum raw f = .ok x)
    (htx : markedHex x.txHash 64 = true) (hraw : fixedHex x.rawSha256 64 = true)
    (hkey : validID c.key = true) {ct n : List UInt8} {t : σ}
    (hencrypt : c.encrypt raw (f.aadBytes sum) s = (some (ct, n), t))
    (hct : ct.length = raw.length + 16) (hn : n.length = 12) :
    ∃ s', sealRaw codec sum c.toCipher raw f s =
      (.ok ⟨1, x.factsHash, x.txHash, x.rawSha256, c.key, ct, n⟩, s') := by
  obtain ⟨hvalid, hle, hne, tx, -, hhashes⟩ := verify_ok hverify
  have hpos := List.length_pos_iff.mpr hne
  have hfacts : x.factsHash = digest sum f.marshal := by rw [hhashes]
  have hissued : ⟨raw, f.aadBytes sum, ct, n⟩ ∈ c.issued t := by
    rw [c.encrypt_issues _ _ _ _ _ _ hencrypt]
    exact List.mem_append_right _ (List.mem_singleton_self _)
  have hshaped : Encrypted.Shaped ⟨1, x.factsHash, x.txHash, x.rawSha256, c.key, ct, n⟩ c.key
      (digest sum f.marshal) :=
    ⟨rfl, hkey, rfl, hfacts, htx, hraw, by simp only; omega, by simp only; omega, hn⟩
  have hopen : (openSealed codec sum c.toCipher _ f t).1 = .ok x :=
    (openSealed_ok c).mpr ⟨hshaped, hvalid, rfl, raw, hissued, hverify⟩
  unfold sealRaw
  rw [hverify]
  dsimp only
  rw [c.keyVersion_eq, if_neg (by simp [hkey]), hencrypt]
  dsimp only
  rw [c.keyVersion_eq, if_neg (by simp only [ne_eq, not_true_eq_false, or_false]; omega)]
  split
  · rename_i e s' hfailed
    rw [hfailed] at hopen
    cases hopen
  · exact ⟨_, rfl⟩

variable {c} {t : σ}

theorem Sealed.opens (h : Sealed codec sum c raw f v t) :
    (openSealed codec sum c.toCipher v f t).1 = .ok ⟨v.factsHash, v.txHash, v.rawSha256⟩ :=
  (openSealed_ok c).mpr ⟨h.shaped, h.valid, rfl, raw, h.issued, h.verified⟩

/-- The record of the ciphertext is for one set of facts only, whatever hash the value bears. -/
theorem Sealed.facts_eq (h : Sealed codec sum c raw f v t)
    (hcollision : sum f.marshal.toByteArray = sum g.marshal.toByteArray →
      f.marshal.toByteArray = g.marshal.toByteArray) {hash : String}
    (hopen : (openSealed codec sum c.toCipher { v with factsHash := hash } g t).1 = .ok x) :
    g = f := by
  obtain ⟨-, hvalid, -, p, hissued, -⟩ := (openSealed_ok c).mp hopen
  have hsame := c.distinct t _ h.issued _ hissued (.inl rfl)
  exact (facts_of_aadBytes h.valid hvalid hcollision (congrArg Issued.aad hsame)).symm

/-- One unchanged part of the encryption fixes the whole value. -/
theorem Sealed.value_eq (h : Sealed codec sum c raw f v t) {v' : Encrypted}
    (hopen : (openSealed codec sum c.toCipher v' f t).1 = .ok x)
    (hpart : v'.ciphertext = v.ciphertext ∨ v'.nonce = v.nonce) : v' = v := by
  obtain ⟨hshaped, -, rfl, p, hissued, hverified⟩ := (openSealed_ok c).mp hopen
  have hsame := c.distinct t _ hissued _ h.issued hpart
  obtain rfl : p = raw := congrArg Issued.plaintext hsame
  have hhashes := Except.ok.inj (hverified.symm.trans h.verified)
  obtain ⟨version, factsHash, txHash, rawSha256, keyVersion, ciphertext, nonce⟩ := v
  obtain ⟨version', factsHash', txHash', rawSha256', keyVersion', ciphertext', nonce'⟩ := v'
  obtain ⟨rfl, -, rfl, -⟩ := hshaped
  obtain ⟨rfl, -, rfl, -⟩ := h.shaped
  cases hhashes
  cases hsame
  rfl

end

/-! ## The envelope -/

theorem Envelope.marshaled (m : Envelope) : m.json.Marshaled := by
  refine Value.marshaled_struct ?_
  simp [Envelope.members, Value.marshaled_text, Value.marshaled_nat]

theorem decodeMembers_json (m : Envelope) : decodeMembers m.json = some m := by
  have hmembers : members? m.json = some m.members := members?_struct _
  have hvalues := fieldValues_self envelopeNames m.members rfl (by simp [envelopeNames])
  simp only [Envelope.members, List.forall_mem_cons] at hvalues
  obtain ⟨h₁, h₂, h₃, h₄, h₅, h₆, h₇, h₈, -⟩ := hvalues
  unfold decodeMembers
  rw [hmembers, Option.bind_eq_bind, Option.bind_some]
  unfold Envelope.members
  simp only [h₁, h₂, h₃, h₄, h₅, h₆, h₇, h₈, fill_text, fill_nat (UInt64.toNat_lt _),
    Option.bind_eq_bind, Option.bind_some, UInt64.ofNat_toNat]

/-- The longest text of each field of an envelope. -/
def envelopeBounds : List Nat := [20, 66, 68, 66, 130, 262178, 26, 32]

/-- The envelope of a value is within the limit of `DecodeEnvelopeMetadata`. -/
theorem Encrypted.fits_envelope {sum : Sum256} {f : Facts} {v : Encrypted} {key time : String}
    (h : v.Shaped key (digest sum f.marshal)) (htime : f.Covers time) :
    (v.envelope time).json.Fits (2 * maxRawBytes + 2048) := by
  obtain ⟨-, hkey, -, hfacts, htx, hraw, -, hlength, hnonce⟩ := h
  obtain ⟨completed, hcompleted, -⟩ := htime
  have hhash : (Value.text v.factsHash).Fits 66 := by
    rw [hfacts]
    exact fits_hex (isHex_textBytes _) (le_of_eq (by rw [length_textBytes, Vector.length_toList]))
  have hciphertext : (Value.text (textBytes v.ciphertext)).Fits 262178 :=
    fits_hex (isHex_textBytes _) (by rw [length_textBytes]; rw [maxRawBytes] at hlength; omega)
  have hencryption : (Value.text (textBytes v.nonce)).Fits 26 :=
    fits_hex (isHex_textBytes _) (by rw [length_textBytes]; omega)
  exact Value.fits_struct envelopeNames envelopeBounds rfl (by decide +kernel) (by decide +kernel)
    (.cons (Value.fits_uint64 _) <| .cons hhash <| .cons (fits_markedHex htx) <|
      .cons (fits_fixedHex hraw) <| .cons (fits_id hkey) <| .cons hciphertext <|
      .cons hencryption <|
      .cons (fits_time hcompleted) .nil)

/-- The envelope of a value is read back, and is the only text that is read as the value. -/
theorem decodeEnvelopeMetadata_eq_some {sum : Sum256} {f : Facts} {v : Encrypted}
    {text time : String} :
    decodeEnvelopeMetadata sum text f = some (v, time) ↔
      f.validate = true ∧ v.Shaped v.keyVersion (digest sum f.marshal) ∧ f.Covers time ∧
        text = (v.envelope time).marshal := by
  constructor
  · intro h
    unfold decodeEnvelopeMetadata at h
    obtain ⟨-, h⟩ := Option.ite_none_left_eq_some.mp h
    split at h
    swap
    · cases h
    rename_i m canonical hash hparse hcanonical
    obtain ⟨hvalid, hpair⟩ := Option.ite_none_right_eq_some.mp hcanonical
    obtain ⟨hchecks, h⟩ := Option.ite_none_left_eq_some.mp h
    simp only [not_or, not_not, Bool.not_eq_false, Nat.not_le, Nat.not_lt] at hchecks
    obtain ⟨htext, hversion, hfacts, htime, htx, hraw, hkey, hnonce, hshort, hlong, hlower,
      hlowerNonce⟩ :=
      hchecks
    split at h
    swap
    · cases h
    rename_i ciphertext nonce hciphertext hencryption
    cases h
    cases hpair
    have hct := textBytes_of_hexBytes hlower hciphertext
    have hn := textBytes_of_hexBytes hlowerNonce hencryption
    have henvelope : m = ⟨m.version, m.factsHash, m.txHash, m.rawSha256, m.keyVersion,
        textBytes ciphertext, textBytes nonce, m.completedAt⟩ := by
      rw [← hct, ← hn]
    rw [hn, utf8ByteSize_textBytes] at hnonce
    rw [hct, utf8ByteSize_textBytes] at hshort hlong
    refine ⟨hvalid, ⟨hversion, hkey, rfl, hfacts, htx, hraw, ?_, ?_, ?_⟩, htime, ?_⟩
    · show 16 < ciphertext.length
      omega
    · show ciphertext.length ≤ maxRawBytes + 16
      omega
    · show nonce.length = 12
      omega
    · rw [← htext, henvelope]
      rfl
  · rintro ⟨hvalid, hshaped, htime, rfl⟩
    have hsize : ¬ 2 * maxRawBytes + 2048 < (v.envelope time).marshal.utf8ByteSize :=
      not_lt.mpr (Encrypted.fits_envelope hshaped htime).utf8ByteSize_le
    have hdecoded : (parse (v.envelope time).marshal).bind decodeMembers =
      some (v.envelope time) := by
      rw [Envelope.marshal, parse_render (Envelope.marshaled _), Option.bind_some,
        decodeMembers_json]
    obtain ⟨hversion, hkey, -, hfacts, htx, hraw, hshort, hlong, hnonce⟩ := hshaped
    unfold decodeEnvelopeMetadata
    rw [if_neg hsize, hdecoded, Facts.canonical_eq sum hvalid]
    dsimp only
    rw [if_neg]
    · simp only [Encrypted.envelope, textBytes, String.toList_ofList, hexBytes_encode]
    · simp only [Encrypted.envelope, utf8ByteSize_textBytes, lowerCase_textBytes, hversion, hkey,
        hfacts, htx, hraw, htime, hnonce, not_true_eq_false, ne_eq, false_or, or_false,
        Bool.true_eq_false]
      omega

/-! ## The whole -/

/-- What `Seal` accepts is signed as the facts say, for any cipher, and with an ideal one it accepts
all that is, as far as the cipher encrypts it. At any later time a sealed value opens to the hashes
of its bytes; it opens under no other facts, with whatever hash of the facts it is labelled, and
with nothing changed while the ciphertext or the nonce is that of the value; all that opens was
encrypted by this cipher for these facts. Its envelope is read back, and no other text is read as
the value and a time. -/
theorem sealed_values {Signature : Type} (codec : Codec Signature) (sum : Sum256) :
    (∀ {σ : Type} (c : Cipher σ) raw f s v s', sealRaw codec sum c raw f s = (.ok v, s') →
      ∃ tx, Signs codec raw f tx ∧ v.txHash = "0x" ++ textBytes (codec.hash tx).toList ∧
        v.rawSha256 = rawDigest sum raw) ∧
    (∀ {σ : Type} (c : Ideal σ) raw f s x ct n t, verify codec sum raw f = .ok x →
      markedHex x.txHash 64 = true → fixedHex x.rawSha256 64 = true → validID c.key = true →
      c.encrypt raw (f.aadBytes sum) s = (some (ct, n), t) → ct.length = raw.length + 16 →
      n.length = 12 → ∃ s', sealRaw codec sum c.toCipher raw f s =
        (.ok ⟨1, x.factsHash, x.txHash, x.rawSha256, c.key, ct, n⟩, s')) ∧
    ∀ {σ : Type} (c : Ideal σ) raw f s v s', sealRaw codec sum c.toCipher raw f s = (.ok v, s') →
      (∀ t, c.issued s' ⊆ c.issued t →
        (openSealed codec sum c.toCipher v f t).1 = .ok ⟨v.factsHash, v.txHash, v.rawSha256⟩ ∧
        (∀ g, g ≠ f →
          (sum f.marshal.toByteArray = sum g.marshal.toByteArray →
            f.marshal.toByteArray = g.marshal.toByteArray) →
          ∀ hash, ∃ e,
            (openSealed codec sum c.toCipher { v with factsHash := hash } g t).1 = .error e) ∧
        (∀ v', v' ≠ v → v'.ciphertext = v.ciphertext ∨ v'.nonce = v.nonce →
          ∃ e, (openSealed codec sum c.toCipher v' f t).1 = .error e) ∧
        (∀ v' x, (openSealed codec sum c.toCipher v' f t).1 = .ok x →
          ∃ p tx, ⟨p, f.aadBytes sum, v'.ciphertext, v'.nonce⟩ ∈ c.issued t ∧ Signs codec p f tx)) ∧
      (∀ time, f.Covers time →
        decodeEnvelopeMetadata sum (v.envelope time).marshal f = some (v, time)) ∧
      ∀ text time, decodeEnvelopeMetadata sum text f = some (v, time) →
        text = (v.envelope time).marshal := by
  have hrefused : ∀ {x : Except Failure Verification}, (∀ y, x ≠ .ok y) → ∃ e, x = .error e := by
    rintro (e | y) h
    · exact ⟨e, rfl⟩
    · exact absurd rfl (h y)
  refine ⟨fun c raw f s v s' h => ?_, fun c _ _ _ _ _ _ _ h₁ h₂ h₃ h₄ h₅ h₆ h₇ =>
    sealRaw_complete c h₁ h₂ h₃ h₄ h₅ h₆ h₇, fun c raw f s v s' h =>
    ⟨fun t hlater => ?_, fun time htime => ?_, fun text time htext =>
      (decodeEnvelopeMetadata_eq_some.mp htext).2.2.2⟩⟩
  · obtain ⟨-, -, -, tx, hsigns, hhashes⟩ := verify_ok (verify_of_sealRaw c h)
    obtain ⟨-, htx, hraw⟩ := Verification.mk.inj hhashes
    exact ⟨tx, hsigns, htx, hraw⟩
  · have hsealed : Sealed codec sum c raw f v t :=
      { sealed_of_sealRaw c h with issued := hlater (sealed_of_sealRaw c h).issued }
    refine ⟨hsealed.opens, fun g hg hcollision hash => hrefused fun x hopen => ?_,
      fun v' hv' hpart => hrefused fun x hopen => hv' (hsealed.value_eq hopen hpart),
      fun v' x hopen => ?_⟩
    · exact hg (hsealed.facts_eq hcollision hopen)
    · obtain ⟨-, -, -, p, hissued, hverified⟩ := (openSealed_ok c).mp hopen
      obtain ⟨-, -, -, tx, hsigns, -⟩ := verify_ok hverified
      exact ⟨p, tx, hissued, hsigns⟩
  · have hsealed := sealed_of_sealRaw c h
    have hshaped : v.Shaped v.keyVersion (digest sum f.marshal) := by
      obtain ⟨hversion, hkey, -, hrest⟩ := hsealed.shaped
      exact ⟨hversion, hkey, rfl, hrest⟩
    exact decodeEnvelopeMetadata_eq_some.mpr ⟨hsealed.valid, hshaped, htime, rfl⟩

/-! ### A sealed transaction -/

def sampleHex (n : Nat) : String := String.ofList (List.replicate n '1')

def sampleFacts : Facts where
  version := 1
  operationId := "op"
  requestId := "request"
  executionStepId := "manual-exec:op"
  attemptId := "manual-nonce:op"
  walletId := "wallet"
  reservationId := "manual-risk:op"
  contractHash := sampleHex 64
  chainId := 4663
  sender := "0x" ++ sampleHex 40
  recipient := "0x" ++ sampleHex 40
  value := "1"
  data := "0x11"
  nonce := "7"
  gasLimit := 21000
  gasFeeCap := "2"
  gasTipCap := "1"
  policyVersion := 1
  policyHash := sampleHex 64
  quoteBlockNumber := 1
  quoteBlockHash := "0x" ++ sampleHex 64
  runtimeCodeHash := "0x" ++ sampleHex 64
  expiresAt := "2026-01-01T00:01:00Z"
  claimedAt := "2026-01-01T00:00:00Z"
  claimObservationHash := sampleHex 64
  deadlineCapability := "APPLICATION_TTL_ONLY"
  contractDeadline := false
  authorizationId := "authorization"
  authorizationEpoch := 1
  manualPolicyId := "policy"
  manualPolicyHash := sampleHex 64
  gateEvidenceSetHash := sampleHex 64
  environment := "prod"
  buildSha := sampleHex 40
  releaseId := "release"
  deploymentId := "deployment"

/-- The transaction of the sample facts. -/
def sampleTransaction : Transaction Unit :=
  ⟨2, 0, ⟨4663, 7, some (List.replicate 20 0x11), 1, [0x11], 21000, 2, 1⟩, ()⟩

/-- A codec that knows one transaction. -/
def sampleCodec : Codec Unit where
  unmarshal raw := if raw = [2] then some sampleTransaction else none
  marshal _ := some [2]
  hash _ := .replicate 32 0x11
  sender _ _ := some (List.replicate 20 0x11)

def sampleSum : Sum256 := fun _ => .replicate 32 0x11

def noRecords : {rs : List Issued // Distinct rs} := ⟨[], by simp [Distinct]⟩

theorem sample_sealed : ∃ v s',
    sealRaw sampleCodec sampleSum (recorder "key").toCipher [2] sampleFacts noRecords =
    (.ok v, s') ∧
    (openSealed sampleCodec sampleSum (recorder "key").toCipher v sampleFacts s').1 =
      .ok ⟨v.factsHash, v.txHash, v.rawSha256⟩ := by
  obtain ⟨-, hcomplete, hsealed⟩ := sealed_values sampleCodec sampleSum
  have hok : ((verify sampleCodec sampleSum [2] sampleFacts).toOption.any fun x =>
      markedHex x.txHash 64 && fixedHex x.rawSha256 64) = true := by decide +kernel
  cases hverify : verify sampleCodec sampleSum [2] sampleFacts with
  | error e =>
      rw [hverify] at hok
      cases hok
  | ok x =>
      rw [hverify] at hok
      obtain ⟨htx, hraw⟩ := Bool.and_eq_true_iff.mp hok
      obtain ⟨s', hs⟩ := hcomplete (recorder "key") _ _ noRecords _ _ _ _ hverify htx hraw
        (by decide +kernel) rfl rfl rfl
      exact ⟨_, s', hs, ((hsealed (recorder "key") _ _ _ _ _ hs).1 s' (fun _ h => h)).1⟩

end RbhTrade.ManualArtifact
