import RbhTrade.Operator.Macs

/-!
# Envelopes in SQL and in Go

The triggers read an envelope as the JSON members of a text; `VerifyOperatorApprovalAt` marshals the
envelope again and checks the signature over that. The triggers fix neither the order of the members
nor the escapes of a text, and they leave some fields free that `canonicalPayload` checks. An
approval that satisfies both guards passes the verifier exactly if the text of its request is what
`json.Marshal` writes and those fields pass.
-/

namespace RbhTrade.Operator

open GoTime Hex Json SqlJson Tables

/-! ## The fields of a marshaled envelope -/

def Envelope.texts (e : Envelope) : List (String × String) :=
  [("domain", e.domain), ("approval_id", e.approvalId), ("request_id", e.requestId),
    ("operator_key_id", e.operatorKeyId), ("issued_at", e.issuedAt), ("expires_at", e.expiresAt),
    ("authorization_id", e.authorizationId), ("build_sha", e.buildSha), ("release_id", e.releaseId),
    ("deployment_id", e.deploymentId), ("environment", e.environment), ("wallet_id", e.walletId),
    ("wallet_address", e.walletAddress), ("policy_hash", e.policyHash),
    ("gate_evidence_set_hash", e.gateEvidenceSetHash), ("max_total_input", e.maxTotalInput),
    ("source_hash", e.sourceHash), ("nonce", e.nonce), ("schema_version", e.schemaVersion)]

def Envelope.numbers (e : Envelope) : List (String × UInt64) :=
  [("authorization_epoch", e.authorizationEpoch), ("chain_id", e.chainId),
    ("policy_version", e.policyVersion), ("max_operations", e.maxOperations)]

/-- The text is the minified JSON object whose members are the fields of the envelope, in some
order. -/
structure Carries (text : String) (v : Value) (e : Envelope) : Prop where
  parsed : parse text = some v
  minified : v.render = text
  keys : HasKeys envelopeKeys v
  texts : ∀ f ∈ e.texts, at? v [f.1] = some (.text f.2)
  numbers : ∀ f ∈ e.numbers, at? v [f.1] = some (.nat f.2.toNat)

theorem envelopeKeys_nodup : envelopeKeys.Nodup := by
  simp [envelopeKeys]

theorem Envelope.members_marshaled (e : Envelope) : ∀ f ∈ e.members, f.2.Marshaled := by
  simp [Envelope.members, Value.marshaled_text, Value.marshaled_nat]

theorem Envelope.carries_marshal (e : Envelope) : Carries e.marshal e.json e where
  parsed := parse_render (Value.marshaled_struct e.members_marshaled)
  minified := rfl
  keys := hasKeys_struct rfl envelopeKeys_nodup
  texts := by simp [Envelope.texts, Envelope.json, Envelope.members, List.lookup_cons]
  numbers := by simp [Envelope.numbers, Envelope.json, Envelope.members, List.lookup_cons]

section Carries

variable {text : String} {v : Value} {e : Envelope}

theorem Carries.text_eq (h : Carries text v e) (key s : String) (hmem : (key, s) ∈ e.texts) :
    field text key = .text s := by
  rw [field, h.parsed]
  exact extract_text (h.texts (key, s) hmem)

theorem Carries.number_eq (h : Carries text v e) (key : String) (n : UInt64)
    (hmem : (key, n) ∈ e.numbers) : field text key = .ofInt n.toNat := by
  rw [field, h.parsed]
  exact extract_nat (h.numbers (key, n) hmem)

theorem Carries.type_text (h : Carries text v e) (key s : String) (hmem : (key, s) ∈ e.texts) :
    type? v [key] = some .text := type?_text (h.texts (key, s) hmem)

theorem Carries.type_number (h : Carries text v e) (key : String) (n : UInt64)
    (hmem : (key, n) ∈ e.numbers) : type? v [key] = some .integer :=
  type?_nat (h.numbers (key, n) hmem)

theorem Carries.version (h : Carries text v e) (hcanonical : EnvelopeCanonical text) :
    e.schemaVersion = "1" := by
  obtain ⟨w, hw, -, -, -, -, -, -, -, -, -, hversion⟩ := hcanonical
  obtain rfl := Option.some.inj (h.parsed.symm.trans hw)
  rwa [extract_text (h.texts ("schema_version", e.schemaVersion) (by simp [Envelope.texts])),
    Scalar.eq_text] at hversion

/-- The text of an envelope of version 1 whose cap is a text of digits has the form that the upgrade
guard asks for. -/
theorem Carries.envelopeCanonical (h : Carries text v e) (hversion : e.schemaVersion = "1")
    (hdigits : SqlText.allIn Char.isDigit e.maxTotalInput = true)
    (hlen : 0 < SqlText.length e.maxTotalInput) : EnvelopeCanonical text := by
  have hcap := extract_text (h.texts ("max_total_input", e.maxTotalInput)
    (by simp [Envelope.texts]))
  have hone := extract_text (h.texts ("schema_version", e.schemaVersion) (by simp [Envelope.texts]))
  refine ⟨v, h.parsed, h.minified, h.keys, h.type_text _ e.domain (by simp [Envelope.texts]),
    h.type_number _ e.authorizationEpoch (by simp [Envelope.numbers]),
    h.type_number _ e.chainId (by simp [Envelope.numbers]),
    h.type_number _ e.policyVersion (by simp [Envelope.numbers]),
    h.type_number _ e.maxOperations (by simp [Envelope.numbers]),
    h.type_text _ e.maxTotalInput (by simp [Envelope.texts]), ?_, ?_⟩
  · rw [hcap]
    exact ⟨_, rfl, hdigits, hlen⟩
  · rw [hone, Scalar.eq_text, hversion]

/-- What has the form of the upgrade guard passes the trigger of the requests. -/
theorem RequestCanonical.of_envelopeCanonical (h : EnvelopeCanonical text) :
    RequestCanonical text := by
  obtain ⟨v, hv, hmin, hkeys, hdomain, hepoch, hchain, hpolicy, hops, htotal,
    ⟨s, hs, hdigits, hlen⟩, hversion⟩ := h
  refine ⟨v, hv, hmin, hkeys, ?_⟩
  rw [hdomain, hepoch, hchain, hpolicy, hops, htotal, Option.mem_def.mp hs]
  simp only [Option.mem_def, Option.some.injEq, forall_eq', true_and]
  exact ⟨⟨hdigits, hlen⟩, by rw [Scalar.ne, hversion, Bool.not_true, Bool.and_false]⟩

end Carries

/-! ## Decoding -/

theorem decodeText_text (s : String) : decodeText (some (.text s)) = some s := by
  simp [decodeText, Value.text]

theorem decodeUint_nat (n : UInt64) : decodeUint (some (.nat n.toNat)) = some n := by
  have hne : Nat.toDigits 10 n.toNat ≠ [] := Nat.toDigits_ne_nil
  have hlt := n.toNat_lt
  simp only [decodeUint, Value.nat, Decimal.digitsFrom_toDigits]
  rw [if_pos ⟨hne, hlt⟩, UInt64.ofNat_toNat]

variable {e : Envelope} {db : OperatorDb} {host : OperatorHost}

theorem decodeFields_eq {text : String → Option String} {uint : String → Option UInt64}
    (htext : ∀ f ∈ e.texts, text f.1 = some f.2) (huint : ∀ f ∈ e.numbers, uint f.1 = some f.2) :
    decodeFields text uint = some e := by
  simp only [Envelope.texts, Envelope.numbers, List.forall_mem_cons, List.not_mem_nil,
    false_imp_iff, implies_true, and_true] at htext huint
  obtain ⟨t₁, t₂, t₃, t₄, t₅, t₆, t₇, t₈, t₉, t₁₀, t₁₁, t₁₂, t₁₃, t₁₄, t₁₅, t₁₆, t₁₇, t₁₈, t₁₉⟩ :=
    htext
  obtain ⟨n₁, n₂, n₃, n₄⟩ := huint
  unfold decodeFields
  rw [t₁, t₂, t₃, t₄, t₅, t₆, t₇, t₈, t₉, t₁₀, t₁₁, t₁₂, t₁₃, t₁₄, t₁₅, t₁₆, t₁₇, t₁₈, t₁₉, n₁, n₂,
    n₃, n₄]
  rfl

/-- The envelope is decoded from any text that carries it. -/
theorem Carries.decode {text : String} {v : Value} (h : Carries text v e) :
    decodeEnvelope text = some e := by
  unfold decodeEnvelope
  rw [h.parsed]
  refine decodeFields_eq (fun f hf => ?_) fun f hf => ?_
  · rw [h.texts f hf, decodeText_text]
  · rw [h.numbers f hf, decodeUint_nat]

/-! ## What a run keeps -/

/-- The primary keys of the requests and of the trust roots, the window of an approval as its
request names it, the form of a source hash, and the checks of the other tables. -/
structure OperatorDb.Sound (host : OperatorHost) (db : OperatorDb) : Prop where
  requests : KeyUnique RequestRow.requestId db.requests
  roots : KeyUnique TrustRoot.operatorKeyId db.roots
  windows : ∀ ap ∈ db.approvals, ∃ r ∈ db.requests, r.requestId = ap.requestId ∧
    EqText host (field r.canonicalEnvelope "issued_at") ap.issuedAt ∧
    EqText host (field r.canonicalEnvelope "expires_at") ap.expiresAt
  sources : ∀ x ∈ db.sources, Hex64 x.sourceHash
  checked : db.Checked

theorem OperatorDb.Sound.exec {db' : OperatorDb} (h : db.Sound host) {act : OperatorAct}
    (hexec : act.exec host db = some db') : db'.Sound host := by
  cases act with
  | bootstrap b =>
      obtain ⟨-, ⟨⟩⟩ := Option.ite_none_right_eq_some.mp hexec
      exact ⟨h.requests, h.roots, h.windows, h.sources, h.checked⟩
  | root r =>
      obtain ⟨⟨-, -, -, -, hfresh⟩, ⟨⟩⟩ := Option.ite_none_right_eq_some.mp hexec
      exact ⟨h.requests, h.roots.append hfresh, h.windows, h.sources, h.checked⟩
  | request r =>
      obtain ⟨⟨-, -, -, -, hfresh⟩, ⟨⟩⟩ := Option.ite_none_right_eq_some.mp hexec
      refine ⟨h.requests.append hfresh, h.roots, fun ap hap => ?_, h.sources, h.checked⟩
      obtain ⟨x, hx, hwindow⟩ := h.windows ap hap
      exact ⟨x, List.mem_append_left _ hx, hwindow⟩
  | approval ap =>
      obtain ⟨⟨-, -, ⟨-, r, hr, hid, -, -, hissued, hexpires, -⟩, -⟩, ⟨⟩⟩ :=
        Option.ite_none_right_eq_some.mp hexec
      refine ⟨h.requests, h.roots, fun x hx => ?_, h.sources, h.checked⟩
      rcases List.mem_append.mp hx with hx | hx
      · exact h.windows x hx
      · obtain rfl := List.mem_singleton.mp hx
        exact ⟨r, hr, hid, hissued, hexpires⟩
  | source x =>
      obtain ⟨⟨hhex, -⟩, ⟨⟩⟩ := Option.ite_none_right_eq_some.mp hexec
      refine ⟨h.requests, h.roots, h.windows, fun y hy => ?_, h.checked⟩
      rcases List.mem_append.mp hy with hy | hy
      · exact h.sources y hy
      · obtain rfl := List.mem_singleton.mp hy
        exact hhex
  | c07 c =>
      obtain ⟨-, ⟨⟩⟩ := Option.ite_none_right_eq_some.mp hexec
      exact ⟨h.requests, h.roots, h.windows, h.sources, h.checked⟩
  | gate g =>
      obtain ⟨-, ⟨⟩⟩ := Option.ite_none_right_eq_some.mp hexec
      exact ⟨h.requests, h.roots, h.windows, h.sources, h.checked⟩
  | revocation r =>
      obtain ⟨-, ⟨⟩⟩ := Option.ite_none_right_eq_some.mp hexec
      exact ⟨h.requests, h.roots, h.windows, h.sources, h.checked⟩
  | arm id =>
      simp only [OperatorAct.exec, OperatorDb.arm] at hexec
      split at hexec
      · obtain ⟨-, ⟨⟩⟩ := Option.ite_none_right_eq_some.mp hexec
        refine ⟨h.requests, h.roots, h.windows, h.sources, ?_, h.checked.2⟩
        rw [List.forall_mem_map]
        intro a ha
        split <;> exact h.checked.1 a ha
      · cases hexec
  | other s checked =>
      obtain rfl := Option.some.inj hexec
      exact ⟨h.requests, h.roots, h.windows, h.sources, checked⟩

theorem OperatorDb.Sound.step (h : db.Sound host) (act : OperatorAct) :
    (operatorStep host db act).Sound host := by
  unfold operatorStep
  cases hexec : act.exec host db with
  | none => exact h
  | some db' => exact h.exec hexec

theorem operatorRun_sound (host : OperatorHost) {s : Surroundings} (hs : s.Checked)
    (acts : List OperatorAct) : (operatorRun host s acts).Sound host :=
  List.foldlRecOn acts _
    ⟨List.nodup_nil, List.nodup_nil, List.forall_mem_nil _, List.forall_mem_nil _, hs⟩
    fun _ h act _ => h.step act

theorem OperatorDb.mem_products {j : ArmRows} :
    j ∈ db.products ↔ j.approval ∈ db.approvals ∧ j.request ∈ db.requests ∧ j.root ∈ db.roots ∧
      j.source ∈ db.sources ∧ j.c07 ∈ db.c07s ∧ j.clock ∈ db.clocks := by
  simp only [OperatorDb.products, List.mem_flatMap, List.mem_map]
  constructor
  · rintro ⟨approval, happroval, request, hrequest, root, hroot, source, hsource, c07, hc07, clock,
      hclock, rfl⟩
    exact ⟨happroval, hrequest, hroot, hsource, hc07, hclock⟩
  · rintro ⟨happroval, hrequest, hroot, hsource, hc07, hclock⟩
    exact ⟨_, happroval, _, hrequest, _, hroot, _, hsource, _, hc07, _, hclock, rfl⟩

/-- The window of the approval is the one its request names. -/
theorem OperatorDb.Sound.window (h : db.Sound host) {j : ArmRows} (hj : j ∈ db.products)
    (hrequest : j.request.requestId = j.approval.requestId) :
    EqText host (field j.request.canonicalEnvelope "issued_at") j.approval.issuedAt ∧
      EqText host (field j.request.canonicalEnvelope "expires_at") j.approval.expiresAt := by
  obtain ⟨hap, hreq, -⟩ := OperatorDb.mem_products.mp hj
  obtain ⟨r, hr, hid, hwindow⟩ := h.windows j.approval hap
  obtain rfl : r = j.request := h.requests.eq hr hreq (hid.trans hrequest.symm)
  exact hwindow

/-! ## What the guards check of the fields -/

/-- The fields that `canonicalPayload` checks and the triggers leave free. -/
def Envelope.FreeFields (e : Envelope) : Prop :=
  (e.approvalId ≠ "" ∧ e.requestId ≠ "" ∧ e.walletId ≠ "" ∧ e.nonce ≠ "") ∧
    (isHexAddress e.walletAddress = true ∧ (addressDigits e.walletAddress).all (· = '0') = false) ∧
    (hashText [40, 64] e.buildSha = true ∧ hashText [64] e.gateEvidenceSetHash = true ∧
      SqlText.NoNul e.policyHash ∧ SqlText.NoNul e.sourceHash) ∧
    ∃ n ∈ Decimal.canonical? e.maxTotalInput, 0 < n
deriving Decidable

/-- A column of 64 digits without a NUL character is a hash. -/
theorem hashText_of_hex {s : String} (hnul : SqlText.NoNul s) (h : Hex64 s) :
    hashText [64] s = true := by
  obtain ⟨hlen, hall⟩ := h
  rw [SqlText.length_of_noNul hnul] at hlen
  rw [SqlText.allIn_of_noNul hnul] at hall
  have hsize : s.utf8ByteSize = 64 := by
    rw [SqlText.utf8ByteSize_eq_length
      fun c hc => utf8Size_of_isHex (List.all_eq_true.mp hall c hc), hlen]
  have heven : s.toList.length % 2 = 0 := by rw [String.length_toList, hlen]
  simp only [hashText, hsize, Bool.and_eq_true]
  exact ⟨by decide, decode_isSome heven hall⟩

theorem Hex64.of_lower {s : String} (h : Risk.LowerHex64 s) : Hex64 s := by
  refine ⟨h.1, List.all_eq_true.mpr fun c hc => ?_⟩
  exact (isLowerHex_iff.mp (List.all_eq_true.mp h.2 c hc)).1

theorem eqText_text {s t : String} : EqText host (.text s) t ↔ s = t := Iff.rfl

theorem eqInt_ofInt {n : Nat} {k : Int} (hn : n < 2 ^ 63) :
    EqInt host (.ofInt n) k ↔ (n : Int) = k := by
  obtain ⟨-, hint⟩ | ⟨-, -, hlarge, -⟩ := Scalar.ofInt_cases n
  · rw [hint]
    rfl
  · omega

/-- A number of the envelope that equals a positive column is not zero. -/
theorem EqInt.ne_zero {n : UInt64} {k : Nat} (hk : 0 < k) (h : EqInt host (.ofInt n.toNat) k) :
    n ≠ 0 := by
  have hpos : 0 < n.toNat := by
    obtain ⟨-, hint⟩ | ⟨-, -, hlarge, -⟩ := Scalar.ofInt_cases n.toNat
    · rw [hint] at h
      have heq : (n.toNat : Int) = k := h
      omega
    · exact lt_of_lt_of_le (Nat.two_pow_pos 63) hlarge
  intro hzero
  rw [hzero] at hpos
  exact absurd hpos (by decide)

/-- The fields that the guards fix. -/
structure Envelope.Fixed (e : Envelope) : Prop where
  domain : e.domain = authorizationDomain
  version : e.schemaVersion = "1"
  chain : e.chainId = 4663
  key : e.operatorKeyId ≠ ""
  authorization : e.authorizationId ≠ ""
  environment : e.environment ≠ ""
  epoch : e.authorizationEpoch ≠ 0
  policyVersion : e.policyVersion ≠ 0
  maxOperations : e.maxOperations ≠ 0
  policyHash : Hex64 e.policyHash
  sourceHash : Hex64 e.sourceHash

theorem policyHash?_mem {a : RuntimeAuthorization} {hash : String} (h : hash ∈ db.policyHash? a) :
    ∃ p ∈ db.policies, p.policyHash = hash := by
  simp only [OperatorDb.policyHash?, Option.mem_def, Option.bind_eq_bind,
    Option.bind_eq_some_iff, Option.some.injEq] at h
  obtain ⟨u, -, p, hp, rfl⟩ := h
  exact ⟨p, List.mem_of_find?_eq_some hp, rfl⟩

/-- An envelope that both guards accept has the fields they fix. -/
theorem Carries.fixed (hsound : db.Sound host) {a : RuntimeAuthorization}
    (ha : a ∈ db.authorizations) {j : ArmRows} (hj : j ∈ db.products)
    (hno : j.PassesNoArm host db a) (hup : j.PassesUpgrade host db a) {v : Value}
    (h : Carries j.request.canonicalEnvelope v e) : e.Fixed := by
  obtain ⟨⟨-, hroot, -, ⟨hc07id, -⟩, henvironment, -⟩, -, hnames, hbinds, -⟩ := hno
  obtain ⟨-, hcanonical, -, happroval, -, -, -, -, ⟨boot, -, hof, hboot, -⟩, hc07, -⟩ := hup
  obtain ⟨-, -, -, hsource, -, hclock⟩ := OperatorDb.mem_products.mp hj
  obtain ⟨hepoch, hversion, hops⟩ := hsound.checked.1 a ha
  obtain ⟨hdomain, hauth, hepoch', -⟩ := hnames
  obtain ⟨hchain, -, -, henv, -, -, hpolicy, ⟨hash, hhash, hphash⟩, hshash, -, hmaxops, -⟩ := hbinds
  obtain ⟨-, -, -, hkey⟩ := happroval
  obtain ⟨p, hp, rfl⟩ := policyHash?_mem hhash
  rw [h.text_eq _ e.domain (by simp [Envelope.texts]), Scalar.eq_text] at hdomain
  rw [h.text_eq _ e.authorizationId (by simp [Envelope.texts]), eqText_text] at hauth
  rw [h.text_eq _ e.environment (by simp [Envelope.texts]), eqText_text] at henv
  rw [h.text_eq _ e.policyHash (by simp [Envelope.texts]), eqText_text] at hphash
  rw [h.text_eq _ e.sourceHash (by simp [Envelope.texts]), eqText_text] at hshash
  rw [h.text_eq _ e.operatorKeyId (by simp [Envelope.texts]), eqText_text] at hkey
  rw [h.number_eq _ e.authorizationEpoch (by simp [Envelope.numbers])] at hepoch'
  rw [h.number_eq _ e.policyVersion (by simp [Envelope.numbers])] at hpolicy
  rw [h.number_eq _ e.maxOperations (by simp [Envelope.numbers])] at hmaxops
  rw [h.number_eq _ e.chainId (by simp [Envelope.numbers]), Scalar.ofInt_eq (by decide)] at hchain
  exact {
    domain := hdomain
    version := h.version hcanonical
    chain := UInt64.toNat_inj.mp (by exact_mod_cast hchain)
    key := by
      rw [hkey, ← hroot, ← hof.1]
      exact fun h => (Row.proves_iff.mp hboot).2.2.1 (by simp [Row.parts, h])
    authorization := by
      rw [hauth, ← hc07id]
      exact fun h => (Row.proves_iff.mp hc07).2.2.1 (by simp [Row.parts, h])
    environment := by
      rw [henv, ← henvironment]
      exact hsound.checked.2.2 _ hclock
    epoch := EqInt.ne_zero hepoch hepoch'
    policyVersion := EqInt.ne_zero hversion hpolicy
    maxOperations := EqInt.ne_zero hops hmaxops
    policyHash := by
      rw [hphash]
      exact .of_lower (hsound.checked.2.1 p hp)
    sourceHash := by
      rw [hshash]
      exact hsound.sources _ hsource }

/-! ## The verifier -/

/-- An envelope with the fixed fields, free fields that pass and a window of canonical times has its
own text as its payload. -/
theorem Envelope.Fixed.payload (h : e.Fixed) (hfree : e.FreeFields) {issued expires : Instant}
    (hissued : formattedTime e.issuedAt = some issued)
    (hexpires : formattedTime e.expiresAt = some expires) (hwindow : issued < expires) :
    e.canonicalPayload = some e.marshal := by
  obtain ⟨⟨hap, hreq, hwallet, hnonce⟩, ⟨haddr, hzero⟩, ⟨hbuild, hgate, hpnul, hsnul⟩, n, hn,
    hpos⟩ :=
    hfree
  have hfields : ¬ (e.approvalId = "" ∨ e.requestId = "" ∨ e.operatorKeyId = "" ∨
      e.authorizationId = "" ∨ e.authorizationEpoch = 0 ∨ e.chainId ≠ 4663 ∨ e.environment = "" ∨
      e.walletId = "" ∨ e.policyVersion = 0 ∨ e.maxOperations = 0 ∨ e.nonce = "" ∨
      e.schemaVersion ≠ "1" ∨ e.domain ≠ authorizationDomain ∨
      isHexAddress e.walletAddress = false ∨
      (addressDigits e.walletAddress).all (· = '0')) := by
    simp only [not_or, Decidable.not_not]
    exact ⟨hap, hreq, h.key, h.authorization, h.epoch, h.chain, h.environment, hwallet,
      h.policyVersion, h.maxOperations, hnonce, h.version, h.domain,
      by simp [haddr], by simp [hzero]⟩
  have hhashes : ¬ (hashText [40, 64] e.buildSha = false ∨ hashText [64] e.policyHash = false ∨
      hashText [64] e.gateEvidenceSetHash = false ∨ hashText [64] e.sourceHash = false) := by
    simp [hbuild, hgate, hashText_of_hex hpnul h.policyHash, hashText_of_hex hsnul h.sourceHash]
  unfold Envelope.canonicalPayload
  rw [if_neg hfields, hissued, hexpires]
  simp only
  rw [if_neg (not_not.mpr hwindow), if_neg hhashes, Option.mem_def.mp hn]
  exact if_pos hpos

def reviewedHead : String := String.ofList (List.replicate 40 'e')

/-- An envelope for the authorization below, up to its own identifier, the key and the
operations. -/
def envelopeOf (id keyId : String) (operations : UInt64) : Envelope where
  domain := authorizationDomain
  approvalId := id
  requestId := id
  operatorKeyId := keyId
  issuedAt := "2026-01-01T00:00:00Z"
  expiresAt := "2026-01-03T00:00:00Z"
  authorizationId := "auth-1"
  authorizationEpoch := 1
  buildSha := reviewedHead
  releaseId := "release-1"
  deploymentId := "deploy-1"
  environment := "prod"
  chainId := 4663
  walletId := "wallet-1"
  walletAddress := "0x00000000000000000000000000000000000000aa"
  policyVersion := 1
  policyHash := key 'b'
  gateEvidenceSetHash := key 'd'
  maxOperations := operations
  maxTotalInput := "5"
  sourceHash := key 'c'
  nonce := id
  schemaVersion := "1"

def approvingCrypto : CryptoHost where
  secret := "secret"
  hmac _ _ := "mac"
  sha256 _ := key 'd'
  toLower text := text

/-- A host where the given texts are signed, each by the signature that starts with the given
byte. -/
def approvingHost (signed : List (Nat × String)) : OperatorHost where
  toCryptoHost := approvingCrypto
  ed25519 _ payload signature := signature.head?.any fun byte => (byte, payload) ∈ signed
  numberText _ := ""
  numeric _ := none

def pendingAuthorization : RuntimeAuthorization where
  id := "auth-1"
  epoch := 1
  state := .pending
  walletId := "wallet-1"
  policyVersion := 1
  deployment := ⟨"prod", reviewedHead, "release-1", "deploy-1"⟩
  maxOperations := 1
  maxTotalInput := "5"
  expiresAt := "2026-01-03T00:00:00Z"
  gateEvidenceSetHash := key 'd'

def admittedSource : AdmissionSource where
  operationId := "op-1"
  walletId := "wallet-1"
  policyVersion := 1
  sourceHash := key 'c'

def sampleClock : ManualGateClock := ⟨"prod", "2026-01-02T00:00:00Z", false, 1⟩

def declaredSurroundings : Surroundings where
  authorizations := [pendingAuthorization]
  units := [⟨"auth-1", "policy-1"⟩]
  policies := [⟨"policy-1", key 'b'⟩]
  wallets := [⟨"wallet-1", "0x00000000000000000000000000000000000000aa", true⟩]
  admissionSources := [admittedSource]
  canaryGates := [⟨.c04, key 'a', "t"⟩, ⟨.c05, key 'a', "t"⟩, ⟨.c08, key 'a', "t"⟩]
  clocks := [sampleClock]

def trustRoot (id : String) : TrustRoot := ⟨id, key 'a', key 'b', key 'c', none⟩

def bootstrapFor (id deployment : String) : BootstrapRow :=
  ⟨⟨id, key 'a', key 'b', key 'c', deployment⟩, "mac"⟩

def gateRow (gate : OperatorGate) : GateRow := ⟨"auth-1", 1, gate, ⟨key 'a', reviewedHead, "t"⟩⟩

def sourceRow : SourceRow := ⟨"auth-1", 1, "op-1", key 'c'⟩

def c07Row : C07Row := ⟨⟨"auth-1", 1, key 'a', reviewedHead, "t"⟩, "mac"⟩

/-- Two trust roots, one of them for another deployment, and the rows of the authorization. -/
def preparations : List OperatorAct :=
  [.bootstrap (bootstrapFor "key-1" "deploy-1"), .bootstrap (bootstrapFor "key-2" "deploy-2"),
    .root (trustRoot "key-1"), .root (trustRoot "key-2"), .source sourceRow, .c07 c07Row,
    .gate (gateRow .c04), .gate (gateRow .c05), .gate (gateRow .c07), .gate (gateRow .c08)]

/-- The database after the preparations, with the given requests and approvals. -/
def preparedDb (requests : List RequestRow) (approvals : List ApprovalRow) : OperatorDb where
  toSurroundings := declaredSurroundings
  roots := [trustRoot "key-1", trustRoot "key-2"]
  bootstraps := [bootstrapFor "key-1" "deploy-1", bootstrapFor "key-2" "deploy-2"]
  requests := requests
  approvals := approvals
  sources := [sourceRow]
  c07s := [c07Row]
  gates := [gateRow .c04, gateRow .c05, gateRow .c07, gateRow .c08]

def requestRow (id text : String) : RequestRow := ⟨id, "auth-1", 1, key 'd', text⟩

def signature (c : Char) : String := String.ofList (List.replicate 128 c)

def approvalRow (id keyId : String) (c : Char) : ApprovalRow :=
  ⟨id, id, keyId, key 'd', signature c, "2026-01-01T00:00:00Z", "2026-01-03T00:00:00Z"⟩

theorem operatorRun_append (host : OperatorHost) (s : Surroundings)
    (acts acts' : List OperatorAct) :
    operatorRun host s (acts ++ acts') = acts'.foldl (operatorStep host)
    (operatorRun host s acts) :=
  List.foldl_append

theorem operatorStep_some {db' : OperatorDb} {act : OperatorAct} (h : act.exec host db = some db') :
    operatorStep host db act = db' := by
  rw [operatorStep, h, Option.getD_some]

theorem foldl_operatorStep {db' target : OperatorDb} {act : OperatorAct} {acts : List OperatorAct}
    (hstep : operatorStep host db act = db') (hrest : acts.foldl (operatorStep host) db' = target) :
    (act :: acts).foldl (operatorStep host) db = target := by
  rw [List.foldl_cons, hstep, hrest]

section Preparations

variable {signed : List (Nat × String)} {db : OperatorDb}

theorem step_bootstrap (id deployment : String)
    (hlength : 1 ≤ SqlText.length deployment ∧ SqlText.length deployment ≤ 128)
    (hproves : (Row.bootstrap (bootstrapFor id deployment).row).Proves approvingCrypto "mac")
    (hfresh : ∀ o ∈ db.bootstraps, o.row.operatorKeyId ≠ id) :
    operatorStep (approvingHost signed) db (.bootstrap (bootstrapFor id deployment)) =
      { db with bootstraps := db.bootstraps ++ [bootstrapFor id deployment] } :=
  operatorStep_some (if_pos
    ⟨⟨hex64_key rfl, hex64_key rfl, hex64_key rfl, hlength⟩, hproves, hfresh⟩)

theorem step_root (id deployment : String) (hboot : bootstrapFor id deployment ∈ db.bootstraps)
    (hfresh : ∀ o ∈ db.roots, o.operatorKeyId ≠ id) :
    operatorStep (approvingHost signed) db (.root (trustRoot id)) =
      { db with roots := db.roots ++ [trustRoot id] } :=
  operatorStep_some (if_pos
    ⟨hex64_key rfl, hex64_key rfl, hex64_key rfl, ⟨_, hboot, rfl, rfl, rfl, rfl⟩, hfresh⟩)

theorem step_source (hsurroundings : db.toSurroundings = declaredSurroundings)
    (hfresh : db.sources = []) :
    operatorStep (approvingHost signed) db (.source sourceRow) =
      { db with sources := db.sources ++ [sourceRow] } := by
  refine operatorStep_some (if_pos ⟨hex64_key rfl, ?_, ?_, ?_⟩)
  · rw [hsurroundings]
    exact ⟨admittedSource, List.mem_singleton_self _, pendingAuthorization,
      List.mem_singleton_self _, rfl, rfl, rfl, rfl, rfl, rfl⟩
  · rw [hsurroundings]
    exact List.forall_mem_nil _
  · rw [hfresh]
    exact List.forall_mem_nil _

theorem authorized_of_declared (hsurroundings : db.toSurroundings = declaredSurroundings) :
    db.Authorized "auth-1" 1 := by
  rw [OperatorDb.Authorized, hsurroundings]
  exact ⟨pendingAuthorization, List.mem_singleton_self _, rfl, rfl⟩

theorem c07Row_accepted : c07Row.row.Accepted :=
  ⟨by decide, by decide, hex64_key rfl, .inl (hex_replicate rfl).1⟩

theorem c07Row_proves : (Row.c07 c07Row.row).Proves approvingCrypto "mac" := by
  decide +kernel

theorem step_c07 (hsurroundings : db.toSurroundings = declaredSurroundings)
    (hfresh : db.c07s = []) :
    operatorStep (approvingHost signed) db (.c07 c07Row) =
      { db with c07s := db.c07s ++ [c07Row] } := by
  refine operatorStep_some (if_pos ⟨c07Row_accepted, c07Row_proves,
    authorized_of_declared hsurroundings, ?_⟩)
  rw [hfresh]
  exact List.forall_mem_nil _

theorem step_gate (gate : OperatorGate)
    (hsurroundings : db.toSurroundings = declaredSurroundings)
    (hfresh : ∀ o ∈ db.gates, o.gate ≠ gate) :
    operatorStep (approvingHost signed) db (.gate (gateRow gate)) =
      { db with gates := db.gates ++ [gateRow gate] } :=
  operatorStep_some (if_pos
    ⟨hex64_key rfl, authorized_of_declared hsurroundings, fun o ho hsame => hfresh o ho hsame.2.2⟩)

theorem preparations_run :
    operatorRun (approvingHost signed) declaredSurroundings preparations = preparedDb [] [] := by
  refine foldl_operatorStep (step_bootstrap _ _ ?_ ?_ ?_) <|
    foldl_operatorStep (step_bootstrap _ _ ?_ ?_ ?_) <|
    foldl_operatorStep (step_root _ "deploy-1" (.head _) ?_) <|
    foldl_operatorStep (step_root _ "deploy-2" (.tail _ (.head _)) ?_) <|
    foldl_operatorStep (step_source rfl rfl) <| foldl_operatorStep (step_c07 rfl rfl) <|
    foldl_operatorStep (step_gate _ rfl ?_) <| foldl_operatorStep (step_gate _ rfl ?_) <|
    foldl_operatorStep (step_gate _ rfl ?_) <| foldl_operatorStep (step_gate _ rfl ?_) rfl
  all_goals decide +kernel

end Preparations

section Approvals

variable {signed : List (Nat × String)} {requests : List RequestRow} {approvals : List ApprovalRow}
  {id keyId text : String} {v : Value} {operations : UInt64} {c : Char}

theorem Carries.canonical (h : Carries text v (envelopeOf id keyId operations)) :
    EnvelopeCanonical text := by
  refine h.envelopeCanonical rfl ?_ ?_ <;> (simp only [envelopeOf]; decide +kernel)

theorem Carries.nonce (h : Carries text v (envelopeOf id keyId operations)) :
    field text "nonce" = .text id := h.text_eq _ id (by simp [Envelope.texts, envelopeOf])

/-- A request with a new identifier as its nonce is stored. -/
theorem Carries.step_request (h : Carries text v (envelopeOf id keyId operations))
    (hnonce : ∀ o ∈ requests, (field o.canonicalEnvelope "nonce").eq (.text id) = false)
    (hfresh : ∀ o ∈ requests, o.requestId ≠ id) :
    operatorStep (approvingHost signed) (preparedDb requests approvals)
        (.request (requestRow id text)) =
      preparedDb (requests ++ [requestRow id text]) approvals := by
  refine operatorStep_some (if_pos ⟨hex64_key rfl, .of_envelopeCanonical h.canonical,
    fun o ho => ?_, authorized_of_declared rfl, hfresh⟩)
  rw [requestRow, h.nonce]
  exact hnonce o ho

/-- The approval of the last request is stored. -/
theorem Carries.step_approval (h : Carries text v (envelopeOf id keyId operations))
    (hc : isHex c = true) (hkey : trustRoot keyId ∈ (preparedDb [] []).roots)
    (hfresh : ∀ o ∈ requests, o.requestId ≠ id)
    (happroved : ∀ ap ∈ approvals, ap.approvalId ≠ id ∧ ap.requestId ≠ id)
    (hnonce : ∀ o ∈ requests, (field o.canonicalEnvelope "nonce").eq (.text id) = false) :
    operatorStep (approvingHost signed) (preparedDb (requests ++ [requestRow id text]) approvals)
        (.approval (approvalRow id keyId c)) =
      preparedDb (requests ++ [requestRow id text]) (approvals ++ [approvalRow id keyId c]) := by
  have hbound : ApprovalBound (approvingHost signed)
      (preparedDb (requests ++ [requestRow id text]) approvals) (approvalRow id keyId c) := by
    constructor
    · intro r hr hid o ho hprior
      obtain ⟨prior, hprior, hsame⟩ := hprior
      rcases List.mem_append.mp hr with hr | hr
      · exact absurd hid (hfresh r hr)
      · obtain rfl := List.mem_singleton.mp hr
        rw [requestRow, h.nonce]
        rcases List.mem_append.mp ho with ho | ho
        · exact hnonce o ho
        · obtain rfl := List.mem_singleton.mp ho
          exact absurd hsame (happroved prior hprior).2
    · refine ⟨requestRow id text, List.mem_append_right _ (List.mem_singleton_self _), rfl, ?_, ?_,
        ?_, ?_, rfl⟩
      · rw [requestRow, h.text_eq _ id (by simp [Envelope.texts, envelopeOf])]
        rfl
      · rw [requestRow, h.text_eq _ keyId (by simp [Envelope.texts, envelopeOf])]
        rfl
      · rw [requestRow, h.text_eq _ "2026-01-01T00:00:00Z" (by simp [Envelope.texts, envelopeOf])]
        rfl
      · rw [requestRow, h.text_eq _ "2026-01-03T00:00:00Z" (by simp [Envelope.texts, envelopeOf])]
        rfl
  exact operatorStep_some (if_pos ⟨hex64_key rfl, hex_replicate hc, hbound, ⟨_, hkey, rfl⟩,
    happroved⟩)

end Approvals

/-! ### The guards -/

theorem decode_replicate {c : Char} (hc : isHex c = true) :
    ∀ n, decode (List.replicate (2 * n) c) = some (List.replicate n (hexVal c * 16 + hexVal c))
  | 0 => rfl
  | n + 1 => by
      rw [show 2 * (n + 1) = 2 * n + 1 + 1 by omega, List.replicate_succ, List.replicate_succ,
        decode, decode_replicate hc n]
      simp [hc, List.replicate_succ]

theorem decodeBytes_replicate {c : Char} (hc : isHex c = true) (n : Nat) :
    decodeBytes n (String.ofList (List.replicate (2 * n) c)) =
      some (List.replicate n (hexVal c * 16 + hexVal c)) := by
  rw [decodeBytes, String.toList_ofList, decode_replicate hc]
  simp

/-- The rows that the guards join for an approval. -/
def armRows (id keyId text : String) (c : Char) : ArmRows :=
  ⟨approvalRow id keyId c, requestRow id text, trustRoot keyId, sourceRow, c07Row, sampleClock⟩

section Guards

variable {signed : List (Nat × String)} {requests : List RequestRow} {approvals : List ApprovalRow}
  {id keyId text signedText : String} {byte : Nat} {v : Value} {operations : UInt64} {c : Char}

theorem armRows_belong : (armRows id keyId text c).Belong pendingAuthorization :=
  ⟨rfl, rfl, ⟨rfl, rfl⟩, ⟨rfl, rfl⟩, rfl, rfl, rfl⟩

theorem armRows_signed (hc : isHex c = true)
    (hsigned : (hexVal c * 16 + hexVal c, text) ∈ signed) :
    (armRows id keyId text c).Signed (approvingHost signed) := by
  refine ⟨rfl, rfl, ?_, ?_, rfl, ?_⟩
  · show TimeNotBefore "2026-01-02T00:00:00Z" "2026-01-01T00:00:00Z"
    decide +kernel
  · show TimeBefore "2026-01-02T00:00:00Z" "2026-01-03T00:00:00Z"
    decide +kernel
  · show signatureValid _ (key 'a') text (signature c) = true
    rw [signatureValid, key, signature, decodeBytes_replicate rfl 32, decodeBytes_replicate hc 64]
    simp [approvingHost, List.replicate_succ, hsigned]

theorem armRows_names (h : Carries text v (envelopeOf id keyId operations)) :
    (armRows id keyId text c).Names (approvingHost signed) pendingAuthorization := by
  unfold ArmRows.Names armRows requestRow
  rw [h.text_eq _ authorizationDomain (by simp [Envelope.texts, envelopeOf]), Scalar.eq_text,
    h.text_eq _ "auth-1" (by simp [Envelope.texts, envelopeOf]),
    h.number_eq _ 1 (by simp [Envelope.numbers, envelopeOf]),
    h.text_eq _ "deploy-1" (by simp [Envelope.texts, envelopeOf])]
  exact ⟨rfl, rfl, (eqInt_ofInt (by decide)).mpr rfl, rfl⟩

theorem gatesOf_prepared : (preparedDb requests approvals).gatesOf pendingAuthorization =
    [gateRow .c04, gateRow .c05, gateRow .c07, gateRow .c08] :=
  List.filter_eq_self.mpr (by simp [preparedDb, gateRow, pendingAuthorization])

theorem gatesCurrent_prepared :
    GatesCurrent (preparedDb requests approvals) pendingAuthorization := by
  rw [GatesCurrent, gatesOf_prepared]
  refine ⟨rfl, fun g hg hne => ?_⟩
  simp only [List.mem_cons, List.not_mem_nil, or_false] at hg
  rcases hg with rfl | rfl | rfl | rfl
  · exact ⟨_, .head _, rfl, rfl, rfl⟩
  · exact ⟨_, .tail _ (.head _), rfl, rfl, rfl⟩
  · exact absurd rfl hne
  · exact ⟨_, .tail _ (.tail _ (.head _)), rfl, rfl, rfl⟩

theorem armRows_headsAgree :
    (armRows id keyId text c).HeadsAgree (preparedDb requests approvals) pendingAuthorization := by
  rw [ArmRows.HeadsAgree, gatesOf_prepared]
  intro g hg
  simp only [List.mem_cons, List.not_mem_nil, or_false] at hg
  rcases hg with rfl | rfl | rfl | rfl <;> rfl

theorem gate?_prepared (gate : OperatorGate) :
    (preparedDb requests approvals).gate? pendingAuthorization gate =
      some ⟨key 'a', reviewedHead, "t"⟩ := by
  rw [OperatorDb.gate?, gatesOf_prepared]
  cases gate <;> rfl

theorem gateHash_prepared :
    (preparedDb requests approvals).gateHash (approvingHost signed) pendingAuthorization =
    key 'd' := by
  simp only [OperatorDb.gateHash, gate?_prepared]
  rw [GateSet.hash, gateSetHash, if_neg]
  · rfl
  · decide +kernel

theorem policyHash?_prepared :
    key 'b' ∈ (preparedDb requests approvals).policyHash? pendingAuthorization := by
  simp [OperatorDb.policyHash?, preparedDb, declaredSurroundings, pendingAuthorization]

theorem armRows_binds (h : Carries text v (envelopeOf id keyId 1)) :
    (armRows id keyId text c).Binds (approvingHost signed) (preparedDb requests approvals)
      pendingAuthorization := by
  unfold ArmRows.Binds armRows requestRow
  rw [gateHash_prepared]
  refine ⟨?_, ?_, ?_, ?_, ?_, ⟨_, .head _, rfl, rfl, ?_⟩, ?_, ⟨key 'b', policyHash?_prepared, ?_⟩,
    ?_, ⟨admittedSource, .head _, rfl, rfl, rfl, rfl⟩, ?_, ?_, ?_⟩
  · rw [h.number_eq _ 4663 (by simp [Envelope.numbers, envelopeOf]), Scalar.ofInt_eq (by decide)]
    rfl
  · rw [h.text_eq _ reviewedHead (by simp [Envelope.texts, envelopeOf])]
    rfl
  · rw [h.text_eq _ "release-1" (by simp [Envelope.texts, envelopeOf])]
    rfl
  · rw [h.text_eq _ "prod" (by simp [Envelope.texts, envelopeOf])]
    rfl
  · rw [h.text_eq _ "wallet-1" (by simp [Envelope.texts, envelopeOf])]
    rfl
  · rw [h.text_eq _ "0x00000000000000000000000000000000000000aa"
      (by simp [Envelope.texts, envelopeOf])]
    rfl
  · rw [h.number_eq _ 1 (by simp [Envelope.numbers, envelopeOf])]
    exact (eqInt_ofInt (by decide)).mpr rfl
  · rw [h.text_eq _ (key 'b') (by simp [Envelope.texts, envelopeOf])]
    rfl
  · rw [h.text_eq _ (key 'c') (by simp [Envelope.texts, envelopeOf])]
    rfl
  · rw [h.number_eq _ 1 (by simp [Envelope.numbers, envelopeOf])]
    exact (eqInt_ofInt (by decide)).mpr rfl
  · rw [h.text_eq _ "5" (by simp [Envelope.texts, envelopeOf])]
    rfl
  · rw [h.text_eq _ (key 'd') (by simp [Envelope.texts, envelopeOf]), Scalar.eq_text]

theorem armRows_passesNoArm (h : Carries text v (envelopeOf id keyId 1)) (hc : isHex c = true)
    (hsigned : (hexVal c * 16 + hexVal c, text) ∈ signed) :
    (armRows id keyId text c).PassesNoArm (approvingHost signed) (preparedDb requests approvals)
      pendingAuthorization :=
  ⟨armRows_belong, armRows_signed hc hsigned, armRows_names h, armRows_binds h,
    List.forall_mem_nil _, gate?_prepared .c07, gatesCurrent_prepared, armRows_headsAgree⟩

theorem armRows_passesUpgrade (h : Carries text v (envelopeOf id "key-1" operations))
    (hc : isHex c = true) (hsigned : (hexVal c * 16 + hexVal c, text) ∈ signed)
    (hnonce : (armRows id "key-1" text c).NonceOnce (preparedDb requests approvals)) :
    (armRows id "key-1" text c).PassesUpgrade (approvingHost signed) (preparedDb requests approvals)
      pendingAuthorization := by
  refine ⟨armRows_belong, h.canonical, armRows_signed hc hsigned, ⟨rfl, ?_, ?_, ?_⟩,
    armRows_names h, ?_, gatesCurrent_prepared, hnonce, ⟨_, .head _, ⟨rfl, rfl, rfl, rfl⟩, ?_, rfl⟩,
    c07Row_proves, List.forall_mem_nil _⟩
  · rw [armRows, requestRow, h.text_eq _ id (by simp [Envelope.texts, envelopeOf])]
    rfl
  · rw [armRows, requestRow, h.text_eq _ id (by simp [Envelope.texts, envelopeOf])]
    rfl
  · rw [armRows, requestRow, h.text_eq _ "key-1" (by simp [Envelope.texts, envelopeOf])]
    rfl
  · rw [ArmRows.C07Attested, gatesOf_prepared]
    exact ⟨_, .tail _ (.tail _ (.head _)), rfl, rfl⟩
  · show (Row.bootstrap (bootstrapFor "key-1" "deploy-1").row).Proves approvingCrypto "mac"
    decide +kernel

/-- Where each guard finds an approval the authorization can be armed. -/
theorem arm_prepared
    (hno : ∃ j ∈ (preparedDb requests approvals).products,
      j.PassesNoArm (approvingHost signed) (preparedDb requests approvals) pendingAuthorization)
    (hup : ∃ j ∈ (preparedDb requests approvals).products,
      j.PassesUpgrade (approvingHost signed) (preparedDb requests approvals) pendingAuthorization) :
    ((preparedDb requests approvals).arm (approvingHost signed) "auth-1").isSome = true := by
  have hone : (preparedDb requests approvals).OneArmed pendingAuthorization := by
    intro o ho hne
    obtain rfl := List.mem_singleton.mp ho
    exact absurd rfl hne
  have hfind : (preparedDb requests approvals).authorizations.find? (fun a => a.id = "auth-1") =
      some pendingAuthorization := by
    simp [preparedDb, declaredSurroundings, pendingAuthorization]
  rw [OperatorDb.arm, hfind]
  simp only
  rw [if_pos ⟨rfl, fun _ => ⟨hno, fun _ => hup⟩, hone⟩]
  rfl

end Guards

/-! ### One approval -/

/-- The preparations, a request with the given text and its approval. -/
def approvedActs (text : String) (c : Char) : List OperatorAct :=
  preparations ++ [.request (requestRow "1" text), .approval (approvalRow "1" "key-1" c)]

section OneApproval

variable {signed : List (Nat × String)} {text : String} {v : Value} {c : Char}

theorem Carries.approved_run (h : Carries text v (envelopeOf "1" "key-1" 1)) (hc : isHex c = true) :
    operatorRun (approvingHost signed) declaredSurroundings (approvedActs text c) =
      preparedDb [requestRow "1" text] [approvalRow "1" "key-1" c] := by
  rw [approvedActs, operatorRun_append, preparations_run]
  exact foldl_operatorStep (h.step_request (List.forall_mem_nil _) (List.forall_mem_nil _)) <|
    foldl_operatorStep (h.step_approval hc (.head _) (List.forall_mem_nil _) (List.forall_mem_nil _)
      (List.forall_mem_nil _)) rfl

theorem Carries.nonceOnce (h : Carries text v (envelopeOf "1" "key-1" 1)) :
    (armRows "1" "key-1" text c).NonceOnce
      (preparedDb [requestRow "1" text] [approvalRow "1" "key-1" c]) := by
  have heq : (field text "nonce").eq (field text "nonce") = true := by
    rw [h.nonce, Scalar.eq_text]
  exact congrArg List.length (List.filter_eq_self.mpr (by
    simpa [preparedDb, requestRow, armRows] using heq))

theorem armRows_mem : armRows "1" "key-1" text c ∈
    (preparedDb [requestRow "1" text] [approvalRow "1" "key-1" c]).products :=
  OperatorDb.mem_products.mpr ⟨.head _, .head _, .head _, .head _, .head _, .head _⟩

theorem Carries.armed (h : Carries text v (envelopeOf "1" "key-1" 1)) (hc : isHex c = true)
    (hsigned : (hexVal c * 16 + hexVal c, text) ∈ signed) :
    ((preparedDb [requestRow "1" text] [approvalRow "1" "key-1" c]).arm (approvingHost signed)
      "auth-1").isSome = true :=
  arm_prepared ⟨_, armRows_mem, armRows_passesNoArm h hc hsigned⟩
    ⟨_, armRows_mem, armRows_passesUpgrade h hc hsigned h.nonceOnce⟩

end OneApproval

theorem declaredSurroundings_checked : declaredSurroundings.Checked := by
  refine ⟨?_, ?_, ?_⟩ <;> decide +kernel

end RbhTrade.Operator
