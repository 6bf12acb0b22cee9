import RbhTrade.Operator.Envelopes

/-!
# Arming by one approval

Each of the two guards of an arming update asks for some approval of the authorization epoch, and
they read different columns: `manual_b1_no_arm` the bindings of the envelope to the authorization,
and `manual_operator_upgrade_arm_guard` the names in the envelope, its nonce and the bootstrap of
the root. So two approvals can arm an authorization that neither approves. Where an epoch has one
approval, the keys of the tables make both guards speak of the same request and the same root.
-/

namespace RbhTrade.Operator

open Hex SqlJson Tables

/-! ## One approval -/

/-- The epoch has at most one approval. -/
def OperatorDb.OneApproval (db : OperatorDb) (a : RuntimeAuthorization) : Prop :=
  ∀ j ∈ db.products, ∀ k ∈ db.products, j.Belong a → k.Belong a → j.approval = k.approval

/-- One approval carries everything: the signature of a root that is not revoked and was
bootstrapped for the deployment, the names, the bindings, the window of the clock and a nonce of its
own. -/
def OperatorDb.ApprovedBy (host : OperatorHost) (db : OperatorDb) (a : RuntimeAuthorization)
    (ap : ApprovalRow) : Prop :=
  ∃ j ∈ db.products, j.approval = ap ∧ j.Belong a ∧ j.Signed host ∧ j.Bootstrapped host db a ∧
    j.NamesApproval host ∧ j.Names host a ∧ j.Binds host db a ∧
    (field j.request.canonicalEnvelope "gate_evidence_set_hash").eq
      (.text a.gateEvidenceSetHash) = true ∧
    (∀ o ∈ db.requests, o ≠ j.request →
      (field o.canonicalEnvelope "nonce").eq (field j.request.canonicalEnvelope "nonce") = false) ∧
    NotRevoked db a

theorem Scalar.eq_self_of_eq {x y : Scalar} (h : x.eq y = true) : y.eq y = true := by
  cases x <;> cases y <;> simp_all [Scalar.eq]

/-- A nonce that one request has is the nonce of no other. -/
theorem ArmRows.NonceOnce.other {db : OperatorDb} {j : ArmRows} (h : j.NonceOnce db)
    (hmem : j.request ∈ db.requests) {o : RequestRow} (ho : o ∈ db.requests) (hne : o ≠ j.request) :
    (field o.canonicalEnvelope "nonce").eq (field j.request.canonicalEnvelope "nonce") = false := by
  rw [← Bool.not_eq_true]
  intro heq
  obtain ⟨x, hx⟩ := List.length_eq_one_iff.mp h
  have hmem' : ∀ {r : RequestRow}, r ∈ db.requests →
      (field r.canonicalEnvelope "nonce").eq (field j.request.canonicalEnvelope "nonce") = true →
      r = x := by
    intro r hr hnonce
    have hfilter : r ∈ db.requests.filter fun o => (field o.canonicalEnvelope "nonce").eq
        (field j.request.canonicalEnvelope "nonce") := List.mem_filter.mpr ⟨hr, hnonce⟩
    rw [hx] at hfilter
    exact List.mem_singleton.mp hfilter
  exact hne ((hmem' ho heq).trans (hmem' hmem (Scalar.eq_self_of_eq heq)).symm)

/-- What an accepted arming update found. -/
theorem OperatorDb.arm_some {host : OperatorHost} {db db' : OperatorDb} {id : String}
    (h : db.arm host id = some db') :
    ∃ a, db.authorizations.find? (fun a => a.id = id) = some a ∧ a.state = .pending ∧
      db.GuardsPass host a := by
  unfold OperatorDb.arm at h
  split at h
  · rename_i a ha
    obtain ⟨⟨hstate, hguards, -⟩, -⟩ := Option.ite_none_right_eq_some.mp h
    exact ⟨a, ha, hstate, hguards⟩
  · cases h

/-- The guards of an epoch with one approval speak of one request and one root. -/
theorem OperatorDb.Sound.approved {host : OperatorHost} {db : OperatorDb} (hsound : db.Sound host)
    {a : RuntimeAuthorization} (hguards : db.GuardsPass host a) (hdeclared : db.Declared a)
    (hone : db.OneApproval a) (hgates : a.gateEvidenceSetHash = db.gateHash host a) :
    ∃ ap ∈ db.approvals, db.ApprovedBy host a ap := by
  obtain ⟨⟨j, hj, hjbelong, hsigned, hnames, hbinds, hrevoked, -⟩, hupgrade⟩ := hguards hdeclared
  obtain ⟨hjap, hjreq, hjroot, -⟩ := OperatorDb.mem_products.mp hj
  -- The request of the first guard is the evidence that makes the second guard apply.
  obtain ⟨k, hk, hkbelong, -, -, happroval, -, -, -, hnonce, hboot, -⟩ :=
    hupgrade (.inl ⟨j.request, hjreq, hjbelong.2.2.2.2.2.1⟩)
  obtain ⟨-, hkreq, hkroot, -⟩ := OperatorDb.mem_products.mp hk
  have hap : j.approval = k.approval := hone j hj k hk hjbelong hkbelong
  have hreq : j.request = k.request :=
    hsound.requests.eq hjreq hkreq (by rw [hjbelong.1, hkbelong.1, hap])
  have hroot : j.root = k.root :=
    hsound.roots.eq hjroot hkroot (by rw [hjbelong.2.1, hkbelong.2.1, hap])
  refine ⟨j.approval, hjap, j, hj, rfl, hjbelong, hsigned, ?_, ?_, hnames, hbinds, ?_, ?_, hrevoked⟩
  · unfold ArmRows.Bootstrapped at hboot ⊢
    rwa [hroot]
  · unfold ArmRows.NamesApproval at happroval ⊢
    rwa [hap, hreq]
  · rw [hgates]
    exact hbinds.2.2.2.2.2.2.2.2.2.2.2.2
  · intro o ho hne
    rw [hreq] at hne ⊢
    exact hnonce.other hkreq ho hne

/-- Every accepted arming update of an authorization with MANUAL units whose epoch has one approval
is approved by it. -/
theorem armed_by_one_approval (host : OperatorHost) (s : Surroundings) (hs : s.Checked)
    (acts : List OperatorAct) (a : RuntimeAuthorization) (db' : OperatorDb)
    (harm : (operatorRun host s acts).arm host a.id = some db')
    (ha : (operatorRun host s acts).authorizations.find? (fun o => o.id = a.id) = some a)
    (hdeclared : (operatorRun host s acts).Declared a)
    (hone : (operatorRun host s acts).OneApproval a)
    (hgates : a.gateEvidenceSetHash = (operatorRun host s acts).gateHash host a) :
    ∃ ap ∈ (operatorRun host s acts).approvals, (operatorRun host s acts).ApprovedBy host a ap := by
  obtain ⟨b, hb, -, hguards⟩ := OperatorDb.arm_some harm
  obtain rfl : a = b := Option.some.inj (ha.symm.trans hb)
  exact (operatorRun_sound host hs acts).approved hguards hdeclared hone hgates

/-- A run with one approval, which approves the authorization it arms. -/
theorem one_approval_arms :
    ∃ ap ∈ [approvalRow "1" "key-1" 'a'],
      (preparedDb [requestRow "1" (envelopeOf "1" "key-1" 1).marshal]
        [approvalRow "1" "key-1" 'a']).ApprovedBy
          (approvingHost [(170, (envelopeOf "1" "key-1" 1).marshal)]) pendingAuthorization ap := by
  have hcarries := (envelopeOf "1" "key-1" 1).carries_marshal
  have harmed : ((preparedDb [requestRow "1" (envelopeOf "1" "key-1" 1).marshal]
      [approvalRow "1" "key-1" 'a']).arm
        (approvingHost [(170, (envelopeOf "1" "key-1" 1).marshal)]) "auth-1").isSome = true :=
    hcarries.armed rfl (.head _)
  obtain ⟨db', harm⟩ := Option.isSome_iff_exists.mp harmed
  have happroved := armed_by_one_approval
    (approvingHost [(170, (envelopeOf "1" "key-1" 1).marshal)]) declaredSurroundings
    declaredSurroundings_checked (approvedActs (envelopeOf "1" "key-1" 1).marshal 'a')
    pendingAuthorization db'
  rw [hcarries.approved_run rfl] at happroved
  refine happroved harm ?_ ⟨_, .head _, rfl⟩ ?_ gateHash_prepared.symm
  · simp [preparedDb, declaredSurroundings]
  · intro j hj k hk _ _
    have hj' := List.mem_singleton.mp (OperatorDb.mem_products.mp hj).1
    have hk' := List.mem_singleton.mp (OperatorDb.mem_products.mp hk).1
    rw [hj', hk']

/-! ## Two approvals -/

/-- The first approval is by the root of another deployment and has every binding; the second is by
the right root and allows nine operations. -/
def splitActs : List OperatorAct :=
  preparations ++
    [.request (requestRow "1" (envelopeOf "1" "key-2" 1).marshal),
      .approval (approvalRow "1" "key-2" 'a'),
      .request (requestRow "2" (envelopeOf "2" "key-1" 9).marshal),
      .approval (approvalRow "2" "key-1" 'b')]

def splitHost : OperatorHost :=
  approvingHost [(170, (envelopeOf "1" "key-2" 1).marshal),
    (187, (envelopeOf "2" "key-1" 9).marshal)]

def splitDb : OperatorDb :=
  preparedDb
    [requestRow "1" (envelopeOf "1" "key-2" 1).marshal,
      requestRow "2" (envelopeOf "2" "key-1" 9).marshal]
    [approvalRow "1" "key-2" 'a', approvalRow "2" "key-1" 'b']

theorem split_run : operatorRun splitHost declaredSurroundings splitActs = splitDb := by
  have hfirst := (envelopeOf "1" "key-2" 1).carries_marshal
  have hsecond := (envelopeOf "2" "key-1" 9).carries_marshal
  have hnonce : ∀ o ∈ [requestRow "1" (envelopeOf "1" "key-2" 1).marshal],
      (field o.canonicalEnvelope "nonce").eq (.text "2") = false := by
    intro o ho
    obtain rfl := List.mem_singleton.mp ho
    rw [requestRow, hfirst.nonce]
    rfl
  have hrequest : ∀ o ∈ [requestRow "1" (envelopeOf "1" "key-2" 1).marshal], o.requestId ≠ "2" := by
    simp [requestRow]
  have happroval : ∀ ap ∈ [approvalRow "1" "key-2" 'a'], ap.approvalId ≠ "2" ∧
    ap.requestId ≠ "2" := by
    simp [approvalRow]
  rw [splitActs, operatorRun_append, splitHost, preparations_run]
  exact foldl_operatorStep (hfirst.step_request (List.forall_mem_nil _) (List.forall_mem_nil _)) <|
    foldl_operatorStep (hfirst.step_approval rfl (.tail _ (.head _)) (List.forall_mem_nil _)
      (List.forall_mem_nil _) (List.forall_mem_nil _)) <|
    foldl_operatorStep (hsecond.step_request hnonce hrequest) <|
    foldl_operatorStep (hsecond.step_approval rfl (.head _) hrequest happroval hnonce) rfl

/-- Each guard finds its own approval. -/
theorem split_armed : (splitDb.arm splitHost "auth-1").isSome = true := by
  have hfirst := (envelopeOf "1" "key-2" 1).carries_marshal
  have hsecond := (envelopeOf "2" "key-1" 9).carries_marshal
  refine arm_prepared ⟨armRows "1" "key-2" _ 'a', ?_, armRows_passesNoArm hfirst rfl (.head _)⟩
    ⟨armRows "2" "key-1" _ 'b', ?_, armRows_passesUpgrade hsecond rfl (.tail _ (.head _)) ?_⟩
  · exact OperatorDb.mem_products.mpr
      ⟨.head _, .head _, .tail _ (.head _), .head _, .head _, .head _⟩
  · exact OperatorDb.mem_products.mpr
      ⟨.tail _ (.head _), .tail _ (.head _), .head _, .head _, .head _, .head _⟩
  · have hother : (Scalar.text "1").eq (.text "2") = false := rfl
    have hself : (Scalar.text "2").eq (.text "2") = true := Scalar.eq_text.mpr rfl
    simp [ArmRows.NonceOnce, preparedDb, armRows, requestRow, hfirst.nonce, hsecond.nonce, hother,
      hself]

/-- The first root was bootstrapped for another deployment. -/
theorem split_first_refused {j : ArmRows}
    (hbelong : j.Belong pendingAuthorization) (hap : j.approval = approvalRow "1" "key-2" 'a') :
    ¬ j.Bootstrapped splitHost splitDb pendingAuthorization := by
  rintro ⟨boot, hboot, hof, -, hdeployment⟩
  have hkey : boot.row.operatorKeyId = "key-2" := by
    rw [hof.1, hbelong.2.1, hap]
    rfl
  rcases List.mem_cons.mp hboot with rfl | hboot
  · exact absurd hkey (by decide)
  · obtain rfl := List.mem_singleton.mp hboot
    exact absurd hdeployment (by decide)

/-- The second envelope allows more operations than the authorization. -/
theorem split_second_refused {j : ArmRows} (hj : j ∈ splitDb.products)
    (hbelong : j.Belong pendingAuthorization) (hap : j.approval = approvalRow "2" "key-1" 'b') :
    ¬ j.Binds splitHost splitDb pendingAuthorization := by
  rintro ⟨-, -, -, -, -, -, -, -, -, -, hmax, -⟩
  have hid : j.request.requestId = "2" := by
    rw [hbelong.1, hap]
    rfl
  have hrequest : j.request = requestRow "2" (envelopeOf "2" "key-1" 9).marshal := by
    rcases List.mem_cons.mp (OperatorDb.mem_products.mp hj).2.1 with h | h
    · rw [h] at hid
      exact absurd hid (by simp [requestRow])
    · exact List.mem_singleton.mp h
  rw [hrequest, requestRow, (envelopeOf "2" "key-1" 9).carries_marshal.number_eq _ 9
    (by simp [Envelope.numbers, envelopeOf]), eqInt_ofInt (by decide)] at hmax
  exact absurd hmax (by decide)

/-- Two approvals arm an authorization that neither of them approves. -/
theorem split_approvals_arm :
    operatorRun splitHost declaredSurroundings splitActs = splitDb ∧
      splitDb.Declared pendingAuthorization ∧
      (splitDb.arm splitHost "auth-1").isSome = true ∧
      ∀ ap ∈ splitDb.approvals, ¬ splitDb.ApprovedBy splitHost pendingAuthorization ap := by
  refine ⟨split_run, ⟨_, .head _, rfl⟩, split_armed, fun ap hap happroved => ?_⟩
  obtain ⟨j, hj, rfl, hbelong, -, hboot, -, -, hbinds, -⟩ := happroved
  rcases List.mem_cons.mp hap with h | h
  · exact split_first_refused hbelong h hboot
  · exact split_second_refused hj hbelong (List.mem_singleton.mp h) hbinds

end RbhTrade.Operator
