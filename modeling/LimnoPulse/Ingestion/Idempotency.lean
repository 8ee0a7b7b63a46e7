import LimnoPulse.Ingestion.Admission

/-!
# Idempotent admission

All requests with one account and idempotency key work on one receipt row.  As
long as their clock readings lie within 24 hours of the first receipt and
time-to-live does not delete it under them, the row only changes from pending to
enqueued, and every message carries its identity.

Main results:

- Theorem `exec_invariant`: justified operations keep the receipt invariant.
- Theorem `admitBatch_safe`: an admission performs justified operations only,
  and an accepted one has its message on the queue.
-/

namespace LimnoPulse.Ingestion

open StoreProgram

variable {connectorVersion : Option String} {failure : AdmitFailure}

section Idempotency

variable (encoding : Encoding) (key : ReceiptKey) (within : IngressReceipt → Prop)
  (issued : String → AdmitArguments)
variable {s t : AdmissionStore} {r receipt row : IngressReceipt} {envelope : IngressEnvelope}
  {arguments : AdmitArguments} {admission : IngressAdmission}

/-! ## The receipt invariant

`within r` says that the calls of the run fall into the life of receipt
`r`, and `issued` names the call each identifier was drawn by. -/

/-- An acknowledged message of a receipt. -/
def AcknowledgedFor (r : IngressReceipt) (s : AdmissionStore) : Prop :=
  ∃ m ∈ s.sent, m.sender = key ∧ m.acknowledged = true ∧ m.envelope.ingressId = r.ingressId

/-- The receipt is the only claim, and all messages of the key have its identity. -/
structure HoldsKey (r : IngressReceipt) (s : AdmissionStore) : Prop where
  claims : s.claims key = [r]
  row : s.receipts key = some r ∨ s.receipts key = some r.enqueued
  enqueued : s.receipts key = some r.enqueued → AcknowledgedFor key r s
  sent : ∀ m ∈ s.sent, m.sender = key → m.envelope.identity = r.identity

/-- What holds of the receipt row, claims and messages. -/
structure ReceiptInvariant (s : AdmissionStore) : Prop where
  issued : ∀ r ∈ s.claims key, r = (issued r.ingressId).claim encoding
  unclaimed : s.firstReceipt key = none →
    s.receipts key = none ∧ ∀ m ∈ s.sent, m.sender ≠ key
  held : ∀ r, s.firstReceipt key = some r → within r → HoldsKey key r s

/-- The first receipt stays the first, and messages stay sent. -/
structure LaterAdmission (s t : AdmissionStore) : Prop where
  first : ∀ r, s.firstReceipt key = some r → t.firstReceipt key = some r
  sent : ∀ m ∈ s.sent, m ∈ t.sent

/-- What the performer of an operation has to know. -/
def AdmissionOp.Justified (s : AdmissionStore) : AdmissionOp → Prop
  | .claim receipt cutoffUs => receipt.key = key →
      receipt = (issued receipt.ingressId).claim encoding ∧
        ∀ r, within r → cutoffUs < r.createdAtUs
  | .send sender envelope => sender = key →
      ∃ r, s.firstReceipt key = some r ∧ (within r → envelope.identity = r.identity)
  | .mark marked ingressId => marked = key →
      ∀ r, s.firstReceipt key = some r → within r → ingressId = r.ingressId →
        AcknowledgedFor key r s
  | .expire expired at_ => expired = key → ∀ r, within r → at_ < r.expiresAt
  | _ => True

variable {encoding key within issued}

namespace LaterAdmission

theorem refl (s : AdmissionStore) : LaterAdmission key s s := ⟨fun _ h => h, fun _ h => h⟩

theorem trans {u : AdmissionStore} (h : LaterAdmission key s t) (h' : LaterAdmission key t u) :
    LaterAdmission key s u :=
  ⟨fun r hr => h'.first r (h.first r hr), fun m hm => h'.sent m (h.sent m hm)⟩

/-- An acknowledged message stays so. -/
theorem acknowledgedFor (h : LaterAdmission key s t) (hr : AcknowledgedFor key r s) :
    AcknowledgedFor key r t := by
  obtain ⟨m, hm, hmsg⟩ := hr
  exact ⟨m, h.sent m hm, hmsg⟩

end LaterAdmission

/-- A row differs from its claim in the state at most. -/
structure SameReceipt (row r : IngressReceipt) : Prop where
  identity : row.identity = r.identity
  requestSha256 : row.requestSha256 = r.requestSha256
  createdAtUs : row.createdAtUs = r.createdAtUs
  expiresAt : row.expiresAt = r.expiresAt

/-- A held key has its row. -/
theorem HoldsKey.exists_row (h : HoldsKey key r s) :
    ∃ row, s.receipts key = some row ∧ SameReceipt row r := by
  rcases h.row with hrow | hrow
  · exact ⟨r, hrow, rfl, rfl, rfl, rfl⟩
  · exact ⟨r.enqueued, hrow, rfl, rfl, rfl, rfl⟩

/-- There is a first receipt exactly with a claim. -/
theorem firstReceipt_eq_none : s.firstReceipt key = none ↔ s.claims key = [] :=
  List.getLast?_eq_none_iff

/-- The first receipt is a claim. -/
theorem firstReceipt_mem (h : s.firstReceipt key = some r) : r ∈ s.claims key :=
  List.mem_of_getLast? h

/-- A claim is created pending. -/
theorem ReceiptInvariant.first_pending (hs : ReceiptInvariant encoding key within issued s)
    (hr : s.firstReceipt key = some r) : r.state = .pending := by
  rw [hs.issued r (firstReceipt_mem hr)]
  rfl

/-- Stores that agree on the key. -/
theorem ReceiptInvariant.congr (hs : ReceiptInvariant encoding key within issued s)
    (hreceipts : t.receipts key = s.receipts key) (hclaims : t.claims key = s.claims key)
    (hsent : t.sent = s.sent) : ReceiptInvariant encoding key within issued t := by
  have hfirst : t.firstReceipt key = s.firstReceipt key := by
    simp only [AdmissionStore.firstReceipt, hclaims]
  refine ⟨by rw [hclaims]; exact hs.issued, ?_, ?_⟩
  · rw [hfirst, hreceipts, hsent]
    exact hs.unclaimed
  · intro r hr hwithin
    rw [hfirst] at hr
    have hheld := hs.held r hr hwithin
    refine ⟨by rw [hclaims]; exact hheld.claims, by rw [hreceipts]; exact hheld.row, ?_, ?_⟩
    · rw [hreceipts]
      intro henqueued
      obtain ⟨m, hm, hmsg⟩ := hheld.enqueued henqueued
      exact ⟨m, by rw [hsent]; exact hm, hmsg⟩
    · rw [hsent]
      exact hheld.sent

/-- The claims are the same. -/
theorem LaterAdmission.of_claims (hclaims : t.claims key = s.claims key)
    (hsent : ∀ m ∈ s.sent, m ∈ t.sent) : LaterAdmission key s t := by
  refine ⟨fun r hr => ?_, hsent⟩
  rw [AdmissionStore.firstReceipt, hclaims]
  exact hr

/-- A claim is the first of its key, or replaces an expired one. -/
theorem claim_invariant {cutoffUs : Int} (hs : ReceiptInvariant encoding key within issued s)
    (hjust : (AdmissionOp.claim receipt cutoffUs).Justified encoding key within issued s)
    (h : s.claim receipt cutoffUs = some t) :
    ReceiptInvariant encoding key within issued t ∧ LaterAdmission key s t := by
  unfold AdmissionStore.claim at h
  split at h
  · next hcond =>
    cases h
    by_cases hkey : receipt.key = key
    · subst hkey
      obtain ⟨hissued, hcutoff⟩ := hjust rfl
      have hclaims : (s.putReceipt receipt).claims receipt.key =
          receipt :: s.claims receipt.key := by simp [AdmissionStore.putReceipt]
      have hmem : ∀ r ∈ (s.putReceipt receipt).claims receipt.key,
          r = (issued r.ingressId).claim encoding := by
        intro r hr
        rw [hclaims] at hr
        rcases List.mem_cons.mp hr with rfl | hold
        · exact hissued
        · exact hs.issued r hold
      rcases hfirst : s.firstReceipt receipt.key with _ | r₀
      · -- The first claim of the key.
        have hnil := firstReceipt_eq_none.mp hfirst
        have hnew : (s.putReceipt receipt).firstReceipt receipt.key = some receipt := by
          simp [AdmissionStore.firstReceipt, hclaims, hnil]
        refine ⟨⟨hmem, by simp [hnew], ?_⟩, ⟨by simp [hfirst], fun _ hm => hm⟩⟩
        intro r hr _
        rw [hnew] at hr
        cases hr
        have hrow : (s.putReceipt receipt).receipts receipt.key = some receipt := by
          simp [AdmissionStore.putReceipt]
        refine ⟨by rw [hclaims, hnil], .inl hrow, ?_, ?_⟩
        · intro henqueued
          rw [hrow] at henqueued
          have hstate : receipt.state = .enqueued := congrArg IngressReceipt.state
            (Option.some.inj henqueued)
          rw [hissued] at hstate
          cases hstate
        · intro m hm hsender
          exact absurd hsender ((hs.unclaimed hfirst).2 m hm)
      · -- The key was claimed before: its first receipt is expired, so not within.
        have hnew : (s.putReceipt receipt).firstReceipt receipt.key = some r₀ := by
          rw [AdmissionStore.firstReceipt, hclaims, List.getLast?_cons_of_ne_nil]
          · exact hfirst
          · intro hnil
            rw [firstReceipt_eq_none.mpr hnil] at hfirst
            cases hfirst
        refine ⟨⟨hmem, by simp [hnew], ?_⟩, ⟨by simp [hfirst, hnew], fun _ hm => hm⟩⟩
        intro r hr hwithin
        rw [hnew] at hr
        cases hr
        obtain ⟨row, hrow, hsame⟩ := (hs.held r₀ hfirst hwithin).exists_row
        rw [hrow, Option.all_some, decide_eq_true_eq, hsame.createdAtUs] at hcond
        exact absurd hcond (Int.not_le.mpr (hcutoff r₀ hwithin))
    · have hne : key ≠ receipt.key := Ne.symm hkey
      exact ⟨hs.congr (by simp [AdmissionStore.putReceipt, hne])
        (by simp [AdmissionStore.putReceipt, hne]) rfl,
        LaterAdmission.of_claims (by simp [AdmissionStore.putReceipt, hne]) fun _ hm => hm⟩
  · contradiction

/-- A message has the identity of the key's receipt. -/
theorem push_invariant {sender : ReceiptKey} (acknowledged : Bool)
    (hs : ReceiptInvariant encoding key within issued s)
    (hjust : (AdmissionOp.send sender envelope).Justified encoding key within issued s) :
    ReceiptInvariant encoding key within issued (s.push ⟨sender, envelope, acknowledged⟩) ∧
      LaterAdmission key s (s.push ⟨sender, envelope, acknowledged⟩) := by
  have hlater : LaterAdmission key s (s.push ⟨sender, envelope, acknowledged⟩) :=
    LaterAdmission.of_claims rfl fun _ hm => List.mem_cons_of_mem _ hm
  refine ⟨⟨hs.issued, ?_, ?_⟩, hlater⟩
  · intro hfirst
    refine ⟨(hs.unclaimed hfirst).1, fun m hm => ?_⟩
    rcases List.mem_cons.mp hm with rfl | hold
    · intro hsender
      obtain ⟨r, hr, -⟩ := hjust hsender
      change s.firstReceipt key = none at hfirst
      rw [hfirst] at hr
      cases hr
    · exact (hs.unclaimed hfirst).2 m hold
  · intro r hr hwithin
    have hheld := hs.held r hr hwithin
    refine ⟨hheld.claims, hheld.row, fun henqueued => ?_, fun m hm hsender => ?_⟩
    · exact hlater.acknowledgedFor (hheld.enqueued henqueued)
    · rcases List.mem_cons.mp hm with rfl | hold
      · obtain ⟨r', hr', hident⟩ := hjust hsender
        change s.firstReceipt key = some r at hr
        rw [hr] at hr'
        cases hr'
        exact hident hwithin
      · exact hheld.sent m hold hsender

section

variable (hs : ReceiptInvariant encoding key within issued s)
include hs

/-- A mark enqueues the pending row. -/
theorem mark_invariant {marked : ReceiptKey} {ingressId : String}
    (hjust : (AdmissionOp.mark marked ingressId).Justified encoding key within issued s)
    (h : s.mark marked ingressId = some t) :
    ReceiptInvariant encoding key within issued t ∧ LaterAdmission key s t := by
  unfold AdmissionStore.mark at h
  split at h
  · next row hrow =>
    split at h
    · next hcond =>
      cases h
      refine ⟨?_, LaterAdmission.of_claims rfl fun _ hm => hm⟩
      by_cases hkey : marked = key
      · subst hkey
        refine ⟨hs.issued, ?_, ?_⟩
        · intro hfirst
          rw [(hs.unclaimed hfirst).1] at hrow
          cases hrow
        · intro r hr hwithin
          have hheld := hs.held r hr hwithin
          have hr_row : row = r := by
            rcases hheld.row with hpend | henqueued
            · rw [hrow] at hpend
              exact Option.some.inj hpend
            · rw [hrow] at henqueued
              cases henqueued
              exact absurd hcond.2 (by simp [IngressReceipt.enqueued])
          subst hr_row
          have hack := hjust rfl row hr hwithin hcond.1.symm
          exact ⟨hheld.claims, .inr (by simp [AdmissionStore.setReceipt]),
            fun _ => hack, hheld.sent⟩
      · exact hs.congr (by simp [AdmissionStore.setReceipt, Ne.symm hkey]) rfl rfl
    · contradiction
  · contradiction

/-- Time-to-live leaves the receipt that holds the key. -/
theorem expire_invariant {expired : ReceiptKey} {at_ : Int}
    (hjust : (AdmissionOp.expire expired at_).Justified encoding key within issued s) :
    ReceiptInvariant encoding key within issued (s.expire expired at_) ∧
      LaterAdmission key s (s.expire expired at_) := by
  unfold AdmissionStore.expire
  split
  · next hcond =>
    refine ⟨?_, LaterAdmission.of_claims rfl fun _ hm => hm⟩
    by_cases hkey : expired = key
    · subst hkey
      refine ⟨hs.issued, fun hfirst => ⟨by simp [AdmissionStore.setReceipt],
        (hs.unclaimed hfirst).2⟩, ?_⟩
      intro r hr hwithin
      obtain ⟨row, hrow, hsame⟩ := (hs.held r hr hwithin).exists_row
      rw [hrow, Option.any_some, decide_eq_true_eq, hsame.expiresAt] at hcond
      exact absurd hcond (Int.not_le.mpr (hjust rfl r hwithin))
    · exact hs.congr (by simp [AdmissionStore.setReceipt, Ne.symm hkey]) rfl rfl
  · exact ⟨hs, LaterAdmission.refl s⟩

/-- Justified operations keep the receipt invariant. -/
theorem exec_invariant {op : AdmissionOp} {outcome : Outcome} {reply : AdmissionReply op}
    (hjust : op.Justified encoding key within issued s)
    (h : admissionExec op outcome s = some (reply, t)) :
    ReceiptInvariant encoding key within issued t ∧ LaterAdmission key s t := by
  have hsame : ReceiptInvariant encoding key within issued s ∧ LaterAdmission key s s :=
    ⟨hs, LaterAdmission.refl s⟩
  cases op with
  | getReceipt read | mapping op | allows tenantId integrationAccountId count =>
    cases h
    exact hsame
  | claim receipt cutoffUs =>
    have hcases : t = s ∨ s.claim receipt cutoffUs = some t := by
      simp only [admissionExec, claimOutcome] at h
      split at h
      · cases h; exact .inl rfl
      · next hclaim => cases h; exact .inr hclaim
      · cases h; exact .inl rfl
      · cases h; exact .inl rfl
      · next hclaim =>
        split at h <;> (cases h; exact .inr hclaim)
    rcases hcases with rfl | hclaim
    · exact hsame
    · exact claim_invariant hs hjust hclaim
  | send =>
    simp only [admissionExec, sendOutcome] at h
    split at h
    · cases h
      exact hsame
    · cases h
      exact push_invariant _ hs hjust
    · split at h
      · -- A repeated request is on the queue twice.
        obtain ⟨hfirst, hlater⟩ := push_invariant false hs hjust
        cases h
        obtain ⟨hsecond, hlater'⟩ := push_invariant true hfirst hjust
        exact ⟨hsecond, hlater.trans hlater'⟩
      · cases h
        exact push_invariant _ hs hjust
  | mark =>
    rcases attempt_cases (Option.some.inj h) with ⟨rfl, -, -⟩ | ⟨hmark, -⟩
    · exact hsame
    · exact mark_invariant hs hjust hmark
  | expire =>
    cases h
    exact expire_invariant hs hjust
  | writeMapping =>
    cases h
    exact ⟨hs.congr rfl rfl rfl, LaterAdmission.of_claims rfl fun _ hm => hm⟩

end

/-- Justified operations keep the invariant. -/
theorem admission_kept : Kept admissionExec (fun _ _ _ => True)
    (fun op s => op.Justified encoding key within issued s)
    (ReceiptInvariant encoding key within issued) (LaterAdmission key) (LaterAdmission key) where
  trans _ _ _ := LaterAdmission.trans
  rely_of_guarantee _ _ := id
  step _ _ _ _ _ hs hjust _ hexec := exec_invariant hs hjust hexec

/-! ## What a request knows -/

variable (encoding key within issued) in
/-- The row that was seen holds the key. -/
def SeenReceipt (row : IngressReceipt) (s : AdmissionStore) : Prop :=
  ∃ r, s.firstReceipt key = some r ∧ r = (issued r.ingressId).claim encoding ∧
    (within r → SameReceipt row r ∧ (row.state = .enqueued → AcknowledgedFor key r s))

variable (encoding key within) in
/-- The envelope carries the identity of the key's receipt and is of its request. -/
def CarriesReceipt (arguments : AdmitArguments) (envelope : IngressEnvelope)
    (s : AdmissionStore) : Prop :=
  arguments.receiptKey encoding = key → ∃ r, s.firstReceipt key = some r ∧
    (within r → envelope.identity = r.identity ∧
      arguments.requestSha256 encoding = r.requestSha256)

variable (encoding key within) in
/-- What the end of a request says about the receipt. -/
def Answered (arguments : AdmitArguments) (result : IngressService.AdmitResult)
    (s : AdmissionStore) : Prop :=
  arguments.receiptKey encoding = key →
    match result with
    | .ok accepted => ∃ r, s.firstReceipt key = some r ∧ (within r →
        accepted.ingressId = r.ingressId ∧
          arguments.requestSha256 encoding = r.requestSha256 ∧ AcknowledgedFor key r s)
    | .error .claimLostTwice => ∃ r, s.firstReceipt key = some r ∧ ¬ within r
    | .error _ => True

variable (encoding key within issued) in
/-- Safety against the other requests. -/
abbrev SafeAdmission {α : Type} (p : AdmissionProgram α) (post : α → AdmissionStore → Prop)
    (s : AdmissionStore) : Prop :=
  p.Safe admissionExec (fun _ _ _ => True) (ReceiptInvariant encoding key within issued)
    (LaterAdmission key) (LaterAdmission key) post s

variable (encoding key within issued) in
/-- The identifier is its own, and its clock is within the receipt's life. -/
structure Timely (arguments : AdmitArguments) : Prop where
  issued : issued arguments.ingressId = arguments
  now : arguments.receiptKey encoding = key →
    ∀ r, within r → arguments.now < r.createdAtUs + receiptTtlUs

/-- What was seen stays true. -/
theorem SeenReceipt.later (h : SeenReceipt encoding key within issued row s)
    (hlater : LaterAdmission key s t) : SeenReceipt encoding key within issued row t := by
  obtain ⟨r, hr, hissued, hsame⟩ := h
  refine ⟨r, hlater.first r hr, hissued, fun hwithin => ⟨(hsame hwithin).1, fun henqueued => ?_⟩⟩
  exact hlater.acknowledgedFor ((hsame hwithin).2 henqueued)

/-- The receipt stays the holder. -/
theorem CarriesReceipt.later (h : CarriesReceipt encoding key within arguments envelope s)
    (hlater : LaterAdmission key s t) :
    CarriesReceipt encoding key within arguments envelope t := by
  intro hkey
  obtain ⟨r, hr, hcarries⟩ := h hkey
  exact ⟨r, hlater.first r hr, hcarries⟩

/-- A stored row is seen. -/
theorem ReceiptInvariant.seen (hs : ReceiptInvariant encoding key within issued s)
    (hrow : s.receipts key = some row) : SeenReceipt encoding key within issued row s := by
  rcases hfirst : s.firstReceipt key with _ | r
  · rw [(hs.unclaimed hfirst).1] at hrow
    cases hrow
  · refine ⟨r, hfirst, hs.issued r (firstReceipt_mem hfirst), fun hwithin => ?_⟩
    have hheld := hs.held r hfirst hwithin
    rcases hheld.row with hpend | henqueued
    · rw [hrow] at hpend
      cases hpend
      refine ⟨⟨rfl, rfl, rfl, rfl⟩, fun hstate => ?_⟩
      rw [hs.first_pending hfirst] at hstate
      cases hstate
    · have hack := hheld.enqueued henqueued
      rw [hrow] at henqueued
      cases henqueued
      exact ⟨⟨rfl, rfl, rfl, rfl⟩, fun _ => hack⟩

/-- A row that was seen is live for requests of the key. -/
theorem SeenReceipt.live (hargs : Timely encoding key within issued arguments)
    (hkey : arguments.receiptKey encoding = key)
    (h : SeenReceipt encoding key within issued row s) :
    ∃ r, s.firstReceipt key = some r ∧
      (within r → isIngressReceiptLive row arguments.now = true) := by
  obtain ⟨r, hr, -, hsame⟩ := h
  refine ⟨r, hr, fun hwithin => ?_⟩
  have hnow := hargs.now hkey r hwithin
  rw [isIngressReceiptLive, decide_eq_true_eq, (hsame hwithin).1.createdAtUs]
  exact Int.sub_right_lt_of_lt_add hnow

/-! ## Requests -/

/-- An envelope has its receipt's identity and its account. -/
theorem guardedEnvelope_eq_ok
    (h : guardedEnvelope encoding admission connectorVersion receipt = .ok envelope) :
    envelope.identity = receipt.identity ∧
      envelope.integrationAccountId = admission.source.integrationAccountId := by
  have hfields := guardedEnvelope_fields h
  rw [hfields]
  exact ⟨rfl, rfl⟩

theorem send_safe (hacct : envelope.integrationAccountId = arguments.source.integrationAccountId)
    (hcarries : CarriesReceipt encoding key within arguments envelope s) (replayed : Bool) :
    SafeAdmission encoding key within issued
      (IngressService.send encoding arguments envelope replayed)
      (Answered encoding key within arguments) s := by
  simp only [IngressService.send, performSend, markIngressReceiptEnqueued]
  refine admission_kept.safe_call ?_ ?_
  · intro t hlater _ hkey
    obtain ⟨r, hr, hident⟩ := hcarries.later hlater hkey
    exact ⟨r, hr, fun hwithin => (hident hwithin).1⟩
  · intro t outcome reply u hlater _ hexec _ hlater'
    match reply with
    | false => exact fun _ => trivial
    | true =>
      -- The acknowledged message is on the queue.
      have hsent := sendOutcome_acknowledged (Option.some.inj hexec)
      have hack : arguments.receiptKey encoding = key → ∀ r,
          u.firstReceipt key = some r → within r → AcknowledgedFor key r u := by
        intro hkey r hr hwithin
        obtain ⟨r', hr', hident⟩ := hcarries.later hlater' hkey
        rw [hr] at hr'
        cases hr'
        exact ⟨_, hsent, hkey, rfl, congrArg EnvelopeIdentity.ingressId (hident hwithin).1⟩
      refine admission_kept.safe_call ?_ ?_
      · intro v hlater'' _ hmarked r hr hwithin _
        have hkey : arguments.receiptKey encoding = key := by
          rw [← hmarked, hacct]
          rfl
        obtain ⟨r', hr', -⟩ := hcarries.later hlater' hkey
        have hsame := hlater''.first r' hr'
        rw [hr] at hsame
        cases hsame
        exact hlater''.acknowledgedFor (hack hkey r hr' hwithin)
      · intro _ _ _ v _ _ _ _ hlater'' hkey
        obtain ⟨r, hr, hident⟩ := hcarries.later hlater' hkey
        refine ⟨r, hlater''.first r hr, fun hwithin => ?_⟩
        exact ⟨congrArg EnvelopeIdentity.ingressId (hident hwithin).1, (hident hwithin).2,
          hlater''.acknowledgedFor (hack hkey r hr hwithin)⟩

/-- Most failures have nothing to establish. -/
theorem failed_safe (h : failure ≠ .claimLostTwice) :
    SafeAdmission encoding key within issued (Program.done (.error failure))
      (Answered encoding key within arguments) s := by
  intro _
  cases failure with
  | claimLostTwice => exact absurd rfl h
  | _ => trivial

/-- A failed guard raises or is answered with 413. -/
theorem guardedEnvelope_ne_lost
    (h : guardedEnvelope encoding admission connectorVersion receipt = .error failure) :
    failure ≠ .claimLostTwice := by
  unfold guardedEnvelope at h
  split at h
  · cases h
    simp
  · split at h
    · cases h
      simp
    · contradiction

/-- Resuming a pending receipt. -/
theorem resume_safe (hsource : admission.source = arguments.source)
    (hreq : receipt.requestSha256 = arguments.requestSha256 encoding)
    (hseen : arguments.receiptKey encoding = key →
      SeenReceipt encoding key within issued receipt s) :
    SafeAdmission encoding key within issued
      (IngressService.resume encoding arguments admission receipt)
      (Answered encoding key within arguments) s := by
  unfold IngressService.resume
  split
  · next failure hfailure => exact failed_safe (guardedEnvelope_ne_lost hfailure)
  · next envelope henv =>
    obtain ⟨hident, hacct⟩ := guardedEnvelope_eq_ok henv
    refine send_safe (by rw [hacct, hsource]) ?_ true
    intro hkey
    obtain ⟨r, hr, -, hsame⟩ := hseen hkey
    refine ⟨r, hr, fun hwithin => ?_⟩
    obtain ⟨hsame, -⟩ := hsame hwithin
    exact ⟨hident.trans hsame.identity, hreq.symm.trans hsame.requestSha256⟩

/-- Answering from an enqueued receipt of the same request. -/
theorem replayed_safe
    (hdecided : decideReceiptReplay (some receipt) (arguments.requestSha256 encoding)
      arguments.now = .replay) (hseen : arguments.receiptKey encoding = key →
      SeenReceipt encoding key within issued receipt s) :
    SafeAdmission encoding key within issued
      (Program.done (IngressService.replayed arguments receipt))
      (Answered encoding key within arguments) s := by
  intro hkey
  obtain ⟨hreq, hstate⟩ := decideReceiptReplay_same.2 hdecided
  obtain ⟨r, hr, -, hsame⟩ := hseen hkey
  refine ⟨r, hr, fun hwithin => ?_⟩
  obtain ⟨hsame, hack⟩ := hsame hwithin
  exact ⟨congrArg EnvelopeIdentity.ingressId hsame.identity,
    hreq.symm.trans hsame.requestSha256, hack hstate⟩

/-- After a claim the key is held. -/
theorem claimIngressReceipt_safe (hargs : Timely encoding key within issued arguments) :
    SafeAdmission encoding key within issued
      (claimIngressReceipt (arguments.claim encoding) arguments.now)
      (fun result t => ∀ winner, result = some winner → arguments.receiptKey encoding = key →
        SeenReceipt encoding key within issued winner t) s := by
  simp only [claimIngressReceipt, performClaim, getIngressReceipt]
  refine admission_kept.safe_call ?_ ?_
  · intro t _ _ hkey
    refine ⟨by rw [show (arguments.claim encoding).ingressId = arguments.ingressId from rfl,
      hargs.issued], fun r hwithin => ?_⟩
    exact Int.sub_right_lt_of_lt_add (hargs.now hkey r hwithin)
  · intro t outcome reply u _ _ hexec hu _
    have hrow := claimOutcome_row (Option.some.inj hexec)
    match reply with
    | .committed =>
      rintro winner ⟨⟩ hkey
      obtain ⟨row, hrow, hclaim, -⟩ := hrow (by simp)
      subst hkey
      rw [hclaim rfl] at hrow
      exact hu.seen hrow
    | .unavailable =>
      intro winner hwinner
      cases hwinner
    | .lost (some old) =>
      rintro winner ⟨⟩ hkey
      obtain ⟨row, hrow, -, hold⟩ := hrow (by simp)
      subst hkey
      rw [hold _ rfl] at hrow
      exact hu.seen hrow
    | .lost none =>
      refine admission_kept.safe_call (fun _ _ _ => trivial) ?_
      intro v outcome reply v' _ _ hread hv _
      match reply with
      | .unavailable =>
        intro winner hwinner
        cases hwinner
      | .row row =>
        intro winner hwinner hkey
        subst hkey
        exact hv.seen ((getReceipt_row hread).trans hwinner)

/-- The claim loop; a second turn is for expired receipts. -/
theorem claimLoop_safe (hargs : Timely encoding key within issued arguments)
    (hsource : admission.source = arguments.source)
    (hident : envelope.identity = (arguments.claim encoding).identity)
    (hacct : envelope.integrationAccountId = arguments.source.integrationAccountId) :
    ∀ (attempts : Nat) (s : AdmissionStore),
      (attempts = 0 → Answered encoding key within arguments (.error .claimLostTwice) s) →
      SafeAdmission encoding key within issued
        (IngressService.claimLoop encoding arguments admission envelope attempts)
        (Answered encoding key within arguments) s := by
  intro attempts
  induction attempts with
  | zero =>
    intro s hlost
    exact hlost rfl
  | succ attempts ih =>
    intro s _
    refine Program.Safe.bind (claimIngressReceipt_safe hargs) ?_
    intro result t hseen
    match result with
    | none => exact failed_safe (by simp)
    | some winner =>
      have hseen := hseen winner rfl
      dsimp only
      split
      · next hown =>
        -- The row with this identifier is the request's own claim.
        refine send_safe hacct ?_ false
        intro hkey
        obtain ⟨r, hr, hissued, hsame⟩ := hseen hkey
        refine ⟨r, hr, fun hwithin => ?_⟩
        have hid : r.ingressId = arguments.ingressId :=
          (congrArg EnvelopeIdentity.ingressId (hsame hwithin).1.identity).symm.trans hown
        rw [hid, hargs.issued] at hissued
        rw [hissued]
        exact ⟨hident, rfl⟩
      · split
        · exact failed_safe (by simp)
        · next hdecided => exact replayed_safe hdecided hseen
        · next hdecided =>
          have hreq := decideReceiptReplay_same.1 hdecided
          exact resume_safe hsource hreq hseen
        · next hdecided =>
          refine ih t fun _ hkey => ?_
          obtain ⟨r, hr, hlive⟩ := (hseen hkey).live hargs hkey
          refine ⟨r, hr, fun hwithin => ?_⟩
          have hexpired := decideReceiptReplay_eq_admitRequest_iff.mp hdecided winner rfl
          rw [hlive hwithin] at hexpired
          cases hexpired

/-- Trusted admission and entitlement change nothing. -/
theorem admission_safe (arguments : AdmitArguments) (s : AdmissionStore) :
    SafeAdmission encoding key within issued (IngressService.admission encoding arguments)
      (fun result t => LaterAdmission key s t ∧ match result with
        | .ok admission => admission.source = arguments.source
        | .error failure => failure ≠ .claimLostTwice) s := by
  have hmapping : SafeAdmission encoding key within issued
      (trustedAdmit encoding.toMappingDigests arguments.source arguments.batch)
      (fun result t => (∀ admission, result = some (.ok admission) →
        admission.source = arguments.source) ∧ LaterAdmission key s t) s :=
    admission_kept.safe_of_returns (Program.Performs.of_forall (fun _ _ => trivial) _).embed
      (TrustedMapping.admitBatch_returns _ _ _).embed (LaterAdmission.refl s)
  refine Program.Safe.bind hmapping ?_
  rintro result t ⟨hsource, hlater⟩
  match result with
  | none => exact ⟨hlater, by simp⟩
  | some (.error denial) => exact ⟨hlater, by simp⟩
  | some (.ok admission) =>
    refine admission_kept.safe_call (fun _ _ _ => trivial) ?_
    intro _ _ reply u _ _ _ _ hlater'
    match reply with
    | none | some false => exact ⟨hlater.trans hlater', by simp⟩
    | some true => exact ⟨hlater.trans hlater', hsource admission rfl⟩

theorem admitNew_safe {receipt : Option IngressReceipt}
    (hargs : Timely encoding key within issued arguments)
    (hseen : ∀ row, receipt = some row → arguments.receiptKey encoding = key →
      SeenReceipt encoding key within issued row s) :
    SafeAdmission encoding key within issued
      (IngressService.admitNew encoding arguments receipt
        (decideReceiptReplay receipt (arguments.requestSha256 encoding) arguments.now))
      (Answered encoding key within arguments) s := by
  refine Program.Safe.bind (admission_safe arguments s) ?_
  rintro result t ⟨hlater, hres⟩
  match result with
  | .error failure => exact failed_safe hres
  | .ok admission =>
    dsimp only
    split
    · next row hdecided =>
      have hreq := decideReceiptReplay_same.1 hdecided
      exact resume_safe hres hreq fun hkey => (hseen row rfl hkey).later hlater
    · split
      · next failure hfailure => exact failed_safe (guardedEnvelope_ne_lost hfailure)
      · next envelope henv =>
        obtain ⟨hident, hacct⟩ := guardedEnvelope_eq_ok henv
        exact claimLoop_safe hargs hres hident (by rw [hacct, hres])
          IngressService.claimAttempts t nofun

/-- An admission is justified, and an accepted one has its message. -/
theorem admitBatch_safe (hargs : Timely encoding key within issued arguments) (s : AdmissionStore) :
    SafeAdmission encoding key within issued (IngressService.admitBatch encoding arguments)
      (Answered encoding key within arguments) s := by
  simp only [IngressService.admitBatch, getIngressReceipt, Program.perform_bind]
  refine admission_kept.safe_call (fun _ _ _ => trivial) ?_
  intro t outcome reply u _ _ hread hu _
  match reply with
  | .unavailable => exact failed_safe (by simp)
  | .row receipt =>
    have hseen : ∀ row, receipt = some row → arguments.receiptKey encoding = key →
        SeenReceipt encoding key within issued row u := by
      rintro row rfl hkey
      subst hkey
      exact hu.seen (getReceipt_row hread)
    dsimp only
    split
    · exact failed_safe (by simp)
    · next row hdecided => exact replayed_safe hdecided (hseen row rfl)
    · exact admitNew_safe hargs hseen

end Idempotency

end LimnoPulse.Ingestion
