import LimnoPulse.Ingestion.Idempotency
import Mathlib.Data.List.Nodup
import Mathlib.Data.Set.Function

/-!
# Runs of concurrent admissions

Any number of requests are interleaved with each other, with time-to-live
deletions and with changes of the mapping rows.

Main results:

- Theorem `idempotentAdmission_of_run`: what all requests with one account
  and idempotency key have in common.
- Theorem `two_identifiers_after_expiry`: a request that outlives the receipt
  after it read its clock is accepted with another identifier.
-/

namespace LimnoPulse.Ingestion

open StoreProgram

/-- A schedule of admissions and of their environment. -/
abbrev AdmissionSchedule := List (Action Outcome AdmissionCall)

/-- A store with its requests. -/
abbrev AdmissionWorld := World AdmissionStore AdmissionCall AdmissionResult AdmissionOp AdmissionReply

/-- The admissions a schedule starts. -/
def startedAdmissions (schedule : AdmissionSchedule) : List AdmitArguments :=
  schedule.filterMap fun
    | .start (.admission arguments) => some arguments
    | _ => none

/-- The requests that a schedule starts. -/
theorem mem_startedAdmissions {schedule : AdmissionSchedule} {arguments : AdmitArguments} :
    arguments ∈ startedAdmissions schedule ↔ Action.start (.admission arguments) ∈ schedule := by
  simp only [startedAdmissions, List.mem_filterMap]
  constructor
  · rintro ⟨action, hmem, haction⟩
    split at haction
    · cases haction
      exact hmem
    · contradiction
  · intro hmem
    exact ⟨_, hmem, rfl⟩

/-- Clocks are read within 24 hours of the receipt. -/
def ReadWithinDay (encoding : Encoding) (key : ReceiptKey) (schedule : AdmissionSchedule)
    (r : IngressReceipt) : Prop :=
  ∀ arguments ∈ startedAdmissions schedule, arguments.receiptKey encoding = key →
    arguments.now < r.createdAtUs + receiptTtlUs

/-- Deletions run before the receipt expires. -/
def NotSwept (key : ReceiptKey) (schedule : AdmissionSchedule) (r : IngressReceipt) : Prop :=
  ∀ at_, Action.start (.expire key at_) ∈ schedule → at_ < r.expiresAt

/-- A key no request has used yet. -/
structure UnusedKey (key : ReceiptKey) (s : AdmissionStore) : Prop where
  receipts : s.receipts key = none
  claims : s.claims key = []
  sent : ∀ m ∈ s.sent, m.sender ≠ key

/-- What all requests of a key have in common. -/
structure IdempotentAdmission (encoding : Encoding) (key : ReceiptKey) (w : AdmissionWorld) :
    Prop where
  accepted : ∀ arguments accepted,
    (AdmissionCall.admission arguments, Program.done (some (.ok accepted))) ∈ w.processes →
    arguments.receiptKey encoding = key → ∃ r, w.store.firstReceipt key = some r ∧
      accepted.ingressId = r.ingressId ∧ arguments.requestSha256 encoding = r.requestSha256 ∧
      AcknowledgedFor key r w.store
  sent : ∀ m ∈ w.store.sent, m.sender = key → ∃ r, w.store.firstReceipt key = some r ∧
    m.envelope.identity = r.identity
  not_lost_twice : ∀ arguments,
    (AdmissionCall.admission arguments, Program.done (some (.error .claimLostTwice))) ∈ w.processes →
    arguments.receiptKey encoding ≠ key

section Contract

variable {encoding : Encoding} {key : ReceiptKey} {within : IngressReceipt → Prop}
  {issued : String → AdmitArguments}

/-- An unused key. -/
theorem UnusedKey.invariant {s : AdmissionStore} (h : UnusedKey key s) :
    ReceiptInvariant encoding key within issued s where
  issued := by simp [h.claims]
  unclaimed _ := ⟨h.receipts, h.sent⟩
  held r hr := by
    rw [firstReceipt_eq_none.mpr h.claims] at hr
    cases hr

/-- An answer stays right. -/
theorem Answered.later {arguments : AdmitArguments} {result : IngressService.AdmitResult}
    {s t : AdmissionStore} (h : Answered encoding key within arguments result s)
    (hlater : LaterAdmission key s t) : Answered encoding key within arguments result t := by
  intro hkey
  have hanswered := h hkey
  match result with
  | .ok accepted =>
    obtain ⟨r, hr, hwithin⟩ := hanswered
    refine ⟨r, hlater.first r hr, fun hr_within => ?_⟩
    obtain ⟨hid, hreq, hack⟩ := hwithin hr_within
    exact ⟨hid, hreq, hlater.acknowledgedFor hack⟩
  | .error .claimLostTwice =>
    obtain ⟨r, hr, hwithin⟩ := hanswered
    exact ⟨r, hlater.first r hr, hwithin⟩
  | .error .conflict | .error (.denied _) | .error .tooLarge | .error .invalidEnvelope
  | .error (.unavailable _) => trivial

variable (encoding key within) in
/-- What a call establishes when it ends. -/
def AdmissionCall.Ended (result : AdmissionResult) (s : AdmissionStore) : AdmissionCall → Prop
  | .admission arguments => ∀ answer, result = some answer →
      Answered encoding key within arguments answer s
  | _ => True

/-- Timely calls meet the contract. -/
theorem admission_contract {allowed : AdmissionCall → Bool}
    (htimely : ∀ arguments, allowed (.admission arguments) = true →
      Timely encoding key within issued arguments)
    (hswept : ∀ at_, allowed (.expire key at_) = true → ∀ r, within r → at_ < r.expiresAt) :
    Contract ((admissionMachine encoding).restrict allowed) (fun _ _ _ => True)
      (ReceiptInvariant encoding key within issued) (LaterAdmission key) (LaterAdmission key)
      (fun c result s => c.Ended encoding key within result s) where
  rely_refl := LaterAdmission.refl
  rely_trans _ _ _ := LaterAdmission.trans
  guarantee_refl := LaterAdmission.refl
  guarantee_rely := id
  post_stable c result s t hended hlater _ := by
    cases c with
    | admission => exact fun answer hanswer => (hended answer hanswer).later hlater
    | expire expired at_ | writeMapping rows => trivial
  body_safe {c s} _ hadmits := by
    have hallowed : allowed c = true := by
      simpa [Machine.restrict, admissionMachine] using hadmits
    cases c with
    | admission arguments =>
      refine Program.Safe.bind (admitBatch_safe (htimely arguments hallowed) s) ?_
      rintro result t hanswered answer ⟨⟩
      exact hanswered
    | expire expired at_ =>
      refine admission_kept.safe_call ?_ fun _ _ _ _ _ _ _ _ _ => trivial
      rintro t - - rfl
      exact hswept at_ hallowed
    | writeMapping =>
      exact admission_kept.safe_call (fun _ _ _ => trivial) fun _ _ _ _ _ _ _ _ _ => trivial

end Contract

/-! ## Sample admissions -/

namespace SampleAdmission

/-- A reading without a component. -/
def observation : IngestSourceObservation where
  componentId := none
  metricKey := "water.dissolved_oxygen"
  value := .int 7
  sourceUnit := "mg/L"
  observedAt := 0
  sequence := none
  sourceEventId := none
  sourceMetadata := []

/-- A request body. -/
def batch : IngestObservationBatch := ⟨"0a1b2c3d", [observation], by simp, by decide⟩

/-- An authenticated account. -/
def source : AuthenticatedSource :=
  ⟨"t", "ia", "https_direct", "ic_00000000000000000000000000000001"⟩

/-- A request with the given clock reading and identifier. -/
def arguments (now : Time) (ingressId : String) : AdmitArguments :=
  ⟨source, batch, "00000001", none, now, ingressId⟩

/-- There are arguments. -/
instance : Nonempty AdmitArguments := ⟨arguments 0 ""⟩

/-- The form of a digest, from eight digits. -/
def digest (text : String) : String :=
  "00000000000000000000000000000000000000000000000000000000" ++ text

/-- The default component. -/
def componentId : String := "cmp_00000000000000000000000000000001"

/-- Symbolic digests. -/
def encoding : Encoding where
  accountScopedIdentityHash _ _ externalDeviceId := digest externalDeviceId
  defaultComponentIdForLegacyDevice _ _ := componentId
  idempotencyKeyHash := digest
  ingestRequestSha256 batch _ := digest batch.externalDeviceId
  envelopeJson _ := ""

/-- The integration of the device. -/
def deviceIntegrationId : String := "di_00000000000000000000000000000001"

/-- An active device with one probe. -/
def mapping : MappingRows where
  externalIdentities _ := some ⟨"t", "dev", deviceIntegrationId⟩
  deviceIntegrations _ :=
    some ⟨"t", deviceIntegrationId, "dev", "ia", "https_direct", digest "0a1b2c3d", .active⟩
  integrationAccounts _ := some ⟨"t", "ia", "https_direct", .active⟩
  devices _ := some ⟨"t", "dev", .active⟩
  components _ :=
    some ⟨"t", componentId, "dev", .probe, some ⟨"pp", ["water.dissolved_oxygen"]⟩, .active,
      by simp⟩

/-- No receipts yet. -/
def store : AdmissionStore := ⟨fun _ => none, fun _ => [], [], mapping⟩

/-- The key of the requests. -/
def key : ReceiptKey := ("ia", digest "00000001")

/-- An identifier. -/
def firstId : String := "ing_00000000000000000000000000000001"

/-- Another one. -/
def secondId : String := "ing_00000000000000000000000000000002"

/-- Awaits of a request, without faults. -/
def steps (i : Nat) (count : Nat) : AdmissionSchedule := List.replicate count (.step i {})

/-- The answers of the finished requests. -/
def answers (w : AdmissionWorld) : List (Option IngestAccepted) :=
  w.processes.map fun
    | (_, .done (some (.ok accepted))) => some accepted
    | _ => none

/-- A request, and the same request again half a day later. -/
def repeatedSchedule : AdmissionSchedule :=
  .start (.admission (arguments 0 firstId)) :: steps 0 10 ++
    .start (.admission (arguments 43200000000 secondId)) :: steps 1 1

/-- A second request reads its clock just in time, and goes on after the deletion. -/
def expiredSchedule : AdmissionSchedule :=
  .start (.admission (arguments 0 firstId)) :: steps 0 10 ++
    .start (.admission (arguments 86399999999 secondId)) ::
    .start (.expire key 86400) :: .step 2 {} :: steps 1 10

/-- The key is unused. -/
theorem store_unused : UnusedKey key store := ⟨rfl, rfl, by simp [store]⟩

end SampleAdmission

open SampleAdmission

/-- Each identifier has one request. -/
theorem exists_issued {schedule : AdmissionSchedule}
    (hdistinct : ((startedAdmissions schedule).map (·.ingressId)).Nodup) :
    ∃ issued : String → AdmitArguments,
      ∀ arguments ∈ startedAdmissions schedule, issued arguments.ingressId = arguments := by
  have hinjective : Set.InjOn AdmitArguments.ingressId
      {arguments | arguments ∈ startedAdmissions schedule} :=
    fun _ h _ h' => List.inj_on_of_nodup_map hdistinct h h'
  exact ⟨_, hinjective.leftInvOn_invFunOn⟩

/-- In every run from a store where the key is unused, while the requests of the key read their
clocks within the 24 hours of its first receipt and time-to-live does not delete that receipt: an
accepted request has the receipt's identifier and request, and a message with that identifier was
acknowledged; every message sent for the key has the receipt's identity; and no claim is lost twice.
-/
theorem idempotentAdmission_of_run (encoding : Encoding) (key : ReceiptKey) (s : AdmissionStore)
    (hunused : UnusedKey key s) (schedule : AdmissionSchedule) (w : AdmissionWorld)
    (hrun : (admissionMachine encoding).run (Machine.initial s) schedule = some w)
    (hdistinct : ((startedAdmissions schedule).map (·.ingressId)).Nodup)
    (hday : ∀ r, w.store.firstReceipt key = some r → ReadWithinDay encoding key schedule r)
    (hswept : ∀ r, w.store.firstReceipt key = some r → NotSwept key schedule r) :
    IdempotentAdmission encoding key w := by
  classical
  obtain ⟨issued, hissued⟩ := exists_issued hdistinct
  let within : IngressReceipt → Prop := fun r =>
    ReadWithinDay encoding key schedule r ∧ NotSwept key schedule r
  have hfirst : ∀ r, w.store.firstReceipt key = some r → within r :=
    fun r hr => ⟨hday r hr, hswept r hr⟩
  -- Only the calls of the schedule are made, so they alone have to be timely.
  let allowed : AdmissionCall → Bool := fun c => decide (Action.start c ∈ schedule)
  have htimely : ∀ arguments, allowed (.admission arguments) = true →
      Timely encoding key within issued arguments := by
    intro arguments hallowed
    have hmem := mem_startedAdmissions.mpr (of_decide_eq_true hallowed)
    exact ⟨hissued arguments hmem, fun hkey r hwithin => hwithin.1 arguments hmem hkey⟩
  have hcontract := admission_contract htimely
    fun at_ hallowed r hwithin => hwithin.2 at_ (of_decide_eq_true hallowed)
  have hrestricted : ((admissionMachine encoding).restrict allowed).run (Machine.initial s) schedule =
      some w := by
    rw [Machine.run_restrict fun c hc => decide_eq_true hc]
    exact hrun
  obtain ⟨hinvariant, hsafe, -⟩ := hcontract.run_initial hunused.invariant
    (Machine.guarded_true schedule _) hrestricted
  refine ⟨?_, ?_, ?_⟩
  · intro arguments accepted hprocess hkey
    obtain ⟨r, hr, hanswered⟩ := hsafe _ hprocess _ rfl hkey
    exact ⟨r, hr, hanswered (hfirst r hr)⟩
  · intro m hm hsender
    rcases hreceipt : w.store.firstReceipt key with _ | r
    · exact absurd hsender ((hinvariant.unclaimed hreceipt).2 m hm)
    · exact ⟨r, rfl, (hinvariant.held r hreceipt (hfirst r hreceipt)).sent m hm hsender⟩
  · intro arguments hprocess hkey
    obtain ⟨r, hr, hnot⟩ := hsafe _ hprocess _ rfl hkey
    exact hnot (hfirst r hr)

/-- A request that is repeated half a day later is answered from its receipt. -/
theorem idempotentAdmission_of_repeated_request : ∃ w : AdmissionWorld,
    (admissionMachine encoding).run (Machine.initial store)
        repeatedSchedule = some w ∧
      answers w = [some ⟨firstId, 1, false⟩, some ⟨firstId, 1, true⟩] ∧
      IdempotentAdmission encoding key w := by
  have hfinal : ((admissionMachine encoding).run
      (Machine.initial store) repeatedSchedule).map (fun w =>
        (answers w, w.store.firstReceipt key)) =
      some ([some ⟨firstId, 1, false⟩, some ⟨firstId, 1, true⟩],
        some ((arguments 0 firstId).claim encoding)) := by decide +kernel
  obtain ⟨w, hrun, hw⟩ := Option.map_eq_some_iff.mp hfinal
  obtain ⟨hanswers, hreceipt⟩ := Prod.mk.inj hw
  refine ⟨w, hrun, hanswers, idempotentAdmission_of_run encoding key store store_unused
    repeatedSchedule w hrun (by decide +kernel) ?_ ?_⟩
  · intro r hr arguments hmem _
    rw [hreceipt] at hr
    cases hr
    change arguments ∈ [_, _] at hmem
    simp only [List.mem_cons, List.not_mem_nil, or_false] at hmem
    rcases hmem with rfl | rfl <;> decide
  · intro r _ at_ hmem
    simp [repeatedSchedule, steps] at hmem

/-- Time-to-live may delete the receipt after a request read its clock and before it looks the
receipt up. Two requests with clock readings within the 24 hours are then accepted with different
identifiers. -/
theorem two_identifiers_after_expiry : ∃ w : AdmissionWorld,
    UnusedKey key store ∧
      (admissionMachine encoding).run (Machine.initial store)
        expiredSchedule = some w ∧
      ((startedAdmissions expiredSchedule).map (·.ingressId)).Nodup ∧
      (∀ r, w.store.firstReceipt key = some r →
        ReadWithinDay encoding key
          expiredSchedule r) ∧
      answers w = [some ⟨firstId, 1, false⟩, some ⟨secondId, 1, false⟩, none] ∧
      firstId ≠ secondId := by
  have hfinal : ((admissionMachine encoding).run
      (Machine.initial store) expiredSchedule).map (fun w =>
        (answers w, w.store.firstReceipt key)) =
      some ([some ⟨firstId, 1, false⟩, some ⟨secondId, 1, false⟩,
        none], some ((arguments 0 firstId).claim
          encoding)) := by decide +kernel
  obtain ⟨w, hrun, hw⟩ := Option.map_eq_some_iff.mp hfinal
  obtain ⟨hanswers, hreceipt⟩ := Prod.mk.inj hw
  refine ⟨w, store_unused, hrun, by decide +kernel, ?_, hanswers, by decide⟩
  intro r hr arguments hmem _
  rw [hreceipt] at hr
  cases hr
  change arguments ∈ [_, _] at hmem
  simp only [List.mem_cons, List.not_mem_nil, or_false] at hmem
  rcases hmem with rfl | rfl <;> decide

end LimnoPulse.Ingestion
