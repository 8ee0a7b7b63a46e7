import LimnoPulse.Deployments.History

/-!
# Integrity of deployment histories

Every call justifies the transaction it sends, so the invariant of the
histories holds in every store that a run can reach.  The lookup reads a single
history row; that this row decides it is a consequence of the invariant.

Main results:

- Theorem `getDeploymentAt_spec`: a lookup returns the interval containing
  the instant, if there is one.
- Theorem `deploymentIntegrity_of_run`: the integrity of every history that
  a run can reach.
-/

namespace LimnoPulse.Deployments

open StoreProgram Chronology
open Ingestion (Time)
open Provisioning (IdempotencyReceipt)

variable {s : Store} {α : Type} {transaction : Transaction} {row : DeploymentRow} {t : Time}
  {rows : List DeploymentRow}

/-! ## Calls -/

section Safety

/-- Justified operations keep the history invariant. -/
theorem kept : Kept exec (fun _ _ _ => True)
    (fun op s => op.Justified s) HistoryInvariant Later Later where
  trans _ _ _ := Later.trans
  rely_of_guarantee _ _ := id
  step _ _ _ _ _ hs hjust _ hexec := exec_invariant hs hjust hexec

/-- Safety against changes that `Later` allows. -/
abbrev SafeDeploymentCall {α : Type} (p : DeploymentProgram α) (s : Store) : Prop :=
  SafeCall exec (fun _ _ _ => True) HistoryInvariant Later Later p s

/-- A read, and a safe rest. -/
theorem SafeDeploymentCall.read {op : Op} {next : Reply op → DeploymentProgram α}
    (hop : ∀ transaction, op ≠ .transact transaction)
    (hnext : ∀ t fault reply u, Later s t → HistoryInvariant t → exec op fault t = some (reply, u) →
      HistoryInvariant u → Later s u → SafeDeploymentCall (next reply) u) :
    SafeDeploymentCall (Program.call op next) s :=
  SafeCall.call kept (fun _ _ _ transaction htransact => absurd htransact (hop transaction)) hnext

/-- The last operation of a call. -/
theorem SafeDeploymentCall.transact {next : TransactReply → DeploymentProgram α}
    (hjust : ∀ t, Later s t → transaction.Justified t)
    (hnext : ∀ reply u, SafeDeploymentCall (next reply) u) :
    SafeDeploymentCall (Program.call (.transact transaction) next) s := by
  refine SafeCall.call kept ?_ fun _ _ reply u _ _ _ _ _ => hnext reply u
  rintro t hlater - _ ⟨⟩
  exact hjust t hlater

/-- An end that is handed on comes from a history row. -/
theorem ensureAfterHistory_eq_ok {startedAt : Time} {latest : Option DeploymentRow}
    {previous : Option Time} (h : ensureAfterHistory startedAt latest = .ok previous)
    (hprev : previous ≠ none) : latest ≠ none := by
  rintro rfl
  cases h
  exact hprev rfl

/-- A start sends a justified transaction. -/
theorem startDeployment_safe (deployment : Deployment) (receipt : IdempotencyReceipt)
    (now : Time) (s : Store) : SafeDeploymentCall (startDeployment deployment receipt now) s := by
  unfold startDeployment
  split
  · exact SafeCall.done _ _
  · next hact =>
    simp only [getMarker, queryHistory, transact, Program.perform_bind]
    refine SafeDeploymentCall.read (by simp) ?_
    intro _ _ reply s₁ _ _ _ _ _
    match reply with
    | .unavailable => exact SafeCall.done _ _
    | .row marker =>
      dsimp only
      split
      · exact SafeCall.done _ _
      · refine SafeDeploymentCall.read (by simp) ?_
        intro t fault reply s₂ _ _ hread _ _
        match reply with
        | .unavailable => exact SafeCall.done _ _
        | .row latest =>
          dsimp only
          split
          · exact SafeCall.done _ _
          · next previous hensure =>
            refine SafeDeploymentCall.transact ?_ ?_
            · intro u hlater
              refine ⟨deployment.valid, not_not.mp hact, fun hprev => ?_⟩
              apply hlater.histories
              intro hempty
              apply ensureAfterHistory_eq_ok hensure hprev
              obtain ⟨hreply, rfl⟩ := Prod.mk.inj (Option.some.inj hread)
              rw [← answer_eq_row hreply, hempty]
              rfl
            · intro reply u
              cases reply <;> exact SafeCall.done _ _

/-- An end sends a justified transaction. -/
theorem endDeployment_safe (arguments : EndArguments) (s : Store) :
    SafeDeploymentCall (endDeployment arguments) s := by
  simp only [endDeployment, getMirror, getMarker, transact, Program.perform_bind]
  refine SafeDeploymentCall.read (by simp) ?_
  intro t fault reply s₁ _ _ hread hs₁ _
  match reply with
  | .unavailable | .row none => exact SafeCall.done _ _
  | .row (some item) =>
    have hmirror : s₁.mirrors (arguments.tenantId, arguments.deploymentId) = some item := by
      obtain ⟨hreply, rfl⟩ := Prod.mk.inj (Option.some.inj hread)
      exact answer_eq_row hreply
    have hkey := (hs₁.mirrors _ item hmirror).1
    dsimp only
    split
    · exact SafeCall.done _ _
    · split
      · exact SafeCall.done _ _
      · next current hcur =>
        have hitem := deploymentFromItem_eq_some hcur
        split
        · exact SafeCall.done _ _
        · split
          · exact SafeCall.done _ _
          · split
            · exact SafeCall.done _ _
            · next ended hended =>
              refine SafeDeploymentCall.read (by simp) ?_
              intro _ _ reply s₂ _ _ _ _ hlater
              match reply with
              | .unavailable => exact SafeCall.done _ _
              | .row marker =>
                refine SafeDeploymentCall.transact ?_ ?_
                · intro u hlater'
                  have hrow := deploymentFromItem_eq_some hended
                  refine ⟨?_, ?_, ?_⟩
                  · have hproper := ended.valid.2.2.1
                    rw [hrow] at hproper
                    exact hproper arguments.endedAt rfl
                  · have hwindow := ended.valid.2.1
                    rw [hrow] at hwindow
                    rw [hrow]
                    exact hwindow
                  · rw [hkey] at hmirror
                    obtain ⟨new, hnew, hsame⟩ := (hlater.trans hlater').mirrors _ item hmirror
                    rw [hitem]
                    exact ⟨new, hnew, hsame⟩
                · intro reply u
                  cases reply <;> exact SafeCall.done _ _

/-- A lookup sends none. -/
theorem getDeploymentAt_safe (tenantId componentId : String) (observedAt : Time) (s : Store) :
    SafeDeploymentCall (getDeploymentAt tenantId componentId observedAt) s := by
  simp only [getDeploymentAt, queryHistory, Program.perform_bind]
  refine SafeDeploymentCall.read (by simp) ?_
  intro _ _ reply _ _ _ _ _ _
  cases reply <;> exact SafeCall.done _ _

/-- Every call sends justified transactions only. -/
theorem body_safe (call : Call) (s : Store) : SafeDeploymentCall call.body s := by
  cases call with
  | startDeployment deployment receipt now =>
    exact SafeCall.map _ (startDeployment_safe deployment receipt now s)
  | endDeployment arguments => exact SafeCall.map _ (endDeployment_safe arguments s)
  | getDeploymentAt tenantId componentId observedAt =>
    exact SafeCall.map _ (getDeploymentAt_safe tenantId componentId observedAt s)
  | writeParents =>
    exact SafeDeploymentCall.read (by simp) fun _ _ _ _ _ _ _ _ _ => SafeCall.done _ _

end Safety

/-- The check of an interval is containment. -/
theorem contains_iff :
    contains row t = true ↔ Contains DeploymentRow.startedAt DeploymentRow.endedAt row t := by
  unfold contains Contains
  cases row.endedAt <;> simp

/-- The row that contains the instant is read. -/
theorem queryLatest_of_contains (h : ChronologicalRows rows) (hrow : row ∈ rows)
    (hcontains : contains row t = true) :
    queryLatest rows (some t) = some row := by
  have hin := contains_iff.mp hcontains
  rcases hlatest : queryLatest rows (some t) with _ | latest
  · obtain ⟨bound, hbound, hlt⟩ := queryLatest_eq_none hlatest hrow
    cases hbound
    exact absurd hin.1 (not_le_of_gt hlt)
  · obtain ⟨hmem, hstart, hgreatest⟩ := queryLatest_eq_some hlatest
    have hle : row.historyKey ≤ latest.historyKey := by
      refine hgreatest row hrow ?_
      rintro bound ⟨⟩
      exact hin.1
    rcases h.start_le_of_contains hrow hmem hin (hstart t rfl) with heq | hlt
    · rw [heq]
    · -- A row that started earlier has a smaller key.
      have hkey : latest.historyKey < row.historyKey := Prod.Lex.toLex_lt_toLex.mpr (.inl hlt)
      exact absurd hle (not_le_of_gt hkey)

/-- The deployment whose interval contains the instant. -/
theorem getDeploymentAt_spec (hs : HistoryInvariant s) (tenantId componentId : String)
    (t : Time) :
    ∃ result, (getDeploymentAt tenantId componentId t).alone exec .none s = some (.ok result, s) ∧
      ∀ deployment : Deployment, result = some deployment ↔
        deployment.toDeploymentRow ∈ s.histories componentId ∧ deployment.tenantId = tenantId ∧
          contains deployment.toDeploymentRow t = true := by
  have hcomp := hs.components componentId
  have halone : (getDeploymentAt tenantId componentId t).alone exec .none s =
      some (deploymentAtOf tenantId t (queryLatest (s.histories componentId) (some t)), s) := rfl
  rw [halone]
  have hfound : ∀ deployment : Deployment, deployment.toDeploymentRow ∈ s.histories componentId →
      contains deployment.toDeploymentRow t = true →
      queryLatest (s.histories componentId) (some t) = some deployment.toDeploymentRow :=
    fun deployment hmem hcontains =>
      queryLatest_of_contains hcomp.chronological hmem hcontains
  rcases hlatest : queryLatest (s.histories componentId) (some t) with _ | row
  · refine ⟨none, rfl, fun deployment => iff_of_false (by simp) ?_⟩
    rintro ⟨hmem, -, hcontains⟩
    have hsome := hfound deployment hmem hcontains
    rw [hlatest] at hsome
    cases hsome
  · have hmem := (queryLatest_eq_some hlatest).1
    have hvalid := (hcomp.valid row hmem).2
    have honly : ∀ deployment : Deployment, deployment.toDeploymentRow ∈ s.histories componentId →
        contains deployment.toDeploymentRow t = true → deployment = ⟨row, hvalid⟩ := by
      rintro ⟨other, hother⟩ hotherMem hcontains
      have hsome := hfound ⟨other, hother⟩ hotherMem hcontains
      rw [hlatest] at hsome
      cases hsome
      rfl
    by_cases htenant : row.tenantId = tenantId
    · refine ⟨if contains row t then some ⟨row, hvalid⟩ else none, ?_, fun deployment => ?_⟩
      · simp [deploymentAtOf, htenant, deploymentFromItem_of_valid hvalid]
      · by_cases hcontains : contains row t = true
        · rw [if_pos hcontains]
          constructor
          · rintro ⟨⟩
            exact ⟨hmem, htenant, hcontains⟩
          · rintro ⟨hotherMem, -, hotherContains⟩
            rw [honly deployment hotherMem hotherContains]
        · rw [if_neg hcontains]
          refine iff_of_false (by simp) ?_
          rintro ⟨hotherMem, -, hotherContains⟩
          rw [honly deployment hotherMem hotherContains] at hotherContains
          exact hcontains hotherContains
    · refine ⟨none, by simp [deploymentAtOf, htenant], fun deployment => iff_of_false (by simp) ?_⟩
      rintro ⟨hotherMem, hotherTenant, hotherContains⟩
      rw [honly deployment hotherMem hotherContains] at hotherTenant
      exact htenant hotherTenant

/-- The marker's number, 0 without a marker. -/
def markerSeq (componentId : String) (s : Store) : Nat :=
  ((s.markers componentId).map (·.seq)).getD 0

/-- One for a committed start or end of the component. -/
def commitsOn (componentId : String) (op : Op) (fault : Fault) (s : Store) : Nat :=
  match op with
  | .transact transaction =>
    if transaction.componentId = componentId && fault ≠ .requestLost
        && (transaction.write s).isSome then 1
    else 0
  | _ => 0

/-- A transaction counts its marker up. -/
theorem Transaction.markerSeq_of_write {t : Store}
    (h : transaction.write s = some t) (componentId : String) :
    markerSeq componentId t =
      markerSeq componentId s + if transaction.componentId = componentId then 1 else 0 := by
  have hother : ∀ {changed : String} {marker : Option Marker}, changed ≠ componentId →
      t.markers = Function.update s.markers changed marker →
      markerSeq componentId t = markerSeq componentId s := by
    intro changed marker hne hmarkers
    rw [markerSeq, markerSeq, hmarkers, Function.update_of_ne (Ne.symm hne)]
  cases transaction with
  | start request =>
    obtain ⟨-, -, hcond, -, -, -, hmarkers⟩ := StartRequest.write_cases h
    by_cases hsame : (Transaction.start request).componentId = componentId
    · rw [if_pos hsame]
      subst hsame
      rcases hobs : request.marker with _ | observed
      · simp only [StartRequest.markerUpdate, hobs] at hcond hmarkers
        rw [Option.isNone_iff_eq_none] at hcond
        simp [markerSeq, hmarkers, hcond, Store.putMarker, Transaction.componentId]
      · simp only [StartRequest.markerUpdate, hobs] at hcond hmarkers
        obtain ⟨marker, hstored, hmatch⟩ := (Option.any_eq_true _ _).mp hcond
        simp only [Bool.and_eq_true, decide_eq_true_eq] at hmatch
        simp [markerSeq, hmarkers, hstored, hmatch.1.1, Store.putMarker, Transaction.componentId]
    · rw [if_neg hsame, Nat.add_zero]
      rcases hobs : request.marker with _ | observed
      · simp only [StartRequest.markerUpdate, hobs] at hmarkers
        exact hother hsame hmarkers
      · simp only [StartRequest.markerUpdate, hobs] at hmarkers
        exact hother hsame hmarkers
  | finish request =>
    obtain ⟨-, -, -, hcond, -, -, -, hmarkers⟩ := EndRequest.write_cases h
    by_cases hsame : (Transaction.finish request).componentId = componentId
    · rw [if_pos hsame]
      subst hsame
      rcases hobs : request.observedSeq with _ | observed
      · simp only [EndRequest.markerAdvance, hobs] at hcond
        rw [Option.isNone_iff_eq_none] at hcond
        simp [markerSeq, hmarkers, hcond, hobs, Transaction.componentId]
      · simp only [EndRequest.markerAdvance, hobs] at hcond
        obtain ⟨marker, hstored, hmatch⟩ := (Option.any_eq_true _ _).mp hcond
        simp only [Bool.and_eq_true, decide_eq_true_eq] at hmatch
        simp [markerSeq, hmarkers, hstored, hmatch.1, hobs, Transaction.componentId]
    · rw [if_neg hsame, Nat.add_zero]
      exact hother hsame hmarkers

/-- Markers count committed transactions. -/
theorem exec_markerSeq (componentId : String) (op : Op) (fault : Fault) (s : Store)
    (reply : Reply op) (t : Store) (h : exec op fault s = some (reply, t)) :
    markerSeq componentId t = markerSeq componentId s + commitsOn componentId op fault s := by
  rcases exec_cases h with ⟨parents, rfl, hrefused⟩ | ⟨transaction, rfl, hfault, hwrite⟩
  · have hnone : commitsOn componentId op fault s = 0 := by
      cases op with
      | transact transaction =>
        rcases hrefused transaction rfl with hlost | hnone
        · simp [commitsOn, hlost]
        · simp [commitsOn, hnone]
      | getMirror key | getMarker key | queryHistory key upper | writeParents parents => rfl
    rw [hnone]
    rfl
  · rw [Transaction.markerSeq_of_write hwrite componentId]
    simp [commitsOn, hfault, hwrite]

/-! ## Runs -/

/-- None has ended, or it is the greatest end. -/
def IsLatestEnd (rows : List DeploymentRow) : Option Time → Prop
  | none => ∀ row ∈ rows, row.endedAt = none
  | some last => (∃ row ∈ rows, row.endedAt = some last) ∧
      ∀ row ∈ rows, ∀ endedAt, row.endedAt = some endedAt → endedAt ≤ last

/-- The integrity of all deployment histories of a store. -/
structure DeploymentIntegrity (s : Store) : Prop where
  disjoint : ∀ componentId, (s.histories componentId).Pairwise fun a b =>
    ∀ t, ¬ (contains a t = true ∧ contains b t = true)
  one_open : ∀ componentId, ∀ a ∈ s.histories componentId, ∀ b ∈ s.histories componentId,
    a.endedAt = none → b.endedAt = none → a = b
  current : ∀ componentId row, s.currents componentId = some row ↔
    row ∈ s.histories componentId ∧ row.endedAt = none
  mirrored : ∀ componentId, ∀ row ∈ s.histories componentId,
    s.mirrors (row.tenantId, row.deploymentId) = some row
  mirror : ∀ key row, s.mirrors key = some row →
    key = (row.tenantId, row.deploymentId) ∧ row ∈ s.histories row.componentId
  lastEndedAt : ∀ componentId,
    IsLatestEnd (s.histories componentId) ((s.markers componentId).bind (·.lastEndedAt))
  lookup : ∀ tenantId componentId t, ∃ result,
    (getDeploymentAt tenantId componentId t).alone exec .none s = some (.ok result, s) ∧
      ∀ deployment : Deployment, result = some deployment ↔
        deployment.toDeploymentRow ∈ s.histories componentId ∧ deployment.tenantId = tenantId ∧
          contains deployment.toDeploymentRow t = true

/-- The newest end is the latest. -/
theorem isLatestEnd_newestStop (h : ChronologicalRows rows) :
    IsLatestEnd rows (newestStop DeploymentRow.endedAt rows) := by
  rcases hlast : newestStop DeploymentRow.endedAt rows with _ | last
  · intro row hrow
    exact List.findSome?_eq_none_iff.mp hlast row hrow
  · refine ⟨List.exists_of_findSome?_eq_some hlast, ?_⟩
    intro row hrow endedAt hended
    obtain ⟨other, hother, hle⟩ := h.stop_le_newestStop hrow hended
    rw [hlast] at hother
    cases hother
    exact hle

/-- The invariant implies integrity. -/
theorem HistoryInvariant.integrity (hs : HistoryInvariant s) : DeploymentIntegrity s where
  disjoint := by
    intro componentId
    refine (hs.components componentId).chronological.disjoint.imp ?_
    intro a b hdisjoint t hboth
    exact hdisjoint t ⟨contains_iff.mp hboth.1, contains_iff.mp hboth.2⟩
  one_open := by
    intro componentId a ha b hb hopen hopen'
    have hchronological := (hs.components componentId).chronological
    have hhead := hchronological.head_of_open ha hopen
    rw [hchronological.head_of_open hb hopen'] at hhead
    exact (Option.some.inj hhead).symm
  current := by
    intro componentId row
    rw [(hs.components componentId).pointer row]
    constructor
    · rintro ⟨hhead, hopen⟩
      exact ⟨List.mem_of_mem_head? hhead, hopen⟩
    · rintro ⟨hmem, hopen⟩
      exact ⟨(hs.components componentId).chronological.head_of_open hmem hopen, hopen⟩
  mirrored := hs.mirrored
  mirror := hs.mirrors
  lastEndedAt := by
    intro componentId
    have hcomp := hs.components componentId
    rcases hmarker : s.markers componentId with _ | marker
    · rw [hcomp.unmarked hmarker]
      intro row hrow
      cases hrow
    · rw [Option.bind_some, (hcomp.marked marker hmarker).lastEndedAt]
      exact isLatestEnd_newestStop hcomp.chronological
  lookup := getDeploymentAt_spec hs

/-- A table without deployment rows and markers. -/
def NoDeployments (s : Store) : Prop :=
  (∀ key, s.mirrors key = none) ∧ (∀ componentId, s.histories componentId = []) ∧
    (∀ componentId, s.currents componentId = none) ∧ ∀ componentId, s.markers componentId = none

/-- A table without deployments. -/
theorem NoDeployments.invariant (h : NoDeployments s) : HistoryInvariant s where
  components componentId := by
    rw [h.2.1, h.2.2.1, h.2.2.2]
    exact ComponentHistory.empty componentId
  mirrored := by simp [h.2.1]
  mirrors := by simp [h.1]

/-- From a table without deployments, every interleaving of starts and ends leaves disjoint
histories with their copies, and markers that count the committed starts and ends. -/
theorem deploymentIntegrity_of_run (s : Store) (hempty : NoDeployments s)
    (schedule : List (Action Fault Call)) (w : World Store Call Result Op Reply)
    (hrun : machine.run (Machine.initial s) schedule = some w) :
    DeploymentIntegrity w.store ∧ ∀ componentId,
      markerSeq componentId w.store =
        machine.total (commitsOn componentId) (Machine.initial s) schedule := by
  have hcontract : Contract machine (fun _ _ _ => True) HistoryInvariant Later Later
      (fun _ _ _ => True) := Kept.contract kept Later.refl Later.refl body_safe
  have hguarded := Machine.guarded_true (M := machine) schedule
    (Machine.initial s)
  refine ⟨(hcontract.run_initial hempty.invariant hguarded hrun).1.integrity, ?_⟩
  intro componentId
  rw [Machine.measure_of_run (exec_markerSeq componentId) schedule _ w hrun]
  simp [markerSeq, Machine.initial, hempty.2.2.2]

namespace TwoDeployments

/-- An active deployment. -/
def first : Deployment :=
  ⟨{ tenantId := "t"
     deploymentId := "d"
     componentId := "c"
     siteId := "s"
     assetId := "a"
     startedAt := 0
     endedAt := none
     status := .active
     createdAt := 0
     updatedAt := 0
     version := 1 }, by decide⟩

/-- Another asset after the first deployment. -/
def second : Deployment :=
  ⟨{ first.1 with deploymentId := "e", assetId := "b", startedAt := 10 }, by decide⟩

/-- The receipt of a start. -/
def receipt (keyHash : String) : IdempotencyReceipt :=
  ⟨⟨"t", "deployment-create", keyHash⟩, "h", "{}", 0⟩

/-- No deployments yet; the parents are active. -/
def store : Store where
  mirrors := fun _ => none
  histories := fun _ => []
  currents := fun _ => none
  markers := fun _ => none
  receipts := fun _ => none
  parents := ⟨fun _ => some ⟨"t", true⟩, fun _ => some ⟨"t", true⟩, fun _ => some ⟨"t", true⟩⟩

/-- Two racing starts; when the first deployment has ended, the second starts. -/
def schedule : List (Action Fault Call) :=
  [.start (.startDeployment first (receipt "k") 0),
    .start (.startDeployment second (receipt "l") 0),
    .step 0 .none, .step 1 .none, .step 0 .none, .step 1 .none, .step 0 .none, .step 1 .none,
    .start (.endDeployment ⟨"t", "d", 1, 5, 6⟩), .step 2 .none, .step 2 .none, .step 2 .none,
    .start (.startDeployment second (receipt "l") 0), .step 3 .none, .step 3 .none, .step 3 .none]

end TwoDeployments

/-- Two starts that race, an end, and a second start. -/
theorem deploymentIntegrity_of_two_deployments :
    ∃ w : World Store Call Result Op Reply,
      machine.run (Machine.initial TwoDeployments.store) TwoDeployments.schedule = some w ∧
        markerSeq "c" w.store = 3 ∧ (w.store.histories "c").length = 2 ∧
        DeploymentIntegrity w.store :=
  ⟨_, rfl, rfl, rfl, (deploymentIntegrity_of_run TwoDeployments.store
    ⟨fun _ => rfl, fun _ => rfl, fun _ => rfl, fun _ => rfl⟩ TwoDeployments.schedule _ rfl).1⟩

end LimnoPulse.Deployments
