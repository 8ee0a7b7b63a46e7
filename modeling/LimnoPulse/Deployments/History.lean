import LimnoPulse.Deployments.Calls

/-!
# The history of a component

No two deployments of a component overlap, whatever starts and ends run
concurrently.  A start checks the overlap on rows it read earlier; what protects
the history is that its transaction finds no current row and a marker whose latest
end does not exceed the start.

Main results:

- Theorems `StartRequest.write_invariant` and `EndRequest.write_invariant`: both
  transactions keep the stored forms and the marker in agreement with a history.
- Theorem `exec_invariant`: so does every justified operation.
-/

namespace LimnoPulse.Deployments

open StoreProgram Chronology
open Function (update update_of_ne update_self)
open Ingestion (Time)

variable {row : DeploymentRow} {s t : Store} {request : EndRequest}

/-! ## The invariant -/

/-- The rows of a component in chronological order. -/
abbrev ChronologicalRows (rows : List DeploymentRow) : Prop :=
  Chronological DeploymentRow.startedAt DeploymentRow.endedAt rows

/-- What a marker says about the history of its component. -/
structure Marker.Marks (marker : Marker) (rows : List DeploymentRow) : Prop where
  nonempty : rows ≠ []
  tenant : ∀ row ∈ rows, row.tenantId = marker.tenantId
  lastEndedAt : marker.lastEndedAt = newestStop DeploymentRow.endedAt rows

/-- A chronological list of valid rows; the open newest one is current, and the marker describes it.
-/
structure ComponentHistory (componentId : String) (rows : List DeploymentRow)
    (current : Option DeploymentRow) (marker : Option Marker) : Prop where
  valid : ∀ row ∈ rows, row.componentId = componentId ∧ row.Valid
  chronological : ChronologicalRows rows
  pointer : ∀ row, current = some row ↔ rows.head? = some row ∧ row.endedAt = none
  unmarked : marker = none → rows = []
  marked : ∀ stored, marker = some stored → stored.Marks rows

/-- Components have histories, and mirrors copy their rows. -/
structure HistoryInvariant (s : Store) : Prop where
  components : ∀ componentId, ComponentHistory componentId (s.histories componentId)
    (s.currents componentId) (s.markers componentId)
  mirrored : ∀ componentId, ∀ row ∈ s.histories componentId,
    s.mirrors (row.tenantId, row.deploymentId) = some row
  mirrors : ∀ key row, s.mirrors key = some row →
    key = (row.tenantId, row.deploymentId) ∧ row ∈ s.histories row.componentId

/-- An active deployment has no end. -/
theorem DeploymentRow.Valid.endedAt_eq_none (h : row.Valid) (hstat : row.status = .active) :
    row.endedAt = none := by
  have hended := h.2.2.2
  rw [hstat] at hended
  simpa using hended

namespace ComponentHistory

variable {componentId : String} {rows : List DeploymentRow} {current : Option DeploymentRow}
  {marker : Option Marker}

theorem empty (componentId : String) : ComponentHistory componentId [] none none where
  valid := by simp
  chronological := .nil
  pointer := by simp
  unmarked _ := rfl
  marked := by simp

/-- Without a current row, every history row has ended. -/
theorem all_ended (h : ComponentHistory componentId rows none marker) (hrow : row ∈ rows) :
    ∃ endedAt, row.endedAt = some endedAt := by
  rcases hended : row.endedAt with _ | endedAt
  · have hhead := h.chronological.head_of_open hrow hended
    have hstored := (h.pointer row).mpr ⟨hhead, hended⟩
    cases hstored
  · exact ⟨endedAt, rfl⟩

/-- Start a deployment after all earlier ones. -/
theorem start (h : ComponentHistory componentId rows none marker) {deployment : DeploymentRow}
    {new : Marker} (hcomp : deployment.componentId = componentId) (hvalid : deployment.Valid)
    (hopen : deployment.endedAt = none)
    (hafter : ∀ older ∈ rows, ∃ endedAt, older.endedAt = some endedAt ∧
      endedAt ≤ deployment.startedAt)
    (hmarks : new.Marks (deployment :: rows)) :
    ComponentHistory componentId (deployment :: rows) (some deployment) (some new) where
  valid := by
    intro row hrow
    rcases List.mem_cons.mp hrow with rfl | hrow
    · exact ⟨hcomp, hvalid⟩
    · exact h.valid row hrow
  chronological := h.chronological.cons (by simp [hopen]) hafter
  pointer := by
    intro row
    rw [List.head?_cons]
    constructor
    · rintro ⟨⟩
      exact ⟨rfl, hopen⟩
    · exact fun h => h.1
  unmarked := by simp
  marked := by
    rintro _ ⟨⟩
    exact hmarks

/-- End the newest deployment. -/
theorem finish {newest : DeploymentRow} {new : Marker}
    (h : ComponentHistory componentId (newest :: rows) current marker) (ended : DeploymentRow)
    (hcomp : ended.componentId = componentId) (hvalid : ended.Valid)
    (hstart : ended.startedAt = newest.startedAt) (hended : ended.endedAt.isSome = true)
    (hmarks : new.Marks (ended :: rows)) :
    ComponentHistory componentId (ended :: rows) none (some new) where
  valid := by
    intro row hrow
    rcases List.mem_cons.mp hrow with rfl | hrow
    · exact ⟨hcomp, hvalid⟩
    · exact h.valid row (List.mem_cons_of_mem _ hrow)
  chronological := h.chronological.replace_head hstart hvalid.2.2.1
  pointer := by
    intro row
    rw [List.head?_cons]
    constructor
    · intro hnone
      cases hnone
    · rintro ⟨⟨⟩, hopen⟩
      simp [hopen] at hended
  unmarked := by simp
  marked := by
    rintro _ ⟨⟩
    exact hmarks

end ComponentHistory

/-- Other components keep their histories. -/
theorem components_update (hs : HistoryInvariant s) {componentId : String}
    {rows : List DeploymentRow} {current : Option DeploymentRow} {marker : Option Marker}
    (hhistories : t.histories = update s.histories componentId rows)
    (hcurrents : t.currents = update s.currents componentId current)
    (hmarkers : t.markers = update s.markers componentId marker)
    (hnew : ComponentHistory componentId rows current marker) (other : String) :
    ComponentHistory other (t.histories other) (t.currents other) (t.markers other) := by
  rw [hhistories, hcurrents, hmarkers]
  by_cases hother : other = componentId
  · subst hother
    simpa only [update_self] using hnew
  · simpa only [update_of_ne hother] using hs.components other

/-- The attributes that no end changes. -/
def DeploymentRow.SameDeployment (new old : DeploymentRow) : Prop :=
  new.tenantId = old.tenantId ∧ new.deploymentId = old.deploymentId ∧
    new.componentId = old.componentId ∧ new.startedAt = old.startedAt ∧
    new.createdAt = old.createdAt

/-- Histories do not become empty, and mirrors stay. -/
structure Later (s t : Store) : Prop where
  histories : ∀ componentId, s.histories componentId ≠ [] → t.histories componentId ≠ []
  mirrors : ∀ key row, s.mirrors key = some row →
    ∃ new, t.mirrors key = some new ∧ new.SameDeployment row

theorem DeploymentRow.SameDeployment.refl (row : DeploymentRow) : row.SameDeployment row :=
  ⟨rfl, rfl, rfl, rfl, rfl⟩

theorem DeploymentRow.SameDeployment.trans {a b c : DeploymentRow} (hab : a.SameDeployment b)
    (hbc : b.SameDeployment c) : a.SameDeployment c :=
  ⟨hab.1.trans hbc.1, hab.2.1.trans hbc.2.1, hab.2.2.1.trans hbc.2.2.1,
    hab.2.2.2.1.trans hbc.2.2.2.1, hab.2.2.2.2.trans hbc.2.2.2.2⟩

theorem Later.refl (s : Store) : Later s s where
  histories _ h := h
  mirrors _ row hrow := ⟨row, hrow, .refl row⟩

theorem Later.trans {u : Store} (hst : Later s t) (htu : Later t u) : Later s u where
  histories componentId h := htu.histories componentId (hst.histories componentId h)
  mirrors key row hrow := by
    obtain ⟨mid, hmid, hsame⟩ := hst.mirrors key row hrow
    obtain ⟨new, hnew, hsame'⟩ := htu.mirrors key mid hmid
    exact ⟨new, hnew, hsame'.trans hsame⟩

/-- What the sender knows about the rows it has read. -/
def Transaction.Justified (s : Store) : Transaction → Prop
  | .start request =>
    request.deployment.Valid ∧ request.deployment.status = .active ∧
      (request.previousEndedAt ≠ none → s.histories request.deployment.componentId ≠ [])
  | .finish request =>
    request.current.startedAt < request.endedAt ∧
      request.current.createdAt ≤ request.updatedAt ∧
      ∃ row, s.mirrors (request.current.tenantId, request.current.deploymentId) = some row ∧
        row.SameDeployment request.current

namespace StartRequest

variable {request : StartRequest}

/-- What a committed start found and wrote. -/
theorem write_cases (h : (Transaction.start request).write s = some t) :
    s.mirrors (request.deployment.tenantId, request.deployment.deploymentId) = none ∧
      s.currents request.deployment.componentId = none ∧
      request.markerUpdate.condition s = true ∧
      t.mirrors = update s.mirrors
        (request.deployment.tenantId, request.deployment.deploymentId) (some request.deployment) ∧
      t.histories = update s.histories request.deployment.componentId
        (request.deployment :: s.histories request.deployment.componentId) ∧
      t.currents = update s.currents request.deployment.componentId
        (some request.deployment) ∧
      t.markers = (request.markerUpdate.effect s).markers := by
  obtain ⟨hconds, rfl⟩ := transactWrite_eq_some_iff.mp h
  have hmirror := hconds request.mirrorPut (by simp [Transaction.items, items])
  have hcur := hconds request.currentPut (by simp [Transaction.items, items])
  have hmarker := hconds request.markerUpdate (by simp [Transaction.items, items])
  refine ⟨by simpa [mirrorPut] using hmirror, by simpa [currentPut] using hcur, hmarker, ?_⟩
  cases hobs : request.marker with
  | none | some observed =>
    simp [Transaction.items, items, mirrorPut, historyPut, currentPut, markerUpdate, receiptPut,
      activeCheck, Store.putMirror, Store.putHistory, Store.putCurrent, Store.putMarker,
      Store.putReceipt, hobs]

/-- Every earlier interval has ended by a committed start. -/
theorem after_history (hs : HistoryInvariant s)
    (hcur : s.currents request.deployment.componentId = none)
    (hmarker : request.markerUpdate.condition s = true) :
    ∀ older ∈ s.histories request.deployment.componentId,
      ∃ endedAt, older.endedAt = some endedAt ∧ endedAt ≤ request.deployment.startedAt := by
  intro older holder
  have hcomp := hs.components request.deployment.componentId
  obtain ⟨endedAt, hended⟩ := (hcur ▸ hcomp).all_ended holder
  refine ⟨endedAt, hended, ?_⟩
  simp only [markerUpdate] at hmarker
  split at hmarker
  next =>
    have hempty := hcomp.unmarked (Option.isNone_iff_eq_none.mp hmarker)
    rw [hempty] at holder
    cases holder
  next observed _ =>
    obtain ⟨marker, hstored, hallowed⟩ := (Option.any_eq_true _ _).mp hmarker
    simp only [Bool.and_eq_true, decide_eq_true_eq] at hallowed
    obtain ⟨last, hlast, hle⟩ := hcomp.chronological.stop_le_newestStop holder hended
    have hmarked := (hcomp.marked marker hstored).lastEndedAt
    rw [hlast] at hmarked
    have hbound := hallowed.2
    rw [hmarked] at hbound
    exact le_trans hle (by simpa using hbound)

/-- The marker that a committed start leaves. -/
theorem marks_after (hs : HistoryInvariant s) (hjust : (Transaction.start request).Justified s)
    (hmarker : request.markerUpdate.condition s = true)
    (hmarkers : t.markers = (request.markerUpdate.effect s).markers) :
    ∃ marker, t.markers = update s.markers request.deployment.componentId (some marker) ∧
      marker.Marks (request.deployment :: s.histories request.deployment.componentId) := by
  obtain ⟨hvalid, hstat, hprev⟩ := hjust
  have hopen : request.deployment.endedAt = none := hvalid.endedAt_eq_none hstat
  have hnewest : newestStop DeploymentRow.endedAt
      (request.deployment :: s.histories request.deployment.componentId) =
        newestStop DeploymentRow.endedAt (s.histories request.deployment.componentId) := by
    simp [newestStop, hopen]
  rcases hobs : request.marker with _ | observed
  · simp only [markerUpdate, hobs] at hmarker hmarkers
    have hempty := (hs.components _).unmarked (Option.isNone_iff_eq_none.mp hmarker)
    refine ⟨_, hmarkers, by simp, ?_, ?_⟩
    · simp [hempty]
    · have hnone : request.previousEndedAt = none := by
        by_contra hsome
        exact hprev hsome hempty
      rw [hnewest, hempty, hnone]
      rfl
  · simp only [markerUpdate, hobs] at hmarker hmarkers
    obtain ⟨marker, hstored, hallowed⟩ := (Option.any_eq_true _ _).mp hmarker
    simp only [Bool.and_eq_true, decide_eq_true_eq] at hallowed
    have hmarks := (hs.components _).marked marker hstored
    refine ⟨_, hmarkers, by simp, ?_, ?_⟩
    · intro row hrow
      rcases List.mem_cons.mp hrow with rfl | hrow
      · rfl
      · rw [hmarks.tenant row hrow, hallowed.1.2]
    · rw [hnewest, hstored]
      exact hmarks.lastEndedAt

/-- A start keeps the histories. -/
theorem write_invariant (hs : HistoryInvariant s) (hjust : (Transaction.start request).Justified s)
    (h : (Transaction.start request).write s = some t) : HistoryInvariant t := by
  obtain ⟨hfresh, hcur, hmarker, hmirrors, hhistories, hcurrents, hmarkers⟩ := write_cases h
  obtain ⟨marker, hmarkers, hmarks⟩ := marks_after hs hjust hmarker hmarkers
  obtain ⟨hvalid, hstat, -⟩ := hjust
  have hcomp := hs.components request.deployment.componentId
  rw [hcur] at hcomp
  have hnew := hcomp.start rfl hvalid (hvalid.endedAt_eq_none hstat)
    (after_history hs hcur hmarker) hmarks
  refine ⟨components_update hs hhistories hcurrents hmarkers hnew, ?_, ?_⟩
  · intro componentId row hrow
    have hcases : row = request.deployment ∨ row ∈ s.histories componentId := by
      rw [hhistories] at hrow
      by_cases hsame : componentId = request.deployment.componentId
      · subst hsame
        rw [update_self] at hrow
        exact List.mem_cons.mp hrow
      · rw [update_of_ne hsame] at hrow
        exact .inr hrow
    rw [hmirrors]
    rcases hcases with rfl | hold
    · rw [update_self]
    · have hmirror := hs.mirrored componentId row hold
      rw [update_of_ne]
      · exact hmirror
      · intro hsame
        rw [hsame, hfresh] at hmirror
        cases hmirror
  · intro key row hrow
    rw [hhistories]
    obtain ⟨rfl, rfl⟩ | ⟨hkey, hrow⟩ := eq_some_of_update hmirrors hrow
    · refine ⟨rfl, ?_⟩
      rw [update_self]
      exact List.mem_cons_self
    · obtain ⟨hkeyed, hmem⟩ := hs.mirrors key row hrow
      refine ⟨hkeyed, ?_⟩
      by_cases hsame : row.componentId = request.deployment.componentId
      · rw [hsame] at hmem ⊢
        rw [update_self]
        exact List.mem_cons_of_mem _ hmem
      · rwa [update_of_ne hsame]

/-- A start removes nothing. -/
theorem write_later (h : (Transaction.start request).write s = some t) : Later s t := by
  obtain ⟨hfresh, -, -, hmirrors, hhistories, -, -⟩ := write_cases h
  refine ⟨?_, ?_⟩
  · intro componentId hnonempty
    rw [hhistories]
    by_cases hsame : componentId = request.deployment.componentId
    · subst hsame
      simp
    · rwa [update_of_ne hsame]
  · intro key row hrow
    exact ⟨row, update_eq_some_of_fresh hmirrors hfresh hrow, .refl row⟩

end StartRequest

/-- A mirror key has one history row. -/
theorem HistoryInvariant.key_ne (hs : HistoryInvariant s) {componentId componentId' : String}
    {other : DeploymentRow} (hrow : row ∈ s.histories componentId)
    (hother : other ∈ s.histories componentId') (hne : other ≠ row) :
    (other.tenantId, other.deploymentId) ≠ (row.tenantId, row.deploymentId) := by
  intro hkey
  have hmirror := hs.mirrored _ other hother
  rw [hkey, hs.mirrored _ row hrow] at hmirror
  exact hne (Option.some.inj hmirror).symm

section Replace

variable {componentId : String} {new : DeploymentRow} {older : List DeploymentRow}

/-- The open newest row is none of the older ones. -/
theorem HistoryInvariant.ne_newest (hs : HistoryInvariant s)
    (hrows : s.histories componentId = row :: older) (hopen : row.endedAt = none)
    {other : DeploymentRow} (hother : other ∈ older) : other ≠ row := by
  rintro rfl
  have hcomp := hs.components componentId
  rw [hrows] at hcomp
  obtain ⟨endedAt, hended, -⟩ :=
    (List.pairwise_cons.mp hcomp.chronological.ordered).1 other hother
  rw [hopen] at hended
  cases hended

/-- Every history row still has its mirror. -/
theorem HistoryInvariant.mirrored_replace (hs : HistoryInvariant s)
    (hrows : s.histories componentId = row :: older) (hopen : row.endedAt = none)
    (hhistories : t.histories = update s.histories componentId (new :: older))
    (hmirrors : t.mirrors = update s.mirrors (row.tenantId, row.deploymentId) (some new))
    (htenant : new.tenantId = row.tenantId) (hid : new.deploymentId = row.deploymentId) :
    ∀ componentId, ∀ other ∈ t.histories componentId,
      t.mirrors (other.tenantId, other.deploymentId) = some other := by
  have hmem : row ∈ s.histories componentId := hrows ▸ List.mem_cons_self
  intro otherId other hother
  rw [hhistories] at hother
  rw [hmirrors]
  by_cases hcase : otherId = componentId
  · subst hcase
    rw [update_self] at hother
    rcases List.mem_cons.mp hother with rfl | hother
    · rw [htenant, hid, update_self]
    · have hold : other ∈ s.histories otherId := hrows ▸ List.mem_cons_of_mem _ hother
      rw [update_of_ne (hs.key_ne hmem hold (hs.ne_newest hrows hopen hother))]
      exact hs.mirrored _ other hold
  · rw [update_of_ne hcase] at hother
    have hne : other ≠ row := by
      rintro rfl
      have hfirst := ((hs.components otherId).valid other hother).1
      exact hcase (hfirst.symm.trans ((hs.components componentId).valid other hmem).1)
    rw [update_of_ne (hs.key_ne hmem hother hne)]
    exact hs.mirrored _ other hother

/-- Every mirror is still a history row. -/
theorem HistoryInvariant.mirrors_replace (hs : HistoryInvariant s)
    (hrows : s.histories componentId = row :: older)
    (hhistories : t.histories = update s.histories componentId (new :: older))
    (hmirrors : t.mirrors = update s.mirrors (row.tenantId, row.deploymentId) (some new))
    (htenant : new.tenantId = row.tenantId) (hid : new.deploymentId = row.deploymentId)
    (hcomponent : new.componentId = row.componentId) :
    ∀ key other, t.mirrors key = some other →
      key = (other.tenantId, other.deploymentId) ∧ other ∈ t.histories other.componentId := by
  have hmem : row ∈ s.histories componentId := hrows ▸ List.mem_cons_self
  intro key other hother
  rw [hhistories]
  obtain ⟨rfl, rfl⟩ | ⟨hkey, hother⟩ := eq_some_of_update hmirrors hother
  · refine ⟨by rw [htenant, hid], ?_⟩
    rw [hcomponent, ((hs.components componentId).valid row hmem).1, update_self]
    exact List.mem_cons_self
  · obtain ⟨hkeyed, hold⟩ := hs.mirrors key other hother
    refine ⟨hkeyed, ?_⟩
    by_cases hcase : other.componentId = componentId
    · rw [hcase, hrows] at hold
      rw [hcase, update_self]
      rcases List.mem_cons.mp hold with rfl | hold
      · exact absurd hkeyed hkey
      · exact List.mem_cons_of_mem _ hold
    · rwa [update_of_ne hcase]

end Replace

namespace EndRequest

/-- What a committed end found and wrote. -/
theorem write_cases (h : (Transaction.finish request).write s = some t) :
    ∃ row, s.historyRow request.current.componentId request.current.historyKey = some row ∧
      request.endsRow row = true ∧ request.markerAdvance.condition s = true ∧
      t.mirrors = update s.mirrors
        (request.current.tenantId, request.current.deploymentId)
        ((s.mirrors (request.current.tenantId, request.current.deploymentId)).map request.change) ∧
      t.histories = update s.histories request.current.componentId
        ((s.histories request.current.componentId).map fun row =>
          if row.historyKey = request.current.historyKey then request.change row else row) ∧
      t.currents = update s.currents request.current.componentId none ∧
      t.markers = update s.markers request.current.componentId
        (some ⟨request.current.tenantId, request.observedSeq.getD 0 + 1, some request.endedAt⟩) := by
  obtain ⟨hconds, rfl⟩ := transactWrite_eq_some_iff.mp h
  have hhistory := hconds request.historyUpdate (by simp [Transaction.items, items])
  have hmarker := hconds request.markerAdvance (by simp [Transaction.items, items])
  obtain ⟨row, hrow, hends⟩ := (Option.any_eq_true _ _).mp hhistory
  refine ⟨row, hrow, hends, hmarker, ?_⟩
  simp [Transaction.items, items, mirrorUpdate, historyUpdate, currentDelete, markerAdvance,
    Store.modifyMirror, Store.modifyHistory, Store.putCurrent, Store.putMarker]

/-- The ended row is the newest one, with its own key. -/
theorem newest (hs : HistoryInvariant s)
    (hrow : s.historyRow request.current.componentId request.current.historyKey = some row)
    (hends : request.endsRow row = true) :
    ∃ older, s.histories request.current.componentId = row :: older ∧
      row.tenantId = request.current.tenantId ∧ row.deploymentId = request.current.deploymentId ∧
      row.startedAt = request.current.startedAt ∧
      (s.histories request.current.componentId).map (fun other =>
        if other.historyKey = request.current.historyKey then request.change other else other) =
          request.change row :: older := by
  have hcomp := hs.components request.current.componentId
  have hmem : row ∈ s.histories request.current.componentId := List.mem_of_find?_eq_some hrow
  have hkey : row.historyKey = request.current.historyKey := by
    simpa using List.find?_some hrow
  have hstarted : row.startedAt = request.current.startedAt :=
    congrArg (fun key => (ofLex key).1) hkey
  simp only [endsRow, Bool.and_eq_true, decide_eq_true_eq] at hends
  obtain ⟨⟨⟨-, hstat⟩, htenant⟩, hid⟩ := hends
  have hopen : row.endedAt = none := (hcomp.valid row hmem).2.endedAt_eq_none hstat
  have hhead := hcomp.chronological.head_of_open hmem hopen
  obtain ⟨older, hrows⟩ := List.head?_eq_some_iff.mp hhead
  refine ⟨older, hrows, htenant, hid, hstarted, ?_⟩
  have hother : ∀ other ∈ older, other.historyKey ≠ request.current.historyKey := by
    intro other holder hsame
    have hstart : other.startedAt = row.startedAt := by
      rw [hstarted]
      exact congrArg (fun key => (ofLex key).1) hsame
    rw [hrows] at hcomp
    have heq := hcomp.chronological.eq_of_start_eq (List.mem_cons_of_mem _ holder)
      List.mem_cons_self hstart
    -- An older row has ended, the newest one has not.
    obtain ⟨endedAt, hended, -⟩ :=
      (List.pairwise_cons.mp hcomp.chronological.ordered).1 other holder
    rw [heq, hopen] at hended
    cases hended
  rw [hrows, List.map_cons, if_pos hkey]
  congr 1
  exact (List.map_congr_left fun other holder => if_neg (hother other holder)).trans (List.map_id _)

/-- The row that an end writes. -/
theorem change_valid (hstart : row.startedAt < request.endedAt)
    (hcreated : row.createdAt ≤ request.updatedAt) : (request.change row).Valid := by
  refine ⟨Nat.le_add_left 1 _, hcreated, ?_, by simp [change]⟩
  rintro endedAt ⟨⟩
  exact hstart

/-- The marker that a committed end leaves. -/
theorem marks_after {older : List DeploymentRow} {current : Option DeploymentRow}
    {marker : Option Marker}
    (h : ComponentHistory request.current.componentId (row :: older) current marker)
    (htenant : row.tenantId = request.current.tenantId) :
    Marker.Marks ⟨request.current.tenantId, request.observedSeq.getD 0 + 1, some request.endedAt⟩
      (request.change row :: older) := by
  refine ⟨by simp, ?_, rfl⟩
  rcases marker with _ | marker
  · cases h.unmarked rfl
  · have hmarked := h.marked marker rfl
    have hmarkerTenant : marker.tenantId = request.current.tenantId := by
      rw [← hmarked.tenant row List.mem_cons_self, htenant]
    intro other hother
    rcases List.mem_cons.mp hother with rfl | hother
    · exact htenant
    · rw [hmarked.tenant other (List.mem_cons_of_mem _ hother), hmarkerTenant]

/-- An end keeps the histories. -/
theorem write_invariant (hs : HistoryInvariant s) (hjust : (Transaction.finish request).Justified s)
    (h : (Transaction.finish request).write s = some t) : HistoryInvariant t := by
  obtain ⟨row, hrow, hends, hmarker, hmirrors, hhistories, hcurrents, hmarkers⟩ := write_cases h
  obtain ⟨older, hrows, htenant, hid, hstart, hmap⟩ := newest hs hrow hends
  rw [hmap] at hhistories
  obtain ⟨hafter, hcreated, mirror, hmirror, hsame⟩ := hjust
  have hcomp := hs.components request.current.componentId
  rw [hrows] at hcomp
  -- The mirror row is the history row that ends.
  have hstored := hs.mirrored request.current.componentId row (hrows ▸ List.mem_cons_self)
  rw [← htenant, ← hid] at hmirror hmirrors
  rw [hstored] at hmirror
  cases hmirror
  rw [hstored, Option.map_some] at hmirrors
  have hvalid : (request.change row).Valid :=
    change_valid (hstart ▸ hafter) (hsame.2.2.2.2 ▸ hcreated)
  have hnew := hcomp.finish (request.change row)
    (hcomp.valid row List.mem_cons_self).1 hvalid rfl rfl (marks_after hcomp htenant)
  have hopen : row.endedAt = none := by
    simp only [endsRow, Bool.and_eq_true, decide_eq_true_eq] at hends
    exact (hcomp.valid row List.mem_cons_self).2.endedAt_eq_none hends.1.1.2
  exact {
    components := components_update hs hhistories hcurrents hmarkers hnew
    mirrored := hs.mirrored_replace hrows hopen hhistories hmirrors rfl rfl
    mirrors := hs.mirrors_replace hrows hhistories hmirrors rfl rfl rfl }

/-- An end removes nothing. -/
theorem write_later (h : (Transaction.finish request).write s = some t) : Later s t := by
  obtain ⟨row, -, -, -, hmirrors, hhistories, -, -⟩ := write_cases h
  refine ⟨?_, ?_⟩
  · intro componentId hnonempty
    rw [hhistories]
    by_cases hsame : componentId = request.current.componentId
    · subst hsame
      simpa using hnonempty
    · rwa [update_of_ne hsame]
  · intro key stored hstored
    rw [hmirrors]
    by_cases hkey : key = (request.current.tenantId, request.current.deploymentId)
    · subst hkey
      rw [update_self, hstored]
      exact ⟨request.change stored, rfl, rfl, rfl, rfl, rfl, rfl⟩
    · exact ⟨stored, by rw [update_of_ne hkey, hstored], .refl stored⟩

end EndRequest

/-- Only transactions need a justification. -/
def Op.Justified (op : Op) (s : Store) : Prop :=
  ∀ transaction, op = .transact transaction → transaction.Justified s

/-- Justified operations keep the histories. -/
theorem exec_invariant {op : Op} {fault : Fault} {reply : Reply op} (hs : HistoryInvariant s)
    (hjust : op.Justified s) (h : exec op fault s = some (reply, t)) :
    HistoryInvariant t ∧ Later s t := by
  rcases exec_cases h with ⟨parents, rfl, -⟩ | ⟨transaction, rfl, -, hwrite⟩
  · exact ⟨⟨hs.components, hs.mirrored, hs.mirrors⟩, ⟨(Later.refl s).histories, (Later.refl s).mirrors⟩⟩
  · have htransaction := hjust transaction rfl
    cases transaction with
    | start =>
      exact ⟨StartRequest.write_invariant hs htransaction hwrite, StartRequest.write_later hwrite⟩
    | finish =>
      exact ⟨EndRequest.write_invariant hs htransaction hwrite, EndRequest.write_later hwrite⟩

end LimnoPulse.Deployments
