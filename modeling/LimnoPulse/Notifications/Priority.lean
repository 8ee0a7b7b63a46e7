import LimnoPulse.Notifications.Rows

/-!
# The order of candidates

Each round of `prioritizeCandidates` takes four deliveries, one intent and one dependency, in an
order that rotates with the minute, and skips the kinds that have run out.

Main results:

- Theorem `takeRound_spec`: what one round takes.
- Theorem `prioritizeCandidates_fair`: no kind is starved by another.
-/

namespace LimnoPulse.Notifications

/-- `rotateDiscoveryKinds`; `%` has the sign of the slot. -/
def rotateDiscoveryKinds (kinds : List WorkKind) (slot : Int) : List WorkKind :=
  let offset := slot.tmod kinds.length
  let offset := (if offset < 0 then offset + kinds.length else offset).toNat
  kinds.drop offset ++ kinds.take offset

/-- The first candidate of each kind of the pattern. -/
def takeRound : List WorkKind → (WorkKind → List Candidate) →
    List Candidate × (WorkKind → List Candidate)
  | [], queues => ([], queues)
  | kind :: pattern, queues =>
    match queues kind with
    | [] => takeRound pattern queues
    | candidate :: rest =>
      let round := takeRound pattern (Function.update queues kind rest)
      (candidate :: round.1, round.2)

/-- Rounds until all are ordered or nothing is left. -/
def takeRounds (pattern : List WorkKind) (total : Nat) (queues : WorkKind → List Candidate)
    (ordered : List Candidate) : List Candidate :=
  if ordered.length < total then
    match takeRound pattern queues with
    | ([], _) => ordered
    | (candidate :: taken, queues) =>
      takeRounds pattern total queues (ordered ++ candidate :: taken)
  else ordered
termination_by total - ordered.length
decreasing_by
  rw [List.length_append, List.length_cons]
  omega

/-- Four deliveries, an intent and a dependency. -/
def candidatePattern : List WorkKind :=
  [.delivery, .delivery, .intent, .delivery, .delivery, .dependency]

/-- The candidates of a kind. -/
def ofKind (kind : WorkKind) (candidates : List Candidate) : List Candidate :=
  candidates.filter (·.kind = kind)

/-- `prioritizeCandidates`, at a Unix time in seconds. -/
def prioritizeCandidates (candidates : List Candidate) (relayTime : Int) : List Candidate :=
  let offset := (relayTime.tdiv 60).tmod candidatePattern.length
  let offset := if offset < 0 then offset + candidatePattern.length else offset
  takeRounds (rotateDiscoveryKinds candidatePattern offset) candidates.length
    (ofKind · candidates) []

/-- A rotation has the same kinds. -/
theorem rotateDiscoveryKinds_perm (kinds : List WorkKind) (slot : Int) :
    (rotateDiscoveryKinds kinds slot).Perm kinds := by
  refine List.perm_append_comm.trans ?_
  rw [List.take_append_drop]

/-- Each kind is taken from the front, by its places in the pattern. -/
theorem takeRound_spec (kind : WorkKind) : ∀ (pattern : List WorkKind)
    (queues : WorkKind → List Candidate),
    (∀ other, ∀ candidate ∈ queues other, candidate.kind = other) →
    ofKind kind (takeRound pattern queues).1 ++ (takeRound pattern queues).2 kind = queues kind ∧
      (takeRound pattern queues).1.length ≤ pattern.length ∧
      ((takeRound pattern queues).2 kind ≠ [] →
        (ofKind kind (takeRound pattern queues).1).length = pattern.count kind)
  | [], queues, _ => by simp [takeRound, ofKind]
  | head :: pattern, queues, hkinds => by
    unfold takeRound
    split
    · next hempty =>
      obtain ⟨hsplit, hlength, hall⟩ := takeRound_spec kind pattern queues hkinds
      refine ⟨hsplit, Nat.le_succ_of_le hlength, fun hleft => ?_⟩
      -- A kind that is left was not skipped.
      have hne : head ≠ kind := by
        rintro rfl
        rw [hempty, List.append_eq_nil_iff] at hsplit
        exact hleft hsplit.2
      rw [hall hleft, List.count_cons_of_ne hne]
    · next candidate rest hqueue =>
      have hkind : candidate.kind = head := hkinds head candidate (by simp [hqueue])
      have hround := takeRound_spec kind pattern (Function.update queues head rest)
        ((Function.forall_update_iff queues
          (p := fun other queue => ∀ c ∈ queue, c.kind = other)).mpr
          ⟨fun c hc => hkinds head c (by simp [hqueue, hc]), fun other _ => hkinds other⟩)
      generalize takeRound pattern (Function.update queues head rest) = round at hround ⊢
      rcases eq_or_ne kind head with rfl | hhead
      · rw [Function.update_self] at hround
        simpa [ofKind, hkind, hqueue] using hround
      · rw [Function.update_of_ne hhead] at hround
        obtain ⟨hsplit, hlength, hall⟩ := hround
        simp [ofKind, hkind, hhead.symm] at hsplit hall ⊢
        exact ⟨hsplit, hlength, hall⟩

/-- The last possible round of the `i`-th candidate. -/
def latestRound (kind : WorkKind) (i : Nat) : Nat :=
  if kind = .delivery then (i + 3) / 4 else i

/-- Whose turn is later. -/
theorem lt_latestRound {kind : WorkKind} {n i : Nat} (h : n * candidatePattern.count kind < i) :
    n < latestRound kind i := by
  cases kind <;> simp [latestRound, candidatePattern] at h ⊢ <;> omega

/-- The state of the loop after `n` rounds. -/
structure AfterRounds (candidates : List Candidate) (n : Nat) (queues : WorkKind → List Candidate)
    (ordered : List Candidate) : Prop where
  split : ∀ kind, ofKind kind ordered ++ queues kind = ofKind kind candidates
  length_le : ordered.length ≤ 6 * n
  -- A kind that has not run out has had all its places.
  taken : ∀ kind, queues kind ≠ [] →
    (ofKind kind ordered).length = n * candidatePattern.count kind
  placed : ∀ before candidate after, ordered = before ++ candidate :: after →
    before.length + 1 ≤ 6 * latestRound candidate.kind ((ofKind candidate.kind before).length + 1)

section Rounds

variable {candidates ordered pattern : List _} {n : Nat} {queues : WorkKind → List Candidate}

/-- One more round. -/
theorem AfterRounds.step (h : AfterRounds candidates n queues ordered)
    (hpattern : pattern.Perm candidatePattern) :
    AfterRounds candidates (n + 1) (takeRound pattern queues).2
      (ordered ++ (takeRound pattern queues).1) := by
  have hkinds : ∀ kind, ∀ candidate ∈ queues kind, candidate.kind = kind := by
    intro kind candidate hmem
    have hmem' : candidate ∈ ofKind kind candidates := h.split kind ▸ List.mem_append_right _ hmem
    simpa using (List.mem_filter.mp hmem').2
  have hround := fun kind => takeRound_spec kind pattern queues hkinds
  generalize takeRound pattern queues = round at hround ⊢
  have hofKind : ∀ kind l, ofKind kind (ordered ++ l) = ofKind kind ordered ++ ofKind kind l :=
    fun _ _ => List.filter_append ..
  have hlength : round.1.length ≤ 6 := le_trans (hround .intent).2.1 (le_of_eq hpattern.length_eq)
  have hbound := h.length_le
  refine ⟨fun kind => ?_, ?_, fun kind hleft => ?_, fun before candidate after hplace => ?_⟩
  · rw [hofKind, List.append_assoc, (hround kind).1, h.split]
  · rw [List.length_append]
    omega
  · have hbefore : queues kind ≠ [] := by
      rw [← (hround kind).1]
      exact List.append_ne_nil_of_right_ne_nil _ hleft
    rw [hofKind, List.length_append, h.taken kind hbefore, (hround kind).2.2 hleft,
      hpattern.count_eq, Nat.succ_mul]
  · have hnew : ∀ new, round.1 = new ++ candidate :: after → (ordered ++ new).length + 1 ≤
        6 * latestRound candidate.kind ((ofKind candidate.kind (ordered ++ new)).length + 1) := by
      intro new hout
      -- The candidate waited in its queue, and so its kind had all places of the rounds before.
      have hwaited : queues candidate.kind ≠ [] := by
        rw [← (hround candidate.kind).1, hout]
        simp [ofKind]
      have hlatest : n <
          latestRound candidate.kind ((ofKind candidate.kind (ordered ++ new)).length + 1) := by
        refine lt_latestRound ?_
        rw [hofKind, List.length_append, h.taken _ hwaited]
        omega
      rw [hout, List.length_append, List.length_cons] at hlength
      rw [List.length_append]
      omega
    rcases List.append_eq_append_iff.mp hplace with ⟨new, rfl, hout⟩ | ⟨rest, hrest, hout⟩
    · exact hnew new hout
    · cases rest with
      | nil => simpa [hrest] using hnew [] hout.symm
      | cons =>
        obtain ⟨rfl, -⟩ := List.cons_eq_cons.mp hout
        exact h.placed before candidate _ hrest

/-- Each candidate is of one of three kinds. -/
theorem length_eq_ofKind (candidates : List Candidate) : candidates.length =
    (ofKind .delivery candidates).length + (ofKind .intent candidates).length +
      (ofKind .dependency candidates).length := by
  induction candidates with
  | nil => rfl
  | cons candidate _ ih =>
    cases hkind : candidate.kind <;> simp [ofKind, hkind] at ih ⊢ <;> omega

/-- The loop ends when all queues are empty. -/
theorem takeRounds_spec (hpattern : pattern.Perm candidatePattern)
    (h : AfterRounds candidates n queues ordered) :
    ∃ n, AfterRounds candidates n (fun _ => [])
      (takeRounds pattern candidates.length queues ordered) := by
  fun_induction takeRounds pattern candidates.length queues ordered generalizing n with
  | case1 queues ordered _ left hround =>
    have hnext := h.step hpattern
    rw [hround, List.append_nil] at hnext
    have hempty : queues = fun _ => [] := by
      funext kind
      by_contra hleft
      have hsame := List.append_cancel_left ((hnext.split kind).trans (h.split kind).symm)
      have hmore := hnext.taken kind (hsame ▸ hleft)
      rw [h.taken kind hleft, Nat.succ_mul] at hmore
      have hplaces : 0 < candidatePattern.count kind := by cases kind <;> decide
      omega
    exact ⟨n, hempty ▸ h⟩
  | case2 queues ordered _ candidate taken left hround ih =>
    have hnext := h.step hpattern
    rw [hround] at hnext
    exact ih hnext
  | case3 queues ordered hdone =>
    have hempty : queues = fun _ => [] := by
      have hlengths := fun kind => congrArg List.length (h.split kind)
      simp only [List.length_append] at hlengths
      rw [length_eq_ofKind ordered, length_eq_ofKind candidates] at hdone
      funext kind
      have hdelivery := hlengths .delivery
      have hintent := hlengths .intent
      have hdependency := hlengths .dependency
      refine List.length_eq_zero_iff.mp ?_
      cases kind <;> omega
    exact ⟨n, hempty ▸ h⟩

end Rounds

/-- No kind is starved by another, whatever the rotation: all candidates are ordered, those of
one kind as they were, and within six places for each intent, each dependency and each four
deliveries. -/
theorem prioritizeCandidates_fair (candidates : List Candidate) (relayTime : Int) :
    (prioritizeCandidates candidates relayTime).Perm candidates ∧
      (∀ kind, (prioritizeCandidates candidates relayTime).filter (·.kind = kind) =
        candidates.filter (·.kind = kind)) ∧
      ∀ before candidate after,
        prioritizeCandidates candidates relayTime = before ++ candidate :: after →
        let i := (before.filter (·.kind = candidate.kind)).length + 1
        before.length + 1 ≤ 6 * if candidate.kind = .delivery then (i + 3) / 4 else i := by
  have hinitial : AfterRounds candidates 0 (ofKind · candidates) [] :=
    ⟨fun _ => rfl, le_rfl, by simp [ofKind], by simp⟩
  obtain ⟨n, h⟩ := takeRounds_spec (rotateDiscoveryKinds_perm candidatePattern _) hinitial
  have hkept := fun kind => (List.append_nil _).symm.trans (h.split kind)
  refine ⟨List.perm_iff_count.mpr fun candidate => ?_, hkept, h.placed⟩
  have hcount : ∀ l : List Candidate,
      (ofKind candidate.kind l).count candidate = l.count candidate :=
    fun _ => List.count_filter (by simp)
  exact (hcount _).symm.trans ((congrArg _ (hkept candidate.kind)).trans (hcount _))

end LimnoPulse.Notifications
