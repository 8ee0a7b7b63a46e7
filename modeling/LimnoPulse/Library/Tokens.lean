import LimnoPulse.Library.Program
import Mathlib.Data.List.Nodup

/-!
# Tokens

A reply may grant a token, which allows the process that received it to perform one
operation later.  If every program spends only what it holds, then in every run no
token is spent twice, and none is spent that was never granted.

Main results:

- Theorem `Tokens.Linear.bind`: programs that spend what they hold compose.
- Theorem `Tokens.fair_run`: in every run tokens are spent once at most.
-/

namespace StoreProgram

open Function (update update_of_ne update_self)

variable {σ χ Call ρ Op κ : Type} {Reply : Op → Type} {α β ε : Type} {hold : Nat → Option κ}
  {w : World σ Call ρ Op Reply} {c : Call} {op : Op}

/-- Which replies grant a token, which operations spend one, and what the store knows of both. -/
structure Tokens (M : Machine σ χ Call ρ Op Reply) (κ : Type) where
  grants : (op : Op) → Reply op → Option κ
  spends : Op → Option κ
  issued : σ → κ → Prop
  spent : σ → List κ
  issued_exec : ∀ {op choice s reply t k}, M.exec op choice s = some (reply, t) → issued s k →
    issued t k
  grants_exec : ∀ {op choice s reply t k}, M.exec op choice s = some (reply, t) →
    grants op reply = some k → ¬ issued s k ∧ issued t k
  spent_exec : ∀ {op choice s reply t}, M.exec op choice s = some (reply, t) →
    spent t = spent s ++ (spends op).toList

namespace Tokens

variable {M : Machine σ χ Call ρ Op Reply} (T : Tokens M κ)

/-- What a process holds after an operation. -/
def after (hold : Option κ) (op : Op) (reply : Reply op) : Option κ :=
  match T.grants op reply with
  | some k => some k
  | none => if (T.spends op).isSome then none else hold

/-- The program spends only what it holds. -/
def Linear (post : α → Option κ → Prop) : Program Op Reply α → Option κ → Prop
  | .done result, hold => post result hold
  | .call op next, hold => (∀ k, T.spends op = some k → hold = some k) ∧
      ∀ reply, Linear post (next reply) (T.after hold op reply)

variable {T}

/-- Programs that spend what they hold compose. -/
theorem Linear.bind {mid : α → Option κ → Prop} {post : β → Option κ → Prop}
    {f : α → Program Op Reply β} (hf : ∀ result hold, mid result hold → T.Linear post (f result) hold) :
    ∀ {p : Program Op Reply α} {hold : Option κ}, T.Linear mid p hold → T.Linear post (p >>= f) hold
  | .done result, hold, hp => hf result hold hp
  | .call _ _, _, hp => ⟨hp.1, fun reply => Linear.bind hf (hp.2 reply)⟩

/-- A program that spends nothing needs no token. -/
theorem Linear.of_performs {Q : α → Prop} :
    ∀ {p : Program Op Reply α} {hold : Option κ}, p.Performs (fun op => T.spends op = none) →
      p.Returns Q → T.Linear (fun result _ => Q result) p hold
  | .done _, _, _, hret => hret
  | .call _ _, _, hp, hret => ⟨fun _ hk => absurd (hp.1.symm.trans hk) (by simp),
      fun reply => Linear.of_performs (hp.2 reply) (hret reply)⟩

variable (T)

/-- A process holds at most a token of its own, granted and not spent, and no token was spent twice.
-/
structure Fair (hold : Nat → Option κ) (w : World σ Call ρ Op Reply) : Prop where
  linear : ∀ i p, w.processes[i]? = some p → T.Linear (fun _ _ => True) p.2 (hold i)
  absent : ∀ i, w.processes[i]? = none → hold i = none
  held : ∀ i k, hold i = some k → T.issued w.store k ∧ k ∉ T.spent w.store
  own : ∀ i j k, hold i = some k → hold j = some k → i = j
  nodup : (T.spent w.store).Nodup
  granted : ∀ k ∈ T.spent w.store, T.issued w.store k

variable {T}

/-- A new process holds nothing. -/
theorem Fair.start (h : T.Fair hold w) (hbody : T.Linear (fun _ _ => True) (M.body c) none) :
    T.Fair hold ⟨w.store, w.processes ++ [(c, M.body c)]⟩ where
  linear i p hp := by
    simp only [List.getElem?_append] at hp
    split at hp
    · exact h.linear i p hp
    next hlt =>
      rw [List.mem_singleton.mp (List.mem_of_getElem? hp)]
      rw [h.absent i (List.getElem?_eq_none_iff.mpr (Nat.le_of_not_lt hlt))]
      exact hbody
  absent i hi := by
    refine h.absent i (List.getElem?_eq_none_iff.mpr ?_)
    have hle := List.getElem?_eq_none_iff.mp hi
    rw [List.length_append] at hle
    omega
  held := h.held
  own := h.own
  nodup := h.nodup
  granted := h.granted

/-- What a token that is held after an operation was before. -/
theorem after_eq_some {hold : Option κ} {reply : Reply op} {k : κ}
    (h : T.after hold op reply = some k) :
    T.grants op reply = some k ∨ T.spends op = none ∧ hold = some k := by
  unfold after at h
  split at h
  next k' hgrants =>
    cases h
    exact .inl hgrants
  next =>
    split at h
    · cases h
    next hspends => exact .inr ⟨by simpa using hspends, h⟩

section Step

variable (h : T.Fair hold w) {i : Nat} (hspends : ∀ k, T.spends op = some k → hold i = some k)
  {choice : χ} {reply : Reply op} {s : σ} (hexec : M.exec op choice w.store = some (reply, s))
include h hspends hexec

/-- A token that another process holds stays issued and unspent. -/
theorem Fair.held_other {j : Nat} {k : κ} (hne : j ≠ i) (hk : hold j = some k) :
    T.issued s k ∧ k ∉ T.spent s := by
  obtain ⟨hissued, hfree⟩ := h.held j k hk
  refine ⟨T.issued_exec hexec hissued, ?_⟩
  rw [T.spent_exec hexec, List.mem_append, Option.mem_toList]
  rintro (hmem | hmem)
  · exact hfree hmem
  · exact hne (h.own j i k hk (hspends k hmem))

/-- The token that the process holds after the operation is not spent. -/
theorem Fair.held_self {k : κ} (hk : T.after (hold i) op reply = some k) :
    T.issued s k ∧ k ∉ T.spent s := by
  rcases after_eq_some hk with hgrants | ⟨hnone, hheld⟩
  · obtain ⟨hnew, hissued⟩ := T.grants_exec hexec hgrants
    refine ⟨hissued, ?_⟩
    rw [T.spent_exec hexec, List.mem_append, Option.mem_toList]
    rintro (hmem | hmem)
    · exact hnew (h.granted k hmem)
    · exact hnew (h.held i k (hspends k hmem)).1
  · obtain ⟨hissued, hfree⟩ := h.held i k hheld
    refine ⟨T.issued_exec hexec hissued, ?_⟩
    rw [T.spent_exec hexec, hnone]
    simpa using hfree

/-- No token is spent twice. -/
theorem Fair.nodup_spent : (T.spent s).Nodup := by
  rw [T.spent_exec hexec]
  cases hop : T.spends op with
  | none => simpa using h.nodup
  | some =>
    refine List.nodup_append.mpr ⟨h.nodup, by simp, ?_⟩
    rintro a ha b hb rfl
    rw [Option.toList_some, List.mem_singleton] at hb
    subst hb
    exact (h.held i _ (hspends _ hop)).2 ha

omit hspends

/-- A token of another process is not the one this process holds afterwards. -/
theorem Fair.after_ne {j : Nat} {k : κ} (hne : j ≠ i) (hk : hold j = some k) :
    T.after (hold i) op reply ≠ some k := by
  intro hk'
  rcases after_eq_some hk' with hgrants | ⟨-, hheld⟩
  · exact (T.grants_exec hexec hgrants).1 (h.held j k hk).1
  · exact hne (h.own j i k hk hheld)

/-- After the operation, no token has two holders. -/
theorem Fair.own_after {j j' : Nat} {k : κ}
    (hk : update hold i (T.after (hold i) op reply) j = some k)
    (hk' : update hold i (T.after (hold i) op reply) j' = some k) : j = j' := by
  by_cases hj : j = i <;> by_cases hj' : j' = i
  · rw [hj, hj']
  · rw [hj, update_self] at hk
    rw [update_of_ne hj'] at hk'
    exact absurd hk (h.after_ne hexec hj' hk')
  · rw [hj', update_self] at hk'
    rw [update_of_ne hj] at hk
    exact absurd hk' (h.after_ne hexec hj hk)
  · rw [update_of_ne hj] at hk
    rw [update_of_ne hj'] at hk'
    exact h.own j j' k hk hk'

/-- One operation of one process. -/
theorem Fair.step {next : Reply op → Program Op Reply ρ}
    (hproc : w.processes[i]? = some (c, .call op next)) :
    T.Fair (update hold i (T.after (hold i) op reply))
      ⟨s, w.processes.set i (c, next reply)⟩ := by
  obtain ⟨hspends, hnext⟩ := h.linear i _ hproc
  have hlt : i < w.processes.length := (List.getElem?_eq_some_iff.mp hproc).1
  refine ⟨?_, ?_, ?_, fun _ _ _ => h.own_after hexec, h.nodup_spent hspends hexec, ?_⟩
  · intro j p hp
    by_cases hj : j = i
    · subst hj
      rw [List.getElem?_set_self hlt] at hp
      cases hp
      rw [update_self]
      exact hnext reply
    · rw [List.getElem?_set_ne (Ne.symm hj)] at hp
      rw [update_of_ne hj]
      exact h.linear j p hp
  · intro j hj
    have hle := List.getElem?_eq_none_iff.mp hj
    rw [List.length_set] at hle
    rw [update_of_ne (by omega)]
    exact h.absent j (List.getElem?_eq_none_iff.mpr hle)
  · intro j k hk
    by_cases hj : j = i
    · subst hj
      rw [update_self] at hk
      exact h.held_self hspends hexec hk
    · rw [update_of_ne hj] at hk
      exact h.held_other hspends hexec hj hk
  · intro k hk
    rw [T.spent_exec hexec, List.mem_append, Option.mem_toList] at hk
    rcases hk with hmem | hmem
    · exact T.issued_exec hexec (h.granted k hmem)
    · exact T.issued_exec hexec (h.held i k (hspends k hmem)).1

end Step

/-- If every program spends only what it holds, so does every run. -/
theorem fair_run (hbody : ∀ c, T.Linear (fun _ _ => True) (M.body c) none) :
    ∀ {as : List (Action χ Call)} {w w' : World σ Call ρ Op Reply} {hold : Nat → Option κ},
      T.Fair hold w → M.run w as = some w' → ∃ hold', T.Fair hold' w' := by
  intro as
  induction as with
  | nil =>
    intro w w' hold h hrun
    cases hrun
    exact ⟨hold, h⟩
  | cons a as ih =>
    intro w w' hold h hrun
    obtain ⟨u, hu, htail⟩ := Option.bind_eq_some_iff.mp hrun
    rcases M.step_cases hu with
      ⟨c, rfl, -, rfl⟩ | ⟨i, choice, c, op, next, reply, s, rfl, hproc, hop, rfl⟩
    · exact ih (h.start (hbody c)) htail
    · exact ih (h.step hop hproc) htail

end Tokens

end StoreProgram
