import Mathlib.Data.List.Basic

/-!
# Programs over a shared store

A program alternates local computation with atomic operations on a store it shares
with every other program.  Between two operations any other process may run, and a
process that crashes is one that is never scheduled again.

Main results:

- Theorem `Machine.always_iff_guarded`: if every operation keeps an invariant
  exactly under a condition, so does a run.
- Theorem `SafeCall.call`: safety of programs whose operations are justified
  by what they read.
- Theorem `Contract.run_initial`: the rely/guarantee rule for whole runs.
-/

namespace StoreProgram

section

variable {ε α : Type} {c : Prop} {failure : ε} {x : Except ε α} {value : α} [Decidable c]

/-- A check passes, and then the rest succeeds. -/
theorem ite_error_eq_ok_iff : (if c then .error failure else x) = .ok value ↔ ¬c ∧ x = .ok value := by
  split <;> simp_all

theorem ite_eq_ok_iff : (if c then x else .error failure) = .ok value ↔ c ∧ x = .ok value := by
  split <;> simp_all

end

/-! ## Programs -/

/-- A finite tree of store operations; replies select the branches. -/
inductive Program (Op : Type) (Reply : Op → Type) (α : Type) : Type where
  | done (result : α)
  | call (op : Op) (next : Reply op → Program Op Reply α)

namespace Program

variable {Op : Type} {Reply : Op → Type} {α β ε : Type} {P : α → Prop} {Q : Op → Prop}
  {f : α → Program Op Reply β}

/-- Sequencing grafts the continuation onto every leaf. -/
def bind : Program Op Reply α → (α → Program Op Reply β) → Program Op Reply β
  | .done result, f => f result
  | .call op next, f => .call op fun reply => (next reply).bind f

/-- Programs are sequenced by grafting. -/
instance : Monad (Program Op Reply) where
  pure := .done
  bind := bind

/-- The program that performs one operation and returns its reply. -/
def perform (op : Op) : Program Op Reply (Reply op) :=
  .call op .done

@[simp]
theorem pure_eq_done (result : α) : (pure result : Program Op Reply α) = .done result :=
  rfl

@[simp]
theorem done_bind (result : α) (f : α → Program Op Reply β) :
    (Program.done result >>= f) = f result :=
  rfl

/-- Sequencing goes below an operation. -/
@[simp]
theorem call_bind (op : Op) (next : Reply op → Program Op Reply α) (f : α → Program Op Reply β) :
    (Program.call op next >>= f) = .call op fun reply => next reply >>= f :=
  rfl

/-- One operation, and then the rest. -/
@[simp]
theorem perform_bind (op : Op) (f : Reply op → Program Op Reply β) :
    (perform op >>= f) = .call op f :=
  rfl

/-- Returning at once changes nothing. -/
theorem bind_pure : ∀ p : Program Op Reply α, p >>= pure = p
  | .done _ => rfl
  | .call op next => congrArg (Program.call op) (funext fun reply => bind_pure (next reply))

/-- Continue after a success; a failure ends the program. -/
def andThen (p : Program Op Reply (Except ε α))
    (f : α → Program Op Reply (Except ε β)) : Program Op Reply (Except ε β) :=
  p.bind fun
    | .ok result => f result
    | .error failure => .done (.error failure)

/-- Run a program alone, with one outcome for every operation. -/
def alone {σ χ : Type} (exec : (op : Op) → χ → σ → Option (Reply op × σ)) (choice : χ) :
    Program Op Reply α → σ → Option (α × σ)
  | .done result, s => some (result, s)
  | .call op next, s => (exec op choice s).bind fun (reply, t) => (next reply).alone exec choice t

section

variable {σ χ : Type} {exec : (op : Op) → χ → σ → Option (Reply op × σ)} {choice : χ}

/-- A program alone goes on from where its first part ended. -/
theorem alone_bind {result : α} {t : σ} :
    ∀ {p : Program Op Reply α} {s : σ}, p.alone exec choice s = some (result, t) →
      (p.bind f).alone exec choice s = (f result).alone exec choice t
  | .done _, _, h => by
    cases h
    rfl
  | .call op next, s, h => by
    obtain ⟨⟨reply, u⟩, hexec, hnext⟩ := Option.bind_eq_some_iff.mp h
    change ((exec op choice s).bind fun x => ((next x.1).bind f).alone exec choice x.2) = _
    rw [hexec]
    exact alone_bind hnext

/-- A first stage that succeeds alone. -/
theorem alone_andThen
    {p : Program Op Reply (Except ε α)} {f : α → Program Op Reply (Except ε β)} {value : α} {s t : σ}
    (h : p.alone exec choice s = some (.ok value, t)) :
    (p.andThen f).alone exec choice s = (f value).alone exec choice t :=
  alone_bind h

end

/-- The result when every operation has its given reply. -/
def answered (reply : (op : Op) → Reply op) : Program Op Reply α → α
  | .done result => result
  | .call op next => (next (reply op)).answered reply

@[simp]
theorem answered_call (reply : (op : Op) → Reply op) (op : Op) (next : Reply op → Program Op Reply α) :
    (Program.call op next).answered reply = (next (reply op)).answered reply :=
  rfl

/-- Answers of a sequence. -/
theorem answered_bind (reply : (op : Op) → Reply op) (f : α → Program Op Reply β) :
    ∀ p : Program Op Reply α, (p >>= f).answered reply = (f (p.answered reply)).answered reply
  | .done _ => rfl
  | .call op next => answered_bind reply f (next (reply op))

/-- Every possible result satisfies `P`. -/
def Returns (P : α → Prop) : Program Op Reply α → Prop
  | .done result => P result
  | .call _ next => ∀ reply, (next reply).Returns P

/-- Results of a sequence. -/
theorem Returns.bind {Q : β → Prop} :
    ∀ {p : Program Op Reply α}, p.Returns P → (∀ result, P result → (f result).Returns Q) →
      (p >>= f).Returns Q
  | .done result, hp, hf => hf result hp
  | .call _ _, hp, hf => fun reply => (hp reply).bind hf

/-- Every result is a result. -/
theorem Returns.trivial : ∀ (p : Program Op Reply α), p.Returns fun _ => True
  | .done _ => True.intro
  | .call _ next => fun reply => Returns.trivial (next reply)

/-- A weaker bound on results. -/
theorem Returns.mono {P Q : α → Prop} (h : ∀ result, P result → Q result)
    {p : Program Op Reply α} (hp : p.Returns P) : p.Returns Q :=
  p.bind_pure ▸ hp.bind h

/-- Every value the program can succeed with satisfies `P`. -/
def ReturnsOk (P : α → Prop) (p : Program Op Reply (Except ε α)) : Prop :=
  p.Returns fun result => ∀ value, result = .ok value → P value

/-- A success. -/
theorem ReturnsOk.ok {value : α} (h : P value) :
    (Program.done (.ok value) : Program Op Reply (Except ε α)).ReturnsOk P := by
  rintro _ ⟨⟩
  exact h

theorem ReturnsOk.error (failure : ε) :
    (Program.done (.error failure) : Program Op Reply (Except ε α)).ReturnsOk P := by
  rintro _ ⟨⟩

/-- Successes of two stages. -/
theorem ReturnsOk.andThen {Q : β → Prop}
    {p : Program Op Reply (Except ε α)} {f : α → Program Op Reply (Except ε β)}
    (hp : p.ReturnsOk P) (hf : ∀ value, P value → (f value).ReturnsOk Q) :
    (p.andThen f).ReturnsOk Q := by
  refine Returns.bind hp ?_
  intro result hres
  cases result with
  | ok value => exact hf value (hres value rfl)
  | error failure => exact ReturnsOk.error failure

/-- Nothing is asked of successes. -/
theorem ReturnsOk.trivial (p : Program Op Reply (Except ε α)) : p.ReturnsOk fun _ => True := by
  refine (Returns.trivial p).mono ?_
  intro _ _ _ _
  exact True.intro

/-- Every operation the program can perform satisfies `Q`. -/
def Performs (Q : Op → Prop) : Program Op Reply α → Prop
  | .done _ => True
  | .call op next => Q op ∧ ∀ reply, (next reply).Performs Q

/-- Operations of a sequence. -/
theorem Performs.bind (hf : ∀ a, (f a).Performs Q) :
    ∀ {p : Program Op Reply α}, p.Performs Q → (p >>= f).Performs Q
  | .done result, _ => hf result
  | .call _ _, hp => ⟨hp.1, fun reply => (hp.2 reply).bind hf⟩

/-- Only the result of the program is used. -/
theorem Performs.map (f : α → β) {p : Program Op Reply α} (hp : p.Performs Q) :
    (p >>= fun result => pure (f result)).Performs Q := by
  refine Performs.bind (fun result => ?_) hp
  exact True.intro

/-- Operations of two stages. -/
theorem Performs.andThen {p : Program Op Reply (Except ε α)}
    {f : α → Program Op Reply (Except ε β)} (hp : p.Performs Q) (hf : ∀ a, (f a).Performs Q) :
    (p.andThen f).Performs Q := by
  refine Performs.bind ?_ hp
  intro result
  cases result with
  | ok value => exact hf value
  | error => exact True.intro

/-- A weaker bound on operations. -/
theorem Performs.mono {Q R : Op → Prop} (h : ∀ op, Q op → R op) :
    ∀ {p : Program Op Reply α}, p.Performs Q → p.Performs R
  | .done _, _ => True.intro
  | .call op _, hp => ⟨h op hp.1, fun reply => (hp.2 reply).mono h⟩

/-- A bound that all operations meet. -/
theorem Performs.of_forall (h : ∀ op, Q op) : ∀ p : Program Op Reply α, p.Performs Q
  | .done _ => True.intro
  | .call op next => ⟨h op, fun reply => of_forall h (next reply)⟩

/-- Perform the operations of a program as operations of a larger system. -/
def embed {Op' : Type} {Reply' : Op' → Type} (lift : Op → Op')
    (reply : (op : Op) → Reply' (lift op) → Reply op) :
    Program Op Reply α → Program Op' Reply' α
  | .done result => .done result
  | .call op next => .call (lift op) fun r => (next (reply op r)).embed lift reply

section Embed

variable {Op' : Type} {Reply' : Op' → Type} {lift : Op → Op'}
  {reply : (op : Op) → Reply' (lift op) → Reply op}

/-- Embedding keeps the results. -/
theorem Returns.embed : ∀ {p : Program Op Reply α}, p.Returns P → (p.embed lift reply).Returns P
  | .done _, h => h
  | .call op _, h => fun r => (h (reply op r)).embed

/-- Embedding keeps the bound on operations. -/
theorem Performs.embed {Q : Op' → Prop} :
    ∀ {p : Program Op Reply α}, p.Performs (fun op => Q (lift op)) → (p.embed lift reply).Performs Q
  | .done _, _ => True.intro
  | .call op _, h => ⟨h.1, fun r => (h.2 (reply op r)).embed⟩

end Embed

/-! ## Planned effects

A program that may stop at any operation and may receive any of several replies
performs some of its effects.  They are planned if, whatever the replies, they are
a beginning of one list. -/

section Planned

variable {γ : Type} {possible : (op : Op) → Reply op → Prop} {effects : Op → List γ}

/-- The operations of a run of a program up to some point, and what is left. -/
inductive Trace (possible : (op : Op) → Reply op → Prop) :
    Program Op Reply α → List Op → Program Op Reply α → Prop
  | stop (p : Program Op Reply α) : Trace possible p [] p
  | step {op : Op} {next : Reply op → Program Op Reply α} {reply : Reply op} {ops : List Op}
      {q : Program Op Reply α} (h : possible op reply) (hrest : Trace possible (next reply) ops q) :
      Trace possible (.call op next) (op :: ops) q

/-- Fixed replies that are possible make a run. -/
theorem Trace.answered {reply : (op : Op) → Reply op} (h : ∀ op, possible op (reply op)) :
    ∀ p : Program Op Reply α, ∃ ops, Trace possible p ops (.done (p.answered reply))
  | .done _ => ⟨[], .stop _⟩
  | .call op next => by
    obtain ⟨ops, htrace⟩ := Trace.answered h (next (reply op))
    exact ⟨op :: ops, .step (h op) htrace⟩

/-- The effects follow `plan`; `post` relates the result to what is left of it. -/
def Planned (possible : (op : Op) → Reply op → Prop) (effects : Op → List γ)
    (post : α → List γ → Prop) : Program Op Reply α → List γ → Prop
  | .done result, plan => post result plan
  | .call op next, plan => ∃ rest, plan = effects op ++ rest ∧
      ∀ reply, possible op reply → (next reply).Planned possible effects post rest

/-- The plan of a sequence. -/
theorem Planned.bind {mid : α → List γ → Prop} {post : β → List γ → Prop} :
    ∀ {p : Program Op Reply α} {plan : List γ}, p.Planned possible effects mid plan →
      (∀ result rest, mid result rest → (f result).Planned possible effects post rest) →
      (p >>= f).Planned possible effects post plan
  | .done result, plan, hp, hf => hf result plan hp
  | .call _ _, _, ⟨rest, hplan, hnext⟩, hf =>
    ⟨rest, hplan, fun reply hreply => (hnext reply hreply).bind hf⟩

/-- The plan of two stages. -/
theorem Planned.andThen {mid : Except ε α → List γ → Prop}
    {post : Except ε β → List γ → Prop} {f : α → Program Op Reply (Except ε β)}
    {p : Program Op Reply (Except ε α)} {plan : List γ} (hp : p.Planned possible effects mid plan)
    (herror : ∀ failure rest, mid (.error failure) rest → post (.error failure) rest)
    (hf : ∀ result rest, mid (.ok result) rest → (f result).Planned possible effects post rest) :
    (p.andThen f).Planned possible effects post plan := by
  refine Planned.bind hp ?_
  intro result rest hmid
  cases result with
  | ok result => exact hf result rest hmid
  | error failure => exact herror failure rest hmid

/-- An operation without effect. -/
theorem Planned.call {op : Op} {next : Reply op → Program Op Reply α} {plan : List γ}
    {post : α → List γ → Prop} (hop : effects op = [])
    (hnext : ∀ reply, possible op reply → (next reply).Planned possible effects post plan) :
    (Program.call op next).Planned possible effects post plan :=
  ⟨plan, by rw [hop, List.nil_append], hnext⟩

/-- A program without effects leaves the plan alone. -/
theorem Planned.of_performs {plan : List γ} :
    ∀ {p : Program Op Reply α}, p.Performs (fun op => effects op = []) →
      p.Planned possible effects (fun _ rest => rest = plan) plan
  | .done _, _ => rfl
  | .call _ _, hp => Planned.call hp.1 fun reply _ => Planned.of_performs (hp.2 reply)

theorem Planned.mono {post post' : α → List γ → Prop}
    (h : ∀ result rest, post result rest → post' result rest) {p : Program Op Reply α}
    {plan : List γ} (hp : p.Planned possible effects post plan) :
    p.Planned possible effects post' plan :=
  p.bind_pure ▸ hp.bind h

/-- A run so far is a beginning of the plan, and the rest follows. -/
theorem Planned.trace {post : α → List γ → Prop} {p q : Program Op Reply α} {ops : List Op}
    (htrace : Trace possible p ops q) : ∀ {plan : List γ}, p.Planned possible effects post plan →
      ∃ rest, plan = ops.flatMap effects ++ rest ∧ q.Planned possible effects post rest := by
  induction htrace with
  | stop =>
    intro plan hp
    exact ⟨plan, rfl, hp⟩
  | step h _ ih =>
    rintro plan ⟨rest, rfl, hnext⟩
    obtain ⟨last, rfl, hq⟩ := ih (hnext _ h)
    exact ⟨last, by rw [List.flatMap_cons, List.append_assoc], hq⟩

/-! ### Programs within bounds -/

/-- With possible replies, every operation satisfies `Q` and every result `post`. -/
def Within (possible : (op : Op) → Reply op → Prop) (Q : Op → Prop) (post : α → Prop) :
    Program Op Reply α → Prop
  | .done result => post result
  | .call op next => Q op ∧ ∀ reply, possible op reply → (next reply).Within possible Q post

/-- Bounds of a sequence. -/
theorem Within.bind {mid : α → Prop} {post : β → Prop} :
    ∀ {p : Program Op Reply α}, p.Within possible Q mid →
      (∀ result, mid result → (f result).Within possible Q post) → (p >>= f).Within possible Q post
  | .done result, hp, hf => hf result hp
  | .call _ _, hp, hf => ⟨hp.1, fun reply hreply => (hp.2 reply hreply).bind hf⟩

theorem Within.mono {Q' : Op → Prop} {post post' : α → Prop} (hQ : ∀ op, Q op → Q' op)
    (hpost : ∀ result, post result → post' result) :
    ∀ {p : Program Op Reply α}, p.Within possible Q post → p.Within possible Q' post'
  | .done result, hp => hpost result hp
  | .call op _, hp => ⟨hQ op hp.1, fun reply hreply => (hp.2 reply hreply).mono hQ hpost⟩

section

variable {post : α → Prop}

/-- Bounds that do not depend on the replies. -/
theorem Performs.within :
    ∀ {p : Program Op Reply α}, p.Performs Q → p.Returns post → p.Within possible Q post
  | .done _, _, hret => hret
  | .call _ _, hp, hret => ⟨hp.1, fun reply _ => (hp.2 reply).within (hret reply)⟩

/-- Bounds on operations and results, when every reply is possible. -/
theorem Within.performs :
    ∀ {p : Program Op Reply α}, p.Within (fun _ _ => True) Q post → p.Performs Q ∧ p.Returns post
  | .done _, hp => ⟨True.intro, hp⟩
  | .call _ _, hp => ⟨⟨hp.1, fun reply => (hp.2 reply True.intro).performs.1⟩,
      fun reply => (hp.2 reply True.intro).performs.2⟩

/-- Embedding keeps the bounds. -/
theorem Within.embed {Op' : Type} {Reply' : Op' → Type} {lift : Op → Op'}
    {reply : (op : Op) → Reply' (lift op) → Reply op} {possible' : (op : Op') → Reply' op → Prop}
    {Q' : Op' → Prop} (hQ : ∀ op, Q op → Q' (lift op))
    (hpossible : ∀ op r, possible' (lift op) r → possible op (reply op r)) :
    ∀ {p : Program Op Reply α}, p.Within possible Q post →
      (p.embed lift reply).Within possible' Q' post
  | .done _, hp => hp
  | .call op _, hp => ⟨hQ op hp.1, fun r hr => (hp.2 _ (hpossible op r hr)).embed hQ hpossible⟩

/-- Operations without effects leave a plan alone. -/
theorem Within.planned {plan : List γ} (hQ : ∀ op, Q op → effects op = []) :
    ∀ {p : Program Op Reply α}, p.Within possible Q post →
      p.Planned possible effects (fun result rest => rest = plan ∧ post result) plan
  | .done _, hp => ⟨rfl, hp⟩
  | .call op _, hp => Planned.call (hQ op hp.1) fun reply hreply => (hp.2 reply hreply).planned hQ

/-- What a run has performed, and what is left of it. -/
theorem Within.trace {p q : Program Op Reply α} {ops : List Op}
    (htrace : Trace possible p ops q) (hp : p.Within possible Q post) :
    (∀ op ∈ ops, Q op) ∧ q.Within possible Q post := by
  induction htrace with
  | stop => exact ⟨by simp, hp⟩
  | step h _ ih =>
    obtain ⟨hrest, hq⟩ := ih (hp.2 _ h)
    exact ⟨List.forall_mem_cons.mpr ⟨hp.1, hrest⟩, hq⟩

end

end Planned

/-! ### Reasoning about stages -/

/-- A logic of programs that may fail, closed under sequencing. -/
structure StageLogic (Op : Type) (Reply : Op → Type) (ε : Type) where
  Holds : {α : Type} → (α → Prop) → Program Op Reply (Except ε α) → Prop
  ok : ∀ {α : Type} {P : α → Prop} {value : α}, P value → Holds P (.done (.ok value))
  error : ∀ {α : Type} {P : α → Prop} (failure : ε), Holds P (.done (.error failure))
  andThen : ∀ {α β : Type} {P : α → Prop} {R : β → Prop} {p : Program Op Reply (Except ε α)}
    {f : α → Program Op Reply (Except ε β)}, Holds P p → (∀ value, P value → Holds R (f value)) →
    Holds R (p.andThen f)
  mono : ∀ {α : Type} {P R : α → Prop} {p : Program Op Reply (Except ε α)},
    (∀ value, P value → R value) → Holds P p → Holds R p

/-- What the runs that succeed return, whatever the replies. -/
def StageLogic.returns (Op : Type) (Reply : Op → Type) (ε : Type) : StageLogic Op Reply ε where
  Holds := ReturnsOk
  ok := ReturnsOk.ok
  error := ReturnsOk.error
  andThen := ReturnsOk.andThen
  mono h := Returns.mono fun _ hresult value hvalue => h value (hresult value hvalue)

/-- What successes return and perform, with possible replies. -/
def StageLogic.within {Op : Type} {Reply : Op → Type} (possible : (op : Op) → Reply op → Prop)
    (Q : Op → Prop) (ε : Type) : StageLogic Op Reply ε where
  Holds P p := p.Within possible Q fun result => ∀ value, result = .ok value → P value
  ok h := by
    rintro _ ⟨⟩
    exact h
  error _ := by rintro _ ⟨⟩
  andThen hp hf := by
    refine Within.bind hp ?_
    intro result hresult
    cases result with
    | ok value => exact hf value (hresult value rfl)
    | error failure => rintro _ ⟨⟩
  mono h := Within.mono (fun _ => id) fun _ hresult value hvalue => h value (hresult value hvalue)

end Program

/-- The effect of an operation under an outcome of the environment, the program of each call, and
the calls that can be made in a store. -/
structure Machine (σ χ Call ρ Op : Type) (Reply : Op → Type) where
  exec : (op : Op) → χ → σ → Option (Reply op × σ)
  body : Call → Program Op Reply ρ
  admits : Call → σ → Bool

/-- A store together with every process started so far. -/
structure World (σ Call ρ Op : Type) (Reply : Op → Type) where
  store : σ
  processes : List (Call × Program Op Reply ρ)

/-- The calls whose programs have ended, with their results. -/
def World.finished {σ Call ρ Op : Type} {Reply : Op → Type} (w : World σ Call ρ Op Reply) :
    List (Call × ρ) :=
  w.processes.filterMap fun
    | (call, .done result) => some (call, result)
    | (_, .call _ _) => none

/-- A finished call has its result. -/
theorem World.mem_finished {σ Call ρ Op : Type} {Reply : Op → Type} {w : World σ Call ρ Op Reply}
    {call : Call} {result : ρ} :
    (call, result) ∈ w.finished ↔ (call, Program.done result) ∈ w.processes := by
  constructor
  · intro h
    obtain ⟨⟨c, p⟩, hmem, hp⟩ := List.mem_filterMap.mp h
    cases p with
    | done =>
      cases hp
      exact hmem
    | call => cases hp
  · intro h
    exact List.mem_filterMap.mpr ⟨_, h, rfl⟩

/-- Start a call, or let a process perform its next operation. -/
inductive Action (χ Call : Type) where
  | start (call : Call)
  | step (process : Nat) (choice : χ)

variable {σ χ Call ρ Op : Type} {Reply : Op → Type}

namespace Machine

variable (M : Machine σ χ Call ρ Op Reply)

/-- A store in which no call has been made yet. -/
def initial (s : σ) : World σ Call ρ Op Reply := ⟨s, []⟩

/-- Carry out one scheduling decision, if it is possible. -/
def step (w : World σ Call ρ Op Reply) : Action χ Call → Option (World σ Call ρ Op Reply)
  | .start c =>
    if M.admits c w.store then some ⟨w.store, w.processes ++ [(c, M.body c)]⟩ else none
  | .step i choice =>
    match w.processes[i]? with
    | some (c, .call op next) =>
      (M.exec op choice w.store).map fun (reply, s) =>
        ⟨s, w.processes.set i (c, next reply)⟩
    | _ => none

/-- Carry out a finite schedule. -/
def run (w : World σ Call ρ Op Reply) : List (Action χ Call) → Option (World σ Call ρ Op Reply)
  | [] => some w
  | a :: as => (M.step w a).bind fun w' => run w' as

/-- Everything one scheduling decision can do. -/
theorem step_cases {w w' : World σ Call ρ Op Reply} {a : Action χ Call} (h : M.step w a = some w') :
    (∃ c, a = .start c ∧ M.admits c w.store = true ∧
      w' = ⟨w.store, w.processes ++ [(c, M.body c)]⟩) ∨
    (∃ i choice c op next reply s, a = .step i choice ∧ w.processes[i]? = some (c, .call op next) ∧
      M.exec op choice w.store = some (reply, s) ∧
      w' = ⟨s, w.processes.set i (c, next reply)⟩) := by
  cases a with
  | start c =>
    simp only [step] at h
    split at h
    next hadmits =>
      left
      exact ⟨c, rfl, hadmits, (Option.some.inj h).symm⟩
    next => contradiction
  | step i choice =>
    simp only [step] at h
    split at h
    next c op next hproc =>
      obtain ⟨⟨reply, s⟩, hexec, hw⟩ := Option.map_eq_some_iff.mp h
      right
      exact ⟨i, choice, c, op, next, reply, s, rfl, hproc, hexec, hw.symm⟩
    next => contradiction

/-- The operation of a decision meets `guard` in the store it finds. -/
def Meets (guard : Op → χ → σ → Prop) (w : World σ Call ρ Op Reply) :
    Action χ Call → Prop
  | .start _ => True
  | .step i choice =>
    match w.processes[i]? with
    | some (_, .call op _) => guard op choice w.store
    | _ => True

/-- Every operation performed along a schedule meets `guard`. -/
def Guarded (guard : Op → χ → σ → Prop) (w : World σ Call ρ Op Reply) :
    List (Action χ Call) → Prop
  | [] => True
  | a :: as => Meets guard w a ∧ ∀ w', M.step w a = some w' → Guarded guard w' as

/-- `P` holds of every store along a schedule, the first and the last
included. -/
def Always (P : σ → Prop) (w : World σ Call ρ Op Reply) : List (Action χ Call) → Prop
  | [] => P w.store
  | a :: as => P w.store ∧ ∀ w', M.step w a = some w' → Always P w' as

/-- `R` relates the stores before and after every scheduling decision. -/
def EveryStep (R : σ → σ → Prop) (w : World σ Call ρ Op Reply) :
    List (Action χ Call) → Prop
  | [] => True
  | a :: as => ∀ w', M.step w a = some w' → R w.store w'.store ∧ EveryStep R w' as

/-- Some process performs an operation whose outcome and stores satisfy `R`. -/
def SomeMove (R : Nat → χ → σ → σ → Prop) (w : World σ Call ρ Op Reply) :
    List (Action χ Call) → Prop
  | [] => False
  | a :: as => ∃ w', M.step w a = some w' ∧
      ((∃ i choice, a = .step i choice ∧ R i choice w.store w'.store) ∨ SomeMove R w' as)

/-- The weight of the operation a scheduling decision is about to perform. -/
def weightOf (weight : Op → χ → σ → Nat) (w : World σ Call ρ Op Reply) : Action χ Call → Nat
  | .start _ => 0
  | .step i choice =>
    match w.processes[i]? with
    | some (_, .call op _) => weight op choice w.store
    | _ => 0

/-- The sum of a weight over the operations performed along a schedule. -/
def total (weight : Op → χ → σ → Nat) (w : World σ Call ρ Op Reply) : List (Action χ Call) → Nat
  | [] => 0
  | a :: as => weightOf weight w a + (M.step w a).elim 0 fun w' => total weight w' as

section Decidable

variable (guard : Op → χ → σ → Prop) [∀ op choice s, Decidable (guard op choice s)]

/-- A decidable guard is decidable for a decision. -/
instance (w : World σ Call ρ Op Reply) : (a : Action χ Call) → Decidable (Meets guard w a)
  | .start _ => inferInstanceAs (Decidable True)
  | .step i choice =>
    match h : w.processes[i]? with
    | some (_, .call op _) =>
      decidable_of_iff (guard op choice w.store) (by simp only [Meets, h])
    | some (_, .done _) => .isTrue (by simp only [Meets, h])
    | none => .isTrue (by simp only [Meets, h])

/-- A decidable guard can be checked along a concrete schedule. -/
instance decidableGuarded : (w : World σ Call ρ Op Reply) → (as : List (Action χ Call)) →
    Decidable (M.Guarded guard w as)
  | _, [] => inferInstanceAs (Decidable True)
  | w, a :: as =>
    have : Decidable (∀ w', M.step w a = some w' → M.Guarded guard w' as) :=
      match h : M.step w a with
      | none => .isTrue (by rintro _ ⟨⟩)
      | some w' =>
        have := decidableGuarded w' as
        decidable_of_iff (M.Guarded guard w' as) (by simp)
    inferInstanceAs (Decidable (_ ∧ _))

end Decidable

variable {M} {guard : Op → χ → σ → Prop} {R : σ → σ → Prop} {P I : σ → Prop}

/-- The guard is about the next operation of the process. -/
theorem meets_of_process {w : World σ Call ρ Op Reply}
    {i : Nat} {choice : χ} {c : Call} {op : Op} {next : Reply op → Program Op Reply ρ}
    (hproc : w.processes[i]? = some (c, .call op next)) :
    Meets guard w (.step i choice) ↔ guard op choice w.store := by
  simp [Meets, hproc]

/-- A decision that meets the guard, and a guarded rest. -/
theorem Guarded.cons {w u : World σ Call ρ Op Reply}
    {a : Action χ Call} {as : List (Action χ Call)} (hmeets : Meets guard w a)
    (hstep : M.step w a = some u) (hrest : M.Guarded guard u as) : M.Guarded guard w (a :: as) := by
  refine ⟨hmeets, ?_⟩
  intro w' hstep'
  rw [hstep] at hstep'
  cases hstep'
  exact hrest

theorem guarded_true : ∀ (as : List (Action χ Call)) (w : World σ Call ρ Op Reply),
    M.Guarded (fun _ _ _ => True) w as := by
  intro as
  induction as with
  | nil => exact fun _ => trivial
  | cons a as ih =>
    intro w
    refine ⟨?_, fun w' _ => ih w'⟩
    cases a with
    | start => trivial
    | step =>
      simp only [Meets]
      split <;> trivial

/-- If each operation keeps `I` exactly when it meets `guard`, then so does a run. -/
theorem always_iff_guarded
    (hexec : ∀ op choice s reply t, I s → M.exec op choice s = some (reply, t) →
      (I t ↔ guard op choice s)) :
    ∀ (as : List (Action χ Call)) (w w' : World σ Call ρ Op Reply), I w.store →
      M.run w as = some w' → (M.Always I w as ↔ M.Guarded guard w as) := by
  intro as
  induction as with
  | nil => intro w w' hw _; simpa [Always, Guarded] using hw
  | cons a as ih =>
    intro w w' hw hrun
    obtain ⟨u, hstep, htail⟩ := Option.bind_eq_some_iff.mp hrun
    -- The step is deterministic, so both sides speak about the one successor `u`.
    have honly : ∀ v, M.step w a = some v ↔ v = u := by
      intro v
      rw [hstep]
      exact ⟨fun h => (Option.some.inj h).symm, fun h => by rw [h]⟩
    simp only [Always, Guarded, honly, forall_eq, hw, true_and]
    rcases M.step_cases hstep with
      ⟨c, rfl, -, rfl⟩ | ⟨i, choice, c, op, next, reply, s, rfl, hproc, hop, rfl⟩
    · simpa [Meets] using ih ⟨w.store, w.processes ++ [(c, M.body c)]⟩ w' hw htail
    · have hkeep := hexec op choice w.store reply s hw hop
      rw [meets_of_process hproc]
      constructor
      · intro halways
        have hs : I s := by
          cases as with
          | nil => exact halways
          | cons => exact halways.1
        exact ⟨hkeep.mp hs, (ih _ _ hs htail).mp halways⟩
      · rintro ⟨hguard, hrest⟩
        exact (ih _ _ (hkeep.mpr hguard) htail).mpr hrest

theorem EveryStep.mono {R S : σ → σ → Prop} (h : ∀ s t, R s t → S s t) :
    ∀ {as : List (Action χ Call)} {w : World σ Call ρ Op Reply},
      M.EveryStep R w as → M.EveryStep S w as
  | [], _, _ => trivial
  | _ :: _, w, hsteps => fun w' hstep =>
    ⟨h w.store w'.store (hsteps w' hstep).1, EveryStep.mono h (hsteps w' hstep).2⟩

theorem SomeMove.mono {R S : Nat → χ → σ → σ → Prop}
    (h : ∀ i choice s t, R i choice s t → S i choice s t) :
    ∀ {as : List (Action χ Call)} {w : World σ Call ρ Op Reply},
      M.SomeMove R w as → M.SomeMove S w as
  | [], _, hmove => hmove
  | _ :: _, _, ⟨w', hstep, hmove⟩ => ⟨w', hstep, hmove.imp
      (fun ⟨i, choice, ha, hR⟩ => ⟨i, choice, ha, h i choice _ _ hR⟩) (SomeMove.mono h)⟩

/-- The steps of a run's second part. -/
theorem EveryStep.of_append {bs : List (Action χ Call)} :
    ∀ {as : List (Action χ Call)} {w u : World σ Call ρ Op Reply},
      M.EveryStep R w (as ++ bs) → M.run w as = some u → M.EveryStep R u bs
  | [], _, _, hsteps, hrun => by
    cases hrun
    exact hsteps
  | a :: as, w, u, hsteps, hrun => by
    obtain ⟨v, hstep, htail⟩ := Option.bind_eq_some_iff.mp hrun
    exact EveryStep.of_append (hsteps v hstep).2 htail

/-- A run goes on where another ended. -/
theorem run_append {bs : List (Action χ Call)} :
    ∀ {as : List (Action χ Call)} {w u : World σ Call ρ Op Reply}, M.run w as = some u →
      M.run w (as ++ bs) = M.run u bs
  | [], _, _, hrun => by
    cases hrun
    rfl
  | a :: as, w, u, hrun => by
    obtain ⟨v, hstep, htail⟩ := Option.bind_eq_some_iff.mp hrun
    rw [List.cons_append, run, hstep, Option.bind_some, run_append htail]

/-- What every scheduling decision keeps holds all along. -/
theorem EveryStep.always (h : ∀ s t, R s t → P s → P t) :
    ∀ {as : List (Action χ Call)} {w : World σ Call ρ Op Reply}, M.EveryStep R w as → P w.store →
      M.Always P w as
  | [], _, _, hw => hw
  | _ :: _, _, hsteps, hw => ⟨hw, fun w' hstep =>
    EveryStep.always h (hsteps w' hstep).2 (h _ _ (hsteps w' hstep).1 hw)⟩

/-- What always holds, holds first. -/
theorem Always.first {w : World σ Call ρ Op Reply} :
    ∀ {as : List (Action χ Call)}, M.Always P w as → P w.store
  | [], h => h
  | _ :: _, h => h.1

/-- A property of all stores along a run holds of the last one. -/
theorem Always.last :
    ∀ {as : List (Action χ Call)} {w w' : World σ Call ρ Op Reply},
      M.Always P w as → M.run w as = some w' → P w'.store
  | [], _, _, halways, hrun => by
    cases hrun
    exact halways
  | a :: as, w, w', halways, hrun => by
    obtain ⟨u, hstep, htail⟩ := Option.bind_eq_some_iff.mp hrun
    exact Always.last (halways.2 u hstep) htail

/-- A property of stores that every operation keeps holds at the end of a run. -/
theorem run_keeps (hexec : ∀ op choice s reply t, I s → M.exec op choice s = some (reply, t) → I t)
    {as : List (Action χ Call)} {w w' : World σ Call ρ Op Reply} (hw : I w.store)
    (hrun : M.run w as = some w') : I w'.store := by
  have hiff := M.always_iff_guarded (I := I) (fun op choice s reply t hs h =>
    iff_true_intro (hexec op choice s reply t hs h)) as w w' hw hrun
  exact (hiff.mpr (M.guarded_true as w)).last hrun

/-- A measure that operations increase by their weight grows by the total. -/
theorem measure_of_run {measure : σ → Nat} {weight : Op → χ → σ → Nat}
    (hexec : ∀ op choice s reply t, M.exec op choice s = some (reply, t) →
      measure t = measure s + weight op choice s) :
    ∀ (as : List (Action χ Call)) (w w' : World σ Call ρ Op Reply), M.run w as = some w' →
      measure w'.store = measure w.store + M.total weight w as := by
  intro as
  induction as with
  | nil =>
    intro w w' hrun
    cases hrun
    rfl
  | cons a as ih =>
    intro w w' hrun
    obtain ⟨u, hstep, htail⟩ := Option.bind_eq_some_iff.mp hrun
    rw [ih u w' htail, total, hstep, Option.elim_some]
    rcases M.step_cases hstep with
      ⟨c, rfl, -, rfl⟩ | ⟨i, choice, c, op, next, reply, s, rfl, hproc, hop, rfl⟩
    · simp [weightOf]
    · rw [hexec op choice w.store reply s hop]
      simp only [weightOf, hproc]
      omega

/-- A property of the program of one process that survives its operations. -/
theorem process_of_run {Φ : Program Op Reply ρ → Prop} {i : Nat}
    {c : Call} (hnext : ∀ op next (reply : Reply op), Φ (.call op next) → Φ (next reply)) :
    ∀ {as : List (Action χ Call)} {w w' : World σ Call ρ Op Reply}, M.run w as = some w' →
      (∃ p, w.processes[i]? = some (c, p) ∧ Φ p) → ∃ p, w'.processes[i]? = some (c, p) ∧ Φ p
  | [], _, _, hrun, h => by
    cases hrun
    exact h
  | a :: as, w, w', hrun, ⟨p, hp, hΦ⟩ => by
    obtain ⟨u, hstep, htail⟩ := Option.bind_eq_some_iff.mp hrun
    refine process_of_run hnext htail ?_
    rcases M.step_cases hstep with
      ⟨_, rfl, -, rfl⟩ | ⟨j, choice, _, op, next, reply, s, rfl, hproc, -, rfl⟩
    · exact ⟨p, by simp [List.getElem?_append_left (List.getElem?_eq_some_iff.mp hp).1, hp], hΦ⟩
    · by_cases hij : j = i
      · subst hij
        cases hproc.symm.trans hp
        refine ⟨next reply, ?_, hnext op next reply hΦ⟩
        simp [List.getElem?_set_self (List.getElem?_eq_some_iff.mp hp).1]
      · exact ⟨p, by simp [List.getElem?_set_ne hij, hp], hΦ⟩

/-- The machine that refuses all but some calls. -/
def restrict (M : Machine σ χ Call ρ Op Reply) (allowed : Call → Bool) :
    Machine σ χ Call ρ Op Reply where
  exec := M.exec
  body := M.body
  admits c s := M.admits c s && allowed c

/-- A run of allowed calls is a run of the restricted machine. -/
theorem run_restrict {allowed : Call → Bool} :
    ∀ {as : List (Action χ Call)} {w : World σ Call ρ Op Reply},
      (∀ c, Action.start c ∈ as → allowed c = true) →
      (M.restrict allowed).run w as = M.run w as
  | [], _, _ => rfl
  | a :: as, w, h => by
    have hstep : (M.restrict allowed).step w a = M.step w a := by
      cases a with
      | start c => simp [step, restrict, h c List.mem_cons_self]
      | step => rfl
    rw [run, run, hstep]
    congr 1
    funext w'
    exact run_restrict fun c hc => h c (List.mem_cons_of_mem _ hc)

/-- Every call has the property at its start, an operation keeps it for the rest of its program, and
changes of the store for the others. -/
structure Preserved (M : Machine σ χ Call ρ Op Reply) (I : σ → Prop)
    (guard meets : Op → χ → σ → Prop) (change : σ → σ → Prop)
    (Φ : Call → Program Op Reply ρ → σ → Prop) : Prop where
  refl : ∀ s, change s s
  start : ∀ {c s}, I s → M.admits c s = true → Φ c (M.body c) s
  own : ∀ {c op next choice s reply t}, I s → Φ c (.call op next) s → guard op choice s →
    M.exec op choice s = some (reply, t) →
      meets op choice s ∧ I t ∧ change s t ∧ Φ c (next reply) t
  others : ∀ {c p s t}, Φ c p s → change s t → I t → Φ c p t

section Preserved

variable {meets : Op → χ → σ → Prop} {change : σ → σ → Prop} {Φ : Call → Program Op Reply ρ → σ → Prop}

/-- A scheduling decision keeps the invariant and what every process knows. -/
theorem Preserved.step (h : M.Preserved I guard meets change Φ) {w w' : World σ Call ρ Op Reply}
    {a : Action χ Call} (hw : I w.store) (hall : ∀ p ∈ w.processes, Φ p.1 p.2 w.store)
    (hguard : Meets guard w a) (hstep : M.step w a = some w') :
    Meets meets w a ∧ change w.store w'.store ∧ I w'.store ∧
      ∀ p ∈ w'.processes, Φ p.1 p.2 w'.store := by
  rcases M.step_cases hstep with
    ⟨c, rfl, hadmits, rfl⟩ | ⟨i, choice, c, op, next, reply, s, rfl, hproc, hop, rfl⟩
  · refine ⟨trivial, h.refl _, hw, ?_⟩
    intro p hp
    rcases List.mem_append.mp hp with hold | hnew
    · exact hall p hold
    · rw [List.mem_singleton] at hnew
      subst hnew
      exact h.start hw hadmits
  · rw [meets_of_process hproc] at hguard ⊢
    obtain ⟨hmeets, hs, hchange, hnext⟩ := h.own hw (hall _ (List.mem_of_getElem? hproc)) hguard hop
    refine ⟨hmeets, hchange, hs, ?_⟩
    intro p hp
    rcases List.mem_or_eq_of_mem_set hp with hold | rfl
    · exact h.others (hall p hold) hchange hs
    · exact hnext

/-- All decisions of a run. -/
theorem Preserved.run (h : M.Preserved I guard meets change Φ) :
    ∀ {as : List (Action χ Call)} {w w' : World σ Call ρ Op Reply}, I w.store →
      (∀ p ∈ w.processes, Φ p.1 p.2 w.store) → M.Guarded guard w as → M.run w as = some w' →
      M.Guarded meets w as ∧ M.EveryStep change w as ∧ I w'.store ∧
        ∀ p ∈ w'.processes, Φ p.1 p.2 w'.store := by
  intro as
  induction as with
  | nil =>
    intro w w' hw hall _ hrun
    cases hrun
    exact ⟨trivial, trivial, hw, hall⟩
  | cons a as ih =>
    intro w w' hw hall hguarded hrun
    obtain ⟨u, hstep, htail⟩ := Option.bind_eq_some_iff.mp hrun
    obtain ⟨hmeets, hchange, hu, huall⟩ := h.step hw hall hguarded.1 hstep
    obtain ⟨hguards, hsteps, hlast⟩ := ih hu huall (hguarded.2 u hstep) htail
    refine ⟨Guarded.cons hmeets hstep hguards, ?_, hlast⟩
    intro v hv
    cases hstep.symm.trans hv
    exact ⟨hchange, hsteps⟩

end Preserved

end Machine

/-! ## The rely/guarantee rule -/

/-- Whatever related stores its operations find, each keeps the invariant and the guarantee, and the
program ends with its postcondition. -/
def Program.Safe (exec : (op : Op) → χ → σ → Option (Reply op × σ))
    (guard : Op → χ → σ → Prop) (I : σ → Prop) (rely guarantee : σ → σ → Prop)
    (post : ρ → σ → Prop) : Program Op Reply ρ → σ → Prop
  | .done result, s => post result s
  | .call op next, s =>
    ∀ t, rely s t → I t → ∀ choice reply u, guard op choice t →
      exec op choice t = some (reply, u) →
        I u ∧ guarantee t u ∧ (next reply).Safe exec guard I rely guarantee post u

/-- The assumptions of the rely/guarantee rule for one machine. -/
structure Contract (M : Machine σ χ Call ρ Op Reply) (guard : Op → χ → σ → Prop)
    (I : σ → Prop) (rely guarantee : σ → σ → Prop) (post : Call → ρ → σ → Prop) : Prop where
  rely_refl : ∀ s, rely s s
  rely_trans : ∀ s t u, rely s t → rely t u → rely s u
  guarantee_refl : ∀ s, guarantee s s
  guarantee_rely : ∀ {s t}, guarantee s t → rely s t
  post_stable : ∀ c result s t, post c result s → rely s t → I t → post c result t
  body_safe : ∀ {c s}, I s → M.admits c s = true →
    (M.body c).Safe M.exec guard I rely guarantee (post c) s

namespace Program

variable {exec : (op : Op) → χ → σ → Option (Reply op × σ)}
  {guard : Op → χ → σ → Prop} {I : σ → Prop} {rely guarantee : σ → σ → Prop}
  {post : ρ → σ → Prop}

/-- Safety survives the changes the rest of the system may make. -/
theorem Safe.stable
    {p : Program Op Reply ρ} {s t : σ} (hsafe : p.Safe exec guard I rely guarantee post s)
    (hrely : rely s t) (ht : I t) (htrans : ∀ s t u, rely s t → rely t u → rely s u)
    (hpost : ∀ result s t, post result s → rely s t → I t → post result t) :
    p.Safe exec guard I rely guarantee post t := by
  cases p with
  | done result => exact hpost result s t hsafe hrely ht
  | call => exact fun u htu hu => hsafe u (htrans s t u hrely htu) hu

/-- Safety of a sequence: the first program's postcondition starts the second. -/
theorem Safe.bind {α β : Type} {mid : α → σ → Prop} {post : β → σ → Prop}
    {f : α → Program Op Reply β} :
    ∀ {p : Program Op Reply α} {s : σ}, p.Safe exec guard I rely guarantee mid s →
      (∀ result t, mid result t → (f result).Safe exec guard I rely guarantee post t) →
      (p >>= f).Safe exec guard I rely guarantee post s
  | .done result, s, hp, hf => hf result s hp
  | .call _ _, _, hp, hf => fun t hrely ht choice reply u hguard hexec =>
    let ⟨hu, hguar, hnext⟩ := hp t hrely ht choice reply u hguard hexec
    ⟨hu, hguar, hnext.bind hf⟩

theorem Safe.mono {post post' : ρ → σ → Prop} (h : ∀ result s, post result s → post' result s)
    {p : Program Op Reply ρ} {s : σ} (hp : p.Safe exec guard I rely guarantee post s) :
    p.Safe exec guard I rely guarantee post' s :=
  p.bind_pure ▸ hp.bind h

/-- An operation that only reads. -/
theorem Safe.read {op : Op} {next : Reply op → Program Op Reply ρ} {s : σ}
    (hread : ∀ choice t reply u, exec op choice t = some (reply, u) → u = t)
    (hguar : ∀ t, guarantee t t)
    (hnext : ∀ t choice reply, rely s t → I t → exec op choice t = some (reply, t) →
      (next reply).Safe exec guard I rely guarantee post t) :
    (Program.call op next).Safe exec guard I rely guarantee post s := by
  intro t hrely ht choice reply u _ hexec
  obtain rfl := hread choice t reply u hexec
  exact ⟨ht, hguar u, hnext u choice reply hrely ht hexec⟩

/-- What a program returns in any case is added to its postcondition. -/
theorem Safe.and_returns {P : ρ → Prop} :
    ∀ {p : Program Op Reply ρ} {s : σ}, p.Safe exec guard I rely guarantee post s → p.Returns P →
      p.Safe exec guard I rely guarantee (fun result t => post result t ∧ P result) s
  | .done _, _, hsafe, hret => ⟨hsafe, hret⟩
  | .call _ _, _, hsafe, hret => fun t hrely ht choice reply u hguard hexec =>
    let ⟨hu, hguar, hnext⟩ := hsafe t hrely ht choice reply u hguard hexec
    ⟨hu, hguar, hnext.and_returns (hret reply)⟩

/-- A program whose operations are always fine is safe everywhere. -/
theorem Safe.of_exec
    (hexec : ∀ op choice t reply u, I t → guard op choice t →
      exec op choice t = some (reply, u) → I u ∧ guarantee t u)
    (hpost : ∀ result t, post result t) :
    ∀ (p : Program Op Reply ρ) (s : σ), p.Safe exec guard I rely guarantee post s
  | .done result, s => hpost result s
  | .call op next, _ => fun t _ ht choice reply u hguard hop =>
    let ⟨hu, hguar⟩ := hexec op choice t reply u ht hguard hop
    ⟨hu, hguar, Safe.of_exec hexec hpost (next reply) u⟩

end Program

namespace Contract

variable {M : Machine σ χ Call ρ Op Reply} {guard : Op → χ → σ → Prop} {I : σ → Prop}
  {rely guarantee : σ → σ → Prop} {post : Call → ρ → σ → Prop}

/-- Every process of a world is safe from the current store on. -/
def AllSafe (M : Machine σ χ Call ρ Op Reply) (guard : Op → χ → σ → Prop) (I : σ → Prop)
    (rely guarantee : σ → σ → Prop) (post : Call → ρ → σ → Prop)
    (w : World σ Call ρ Op Reply) : Prop :=
  ∀ p ∈ w.processes, p.2.Safe M.exec guard I rely guarantee (post p.1) w.store

/-- A contract preserves the safety of its processes. -/
theorem preserved (hcontr : Contract M guard I rely guarantee post) :
    M.Preserved I guard (fun _ _ _ => True) guarantee fun c p s =>
      p.Safe M.exec guard I rely guarantee (post c) s where
  refl := hcontr.guarantee_refl
  start hs hadmits := hcontr.body_safe hs hadmits
  own hs hsafe hguard hop :=
    ⟨trivial, hsafe _ (hcontr.rely_refl _) hs _ _ _ hguard hop⟩
  others hsafe hguar ht :=
    hsafe.stable (hcontr.guarantee_rely hguar) ht hcontr.rely_trans
      (hcontr.post_stable _)

/-- The rely/guarantee rule for runs that start without processes. -/
theorem run_initial (hcontr : Contract M guard I rely guarantee post)
    {as : List (Action χ Call)} {s : σ} {w : World σ Call ρ Op Reply} (hs : I s)
    (hguards : M.Guarded guard (Machine.initial s) as)
    (hrun : M.run (Machine.initial s) as = some w) :
    I w.store ∧ AllSafe M guard I rely guarantee post w ∧
      M.EveryStep guarantee (Machine.initial s) as := by
  obtain ⟨-, hsteps, hlast, hall⟩ := hcontr.preserved.run hs (by rintro p ⟨⟩) hguards hrun
  exact ⟨hlast, hall, hsteps⟩

end Contract

/-! ## Following one process

A guarantee to one process may rest on what the others do not do in this run, and
on outcomes that its own operations do not have in it. -/

section Follow

variable {M : Machine σ χ Call ρ Op Reply} {I : σ → Prop} {rely guarantee : σ → σ → Prop}
  {own : χ → σ → σ → Prop} {post : Call → ρ → σ → Prop}

/-- An operation keeps the invariant and has an expected outcome. -/
def expected (M : Machine σ χ Call ρ Op Reply) (I : σ → Prop) (own : χ → σ → σ → Prop) (op : Op)
    (choice : χ) (s : σ) : Prop :=
  ∀ reply t, M.exec op choice s = some (reply, t) → I t ∧ own choice s t

/-- A process is safe at the end of a run in which the others do what it relies on and its own
operations are as expected. -/
theorem Machine.follow (hrefl : ∀ s, rely s s) (htrans : ∀ s t u, rely s t → rely t u → rely s u)
    (hpost : ∀ c result s t, post c result s → rely s t → I t → post c result t)
    (hbody : ∀ c s, I s → (M.body c).Safe M.exec
      (expected M I own) I rely guarantee (post c) s) (i : Nat) :
    ∀ (as : List (Action χ Call)) (w w' : World σ Call ρ Op Reply), M.run w as = some w' →
      M.Always I w as → ¬ M.SomeMove (fun j _ s t => j ≠ i ∧ ¬ rely s t) w as →
      ¬ M.SomeMove (fun j choice s t => j = i ∧ ¬ own choice s t) w as →
      (∀ c p, w.processes[i]? = some (c, p) → p.Safe M.exec
        (expected M I own) I rely guarantee (post c) w.store) →
      ∀ c p, w'.processes[i]? = some (c, p) → p.Safe M.exec
        (expected M I own) I rely guarantee (post c) w'.store := by
  intro as
  induction as with
  | nil =>
    intro w w' hrun _ _ _ hsafe
    cases hrun
    exact hsafe
  | cons a as ih =>
    intro w w' hrun halways hothers hown hsafe
    obtain ⟨u, hstep, htail⟩ := Option.bind_eq_some_iff.mp hrun
    have hmove : ∀ {R : Nat → χ → σ → σ → Prop}, ¬ M.SomeMove R w (a :: as) →
        (∀ j choice, a = .step j choice → ¬ R j choice w.store u.store) ∧
          ¬ M.SomeMove R u as := fun h =>
      ⟨fun j choice ha hR => h ⟨u, hstep, .inl ⟨j, choice, ha, hR⟩⟩,
        fun htail => h ⟨u, hstep, .inr htail⟩⟩
    refine ih u w' htail (halways.2 u hstep) (hmove hothers).2 (hmove hown).2 fun c p hp => ?_
    have hu : I u.store := (halways.2 u hstep).first
    rcases M.step_cases hstep with
      ⟨c', rfl, -, rfl⟩ | ⟨j, choice, c', op, next, reply, s, rfl, hproc, hop, rfl⟩
    · rw [List.getElem?_append] at hp
      split at hp
      · exact hsafe c p hp
      · have hnew := List.mem_singleton.mp (List.mem_of_getElem? hp)
        cases hnew
        exact hbody c _ hu
    · by_cases hji : j = i
      · subst hji
        have hlt : j < w.processes.length := (List.getElem?_eq_some_iff.mp hproc).1
        rw [List.getElem?_set_self hlt] at hp
        cases hp
        refine (hsafe c _ hproc w.store (hrefl _) halways.1 choice reply s ?_ hop).2.2
        intro reply' s' hop'
        rw [hop] at hop'
        cases hop'
        exact ⟨hu, Classical.byContradiction fun hnot => (hmove hown).1 j choice rfl ⟨rfl, hnot⟩⟩
      · rw [List.getElem?_set_ne hji] at hp
        have hrely : rely w.store s := Classical.byContradiction fun hnot =>
          (hmove hothers).1 j choice rfl ⟨hji, hnot⟩
        exact (hsafe c p hp).stable hrely hu htrans (hpost c)

end Follow

/-! ## Justified operations

In most systems a program may send an operation only when it knows something
about the rows the operation was computed from.  The knowledge has to survive
what the others do, and the operations it justifies have to keep the
invariant. -/

section Justified

variable {exec : (op : Op) → χ → σ → Option (Reply op × σ)} {guard : Op → χ → σ → Prop}
  {justified : Op → σ → Prop} {I : σ → Prop} {rely guarantee : σ → σ → Prop}

/-- Justified operations keep the invariant and what the others rely on. -/
structure Kept (exec : (op : Op) → χ → σ → Option (Reply op × σ)) (guard : Op → χ → σ → Prop)
    (justified : Op → σ → Prop) (I : σ → Prop) (rely guarantee : σ → σ → Prop) : Prop where
  trans : ∀ s t u, rely s t → rely t u → rely s u
  rely_of_guarantee : ∀ s t, guarantee s t → rely s t
  step : ∀ op choice s reply t, I s → justified op s → guard op choice s →
    exec op choice s = some (reply, t) → I t ∧ guarantee s t

/-- Safety of a program that has nothing to establish at its end. -/
def SafeCall (exec : (op : Op) → χ → σ → Option (Reply op × σ)) (guard : Op → χ → σ → Prop)
    (I : σ → Prop) (rely guarantee : σ → σ → Prop) {α : Type} (p : Program Op Reply α) (s : σ) :
    Prop :=
  p.Safe exec guard I rely guarantee (fun _ _ => True) s

/-- A program that has ended. -/
theorem SafeCall.done {α : Type} (result : α) (s : σ) :
    SafeCall exec guard I rely guarantee (Program.done result : Program Op Reply α) s :=
  trivial

section

variable {α : Type} {s : σ} (hkept : Kept exec guard justified I rely guarantee)
include hkept

/-- The first operation is justified, and the rest is safe wherever it leads. -/
theorem Kept.safe_call {post : α → σ → Prop} {op : Op} {next : Reply op → Program Op Reply α}
    (hop : ∀ t, rely s t → I t → justified op t)
    (hnext : ∀ t choice reply u, rely s t → I t → exec op choice t = some (reply, u) → I u →
      rely s u → (next reply).Safe exec guard I rely guarantee post u) :
    (Program.call op next).Safe exec guard I rely guarantee post s := by
  intro t hrely ht choice reply u hguard hexec
  obtain ⟨hu, hguar⟩ := hkept.step op choice t reply u ht (hop t hrely ht) hguard hexec
  have hrely' := hkept.trans s t u hrely (hkept.rely_of_guarantee t u hguar)
  exact ⟨hu, hguar, hnext t choice reply u hrely ht hexec hu hrely'⟩

/-- Operations that are justified everywhere make a safe program. -/
theorem Kept.safe_of_returns {P : α → Prop} :
    ∀ {p : Program Op Reply α} {t : σ}, p.Performs (fun op => ∀ u, justified op u) →
      p.Returns P → rely s t →
      p.Safe exec guard I rely guarantee (fun result u => P result ∧ rely s u) t
  | .done _, _, _, hret, hrely => ⟨hret, hrely⟩
  | .call _ _, t, hperf, hret, hrely =>
    hkept.safe_call (fun u _ _ => hperf.1 u) fun _ _ reply u _ _ _ _ hrely' =>
      safe_of_returns (hperf.2 reply) (hret reply) (hkept.trans s t u hrely hrely')

/-- A safe program ends in a store its start may change to. -/
theorem Kept.framed {post : α → σ → Prop} :
    ∀ {p : Program Op Reply α} {t : σ}, p.Safe exec guard I rely guarantee post t → rely s t →
      p.Safe exec guard I rely guarantee (fun result u => post result u ∧ rely s u) t
  | .done _, _, hsafe, hrely => ⟨hsafe, hrely⟩
  | .call _ _, t, hsafe, hrely => fun v hv hI choice reply u hguard hexec =>
    let ⟨hu, hguar, hnext⟩ := hsafe v hv hI choice reply u hguard hexec
    ⟨hu, hguar, framed hnext (hkept.trans s v u (hkept.trans s t v hrely hv)
      (hkept.rely_of_guarantee v u hguar))⟩

end

/-- Safety of a program that establishes something only when it succeeds. -/
def SafeOk (exec : (op : Op) → χ → σ → Option (Reply op × σ)) (guard : Op → χ → σ → Prop)
    (I : σ → Prop) (rely guarantee : σ → σ → Prop) {ε α : Type} (post : α → σ → Prop)
    (p : Program Op Reply (Except ε α)) (s : σ) : Prop :=
  p.Safe exec guard I rely guarantee (fun result t => ∀ value, result = .ok value → post value t) s

/-- A success. -/
theorem SafeOk.ok {ε α : Type} {post : α → σ → Prop} {value : α} {s : σ} (h : post value s) :
    SafeOk exec guard I rely guarantee post
      (Program.done (.ok value) : Program Op Reply (Except ε α)) s := by
  rintro _ ⟨⟩
  exact h

theorem SafeOk.error {ε α : Type} {post : α → σ → Prop} (failure : ε) (s : σ) :
    SafeOk exec guard I rely guarantee post
      (Program.done (.error failure) : Program Op Reply (Except ε α)) s := by
  rintro _ ⟨⟩

theorem Kept.andThen (hkept : Kept exec guard justified I rely guarantee) (hrefl : ∀ s, rely s s)
    {ε α β : Type} {mid : α → σ → Prop} {post : β → σ → Prop}
    {p : Program Op Reply (Except ε α)} {f : α → Program Op Reply (Except ε β)} {s : σ}
    (hp : SafeOk exec guard I rely guarantee mid p s)
    (hf : ∀ value t, mid value t → rely s t → SafeOk exec guard I rely guarantee post (f value) t) :
    SafeOk exec guard I rely guarantee post (p.andThen f) s := by
  refine Program.Safe.bind (hkept.framed hp (hrefl s)) ?_
  rintro result t ⟨hmid, hrely⟩
  cases result with
  | ok value => exact hf value t (hmid value rfl) hrely
  | error failure => exact SafeOk.error failure t

/-- A justified operation, and a safe rest. -/
theorem SafeCall.call (hkept : Kept exec guard justified I rely guarantee) {α : Type} {op : Op}
    {next : Reply op → Program Op Reply α} {s : σ} (hop : ∀ t, rely s t → I t → justified op t)
    (hnext : ∀ t choice reply u, rely s t → I t → exec op choice t = some (reply, u) → I u →
      rely s u → SafeCall exec guard I rely guarantee (next reply) u) :
    SafeCall exec guard I rely guarantee (Program.call op next) s :=
  hkept.safe_call hop hnext

/-- Only the result of the program is used. -/
theorem SafeCall.map {α β : Type} {p : Program Op Reply α} {s : σ} (f : α → β)
    (h : SafeCall exec guard I rely guarantee p s) :
    SafeCall exec guard I rely guarantee (p >>= fun result => pure (f result)) s :=
  Program.Safe.bind h fun _ _ _ => trivial

/-- The contract of a machine all of whose calls are safe. -/
theorem Kept.contract {M : Machine σ χ Call ρ Op Reply}
    (hkept : Kept M.exec guard justified I rely guarantee) (hrely : ∀ s, rely s s)
    (hguar : ∀ s, guarantee s s)
    (hbody : ∀ c s, SafeCall M.exec guard I rely guarantee (M.body c) s) :
    Contract M guard I rely guarantee (fun _ _ _ => True) where
  rely_refl := hrely
  rely_trans := hkept.trans
  guarantee_refl := hguar
  guarantee_rely := hkept.rely_of_guarantee _ _
  post_stable _ _ _ _ _ _ _ := trivial
  body_safe _ _ := hbody _ _

end Justified

end StoreProgram
