import LimnoPulse.Library.Program

/-!
# Disciplined systems

In a system without locks a program may send an operation only when it knows
something about the store, and what it knows has to survive the operations of all
others.  A discipline names which operations are justified in which stores, the
invariant of the store, and the changes everyone may rely on.

Main results:

- Theorem `Discipline.run_justified_initial`: every operation of a run of sound programs
  is justified in the store it finds.
- Theorem `Machine.Guarded.kept`: an invariant of single operations is one of runs.
-/

namespace StoreProgram

variable {σ χ Call ρ Op : Type} {Reply : Op → Type} {α β ε : Type}
variable {w : World σ Call ρ Op Reply}

namespace Machine

variable {M : Machine σ χ Call ρ Op Reply} {guard guard' : Op → χ → σ → Prop}

theorem Meets.mono (h : ∀ op choice s, guard op choice s → guard' op choice s) {a : Action χ Call}
    (hmeets : Meets guard w a) : Meets guard' w a := by
  cases a with
  | start => trivial
  | step i choice =>
    simp only [Meets] at hmeets ⊢
    split at hmeets
    next c op next hproc => exact h op choice w.store hmeets
    next => trivial

theorem Guarded.mono (h : ∀ op choice s, guard op choice s → guard' op choice s) :
    ∀ {as : List (Action χ Call)} {w : World σ Call ρ Op Reply},
      M.Guarded guard w as → M.Guarded guard' w as
  | [], _, _ => trivial
  | _ :: _, _, hguards => ⟨hguards.1.mono h, fun w' hstep => (hguards.2 w' hstep).mono h⟩

variable {as : List (Action χ Call)} {w' : World σ Call ρ Op Reply}

/-- What every operation keeps holds wherever one is performed, and at the end. -/
theorem Guarded.kept {I : σ → Prop}
    (hstep : ∀ op choice s reply t, I s → guard op choice s →
      M.exec op choice s = some (reply, t) → I t)
    (hw : I w.store) (hguards : M.Guarded guard w as) (hrun : M.run w as = some w') :
    M.Guarded (fun op choice s => I s ∧ guard op choice s) w as ∧ I w'.store := by
  have hpreserved : M.Preserved I guard (fun op choice s => I s ∧ guard op choice s)
      (fun _ _ => True) fun _ _ _ => True :=
    { refl := fun _ => trivial
      start := fun _ _ => trivial
      own := fun hs _ hguard hop =>
        ⟨⟨hs, hguard⟩, hstep _ _ _ _ _ hs hguard hop, trivial, trivial⟩
      others := fun _ _ _ => trivial }
  obtain ⟨hmeets, -, hlast, -⟩ := hpreserved.run hw (fun _ _ => trivial) hguards hrun
  exact ⟨hmeets, hlast⟩

/-- What every operation satisfies relates the stores around every decision. -/
theorem Guarded.everyStep {R : σ → σ → Prop} (hrefl : ∀ s, R s s)
    (hstep : ∀ op choice s reply t, guard op choice s → M.exec op choice s = some (reply, t) →
      R s t) (hguards : M.Guarded guard w as) (hrun : M.run w as = some w') :
    M.EveryStep R w as := by
  have hpreserved : M.Preserved (fun _ => True) guard guard R fun _ _ _ => True :=
    { refl := hrefl
      start := fun _ _ => trivial
      own := fun _ _ hguard hop => ⟨hguard, trivial, hstep _ _ _ _ _ hguard hop, trivial⟩
      others := fun _ _ _ => trivial }
  exact (hpreserved.run trivial (fun _ _ => trivial) hguards hrun).2.1

end Machine

/-! ## Sound programs -/

/-- Which operations are justified, what holds of stores, and how they may change. -/
structure Discipline (M : Machine σ χ Call ρ Op Reply) where
  justified : Op → σ → Prop
  invariant : σ → Prop
  rely : σ → σ → Prop
  refl : ∀ s, rely s s
  trans : ∀ {s t u}, rely s t → rely t u → rely s u

namespace Discipline

variable {M : Machine σ χ Call ρ Op Reply} (D : Discipline M)
variable {post : α → σ → Prop} {s : σ} {Q : α → Prop}

/-- Whatever the others do, every operation is justified where it is performed, and the program ends
with its postcondition. -/
def Sound (post : α → σ → Prop) : Program Op Reply α → σ → Prop
  | .done result, s => post result s
  | .call op next, s => ∀ t, D.rely s t → D.invariant t → D.justified op t ∧
      ∀ choice reply u, M.exec op choice t = some (reply, u) → D.invariant u → D.rely t u →
        Sound post (next reply) u

/-- Soundness of a program that establishes something only when it succeeds. -/
def SoundOk (post : α → σ → Prop) (p : Program Op Reply (Except ε α)) (s : σ) : Prop :=
  D.Sound (fun result t => ∀ value, result = .ok value → post value t) p s

variable {D}

/-- The first operation is justified, and the rest is sound wherever it leads. -/
theorem Sound.call {op : Op} {next : Reply op → Program Op Reply α}
    (hop : ∀ t, D.rely s t → D.invariant t → D.justified op t)
    (hnext : ∀ t choice reply u, D.rely s t → D.invariant t →
      M.exec op choice t = some (reply, u) → D.invariant u → D.rely s u →
      D.Sound post (next reply) u) : D.Sound post (.call op next) s := by
  intro t ht hinv
  refine ⟨hop t ht hinv, ?_⟩
  intro choice reply u hexec hu hrely
  exact hnext t choice reply u ht hinv hexec hu (D.trans ht hrely)

/-- What the first program establishes starts the second, as the store may change. -/
theorem Sound.bind {mid : α → σ → Prop} {post : β → σ → Prop} {f : α → Program Op Reply β} :
    ∀ {p : Program Op Reply α} {s : σ},
      (∀ result t, D.rely s t → mid result t → D.Sound post (f result) t) → D.Sound mid p s →
      D.Sound post (p >>= f) s
  | .done result, s, hf, hp => hf result s (D.refl s) hp
  | .call _ _, _, hf, hp => fun t ht hinv =>
    ⟨(hp t ht hinv).1, fun choice reply u hexec hu hrely =>
      Sound.bind (fun result v hv => hf result v (D.trans (D.trans ht hrely) hv))
        ((hp t ht hinv).2 choice reply u hexec hu hrely)⟩

/-- A weaker postcondition, given how the store may have changed. -/
theorem Sound.mono {post' : α → σ → Prop} {p : Program Op Reply α}
    (h : ∀ result t, D.rely s t → post result t → post' result t) (hp : D.Sound post p s) :
    D.Sound post' p s :=
  p.bind_pure ▸ Sound.bind h hp

/-- A program whose operations are justified everywhere is sound. -/
theorem Sound.of_performs :
    ∀ {p : Program Op Reply α} {s : σ}, p.Performs (fun op => ∀ t, D.justified op t) → p.Returns Q →
      D.Sound (fun result _ => Q result) p s
  | .done _, _, _, hret => hret
  | .call _ _, _, hperf, hret => fun t _ _ =>
    ⟨hperf.1 t, fun _ reply _ _ _ _ => Sound.of_performs (hperf.2 reply) (hret reply)⟩

/-- Operations that are justified everywhere. -/
theorem Sound.trivial_of_performs {p : Program Op Reply α}
    (hperf : p.Performs fun op => ∀ t, D.justified op t) : D.Sound (fun _ _ => True) p s :=
  Sound.of_performs hperf (Program.Returns.trivial p)

theorem SoundOk.ok {value : α} (h : post value s) :
    D.SoundOk post (.done (.ok value) : Program Op Reply (Except ε α)) s := by
  rintro _ ⟨⟩
  exact h

theorem SoundOk.error (failure : ε) (s : σ) :
    D.SoundOk post (.done (.error failure) : Program Op Reply (Except ε α)) s := by
  rintro _ ⟨⟩

theorem SoundOk.andThen {mid : α → σ → Prop} {post : β → σ → Prop}
    {p : Program Op Reply (Except ε α)} {f : α → Program Op Reply (Except ε β)}
    (hp : D.SoundOk mid p s) (hf : ∀ value t, D.rely s t → mid value t → D.SoundOk post
    (f value) t) :
    D.SoundOk post (p.andThen f) s := by
  refine Sound.bind ?_ hp
  intro result t hrely hmid
  cases result with
  | ok value => exact hf value t hrely (hmid value rfl)
  | error failure => exact SoundOk.error failure t

/-- A stage whose operations are justified everywhere. -/
theorem SoundOk.of_performs {p : Program Op Reply (Except ε α)}
    (hperf : p.Performs fun op => ∀ t, D.justified op t) (hret : p.ReturnsOk Q) :
    D.SoundOk (fun value _ => Q value) p s :=
  Sound.of_performs hperf hret

variable (D)

/-- Justified operations that meet the guard keep the invariant. -/
def Keeps (guard : Op → χ → σ → Prop) : Prop :=
  ∀ op choice s reply t, D.invariant s → D.justified op s → guard op choice s →
    M.exec op choice s = some (reply, t) → D.invariant t ∧ D.rely s t

/-- Every call is a sound program, and what it establishes lasts. -/
structure Governs (post : Call → ρ → σ → Prop) : Prop where
  body : ∀ c s, D.invariant s → M.admits c s = true → D.Sound (post c) (M.body c) s
  stable : ∀ c result s t, post c result s → D.rely s t → post c result t

/-- Every process of a world is sound from the current store on. -/
def AllSound (post : Call → ρ → σ → Prop) (w : World σ Call ρ Op Reply) : Prop :=
  ∀ p ∈ w.processes, D.Sound (post p.1) p.2 w.store

variable {D}

/-- A sound program stays so when the store changes as allowed. -/
theorem Sound.stable {post : ρ → σ → Prop} {p : Program Op Reply ρ} {t : σ}
    (hsound : D.Sound post p s) (hrely : D.rely s t)
    (hpost : ∀ result s t, post result s → D.rely s t → post result t) : D.Sound post p t := by
  cases p with
  | done result => exact hpost result s t hsound hrely
  | call => exact fun u hu => hsound u (D.trans hrely hu)

section

variable {guard : Op → χ → σ → Prop} {post : Call → ρ → σ → Prop} (hkeeps : D.Keeps guard)
  (hgoverns : D.Governs post)
include hkeeps hgoverns

/-- Operations of sound programs leave all processes sound. -/
theorem preserved :
    M.Preserved D.invariant guard
      (fun op choice s => D.invariant s ∧ D.justified op s ∧ guard op choice s) D.rely
      fun c p s => D.Sound (post c) p s where
  refl := D.refl
  start hs hadmits := hgoverns.body _ _ hs hadmits
  own hs hsound hguard hop := by
    obtain ⟨hjust, hnext⟩ := hsound _ (D.refl _) hs
    obtain ⟨ht, hrely⟩ := hkeeps _ _ _ _ _ hs hjust hguard hop
    exact ⟨⟨hs, hjust, hguard⟩, ht, hrely, hnext _ _ _ hop ht hrely⟩
  others hsound hrely _ := hsound.stable hrely (hgoverns.stable _)

/-- In a run that starts without processes every operation of sound programs is justified, and
finished programs have established their postconditions. -/
theorem run_justified_initial {as : List (Action χ Call)}
    (hs : D.invariant s) (hguards : M.Guarded guard (Machine.initial s) as)
    (hrun : M.run (Machine.initial s) as = some w) :
    M.Guarded (fun op choice s => D.invariant s ∧ D.justified op s ∧ guard op choice s)
        (Machine.initial s) as ∧ D.invariant w.store ∧ D.AllSound post w := by
  obtain ⟨hjust, -, hlast⟩ := (preserved hkeeps hgoverns).run hs (by rintro p ⟨⟩) hguards hrun
  exact ⟨hjust, hlast⟩

end

end Discipline

end StoreProgram
