import MeteoL053.Lib.Prog

/-!
Threads that interleave over a shared state.

A thread runs blocks of code: the program of a block returns the label of the
block to run next, so a loop is a block that returns its own label. One step
of the system lets one thread make one call, with any answer the system deems
possible in the current shared state. `Reachable.invariant` is the rule the
invariants of a system are proved with: every block follows its thread's
monitor, and every call a monitor allows keeps the global invariant.
-/

namespace CallTree

/-- An update that keeps `f` is not seen through `f`. -/
theorem apply_update_same {τ α β : Type} [DecidableEq τ] (f : α → β) {g : τ → α} {t : τ} {x : α}
    (e : f x = f (g t)) (u : τ) : f (Function.update g t x u) = f (g u) := by
  by_cases hu : u = t
  · rw [hu, Function.update_self, e]
  · rw [Function.update_of_ne hu]

theorem comp_update_same {τ α β : Type} [DecidableEq τ] (f : α → β) {g : τ → α} {t : τ} {x : α}
    (e : f x = f (g t)) : f ∘ Function.update g t x = f ∘ g :=
  funext (apply_update_same f e)

/-- What the update does not bring in was there before. -/
theorem of_update {τ α : Type} [DecidableEq τ] (g : τ → α) (P : τ → α → Prop) {t u : τ} {x : α}
    (h : P t x → P t (g t)) (hu : P u (Function.update g t x u)) : P u (g u) := by
  by_cases e : u = t
  · subst e
    rw [Function.update_self] at hu
    exact h hu
  · rwa [Function.update_of_ne e] at hu

/-- What the update keeps is there after it. -/
theorem to_update {τ α : Type} [DecidableEq τ] (g : τ → α) (P : τ → α → Prop) {t u : τ} {x : α}
    (h : P t (g t) → P t x) (hu : P u (g u)) : P u (Function.update g t x u) := by
  by_cases e : u = t
  · subst e
    rw [Function.update_self]
    exact h hu
  · rwa [Function.update_of_ne e]

/-- Threads `τ` with blocks labelled by `L` over a shared state `σ`. -/
structure System (τ C : Type) (R : C → Type) (L σ : Type) where
  body : τ → L → Prog C R L
  possible : τ → σ → (c : C) → R c → Prop
  effect : τ → σ → (c : C) → R c → σ

/-- The shared state and what each thread has still to run. -/
structure Pool (τ C : Type) (R : C → Type) (L σ : Type) where
  shared : σ
  prog : τ → Prog C R L

/-- Thread `t` stands before the call `c`. -/
def Pool.AboutTo {τ C : Type} {R : C → Type} {L σ : Type} (p : Pool τ C R L σ) (t : τ) (c : C) :
    Prop :=
  ∃ k, p.prog t = .call c k

/-- The call thread `t` stands before. -/
def Pool.nextCall {τ C : Type} {R : C → Type} {L σ : Type} (p : Pool τ C R L σ) (t : τ) :
    Option C :=
  match p.prog t with
  | .call c _ => some c
  | _ => none

theorem Pool.aboutTo_of_nextCall {τ C : Type} {R : C → Type} {L σ : Type} {p : Pool τ C R L σ}
    {t : τ} {c : C} (h : p.nextCall t = some c) : p.AboutTo t c := by
  unfold nextCall at h
  split at h
  · next c' k hk =>
    cases h
    exact ⟨k, hk⟩
  · cases h

/-- A call that a thread stands before is allowed. -/
theorem Pool.AboutTo.allows {τ C : Type} {R : C → Type} {L σ Φ : Type} {p : Pool τ C R L σ} {t : τ}
    {c : C} {M : Monitor C R Φ} {φ : Φ} {Q : L → Φ → Prop} (hc : p.AboutTo t c)
    (hwp : (p.prog t).wp M φ Q) : M.allows φ c := by
  obtain ⟨k, hk⟩ := hc
  rw [hk] at hwp
  exact hwp.1

/-- The block thread `t` enters next. -/
def Pool.nextBlock {τ C : Type} {R : C → Type} {L σ : Type} (p : Pool τ C R L σ) (t : τ) :
    Option L :=
  match p.prog t with
  | .ret l => some l
  | _ => none

theorem Pool.prog_of_nextBlock {τ C : Type} {R : C → Type} {L σ : Type} {p : Pool τ C R L σ}
    {t : τ} {l : L} (h : p.nextBlock t = some l) : p.prog t = .ret l := by
  unfold nextBlock at h
  split at h
  · next l' hl =>
    cases h
    exact hl
  · cases h

namespace System

variable {τ C : Type} {R : C → Type} {L σ Φ : Type} [DecidableEq τ]

/-- One step of one thread: it enters its next block, or it makes a call. -/
inductive Step (S : System τ C R L σ) : Pool τ C R L σ → Pool τ C R L σ → Prop where
  | enter (p : Pool τ C R L σ) (t : τ) (l : L) (h : p.prog t = .ret l) :
      Step S p ⟨p.shared, Function.update p.prog t (S.body t l)⟩
  | call (p : Pool τ C R L σ) (t : τ) (c : C) (k : R c → Prog C R L) (r : R c)
      (h : p.prog t = .call c k) (hr : S.possible t p.shared c r) :
      Step S p ⟨S.effect t p.shared c r, Function.update p.prog t (k r)⟩

/-- Reachable from `p₀` by any interleaving. -/
inductive Reachable (S : System τ C R L σ) (p₀ : Pool τ C R L σ) : Pool τ C R L σ → Prop where
  | start : Reachable S p₀ p₀
  | step {p q : Pool τ C R L σ} (h : Reachable S p₀ p) (hs : Step S p q) : Reachable S p₀ q

/-- The runs of `S` all of whose calls meet the condition `G`. -/
def restrict (S : System τ C R L σ) (G : τ → σ → (c : C) → R c → Prop) : System τ C R L σ :=
  { S with possible := fun t s c r => S.possible t s c r ∧ G t s c r }

/-- Every thread is somewhere in a block that follows its monitor, in a phase
that the global invariant `J` ties to the shared state. -/
def Inv (M : τ → Monitor C R Φ) (Q : τ → L → Φ → Prop) (J : (τ → Φ) → σ → Prop)
    (p : Pool τ C R L σ) : Prop :=
  ∃ ph : τ → Φ, (∀ t, (p.prog t).wp (M t) (ph t) (Q t)) ∧ J ph p.shared

variable {S : System τ C R L σ} {M : τ → Monitor C R Φ} {Q : τ → L → Φ → Prop}
  {J : (τ → Φ) → σ → Prop} {p₀ p q : Pool τ C R L σ}

/-- Thread `t` makes a call that keeps the global invariant. -/
theorem inv_call {ph : τ → Φ} {t : τ} {c : C} {k : R c → Prog C R L} {r : R c}
    (hwp : ∀ u, (p.prog u).wp (M u) (ph u) (Q u)) (hk : p.prog t = .call c k)
    (hans : (M t).answers (ph t) c r)
    (hJ : J (Function.update ph t ((M t).next (ph t) c r)) (S.effect t p.shared c r)) :
    Inv M Q J ⟨S.effect t p.shared c r, Function.update p.prog t (k r)⟩ := by
  refine ⟨_, fun u => ?_, hJ⟩
  by_cases hu : u = t
  · subst hu
    have hc := hwp u
    rw [hk] at hc
    simpa using hc.2 r hans
  · simpa [hu] using hwp u

theorem Step.inv (hs : Step S p q)
    (hbody : ∀ t l φ, Q t l φ → (S.body t l).wp (M t) φ (Q t))
    (hcall : ∀ ph s t c r, J ph s → (M t).allows (ph t) c → S.possible t s c r →
      (M t).answers (ph t) c r ∧
        J (Function.update ph t ((M t).next (ph t) c r)) (S.effect t s c r))
    (hp : Inv M Q J p) : Inv M Q J q := by
  obtain ⟨ph, hwp, hJ⟩ := hp
  cases hs with
  | enter t l h =>
    refine ⟨ph, fun u => ?_, hJ⟩
    by_cases hu : u = t
    · subst hu
      have hl := hwp u
      rw [h] at hl
      simpa using hbody u l _ hl
    · simpa [hu] using hwp u
  | call t c k r h hr =>
    have hc := hwp t
    rw [h] at hc
    obtain ⟨hans, hJ'⟩ := hcall ph _ t c r hJ hc.1 hr
    exact inv_call hwp h hans hJ'

/-- **Invariant rule.** -/
theorem Reachable.invariant (h : Reachable S p₀ p)
    (hbody : ∀ t l φ, Q t l φ → (S.body t l).wp (M t) φ (Q t))
    (hcall : ∀ ph s t c r, J ph s → (M t).allows (ph t) c → S.possible t s c r →
      (M t).answers (ph t) c r ∧
        J (Function.update ph t ((M t).next (ph t) c r)) (S.effect t s c r))
    (h₀ : Inv M Q J p₀) : Inv M Q J p := by
  induction h with
  | start => exact h₀
  | step _ hs ih => exact hs.inv hbody hcall ih

/-- What every call keeps, whoever makes it. -/
theorem Reachable.shared_invariant {P : σ → Prop} (h : Reachable S p q) (h₀ : P p.shared)
    (hcall : ∀ t s c r, P s → P (S.effect t s c r)) : P q.shared := by
  induction h with
  | start => exact h₀
  | step _ hs ih =>
    cases hs with
    | enter t l hl => exact ih
    | call t c k r hk hr => exact hcall t _ c r ih

omit [DecidableEq τ] in
/-- The invariant allows the call a thread is about to make. -/
theorem Inv.allows (hp : Inv M Q J p) {t : τ} {c : C} (hc : p.AboutTo t c) :
    ∃ ph : τ → Φ, (M t).allows (ph t) c ∧ J ph p.shared := by
  obtain ⟨ph, hwp, hJ⟩ := hp
  exact ⟨ph, hc.allows (hwp t), hJ⟩

omit [DecidableEq τ] in
theorem Inv.not_hang (hp : Inv M Q J p) {t : τ} (ht : ∀ φ, ¬(M t).hangs φ) :
    p.prog t ≠ .hang := by
  obtain ⟨ph, hwp, -⟩ := hp
  intro hh
  have hw := hwp t
  rw [hh] at hw
  exact ht _ hw

theorem Reachable.after_step {p' : Pool τ C R L σ} (hs : Step S p p') (h : Reachable S p' q) :
    Reachable S p q := by
  induction h with
  | start => exact .step .start hs
  | step _ hs' ih => exact ih.step hs'

theorem Reachable.trans {p' : Pool τ C R L σ} (h : Reachable S p p') (h' : Reachable S p' q) :
    Reachable S p q := by
  induction h' with
  | start => exact h
  | step _ hs ih => exact ih.step hs

/-- **Progress rule.** If every call thread `t` is allowed has a possible answer
and keeps the global invariant, `t` alone can run to the end of its block. -/
theorem Inv.exists_return {t : τ} (hhang : ∀ φ, ¬(M t).hangs φ)
    (hcall : ∀ ph s c r, J ph s → (M t).allows (ph t) c → S.possible t s c r →
      (M t).answers (ph t) c r ∧
        J (Function.update ph t ((M t).next (ph t) c r)) (S.effect t s c r))
    (hlive : ∀ ph s c, J ph s → (M t).allows (ph t) c → ∃ r, S.possible t s c r)
    (hp : Inv M Q J p) : ∃ q l, Reachable S p q ∧ q.prog t = .ret l ∧ Inv M Q J q := by
  -- by induction on what the thread has still to run
  generalize hprog : p.prog t = P
  induction P generalizing p with
  | ret l => exact ⟨p, l, .start, hprog, hp⟩
  | hang => exact absurd hprog (hp.not_hang hhang)
  | call c k ih =>
    obtain ⟨ph, hwp, hJ⟩ := hp
    have ht := hwp t
    rw [hprog] at ht
    obtain ⟨r, hr⟩ := hlive ph p.shared c hJ ht.1
    obtain ⟨hans, hJ'⟩ := hcall ph p.shared c r hJ ht.1 hr
    obtain ⟨q, l, hq, hl, hinv⟩ := ih r (inv_call hwp hprog hans hJ') (Function.update_self ..)
    exact ⟨q, l, hq.after_step (.call p t c k r hprog hr), hl, hinv⟩

/-! ## Runs given call by call -/

/-- What thread `t` runs next: the rest of its block, or the block it enters. -/
def current (S : System τ C R L σ) (p : Pool τ C R L σ) (t : τ) : Prog C R L :=
  match p.prog t with
  | .ret l => S.body t l
  | q => q

theorem Reachable.call_current (h : Reachable S p₀ p) {t : τ} {c : C} {k : R c → Prog C R L}
    {r : R c} (hk : S.current p t = .call c k) (hr : S.possible t p.shared c r) :
    Reachable S p₀ ⟨S.effect t p.shared c r, Function.update p.prog t (k r)⟩ := by
  unfold current at hk
  split at hk
  · next l hl =>
    have hs := Step.call (S := S) ⟨p.shared, Function.update p.prog t (S.body t l)⟩ t c k r
      (by simpa using hk) hr
    rw [Function.update_idem] at hs
    exact (h.step (.enter p t l hl)).step hs
  · exact h.step (.call p t c k r hk hr)

/-- The call thread `t` makes next, in this block or at the start of the next. -/
def currentCall (S : System τ C R L σ) (p : Pool τ C R L σ) (t : τ) : Option C :=
  match S.current p t with
  | .call c _ => some c
  | _ => none

theorem Reachable.exists_aboutTo (h : Reachable S p₀ p) {t : τ} {c : C}
    (hc : S.currentCall p t = some c) :
    ∃ q, Reachable S p₀ q ∧ q.AboutTo t c ∧ q.shared = p.shared := by
  unfold currentCall current at hc
  cases hprog : p.prog t with
  | ret l =>
    refine ⟨⟨p.shared, Function.update p.prog t (S.body t l)⟩, h.step (.enter p t l hprog), ?_, rfl⟩
    simp only [hprog] at hc
    split at hc
    · next c' k hk =>
      cases hc
      exact ⟨k, (Function.update_self ..).trans hk⟩
    · cases hc
  | call c' k =>
    simp only [hprog] at hc
    cases hc
    exact ⟨p, h, ⟨k, hprog⟩, rfl⟩
  | hang =>
    simp only [hprog] at hc
    cases hc

variable [DecidableEq C]

/-- Thread `t` makes the call `c` and is answered `r`; `none` if that is not
what it does next or not a possible answer. -/
def play (S : System τ C R L σ) [∀ t s c r, Decidable (S.possible t s c r)]
    (p : Pool τ C R L σ) (t : τ) (c : C) (r : R c) : Option (Pool τ C R L σ) :=
  match S.current p t with
  | .call c' k =>
    if h : c = c' then
      if S.possible t p.shared c' (h ▸ r) then
        some ⟨S.effect t p.shared c' (h ▸ r), Function.update p.prog t (k (h ▸ r))⟩
      else none
    else none
  | _ => none

def playAll (S : System τ C R L σ) [∀ t s c r, Decidable (S.possible t s c r)]
    (p : Pool τ C R L σ) : List (τ × (c : C) × R c) → Option (Pool τ C R L σ)
  | [] => some p
  | (t, ⟨c, r⟩) :: rest => (S.play p t c r).bind fun q => S.playAll q rest

theorem Reachable.play [∀ t s c r, Decidable (S.possible t s c r)] (h : Reachable S p₀ p)
    {t : τ} {c : C} {r : R c} (hq : S.play p t c r = some q) : Reachable S p₀ q := by
  unfold System.play at hq
  split at hq
  · next c' k hk =>
    split at hq
    · next hc =>
      subst hc
      split at hq
      · next hr =>
        cases hq
        exact h.call_current hk hr
      · cases hq
    · cases hq
  · cases hq

/-- A run that plays to its end is a run of the system. -/
theorem Reachable.playAll [∀ t s c r, Decidable (S.possible t s c r)]
    (calls : List (τ × (c : C) × R c)) (h : Reachable S p₀ p)
    (hq : S.playAll p calls = some q) : Reachable S p₀ q := by
  induction calls generalizing p with
  | nil => cases hq; exact h
  | cons e rest ih =>
    obtain ⟨t, c, r⟩ := e
    simp only [System.playAll, Option.bind_eq_some_iff] at hq
    obtain ⟨p', hp', hq⟩ := hq
    exact ih (h.play hp') hq

theorem Reachable.exists_of_playAll (S : System τ C R L σ)
    [∀ t s c r, Decidable (S.possible t s c r)] (p₀ : Pool τ C R L σ)
    (calls : List (τ × (c : C) × R c)) {β : Type} (f : Pool τ C R L σ → β) {b : β}
    (h : (S.playAll p₀ calls).map f = some b) : ∃ p, Reachable S p₀ p ∧ f p = b := by
  obtain ⟨p, hp, hb⟩ := Option.map_eq_some_iff.mp h
  exact ⟨p, Reachable.start.playAll calls hp, hb⟩

end System

end CallTree
