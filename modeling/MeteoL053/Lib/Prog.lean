import Mathlib.Logic.Function.Basic

/-!
Sequential programs as trees of calls, and monitors that watch them.

A program either returns, makes a call and continues with the answer, or hangs
(no return and no further call). What a call does is left to the system the
program runs in (`Lib/Threads.lean`). A monitor is a ghost automaton that
follows the calls of one program; `Prog.wp` says that the monitor allows every
call of the program and where the program leaves it.
-/

namespace CallTree

/-- A program over the calls `C`; a call `c` is answered by an `R c`. -/
inductive Prog (C : Type) (R : C → Type) (α : Type) where
  | ret (a : α)
  | call (c : C) (k : R c → Prog C R α)
  | hang

namespace Prog

variable {C : Type} {R : C → Type} {α β γ : Type}

def bind : Prog C R α → (α → Prog C R β) → Prog C R β
  | ret a, f => f a
  | call c k, f => call c fun r => (k r).bind f
  | hang, _ => hang

instance : Monad (Prog C R) where
  pure := ret
  bind := bind

/-- Every call `c` replaced by the program `h c`. -/
def inline {C' : Type} {R' : C' → Type} (h : (c : C) → Prog C' R' (R c)) :
    Prog C R α → Prog C' R' α
  | ret a => ret a
  | call c k => (h c).bind fun r => (k r).inline h
  | hang => hang

/-- Make one call and return its answer. -/
def perform (c : C) : Prog C R (R c) := call c ret

@[simp] theorem pure_eq (a : α) : (pure a : Prog C R α) = ret a := rfl

@[simp] theorem ret_bind (a : α) (f : α → Prog C R β) : (ret a >>= f) = f a := rfl

@[simp] theorem call_bind (c : C) (k : R c → Prog C R α) (f : α → Prog C R β) :
    (call c k >>= f) = call c fun r => k r >>= f := rfl

@[simp] theorem perform_bind (c : C) (f : R c → Prog C R β) :
    (perform c >>= f) = call c f := rfl

@[simp] theorem bind_assoc (p : Prog C R α) (f : α → Prog C R β) (g : β → Prog C R γ) :
    (p >>= f) >>= g = p >>= fun a => f a >>= g := by
  induction p with
  | ret a => rfl
  | call c k ih => exact congrArg (call c) (funext ih)
  | hang => rfl

theorem bind_ret (p : Prog C R α) : (p >>= ret) = p := by
  induction p with
  | ret a => rfl
  | call c k ih => exact congrArg (call c) (funext ih)
  | hang => rfl

theorem inline_bind {C' : Type} {R' : C' → Type} (h : (c : C) → Prog C' R' (R c))
    (p : Prog C R α) (f : α → Prog C R β) :
    (p >>= f).inline h = (p.inline h >>= fun a => (f a).inline h) := by
  induction p with
  | ret a => rfl
  | call c k ih =>
    have hcall : (call c k).inline h = (h c >>= fun r => (k r).inline h) := rfl
    rw [hcall, bind_assoc, ← funext ih]
    rfl
  | hang => rfl

end Prog

/-- A ghost automaton with phases `Φ`: which calls it allows in a phase, which
answers it expects to them, the phase after the answer, and in which phases the
program may hang. -/
structure Monitor (C : Type) (R : C → Type) (Φ : Type) where
  hangs : Φ → Prop
  allows : Φ → C → Prop
  answers : Φ → (c : C) → R c → Prop
  next : Φ → (c : C) → R c → Φ

namespace Prog

variable {C : Type} {R : C → Type} {α β Φ : Type}

/-- Started in phase `φ`, the program makes only calls the monitor allows, and
when it returns `a` in phase `φ'`, `Q a φ'` holds. -/
def wp (M : Monitor C R Φ) : Prog C R α → Φ → (α → Φ → Prop) → Prop
  | ret a, φ, Q => Q a φ
  | call c k, φ, Q => M.allows φ c ∧ ∀ r, M.answers φ c r → (k r).wp M (M.next φ c r) Q
  | hang, φ, _ => M.hangs φ

variable {M : Monitor C R Φ} {Q Q' : α → Φ → Prop}

@[simp] theorem wp_ret (a : α) (φ : Φ) : (ret a : Prog C R α).wp M φ Q ↔ Q a φ := Iff.rfl

theorem wp_call (c : C) (k : R c → Prog C R α) (φ : Φ) :
    (call c k).wp M φ Q ↔
      M.allows φ c ∧ ∀ r, M.answers φ c r → (k r).wp M (M.next φ c r) Q := Iff.rfl

@[simp] theorem wp_ite (c : Prop) [Decidable c] (p q : Prog C R α) (φ : Φ) :
    (if c then p else q).wp M φ Q ↔ if c then p.wp M φ Q else q.wp M φ Q := by
  split <;> rfl

/-- **One call**, and what follows for each answer. -/
theorem wp_step {c : C} {f : R c → Prog C R α} {φ : Φ} (hc : M.allows φ c)
    (hf : ∀ r, M.answers φ c r → (f r).wp M (M.next φ c r) Q) :
    (perform c >>= f).wp M φ Q := ⟨hc, hf⟩

/-- **Sequencing.** -/
theorem wp_bind (p : Prog C R α) (f : α → Prog C R β) (φ : Φ) (Q : β → Φ → Prop) :
    (p >>= f).wp M φ Q ↔ p.wp M φ fun a φ' => (f a).wp M φ' Q := by
  induction p generalizing φ with
  | ret a => rfl
  | call c k ih =>
    simp only [call_bind, wp_call]
    exact and_congr_right fun _ => forall_congr' fun r => imp_congr_right fun _ => ih r _
  | hang => exact Iff.rfl

/-- **Consequence.** -/
theorem wp_mono (p : Prog C R α) (φ : Φ) (hQ : ∀ a φ', Q a φ' → Q' a φ')
    (h : p.wp M φ Q) : p.wp M φ Q' := by
  induction p generalizing φ with
  | ret a => exact hQ a φ h
  | call c k ih => exact ⟨h.1, fun r hr => ih r _ (h.2 r hr)⟩
  | hang => exact h

/-- A called program is used through what it was proved to do. -/
theorem wp_bind_of (p : Prog C R α) (f : α → Prog C R β) (φ : Φ) {Q' : β → Φ → Prop}
    (hp : p.wp M φ Q) (hf : ∀ a φ', Q a φ' → (f a).wp M φ' Q') :
    (p >>= f).wp M φ Q' :=
  (wp_bind p f φ Q').mpr (wp_mono p φ hf hp)

/-- Every call the program can make is in `P`. -/
def All (P : C → Prop) : Prog C R α → Prop
  | ret _ => True
  | call c k => P c ∧ ∀ r, (k r).All P
  | hang => True

theorem all_step {P : C → Prop} {c : C} {f : R c → Prog C R α} (hc : P c)
    (hf : ∀ r, (f r).All P) : (perform c >>= f).All P := ⟨hc, hf⟩

theorem all_bind {P : C → Prop} {p : Prog C R α} {f : α → Prog C R β} (hp : p.All P)
    (hf : ∀ a, (f a).All P) : (p >>= f).All P := by
  induction p with
  | ret a => exact hf a
  | call c k ih => exact ⟨hp.1, fun r => ih r (hp.2 r)⟩
  | hang => trivial

theorem all_of_forall {P : C → Prop} (h : ∀ c, P c) (p : Prog C R α) : p.All P := by
  induction p with
  | ret a => trivial
  | call c k ih => exact ⟨h c, ih⟩
  | hang => trivial

theorem All.mono {P P' : C → Prop} {p : Prog C R α} (hp : p.All P) (h : ∀ c, P c → P' c) :
    p.All P' := by
  induction p with
  | ret a => trivial
  | call c k ih => exact ⟨h c hp.1, fun r => ih r (hp.2 r)⟩
  | hang => trivial

theorem All.inline {C' : Type} {R' : C' → Type} {P : C → Prop} {P' : C' → Prop}
    {h : (c : C) → Prog C' R' (R c)} {p : Prog C R α} (hp : p.All P)
    (hh : ∀ c, P c → (h c).All P') : (p.inline h).All P' := by
  induction p with
  | ret a => trivial
  | call c k ih => exact all_bind (hh c hp.1) fun r => ih r (hp.2 r)
  | hang => trivial

/-- A program of calls that stay within the phases `I` stays within them. -/
theorem All.wp_within {P : C → Prop} {I : Φ → Prop} {p : Prog C R α} {φ : Φ} (hp : p.All P)
    (hcall : ∀ φ c, I φ → P c → M.allows φ c ∧ ∀ r, M.answers φ c r → I (M.next φ c r))
    (hhang : ∀ φ, I φ → M.hangs φ) (hφ : I φ) : p.wp M φ fun _ φ' => I φ' := by
  induction p generalizing φ with
  | ret a => exact hφ
  | call c k ih =>
    obtain ⟨ha, hnext⟩ := hcall φ c hφ hp.1
    exact ⟨ha, fun r hr => ih r (hp.2 r) (hnext r hr)⟩
  | hang => exact hhang φ hφ

/-- A program of calls that keep the phase keeps the phase. -/
theorem All.wp {P : C → Prop} {p : Prog C R α} {φ : Φ} (hp : p.All P)
    (hcall : ∀ c, P c → M.allows φ c ∧ ∀ r, M.answers φ c r → M.next φ c r = φ)
    (hhang : M.hangs φ) : p.wp M φ fun _ φ' => φ' = φ := by
  refine hp.wp_within (I := fun φ' => φ' = φ) ?_ ?_ rfl
  · rintro _ c rfl hc
    exact hcall c hc
  · rintro _ rfl
    exact hhang

/-- **Inlining.** A program that follows `M` follows `M'` with its calls
replaced if every replacement ends where `M` lets the call itself lead. -/
theorem wp_inline_of {C' : Type} {R' : C' → Type} {M' : Monitor C' R' Φ}
    {h : (c : C) → Prog C' R' (R c)} (hhang : ∀ φ, M.hangs φ → M'.hangs φ)
    (hh : ∀ φ c, M.allows φ c →
      (h c).wp M' φ fun r φ' => M.answers φ c r ∧ φ' = M.next φ c r)
    (p : Prog C R α) (φ : Φ) (hp : p.wp M φ Q) : (p.inline h).wp M' φ Q := by
  induction p generalizing φ with
  | ret a => exact hp
  | call c k ih =>
    apply wp_bind_of (h c) (fun r => (k r).inline h) φ (hh φ c hp.1)
    rintro r φ' ⟨hr, rfl⟩
    exact ih r _ (hp.2 r hr)
  | hang => exact hhang φ hp

/-- A program whose calls are replaced by programs that keep the phase keeps it. -/
theorem All.wp_inline {C' : Type} {R' : C' → Type} {M' : Monitor C' R' Φ} {P : C → Prop}
    {h : (c : C) → Prog C' R' (R c)} {p : Prog C R α} {φ : Φ} (hp : p.All P)
    (hh : ∀ c, P c → (h c).wp M' φ fun _ φ' => φ' = φ) (hhang : M'.hangs φ) :
    (p.inline h).wp M' φ fun _ φ' => φ' = φ := by
  induction p with
  | ret a => rfl
  | call c k ih =>
    apply wp_bind_of (h c) (fun r => (k r).inline h) φ (hh c hp.1)
    rintro r _ rfl
    exact ih r (hp.2 r)
  | hang => exact hhang

theorem wp_inline {h : (c : C) → Prog C R (R c)}
    (hh : ∀ φ c, M.allows φ c →
      (h c).wp M φ fun r φ' => M.answers φ c r ∧ φ' = M.next φ c r)
    (p : Prog C R α) (φ : Φ) (hp : p.wp M φ Q) : (p.inline h).wp M φ Q :=
  wp_inline_of (fun _ h => h) hh p φ hp

end Prog

end CallTree
