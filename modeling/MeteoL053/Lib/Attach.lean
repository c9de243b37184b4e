import MeteoL053.Lib.Threads

/-!
Systems with a further part attached.

An attachment adds a component to the shared state of a system: it may restrict
the answers to calls and changes with each call, and it sees the state it is
attached to. The threads run as before. What was proved of the system is used
again for the system with its attachment (`Reachable.attach_invariant`): both
monitors follow the threads at once.
-/

namespace CallTree

section Monitors

variable {C : Type} {R : C → Type} {α Φ Ψ : Type}

/-- Two monitors at once. -/
def Monitor.prod (M : Monitor C R Φ) (N : Monitor C R Ψ) : Monitor C R (Φ × Ψ) where
  hangs χ := M.hangs χ.1 ∧ N.hangs χ.2
  allows χ c := M.allows χ.1 c ∧ N.allows χ.2 c
  answers χ c r := M.answers χ.1 c r ∧ N.answers χ.2 c r
  next χ c r := (M.next χ.1 c r, N.next χ.2 c r)

theorem Prog.wp_prod {M : Monitor C R Φ} {N : Monitor C R Ψ} {Q : α → Φ → Prop}
    {Q' : α → Ψ → Prop} (p : Prog C R α) {χ : Φ × Ψ} (hM : p.wp M χ.1 Q) (hN : p.wp N χ.2 Q') :
    p.wp (M.prod N) χ fun a χ' => Q a χ'.1 ∧ Q' a χ'.2 := by
  induction p generalizing χ with
  | ret a => exact ⟨hM, hN⟩
  | call c k ih =>
    exact ⟨⟨hM.1, hN.1⟩, fun r hr => ih r (hM.2 r hr.1) (hN.2 r hr.2)⟩
  | hang => exact ⟨hM, hN⟩

end Monitors

/-- A part `δ` beside a state `σ`. -/
structure Attachment (τ C : Type) (R : C → Type) (σ δ : Type) where
  possible : τ → σ → δ → (c : C) → R c → Prop
  effect : τ → σ → δ → (c : C) → R c → δ

namespace System

variable {τ C : Type} {R : C → Type} {L σ δ Φ Ψ : Type} [DecidableEq τ]

def attach (S : System τ C R L σ) (A : Attachment τ C R σ δ) : System τ C R L (σ × δ) where
  body := S.body
  possible t s c r := S.possible t s.1 c r ∧ A.possible t s.1 s.2 c r
  effect t s c r := (S.effect t s.1 c r, A.effect t s.1 s.2 c r)

instance (S : System τ C R L σ) (A : Attachment τ C R σ δ) (t : τ) (s : σ × δ) (c : C) (r : R c)
    [Decidable (S.possible t s.1 c r)] [Decidable (A.possible t s.1 s.2 c r)] :
    Decidable ((S.attach A).possible t s c r) :=
  inferInstanceAs (Decidable (_ ∧ _))

variable {S : System τ C R L σ} {A : Attachment τ C R σ δ} {M : τ → Monitor C R Φ}
  {N : τ → Monitor C R Ψ} {Q : τ → L → Φ → Prop} {Q' : τ → L → Ψ → Prop}
  {J : (τ → Φ) → σ → Prop} {J' : (τ → Φ) → (τ → Ψ) → σ → δ → Prop}
  {p₀ p : Pool τ C R L (σ × δ)}

/-- The invariant of a system and one of its attachment, which may speak about both. -/
def AttachInv (M : τ → Monitor C R Φ) (N : τ → Monitor C R Ψ) (Q : τ → L → Φ → Prop)
    (Q' : τ → L → Ψ → Prop) (J : (τ → Φ) → σ → Prop) (J' : (τ → Φ) → (τ → Ψ) → σ → δ → Prop) :
    Pool τ C R L (σ × δ) → Prop :=
  Inv (fun t => (M t).prod (N t)) (fun t l χ => Q t l χ.1 ∧ Q' t l χ.2)
    fun χ s => J (Prod.fst ∘ χ) s.1 ∧ J' (Prod.fst ∘ χ) (Prod.snd ∘ χ) s.1 s.2

/-- **Invariant rule.** The obligations of the system are those it has alone. -/
theorem Reachable.attach_invariant (h : (S.attach A).Reachable p₀ p)
    (hbody : ∀ t l φ, Q t l φ → (S.body t l).wp (M t) φ (Q t))
    (hcall : ∀ ph s t c r, J ph s → (M t).allows (ph t) c → S.possible t s c r →
      (M t).answers (ph t) c r ∧
        J (Function.update ph t ((M t).next (ph t) c r)) (S.effect t s c r))
    (hbody' : ∀ t l ψ, Q' t l ψ → (S.body t l).wp (N t) ψ (Q' t))
    (hcall' : ∀ ph ps s d t c r, J ph s → J' ph ps s d → (M t).allows (ph t) c →
      (N t).allows (ps t) c → S.possible t s c r → A.possible t s d c r →
      (N t).answers (ps t) c r ∧
        J' (Function.update ph t ((M t).next (ph t) c r))
          (Function.update ps t ((N t).next (ps t) c r)) (S.effect t s c r) (A.effect t s d c r))
    (h₀ : AttachInv M N Q Q' J J' p₀) : AttachInv M N Q Q' J J' p := by
  refine h.invariant (fun t l χ hχ => ?_) (fun χ s t c r hJ ha hr => ?_) h₀
  · exact (S.body t l).wp_prod (hbody t l χ.1 hχ.1) (hbody' t l χ.2 hχ.2)
  · obtain ⟨hans, hJ₁⟩ := hcall _ s.1 t c r hJ.1 ha.1 hr.1
    obtain ⟨hans', hJ₂⟩ := hcall' _ _ s.1 s.2 t c r hJ.1 hJ.2 ha.1 ha.2 hr.1 hr.2
    refine ⟨⟨hans, hans'⟩, ?_, ?_⟩
    · rw [Function.comp_update]
      exact hJ₁
    · rw [Function.comp_update, Function.comp_update]
      exact hJ₂

omit [DecidableEq τ] in
/-- Where every thread is, in both invariants. -/
theorem AttachInv.split (h : AttachInv M N Q Q' J J' p) :
    ∃ ph ps, (∀ t c, p.AboutTo t c → (M t).allows (ph t) c ∧ (N t).allows (ps t) c) ∧
      (∀ t, p.prog t = .hang → (M t).hangs (ph t) ∧ (N t).hangs (ps t)) ∧
      (∀ t l, p.prog t = .ret l → Q t l (ph t) ∧ Q' t l (ps t)) ∧
      J ph p.shared.1 ∧ J' ph ps p.shared.1 p.shared.2 := by
  obtain ⟨χ, hwp, hJ, hJ'⟩ := h
  refine ⟨_, _, ?_, ?_, ?_, hJ, hJ'⟩
  · intro t c hc
    exact hc.allows (hwp t)
  · intro t hhang
    have ht := hwp t
    rw [hhang] at ht
    exact ht
  · intro t l hret
    have ht := hwp t
    rw [hret] at ht
    exact ht

end System

end CallTree
