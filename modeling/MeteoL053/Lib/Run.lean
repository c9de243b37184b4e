import Mathlib.Data.Nat.Find
import Mathlib.Logic.Function.Iterate
import MeteoL053.Lib.Prog

/-!
Runs of a program against an environment.

A handler answers every call from a state it keeps, so a run is a function of
the program and of that state; `none` is a program that hangs.
-/

namespace CallTree

variable {C : Type} {R : C → Type} {α β σ : Type}

/-- Answers to the calls, and the state after each. -/
abbrev Handler (C : Type) (R : C → Type) (σ : Type) := σ → (c : C) → R c × σ

namespace Prog

/-- What the program returns and the state it leaves. -/
def run (h : Handler C R σ) : Prog C R α → σ → Option (α × σ)
  | ret a, s => some (a, s)
  | call c k, s => (k (h s c).1).run h (h s c).2
  | hang, _ => none

variable {h : Handler C R σ}

@[simp] theorem run_ret (a : α) (s : σ) : (ret a : Prog C R α).run h s = some (a, s) := rfl

@[simp] theorem run_hang (s : σ) : (hang : Prog C R α).run h s = none := rfl

@[simp] theorem run_call (c : C) (k : R c → Prog C R α) (s : σ) :
    (call c k).run h s = (k (h s c).1).run h (h s c).2 := rfl

@[simp] theorem run_perform (c : C) (s : σ) : (perform c).run h s = some (h s c) := rfl

theorem run_bind (p : Prog C R α) (f : α → Prog C R β) (s : σ) :
    (p >>= f).run h s = (p.run h s).bind fun x => (f x.1).run h x.2 := by
  induction p generalizing s with
  | ret a => rfl
  | call c k ih => exact ih _ _
  | hang => rfl

/-- A called program is used through what its run was proved to be. -/
theorem run_bind_of {p : Prog C R α} {s s' : σ} {a : α} (hp : p.run h s = some (a, s'))
    (f : α → Prog C R β) : (p >>= f).run h s = (f a).run h s' := by
  rw [run_bind, hp]
  rfl

/-- The program ends, with a result and a state in `Q`. -/
def Ends (h : Handler C R σ) (p : Prog C R α) (s : σ) (Q : α → σ → Prop) : Prop :=
  ∃ a s', p.run h s = some (a, s') ∧ Q a s'

variable {s : σ} {Q : α → σ → Prop}

theorem ends_step {c : C} {k : R c → Prog C R α} (hk : (k (h s c).1).Ends h (h s c).2 Q) :
    (perform c >>= k).Ends h s Q := hk

theorem ends_bind {p : Prog C R β} {f : β → Prog C R α}
    (hp : p.Ends h s fun b s' => (f b).Ends h s' Q) : (p >>= f).Ends h s Q := by
  obtain ⟨b, s', hrun, a, s'', hrest, hQ⟩ := hp
  exact ⟨a, s'', (run_bind_of hrun f).trans hrest, hQ⟩

/-- No branch of the program hangs. -/
def Total : Prog C R α → Prop
  | ret _ => True
  | call _ k => ∀ r, (k r).Total
  | hang => False

theorem total_bind {p : Prog C R α} {f : α → Prog C R β} (hp : p.Total)
    (hf : ∀ a, (f a).Total) : (p >>= f).Total := by
  induction p with
  | ret a => exact hf a
  | call c k ih => exact fun r => ih r (hp r)
  | hang => exact hp.elim

theorem Total.exists_run {p : Prog C R α} (hp : p.Total) (h : Handler C R σ) (s : σ) :
    ∃ y, p.run h s = some y := by
  induction p generalizing s with
  | ret a => exact ⟨(a, s), rfl⟩
  | call c k ih => exact ih (h s c).1 (hp _) (h s c).2
  | hang => exact hp.elim

/-- What follows a program and cannot hang does not matter to whether it ends. -/
theorem exists_run_bind_iff {p : Prog C R α} {f : α → Prog C R β} (hf : ∀ a, (f a).Total)
    {h : Handler C R σ} {s : σ} :
    (∃ y, (p >>= f).run h s = some y) ↔ ∃ x, p.run h s = some x := by
  constructor
  · rintro ⟨y, hy⟩
    rw [run_bind] at hy
    obtain ⟨x, hx, -⟩ := Option.bind_eq_some_iff.mp hy
    exact ⟨x, hx⟩
  · rintro ⟨⟨a, s'⟩, hx⟩
    rw [run_bind_of hx]
    exact (hf a).exists_run h s'

/-- **Runs and monitors.** When the code behind every call answers as the monitor
expects, a run of a program over that code ends where the program follows the
monitor to. -/
theorem run_inline_of_wp {C' Φ : Type} {R' : C' → Type} {M : Monitor C R Φ}
    {code : (c : C) → Prog C' R' (R c)} {h : Handler C' R' σ}
    (hcode : ∀ φ c s r s', (code c).run h s = some (r, s') → M.answers φ c r)
    {p : Prog C R α} {φ : Φ} {Q : α → Φ → Prop} (hp : p.wp M φ Q) {s s' : σ} {a : α}
    (hrun : (p.inline code).run h s = some (a, s')) : ∃ φ', Q a φ' := by
  induction p generalizing φ s with
  | ret b =>
    cases hrun
    exact ⟨φ, hp⟩
  | call c k ih =>
    change (code c >>= fun r => (k r).inline code).run h s = _ at hrun
    rw [run_bind] at hrun
    obtain ⟨⟨r, s₁⟩, hr, hrest⟩ := Option.bind_eq_some_iff.mp hrun
    exact ih r (hp.2 r (hcode φ c s r s₁ hr)) hrest
  | hang => cases hrun

end Prog

/-! ## Loops of blocks -/

section Blocks

variable {L : Type} (h : Handler C R σ) (body : L → Prog C R L) (stay : L → Bool)

/-- `n` blocks one after the other, all of which end at a label of `stay`. -/
def runWhile : Nat → L → σ → Option (L × σ)
  | 0, l, s => some (l, s)
  | n + 1, l, s =>
    match (body l).run h s with
    | some (l', s') => if stay l' then runWhile n l' s' else none
    | none => none

/-- After some blocks within `stay` a block leaves it for `l'`. -/
def Leaves (l : L) (s : σ) (l' : L) (s' : σ) : Prop :=
  ∃ n l₁ s₁, runWhile h body stay n l s = some (l₁, s₁) ∧
    (body l₁).run h s₁ = some (l', s') ∧ stay l' = false

variable {h body stay} {l l₁ l' : L} {s s₁ s' : σ}

theorem runWhile_succ (n : Nat) (hrun : (body l).run h s = some (l₁, s₁))
    (hstay : stay l₁ = true) :
    runWhile h body stay (n + 1) l s = runWhile h body stay n l₁ s₁ := by
  simp only [runWhile, hrun, hstay, if_true]

/-- The first of several blocks. -/
theorem exists_of_runWhile_succ {n : Nat} {x : L × σ}
    (hn : runWhile h body stay (n + 1) l s = some x) :
    ∃ l₁ s₁, (body l).run h s = some (l₁, s₁) ∧ stay l₁ = true ∧
      runWhile h body stay n l₁ s₁ = some x := by
  unfold runWhile at hn
  split at hn
  · next l₁ s₁ hrun =>
    split at hn
    · next hstay => exact ⟨l₁, s₁, hrun, hstay, hn⟩
    · cases hn
  · cases hn

theorem runWhile_add {m : Nat} (n : Nat) (hm : runWhile h body stay m l s = some (l₁, s₁)) :
    runWhile h body stay (m + n) l s = runWhile h body stay n l₁ s₁ := by
  induction m generalizing l s with
  | zero =>
    cases hm
    rw [Nat.zero_add]
  | succ m ih =>
    obtain ⟨l₂, s₂, hrun, hstay, hm⟩ := exists_of_runWhile_succ hm
    rw [Nat.succ_add, runWhile_succ (m + n) hrun hstay, ih hm]

/-- Blocks within `stay` are blocks within any larger set of labels. -/
theorem runWhile_mono {wider : L → Bool} (hsub : ∀ x, stay x = true → wider x = true) {n : Nat}
    {x : L × σ} (hn : runWhile h body stay n l s = some x) :
    runWhile h body wider n l s = some x := by
  induction n generalizing l s with
  | zero => exact hn
  | succ n ih =>
    obtain ⟨l₁, s₁, hrun, hstay, hn⟩ := exists_of_runWhile_succ hn
    rw [runWhile_succ n hrun (hsub _ hstay), ih hn]

/-- One block more. -/
theorem runWhile_snoc {n : Nat} (hn : runWhile h body stay n l s = some (l₁, s₁))
    (hrun : (body l₁).run h s₁ = some (l', s')) (hstay : stay l' = true) :
    runWhile h body stay (n + 1) l s = some (l', s') := by
  rw [runWhile_add 1 hn, runWhile_succ 0 hrun hstay]
  rfl

/-- The last of several blocks. -/
theorem exists_of_runWhile_snoc {n : Nat} (hn : runWhile h body stay (n + 1) l s = some (l', s')) :
    ∃ l₁ s₁, runWhile h body stay n l s = some (l₁, s₁) ∧ (body l₁).run h s₁ = some (l', s') ∧
      stay l' = true := by
  induction n generalizing l s with
  | zero =>
    obtain ⟨l₁, s₁, hrun, hstay, hrest⟩ := exists_of_runWhile_succ hn
    cases hrest
    exact ⟨l, s, rfl, hrun, hstay⟩
  | succ n ih =>
    obtain ⟨l₁, s₁, hrun, hstay, hrest⟩ := exists_of_runWhile_succ hn
    obtain ⟨l₂, s₂, hbefore, hlast⟩ := ih hrest
    exact ⟨l₂, s₂, (runWhile_succ n hrun hstay).trans hbefore, hlast⟩

/-- What is left of a run after some of its blocks. -/
theorem Leaves.of_runWhile {n : Nat} (hl : Leaves h body stay l s l' s')
    (hn : runWhile h body stay n l s = some (l₁, s₁)) : Leaves h body stay l₁ s₁ l' s' := by
  obtain ⟨m, l₂, s₂, hm, hrun, hl'⟩ := hl
  rcases Nat.lt_or_ge m n with hlt | hge
  · -- the block that leaves is not the last of the `n`
    obtain ⟨k, rfl⟩ := Nat.exists_eq_add_of_lt hlt
    rw [Nat.add_assoc, runWhile_add (k + 1) hm] at hn
    obtain ⟨l₃, s₃, hrun', hstay, -⟩ := exists_of_runWhile_succ hn
    cases hrun.symm.trans hrun'
    cases hl'.symm.trans hstay
  · obtain ⟨k, rfl⟩ := Nat.exists_eq_add_of_le hge
    rw [runWhile_add k hn] at hm
    exact ⟨k, l₂, s₂, hm, hrun, hl'⟩

end Blocks

/-! ## Loops with fuel -/

section Fuel

variable {L : Type}

/-- Turns of a loop until one exits; with too little fuel it hangs. -/
def repeatUntil (turn : L → Prog C R (L ⊕ α)) : Nat → L → Prog C R α
  | 0, _ => .hang
  | n + 1, l => turn l >>= fun
    | .inl l' => repeatUntil turn n l'
    | .inr a => .ret a

/-- Every turn ends: it exits with `exit`, or goes on with `next`. -/
def TurnsBy (h : Handler C R σ) (turn : L → Prog C R (L ⊕ α)) (exit : L × σ → Option (α × σ))
    (next : L × σ → L × σ) : Prop :=
  ∀ l s, (turn l).run h s =
    match exit (l, s) with
    | some (a, s') => some (.inr a, s')
    | none => some (.inl (next (l, s)).1, (next (l, s)).2)

variable {h : Handler C R σ} {turn : L → Prog C R (L ⊕ α)} {exit : L × σ → Option (α × σ)}
  {next : L × σ → L × σ}

theorem repeatUntil_run_exit (ht : TurnsBy h turn exit next) {n : Nat} {l : L} {s : σ}
    {y : α × σ} (he : exit (l, s) = some y) : (repeatUntil turn (n + 1) l).run h s = some y := by
  have hrun := ht l s
  rw [he] at hrun
  rw [repeatUntil, Prog.run_bind_of hrun]
  rfl

theorem repeatUntil_run_next (ht : TurnsBy h turn exit next) {n : Nat} {l : L} {s : σ}
    (he : exit (l, s) = none) :
    (repeatUntil turn (n + 1) l).run h s =
      (repeatUntil turn n (next (l, s)).1).run h (next (l, s)).2 := by
  have hrun := ht l s
  rw [he] at hrun
  rw [repeatUntil, Prog.run_bind_of hrun]

/-- The loop ends with enough fuel if and only if some turn exits, and its
result is that of the first one. -/
theorem repeatUntil_run_iff (ht : TurnsBy h turn exit next) {n : Nat} {l : L} {s : σ}
    {y : α × σ} :
    (repeatUntil turn n l).run h s = some y ↔
      ∃ k, k < n ∧ (∀ j, j < k → exit (next^[j] (l, s)) = none) ∧
        exit (next^[k] (l, s)) = some y := by
  induction n generalizing l s with
  | zero =>
    constructor
    · intro hrun
      cases hrun
    · rintro ⟨k, hk, -⟩
      exact absurd hk (Nat.not_lt_zero k)
  | succ n ih =>
    cases he : exit (l, s) with
    | some x =>
      rw [repeatUntil_run_exit ht he]
      constructor
      · intro hx
        exact ⟨0, Nat.succ_pos n, fun j hj => absurd hj (Nat.not_lt_zero j), he.trans hx⟩
      · rintro ⟨k, -, hbefore, hexit⟩
        cases k with
        | zero => exact he.symm.trans hexit
        | succ k => cases he.symm.trans (hbefore 0 (Nat.succ_pos k))
    | none =>
      rw [repeatUntil_run_next ht he, ih]
      constructor
      · rintro ⟨k, hk, hbefore, hexit⟩
        refine ⟨k + 1, Nat.succ_lt_succ hk, ?_, hexit⟩
        intro j hj
        cases j with
        | zero => exact he
        | succ j => exact hbefore j (Nat.lt_of_succ_lt_succ hj)
      · rintro ⟨k, hk, hbefore, hexit⟩
        cases k with
        | zero => cases he.symm.trans hexit
        | succ k =>
          exact ⟨k, Nat.lt_of_succ_lt_succ hk, fun j hj => hbefore (j + 1) (Nat.succ_lt_succ hj),
            hexit⟩

/-- The turns of a loop without variables. -/
theorem iterate_world (f : σ → σ) (s : σ) (k : Nat) :
    (fun x : Unit × σ => ((), f x.2))^[k] ((), s) = ((), f^[k] s) := by
  induction k generalizing s with
  | zero => rfl
  | succ k ih => exact ih (f s)

/-- The first exit. -/
theorem exists_first_exit {x : L × σ} {k : Nat} (hk : exit (next^[k] x) ≠ none) :
    ∃ k', k' ≤ k ∧ (∀ j, j < k' → exit (next^[j] x) = none) ∧ exit (next^[k'] x) ≠ none := by
  classical
  have hex : ∃ j, exit (next^[j] x) ≠ none := ⟨k, hk⟩
  refine ⟨Nat.find hex, Nat.find_min' hex hk, ?_, Nat.find_spec hex⟩
  intro j hj
  exact Classical.not_not.mp (Nat.find_min hex hj)

end Fuel

end CallTree
