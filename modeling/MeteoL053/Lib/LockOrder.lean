import Mathlib.Logic.Relation
import MeteoL053.Lib.Lock
import MeteoL053.Lib.Threads

/-!
Locks that threads take in a fixed order, and why such threads do not deadlock.

`Locking` says what each call does to the locks. A thread follows the
discipline (`Allows`) if it takes only locks that rank above all it holds,
releases only what it holds, and holds none when it waits for another thread.
Then the waits of a system have no cycle, and every chain of waits ends at a
thread that does not wait.
-/

namespace LockOrder

open CallTree Lock Relation

/-! ## Waits that lead upwards -/

section Level

variable {τ : Type} {r : τ → τ → Prop} {level : τ → Nat}

theorem not_transGen_self (h : ∀ t u, r t u → level t < level u) (t : τ) : ¬ TransGen r t t := by
  intro hcycle
  have hlt : TransGen (fun m n : Nat => m < n) (level t) (level t) :=
    hcycle.lift level h
  rw [transGen_eq_self] at hlt
  exact Nat.lt_irrefl _ hlt

/-- With levels up to `N` every chain of waits ends. -/
theorem exists_end {N : Nat} (h : ∀ t u, r t u → level t < level u) (hN : ∀ t, level t ≤ N)
    (t : τ) : ∃ u, ReflTransGen r t u ∧ ∀ v, ¬ r u v := by
  -- by induction on what is left above the level of `t`
  obtain ⟨d, hd⟩ : ∃ d, N - level t = d := ⟨_, rfl⟩
  induction d using Nat.strongRecOn generalizing t with
  | ind d ih =>
    by_cases hwaits : ∃ u, r t u
    · obtain ⟨u, hu⟩ := hwaits
      have hlt := h t u hu
      have hle := hN u
      obtain ⟨v, hv, hend⟩ := ih (N - level u) (by omega) u rfl
      exact ⟨v, .head hu hv, hend⟩
    · exact ⟨t, .refl, fun v hv => hwaits ⟨v, hv⟩⟩

end Level

/-! ## What calls do to locks -/

inductive Action (ℓ : Type) where
  /-- wait until the lock is free and take it -/
  | acquire (l : ℓ)
  /-- the same, with a timeout -/
  | attempt (l : ℓ)
  | release (l : ℓ)
  /-- wait for another thread -/
  | meet
  /-- wait for something outside the threads -/
  | alone
  | neutral

/-- The lock an action is about. -/
def Action.lock {ℓ : Type} : Action ℓ → Option ℓ
  | .acquire l | .attempt l | .release l => some l
  | _ => none

/-- A lock is taken when it is free; an attempt may end at any time. -/
def Action.Possible {ℓ : Type} (taken : ℓ → Bool) (got : Bool) : Action ℓ → Prop
  | .acquire l => taken l = false
  | .attempt l => got = true → taken l = false
  | _ => True

instance {ℓ : Type} (taken : ℓ → Bool) (got : Bool) :
    (a : Action ℓ) → Decidable (a.Possible taken got)
  | .acquire _ => inferInstanceAs (Decidable (_ = _))
  | .attempt _ => inferInstanceAs (Decidable (_ = _ → _ = _))
  | .release _ | .meet | .alone | .neutral => isTrue trivial

/-- What each call does, and from its answer whether an attempt succeeded. -/
structure Locking (C : Type) (R : C → Type) (ℓ : Type) where
  action : C → Action ℓ
  got : (c : C) → R c → Bool

/-- The locks; `holds` is a history variable. -/
structure Locks (τ ℓ : Type) where
  taken : ℓ → Bool
  holds : τ → ℓ → Bool

variable {τ ℓ C L σ : Type} {R : C → Type} [DecidableEq ℓ]

section Effects

variable (K : Locking C R ℓ)

/-- The locks that are held, or taken, after a call. -/
def Locking.after (held : ℓ → Bool) (c : C) (r : R c) : ℓ → Bool :=
  match K.action c with
  | .acquire l => Function.update held l true
  | .attempt l => if K.got c r then Function.update held l true else held
  | .release l => Function.update held l false
  | _ => held

theorem Locking.after_acquire (held : ℓ → Bool) {c : C} (r : R c) {l : ℓ}
    (h : K.action c = .acquire l) : K.after held c r l = true := by
  simp [Locking.after, h]

theorem Locking.after_release (held : ℓ → Bool) {c : C} (r : R c) {l : ℓ}
    (h : K.action c = .release l) : K.after held c r l = false := by
  simp [Locking.after, h]

/-- A call leaves the other locks as they are. -/
theorem Locking.after_of_ne {held : ℓ → Bool} {c : C} (r : R c) {l : ℓ}
    (h : (K.action c).lock ≠ some l) : K.after held c r l = held l := by
  unfold Locking.after
  cases hc : K.action c with
  | acquire l' =>
    have hne : l ≠ l' := by
      rintro rfl
      exact h (by rw [hc]; rfl)
    exact Function.update_of_ne hne ..
  | attempt l' =>
    have hne : l ≠ l' := by
      rintro rfl
      exact h (by rw [hc]; rfl)
    dsimp only
    split
    · exact Function.update_of_ne hne ..
    · rfl
  | release l' =>
    have hne : l ≠ l' := by
      rintro rfl
      exact h (by rw [hc]; rfl)
    exact Function.update_of_ne hne ..
  | meet => rfl
  | alone => rfl
  | neutral => rfl

def Locking.effect [DecidableEq τ] (t : τ) (s : Locks τ ℓ) (c : C) (r : R c) : Locks τ ℓ where
  taken := K.after s.taken c r
  holds := Function.update s.holds t (K.after (s.holds t) c r)

def Locking.Possible (s : Locks τ ℓ) (c : C) (r : R c) : Prop :=
  (K.action c).Possible s.taken (K.got c r)

instance (s : Locks τ ℓ) (c : C) (r : R c) : Decidable (K.Possible s c r) :=
  inferInstanceAs (Decidable (Action.Possible _ _ _))

/-- The order of the locks: whether a thread that holds `held` may make a call. -/
def Locking.Allows (rank : ℓ → Nat) (held : ℓ → Bool) (c : C) : Prop :=
  match K.action c with
  | .acquire l | .attempt l => ∀ l', held l' = true → rank l' < rank l
  | .release l => held l = true
  | .meet | .alone => ∀ l, held l = false
  | .neutral => True

end Effects

/-! ## The locks are exclusive -/

/-- The threads hold what their phases say, each lock has one holder at most,
and a lock that is taken has one. -/
structure Good (ph : τ → ℓ → Bool) (s : Locks τ ℓ) : Prop where
  holds : s.holds = ph
  lock : ∀ l, Exclusive (s.taken l) fun t => s.holds t l
  owner : ∀ l, s.taken l = true → ∃ t, s.holds t l = true

omit [DecidableEq ℓ] in
theorem Good.initial : Good (fun _ _ => false) (⟨fun _ => false, fun _ _ => false⟩ : Locks τ ℓ) :=
  ⟨rfl, fun _ => Exclusive.initial, fun _ h => by cases h⟩

section Steps

variable [DecidableEq τ] {s : Locks τ ℓ} {t u : τ} {l l' : ℓ}

/-- One thread's flag for one lock. -/
theorem update_update (holds : τ → ℓ → Bool) (t : τ) (l : ℓ) (b : Bool) :
    (fun u => Function.update holds t (Function.update (holds t) l b) u l) =
      Function.update (fun u => holds u l) t b := by
  funext u
  by_cases e : u = t
  · subst e
    simp
  · simp [e]

theorem update_update_of_ne (holds : τ → ℓ → Bool) (t : τ) {l l' : ℓ} (h : l' ≠ l) (b : Bool) :
    (fun u => Function.update holds t (Function.update (holds t) l b) u l') =
      fun u => holds u l' := by
  funext u
  by_cases e : u = t
  · subst e
    simp [h]
  · simp [e]

variable {ph : τ → ℓ → Bool}

theorem Good.acquire (h : Good ph s) (hfree : s.taken l = false) (t : τ) :
    Good (Function.update ph t (Function.update (ph t) l true))
      ⟨Function.update s.taken l true,
        Function.update s.holds t (Function.update (s.holds t) l true)⟩ where
  holds := by rw [h.holds]
  lock l' := by
    by_cases e : l' = l
    · subst e
      simpa only [update_update, Function.update_self] using (h.lock l').acquire hfree t
    · simpa only [update_update_of_ne _ _ e, Function.update_of_ne e] using h.lock l'
  owner l' hl' := by
    by_cases e : l' = l
    · subst e
      exact ⟨t, by simp⟩
    · simp only [Function.update_of_ne e] at hl'
      obtain ⟨u, hu⟩ := h.owner l' hl'
      exact ⟨u, (congrFun (update_update_of_ne s.holds t e true) u).trans hu⟩

theorem Good.release (h : Good ph s) (ht : ph t l = true) :
    Good (Function.update ph t (Function.update (ph t) l false))
      ⟨Function.update s.taken l false,
        Function.update s.holds t (Function.update (s.holds t) l false)⟩ where
  holds := by rw [h.holds]
  lock l' := by
    by_cases e : l' = l
    · subst e
      have hholds : s.holds t l' = true := by rw [h.holds]; exact ht
      simpa only [update_update, Function.update_self] using (h.lock l').release hholds
    · simpa only [update_update_of_ne _ _ e, Function.update_of_ne e] using h.lock l'
  owner l' hl' := by
    by_cases e : l' = l
    · subst e
      simp only [Function.update_self] at hl'
      cases hl'
    · simp only [Function.update_of_ne e] at hl'
      obtain ⟨u, hu⟩ := h.owner l' hl'
      exact ⟨u, (congrFun (update_update_of_ne s.holds t e false) u).trans hu⟩

/-- **Step.** A call that the discipline allows keeps the locks exclusive. -/
theorem Good.call {K : Locking C R ℓ} {rank : ℓ → Nat} {c : C} {r : R c} (h : Good ph s)
    (ha : K.Allows rank (ph t) c) (hr : K.Possible s c r) :
    Good (Function.update ph t (K.after (ph t) c r)) (K.effect t s c r) := by
  have hsame : Good (Function.update ph t (ph t))
      ⟨s.taken, Function.update s.holds t (s.holds t)⟩ := by
    rw [Function.update_eq_self, Function.update_eq_self]
    exact h
  cases hact : K.action c with
  | acquire l =>
    simp only [Locking.Possible, Action.Possible, hact] at hr
    simp only [Locking.effect, Locking.after, hact]
    exact h.acquire hr t
  | attempt l =>
    simp only [Locking.Possible, Action.Possible, hact] at hr
    simp only [Locking.effect, Locking.after, hact]
    cases hgot : K.got c r with
    | false => simpa using hsame
    | true => simpa using h.acquire (hr hgot) t
  | release l =>
    simp only [Locking.Allows, hact] at ha
    simp only [Locking.effect, Locking.after, hact]
    exact h.release ha
  | meet | alone | neutral =>
    simp only [Locking.effect, Locking.after, hact]
    exact hsame

end Steps

/-! ## No deadlock -/

section Waits

variable (K : Locking C R ℓ) (locks : σ → Locks τ ℓ) (meets : σ → C → τ → Prop)

/-- Thread `t` stands before a lock that `u` holds, or waits for `u` itself. -/
def WaitsFor (p : Pool τ C R L σ) (t u : τ) : Prop :=
  ∃ c, p.nextCall t = some c ∧
    match K.action c with
    | .acquire l => (locks p.shared).holds u l = true
    | .meet => meets p.shared c u
    | _ => False

/-- How far up the order a thread waits. -/
def level (rank : ℓ → Nat) (N : Nat) (p : Pool τ C R L σ) (t : τ) : Nat :=
  match p.nextCall t with
  | some c =>
    match K.action c with
    | .acquire l => rank l + 1
    | .meet => 0
    | _ => N + 1
  | none => N + 1

variable {K locks meets} {rank : ℓ → Nat} {N : Nat} {p : Pool τ C R L σ} {ph : τ → ℓ → Bool}

omit [DecidableEq ℓ] in
theorem level_le (hN : ∀ l, rank l < N) (t : τ) : level K rank N p t ≤ N + 1 := by
  unfold level
  split
  · split
    · next l _ => exact Nat.succ_le_succ (Nat.le_of_lt (hN l))
    · exact Nat.zero_le _
    · exact Nat.le_refl _
  · exact Nat.le_refl _

omit [DecidableEq ℓ] in
/-- A wait leads to a higher level, unless it is for a thread that waits for
another thread itself. -/
theorem level_lt (hallows : ∀ t c, p.nextCall t = some c → K.Allows rank (ph t) c)
    (hgood : Good ph (locks p.shared)) (hN : ∀ l, rank l < N)
    (hmeets : ∀ c u c', meets p.shared c u → p.nextCall u = some c' → K.action c' ≠ .meet)
    {t u : τ} (h : WaitsFor K locks meets p t u) : level K rank N p t < level K rank N p u := by
  obtain ⟨c, hc, hwait⟩ := h
  cases hact : K.action c with
  | acquire l =>
    simp only [hact] at hwait
    have hheld : ph u l = true := by rw [← hgood.holds]; exact hwait
    have hlevel : level K rank N p t = rank l + 1 := by simp only [level, hc, hact]
    rw [hlevel]
    unfold level
    split
    · next c' hc' =>
      have ha := hallows u c' hc'
      split
      · next l' hact' =>
        simp only [Locking.Allows, hact'] at ha
        exact Nat.succ_lt_succ (ha l hheld)
      · next hact' =>
        simp only [Locking.Allows, hact'] at ha
        rw [ha l] at hheld
        cases hheld
      · exact Nat.succ_lt_succ (hN l)
    · exact Nat.succ_lt_succ (hN l)
  | meet =>
    simp only [hact] at hwait
    have hlevel : level K rank N p t = 0 := by simp only [level, hc, hact]
    rw [hlevel]
    unfold level
    split
    · next c' hc' =>
      have hne := hmeets c u c' hwait hc'
      split
      · exact Nat.succ_pos _
      · next hact' => exact absurd hact' hne
      · exact Nat.succ_pos _
    · exact Nat.succ_pos _
  | _ => simp only [hact] at hwait

omit [DecidableEq ℓ] in
/-- **No deadlock.** Under the discipline no thread waits for itself through
others, and every chain of waits ends. -/
theorem no_deadlock (hallows : ∀ t c, p.nextCall t = some c → K.Allows rank (ph t) c)
    (hgood : Good ph (locks p.shared)) (hN : ∀ l, rank l < N)
    (hmeets : ∀ c u c', meets p.shared c u → p.nextCall u = some c' → K.action c' ≠ .meet)
    (t : τ) :
    ¬ TransGen (WaitsFor K locks meets p) t t ∧
      ∃ u, ReflTransGen (WaitsFor K locks meets p) t u ∧ ∀ v, ¬ WaitsFor K locks meets p u v :=
  ⟨not_transGen_self (fun _ _ h => level_lt hallows hgood hN hmeets h) t,
    exists_end (fun _ _ h => level_lt hallows hgood hN hmeets h) (level_le hN) t⟩

omit [DecidableEq ℓ] in
/-- A lock that no thread is waited for is free. -/
theorem free_of_no_wait (hgood : Good ph (locks p.shared)) {t : τ} {c : C} {l : ℓ}
    (hc : p.nextCall t = some c) (hact : K.action c = .acquire l)
    (hnone : ∀ u, ¬ WaitsFor K locks meets p t u) : (locks p.shared).taken l = false := by
  cases htaken : (locks p.shared).taken l with
  | false => rfl
  | true =>
    obtain ⟨u, hu⟩ := hgood.owner l htaken
    exact absurd ⟨c, hc, by simp only [hact]; exact hu⟩ (hnone u)

end Waits

end LockOrder
