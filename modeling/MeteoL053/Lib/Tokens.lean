import Mathlib.Data.Fintype.Card
import Mathlib.Data.Finset.Card

/-!
Tokens that move between a free list, a FIFO queue and holders.

A token is taken from the free list by a holder, passed on through the queue,
taken from the queue by another holder, and put back on the free list.
`Conserved` says that the tokens are partitioned between these places; the four
moves keep it, and while somebody holds a token the queue cannot hold all.
-/

namespace Tokens

/-- Where the tokens `ω` are; a holder `τ` has at most one. -/
structure Places (ω τ : Type) where
  pool : List ω
  queue : List ω
  held : τ → Option ω

/-- One of the places of a token. -/
inductive Place (τ : Type) where
  | pool
  | queue
  | holder (t : τ)

variable {ω τ : Type}

def Places.At (p : Places ω τ) (o : ω) : Place τ → Prop
  | .pool => o ∈ p.pool
  | .queue => o ∈ p.queue
  | .holder t => p.held t = some o

/-- Every token is in exactly one place, and there exactly once. -/
structure Conserved (p : Places ω τ) : Prop where
  pool_nodup : p.pool.Nodup
  queue_nodup : p.queue.Nodup
  place : ∀ o, ∃! x, p.At o x

variable {p : Places ω τ} {t u : τ} {o : ω}

theorem Conserved.unique (h : Conserved p) {x y : Place τ} (hx : p.At o x) (hy : p.At o y) :
    x = y := by
  obtain ⟨z, -, hz⟩ := h.place o
  rw [hz x hx, hz y hy]

theorem Conserved.not_mem_pool (h : Conserved p) (ho : p.held t = some o) : o ∉ p.pool := by
  intro hp
  cases h.unique (x := .pool) (y := .holder t) hp ho

theorem Conserved.not_mem_queue (h : Conserved p) (ho : p.held t = some o) : o ∉ p.queue := by
  intro hq
  cases h.unique (x := .queue) (y := .holder t) hq ho

theorem Conserved.holder_unique (h : Conserved p) (ht : p.held t = some o)
    (hu : p.held u = some o) : t = u := by
  cases h.unique (x := .holder t) (y := .holder u) ht hu
  rfl

/-- While a token is held the queue lacks at least that one. -/
theorem Conserved.queue_length_lt [Fintype ω] (h : Conserved p) (ho : p.held t = some o) :
    p.queue.length < Fintype.card ω := by
  have hn : (o :: p.queue).Nodup := List.nodup_cons.mpr ⟨h.not_mem_queue ho, h.queue_nodup⟩
  exact hn.length_le_card

/-- At the start all tokens are free. -/
theorem Conserved.initial {l : List ω} (hn : l.Nodup) (hl : ∀ o, o ∈ l) :
    Conserved (⟨l, [], fun _ => none⟩ : Places ω τ) := by
  refine ⟨hn, List.nodup_nil, fun o => ⟨.pool, hl o, fun y hy => ?_⟩⟩
  cases y with
  | pool => rfl
  | queue => simp [Places.At] at hy
  | holder t => simp [Places.At] at hy

/-! ## Moves -/

/-- **Moving one token.** If the token `o` at `a` is found only at `b` afterwards
and every other token stays where it is, the tokens are partitioned again. -/
theorem Conserved.move {q : Places ω τ} (h : Conserved p) (a b : Place τ)
    (hpool : q.pool.Nodup) (hqueue : q.queue.Nodup) (ha : p.At o a) (hb : q.At o b)
    (hleft : ∀ y, q.At o y → y = b ∨ (p.At o y ∧ y ≠ a))
    (hother : ∀ o' y, o' ≠ o → (q.At o' y ↔ p.At o' y)) : Conserved q := by
  refine ⟨hpool, hqueue, fun o' => ?_⟩
  by_cases ho : o' = o
  · subst ho
    refine ⟨b, hb, fun y hy => ?_⟩
    rcases hleft y hy with e | ⟨hp, hne⟩
    · exact e
    · exact absurd (h.unique hp ha) hne
  · obtain ⟨y, hy, hu⟩ := h.place o'
    exact ⟨y, (hother o' y ho).mpr hy, fun z hz => hu z ((hother o' z ho).mp hz)⟩

variable [DecidableEq τ]

/-- A change of what `t` holds does not matter to a token outside the change. -/
theorem At_update_iff {held : τ → Option ω} {x : Option ω} {o' : ω} (hold : held t ≠ some o')
    (hnew : x ≠ some o') (u : τ) :
    Function.update held t x u = some o' ↔ held u = some o' := by
  by_cases hu : u = t
  · subst hu
    simp [hold, hnew]
  · simp [hu]

/-- `t` takes the first free token. -/
theorem Conserved.alloc {rest : List ω} (h : Conserved p) (hp : p.pool = o :: rest)
    (ht : p.held t = none) :
    Conserved (⟨rest, p.queue, Function.update p.held t (some o)⟩ : Places ω τ) := by
  have hn := h.pool_nodup
  rw [hp, List.nodup_cons] at hn
  refine h.move (o := o) .pool (.holder t) hn.2 h.queue_nodup (by simp [Places.At, hp])
    (by simp [Places.At]) (fun y hy => ?_) fun o' y hne => ?_
  · cases y with
    | pool => exact absurd hy hn.1
    | queue => exact .inr ⟨hy, by simp⟩
    | holder u =>
      by_cases hu : u = t
      · exact .inl (by rw [hu])
      · exact .inr ⟨by simpa [Places.At, hu] using hy, by simp⟩
  · cases y with
    | pool => simp [Places.At, hp, hne]
    | queue => exact Iff.rfl
    | holder u => exact At_update_iff (by simp [ht]) (by simpa using hne.symm) u

/-- `t` appends the token it holds to the queue. -/
theorem Conserved.post (h : Conserved p) (ht : p.held t = some o) :
    Conserved (⟨p.pool, p.queue ++ [o], Function.update p.held t none⟩ : Places ω τ) := by
  have hq : (p.queue ++ [o]).Nodup := by
    simpa using List.nodup_append.mpr ⟨h.queue_nodup, by simp,
      fun a ha b hb e => h.not_mem_queue ht (by simp at hb; rw [← hb, ← e]; exact ha)⟩
  refine h.move (o := o) (.holder t) .queue h.pool_nodup hq ht (by simp [Places.At])
    (fun y hy => ?_) fun o' y hne => ?_
  · cases y with
    | pool => exact .inr ⟨hy, by simp⟩
    | queue => exact .inl rfl
    | holder u =>
      by_cases hu : u = t
      · simp [Places.At, hu] at hy
      · exact .inr ⟨by simpa [Places.At, hu] using hy, by simpa using hu⟩
  · cases y with
    | pool => exact Iff.rfl
    | queue => simp [Places.At, hne]
    | holder u => exact At_update_iff (by simpa [ht] using hne.symm) (by simp) u

/-- `t` takes the token at the head of the queue. -/
theorem Conserved.fetch {rest : List ω} (h : Conserved p) (hq : p.queue = o :: rest)
    (ht : p.held t = none) :
    Conserved (⟨p.pool, rest, Function.update p.held t (some o)⟩ : Places ω τ) := by
  have hn := h.queue_nodup
  rw [hq, List.nodup_cons] at hn
  refine h.move (o := o) .queue (.holder t) h.pool_nodup hn.2 (by simp [Places.At, hq])
    (by simp [Places.At]) (fun y hy => ?_) fun o' y hne => ?_
  · cases y with
    | pool => exact .inr ⟨hy, by simp⟩
    | queue => exact absurd hy hn.1
    | holder u =>
      by_cases hu : u = t
      · exact .inl (by rw [hu])
      · exact .inr ⟨by simpa [Places.At, hu] using hy, by simp⟩
  · cases y with
    | pool => exact Iff.rfl
    | queue => simp [Places.At, hq, hne]
    | holder u => exact At_update_iff (by simp [ht]) (by simpa using hne.symm) u

/-- `t` puts the token it holds on the free list. -/
theorem Conserved.free (h : Conserved p) (ht : p.held t = some o) :
    Conserved (⟨o :: p.pool, p.queue, Function.update p.held t none⟩ : Places ω τ) := by
  refine h.move (o := o) (.holder t) .pool
    (List.nodup_cons.mpr ⟨h.not_mem_pool ht, h.pool_nodup⟩) h.queue_nodup ht
    (by simp [Places.At]) (fun y hy => ?_) fun o' y hne => ?_
  · cases y with
    | pool => exact .inl rfl
    | queue => exact .inr ⟨hy, by simp⟩
    | holder u =>
      by_cases hu : u = t
      · simp [Places.At, hu] at hy
      · exact .inr ⟨by simpa [Places.At, hu] using hy, by simpa using hu⟩
  · cases y with
    | pool => simp [Places.At, hne]
    | queue => exact Iff.rfl
    | holder u => exact At_update_iff (by simpa [ht] using hne.symm) (by simp) u

end Tokens
