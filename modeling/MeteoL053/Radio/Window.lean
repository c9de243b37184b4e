import MeteoL053.Radio.Reply

/-!
When a reply-wait loop is left in time, when its bytes stay inside `rxBuff`,
and when `HC12__reconfigure` ends.

A loop has a window of 1000 ticks from its `timeout` on. The test of the source
compares 16-bit times in `int`, so it can fail for ever when the clock wraps
before the window has passed.
-/

namespace MeteoL053.Radio

open CallTree

/-! ## The window of 1000 ticks -/

/-- The clock keeps advancing. -/
def Env.Fair (env : Env) : Prop := ∀ n, ∃ m, n ≤ m ∧ 0 < env.tick m

/-- The first `K` readings from the `r`-th on see at most 1000 ticks, the next
one sees more. -/
def Env.IsWindow (env : Env) (r K : Nat) : Prop :=
  env.ticks r K ≤ 1000 ∧ 1000 < env.ticks r (K + 1)

/-- What becomes true has a step at which it does. -/
theorem exists_first {P : Nat → Prop} (h0 : ¬ P 0) {K : Nat} (hK : P K) :
    ∃ n, n < K ∧ ¬ P n ∧ P (n + 1) := by
  classical
  have hex : ∃ n, P n := ⟨K, hK⟩
  obtain ⟨n, hn⟩ := Nat.exists_eq_succ_of_ne_zero fun h => h0 (h ▸ Nat.find_spec hex)
  have hle := Nat.find_min' hex hK
  have hspec := Nat.find_spec hex
  rw [hn] at hspec
  exact ⟨n, by omega, Nat.find_min hex (by omega), hspec⟩

theorem Env.ticks_mono (env : Env) (r : Nat) {k k' : Nat} (h : k ≤ k') :
    env.ticks r k ≤ env.ticks r k' := by
  induction h with
  | refl => exact Nat.le_refl _
  | step _ ih => exact Nat.le_trans ih (Nat.le_add_right _ _)

theorem Env.IsWindow.le_iff {env : Env} {r K k : Nat} (h : env.IsWindow r K) :
    k ≤ K ↔ env.ticks r k ≤ 1000 := by
  constructor
  · intro hk
    exact Nat.le_trans (env.ticks_mono r hk) h.1
  · intro hk
    rcases Nat.lt_or_ge K k with hlt | hge
    · have hlate := Nat.lt_of_lt_of_le h.2 (env.ticks_mono r (Nat.succ_le_of_lt hlt))
      omega
    · exact hge

theorem Env.Fair.exists_ticks_ge {env : Env} (h : env.Fair) (r n : Nat) :
    ∃ k, n ≤ env.ticks r k := by
  induction n with
  | zero => exact ⟨0, Nat.zero_le _⟩
  | succ n ih =>
    obtain ⟨k, hk⟩ := ih
    obtain ⟨m, hm, htick⟩ := h (r + k)
    refine ⟨m - r + 1, ?_⟩
    have hmono := env.ticks_mono r (show k ≤ m - r by omega)
    have hsub : r + (m - r) = m := by omega
    rw [Env.ticks, hsub]
    omega

theorem Env.Fair.exists_isWindow {env : Env} (h : env.Fair) (r : Nat) :
    ∃ K, env.IsWindow r K := by
  obtain ⟨k, hk⟩ := h.exists_ticks_ge r 1001
  -- the first reading that sees 1001 ticks is the one after the window
  obtain ⟨K, -, hK, hnext⟩ := exists_first (P := fun k => 1001 ≤ env.ticks r k)
    (by simp [Env.ticks]) hk
  exact ⟨K, Nat.le_of_not_lt hK, hnext⟩

/-- Within 1000 ticks the test of the source is never true, wherever the clock
wraps. -/
theorem not_timedOut {env : Env} {t d : Nat} {w : World} (hw : (w.read env).now = t + d)
    (hd : d ≤ 1000) : ¬ TimedOut env (UInt16.ofNat t) w := by
  simp only [TimedOut, hw, UInt16.toNat_ofNat']
  omega

/-- Later it is true unless the clock has wrapped. -/
theorem timedOut_iff {env : Env} {t d : Nat} {w : World} (hw : (w.read env).now = t + d) :
    TimedOut env (UInt16.ofNat t) w ↔ t % 2 ^ 16 + 1000 < (t + d) % 2 ^ 16 := by
  simp only [TimedOut, hw, UInt16.toNat_ofNat']
  omega

theorem Env.received_prefix (env : Env) (q : Nat) {k k' : Nat} (h : k ≤ k') :
    env.received q k <+: env.received q k' := by
  induction h with
  | refl => exact List.prefix_refl _
  | step _ ih => exact ih.trans (List.prefix_append _ _)

theorem Answered.mono {bs bs' : List UInt8} (hp : bs <+: bs') (h : Answered bs) : Answered bs' := by
  obtain ⟨m, h1, hm, hcr, hlf⟩ := h
  obtain ⟨rest, rfl⟩ := hp
  have happ : ∀ (j : Nat) (b : UInt8), bs[j]? = some b → (bs ++ rest)[j]? = some b := by
    intro j b hj
    rwa [List.getElem?_append_left (List.getElem?_eq_some_iff.mp hj).1]
  exact ⟨m, h1, hm, happ _ _ hcr, happ _ _ hlf⟩

/-! ## Turns inside the loop -/

section Loop

variable {env : Env} {cfg : Hc12Cfg} {cmd : Fin 4} {w : World}

/-- `n` turns of the loop that starts in `w`. -/
def turns (env : Env) (cfg : Hc12Cfg) (cmd : Fin 4) (w : World) (n : Nat) :
    Option (Block × World) :=
  runWhile (answer env) (body .shell) (inLoop cmd) n (.reply cfg cmd (UInt16.ofNat w.now) 0) w

theorem inLoop_of_left {w₁ w₂ : World} {l : Block} (h : Left cfg cmd w₁ l w₂) :
    inLoop cmd l = false := by
  obtain ⟨(⟨rfl, -⟩ | ⟨next, hlt, rfl⟩), -⟩ := h
  · rfl
  · exact decide_eq_false (Fin.ne_of_gt hlt)

/-- A turn leaves the loop or keeps waiting. -/
theorem Waiting.of_run {T : UInt16} {k : Nat} {i : UInt8} {w' w'' : World} {l : Block}
    (hw : Waiting env w k i w')
    (hrun : (body .shell (.reply cfg cmd T i)).run (answer env) w' = some (l, w'')) :
    (∃ w₂, Left cfg cmd w₂ l w'') ∨ ∃ j, l = .reply cfg cmd T j ∧ Waiting env w (k + 1) j w'' := by
  by_cases ht : TimedOut env T w'
  · obtain ⟨w₂, hout, hleft⟩ := reply_timedOut env cfg cmd T i w' ht
    cases hout.symm.trans hrun
    exact .inl ⟨_, hleft⟩
  · rcases hw.turn cfg cmd ht with ⟨-, l₂, w₂, w₃, hout, hleft, -⟩ | ⟨j, w₂, hon, hw₂⟩ |
      ⟨-, -, hnone⟩
    · cases hout.symm.trans hrun
      exact .inl ⟨_, hleft⟩
    · cases hon.symm.trans hrun
      exact .inr ⟨j, rfl, hw₂⟩
    · cases hnone.symm.trans hrun

/-- The turns that stay in the loop are those of `Waiting`. -/
theorem waiting_of_runWhile {T : UInt16} {n k : Nat} {i : UInt8} {w' w'' : World} {l : Block}
    (hw : Waiting env w k i w')
    (hn : runWhile (answer env) (body .shell) (inLoop cmd) n (.reply cfg cmd T i) w' =
      some (l, w'')) :
    ∃ j, l = .reply cfg cmd T j ∧ Waiting env w (k + n) j w'' := by
  induction n generalizing k i w' with
  | zero =>
    cases hn
    exact ⟨i, rfl, hw⟩
  | succ n ih =>
    obtain ⟨l₁, w₁, hrun, hstay, hrest⟩ := exists_of_runWhile_succ hn
    rcases hw.of_run hrun with ⟨w₂, hleft⟩ | ⟨j, rfl, hw₁⟩
    · cases (inLoop_of_left hleft).symm.trans hstay
    · rw [show k + (n + 1) = k + 1 + n by omega]
      exact ih hw₁ hrest

theorem waiting_of_turns {n : Nat} {w' : World} {l : Block}
    (hn : turns env cfg cmd w n = some (l, w')) :
    ∃ i, l = .reply cfg cmd (UInt16.ofNat w.now) i ∧ Waiting env w n i w' := by
  have := waiting_of_runWhile (Waiting.start env w) hn
  rwa [Nat.zero_add] at this

/-- As long as the window lasts, the reply is not complete and its bytes fit,
the loop goes on. -/
theorem turns_of_unanswered (cfg : Hc12Cfg) (cmd : Fin 4) {n : Nat} (ht : env.ticks w.readings n ≤ 1000)
    (hn : ¬ Answered (env.received w.reads n))
    (hf : (env.received w.reads n).length ≤ streamBufferSize) :
    ∃ i w', turns env cfg cmd w n = some (.reply cfg cmd (UInt16.ofNat w.now) i, w') ∧
      Waiting env w n i w' := by
  induction n with
  | zero => exact ⟨0, w, rfl, Waiting.start env w⟩
  | succ n ih =>
    have hprefix := env.received_prefix w.reads (Nat.le_succ n)
    obtain ⟨i, w', hturns, hw⟩ := ih
      (Nat.le_trans (env.ticks_mono w.readings (Nat.le_succ n)) ht)
      (fun ha => hn (ha.mono hprefix)) (Nat.le_trans hprefix.length_le hf)
    have hout := not_timedOut (hw.read_now) ht
    rcases hw.turn cfg cmd hout with ⟨ha, -⟩ | ⟨j, w₂, hon, hw₂⟩ | ⟨-, hlen, -⟩
    · exact absurd ha hn
    · exact ⟨j, w₂, runWhile_snoc hturns hon (decide_eq_true rfl), hw₂⟩
    · omega

/-! ## Leaving in time -/

/-- A turn that starts at most 1000 ticks after `timeout` was taken leaves the
loop, so it is left at the latest by the first reading that is later. -/
def LeavesInTime (env : Env) (cfg : Hc12Cfg) (cmd : Fin 4) (w : World) : Prop :=
  ∃ n l₁ w₁ l' w', turns env cfg cmd w n = some (l₁, w₁) ∧ w₁.now ≤ w.now + 1000 ∧
    (body .shell l₁).run (answer env) w₁ = some (l', w') ∧ inLoop cmd l' = false

/-- The clock does not wrap before the first reading behind the window, or the
reply comes in time; in both cases its bytes fit the buffer. -/
def InTime (env : Env) (w : World) : Prop :=
  ∃ K, env.IsWindow w.readings K ∧
    (Answered (env.received w.reads (K + 1)) ∨
      (env.received w.reads K).length ≤ streamBufferSize ∧
        w.now % 2 ^ 16 + 1000 < (w.now + env.ticks w.readings (K + 1)) % 2 ^ 16)

theorem inTime_of_leavesInTime (hfair : env.Fair) (h : LeavesInTime env cfg cmd w) :
    InTime env w := by
  obtain ⟨K, hK⟩ := hfair.exists_isWindow w.readings
  obtain ⟨n, l₁, w₁, l', w', hturns, hnow, hrun, hleft⟩ := h
  obtain ⟨i, rfl, hw⟩ := waiting_of_turns hturns
  have hn : n ≤ K := hK.le_iff.mpr (by have := hw.now; omega)
  refine ⟨K, hK, ?_⟩
  by_cases ht : TimedOut env (UInt16.ofNat w.now) w₁
  · -- a turn before the last of the window does not time out
    have hlast : n = K := by
      rcases Nat.lt_or_ge n K with hlt | hge
      · exact absurd ht (not_timedOut hw.read_now (hK.le_iff.mp hlt))
      · omega
    subst hlast
    exact .inr ⟨hw.fits, (timedOut_iff hw.read_now).mp ht⟩
  · rcases hw.turn cfg cmd ht with ⟨ha, -⟩ | ⟨j, w₂, hon, -⟩ | ⟨-, -, hnone⟩
    · exact .inl (ha.mono (env.received_prefix w.reads (Nat.succ_le_succ hn)))
    · cases hon.symm.trans hrun
      exact absurd hleft (by simp [inLoop])
    · cases hnone.symm.trans hrun

/-- The reply is complete by the reading behind the window: the turn whose byte
completes it leaves the loop. -/
theorem leavesInTime_of_answered {K : Nat} (hK : env.IsWindow w.readings K)
    (ha : Answered (env.received w.reads (K + 1))) : LeavesInTime env cfg cmd w := by
  obtain ⟨n, hn, hbefore, hafter⟩ := exists_first
    (P := fun k => Answered (env.received w.reads k))
    (fun ⟨m, _, _, _, h⟩ => by simp [Env.received] at h) ha
  have hfits : (env.received w.reads n).length ≤ streamBufferSize := by
    rw [Env.received] at hafter
    cases hb : env.byte (w.reads + n) with
    | none =>
      rw [hb, Option.toList_none, List.append_nil] at hafter
      exact absurd hafter hbefore
    | some b =>
      rw [hb, Option.toList_some, answered_snoc] at hafter
      rcases hafter with hafter | ⟨-, hlt, -⟩
      · exact absurd hafter hbefore
      · exact Nat.le_of_lt hlt
  have hticks := hK.le_iff.mp (Nat.le_of_lt_succ hn)
  obtain ⟨i, w₁, hturns, hw⟩ := turns_of_unanswered cfg cmd hticks hbefore hfits
  have hnow : w₁.now ≤ w.now + 1000 := by
    have := hw.now
    omega
  by_cases ht : TimedOut env (UInt16.ofNat w.now) w₁
  · obtain ⟨w₂, hout, hleft⟩ := reply_timedOut env cfg cmd _ i w₁ ht
    exact ⟨n, _, w₁, _, w₂, hturns, hnow, hout, inLoop_of_left hleft⟩
  · rcases hw.turn cfg cmd ht with ⟨-, l, w₂, w₃, hout, hleft, -⟩ | ⟨j, w₂, -, hw₂⟩ | ⟨hno, -⟩
    · exact ⟨n, _, w₁, l, w₃, hturns, hnow, hout, inLoop_of_left hleft⟩
    · exact absurd hafter hw₂.unanswered
    · exact absurd hafter hno

/-- No reply and no wrap: the reading behind the window times out. -/
theorem leavesInTime_of_timedOut {K : Nat} (hK : env.IsWindow w.readings K)
    (ha : ¬ Answered (env.received w.reads (K + 1)))
    (hfits : (env.received w.reads K).length ≤ streamBufferSize)
    (hwrap : w.now % 2 ^ 16 + 1000 < (w.now + env.ticks w.readings (K + 1)) % 2 ^ 16) :
    LeavesInTime env cfg cmd w := by
  have hticks := hK.le_iff.mp (Nat.le_refl K)
  obtain ⟨i, w₁, hturns, hw⟩ := turns_of_unanswered cfg cmd hticks
    (fun h => ha (h.mono (env.received_prefix w.reads (Nat.le_succ K)))) hfits
  obtain ⟨w₂, hout, hleft⟩ :=
    reply_timedOut env cfg cmd _ i w₁ ((timedOut_iff hw.read_now).mpr hwrap)
  have hnow : w₁.now ≤ w.now + 1000 := by
    have := hw.now
    omega
  exact ⟨K, _, w₁, _, w₂, hturns, hnow, hout, inLoop_of_left hleft⟩

theorem leavesInTime_of_inTime (h : InTime env w) : LeavesInTime env cfg cmd w := by
  obtain ⟨K, hK, hor⟩ := h
  by_cases ha : Answered (env.received w.reads (K + 1))
  · exact leavesInTime_of_answered hK ha
  · rcases hor with hor | ⟨hfits, hwrap⟩
    · exact absurd hor ha
    · exact leavesInTime_of_timedOut hK ha hfits hwrap

/-! ## Staying inside the buffer -/

/-- In every turn of the window, each store to `rxBuff` and each read of it has
an index inside; a store behind it would hang. -/
def InBounds (env : Env) (cfg : Hc12Cfg) (cmd : Fin 4) (w : World) : Prop :=
  ∀ n l₁ w₁, turns env cfg cmd w n = some (l₁, w₁) → (w₁.read env).now ≤ w.now + 1000 →
    ∃ l' w', (body .shell l₁).run (answer env) w₁ = some (l', w') ∧
      ∀ j ∈ w'.touched, j ∈ w.touched ∨ j < streamBufferSize

/-- What fits in the window: the reply is complete, or its bytes fit the buffer. -/
def WindowFits (env : Env) (w : World) : Prop :=
  ∀ k, env.ticks w.readings k ≤ 1000 →
    Answered (env.received w.reads k) ∨ (env.received w.reads k).length ≤ streamBufferSize

theorem windowFits_of_inBounds (h : InBounds env cfg cmd w) : WindowFits env w := by
  intro k hk
  refine Classical.or_iff_not_imp_left.mpr fun ha => Nat.le_of_not_lt fun hlen => ?_
  -- the turn that gets the first byte too many
  obtain ⟨n, hn, hbefore, hafter⟩ := exists_first
    (P := fun k => streamBufferSize < (env.received w.reads k).length) (by simp [Env.received])
    hlen
  have hprefix := env.received_prefix w.reads (Nat.succ_le_of_lt hn)
  have hticks : env.ticks w.readings (n + 1) ≤ 1000 :=
    Nat.le_trans (env.ticks_mono w.readings (Nat.succ_le_of_lt hn)) hk
  obtain ⟨i, w₁, hturns, hw⟩ := turns_of_unanswered cfg cmd
    (Nat.le_trans (env.ticks_mono w.readings (Nat.le_succ n)) hticks)
    (fun hb => ha (hb.mono (env.received_prefix w.reads (Nat.le_of_lt hn))))
    (Nat.le_of_not_lt hbefore)
  have hread := hw.read_now
  obtain ⟨l', w', hrun, -⟩ := h n _ w₁ hturns (by rw [hread]; omega)
  rcases hw.turn cfg cmd (not_timedOut hread hticks) with ⟨hb, -⟩ | ⟨j, w₂, -, hw₂⟩ |
    ⟨-, -, hnone⟩
  · exact ha (hb.mono hprefix)
  · exact absurd hw₂.fits (Nat.not_le_of_lt hafter)
  · cases hnone.symm.trans hrun

theorem inBounds_of_windowFits (h : WindowFits env w) : InBounds env cfg cmd w := by
  intro n l₁ w₁ hturns hnow
  obtain ⟨i, rfl, hw⟩ := waiting_of_turns hturns
  have hread := hw.read_now
  have hticks : env.ticks w.readings (n + 1) ≤ 1000 := by omega
  rcases hw.turn cfg cmd (not_timedOut hread hticks) with ⟨-, l, w₂, w₃, hrun, hleft, htouched⟩ |
    ⟨j, w₂, hrun, hw₂⟩ | ⟨ha, hlen, -⟩
  · refine ⟨l, w₃, hrun, ?_⟩
    rw [hleft.2]
    exact htouched
  · exact ⟨_, w₂, hrun, hw₂.touched⟩
  · rcases h (n + 1) hticks with hb | hb
    · exact absurd hb ha
    · exact absurd hb (Nat.not_le_of_lt hlen)

/-- For every channel and every clock: all accesses of a reply-wait loop within
its 1000 ticks are inside the buffer if and only if the bytes that arrive in
them fit it or complete the reply inside it. -/
theorem inBounds_iff (env : Env) (cfg : Hc12Cfg) (cmd : Fin 4) (w : World) :
    InBounds env cfg cmd w ↔ WindowFits env w :=
  ⟨windowFits_of_inBounds, inBounds_of_windowFits⟩

end Loop

/-- A peer that sends an `A` every second millisecond. -/
def babble : Env where
  tick _ := 1
  byte n := if n % 2 = 0 then some 0x41 else none
  reply _ := anyReply

def quietWorld (now : Nat) : World where
  now := now
  readings := 0
  reads := 0
  calls := 0
  rxBuff := fun _ => 0
  touched := []
  held := false

/-- The 65th byte, 129 ms after the command, is stored behind the buffer. -/
theorem babble_overflows :
    (turns babble ⟨1, 9600, 3, 8⟩ 0 (quietWorld 0) 128).map
      (fun x => ((body .shell x.1).run (answer babble) x.2).isNone) = some true ∧
    ¬ InBounds babble ⟨1, 9600, 3, 8⟩ 0 (quietWorld 0) := by
  constructor
  · decide +kernel
  · intro h
    rcases windowFits_of_inBounds h 129 (by decide +kernel) with ⟨m, -, hm, hcr, -⟩ | hlen
    · have hall : ∀ b ∈ babble.received 0 129, b = 0x41 := by decide +kernel
      exact absurd (hall _ (List.mem_of_getElem? hcr)) (by decide)
    · exact absurd hlen (by decide +kernel)

end MeteoL053.Radio
