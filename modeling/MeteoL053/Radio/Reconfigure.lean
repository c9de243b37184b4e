import MeteoL053.Radio.Window

/-!
When `HC12__reconfigure` ends: from the shell's request through the emptying of
the channel and the four reply-wait loops back to the prompt, with `uart_bsem`
released.
-/

namespace MeteoL053.Radio

open CallTree

section Run

variable {env : Env} {w₀ w : World} {cfg : Hc12Cfg} {cmd : Fin 4}

/-- `n` blocks of the shell inside the function called in `w₀`. -/
def blocks (env : Env) (w₀ : World) (n : Nat) : Option (Block × World) :=
  runWhile (answer env) (body .shell) inReconfigure n .prompt w₀

/-- The function called in `w₀` returns, with the semaphore released. -/
def Returns (env : Env) (w₀ : World) : Prop :=
  ∃ w', Leaves (answer env) (body .shell) inReconfigure .prompt w₀ .prompt w' ∧ w'.held = false

/-- The function called in `w₀` enters the loop of command `cmd` in `w`. -/
def Enters (env : Env) (w₀ : World) (cfg : Hc12Cfg) (cmd : Fin 4) (w : World) : Prop :=
  ∃ n l₁ w₁, blocks env w₀ n = some (l₁, w₁) ∧ inLoop cmd l₁ = false ∧
    (body .shell l₁).run (answer env) w₁ = some (.reply cfg cmd (UInt16.ofNat w.now) 0, w)

/-- The function called in `w₀` returns, and every loop it enters is left in
time. -/
def EndsInTime (env : Env) (w₀ : World) : Prop :=
  Returns env w₀ ∧ ∀ cfg cmd w, Enters env w₀ cfg cmd w → LeavesInTime env cfg cmd w

/-- The channel is found empty once it is being emptied. -/
def Drains (env : Env) (w₀ : World) : Prop :=
  ∀ n cfg w, blocks env w₀ n = some (.drain cfg, w) → ∃ m, w.reads ≤ m ∧ env.byte m = none

/-! ## Up to the first command -/

theorem wakeUp_ends (env : Env) (w : World) :
    Hc12.wakeUp.Ends (answer env) w fun _ w' => w'.held = w.held := by
  refine Prog.ends_step (Prog.ends_bind (Prog.ends_step ?_))
  split
  · exact ⟨_, _, rfl, _, _, rfl, rfl⟩
  · exact ⟨_, _, rfl, _, _, rfl, rfl⟩

/-- The function returns without the semaphore or goes on to empty the channel. -/
def Started (l : Block) (w : World) : Prop :=
  l = .prompt ∧ w.held = false ∨ ∃ cfg, l = .drain cfg

theorem configure_ends (env : Env) (cfg : Hc12Cfg) (hfree : w.held = false) :
    (Hc12.configure cfg).Ends (answer env) w Started := by
  refine Prog.ends_step ?_
  split
  · exact ⟨_, _, rfl, .inl ⟨rfl, hfree⟩⟩
  · refine Prog.ends_step ?_
    split
    · next hr =>
      rw [Bool.not_eq_true'] at hr
      exact ⟨_, _, rfl, .inl ⟨rfl, hr⟩⟩
    · exact ⟨_, _, rfl, .inr ⟨cfg, rfl⟩⟩

theorem prompt_ends (env : Env) (hfree : w.held = false) :
    Hc12.prompt.Ends (answer env) w Started := by
  refine Prog.ends_step (Prog.ends_step (Prog.ends_step ?_))
  split
  · apply Prog.ends_bind
    obtain ⟨r, w', hrun, hheld⟩ := wakeUp_ends env _
    exact ⟨r, w', hrun, configure_ends env _ (hheld.trans hfree)⟩
  · exact configure_ends env _ hfree

/-! ## Emptying the channel -/

theorem drain_some {b : UInt8} (cfg : Hc12Cfg) (hb : env.byte w.reads = some b) :
    (Hc12.drain cfg).run (answer env) w = some (.drain cfg, w.store 0 b) := by
  have hread : answer env w (.chnRead 0 1) = ([b], w.store 0 b) := by simp only [answer, hb]
  rw [Hc12.drain, Prog.run_bind, Prog.run_perform, hread]
  rfl

theorem drain_none (cfg : Hc12Cfg) (hb : env.byte w.reads = none) :
    ∃ w', (Hc12.drain cfg).run (answer env) w =
      some (.reply cfg 0 (UInt16.ofNat w'.now) 0, w') := by
  have hread : answer env w (.chnRead 0 1) = ([], { w with reads := w.reads + 1 }) := by
    simp only [answer, hb]
  rw [Hc12.drain, Prog.run_bind, Prog.run_perform, hread]
  exact ⟨_, rfl⟩

/-- While bytes keep coming, the channel is read for ever. -/
theorem drain_of_bytes {n : Nat} {l : Block} {w' : World}
    (hall : ∀ m, w.reads ≤ m → env.byte m ≠ none)
    (hn : runWhile (answer env) (body .shell) inReconfigure n (.drain cfg) w = some (l, w')) :
    l = .drain cfg ∧ w.reads ≤ w'.reads := by
  induction n generalizing w with
  | zero =>
    cases hn
    exact ⟨rfl, Nat.le_refl _⟩
  | succ n ih =>
    obtain ⟨b, hb⟩ := Option.ne_none_iff_exists'.mp (hall w.reads (Nat.le_refl _))
    rw [runWhile_succ n (drain_some cfg hb) rfl] at hn
    obtain ⟨hl, hle⟩ := ih (fun m hm => hall m (Nat.le_of_succ_le hm)) hn
    exact ⟨hl, Nat.le_of_succ_le hle⟩

/-- The first empty read ends it. -/
theorem drain_of_empty {m : Nat} (cfg : Hc12Cfg) (hm : w.reads ≤ m) (hb : env.byte m = none) :
    ∃ n w₁ w', runWhile (answer env) (body .shell) inReconfigure n (.drain cfg) w =
        some (.drain cfg, w₁) ∧
      (Hc12.drain cfg).run (answer env) w₁ =
        some (.reply cfg 0 (UInt16.ofNat w'.now) 0, w') := by
  obtain ⟨d, rfl⟩ := Nat.exists_eq_add_of_le hm
  induction d generalizing w with
  | zero =>
    obtain ⟨w', hrun⟩ := drain_none cfg hb
    exact ⟨0, w, w', rfl, hrun⟩
  | succ d ih =>
    cases hnow : env.byte w.reads with
    | none =>
      obtain ⟨w', hrun⟩ := drain_none cfg hnow
      exact ⟨0, w, w', rfl, hrun⟩
    | some b =>
      obtain ⟨n, w₁, w', hn, hrun⟩ := ih (w := w.store 0 b) (Nat.le_add_right _ _)
        (by rwa [World.store, Nat.add_assoc, Nat.add_comm 1])
      exact ⟨n + 1, w₁, w', (runWhile_succ n (drain_some cfg hnow) rfl).trans hn, hrun⟩

/-! ## From loop to loop -/

/-- A turn that leaves a loop ends the function or enters the next loop. -/
theorem left_of_turns {n : Nat} {l₁ l' : Block} {w₁ w' : World}
    (hn : turns env cfg cmd w n = some (l₁, w₁))
    (hrun : (body .shell l₁).run (answer env) w₁ = some (l', w')) (hl' : inLoop cmd l' = false) :
    ∃ w₂, Left cfg cmd w₂ l' w' := by
  obtain ⟨i, rfl, hw⟩ := waiting_of_turns hn
  rcases hw.of_run hrun with hleft | ⟨j, rfl, -⟩
  · exact hleft
  · exact absurd hl' (by simp [inLoop])

theorem inReconfigure_of_inLoop (l : Block) (h : inLoop cmd l = true) : inReconfigure l = true := by
  cases l with
  | reply => rfl
  | _ => cases h

/-- The turns of a loop that was entered are blocks of the function. -/
theorem Enters.blocks {n : Nat} {x : Block × World} (h : Enters env w₀ cfg cmd w)
    (hn : turns env cfg cmd w n = some x) : ∃ m, blocks env w₀ m = some x := by
  obtain ⟨m, l₁, w₁, hm, -, hrun⟩ := h
  refine ⟨m + 1 + n, ?_⟩
  exact (runWhile_add n (runWhile_snoc hm hrun rfl)).trans
    (runWhile_mono inReconfigure_of_inLoop hn)

/-- When all loops entered are left, the function returns: each loop is that of
a later command. -/
theorem Enters.returns (hall : ∀ cfg cmd w, Enters env w₀ cfg cmd w → LeavesInTime env cfg cmd w)
    (h : Enters env w₀ cfg cmd w) : Returns env w₀ := by
  obtain ⟨d, hd⟩ : ∃ d, cmd.val + d = 4 := ⟨4 - cmd.val, by omega⟩
  induction d using Nat.strongRecOn generalizing cmd w with
  | ind d ih =>
    obtain ⟨n, l₁, w₁, l', w', hturns, -, hrun, hl'⟩ := hall cfg cmd w h
    obtain ⟨m, hm⟩ := h.blocks hturns
    obtain ⟨w₂, ⟨rfl, hheld⟩ | ⟨next, hlt, rfl⟩, -⟩ := left_of_turns hturns hrun hl'
    · exact ⟨w', ⟨m, l₁, w₁, hm, hrun, rfl⟩, hheld⟩
    · obtain ⟨i, rfl, -⟩ := waiting_of_turns hturns
      have hnext : Enters env w₀ cfg next w' :=
        ⟨m, _, w₁, hm, decide_eq_false (Fin.ne_of_lt hlt), hrun⟩
      exact ih (4 - next.val) (by omega) hnext (by omega)

/-- A run that is emptying the channel comes to the first loop. -/
theorem enters_of_drain {n m : Nat} (hn : Radio.blocks env w₀ n = some (.drain cfg, w))
    (hm : w.reads ≤ m) (hb : env.byte m = none) : ∃ w', Enters env w₀ cfg 0 w' := by
  obtain ⟨k, w₁, w', hk, hrun⟩ := drain_of_empty cfg hm hb
  exact ⟨w', n + k, _, w₁, (runWhile_add k hn).trans hk, rfl, hrun⟩

/-- For every channel and every clock that keeps advancing: the function ends
and leaves each of its loops in time if and only if the channel is found empty
before the first command, and each loop gets its reply in its 1000 ticks or the
16-bit clock does not wrap before its first later reading, with bytes that fit
the buffer. -/
theorem endsInTime_iff (hfair : env.Fair) (hfree : w₀.held = false) :
    EndsInTime env w₀ ↔
      Drains env w₀ ∧ ∀ cfg cmd w, Enters env w₀ cfg cmd w → InTime env w := by
  constructor
  · rintro ⟨⟨w', hleaves, -⟩, hall⟩
    refine ⟨?_, fun cfg cmd w h => inTime_of_leavesInTime hfair (hall cfg cmd w h)⟩
    intro n cfg w hn
    by_contra hno
    obtain ⟨m, l₁, w₁, hm, hrun, -⟩ := hleaves.of_runWhile hn
    have hall : ∀ m, w.reads ≤ m → env.byte m ≠ none := fun m hm hb => hno ⟨m, hm, hb⟩
    obtain ⟨rfl, hle⟩ := drain_of_bytes hall hm
    obtain ⟨b, hb⟩ := Option.ne_none_iff_exists'.mp (hall w₁.reads hle)
    cases (drain_some cfg hb).symm.trans hrun
  · rintro ⟨hdrains, hin⟩
    have hall : ∀ cfg cmd w, Enters env w₀ cfg cmd w → LeavesInTime env cfg cmd w :=
      fun cfg cmd w h => leavesInTime_of_inTime (hin cfg cmd w h)
    refine ⟨?_, hall⟩
    obtain ⟨l, w, hrun, ⟨rfl, hheld⟩ | ⟨cfg, rfl⟩⟩ := prompt_ends env hfree
    · exact ⟨w, ⟨0, .prompt, w₀, rfl, hrun, rfl⟩, hheld⟩
    · have hn : Radio.blocks env w₀ 1 = some (.drain cfg, w) := runWhile_succ 0 hrun rfl
      obtain ⟨m, hm, hb⟩ := hdrains 1 cfg w hn
      obtain ⟨w', henters⟩ := enters_of_drain hn hm hb
      exact henters.returns hall

/-- A silent module whose loop starts in the last 1001 ms before the 16-bit
clock wraps is waited for for ever. -/
theorem reply_for_ever (hno : ∀ m, env.byte m = none) {T : UInt16} (hT : 64535 ≤ T.toNat)
    (cfg : Hc12Cfg) (cmd : Fin 4) (i : UInt8) (n : Nat) (w : World) :
    ∃ w', runWhile (answer env) (body .shell) inReconfigure n (.reply cfg cmd T i) w =
      some (.reply cfg cmd T i, w') := by
  induction n generalizing w with
  | zero => exact ⟨w, rfl⟩
  | succ n ih =>
    have hstay : ¬ TimedOut env T w := by
      have := (UInt16.ofNat (w.read env).now).toNat_lt
      unfold TimedOut
      omega
    rw [runWhile_succ n (reply_silent cfg cmd hstay (hno _)) rfl]
    exact ih _

end Run

/-- A module that is awake and says nothing, the clock advancing at each reading. -/
def silent : Env where
  tick _ := 1
  byte _ := none
  reply _ c :=
    match c with
    | .status => Hc12Status.ok
    | .chBSemWaitTimeout _ => true
    | c => anyReply c

theorem silent_fair : silent.Fair := fun n => ⟨n, Nat.le_refl n, Nat.one_pos⟩

theorem silent_ticks (r k : Nat) : silent.ticks r k = k := by
  induction k with
  | zero => rfl
  | succ k ih => rw [Env.ticks, ih, silent]

theorem silent_received (q k : Nat) : silent.received q k = [] := by
  induction k with
  | zero => rfl
  | succ k ih =>
    rw [Env.received, ih]
    rfl

/-- The silent module never answers a command, so no other is sent. -/
theorem silent_blocks {n : Nat} {cfg : Hc12Cfg} {cmd : Fin 4} {T : UInt16} {i : UInt8}
    {w w' : World} {l : Block}
    (hn : runWhile (answer silent) (body .shell) inReconfigure n (.reply cfg cmd T i) w =
      some (l, w')) : l = .reply cfg cmd T i := by
  induction n generalizing w with
  | zero =>
    cases hn
    rfl
  | succ n ih =>
    obtain ⟨l₁, w₁, hrun, hstay, hrest⟩ := exists_of_runWhile_succ hn
    by_cases ht : TimedOut silent T w
    · obtain ⟨w₂, hout, -⟩ := reply_timedOut silent cfg cmd T i w ht
      cases hout.symm.trans hrun
      cases hstay
    · cases (reply_silent cfg cmd ht rfl).symm.trans hrun
      exact ih hrest

/-- Called at the start of the station, the function enters the first loop only,
51 ms later. -/
theorem silent_enters {cfg : Hc12Cfg} {cmd : Fin 4} {w : World}
    (h : Enters silent (quietWorld 0) cfg cmd w) : w.now = 51 := by
  obtain ⟨n, l₁, w₁, hn, hloop, hrun⟩ := h
  match n with
  | 0 =>
    cases hn
    cases hrun
  | 1 =>
    cases hn
    have hnow := congrArg (Option.map fun x => x.2.now) hrun
    exact (Option.some.inj hnow).symm
  | n + 2 =>
    have h2 : ∃ cfg T w₂, blocks silent (quietWorld 0) 2 = some (.reply cfg 0 T 0, w₂) :=
      ⟨_, _, _, rfl⟩
    obtain ⟨cfg', T, w₂, h2⟩ := h2
    rw [blocks, Nat.add_comm, runWhile_add n h2] at hn
    obtain rfl := silent_blocks hn
    -- the turn stays in the same loop
    cases silent_blocks (runWhile_succ 0 hrun rfl)
    cases hloop

/-- It then gives up after 1001 ms and returns. -/
theorem endsInTime_iff_silent :
    silent.Fair ∧ (quietWorld 0).held = false ∧ EndsInTime silent (quietWorld 0) := by
  refine ⟨silent_fair, rfl, (endsInTime_iff silent_fair rfl).mpr ⟨?_, ?_⟩⟩
  · intro n cfg w _
    exact ⟨w.reads, Nat.le_refl _, rfl⟩
  · intro cfg cmd w h
    have hnow := silent_enters h
    refine ⟨1000, ⟨?_, ?_⟩, .inr ⟨?_, ?_⟩⟩
    · rw [silent_ticks]
    · rw [silent_ticks]
      omega
    · rw [silent_received]
      exact Nat.zero_le _
    · rw [silent_ticks, hnow]
      decide

/-- Called 65 s after the start, the function waits for the first reply and
never returns. -/
theorem wrapped_clock_never_returns :
    silent.Fair ∧ (quietWorld 65000).held = false ∧
      ¬ Returns silent (quietWorld 65000) ∧ ¬ EndsInTime silent (quietWorld 65000) := by
  have hwaits : ∃ cfg T w, blocks silent (quietWorld 65000) 2 = some (.reply cfg 0 T 0, w) ∧
      64535 ≤ T.toNat := ⟨_, _, _, rfl, by decide⟩
  have hnot : ¬ Returns silent (quietWorld 65000) := by
    rintro ⟨w', hleaves, -⟩
    obtain ⟨cfg, T, w, hblocks, hT⟩ := hwaits
    obtain ⟨n, l₁, w₁, hn, hrun, -⟩ := hleaves.of_runWhile hblocks
    -- one turn more does not leave the loop either
    have hno : ∀ m, silent.byte m = none := fun _ => rfl
    obtain ⟨w₂, hstays⟩ := reply_for_ever hno hT cfg 0 0 (n + 1) w
    rw [runWhile_add 1 hn] at hstays
    obtain ⟨l₂, w₃, hrun', hl₂, -⟩ := exists_of_runWhile_succ hstays
    cases hrun.symm.trans hrun'
    cases hl₂
  exact ⟨silent_fair, rfl, hnot, fun h => hnot h.1⟩

end MeteoL053.Radio
