import MeteoL053.Radio.Sleep

/-!
Traffic and the enable line of the radio.

The stream thread calls `goToSleep` and `wakeUp` without `uart_bsem`. So a
thread can find the status OK while another is about to switch the module off,
and use the radio while it is off. `Apart` is the condition on a run under
which this cannot happen; `Good` is the invariant of the runs that meet it.
-/

namespace MeteoL053.Radio.Enable

open CallTree Lock

/-- The condition on a step. No thread clears the enable line while another is
in `wakeUp` between setting the line and setting the status; the stream thread
does not clear it while `reconfigure` has found the status OK and not returned;
and `reconfigure` does not find the status OK while the stream thread is in
`goToSleep` between clearing the line and setting the status. -/
def Apart (t : Thread) (s : State) : (c : Call) → Reply c → Prop
  | .palClearLine .hc12Enable, _ =>
    (∀ u, u ≠ t → s.raised u = false) ∧ (t = .stream → s.passed .shell = false)
  | .status, r =>
    t = .shell → s.stack .shell = [.reconfigure] → r = Hc12Status.ok → s.cleared .stream = false
  | _, _ => True

instance (t : Thread) (s : State) (c : Call) (r : Reply c) : Decidable (Apart t s c r) := by
  revert r
  apply Call.casesOn (motive := fun c => ∀ r : Reply c, Decidable (Apart t s c r)) c
  case palClearLine =>
    intro l
    cases l with
    | hc12Enable => exact fun _ => inferInstanceAs (Decidable (_ ∧ _))
    | _ => exact fun _ => isTrue trivial
  case status => exact fun _ => inferInstanceAs (Decidable (_ → _ → _ → _))
  all_goals
    intros
    exact isTrue trivial

instance (t : Thread) (s : State) (c : Call) (r : Reply c) :
    Decidable ((system.restrict Apart).possible t s c r) :=
  inferInstanceAs (Decidable (possible t s c r ∧ Apart t s c r))

/-! ## The global invariant -/

/-- The power thread has switched the module off and will switch it on again
before it gives up the semaphore. -/
def PowerOff (φ : Phase) (status : Hc12Status) : Prop :=
  φ.pos = .sleepCleared ∨ φ.pos = .wakeTested ∨
    status = .sleep ∧ (φ.pos = .sleepDone ∨ φ.pos = .slept ∨ φ.pos = .wakeEntered)

/-- The module is off only when the status says so or a thread is about to say
so, and whoever is going to use the radio is protected by the semaphore. -/
structure On (ph : Thread → Phase) (status : Hc12Status) (enableLine : Bool) : Prop where
  known : status ≠ .nok
  wake_on : ∀ t, (ph t).pos = .wakeRaised → enableLine = true
  user_on : ∀ t, t ≠ .power → (ph t).holds = true → enableLine = true
  ok_on : status = .ok → enableLine = false → ∃ t, (ph t).pos = .sleepCleared
  ready_on : ∀ t, t ≠ .power → (ph t).ready = true → enableLine = false →
    PowerOff (ph .power) status
  apart : (ph .shell).ready = true → (ph .stream).pos ≠ .sleepCleared

variable {ph : Thread → Phase} {status : Hc12Status} {enableLine : Bool} {t : Thread} {φ : Phase}

/-- A step that neither touches the line or the status nor makes its thread a
user of the radio. -/
theorem On.quiet (h : On ph status enableLine)
    (hraised : φ.pos = .wakeRaised → (ph t).pos = .wakeRaised)
    (hcleared : φ.pos = .sleepCleared ↔ (ph t).pos = .sleepCleared)
    (hholds : t ≠ .power → φ.holds = true → (ph t).holds = true)
    (hready : t ≠ .power → φ.ready = true → (ph t).ready = true)
    (hoff : t = .power → PowerOff (ph t) status → PowerOff φ status) :
    On (Function.update ph t φ) status enableLine where
  known := h.known
  wake_on := (Function.forall_update_iff ph fun _ φ => φ.pos = .wakeRaised → _).mpr
    ⟨fun hp => h.wake_on t (hraised hp), fun u _ => h.wake_on u⟩
  user_on := (Function.forall_update_iff ph fun u φ => u ≠ .power → φ.holds = true → _).mpr
    ⟨fun ht hh => h.user_on t ht (hholds ht hh), fun u _ => h.user_on u⟩
  ok_on hs he := by
    obtain ⟨u, hu⟩ := h.ok_on hs he
    exact ⟨u, to_update ph (fun _ φ => φ.pos = .sleepCleared) hcleared.mpr hu⟩
  ready_on u hu hr he := by
    have hr' : (ph u).ready = true :=
      of_update ph (fun u φ => u ≠ .power → φ.ready = true) (fun hx ht => hready ht (hx ht))
        (fun _ => hr) hu
    exact to_update ph (fun u φ => u = .power → PowerOff φ status) (fun hp e => hoff e (hp e))
      (fun _ => h.ready_on u hu hr' he) rfl
  apart hr hc := by
    have hr' : (ph .shell).ready = true :=
      of_update ph (fun u φ => u ≠ .power → φ.ready = true) (fun hx ht => hready ht (hx ht))
        (fun _ => hr) (by decide)
    exact h.apart hr' (of_update ph (fun _ φ => φ.pos = .sleepCleared) hcleared.mp hc)

/-- A thread finds the status OK and will use the radio: if the module is off,
the power thread has switched it off and holds the semaphore. -/
theorem On.setReady (h : On ph .ok enableLine)
    (hstream : (ph .stream).pos ≠ .sleepCleared) (hshell : (ph .shell).pos ≠ .sleepCleared) :
    On (Function.update ph t { ph t with ready := true }) .ok enableLine := by
  have hpos : ∀ u, (Function.update ph t { ph t with ready := true } u).pos = (ph u).pos :=
    apply_update_same Phase.pos (by rfl)
  have hholds : ∀ u, (Function.update ph t { ph t with ready := true } u).holds = (ph u).holds :=
    apply_update_same Phase.holds (by rfl)
  have hoff : enableLine = false → (ph .power).pos = .sleepCleared := by
    intro he
    obtain ⟨u, hu⟩ := h.ok_on rfl he
    cases u with
    | stream => exact absurd hu hstream
    | power => exact hu
    | shell => exact absurd hu hshell
  refine ⟨h.known, ?_, ?_, ?_, ?_, ?_⟩
  · simpa only [hpos] using h.wake_on
  · simpa only [hholds] using h.user_on
  · simpa only [hpos] using h.ok_on
  · intro u _ _ he
    exact .inl ((hpos .power).trans (hoff he))
  · intro _
    rwa [hpos]

/-- `t` has just switched the module off. -/
theorem On.of_cleared (hknown : status ≠ .nok) (hpos : (ph t).pos = .sleepCleared)
    (hraised : ∀ u, (ph u).pos ≠ .wakeRaised)
    (husers : ∀ u, u ≠ .power → (ph u).holds = false)
    (hready : t = .power ∨ ∀ u, u ≠ .power → (ph u).ready = false)
    (hapart : (ph .shell).ready = true → (ph .stream).pos ≠ .sleepCleared) :
    On ph status false where
  known := hknown
  wake_on u hu := absurd hu (hraised u)
  user_on u hu hh := (husers u hu).symm.trans hh
  ok_on _ _ := ⟨t, hpos⟩
  ready_on u hu hr _ := by
    rcases hready with rfl | hnone
    · exact .inl hpos
    · rw [hnone u hu] at hr
      cases hr
  apart := hapart

/-- A step with the line set, after which its thread is not about to switch
the module off. -/
theorem On.of_enabled {status' : Hc12Status} (h : On ph status enableLine)
    (hknown : status' ≠ .nok) (hpos : t = .stream → φ.pos ≠ .sleepCleared)
    (hready : t = .shell → φ.ready = true → (ph t).ready = true) :
    On (Function.update ph t φ) status' true where
  known := hknown
  wake_on _ _ := rfl
  user_on _ _ _ := rfl
  ok_on _ he := by cases he
  ready_on _ _ _ he := by cases he
  apart hr := by
    have hr' : (ph .shell).ready = true :=
      of_update ph (fun u φ => u = .shell → φ.ready = true) (fun hx e => hready e (hx e))
        (fun _ => hr) rfl
    exact to_update ph (fun u φ => u = .stream → φ.pos ≠ .sleepCleared) (fun _ e => hpos e)
      (fun _ => h.apart hr') rfl

/-- What holds of a thread's phase alone. -/
structure Valid (t : Thread) (φ : Phase) : Prop where
  inside : φ.pos = .sleepCleared → .goToSleep ∈ φ.stack
  power : t = .power → φ.pos ≠ .outside → φ.holds = true
  shell : t = .shell → φ.pos ≠ .sleepCleared ∧ (φ.holds = true → φ.ready = true)

theorem Valid.enter (h : Valid t φ) (f : Fn) (ha : (monitor t).allows φ (.enter f)) :
    Valid t ((monitor t).next φ (.enter f) ()) := by
  by_cases hs : f = .goToSleep
  · subst hs
    obtain ⟨-, hm⟩ := ha
    refine ⟨by simp, ?_, ?_⟩
    · rintro rfl _
      exact hm
    · rintro rfl
      exact hm.elim
  · by_cases hw : f = .wakeUp
    · subst hw
      have hp : φ.pos = afterSleep t := ha
      refine ⟨by simp, ?_, fun ht => ⟨by simp, (h.shell ht).2⟩⟩
      rintro rfl _
      exact h.power rfl (by simp [hp, afterSleep])
    · have hpos : ((monitor t).next φ (.enter f) ()).pos = φ.pos := by simp [hs, hw]
      refine ⟨fun hp => ?_, fun ht hp => h.power ht (hpos ▸ hp), fun ht => ?_⟩
      · exact List.mem_cons_of_mem f (h.inside (hpos ▸ hp))
      · exact ⟨hpos ▸ (h.shell ht).1, (h.shell ht).2⟩

theorem Valid.leave (h : Valid t φ) (f : Fn) (b : Bool)
    (ha : (monitor t).allows φ (.leave f b)) :
    Valid t ((monitor t).next φ (.leave f b) ()) := by
  by_cases hs : f = .goToSleep
  · subst hs
    have hp : φ.pos = .sleepDone := ha
    refine ⟨?_, fun ht _ => h.power ht (by simp [hp]), fun ht => ⟨?_, ?_⟩⟩
    · cases t <;> simp [afterSleep]
    · simp [ht, afterSleep]
    · simpa using (h.shell ht).2
  · by_cases hw : f = .wakeUp
    · subst hw
      refine ⟨by simp, by simp, fun ht => ⟨by simp, ?_⟩⟩
      simpa using (h.shell ht).2
    · have hpos : ((monitor t).next φ (.leave f b) ()).pos = φ.pos := by simp [hs, hw]
      have hne : φ.pos ≠ .sleepCleared := by
        cases f with
        | goToSleep => exact absurd rfl hs
        | wakeUp => exact absurd rfl hw
        | reconfigure => exact fun hp => nomatch ha.1.symm.trans hp
        | _ => exact ha
      refine ⟨fun hp => absurd (hpos.symm.trans hp) hne, fun ht hp => h.power ht (hpos ▸ hp),
        fun ht => ⟨hpos ▸ hne, fun hh => ?_⟩⟩
      have hr := (h.shell ht).2 hh
      have hf : f ≠ .reconfigure := by
        rintro rfl
        obtain ⟨-, hn⟩ := ha
        exact absurd hh (by simp [hn])
      simp [hf, hr]

theorem Valid.readStatus (h : Valid t φ) (r : Hc12Status) (ha : (monitor t).allows φ .status) :
    Valid t ((monitor t).next φ .status r) := by
  rcases ha with hp | hp | ⟨hp, rfl, hs⟩
  · have hh := fun ht => h.power ht (by simp [hp])
    rw [next_status_asleep t φ r hp]
    refine ⟨?_, fun ht _ => hh ht, fun ht => ⟨?_, (h.shell ht).2⟩⟩ <;> dsimp only <;> split <;> simp
  · have hh := fun ht => h.power ht (by simp [hp])
    rw [next_status_awake t φ r hp]
    split
    · exact ⟨by simp, fun ht _ => hh ht, fun ht => ⟨by simp, (h.shell ht).2⟩⟩
    · refine ⟨by simp, fun ht _ => hh ht, fun ht => ⟨by simp, fun hold => ?_⟩⟩
      simp [(h.shell ht).2 hold]
  · rw [next_status_outside .shell φ r hp]
    refine ⟨by simp [hp], by simp, fun ht => ⟨by simp [hp], fun hold => ?_⟩⟩
    simp [(h.shell ht).2 hold]

theorem Valid.next (h : Valid t φ) {c : Call} (r : Reply c) (ha : (monitor t).allows φ c) :
    Valid t ((monitor t).next φ c r) := by
  cases c with
  | enter f => exact h.enter f ha
  | leave f b => exact h.leave f b ha
  | status => exact h.readStatus r ha
  | palClearLine l =>
    cases l with
    | hc12Enable =>
      obtain ⟨-, hm, hin⟩ := ha
      refine ⟨fun _ => hin, ?_, ?_⟩
      · rintro rfl _
        exact hm
      · rintro rfl
        exact hm.elim
    | _ => exact h
  | palSetLine l =>
    cases l with
    | hc12Enable =>
      have hp : φ.pos = .wakeTested := ha
      refine ⟨by simp, fun ht _ => h.power ht (by simp [hp]), fun ht => ?_⟩
      exact ⟨by simp, (h.shell ht).2⟩
    | _ => exact h
  | setStatus v =>
    cases v with
    | nok => exact ha.elim
    | sleep =>
      have hp : φ.pos = .sleepCleared := ha
      exact ⟨by simp, fun ht _ => h.power ht (by simp [hp]),
        fun ht => ⟨by simp, (h.shell ht).2⟩⟩
    | ok =>
      have hp : φ.pos = .wakeRaised := ha
      refine ⟨by simp, fun ht _ => h.power ht (by simp [hp]),
        fun ht => ⟨by simp, fun hold => ?_⟩⟩
      simp [(h.shell ht).2 hold]
  | chBSemWait =>
    obtain ⟨hp, -, hr⟩ := ha
    exact ⟨h.inside, fun _ _ => rfl, fun ht => ⟨(h.shell ht).1, fun _ => hr (by simp [ht])⟩⟩
  | chBSemWaitTimeout ticks =>
    obtain ⟨hp, -, hr⟩ := ha
    exact ⟨h.inside, fun _ hn => absurd hp hn,
      fun ht => ⟨(h.shell ht).1, fun _ => hr (by simp [ht])⟩⟩
  | chBSemSignal =>
    obtain ⟨hp, -⟩ := ha
    exact ⟨h.inside, fun _ hn => absurd hp hn, fun ht => ⟨(h.shell ht).1, by simp⟩⟩
  | _ => exact h

/-- The phases say what the semaphore and the history variables say. -/
structure Tied (ph : Thread → Phase) (s : State) : Prop where
  lock : Exclusive s.uartBsem s.holds
  holds : s.holds = Phase.holds ∘ ph
  stack : s.stack = Phase.stack ∘ ph
  raised : ∀ t, (ph t).pos = .wakeRaised → s.raised t = true
  cleared : ∀ t, (ph t).pos = .sleepCleared → s.cleared t = true
  passed : (ph .shell).ready = true → s.passed .shell = true

variable {s : State} {c : Call} {r : Reply c}

theorem Tied.holds_eq (h : Tied ph s) (t : Thread) : s.holds t = (ph t).holds :=
  congrFun h.holds t

theorem Tied.stack_eq (h : Tied ph s) (t : Thread) : s.stack t = (ph t).stack :=
  congrFun h.stack t

/-! What a call does to the history of its own thread. -/

theorem next_status_same (φ : Phase) (r : Hc12Status) :
    ((monitor t).next φ .status r).holds = φ.holds ∧
      ((monitor t).next φ .status r).stack = φ.stack := by
  simp only [monitor]
  split <;> try split
  all_goals exact ⟨rfl, rfl⟩

theorem effect_status_same (r : Hc12Status) :
    (effect t s .status r).holds = s.holds ∧ (effect t s .status r).stack = s.stack := by
  simp only [effect]
  split <;> exact ⟨rfl, rfl⟩

theorem effect_holds (ha : (monitor t).allows φ c) (h : s.holds t = φ.holds) :
    (effect t s c r).holds = Function.update s.holds t ((monitor t).next φ c r).holds := by
  have hsame : s.holds = Function.update s.holds t φ.holds := by
    rw [← h, Function.update_eq_self]
  cases c with
  | chBSemWait | chBSemSignal => rfl
  | chBSemWaitTimeout ticks =>
    cases r with
    | true => rfl
    | false =>
      rw [ha.2.1] at hsame
      exact hsame
  | status => rw [(effect_status_same r).1, (next_status_same φ r).1]; exact hsame
  | palSetLine l => cases l <;> exact hsame
  | palClearLine l => cases l <;> exact hsame
  | setStatus v => cases v <;> exact hsame
  | _ => exact hsame

theorem effect_stack (h : s.stack t = φ.stack) :
    (effect t s c r).stack = Function.update s.stack t ((monitor t).next φ c r).stack := by
  have hsame : s.stack = Function.update s.stack t φ.stack := by
    rw [← h, Function.update_eq_self]
  cases c with
  | enter f => exact congrArg (fun fs => Function.update s.stack t (f :: fs)) h
  | leave f b => exact congrArg (fun fs => Function.update s.stack t fs.tail) h
  | chBSemWaitTimeout ticks => cases r <;> exact hsame
  | status => rw [(effect_status_same r).2, (next_status_same φ r).2]; exact hsame
  | palSetLine l => cases l <;> exact hsame
  | palClearLine l => cases l <;> exact hsame
  | setStatus v => cases v <;> exact hsame
  | _ => exact hsame

theorem afterSleep_cases (t : Thread) : afterSleep t = .outside ∨ afterSleep t = .slept := by
  cases t <;> simp [afterSleep]

/-- Only setting and clearing the enable line lead to the two positions between
the line and the status, and only setting the status leads away from them. -/
theorem next_pos (ha : (monitor t).allows φ c) :
    (((monitor t).next φ c r).pos = .wakeRaised →
      c = .palSetLine .hc12Enable ∨ φ.pos = .wakeRaised ∧ ∀ v, c ≠ .setStatus v) ∧
    (((monitor t).next φ c r).pos = .sleepCleared →
      c = .palClearLine .hc12Enable ∨ φ.pos = .sleepCleared ∧ ∀ v, c ≠ .setStatus v) := by
  cases c with
  | palSetLine l =>
    cases l with
    | hc12Enable => simp
    | _ => exact ⟨fun hp => .inr ⟨hp, nofun⟩, fun hp => .inr ⟨hp, nofun⟩⟩
  | palClearLine l =>
    cases l with
    | hc12Enable => simp
    | _ => exact ⟨fun hp => .inr ⟨hp, nofun⟩, fun hp => .inr ⟨hp, nofun⟩⟩
  | setStatus v =>
    cases v with
    | nok => exact ha.elim
    | _ => simp
  | status =>
    rcases ha with hp | hp | ⟨hp, -, -⟩
    · rw [next_status_asleep t φ r hp]
      dsimp only
      split <;> simp
    · rw [next_status_awake t φ r hp]
      split <;> simp
    · rw [next_status_outside t φ r hp]
      simp [hp]
  | enter f =>
    rw [next_enter]
    dsimp only
    split
    · simp
    · split <;> simp
  | leave f b =>
    rw [next_leave]
    dsimp only
    split
    · rcases afterSleep_cases t with e | e <;> simp [e]
    · split <;> simp
  | _ => exact ⟨fun hp => .inr ⟨hp, nofun⟩, fun hp => .inr ⟨hp, nofun⟩⟩

theorem effect_raised (hc : ∀ v, c ≠ .setStatus v) (h : s.raised t = true) :
    (effect t s c r).raised t = true := by
  cases c with
  | palSetLine l =>
    cases l with
    | hc12Enable => exact Function.update_self ..
    | _ => exact h
  | palClearLine l => cases l <;> exact h
  | chBSemWaitTimeout ticks => cases r <;> exact h
  | status => simp only [effect]; split <;> exact h
  | setStatus v => exact absurd rfl (hc v)
  | _ => exact h

theorem effect_cleared (hc : ∀ v, c ≠ .setStatus v) (h : s.cleared t = true) :
    (effect t s c r).cleared t = true := by
  cases c with
  | palSetLine l => cases l <;> exact h
  | palClearLine l =>
    cases l with
    | hc12Enable => exact Function.update_self ..
    | _ => exact h
  | chBSemWaitTimeout ticks => cases r <;> exact h
  | status => simp only [effect]; split <;> exact h
  | setStatus v => exact absurd rfl (hc v)
  | _ => exact h

/-- `reconfigure` becomes ready only by finding the status OK, and the history
keeps it until it returns. -/
theorem effect_passed (ha : (monitor .shell).allows φ c) (hs : s.stack .shell = φ.stack)
    (h : φ.ready = true → s.passed .shell = true)
    (hr : ((monitor .shell).next φ c r).ready = true) :
    (effect .shell s c r).passed .shell = true := by
  cases c with
  | palSetLine l => cases l <;> exact h hr
  | palClearLine l => cases l <;> exact h hr
  | chBSemWaitTimeout ticks => cases r <;> exact h hr
  | chBSemSignal => exact h (by simpa using hr)
  | setStatus v =>
    cases v with
    | nok => exact ha.elim
    | sleep => exact h hr
    | ok => exact h (by simpa using hr)
  | status =>
    rcases ha with hp | hp | ⟨hp, -, hstack⟩
    · have hr' : φ.ready = true := by simpa [next_status_asleep .shell φ r hp] using hr
      simp only [effect]
      split
      · simp
      · exact h hr'
    · have hr' : φ.ready = true := by
        rw [next_status_awake .shell φ r hp] at hr
        split at hr <;> simpa using hr
      simp only [effect]
      split
      · simp
      · exact h hr'
    · simp only [effect, hs, hstack, true_and]
      split
      · simp
      · next hne => exact h (by simpa [next_status_outside .shell φ r hp, hne] using hr)
  | leave f b =>
    have hf : f ≠ .reconfigure ∧ φ.ready = true := by simpa using hr
    simpa [effect, hf.1] using h hf.2
  | _ => exact h hr

theorem effect_other {u : Thread} (hu : u ≠ t) :
    (effect t s c r).raised u = s.raised u ∧ (effect t s c r).cleared u = s.cleared u ∧
      (effect t s c r).passed u = s.passed u := by
  cases c with
  | palSetLine l =>
    cases l with
    | hc12Enable => exact ⟨Function.update_of_ne hu _ _, rfl, rfl⟩
    | _ => exact ⟨rfl, rfl, rfl⟩
  | palClearLine l =>
    cases l with
    | hc12Enable => exact ⟨rfl, Function.update_of_ne hu _ _, rfl⟩
    | _ => exact ⟨rfl, rfl, rfl⟩
  | chBSemWaitTimeout ticks => cases r <;> exact ⟨rfl, rfl, rfl⟩
  | setStatus v => exact ⟨Function.update_of_ne hu _ _, Function.update_of_ne hu _ _, rfl⟩
  | status => simp only [effect]; split <;> simp [hu]
  | leave f b => simp only [effect]; split <;> simp [hu]
  | _ => exact ⟨rfl, rfl, rfl⟩

theorem Tied.call (h : Tied ph s) (ha : (monitor t).allows (ph t) c) (hr : possible t s c r) :
    Tied (Function.update ph t ((monitor t).next (ph t) c r)) (effect t s c r) where
  lock := by
    cases c with
    | chBSemWait => exact h.lock.acquire hr t
    | chBSemWaitTimeout ticks =>
      cases r with
      | true => exact h.lock.acquire (hr rfl) t
      | false => exact h.lock
    | chBSemSignal => exact h.lock.release ((h.holds_eq t).trans ha.2)
    | palSetLine l => cases l <;> exact h.lock
    | palClearLine l => cases l <;> exact h.lock
    | status => simp only [effect]; split <;> exact h.lock
    | _ => exact h.lock
  holds := by rw [effect_holds ha (h.holds_eq t), Function.comp_update, ← h.holds]
  stack := by rw [effect_stack (h.stack_eq t), Function.comp_update, ← h.stack]
  raised := by
    refine (Function.forall_update_iff ph fun u φ => φ.pos = .wakeRaised → _).mpr ⟨fun hp => ?_, ?_⟩
    · rcases (next_pos ha).1 hp with rfl | ⟨hold, hc⟩
      · simp [effect]
      · exact effect_raised hc (h.raised t hold)
    · intro u hu hp
      exact (effect_other hu).1.trans (h.raised u hp)
  cleared := by
    refine (Function.forall_update_iff ph fun u φ => φ.pos = .sleepCleared → _).mpr ⟨fun hp => ?_, ?_⟩
    · rcases (next_pos ha).2 hp with rfl | ⟨hold, hc⟩
      · simp [effect]
      · exact effect_cleared hc (h.cleared t hold)
    · intro u hu hp
      exact (effect_other hu).2.1.trans (h.cleared u hp)
  passed := by
    by_cases ht : t = .shell
    · subst ht
      rw [Function.update_self]
      exact effect_passed ha (h.stack_eq _) h.passed
    · rw [Function.update_of_ne (Ne.symm ht), (effect_other (Ne.symm ht)).2.2]
      exact h.passed

/-! What a call does to the line and the status, and who may then use the radio. -/

theorem PowerOff.pos_ne_outside (h : PowerOff φ status) : φ.pos ≠ .outside := by
  rcases h with h | h | ⟨-, h | h | h⟩ <;> simp [h]

theorem On.setSleep (h : On ph status enableLine) (hp : (ph t).pos = .sleepCleared) :
    On (Function.update ph t { ph t with pos := .sleepDone }) .sleep enableLine where
  known := by simp
  wake_on := (Function.forall_update_iff ph fun _ φ => φ.pos = .wakeRaised → _).mpr
    ⟨by simp, fun u _ => h.wake_on u⟩
  user_on u hu hh := h.user_on u hu ((apply_update_same Phase.holds (by rfl) u).symm.trans hh)
  ok_on hs := by cases hs
  ready_on u hu hr he := by
    have hoff := h.ready_on u hu ((apply_update_same Phase.ready (by rfl) u).symm.trans hr) he
    by_cases e : t = .power
    · subst e
      exact .inr (.inr ⟨rfl, by simp⟩)
    · rw [Function.update_of_ne (Ne.symm e)]
      rcases hoff with hc | hw | ⟨-, hp⟩
      · exact .inl hc
      · exact .inr (.inl hw)
      · exact .inr (.inr ⟨rfl, hp⟩)
  apart hr := by
    have hr' := (apply_update_same Phase.ready (by rfl) Thread.shell).symm.trans hr
    by_cases e : t = .stream
    · subst e
      exact absurd hp (h.apart hr')
    · rw [Function.update_of_ne (Ne.symm e)]
      exact h.apart hr'

/-- While the power thread does not hold the semaphore, the line is set for
everybody who is ready to use the radio. -/
theorem On.enabled_of_ready (h : On ph status enableLine) (hv : Valid .power (ph .power))
    (hfree : (ph .power).holds = false) (ht : t ≠ .power) (hr : (ph t).ready = true) :
    enableLine = true := by
  cases he : enableLine with
  | true => rfl
  | false =>
    have hoff := h.ready_on t ht hr he
    rw [hv.power rfl hoff.pos_ne_outside] at hfree
    cases hfree

theorem On.enter (h : On ph status enableLine) (f : Fn)
    (ha : (monitor t).allows (ph t) (.enter f)) :
    On (Function.update ph t ((monitor t).next (ph t) (.enter f) ())) status enableLine := by
  by_cases hs : f = .goToSleep
  · subst hs
    have hp : (ph t).pos = .outside := ha.1
    refine h.quiet (by simp) (by simp [hp]) (fun _ hh => hh) (fun _ hr => hr) ?_
    exact fun _ hoff => absurd hp hoff.pos_ne_outside
  · by_cases hw : f = .wakeUp
    · subst hw
      have hp : (ph t).pos = afterSleep t := ha
      refine h.quiet (by simp) ?_ (fun _ hh => hh) (fun _ hr => hr) ?_
      · rcases afterSleep_cases t with e | e <;> simp [hp, e]
      · rintro rfl hoff
        rcases hoff with hc | hc | ⟨hst, -⟩
        · simp [hp, afterSleep] at hc
        · simp [hp, afterSleep] at hc
        · exact .inr (.inr ⟨hst, by simp⟩)
    · have hpos : ((monitor t).next (ph t) (.enter f) ()).pos = (ph t).pos := by
        simp [hs, hw]
      refine h.quiet (by rw [hpos]; exact id) (by rw [hpos]) (fun _ hh => hh) (fun _ hr => hr) ?_
      intro _ hoff
      rwa [PowerOff, hpos]

theorem On.leave (h : On ph status enableLine) (f : Fn) (b : Bool)
    (ha : (monitor t).allows (ph t) (.leave f b)) :
    On (Function.update ph t ((monitor t).next (ph t) (.leave f b) ())) status enableLine := by
  have hready : t ≠ .power → ((monitor t).next (ph t) (.leave f b) ()).ready = true →
      (ph t).ready = true := by
    intro _ hr
    have hr' : f ≠ .reconfigure ∧ (ph t).ready = true := by simpa using hr
    exact hr'.2
  by_cases hs : f = .goToSleep
  · subst hs
    have hp : (ph t).pos = .sleepDone := ha
    refine h.quiet ?_ ?_ (fun _ hh => hh) hready ?_
    · rcases afterSleep_cases t with e | e <;> simp [e]
    · rcases afterSleep_cases t with e | e <;> simp [hp, e]
    · rintro rfl hoff
      rcases hoff with hc | hc | ⟨hst, -⟩
      · simp [hp] at hc
      · simp [hp] at hc
      · exact .inr (.inr ⟨hst, by simp [afterSleep]⟩)
  · by_cases hw : f = .wakeUp
    · subst hw
      have hp : (ph t).pos = .wakeDone := ha
      refine h.quiet (by simp) (by simp [hp]) (fun _ hh => hh) hready ?_
      intro _ hoff
      simp [PowerOff, hp] at hoff
    · have hpos : ((monitor t).next (ph t) (.leave f b) ()).pos = (ph t).pos := by
        simp [hs, hw]
      refine h.quiet (by rw [hpos]; exact id) (by rw [hpos]) (fun _ hh => hh) hready ?_
      intro _ hoff
      rwa [PowerOff, hpos]

theorem On.readStatus (h : On ph status enableLine) (hshell : (ph .shell).pos ≠ .sleepCleared)
    (ha : (monitor t).allows (ph t) .status)
    (hg : t = .shell → (ph .shell).stack = [.reconfigure] → status = .ok →
      (ph .stream).pos ≠ .sleepCleared) :
    On (Function.update ph t ((monitor t).next (ph t) .status status)) status enableLine := by
  rcases ha with hp | hp | ⟨hp, rfl, hstack⟩
  · rw [next_status_asleep t _ _ hp]
    refine h.quiet ?_ ?_ (fun _ hh => hh) (fun _ hr => hr) fun _ hoff => ?_
    · dsimp only
      split <;> simp
    · dsimp only
      split <;> simp [hp]
    · simp [PowerOff, hp] at hoff
  · rw [next_status_awake t _ _ hp]
    split
    · exact h.quiet (by simp) (by simp [hp]) (fun _ hh => hh) (fun _ hr => hr)
        fun _ _ => .inr (.inl rfl)
    · next hne =>
      have hoff : t = .power → PowerOff (ph t) status →
          PowerOff { ph t with pos := .wakeDone, ready := t = .stream || (ph t).ready } status := by
        intro _ hoff
        simp [PowerOff, hp, hne] at hoff
      by_cases e : t = .stream
      · -- the stream thread goes on to use the radio
        subst e
        have hok : status = .ok := by
          cases status with
          | nok => exact absurd rfl h.known
          | sleep => exact absurd rfl hne
          | ok => rfl
        subst hok
        have hready := h.setReady (t := .stream) (by simp [hp]) hshell
        have hq := hready.quiet (t := .stream)
          (φ := { ph .stream with pos := .wakeDone, ready := true }) (by simp)
          (by simp [hp]) (by simp) (by simp) (by simp)
        rw [Function.update_idem] at hq
        exact hq
      · refine h.quiet (by simp) (by simp [hp]) (fun _ hh => hh) ?_ hoff
        intro _ hr
        simpa [e] using hr
  · by_cases hok : status = .ok
    · subst hok
      have hnext : (monitor .shell).next (ph .shell) .status Hc12Status.ok =
          { ph .shell with ready := true } := by
        simp [next_status_outside .shell _ _ hp]
      rw [hnext]
      exact h.setReady (hg rfl hstack rfl) hshell
    · have hnext : (monitor .shell).next (ph .shell) .status status = ph .shell := by
        simp [next_status_outside .shell _ _ hp, hok]
      rw [hnext, Function.update_eq_self]
      exact h

theorem On.clearEnable {s : State} (h : On ph s.status s.enableLine) (htied : Tied ph s)
    (hvalid : ∀ t, Valid t (ph t)) (ha : (monitor t).allows (ph t) (.palClearLine .hc12Enable))
    (hg : Apart t s (.palClearLine .hc12Enable) ()) :
    On (Function.update ph t { ph t with pos := .sleepCleared }) s.status false := by
  obtain ⟨hp, hm, -⟩ := ha
  obtain ⟨hraised, hpassed⟩ := hg
  have hraised' : ∀ u, (Function.update ph t { ph t with pos := .sleepCleared } u).pos ≠
      .wakeRaised := by
    refine (Function.forall_update_iff ph fun _ φ => φ.pos ≠ .wakeRaised).mpr ⟨by simp, ?_⟩
    intro u hu hw
    have hr := htied.raised u hw
    rw [hraised u hu] at hr
    cases hr
  have hholds : ∀ u, (Function.update ph t { ph t with pos := .sleepCleared } u).holds =
      (ph u).holds := apply_update_same Phase.holds (by rfl)
  have hready : ∀ u, (Function.update ph t { ph t with pos := .sleepCleared } u).ready =
      (ph u).ready := apply_update_same Phase.ready (by rfl)
  cases t with
  | stream =>
    -- the shell is not past its test of the status
    have hshell : (ph .shell).ready = false := by
      cases hr : (ph .shell).ready with
      | false => rfl
      | true =>
        have hp' := htied.passed hr
        rw [hpassed rfl] at hp'
        cases hp'
    have hshell' : (ph .shell).holds = false := by
      cases hh : (ph .shell).holds with
      | false => rfl
      | true =>
        have hr := ((hvalid .shell).shell rfl).2 hh
        rw [hshell] at hr
        cases hr
    refine On.of_cleared (t := .stream) h.known (by simp) hraised' ?_ (.inr ?_) ?_
    · intro u hu
      rw [hholds]
      cases u with
      | stream => exact hm.1
      | power => exact absurd rfl hu
      | shell => exact hshell'
    · intro u hu
      rw [hready]
      cases u with
      | stream => exact hm.2
      | power => exact absurd rfl hu
      | shell => exact hshell
    · intro hr
      rw [hready, hshell] at hr
      cases hr
  | power =>
    -- the power thread holds the semaphore, so nobody else does
    have hhold : s.holds .power = true := (htied.holds_eq .power).trans hm
    refine On.of_cleared (t := .power) h.known (by simp) hraised' ?_ (.inl rfl) ?_
    · intro u hu
      rw [hholds, ← htied.holds_eq]
      exact htied.lock.not_holds hhold hu
    · simpa using h.apart
  | shell => exact hm.elim

/-- The invariant of the runs that meet `Apart`. -/
structure Good (ph : Thread → Phase) (s : State) : Prop where
  valid : ∀ t, Valid t (ph t)
  tied : Tied ph s
  on : On ph s.status s.enableLine

theorem Good.on_call (h : Good ph s) (ha : (monitor t).allows (ph t) c)
    (hr : possible t s c r) (hg : Apart t s c r) :
    On (Function.update ph t ((monitor t).next (ph t) c r)) (effect t s c r).status
      (effect t s c r).enableLine := by
  have hsame : On (Function.update ph t (ph t)) s.status s.enableLine := by
    rw [Function.update_eq_self]
    exact h.on
  have hshell : (ph .shell).pos ≠ .sleepCleared := ((h.valid .shell).shell rfl).1
  -- a thread that is about to take the semaphore finds the line set
  have htake : s.uartBsem = false → ((monitor t).allows (ph t) .chBSemWait) →
      On (Function.update ph t { ph t with holds := true }) s.status s.enableLine := by
    intro hfree ha
    by_cases e : t = .power
    · exact h.on.quiet id Iff.rfl (fun hne => absurd e hne) (fun hne => absurd e hne)
        fun _ hoff => hoff
    · have hpow : (ph .power).holds = false :=
        (h.tied.holds_eq .power).symm.trans (h.tied.lock.free hfree .power)
      have hon := h.on.enabled_of_ready (h.valid .power) hpow e (ha.2.2 e)
      rw [hon]
      refine h.on.of_enabled h.on.known (fun _ => ?_) fun _ hr => hr
      rw [show (ph t).pos = .outside from ha.1]
      decide
  cases c with
  | enter f => exact h.on.enter f ha
  | leave f b => exact h.on.leave f b ha
  | status =>
    have hon := h.on.readStatus hshell ha fun ht hstack hok hc => by
      have hcl := hg ht ((h.tied.stack_eq .shell).trans hstack) (hr.trans hok)
      rw [h.tied.cleared .stream hc] at hcl
      cases hcl
    obtain rfl : r = s.status := hr
    simp only [effect]
    split <;> exact hon
  | palClearLine l =>
    cases l with
    | hc12Enable => exact h.on.clearEnable h.tied h.valid ha hg
    | _ => exact hsame
  | palSetLine l =>
    cases l with
    | hc12Enable =>
      exact h.on.of_enabled h.on.known (fun _ => by simp) fun _ hr => hr
    | _ => exact hsame
  | setStatus v =>
    cases v with
    | nok => exact ha.elim
    | sleep => exact h.on.setSleep ha
    | ok =>
      have hon : s.enableLine = true := h.on.wake_on t ha
      simp only [effect, hon]
      refine h.on.of_enabled (by decide) (fun _ => by simp) ?_
      rintro rfl hr
      simpa using hr
  | chBSemWait => exact htake hr ha
  | chBSemWaitTimeout ticks =>
    cases r with
    | true => exact htake (hr rfl) ha
    | false =>
      exact h.on.quiet id Iff.rfl (fun _ hh => by cases hh) (fun _ hr => hr) fun _ hoff => hoff
  | chBSemSignal =>
    refine h.on.quiet id Iff.rfl (fun _ hh => by cases hh) (fun _ hr => ?_) fun _ hoff => hoff
    have hr' : t ≠ .stream ∧ (ph t).ready = true := by simpa using hr
    exact hr'.2
  | _ => exact hsame

theorem reachable_good {p : Pool Thread Call Reply Block State}
    (h : (system.restrict Apart).Reachable pinged p) : System.Inv monitor Between Good p := by
  refine h.invariant body_follows ?_ ?_
  · intro ph s t c r hg ha hr
    refine ⟨trivial, ?_, hg.tied.call ha hr.1, hg.on_call ha hr.1 hr.2⟩
    exact (Function.forall_update_iff ph fun t φ => Valid t φ).mpr
      ⟨(hg.valid t).next r ha, fun u _ => hg.valid u⟩
  · refine ⟨fun _ => {}, fun t => ?_, fun t => ?_, ?_, ?_⟩
    · cases t with
      | stream => exact pinged_follows
      | power => rfl
      | shell => rfl
    · exact ⟨by simp, by simp, by simp⟩
    · exact ⟨Exclusive.initial, rfl, rfl, by simp, by simp, by simp⟩
    · exact ⟨by decide, by simp, by simp, by simp [pinged, quiet], by simp, by simp⟩

/-- A run that does not meet `Apart`. While the stream thread sleeps in
`goToSleep`, with the enable line cleared and the status still OK, the shell
passes the tests of `reconfigure`; its first AT command goes to a module that
is off. -/
def offRun : List (Thread × (c : Call) × Reply c) :=
  [(.stream, ⟨.enter .goToSleep, ()⟩), (.stream, ⟨.status, .ok⟩),
   (.stream, ⟨.palClearLine .hc12Enable, ()⟩),
   (.shell, ⟨.nextCfg, ⟨1, 9600, 3, 8⟩⟩), (.shell, ⟨.enter .reconfigure, ()⟩),
   (.shell, ⟨.status, .ok⟩), (.shell, ⟨.status, .ok⟩),
   (.shell, ⟨.chBSemWaitTimeout 1000, true⟩),
   (.shell, ⟨.enter .progMode, ()⟩), (.shell, ⟨.palClearLine .hc12Set, ()⟩),
   (.stream, ⟨.chThdSleepMilliseconds 10, ()⟩), (.stream, ⟨.setStatus .sleep, ()⟩),
   (.stream, ⟨.leave .goToSleep true, ()⟩), (.stream, ⟨.setHwStatus .ok, ()⟩),
   (.shell, ⟨.chThdSleepMilliseconds 50, ()⟩), (.shell, ⟨.leave .progMode true, ()⟩),
   (.shell, ⟨.chnRead 0 1, []⟩)]

theorem traffic_while_off :
    ∃ p, system.Reachable pinged p ∧ p.AboutTo .shell (.chprintf "AT+C001") ∧
      p.shared.enableLine = false := by
  obtain ⟨p, h, hp⟩ := System.Reachable.exists_of_playAll system pinged offRun
    (fun p => (p.nextCall .shell, p.shared.enableLine))
    (b := (some (.chprintf "AT+C001"), false)) (by decide +kernel)
  obtain ⟨hc, he⟩ := Prod.mk.inj hp
  exact ⟨p, h, Pool.aboutTo_of_nextCall hc, he⟩

/-- **No traffic while the module is off**, in the runs that meet `Apart`: a
thread writes to the channel only with the enable line set, and outside
`goToSleep` and `wakeUp` the status OK means that the line is set. -/
theorem traffic_enabled {p : Pool Thread Call Reply Block State}
    (h : (system.restrict Apart).Reachable pinged p) :
    (∀ t bs, p.AboutTo t (.chnWrite bs) → p.shared.enableLine = true) ∧
    (∀ t text, p.AboutTo t (.chprintf text) → p.shared.enableLine = true) ∧
    ((∀ t, .goToSleep ∉ p.shared.stack t ∧ .wakeUp ∉ p.shared.stack t) →
      p.shared.status = .ok → p.shared.enableLine = true) := by
  have hinv := reachable_good h
  refine ⟨fun t bs ht => ?_, fun t text ht => ?_, fun hout hok => ?_⟩
  · obtain ⟨ph, ⟨hne, hh⟩, hg⟩ := hinv.allows ht
    exact hg.on.user_on t hne hh
  · obtain ⟨ph, ⟨hne, hh⟩, hg⟩ := hinv.allows ht
    exact hg.on.user_on t hne hh
  · obtain ⟨ph, -, hg⟩ := hinv
    cases he : p.shared.enableLine with
    | true => rfl
    | false =>
      obtain ⟨t, ht⟩ := hg.on.ok_on hok he
      have hin := (hg.valid t).inside ht
      rw [← hg.tied.stack_eq] at hin
      exact absurd hin (hout t).1

/-- The stream thread goes to sleep, is woken by a message and is about to send it. -/
def wokenRun : List (Thread × (c : Call) × Reply c) :=
  [(.stream, ⟨.enter .goToSleep, ()⟩), (.stream, ⟨.status, .ok⟩),
   (.stream, ⟨.palClearLine .hc12Enable, ()⟩), (.stream, ⟨.chThdSleepMilliseconds 10, ()⟩),
   (.stream, ⟨.setStatus .sleep, ()⟩), (.stream, ⟨.leave .goToSleep true, ()⟩),
   (.stream, ⟨.setHwStatus .ok, ()⟩),
   (.stream, ⟨.chMBFetch, some (0 : Obj)⟩),
   (.stream, ⟨.enter .wakeUp, ()⟩), (.stream, ⟨.status, .sleep⟩),
   (.stream, ⟨.palSetLine .hc12Enable, ()⟩), (.stream, ⟨.chThdSleepMilliseconds 500, ()⟩),
   (.stream, ⟨.setStatus .ok, ()⟩), (.stream, ⟨.leave .wakeUp true, ()⟩),
   (.stream, ⟨.chBSemWait, ()⟩),
   (.stream, ⟨.load 0, ⟨List.replicate streamMessageSize 0x41, 2, rfl⟩⟩)]

theorem traffic_enabled_wokenRun :
    ∃ p, (system.restrict Apart).Reachable pinged p ∧
      p.AboutTo .stream (.chnWrite [0x41, 0x41]) ∧ p.shared.enableLine = true := by
  obtain ⟨p, h, hp⟩ := System.Reachable.exists_of_playAll (system.restrict Apart) pinged wokenRun
    (fun p => p.nextCall .stream) (b := some (.chnWrite [0x41, 0x41])) (by decide +kernel)
  have hw := Pool.aboutTo_of_nextCall hp
  exact ⟨p, h, hw, (traffic_enabled h).1 .stream _ hw⟩

end MeteoL053.Radio.Enable
