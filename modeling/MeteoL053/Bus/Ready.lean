import MeteoL053.Bus.System

/-!
Transfers and the state of the I2C driver.

A transfer that times out leaves the driver LOCKED, and the next operation on
the bus has to recover it. `BMP280_write_register8` does not: after a timeout of
any thread it starts its transfer on the locked driver. In the runs in which it
never acquires the bus of a locked driver, every transfer starts with the driver
READY.
-/

namespace MeteoL053.Bus

open CallTree Lock

variable {ι : Type}

/-- The condition on a step: the operation without the check does not acquire
the bus while the driver is locked. -/
def Unlocked (t : ι) (s : State ι) : (c : Call) → Reply c → Prop
  | .i2cAcquireBus, _ => s.unchecked t = true → s.state ≠ .locked
  | _, _ => True

instance (t : ι) (s : State ι) (c : Call) (r : Reply c) : Decidable (Unlocked t s c r) := by
  revert r
  apply Call.casesOn (motive := fun c => ∀ r : Reply c, Decidable (Unlocked t s c r)) c <;> intros <;>
    first
    | exact isTrue trivial
    | exact inferInstanceAs (Decidable (_ = _ → _ ≠ _))

variable [DecidableEq ι]

instance (t : ι) (s : State ι) (c : Call) (r : Reply c) :
    Decidable (((system ι true).restrict Unlocked).possible t s c r) :=
  inferInstanceAs (Decidable (possible true t s c r ∧ Unlocked t s c r))

/-- The driver runs, locked or not. -/
def Running (state : I2cState) : Prop := state = .ready ∨ state = .locked

/-- What the stages say about the driver. -/
structure Known (ph : ι → Phase) (s : State ι) : Prop where
  good : Good ph s
  unchecked : ∀ t, s.unchecked t = (ph t).unchecked
  usable : ∀ t, (ph t).stage = .usable → s.state = .ready
  acquired : ∀ t, (ph t).stage = .acquired → Running s.state
  free : s.busMtx = false → Running s.state

variable {ph : ι → Phase} {s s' : State ι} {t : ι} {φ : Phase}

omit [DecidableEq ι] in
theorem Good.others_idle (h : Good ph s) (ht : (ph t).stage ≠ .idle) {u : ι} (hu : u ≠ t) :
    (ph u).stage = .idle := by
  have hn := h.lock.not_holds (h.holds_of_stage ht) hu
  rw [h.holds_eq] at hn
  simpa [Phase.holds] using hn

theorem Known.unchecked_update (h : Known ph s)
    (hun : s'.unchecked = Function.update s.unchecked t φ.unchecked) (u : ι) :
    s'.unchecked u = (Function.update ph t φ u).unchecked := by
  rw [hun]
  by_cases e : u = t
  · subst e
    simp
  · simp [e, h.unchecked]

omit [DecidableEq ι] in
/-- Between its transfers the owner finds the driver running. -/
theorem Known.running (h : Known ph s)
    (ht : (ph t).stage = .acquired ∨ (ph t).stage = .usable) : Running s.state := by
  rcases ht with e | e
  · exact h.acquired t e
  · exact .inl (h.usable t e)

/-- A step of the owner, or of the thread that becomes it: nobody else has a
stage to speak of. -/
theorem Known.step (h : Known ph s) (hgood : Good (Function.update ph t φ) s')
    (hun : s'.unchecked = Function.update s.unchecked t φ.unchecked)
    (hidle : ∀ u, u ≠ t → (ph u).stage = .idle)
    (husable : φ.stage = .usable → s'.state = .ready)
    (hacquired : φ.stage = .acquired → Running s'.state)
    (hfree : s'.busMtx = false → Running s'.state) :
    Known (Function.update ph t φ) s' where
  good := hgood
  unchecked := h.unchecked_update hun
  usable := (Function.forall_update_iff ph fun _ φ => φ.stage = .usable → _).mpr
    ⟨husable, fun u hu hs => absurd ((hidle u hu).symm.trans hs) (by decide)⟩
  acquired := (Function.forall_update_iff ph fun _ φ => φ.stage = .acquired → _).mpr
    ⟨hacquired, fun u hu hs => absurd ((hidle u hu).symm.trans hs) (by decide)⟩
  free := hfree

/-- A step that leaves the owner with a stopped or a busy driver. -/
theorem Known.busyStep (h : Known ph s) (hgood : Good (Function.update ph t φ) s')
    (hun : s'.unchecked = Function.update s.unchecked t φ.unchecked)
    (hne : (ph t).stage ≠ .idle) (hφ : φ.stage = .stopped ∨ φ.stage = .active)
    (hbus : s'.busMtx = s.busMtx) : Known (Function.update ph t φ) s' := by
  have htaken : s.busMtx = true := h.good.lock.taken_of_holds (h.good.holds_of_stage hne)
  apply h.step hgood hun (fun u hu => h.good.others_idle hne hu)
  · rcases hφ with e | e <;> simp [e]
  · rcases hφ with e | e <;> simp [e]
  · simp [hbus, htaken]

/-- A call of an idle thread that is not about the bus. -/
theorem Known.idleStep (h : Known ph s) (hgood : Good (Function.update ph t φ) s')
    (hun : s'.unchecked = Function.update s.unchecked t φ.unchecked) (hφ : φ.stage = .idle)
    (hstate : s'.state = s.state) (hbus : s'.busMtx = s.busMtx) :
    Known (Function.update ph t φ) s' where
  good := hgood
  unchecked := h.unchecked_update hun
  usable := (Function.forall_update_iff ph fun _ φ => φ.stage = .usable → _).mpr
    ⟨fun hs => absurd (hφ.symm.trans hs) (by decide), fun u _ hs => hstate.trans (h.usable u hs)⟩
  acquired := (Function.forall_update_iff ph fun _ φ => φ.stage = .acquired → _).mpr
    ⟨fun hs => absurd (hφ.symm.trans hs) (by decide), fun u _ hs => hstate ▸ h.acquired u hs⟩
  free hb := hstate ▸ h.free (hbus ▸ hb)

theorem Known.call (h : Known ph s) {c : Call} {r : Reply c} (ha : monitor.allows (ph t) c)
    (hr : possible true t s c r) (hg : Unlocked t s c r) :
    Known (Function.update ph t (monitor.next (ph t) c r)) (effect t s c r) := by
  have hgood := h.good.call ha hr
  have hun : s.unchecked = Function.update s.unchecked t (ph t).unchecked := by
    rw [← h.unchecked, Function.update_eq_self]
  cases c with
  | nextBusOp =>
    have ht : (ph t).stage = .idle := ha
    exact h.idleStep hgood rfl (by simp [monitor, ht]) rfl rfl
  | opReturn => exact h.idleStep hgood hun ha rfl rfl
  | i2cAcquireBus =>
    have hfree : s.busMtx = false := hr
    have hidle : ∀ u, u ≠ t → (ph u).stage = .idle := by
      intro u _
      have hn := h.good.lock.free hfree u
      rw [h.good.holds_eq] at hn
      simpa [Phase.holds] using hn
    refine h.step hgood hun hidle ?_ (fun _ => h.free hfree) (by simp [effect])
    intro hs
    have hu : (ph t).unchecked = true := by
      cases e : (ph t).unchecked with
      | true => rfl
      | false => simp [monitor, e] at hs
    rcases h.free hfree with hready | hlocked
    · exact hready
    · exact absurd hlocked (hg ((h.unchecked t).trans hu))
  | i2cReleaseBus =>
    have hne : (ph t).stage ≠ .idle := by rcases ha with e | e <;> simp [e]
    exact h.step hgood hun (fun u hu => h.good.others_idle hne hu) (by simp [monitor])
      (by simp [monitor]) fun _ => h.running ha
  | i2cState =>
    have hne : (ph t).stage ≠ .idle := by rcases ha with e | e <;> simp [e]
    have hrun := h.running ha
    refine h.step hgood hun (fun u hu => h.good.others_idle hne hu) ?_ (fun _ => hrun) fun _ => hrun
    intro hs
    by_cases e : r = I2cState.ready
    · exact (hr rfl).symm.trans e
    · simp [monitor, e] at hs
  | i2cStop =>
    have hne : (ph t).stage ≠ .idle := by rcases ha with e | e <;> simp [e]
    exact h.busyStep hgood hun hne (.inl rfl) rfl
  | i2cStart =>
    have hne : (ph t).stage ≠ .idle := by rw [show (ph t).stage = _ from ha]; decide
    exact h.step hgood hun (fun u hu => h.good.others_idle hne hu) (fun _ => rfl) (fun _ => .inl rfl)
      fun _ => .inl rfl
  | i2cMasterTransmit addr tx rxBytes =>
    have hne : (ph t).stage ≠ .idle := by rw [show (ph t).stage = _ from ha]; decide
    exact h.busyStep hgood hun hne (.inr rfl) rfl
  | i2cMasterReceive addr rxBytes =>
    have hne : (ph t).stage ≠ .idle := by rw [show (ph t).stage = _ from ha]; decide
    exact h.busyStep hgood hun hne (.inr rfl) rfl
  | i2cWait =>
    have hne : (ph t).stage ≠ .idle := by rw [show (ph t).stage = _ from ha]; decide
    have hrun : Running (effect t s .i2cWait r).state := by
      simp only [effect]
      split
      · exact .inr rfl
      · exact .inl rfl
    exact h.step hgood hun (fun u hu => h.good.others_idle hne hu) (by simp [monitor])
      (fun _ => hrun) fun _ => hrun
  | _ => exact ha.elim

theorem reachable_known {p : Pool ι Call Reply Block (State ι)}
    (h : ((system ι true).restrict Unlocked).Reachable initial p) :
    System.Inv (fun _ => monitor) (fun _ => Between) Known p := by
  refine h.invariant (fun t l φ hφ => busOps_follows hφ) ?_ ⟨fun _ => {}, fun t => rfl, ?_⟩
  · intro ph s t c r hk ha hr
    exact ⟨trivial, hk.call ha hr.1 hr.2⟩
  · exact ⟨Good.initial, fun _ => rfl, by simp, by simp, fun _ => .inl rfl⟩

/-- A run that does not meet `Unlocked`. The read of one thread times out and
leaves the driver locked; `BMP280_write_register8` of another thread acquires
the bus and starts its transfer. -/
def lockedRun : List (Bool × (c : Call) × Reply c) :=
  [(false, ⟨.nextBusOp, .adsReadRegister 0x48 0⟩), (false, ⟨.i2cAcquireBus, ()⟩),
   (false, ⟨.i2cState, .ready⟩), (false, ⟨.i2cState, .ready⟩),
   (false, ⟨.i2cMasterTransmit 0x48 [0] 2, ()⟩), (false, ⟨.i2cWait, (.timeout, [])⟩),
   (false, ⟨.i2cReleaseBus, ()⟩),
   (true, ⟨.nextBusOp, .bmp280WriteRegister8 0x77 0xF4 0x27⟩), (true, ⟨.i2cAcquireBus, ()⟩)]

theorem transfer_while_locked :
    ∃ p, (system Bool true).Reachable initial p ∧
      p.AboutTo true (.i2cMasterTransmit 0x77 [0xF4, 0x27] 0) ∧ p.shared.state = .locked := by
  obtain ⟨p, h, hp⟩ := System.Reachable.exists_of_playAll (system Bool true) initial lockedRun
    (fun p => (p.nextCall true, p.shared.state))
    (b := (some (.i2cMasterTransmit 0x77 [0xF4, 0x27] 0), .locked)) (by decide +kernel)
  obtain ⟨hc, hs⟩ := Prod.mk.inj hp
  exact ⟨p, h, Pool.aboutTo_of_nextCall hc, hs⟩

/-- **Transfers start on a ready driver**, in the runs in which
`BMP280_write_register8` never acquires the bus of a locked driver. -/
theorem transfer_ready {p : Pool ι Call Reply Block (State ι)}
    (h : ((system ι true).restrict Unlocked).Reachable initial p) :
    (∀ t addr tx rxBytes, p.AboutTo t (.i2cMasterTransmit addr tx rxBytes) →
      p.shared.state = .ready) ∧
    ∀ t addr rxBytes, p.AboutTo t (.i2cMasterReceive addr rxBytes) → p.shared.state = .ready := by
  have hinv := reachable_known h
  constructor
  · intro t addr tx rxBytes ht
    obtain ⟨ph, ha, hk⟩ := hinv.allows ht
    exact hk.usable t ha
  · intro t addr rxBytes ht
    obtain ⟨ph, ha, hk⟩ := hinv.allows ht
    exact hk.usable t ha

/-- After a timeout of another thread the AS3935 driver recovers the driver. -/
def recoveredRun : List (Bool × (c : Call) × Reply c) :=
  [(false, ⟨.nextBusOp, .adsReadRegister 0x48 0⟩), (false, ⟨.i2cAcquireBus, ()⟩),
   (false, ⟨.i2cState, .ready⟩), (false, ⟨.i2cState, .ready⟩),
   (false, ⟨.i2cMasterTransmit 0x48 [0] 2, ()⟩), (false, ⟨.i2cWait, (.timeout, [])⟩),
   (false, ⟨.i2cReleaseBus, ()⟩),
   (true, ⟨.nextBusOp, .as3935Read 3 0⟩), (true, ⟨.i2cAcquireBus, ()⟩),
   (true, ⟨.i2cState, .locked⟩), (true, ⟨.i2cStop, ()⟩), (true, ⟨.i2cStart, ()⟩),
   (true, ⟨.i2cState, .ready⟩)]

theorem transfer_ready_recoveredRun :
    ∃ p, ((system Bool true).restrict Unlocked).Reachable initial p ∧
      p.AboutTo true (.i2cMasterTransmit 3 [0] 1) ∧ p.shared.state = .ready := by
  obtain ⟨p, h, hp⟩ := System.Reachable.exists_of_playAll ((system Bool true).restrict Unlocked)
    initial recoveredRun (fun p => p.nextCall true) (b := some (.i2cMasterTransmit 3 [0] 1))
    (by decide +kernel)
  have hw := Pool.aboutTo_of_nextCall hp
  exact ⟨p, h, hw, (transfer_ready h).1 true _ _ _ hw⟩

end MeteoL053.Bus
