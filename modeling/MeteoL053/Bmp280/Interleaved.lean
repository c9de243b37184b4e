import MeteoL053.Bmp280.Traffic

/-!
What becomes of `BMP280_init` in every interleaving with the other threads.

The bus is free or has one owner; once a transfer of `BMP280_init` has ended,
the driver is never locked again, so that its wait loop finds it not READY only
while a transfer is in flight. Whoever owns the bus can end its operation, so
`BMP280_init` can always run to its end.
-/

namespace MeteoL053.Bmp280.Traffic

open CallTree Bus

variable {ι : Type}

/-! ## The bus between the threads -/

/-- A driver at rest is ready, or locked before the first transfer of
`BMP280_init` has ended. -/
def Calm (s : State ι) : Prop :=
  s.bus.state = .ready ∨ s.past.settled = false ∧ s.bus.state = .locked

/-- The driver in the hands of the owner `t` of the bus. -/
def Fits (t : Option ι) (s : State ι) : Stage → Prop
  | .idle => False
  | .acquired => Calm s ∧ s.bus.inFlight = []
  | .locked => s.past.settled = false ∧ s.bus.state = .locked ∧ s.bus.inFlight = []
  | .stopped => s.past.settled = false ∧ s.bus.state = .stop ∧ s.bus.inFlight = []
  | .ready => s.bus.state = .ready ∧ s.bus.inFlight = []
  | .active => (s.bus.state = .activeTx ∨ s.bus.state = .activeRx) ∧ s.bus.inFlight = [t]

structure Free (ph : Option ι → Phase) (s : State ι) : Prop where
  mtx : s.bus.busMtx = false
  idle : ∀ t, (ph t).stage = .idle
  calm : Calm s
  flight : s.bus.inFlight = []

structure Owner (t : Option ι) (ph : Option ι → Phase) (s : State ι) : Prop where
  mtx : s.bus.busMtx = true
  others : ∀ u, u ≠ t → (ph u).stage = .idle
  fits : Fits t s (ph t).stage

structure Good (ph : Option ι → Phase) (s : State ι) : Prop where
  past : (ph none).past = s.past
  begun : s.past.settled = true → s.past.begun = true
  bus : Free ph s ∨ ∃ t, Owner t ph s

theorem Past.after_settled {c : Call} (hc : c ≠ .i2cWait) (p : Past) (own busy : Bool)
    (r : Reply c) : (p.after own busy c r).settled = p.settled := by
  cases own with
  | false => rfl
  | true =>
    cases c with
    | i2cWait => exact absurd rfl hc
    | _ => rfl

theorem Past.after_begun {p : Past} (h : p.settled = true → p.begun = true) (own busy : Bool)
    (c : Call) (r : Reply c) :
    (p.after own busy c r).settled = true → (p.after own busy c r).begun = true := by
  cases own with
  | false => exact h
  | true =>
    cases c with
    | i2cWait =>
      intro hs
      rcases Bool.or_eq_true_iff.mp hs with hs | hb
      · exact h hs
      · exact hb
    | enter f => exact fun _ => rfl
    | _ => exact h

section Invariant

variable {ph : Option ι → Phase} {s s' : State ι} {t : Option ι} {φ : Phase} {reads : Nat}

theorem Good.owner (h : Good ph s) (ht : (ph t).stage ≠ .idle) : Owner t ph s := by
  rcases h.bus with hfree | ⟨u, hu⟩
  · exact absurd (hfree.idle t) ht
  · by_cases e : t = u
    · rw [e]
      exact hu
    · exact absurd (hu.others t e) ht

theorem Good.owner_at (h : Good ph s) {g : Stage} (hstage : (ph t).stage = g) (hg : g ≠ .idle) :
    Owner t ph s ∧ Fits t s g := by
  have hown := h.owner (t := t) (by rwa [hstage])
  exact ⟨hown, hstage ▸ hown.fits⟩

/-- Once a transfer of `BMP280_init` has ended, a driver that is not ready has
a transfer in flight. -/
theorem Good.not_ready_iff (h : Good ph s) (hsettled : s.past.settled = true) :
    s.bus.state ≠ .ready ↔ s.bus.inFlight ≠ [] := by
  have hcalm : Calm s → s.bus.state = .ready := by
    rintro (hready | ⟨hns, -⟩)
    · exact hready
    · rw [hsettled] at hns
      cases hns
  rcases h.bus with hfree | ⟨u, hu⟩
  · simp [hcalm hfree.calm, hfree.flight]
  · have hfits := hu.fits
    cases hstage : (ph u).stage with
    | idle => simp [hstage, Fits] at hfits
    | acquired =>
      rw [hstage] at hfits
      simp [hcalm hfits.1, hfits.2]
    | locked => simp [hstage, Fits, hsettled] at hfits
    | stopped => simp [hstage, Fits, hsettled] at hfits
    | ready =>
      rw [hstage] at hfits
      simp [hfits.1, hfits.2]
    | active =>
      rw [hstage] at hfits
      rcases hfits with ⟨e | e, hflight⟩ <;> simp [e, hflight]

/-- Between its transfers the owner has a driver at rest. -/
theorem Good.owner_calm (h : Good ph s) (ht : (ph t).stage = .acquired ∨ (ph t).stage = .ready) :
    Owner t ph s ∧ Calm s ∧ s.bus.inFlight = [] := by
  rcases ht with hstage | hstage
  · exact h.owner_at hstage (by decide)
  · obtain ⟨hown, hready, hflight⟩ := h.owner_at hstage (by decide)
    exact ⟨hown, .inl hready, hflight⟩

/-- The answers the monitor expects are the possible ones. -/
theorem Good.answers_call (h : Good ph s) {c : Call} {r : Reply c}
    (hr : Bus.possible true t s.bus c r) (hg : Granted reads t s c r) :
    (monitor reads t.isNone).answers (ph t) c r := by
  cases c with
  | i2cState =>
    obtain rfl : r = s.bus.state := hr rfl
    constructor
    · intro hstage
      obtain ⟨-, hready | ⟨-, hlocked⟩, -⟩ := h.owner_at hstage (by decide)
      · exact .inl hready
      · exact .inr hlocked
    · intro hstage
      exact (h.owner_at hstage (by decide)).2.1
  | i2cWait =>
    intro hown
    obtain rfl : t = none := Option.isNone_iff_eq_none.mp hown
    rw [h.past]
    exact hg
  | _ => trivial

variable [DecidableEq ι]

theorem Owner.step (h : Owner t ph s) (hmtx : s'.bus.busMtx = true) (hfits : Fits t s' φ.stage) :
    Owner t (Function.update ph t φ) s' where
  mtx := hmtx
  others u hu := by rw [Function.update_of_ne hu, h.others u hu]
  fits := by rwa [Function.update_self]

theorem Owner.release (h : Owner t ph s) (hmtx : s'.bus.busMtx = false)
    (hφ : φ.stage = .idle) (hcalm : Calm s') (hflight : s'.bus.inFlight = []) :
    Free (Function.update ph t φ) s' where
  mtx := hmtx
  idle := (Function.forall_update_iff ph fun _ φ => φ.stage = .idle).mpr ⟨hφ, h.others⟩
  calm := hcalm
  flight := hflight

theorem Free.acquire (h : Free ph s) (hmtx : s'.bus.busMtx = true) (hfits : Fits t s' φ.stage) :
    Owner t (Function.update ph t φ) s' where
  mtx := hmtx
  others u hu := by rw [Function.update_of_ne hu, h.idle u]
  fits := by rwa [Function.update_self]

/-- A call outside the operations leaves the bus as it is. -/
theorem Good.quiet (h : Good ph s) (hidle : (ph t).stage = .idle) (hφ : φ.stage = .idle)
    (hmtx : s'.bus.busMtx = s.bus.busMtx) (hstate : s'.bus.state = s.bus.state)
    (hflight : s'.bus.inFlight = s.bus.inFlight) (hsettled : s'.past.settled = s.past.settled) :
    Free (Function.update ph t φ) s' ∨ ∃ u, Owner u (Function.update ph t φ) s' := by
  have hstage : ∀ u, (Function.update ph t φ u).stage = (ph u).stage :=
    apply_update_same Phase.stage (hφ.trans hidle.symm)
  have hcalm : Calm s' ↔ Calm s := by unfold Calm; rw [hstate, hsettled]
  have hfits : ∀ u g, Fits u s' g ↔ Fits u s g := by
    intro u g
    unfold Fits
    rw [hcalm, hstate, hsettled, hflight]
  rcases h.bus with hfree | ⟨u, hu⟩
  · refine .inl ⟨hmtx.trans hfree.mtx, fun u => ?_, hcalm.mpr hfree.calm, hflight.trans hfree.flight⟩
    rw [hstage, hfree.idle]
  · refine .inr ⟨u, hmtx.trans hu.mtx, fun v hv => ?_, ?_⟩
    · rw [hstage, hu.others v hv]
    · rw [hstage, hfits]
      exact hu.fits

/-- The past of `BMP280_init` in its phase is the one in the state. -/
theorem Good.past_call (h : Good ph s) {c : Call} {r : Reply c}
    (ha : (monitor reads t.isNone).allows (ph t) c) (hr : Bus.possible true t s.bus c r) :
    (Function.update ph t ((monitor reads t.isNone).next (ph t) c r) none).past =
      ((system ι).effect t s c r).past := by
  cases t with
  | some i =>
    rw [Function.update_of_ne (by simp)]
    exact h.past
  | none =>
    rw [Function.update_self]
    have hnext : ∀ busy, (c = .i2cState → (ph none).busy c r = busy) →
        (s.past.next ((ph none).busy c r) c r) = s.past.next busy c r := by
      intro busy hbusy
      cases c with
      | i2cState => rw [hbusy rfl]
      | _ => rfl
    have hgoal : (ph none).past.next ((ph none).busy c r) c r =
        s.past.next (!s.bus.inFlight.isEmpty) c r := by
      rw [h.past]
      apply hnext
      rintro rfl
      obtain rfl : r = s.bus.state := hr rfl
      rcases ha with ⟨hidle, hsettled⟩ | hown
      · have hiff := h.not_ready_iff (h.past ▸ hsettled)
        cases hf : s.bus.inFlight <;> simp [Phase.busy, hidle, hf] at hiff ⊢ <;> exact hiff
      · obtain ⟨-, -, hflight⟩ := h.owner_calm hown
        rcases hown with e | e <;> simp [Phase.busy, e, hflight]
    exact hgoal

/-- The end of a transfer leaves the driver at rest. -/
theorem Good.calm_wait (h : Good ph s) {r : Msg × List UInt8} (hg : Granted reads t s .i2cWait r) :
    Calm ((system ι).effect t s .i2cWait r) := by
  by_cases htimeout : r.1 = Msg.timeout
  · cases t with
    | none => cases htimeout.symm.trans hg.1
    | some i =>
      -- it timed out before `BMP280_init` was entered
      refine .inr ⟨?_, if_pos htimeout⟩
      have hnot : s.past.begun ≠ true := fun hb => hg hb htimeout
      exact Bool.eq_false_iff.mpr fun hs => hnot (h.begun hs)
  · exact .inl (if_neg htimeout)

theorem Good.bus_wait (h : Good ph s) {r : Msg × List UInt8} (ht : (ph t).stage = .active)
    (hg : Granted reads t s .i2cWait r) :
    Owner t (Function.update ph t ((monitor reads t.isNone).next (ph t) .i2cWait r))
      ((system ι).effect t s .i2cWait r) := by
  obtain ⟨hown, -, hone⟩ := h.owner_at ht (by decide)
  have hflight : ((system ι).effect t s .i2cWait r).bus.inFlight = [] := by
    simp [system, Bus.effect, hone]
  exact hown.step hown.mtx ⟨h.calm_wait hg, hflight⟩

theorem Good.bus_call (h : Good ph s) {c : Call} {r : Reply c} (hc : c ≠ .i2cWait)
    (ha : (monitor reads t.isNone).allows (ph t) c) (hr : Bus.possible true t s.bus c r) :
    let ph' := Function.update ph t ((monitor reads t.isNone).next (ph t) c r)
    let s' := (system ι).effect t s c r
    Free ph' s' ∨ ∃ u, Owner u ph' s' := by
  intro ph' s'
  have hsettled : s'.past.settled = s.past.settled := Past.after_settled hc s.past _ _ r
  have hcalm : s'.bus.state = s.bus.state → Calm s → Calm s' := by
    intro hstate hs
    unfold Calm
    rw [hstate, hsettled]
    exact hs
  cases c with
  | nextBusOp => exact h.quiet ha ha rfl rfl rfl hsettled
  | opReturn => exact h.quiet ha ha rfl rfl rfl hsettled
  | opDone op res => exact h.quiet ha ha rfl rfl rfl hsettled
  | enter f => exact h.quiet ha ha rfl rfl rfl hsettled
  | leave f res => exact h.quiet ha ha rfl rfl rfl hsettled
  | i2cAcquireBus =>
    rcases h.bus with hfree | ⟨u, hu⟩
    · exact .inr ⟨t, hfree.acquire rfl ⟨hcalm rfl hfree.calm, hfree.flight⟩⟩
    · cases hu.mtx.symm.trans hr
  | i2cState =>
    obtain rfl : r = s.bus.state := hr rfl
    by_cases hidle : (ph t).stage = .idle
    · exact h.quiet hidle (by simp [monitor, Stage.next, hidle]) rfl rfl rfl hsettled
    · have hstage : (ph t).stage = .acquired ∨ (ph t).stage = .ready :=
        ha.resolve_left fun hi => hidle hi.1
      obtain ⟨hown, hs, hflight⟩ := h.owner_calm hstage
      refine .inr ⟨t, hown.step hown.mtx ?_⟩
      rw [next_i2cState _ hidle]
      rcases hs with hready | ⟨hns, hlocked⟩
      · rw [hready]
        exact ⟨hready, hflight⟩
      · rw [hlocked]
        exact ⟨hsettled.trans hns, hlocked, hflight⟩
  | i2cStop =>
    obtain ⟨hown, hns, -, hflight⟩ := h.owner_at ha (by decide)
    exact .inr ⟨t, hown.step hown.mtx ⟨hsettled.trans hns, rfl, hflight⟩⟩
  | i2cStart =>
    obtain ⟨hown, -, -, hflight⟩ := h.owner_at ha (by decide)
    exact .inr ⟨t, hown.step hown.mtx ⟨rfl, hflight⟩⟩
  | i2cMasterTransmit addr tx rxBytes =>
    obtain ⟨hown, -, hflight⟩ := h.owner_calm ha
    have hone : t :: s.bus.inFlight = [t] := by rw [hflight]
    exact .inr ⟨t, hown.step hown.mtx ⟨.inl rfl, hone⟩⟩
  | i2cMasterReceive addr rxBytes =>
    obtain ⟨hown, -, hflight⟩ := h.owner_calm ha
    have hone : t :: s.bus.inFlight = [t] := by rw [hflight]
    exact .inr ⟨t, hown.step hown.mtx ⟨.inr rfl, hone⟩⟩
  | i2cWait => exact absurd rfl hc
  | i2cReleaseBus =>
    obtain ⟨hown, hs, hflight⟩ := h.owner_calm ha
    exact .inl (hown.release rfl rfl (hcalm rfl hs) hflight)
  | _ => exact ha.elim

theorem Good.call (h : Good ph s) {c : Call} {r : Reply c}
    (ha : (monitor reads t.isNone).allows (ph t) c) (hr : (traffic ι reads).possible t s c r) :
    (monitor reads t.isNone).answers (ph t) c r ∧
      Good (Function.update ph t ((monitor reads t.isNone).next (ph t) c r))
        ((traffic ι reads).effect t s c r) := by
  refine ⟨h.answers_call hr.1 hr.2, h.past_call ha hr.1, Past.after_begun h.begun _ _ c r, ?_⟩
  by_cases hc : c = .i2cWait
  · subst hc
    exact .inr ⟨t, h.bus_wait ha hr.2⟩
  · exact h.bus_call hc ha hr.1

end Invariant

/-! ## What the runs do -/

section Runs

variable [DecidableEq ι] {reads fuel : Nat} {dev : Handle}
  {p : Pool (Option ι) Call Reply Label (State ι)}

/-- Where a thread may end a block. -/
def Post (dev : Handle) (t : Option ι) (l : Label) (φ : Phase) : Prop :=
  match t with
  | none => Returned dev l φ
  | some _ => φ.stage = .idle

abbrev monitors (ι : Type) (reads : Nat) (t : Option ι) : Monitor Call Reply Phase :=
  monitor reads t.isNone

theorem reachable_good (hfuel : reads < fuel)
    (h : (traffic ι reads).Reachable (start fuel dev) p) :
    System.Inv (monitors ι reads) (Post dev) Good p := by
  refine h.invariant ?_ (fun ph s t c r hg ha hr => hg.call ha hr) ⟨fun _ => {}, ?_, ?_⟩
  · intro t l φ hφ
    cases t with
    | none => exact hφ
    | some i => exact Prog.wp_bind_of _ _ _ (busOps_follows false hφ) fun _ _ h' => h'
  · intro t
    cases t with
    | none => exact initCode_returns dev hfuel
    | some i => exact rfl
  · exact ⟨rfl, fun hs => (nomatch hs), .inl ⟨rfl, fun _ => rfl, .inl rfl, rfl⟩⟩

/-- At most thread `t` is inside an operation. -/
structure Alone (t : Option ι) (ph : Option ι → Phase) (s : State ι) : Prop where
  good : Good ph s
  others : ∀ u, u ≠ t → (ph u).stage = .idle

variable {ph : Option ι → Phase} {s : State ι} {t : Option ι}

theorem Alone.call (h : Alone t ph s) {c : Call} {r : Reply c}
    (ha : (monitors ι reads t).allows (ph t) c) (hr : (traffic ι reads).possible t s c r) :
    (monitors ι reads t).answers (ph t) c r ∧
      Alone t (Function.update ph t ((monitors ι reads t).next (ph t) c r))
        ((traffic ι reads).effect t s c r) := by
  obtain ⟨hans, hgood⟩ := h.good.call ha hr
  refine ⟨hans, hgood, fun u hu => ?_⟩
  rw [Function.update_of_ne hu, h.others u hu]

/-- Nobody keeps such a thread waiting. -/
theorem Alone.exists_answer (h : Alone t ph s) {c : Call}
    (ha : (monitors ι reads t).allows (ph t) c) : ∃ r, (traffic ι reads).possible t s c r := by
  cases c with
  | i2cAcquireBus =>
    refine ⟨(), ?_, trivial⟩
    rcases h.good.bus with hfree | ⟨u, hu⟩
    · exact hfree.mtx
    · have hidle : (ph u).stage = .idle := by
        by_cases e : u = t
        · rw [e]
          exact ha
        · exact h.others u e
      have hfits := hu.fits
      rw [hidle] at hfits
      exact hfits.elim
  | i2cState => exact ⟨s.bus.state, fun _ => rfl, trivial⟩
  | i2cWait =>
    cases t with
    | none =>
      refine ⟨(.ok, [if s.past.tx = [regId] then bmp280ChipId else 0]), trivial, rfl, ?_, ?_⟩
      · intro hid
        exact .inl (if_pos hid)
      · intro hstatus _
        have hne : s.past.tx ≠ [regId] := by rw [hstatus]; decide
        rw [if_neg hne]
        rfl
    | some i => exact ⟨(.ok, []), trivial, fun _ => nofun⟩
  | nextBusOp => exact ⟨.bh1750ReadDev 0, trivial, trivial⟩
  | _ => first | exact ⟨(), trivial, trivial⟩ | exact ha.elim

/-- Such a thread can run to the end of its block. -/
theorem exists_return_alone (h : System.Inv (monitors ι reads) (Post dev) (Alone t) p) :
    ∃ q l, (traffic ι reads).Reachable p q ∧ q.prog t = .ret l ∧
      System.Inv (monitors ι reads) (Post dev) (Alone t) q :=
  h.exists_return (fun _ hh => hh) (fun _ _ _ _ ha hc hr => ha.call hc hr)
    fun _ _ _ ha hc => ha.exists_answer hc

omit [DecidableEq ι] in
theorem Post.idle {l : Label} {φ : Phase} (h : Post dev t l φ) : φ.stage = .idle := by
  cases t with
  | some i => exact h
  | none =>
    cases l with
    | returned ok dev' => exact h.1
    | ops => exact h.elim

omit [DecidableEq ι] in
theorem Good.exists_alone (h : Good ph s) : ∃ t, Alone t ph s := by
  rcases h.bus with hfree | ⟨u, hu⟩
  · exact ⟨none, h, fun u _ => hfree.idle u⟩
  · exact ⟨u, h, hu.others⟩

/-- `BMP280_init` can always run to its end: the owner of the bus first ends
what it is doing. -/
theorem exists_returned (h : System.Inv (monitors ι reads) (Post dev) Good p) :
    ∃ q ok dev', (traffic ι reads).Reachable p q ∧ q.prog none = .ret (.returned ok dev') := by
  obtain ⟨ph, hwp, hgood⟩ := h
  obtain ⟨u, halone⟩ := hgood.exists_alone
  obtain ⟨q₁, l₁, hq₁, hl₁, ph₁, hwp₁, halone₁⟩ := exists_return_alone ⟨ph, hwp, halone⟩
  have hidle : ∀ v, (ph₁ v).stage = .idle := by
    intro v
    by_cases e : v = u
    · have hpost := hwp₁ u
      rw [hl₁] at hpost
      rw [e]
      exact Post.idle hpost
    · exact halone₁.others v e
  obtain ⟨q₂, l₂, hq₂, hl₂, ph₂, hwp₂, -⟩ := exists_return_alone (t := none)
    ⟨ph₁, hwp₁, halone₁.good, fun v _ => hidle v⟩
  have hpost := hwp₂ none
  rw [hl₂] at hpost
  cases l₂ with
  | returned ok dev' => exact ⟨q₂, ok, dev', hq₁.trans hq₂, hl₂⟩
  | ops => exact hpost.elim

/-- **`BMP280_init` among the other threads**, for every device that answers and
clears `im_update` at some read: whatever the other threads do on the bus, the
function does not hang and can always run to its end; and when it has returned,
the result is true if and only if the handle has an address of the chip and no
transfer of another thread was in flight when the wait loop read `I2CD1.state`. -/
theorem init_among_transfers_iff (hfuel : reads < fuel)
    (h : (traffic ι reads).Reachable (start fuel dev) p) :
    p.prog none ≠ .hang ∧
    (∃ q ok dev', (traffic ι reads).Reachable p q ∧ q.prog none = .ret (.returned ok dev')) ∧
    ∀ ok dev', p.prog none = .ret (.returned ok dev') →
      (ok = true ↔ KnownAddress dev ∧ p.shared.past.metTransfer = false) := by
  have hinv := reachable_good hfuel h
  refine ⟨hinv.not_hang fun _ hh => hh, exists_returned hinv, fun ok dev' hret => ?_⟩
  obtain ⟨ph, hwp, hgood⟩ := hinv
  have hpost : Returned dev (.returned ok dev') (ph none) := by
    have hw := hwp none
    rw [hret] at hw
    exact hw
  rw [← hgood.past]
  exact hpost.2

end Runs

/-! ## Two runs -/

/-- The calls of a read of `bmp280.c`, on a ready driver. -/
def readRun (op : BusOp) (tx : List UInt8) (len : Nat) (rx : List UInt8) (r : op.Result) :
    List (Option Unit × (c : Call) × Reply c) :=
  [(none, ⟨.i2cAcquireBus, ()⟩), (none, ⟨.i2cState, .ready⟩), (none, ⟨.i2cState, .ready⟩),
   (none, ⟨.i2cMasterTransmit i2cAddress1 tx len, ()⟩), (none, ⟨.i2cWait, (.ok, rx)⟩),
   (none, ⟨.i2cReleaseBus, ()⟩), (none, ⟨.opReturn, ()⟩), (none, ⟨.opDone op r, ()⟩)]

def readDataRun (addr : UInt8) (rx : List UInt8) : List (Option Unit × (c : Call) × Reply c) :=
  readRun (.bmp280ReadData i2cAddress1 addr 1) [addr] 1 rx (some rx)

def writeRun (addr value : UInt8) : List (Option Unit × (c : Call) × Reply c) :=
  [(none, ⟨.i2cAcquireBus, ()⟩), (none, ⟨.i2cMasterTransmit i2cAddress1 [addr, value] 0, ()⟩),
   (none, ⟨.i2cWait, (.ok, [])⟩), (none, ⟨.i2cReleaseBus, ()⟩), (none, ⟨.opReturn, ()⟩),
   (none, ⟨.opDone (.bmp280WriteRegister8 i2cAddress1 addr value) false, ()⟩)]

/-- Up to the wait loop: a BMP280 gives its id and accepts the reset. -/
def resetRun : List (Option Unit × (c : Call) × Reply c) :=
  (none, ⟨.enter .bmp280Init, ()⟩) :: readDataRun regId [bmp280ChipId] ++
    writeRun regReset resetValue

/-- The VEML7700 thread starts a read. -/
def lightRun : List (Option Unit × (c : Call) × Reply c) :=
  [(some (), ⟨.nextBusOp, .veml7700Read 0x10 4⟩), (some (), ⟨.i2cAcquireBus, ()⟩),
   (some (), ⟨.i2cState, .ready⟩), (some (), ⟨.i2cState, .ready⟩),
   (some (), ⟨.i2cMasterTransmit 0x10 [4] 2, ()⟩)]

/-- While its transfer is in flight, `BMP280_init` gives up a sensor that works. -/
theorem init_gives_up_during_transfer :
    ∃ p, (traffic Unit 0).Reachable (start 1 initialHandle) p ∧
      p.prog none = .ret (.returned false { initialHandle with id := bmp280ChipId }) := by
  obtain ⟨p, h, hp⟩ := System.Reachable.exists_of_playAll (traffic Unit 0) (start 1 initialHandle)
    (resetRun ++ lightRun ++
      [(none, ⟨.i2cState, .activeTx⟩), (none, ⟨.leave .bmp280Init false, ()⟩)])
    (fun p => p.nextBlock none)
    (b := some (.returned false { initialHandle with id := bmp280ChipId })) (by decide +kernel)
  exact ⟨p, h, Pool.prog_of_nextBlock hp⟩

/-- A whole initialisation, and a transfer of the VEML7700 thread after its return. -/
def quietRun : List (Option Unit × (c : Call) × Reply c) :=
  resetRun ++ [(none, ⟨.i2cState, .ready⟩)] ++ readDataRun regStatus [0] ++
    (calibrationRegisters.map Prod.fst).flatMap (fun addr =>
      readRun (.bmp280ReadRegister16 i2cAddress1 addr) [addr] 2 [0, 0] (some 0)) ++
    writeRun regConfig 0x80 ++ writeRun regCtrl 0x6C ++
    [(none, ⟨.leave .bmp280Init true, ()⟩)] ++ lightRun

/-- The handle after it. -/
def initialisedHandle : Handle :=
  { initialHandle with id := bmp280ChipId, params := { initDefaultParams with mode := .sleep } }

theorem init_among_transfers_iff_quietRun :
    ∃ p, (traffic Unit 0).Reachable (start 1 initialHandle) p ∧
      p.prog none = .ret (.returned true initialisedHandle) ∧
      p.shared.past.metTransfer = false := by
  obtain ⟨p, h, hp⟩ := System.Reachable.exists_of_playAll (traffic Unit 0) (start 1 initialHandle)
    quietRun (fun p => p.nextBlock none) (b := some (.returned true initialisedHandle))
    (by decide +kernel)
  have hret := Pool.prog_of_nextBlock hp
  obtain ⟨-, -, hiff⟩ := init_among_transfers_iff (Nat.lt_succ_self 0) h
  exact ⟨p, h, hret, ((hiff true _ hret).mp rfl).2⟩

end MeteoL053.Bmp280.Traffic
