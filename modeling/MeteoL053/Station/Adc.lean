import MeteoL053.Lib.Attach
import MeteoL053.Station.Frame
import MeteoL053.Station.NoDeadlock

/-!
The ADC that the UV sensor and the rain sensor share, in the whole station.

`Driver` is the state of `ADCD1` that `hal_adc.c` keeps, and `Accepts` what it
asserts of it. Histories of the conversions of each group and of the values each
sensor publishes say what the two sensors report over a whole run.
-/

namespace MeteoL053.Station.Adc

open CallTree Config Registry

/-! ## The driver -/

/-- `adcstate_t` between two calls. A conversion that ended, with an error or
without, leaves the driver ready. -/
inductive Driver where
  | stop
  | ready
  | active (g : AdcGroup)
  deriving DecidableEq

/-- What `hal_adc.c` asserts of the driver. -/
def Driver.Accepts (d : Driver) : Call → Prop
  | .adcStart | .adcStop => d = .stop ∨ d = .ready
  | .adcStartConversion _ => d = .ready
  | .adcWait => ∃ g, d = .active g
  | _ => True

structure State where
  driver : Driver
  /-- the enable line of the UV sensor -/
  uvLine : Bool
  /-- the results of the conversions of a group -/
  results : AdcGroup → List (Msg × UInt16)
  /-- the values a sensor has published, with their places -/
  published : Sensor → List (Nat × UInt32)

/-- A conversion ends only while one is active. -/
def possible (_t : Thread) (_s : Locks.State) (s : State) (c : Call) (_r : Reply c) : Prop :=
  c = .adcWait → s.driver ≠ .stop ∧ s.driver ≠ .ready

instance (t : Thread) (s₀ : Locks.State) (s : State) (c : Call) (r : Reply c) :
    Decidable (possible t s₀ s c r) :=
  inferInstanceAs (Decidable (_ → _ ∧ _))

/-- The end of a conversion. -/
def State.convert (s : State) (r : Msg × UInt16) : State :=
  match s.driver with
  | .active g =>
    { s with driver := .ready, results := Function.update s.results g (s.results g ++ [r]) }
  | _ => s

/-- A thread publishes a value. -/
def State.publish (s : State) (i : Nat) (v : UInt32) : Thread → State
  | .sensor x => { s with published := Function.update s.published x (s.published x ++ [(i, v)]) }
  | _ => s

def effect (t : Thread) (_s : Locks.State) (s : State) : (c : Call) → Reply c → State
  | .adcStart, _ => { s with driver := .ready }
  | .adcStop, _ => { s with driver := .stop }
  | .adcStartConversion g, _ => { s with driver := .active g }
  | .adcWait, r => s.convert r
  | .setMl8511Line level, _ => { s with uvLine := level }
  | .fw (.setHwValue i v), _ => s.publish i v t
  | _, _ => s

/-- The station with its locks and the ADC. -/
def system (x : Setup) : System Thread Call Reply Label (Locks.State × State) :=
  (Locks.system x).attach ⟨possible, effect⟩

instance (x : Setup) (t : Thread) (s : Locks.State × State) (c : Call) (r : Reply c) :
    Decidable ((system x).possible t s c r) :=
  inferInstanceAs (Decidable (_ ∧ _))

/-- When `main` has started the threads. -/
def initial (x : Setup) (cfg : AppConfiguration) (uvLine : Bool) :
    Pool Thread Call Reply Label (Locks.State × State) where
  shared := ((Locks.initial x cfg).shared, ⟨.stop, uvLine, fun _ => [], fun _ => []⟩)
  prog := (Locks.initial x cfg).prog

/-! ## What the sensors are to report -/

/-- The samples of the conversions that succeeded. -/
def samples (results : List (Msg × UInt16)) : List UInt16 :=
  (results.filter fun r => r.1 = .ok).map Prod.snd

/-- The dry value: the first sample above 1000. -/
def reference (samples : List UInt16) : UInt16 := (samples.find? fun a => 1000 < a).getD 0

/-- What the rain sensor reports for each sample: whether it is below the dry
value of the samples up to it. -/
def rainReports (samples : List UInt16) : List UInt32 :=
  samples.zipIdx.map fun a => if a.1 < reference (samples.take (a.2 + 1)) then 1 else 0

/-- The reports of the sensor of a group. -/
def reports (x : Setup) : AdcGroup → List (Msg × UInt16) → List (Nat × UInt32)
  | .device1, results => ((samples results).filterMap x.uv).map fun v => (0, v)
  | .rain, results => (rainReports (samples results)).map fun v => (0, v)

theorem samples_snoc (results : List (Msg × UInt16)) (msg : Msg) (a : UInt16) :
    samples (results ++ [(msg, a)]) = samples results ++ if msg = .ok then [a] else [] := by
  by_cases h : msg = .ok <;> simp [samples, h]

theorem reference_snoc (ss : List UInt16) (a : UInt16) :
    reference (ss ++ [a]) = Rain.nextReference (reference ss) a := by
  unfold reference Rain.nextReference
  rw [List.find?_append]
  cases h : ss.find? fun a => 1000 < a with
  | none => by_cases ha : 1000 < a <;> simp [ha]
  | some b =>
    have hb : (1000 : UInt16) < b := by simpa using List.find?_some h
    have hne : b ≠ 0 := by
      rintro rfl
      exact absurd hb (by decide)
    simp [hne]

theorem rainReports_snoc (ss : List UInt16) (a : UInt16) :
    rainReports (ss ++ [a]) =
      rainReports ss ++ [Rain.rainStatus (Rain.nextReference (reference ss) a) a] := by
  have hold : ∀ b ∈ ss.zipIdx, (ss ++ [a]).take (b.2 + 1) = ss.take (b.2 + 1) := by
    intro b hb
    have hlt := (List.mem_zipIdx hb).2.1
    exact List.take_append_of_le_length (by omega)
  unfold rainReports
  rw [List.zipIdx_append, List.map_append]
  congr 1
  · apply List.map_congr_left
    intro b hb
    rw [hold b hb]
  · have hall : (ss ++ [a]).take (ss.length + 1) = ss ++ [a] :=
      List.take_of_length_le (by simp)
    simp [Rain.rainStatus, ← reference_snoc, hall]

/-- The report that one more result of a group adds. -/
def report (x : Setup) (results : List (Msg × UInt16)) (r : Msg × UInt16) :
    AdcGroup → Option UInt32
  | .device1 => if r.1 = .ok then x.uv r.2 else none
  | .rain =>
    if r.1 = .ok then
      some (Rain.rainStatus (Rain.nextReference (reference (samples results)) r.2) r.2)
    else none

theorem reports_snoc (x : Setup) (g : AdcGroup) (results : List (Msg × UInt16))
    (r : Msg × UInt16) :
    reports x g (results ++ [r]) =
      reports x g results ++ (report x results r g).toList.map fun v => (0, v) := by
  obtain ⟨msg, a⟩ := r
  cases g with
  | device1 =>
    by_cases h : msg = .ok
    · cases hu : x.uv a <;> simp [reports, report, samples_snoc, h, hu]
    · simp [reports, report, samples_snoc, h]
  | rain =>
    by_cases h : msg = .ok
    · simp [reports, report, samples_snoc, rainReports_snoc, h]
    · simp [reports, report, samples_snoc, h]

/-! ## The discipline of the threads -/

/-- The group a thread converts. -/
def groupOf : Thread → Option AdcGroup
  | .sensor .ml8511 => some .device1
  | .sensor .rain => some .rain
  | _ => none

/-- Where a thread is in its use of the ADC. -/
inductive Stage where
  | free
  | owned
  | ready
  | active
  | sampled
  | stopped
  deriving DecidableEq

def Stage.holds : Stage → Bool
  | .free => false
  | _ => true

/-- The driver at a stage of its owner. -/
def Stage.driver (g : AdcGroup) : Stage → Driver
  | .free | .owned | .stopped => .stop
  | .ready | .sampled => .ready
  | .active => .active g

structure Phase where
  stage : Stage := .free
  line : Bool
  results : List (Msg × UInt16) := []
  published : List (Nat × UInt32) := []

section Discipline

variable (x : Setup) (t : Thread)

/-- The reports of the thread are out. -/
def Phase.Reported (φ : Phase) : Prop :=
  ∀ g, groupOf t = some g → φ.published = reports x g φ.results

/-- The line of the UV sensor is as `level`, if it has one. -/
def Phase.LineIs (φ : Phase) (level : Bool) : Prop :=
  t = .sensor .ml8511 → x.ml8511Line = true → φ.line = level

def allows (φ : Phase) : Call → Prop
  | .adcAcquireBus => (groupOf t).isSome ∧ φ.stage = .free
  | .adcStart => φ.stage = .owned
  | .adcStartConversion g => φ.stage = .ready ∧ groupOf t = some g
  | .adcWait => φ.stage = .active ∧ φ.LineIs x t true
  | .adcStop => φ.stage = .sampled
  | .adcReleaseBus => φ.stage = .stopped
  | .setMl8511Line _ => t = .sensor .ml8511
  | .fw (.setHwValue i v) =>
    ∀ g, groupOf t = some g → φ.published ++ [(i, v)] = reports x g φ.results
  | .chMsgWait _ => φ.Reported x t ∧ φ.LineIs x t false
  | _ => True

def next (φ : Phase) : (c : Call) → Reply c → Phase
  | .adcAcquireBus, _ => { φ with stage := .owned }
  | .adcStart, _ => { φ with stage := .ready }
  | .adcStartConversion _, _ => { φ with stage := .active }
  | .adcWait, r => { φ with stage := .sampled, results := φ.results ++ [r] }
  | .adcStop, _ => { φ with stage := .stopped }
  | .adcReleaseBus, _ => { φ with stage := .free }
  | .setMl8511Line level, _ => { φ with line := level }
  | .fw (.setHwValue i v), _ =>
    if (groupOf t).isSome then { φ with published := φ.published ++ [(i, v)] } else φ
  | _, _ => φ

def monitor : Monitor Call Reply Phase where
  hangs _ := True
  allows := allows x t
  answers _ _ _ := True
  next := next t

end Discipline

/-! ### Threads without the ADC -/

section Code

variable {x : Setup} {t : Thread} {φ : Phase}

theorem digital_keeps (ht : groupOf t = none) : Keeps (monitor x t) φ Digital where
  hangs := trivial
  calls c hc := by
    have hgroup : ∀ {P : AdcGroup → Prop}, ∀ g, groupOf t = some g → P g := by
      intro P g hg
      rw [ht] at hg
      cases hg
    have hline : ∀ level, φ.LineIs x t level := by
      rintro level rfl
      cases ht
    cases c with
    | fw c =>
      cases c with
      | setHwValue i v =>
        refine ⟨hgroup, fun _ _ => ?_⟩
        simp [monitor, next, ht]
      | _ => exact ⟨trivial, fun _ _ => rfl⟩
    | chMsgWait timeout => exact ⟨⟨hgroup, hline false⟩, fun _ _ => rfl⟩
    | _ => first | exact hc.elim | exact ⟨trivial, fun _ _ => rfl⟩

/-! ### The two sensors -/

/-- Neither about the ADC nor about what the sensor publishes. -/
def Unrelated : Call → Prop
  | .fw (.setHwValue ..) | .chMsgWait _ => False
  | c => Digital c

theorem unrelated_keeps : Keeps (monitor x t) φ Unrelated where
  hangs := trivial
  calls c hc := by
    cases c with
    | fw c =>
      cases c with
      | setHwValue i v => exact hc.elim
      | _ => exact ⟨trivial, fun _ _ => rfl⟩
    | _ => first | exact hc.elim | exact ⟨trivial, fun _ _ => rfl⟩

def Silent : MeteoL053.Call → Prop
  | .setHwValue .. | .chMsgWaitTimeout _ => False
  | _ => True

theorem silent_of_busCall (c : MeteoL053.Call) (h : Bus.BusCall c) : Silent c := by
  cases c <;> first | exact h.elim | trivial

theorem silent_of_streamCall (c : MeteoL053.Call) (h : Stream.StreamCall c) : Silent c := by
  cases c <;> first | exact h.elim | trivial

theorem lift_silent {α : Type} (d : Device) {p : Fw α} (hp : p.All Silent) :
    (lift d p).wp (monitor x t) φ fun _ φ' => φ' = φ := by
  have hexpand : (Bus.expand p).All Silent :=
    Bus.expand_all hp silent_of_busCall fun _ _ => trivial
  refine unrelated_keeps.follows (hexpand.inline fun c hc => ?_)
  cases c <;> first | exact hc.elim | exact ⟨trivial, fun _ => trivial⟩

theorem registration_follows (d : Device) (hwId : UInt8) :
    (lift d do
      MeteoL053.ask (.registerSchedule hwId)
      MeteoL053.ask (.chThdSleepMilliseconds 1000)
      MeteoL053.ask (.setHwStatus .unknown)
      MeteoL053.ask (.registerHw hwId)).wp (monitor x t) φ fun _ φ' => φ' = φ := by
  apply lift_silent
  iterate 3 refine Prog.all_step trivial fun _ => ?_
  exact ⟨trivial, fun _ => trivial⟩

/-- **One conversion** adds its result to the history. -/
theorem adcSample_follows {g : AdcGroup} (hg : groupOf t = some g) (hfree : φ.stage = .free)
    (hline : φ.LineIs x t true) :
    (adcSample g).wp (monitor x t) φ fun r φ' => φ' = { φ with results := φ.results ++ [r] } := by
  obtain ⟨stage, line, results, published⟩ := φ
  obtain rfl : stage = .free := hfree
  refine Prog.wp_step ⟨by rw [hg]; rfl, rfl⟩ fun _ _ => ?_
  refine Prog.wp_step rfl fun _ _ => ?_
  refine Prog.wp_step ⟨rfl, hg⟩ fun _ _ => ?_
  refine Prog.wp_step ⟨rfl, hline⟩ fun r _ => ?_
  refine Prog.wp_step rfl fun _ _ => ?_
  exact Prog.wp_step rfl fun _ _ => rfl

theorem awaitInterval_follows (timeout : UInt32) (hreported : φ.Reported x t)
    (hline : φ.LineIs x t false) :
    (awaitInterval timeout).wp (monitor x t) φ fun _ φ' => φ' = φ := by
  refine Prog.wp_step ⟨hreported, hline⟩ fun r _ => ?_
  cases r with
  | false => rfl
  | true =>
    iterate 2 refine unrelated_keeps.step trivial fun _ => ?_
    exact unrelated_keeps.step trivial fun _ => rfl

/-- The value of the last result is published. -/
theorem publish_follows {g : AdcGroup} {v : UInt32} (d : Device) (hwId : UInt8)
    (hg : groupOf t = some g) (hv : φ.published ++ [(0, v)] = reports x g φ.results) :
    (lift d do
      MeteoL053.ask .chSysLock
      MeteoL053.ask (.setHwValue 0 v)
      MeteoL053.ask (.setHwStatus .ok)
      MeteoL053.ask .chSysUnlock
      Stream.sendReading hwId [v]).wp (monitor x t) φ
        fun _ φ' => φ' = { φ with published := reports x g φ.results } := by
  have hnext : (monitor x t).next φ (.fw (.setHwValue 0 v)) () =
      { φ with published := reports x g φ.results } := by
    simp [monitor, next, hg, hv]
  refine unrelated_keeps.step trivial fun _ => ?_
  refine Prog.wp_step (fun g' hg' => ?_) fun _ _ => ?_
  · rw [hg] at hg'
    cases hg'
    exact hv
  · rw [hnext]
    iterate 2 refine unrelated_keeps.step trivial fun _ => ?_
    exact lift_silent d ((Stream.sendReading_all hwId [v]).mono silent_of_streamCall)

theorem setHwStatus_follows (d : Device) (status : HwStatus) :
    (lift d (MeteoL053.ask (.setHwStatus status))).wp (monitor x t) φ fun _ φ' => φ' = φ :=
  lift_silent d ⟨trivial, fun _ => trivial⟩

/-- Between the blocks of a thread. -/
def Between (x : Setup) : Thread → Label → Phase → Prop
  | .sensor .rain, .rain (.start _), φ => φ.stage = .free ∧ φ.results = [] ∧ φ.published = []
  | .sensor .rain, .rain (.loop referenceNoRain _), φ =>
    φ.stage = .free ∧ φ.published = reports x .rain φ.results ∧
      referenceNoRain = reference (samples φ.results)
  | .sensor .ml8511, .ml8511 (.start d _), φ =>
    φ.stage = .free ∧ φ.results = [] ∧ φ.published = [] ∧ d.enableLine = x.ml8511Line
  | .sensor .ml8511, .ml8511 (.loop d _), φ =>
    φ.stage = .free ∧ φ.published = reports x .device1 φ.results ∧ d = ⟨x.ml8511Line, false⟩
  | _, _, _ => True

theorem rain_reported (h : φ.published = reports x .rain φ.results) :
    φ.Reported x (.sensor .rain) := by
  rintro g hg
  cases hg
  exact h

theorem ml8511_reported (h : φ.published = reports x .device1 φ.results) :
    φ.Reported x (.sensor .ml8511) := by
  rintro g hg
  cases hg
  exact h

theorem rain_line (level : Bool) : φ.LineIs x (.sensor .rain) level := by
  intro h
  cases h

/-- What the loop does with a result leaves nothing to report. -/
theorem rainReport_follows {msg : Msg} {a : UInt16}
    (h : φ.published = reports x .rain φ.results) :
    (lift Rain.device (Rain.report msg
        (Rain.rainStatus (Rain.nextReference (reference (samples φ.results)) a) a))).wp
      (monitor x (.sensor .rain)) { φ with results := φ.results ++ [(msg, a)] }
      fun _ φ' => φ' =
        { φ with
          results := φ.results ++ [(msg, a)]
          published := reports x .rain (φ.results ++ [(msg, a)]) } := by
  unfold Rain.report
  by_cases hok : msg = .ok
  · rw [if_pos hok]
    apply publish_follows Rain.device Rain.hwId rfl
    simp [reports_snoc, report, hok, h]
  · rw [if_neg hok]
    refine Prog.wp_mono _ _ ?_ (setHwStatus_follows Rain.device .error)
    rintro _ _ rfl
    simp [reports_snoc, report, hok, h]

theorem rain_follows (l : Rain.Label) (h : Between x (.sensor .rain) (.rain l) φ) :
    (Rain.code l).wp (monitor x (.sensor .rain)) φ
      fun l' => Between x (.sensor .rain) (.rain l') := by
  cases l with
  | start interval =>
    obtain ⟨hfree, hresults, hpublished⟩ := h
    apply Prog.wp_bind_of _ _ _ (registration_follows Rain.device Rain.hwId)
    rintro _ _ rfl
    refine ⟨hfree, ?_, ?_⟩
    · rw [hpublished, hresults]
      rfl
    · rw [hresults]
      rfl
  | loop referenceNoRain interval =>
    obtain ⟨hfree, hpublished, rfl⟩ := h
    apply Prog.wp_bind_of _ _ _ (adcSample_follows rfl hfree (rain_line true))
    rintro ⟨msg, a⟩ _ rfl
    have hreport : (lift Rain.device (Rain.report msg (Rain.rainStatus
        (if msg = .ok then Rain.nextReference (reference (samples φ.results)) a
          else reference (samples φ.results)) a))).wp (monitor x (.sensor .rain))
        { φ with results := φ.results ++ [(msg, a)] } fun _ φ' => φ' =
          { φ with
            results := φ.results ++ [(msg, a)]
            published := reports x .rain (φ.results ++ [(msg, a)]) } := by
      by_cases hok : msg = .ok
      · rw [if_pos hok]
        exact rainReport_follows hpublished
      · -- the value does not matter without a sample
        have hvalue : ∀ v w, Rain.report msg v = Rain.report msg w := by
          intro v w
          simp [Rain.report, hok]
        rw [hvalue _ (Rain.rainStatus (Rain.nextReference (reference (samples φ.results)) a) a)]
        exact rainReport_follows hpublished
    apply Prog.wp_bind_of _ _ _ hreport
    rintro _ _ rfl
    apply Prog.wp_bind_of _ _ _ (awaitInterval_follows _ (rain_reported rfl) (rain_line false))
    rintro msg' _ rfl
    refine ⟨hfree, rfl, ?_⟩
    by_cases hok : msg = .ok
    · simp [samples_snoc, hok, reference_snoc]
    · simp [samples_snoc, hok]

/-- The line is high for the conversion. -/
theorem enable_follows {b : Bool} :
    (Ml8511.enable ⟨b, false⟩).wp (monitor x (.sensor .ml8511)) φ fun d φ' =>
      d = ⟨b, b⟩ ∧ φ' = { φ with line := b || φ.line } := by
  cases b with
  | false => exact ⟨rfl, rfl⟩
  | true =>
    refine Prog.wp_step rfl fun _ _ => ?_
    exact unrelated_keeps.step trivial fun _ => ⟨rfl, rfl⟩

/-- It is low between two conversions. -/
theorem disable_follows {b : Bool} :
    (Ml8511.disable ⟨b, b⟩).wp (monitor x (.sensor .ml8511)) φ fun d φ' =>
      d = ⟨b, false⟩ ∧ φ' = { φ with line := !b && φ.line } := by
  cases b with
  | false => exact ⟨rfl, rfl⟩
  | true => exact Prog.wp_step rfl fun _ _ => ⟨rfl, rfl⟩

theorem getUV_follows (hfree : φ.stage = .free) :
    (Ml8511.getUV x.uv ⟨x.ml8511Line, false⟩).wp (monitor x (.sensor .ml8511)) φ fun r φ' =>
      r.2 = ⟨x.ml8511Line, false⟩ ∧ ∃ a : Msg × UInt16,
        r.1 = report x φ.results a .device1 ∧
        φ' = { φ with
          line := !x.ml8511Line && (x.ml8511Line || φ.line)
          results := φ.results ++ [a] } := by
  apply Prog.wp_bind_of _ _ _ enable_follows
  rintro _ _ ⟨rfl, rfl⟩
  have hline : Phase.LineIs x (.sensor .ml8511) { φ with line := x.ml8511Line || φ.line } true := by
    intro _ hx
    simp [hx]
  have hsample := adcSample_follows (φ := { φ with line := x.ml8511Line || φ.line })
    (g := .device1) rfl hfree hline
  apply Prog.wp_bind_of _ _ _ hsample
  rintro a _ rfl
  apply Prog.wp_bind_of _ _ _ disable_follows
  rintro _ _ ⟨rfl, rfl⟩
  exact ⟨rfl, a, rfl, rfl⟩

theorem ml8511Report_follows {a : Msg × UInt16} {results : List (Msg × UInt16)}
    (hresults : φ.results = results ++ [a]) (h : φ.published = reports x .device1 results) :
    (lift Ml8511.device (Ml8511.report (report x results a .device1))).wp
      (monitor x (.sensor .ml8511)) φ fun _ φ' =>
        φ' = { φ with published := reports x .device1 φ.results } := by
  have hall : reports x .device1 φ.results =
      φ.published ++ (report x results a .device1).toList.map fun v => (0, v) := by
    rw [hresults, reports_snoc, h]
  cases hv : report x results a .device1 with
  | none =>
    refine Prog.wp_mono _ _ ?_ (setHwStatus_follows Ml8511.device .error)
    rintro _ _ rfl
    simp [hall, hv]
  | some v =>
    apply publish_follows Ml8511.device Ml8511.hwId rfl
    simp [hall, hv]

theorem ml8511_follows (l : Ml8511.Label) (h : Between x (.sensor .ml8511) (.ml8511 l) φ) :
    (Ml8511.code x.uv l).wp (monitor x (.sensor .ml8511)) φ
      fun l' => Between x (.sensor .ml8511) (.ml8511 l') := by
  cases l with
  | start d interval =>
    obtain ⟨hfree, hresults, hpublished, henable⟩ := h
    apply Prog.wp_bind_of _ _ _ (registration_follows Ml8511.device Ml8511.hwId)
    rintro _ _ rfl
    refine ⟨hfree, ?_, ?_⟩
    · rw [hpublished, hresults]
      rfl
    · rw [← henable]
      rfl
  | loop d interval =>
    obtain ⟨hfree, hpublished, rfl⟩ := h
    apply Prog.wp_bind_of _ _ _ (getUV_follows hfree)
    rintro ⟨v, d⟩ _ ⟨rfl, a, rfl, rfl⟩
    have hreport := ml8511Report_follows (a := a)
      (φ := { φ with
        line := !x.ml8511Line && (x.ml8511Line || φ.line)
        results := φ.results ++ [a] }) rfl hpublished
    apply Prog.wp_bind_of _ _ _ hreport
    rintro _ _ rfl
    have hline : Phase.LineIs x (.sensor .ml8511)
        { φ with
          line := !x.ml8511Line && (x.ml8511Line || φ.line)
          results := φ.results ++ [a]
          published := reports x .device1 (φ.results ++ [a]) } false := by
      intro _ hx
      simp [hx]
    apply Prog.wp_bind_of _ _ _ (awaitInterval_follows _ (ml8511_reported rfl) hline)
    rintro msg _ rfl
    exact ⟨hfree, rfl, rfl⟩

theorem between_of_digital {l : Label} (ht : groupOf t = none) : Between x t l φ := by
  unfold Between
  split <;> trivial

theorem sensor_follows (x : Setup) (s : Sensor) (l : Label) (φ : Phase)
    (h : Between x (.sensor s) l φ) :
    (sensorCode x s l).wp (monitor x (.sensor s)) φ (Between x (.sensor s)) := by
  by_cases hs : groupOf (.sensor s) = none
  · have hml : s ≠ .ml8511 := by rintro rfl; cases hs
    have hrain : s ≠ .rain := by rintro rfl; cases hs
    have hdigital := sensor_digital x s l hml hrain
    refine Prog.wp_mono _ _ ?_ ((digital_keeps hs).follows hdigital)
    rintro l' _ rfl
    exact between_of_digital hs
  · cases s with
    | rain =>
      cases l with
      | rain l => exact Prog.wp_bind_of _ _ _ (rain_follows l h) fun l' φ' h' => h'
      | _ => exact h
    | ml8511 =>
      cases l with
      | ml8511 l => exact Prog.wp_bind_of _ _ _ (ml8511_follows l h) fun l' φ' h' => h'
      | _ => exact h
    | _ => exact absurd rfl hs

/-- **Every block of every thread** uses the ADC as it should. -/
theorem body_follows (x : Setup) (t : Thread) (l : Label) (φ : Phase) (h : Between x t l φ) :
    (body x t l).wp (monitor x t) φ (Between x t) := by
  have hdigital : ∀ {p : Code Label}, groupOf t = none → p.All Digital →
      p.wp (monitor x t) φ (Between x t) := by
    intro p ht hp
    refine Prog.wp_mono _ _ ?_ ((digital_keeps ht).follows hp)
    rintro l' _ rfl
    exact between_of_digital ht
  unfold body
  split
  · exact hdigital rfl (Prog.all_bind (hc12_digital _) fun _ => trivial)
  · exact hdigital rfl (Prog.all_bind (Shell.code_digital ..) fun _ => trivial)
  · next s =>
    exact sensor_follows x s _ φ h
  · exact hdigital rfl (Prog.all_bind (registry_digital _) fun _ => trivial)
  · exact hdigital rfl ⟨trivial, fun _ => trivial⟩
  · exact hdigital rfl ⟨trivial, fun _ => trivial⟩
  · exact h

end Code

/-! ## The invariant -/

/-- The phases fit the locks, the driver and the histories. -/
structure Fits (ph : Thread → Locks.Phase) (ps : Thread → Phase) (s : State) : Prop where
  held : ∀ t, (ph t).held .adc = (ps t).stage.holds
  owner : ∀ t, (ps t).stage ≠ .free → ∃ g, groupOf t = some g ∧ s.driver = (ps t).stage.driver g
  idle : (∀ t, (ps t).stage = .free) → s.driver = .stop
  results : ∀ t g, groupOf t = some g → s.results g = (ps t).results
  published : ∀ y g, groupOf (.sensor y) = some g → s.published y = (ps (.sensor y)).published
  line : s.uvLine = (ps (.sensor .ml8511)).line

theorem groupOf_inj {t u : Thread} {g : AdcGroup} (ht : groupOf t = some g)
    (hu : groupOf u = some g) : t = u := by
  unfold groupOf at ht hu
  split at ht <;> split at hu <;> first | rfl | cases ht <;> cases hu

theorem stage_holds_iff (stage : Stage) : stage.holds = true ↔ stage ≠ .free := by
  cases stage <;> decide

/-- The lock of the ADC changes with its own two calls only. -/
theorem held_adc_after {φ : Locks.Phase} (t : Thread) {c : Call} (r : Reply c)
    (ha : c ≠ .adcAcquireBus) (hr : c ≠ .adcReleaseBus) :
    ((Locks.monitor t).next φ c r).held .adc = φ.held .adc := by
  refine Locks.locking.after_of_ne r fun hlock => ?_
  cases c with
  | adcAcquireBus => exact ha rfl
  | adcReleaseBus => exact hr rfl
  | fw c => cases c <;> cases hlock
  | registry c => cases c <;> cases hlock
  | _ => cases hlock

section Steps

theorem next_setHwValue_stage (t : Thread) (φ : Phase) (i : Nat) (v : UInt32) :
    (next t φ (.fw (.setHwValue i v)) ()).stage = φ.stage := by
  simp only [next]
  split <;> rfl

theorem next_setHwValue_results (t : Thread) (φ : Phase) (i : Nat) (v : UInt32) :
    (next t φ (.fw (.setHwValue i v)) ()).results = φ.results := by
  simp only [next]
  split <;> rfl

theorem next_setHwValue_line (t : Thread) (φ : Phase) (i : Nat) (v : UInt32) :
    (next t φ (.fw (.setHwValue i v)) ()).line = φ.line := by
  simp only [next]
  split <;> rfl

variable {x : Setup} {ph : Thread → Locks.Phase} {ps : Thread → Phase} {s₀ : Locks.State}
  {s s' : State} {t : Thread} {φ : Locks.Phase} {ψ : Phase} {g : AdcGroup}

theorem Fits.stage_free (h : Fits ph ps s) (hl : Locks.Fits ph s₀) {u : Thread}
    (ht : (ps t).stage ≠ .free) (hu : u ≠ t) : (ps u).stage = .free := by
  have hholds : ∀ v, s₀.locks.holds v .adc = (ps v).stage.holds := by
    intro v
    rw [hl.good.holds, ← h.held v]
    rfl
  have hnot := (hl.good.lock .adc).not_holds ((hholds t).trans ((stage_holds_iff _).mpr ht)) hu
  rw [hholds u] at hnot
  by_contra hfree
  rw [(stage_holds_iff _).mpr hfree] at hnot
  cases hnot

/-- Thread `t` goes on, and nobody else uses the ADC. -/
theorem Fits.turn (h : Fits ph ps s) (hg : groupOf t = some g)
    (hothers : ∀ u, u ≠ t → (ps u).stage = .free) (hheld : φ.held .adc = ψ.stage.holds)
    (hpub : ψ.published = (ps t).published) (hline : ψ.line = (ps t).line) :
    Fits (Function.update ph t φ) (Function.update ps t ψ)
      ⟨ψ.stage.driver g, s.uvLine, Function.update s.results g ψ.results, s.published⟩ where
  held u := by
    by_cases e : u = t
    · rw [e, Function.update_self, Function.update_self, hheld]
    · rw [Function.update_of_ne e, Function.update_of_ne e, h.held]
  owner u hu := by
    by_cases e : u = t
    · subst e
      rw [Function.update_self]
      exact ⟨g, hg, rfl⟩
    · rw [Function.update_of_ne e] at hu
      exact absurd (hothers u e) hu
  idle hall := by
    have hfree := hall t
    rw [Function.update_self] at hfree
    rw [hfree]
    rfl
  results u g' hu := by
    by_cases e : u = t
    · subst e
      rw [hg] at hu
      cases hu
      simp
    · have hne : g' ≠ g := by
        rintro rfl
        exact e (groupOf_inj hu hg)
      simp [e, hne, h.results u g' hu]
  published y g' hy :=
    (h.published y g' hy).trans (apply_update_same Phase.published hpub (.sensor y)).symm
  line := h.line.trans (apply_update_same Phase.line hline (.sensor .ml8511)).symm

/-- The same with no new result. -/
theorem Fits.turn' (h : Fits ph ps s) (hg : groupOf t = some g)
    (hothers : ∀ u, u ≠ t → (ps u).stage = .free) (stage : Stage)
    (hheld : φ.held .adc = stage.holds) :
    Fits (Function.update ph t φ) (Function.update ps t { ps t with stage })
      { s with driver := stage.driver g } := by
  have hturn := h.turn (ψ := { ps t with stage }) hg hothers hheld rfl rfl
  rwa [← h.results t g hg, Function.update_eq_self] at hturn

/-- A call that has nothing to do with the ADC. -/
theorem Fits.frame (h : Fits ph ps s) (hheld : φ.held .adc = (ph t).held .adc) :
    Fits (Function.update ph t φ) (Function.update ps t (ps t)) s := by
  rw [Function.update_eq_self]
  refine ⟨fun u => ?_, h.owner, h.idle, h.results, h.published, h.line⟩
  rw [← h.held u]
  exact apply_update_same (fun φ : Locks.Phase => φ.held .adc) hheld u

/-- Nobody uses the ADC while its lock is free. -/
theorem Fits.all_free (h : Fits ph ps s) (hl : Locks.Fits ph s₀)
    (hfree : s₀.locks.taken .adc = false) (u : Thread) : (ps u).stage = .free := by
  have hnot := (hl.good.lock .adc).free hfree u
  rw [hl.good.holds, Function.comp_apply, h.held u] at hnot
  by_contra hu
  rw [(stage_holds_iff _).mpr hu] at hnot
  cases hnot

theorem Fits.setLine (h : Fits ph ps s) (ht : t = .sensor .ml8511) (level : Bool)
    (hheld : φ.held .adc = (ph t).held .adc) :
    Fits (Function.update ph t φ) (Function.update ps t { ps t with line := level })
      { s with uvLine := level } := by
  refine ⟨fun u => ?_, fun u hu => ?_, fun hall => ?_, fun u g' hu => ?_, fun y g' hy => ?_, ?_⟩
  · have e₁ := apply_update_same (fun φ : Locks.Phase => φ.held .adc) hheld u
    have e₂ := apply_update_same (t := t) (x := { ps t with line := level }) Phase.stage (by rfl) u
    rw [e₂]
    exact e₁.trans (h.held u)
  · have e := apply_update_same (t := t) (x := { ps t with line := level }) Phase.stage (by rfl) u
    rw [e] at hu ⊢
    exact h.owner u hu
  · exact h.idle fun u => (apply_update_same Phase.stage (by rfl) u).symm.trans (hall u)
  · exact (h.results u g' hu).trans (apply_update_same Phase.results (by rfl) u).symm
  · exact (h.published y g' hy).trans (apply_update_same Phase.published (by rfl) _).symm
  · subst ht
    rw [Function.update_self]

/-- The phase of a thread changes in what it has published only. -/
theorem Fits.publish (h : Fits ph ps s) (i : Nat) (v : UInt32)
    (hheld : φ.held .adc = (ph t).held .adc) :
    Fits (Function.update ph t φ)
      (Function.update ps t (next t (ps t) (.fw (.setHwValue i v)) ())) (s.publish i v t) := by
  cases t with
  | sensor y =>
    refine ⟨fun u => ?_, fun u hu => ?_, fun hall => ?_, fun u g' hu => ?_, fun y' g' hy' => ?_, ?_⟩
    · rw [apply_update_same Phase.stage (next_setHwValue_stage ..) u, ← h.held u]
      exact apply_update_same (fun φ : Locks.Phase => φ.held .adc) hheld u
    · rw [apply_update_same Phase.stage (next_setHwValue_stage ..) u] at hu ⊢
      exact h.owner u hu
    · exact h.idle fun u =>
        (apply_update_same Phase.stage (next_setHwValue_stage ..) u).symm.trans (hall u)
    · rw [apply_update_same Phase.results (next_setHwValue_results ..) u]
      exact h.results u g' hu
    · by_cases e : y' = y
      · subst e
        have hold := h.published y' g' hy'
        simp [State.publish, next, hy', hold]
      · have hold := h.published y' g' hy'
        simp [State.publish, e, hold]
    · rw [apply_update_same Phase.line (next_setHwValue_line ..)]
      exact h.line
  | _ => exact h.frame hheld

/-- **Step.** Every call a thread is allowed keeps the invariant. -/
theorem Fits.call (h : Fits ph ps s) (hl : Locks.Fits ph s₀) {c : Call} {r : Reply c}
    (ha : allows x t (ps t) c) (hr₀ : Locks.possible t s₀ c r) (hr : possible t s₀ s c r) :
    Fits (Function.update ph t ((Locks.monitor t).next (ph t) c r))
      (Function.update ps t (next t (ps t) c r)) (effect t s₀ s c r) := by
  have hheld : c ≠ .adcAcquireBus → c ≠ .adcReleaseBus →
      ((Locks.monitor t).next (ph t) c r).held .adc = (ph t).held .adc := held_adc_after t r
  -- the owner of the ADC, its group and the driver
  have howner : ∀ {stage : Stage}, (ps t).stage = stage → stage ≠ .free →
      (∀ u, u ≠ t → (ps u).stage = .free) ∧ (ph t).held .adc = true ∧
        ∃ g, groupOf t = some g ∧ s.driver = stage.driver g := by
    rintro _ rfl hne
    exact ⟨fun u => h.stage_free hl hne, (h.held t).trans ((stage_holds_iff _).mpr hne), h.owner t hne⟩
  cases c with
  | adcAcquireBus =>
    obtain ⟨g, hg⟩ := Option.isSome_iff_exists.mp ha.1
    have hall := h.all_free hl hr₀.1
    have hstop : s = { s with driver := Stage.owned.driver g } := by
      rw [← show s.driver = Stage.owned.driver g from h.idle hall]
    rw [show effect t s₀ s .adcAcquireBus r = s from rfl, hstop]
    exact h.turn' hg (fun u _ => hall u) .owned (Locks.locking.after_acquire (ph t).held r rfl)
  | adcReleaseBus =>
    obtain ⟨hothers, -, g, hg, hdriver⟩ := howner ha (by decide)
    have hstop : s = { s with driver := Stage.free.driver g } := by
      rw [← show s.driver = Stage.free.driver g from hdriver]
    rw [show effect t s₀ s .adcReleaseBus r = s from rfl, hstop]
    exact h.turn' hg hothers .free (Locks.locking.after_release (ph t).held r rfl)
  | adcStart =>
    obtain ⟨hothers, hown, g, hg, -⟩ := howner ha (by decide)
    exact h.turn' hg hothers .ready hown
  | adcStop =>
    obtain ⟨hothers, hown, g, hg, -⟩ := howner ha (by decide)
    exact h.turn' hg hothers .stopped hown
  | adcStartConversion g =>
    obtain ⟨hothers, hown, -⟩ := howner ha.1 (by decide)
    exact h.turn' ha.2 hothers .active hown
  | adcWait =>
    obtain ⟨hothers, hown, g, hg, hdriver⟩ := howner ha.1 (by decide)
    have hconvert : s.convert r =
        ⟨.ready, s.uvLine, Function.update s.results g ((ps t).results ++ [r]), s.published⟩ := by
      rw [State.convert, hdriver, ← h.results t g hg]
      rfl
    rw [show effect t s₀ s .adcWait r = s.convert r from rfl, hconvert]
    exact h.turn (ψ := next t (ps t) .adcWait r) hg hothers hown rfl rfl
  | setMl8511Line level => exact h.setLine ha level (hheld (by intro e; cases e) (by intro e; cases e))
  | fw c =>
    have hheld' := hheld (by intro e; cases e) (by intro e; cases e)
    cases c with
    | setHwValue i v => exact h.publish i v hheld'
    | _ => exact h.frame hheld'
  | _ => exact h.frame (hheld (by intro e; cases e) (by intro e; cases e))

end Steps

theorem between_start (x : Setup) (cfg : AppConfiguration) (t : Thread) (line : Bool) :
    Between x t (startLabel x cfg t) { line } := by
  cases t with
  | sensor y =>
    simp only [startLabel]
    split
    · cases y <;> first
        | exact ⟨rfl, rfl, rfl⟩
        | exact ⟨rfl, rfl, rfl, rfl⟩
        | trivial
    · cases y <;> trivial
  | _ => trivial

section Runs

variable {x : Setup} {cfg : AppConfiguration} {uvLine : Bool}
  {p : Pool Thread Call Reply Label (Locks.State × State)}

/-- **Run.** -/
theorem reachable_inv (h : (system x).Reachable (initial x cfg uvLine) p) :
    System.AttachInv Locks.monitor (monitor x) Locks.Continues (Between x) Locks.Fits
      (fun ph ps _ s => Fits ph ps s) p := by
  refine h.attach_invariant (Locks.body_follows x)
    (fun ph s t c r hJ ha hr => ⟨trivial, hJ.call ha hr⟩) (body_follows x) ?_ ?_
  · intro ph ps s₀ s t c r hl hfits _ ha hr₀ hr
    exact ⟨trivial, hfits.call hl ha hr₀ hr⟩
  · refine ⟨fun _ => ({}, { line := uvLine }), fun t => ⟨?_, ?_⟩, ?_, ?_⟩
    · cases t <;> rfl
    · exact between_start x cfg t uvLine
    · exact ⟨LockOrder.Good.initial, Meeting.initial⟩
    · exact ⟨fun _ => rfl, fun _ hne => absurd rfl hne, fun _ => rfl, fun _ _ _ => rfl,
        fun _ _ _ => rfl, rfl⟩

/-- A call of the ADC after its lock was taken. -/
def UsesAdc : Call → Prop
  | .adcStart | .adcStop | .adcStartConversion _ | .adcWait | .adcReleaseBus => True
  | _ => False

/-- **The ADC is shared well.** However the threads of the station interleave: a
thread calls the driver only as holder of its lock and only in a state that the
driver accepts, the conversion it waits for is of its own group, the ADC is
stopped while nobody has it, and the UV sensor, if it can be switched, is on
during its conversion and off while its thread waits. -/
theorem adc_exclusive (x : Setup) (cfg : AppConfiguration) (uvLine : Bool)
    (p : Pool Thread Call Reply Label (Locks.State × State))
    (h : (system x).Reachable (initial x cfg uvLine) p) :
    (∀ t c, p.AboutTo t c → UsesAdc c →
      p.shared.1.locks.holds t .adc = true ∧ p.shared.2.driver.Accepts c) ∧
    (∀ t, p.AboutTo t .adcWait → ∃ g, groupOf t = some g ∧ p.shared.2.driver = .active g) ∧
    (p.shared.1.locks.taken .adc = false → p.shared.2.driver = .stop) ∧
    (x.ml8511Line = true →
      (p.AboutTo (.sensor .ml8511) .adcWait → p.shared.2.uvLine = true) ∧
      ∀ timeout, p.AboutTo (.sensor .ml8511) (.chMsgWait timeout) →
        p.shared.2.uvLine = false) := by
  obtain ⟨ph, ps, hallows, -, -, hl, hfits⟩ := (reachable_inv h).split
  have hholds : ∀ t, (ps t).stage ≠ .free → p.shared.1.locks.holds t .adc = true := by
    intro t ht
    rw [hl.good.holds]
    exact (hfits.held t).trans ((stage_holds_iff _).mpr ht)
  refine ⟨fun t c hc huses => ?_, fun t hc => ?_, fun hfree => ?_, fun hx => ⟨fun hc => ?_, ?_⟩⟩
  · have ha := (hallows t c hc).2
    have hstage : ∀ {stage : Stage}, (ps t).stage = stage → stage ≠ .free →
        p.shared.1.locks.holds t .adc = true ∧ ∃ g, p.shared.2.driver = stage.driver g := by
      rintro _ rfl hne
      obtain ⟨g, -, hdriver⟩ := hfits.owner t hne
      exact ⟨hholds t hne, g, hdriver⟩
    cases c with
    | adcStart =>
      obtain ⟨hown, g, hdriver⟩ := hstage ha (by decide)
      exact ⟨hown, .inl hdriver⟩
    | adcStop =>
      obtain ⟨hown, g, hdriver⟩ := hstage ha (by decide)
      exact ⟨hown, .inr hdriver⟩
    | adcStartConversion g' =>
      obtain ⟨hown, g, hdriver⟩ := hstage ha.1 (by decide)
      exact ⟨hown, hdriver⟩
    | adcWait =>
      obtain ⟨hown, g, hdriver⟩ := hstage ha.1 (by decide)
      exact ⟨hown, g, hdriver⟩
    | adcReleaseBus => exact ⟨(hstage ha (by decide)).1, trivial⟩
    | _ => exact huses.elim
  · have hstage := (hallows t _ hc).2.1
    obtain ⟨g, hg, hdriver⟩ := hfits.owner t (by rw [hstage]; decide)
    rw [hstage] at hdriver
    exact ⟨g, hg, hdriver⟩
  · exact hfits.idle (hfits.all_free hl hfree)
  · exact hfits.line.trans ((hallows _ _ hc).2.2 rfl hx)
  · intro timeout hc
    exact hfits.line.trans ((hallows _ _ hc).2.2 rfl hx)

/-- **What the two sensors report**, over every run of the station: a value is
published only for the last result of the sensor's own group, and when its
thread waits it has published one report for each sample, of the UV sensor
those the conversion makes something of, of the rain sensor whether the sample
is below the first one above 1000. -/
theorem analog_reports (x : Setup) (cfg : AppConfiguration) (uvLine : Bool)
    (p : Pool Thread Call Reply Label (Locks.State × State))
    (h : (system x).Reachable (initial x cfg uvLine) p) (y : Sensor) (g : AdcGroup)
    (hg : groupOf (.sensor y) = some g) :
    (∀ i v, p.AboutTo (.sensor y) (.fw (.setHwValue i v)) →
      p.shared.2.published y ++ [(i, v)] = reports x g (p.shared.2.results g)) ∧
    ∀ timeout, p.AboutTo (.sensor y) (.chMsgWait timeout) →
      p.shared.2.published y = reports x g (p.shared.2.results g) := by
  obtain ⟨ph, ps, hallows, -, -, -, hfits⟩ := (reachable_inv h).split
  rw [hfits.published y g hg, hfits.results _ g hg]
  exact ⟨fun i v hc => (hallows _ _ hc).2 g hg, fun timeout hc => (hallows _ _ hc).2.1 g hg⟩

/-! ### A run -/

/-- The rain sensor alone. -/
def rainOnly : Setup where
  features s := s = .rain
  fuel := 0
  bmp280Line := none
  bmp280 := ⟨fun _ => 0, fun _ => 0, fun _ => 0⟩
  veml7700 := ⟨fun _ => 0, id, fun _ _ => 0, fun _ _ => 0, fun _ _ => false, id⟩
  ml8511Line := false
  uv _ := none
  power := ⟨fun _ _ => 0, fun _ _ => 0⟩
  as3935 := 3

/-- A conversion of the rain sensor. -/
def converts (a : UInt16) : List (Thread × (c : Call) × Reply c) :=
  [(.sensor .rain, ⟨.adcAcquireBus, ()⟩), (.sensor .rain, ⟨.adcStart, ()⟩),
    (.sensor .rain, ⟨.adcStartConversion .rain, ()⟩), (.sensor .rain, ⟨.adcWait, (.ok, a)⟩),
    (.sensor .rain, ⟨.adcStop, ()⟩), (.sensor .rain, ⟨.adcReleaseBus, ()⟩)]

/-- Its report, while no buffer is free. -/
def publishes (v : UInt32) : List (Thread × (c : Call) × Reply c) :=
  [(.sensor .rain, ⟨.fw .chSysLock, ()⟩), (.sensor .rain, ⟨.fw (.setHwValue 0 v), ()⟩),
    (.sensor .rain, ⟨.fw (.setHwStatus .ok), ()⟩), (.sensor .rain, ⟨.fw .chSysUnlock, ()⟩),
    (.sensor .rain, ⟨.fw .chPoolAlloc, none⟩)]

/-- A dry sample, and a wet one up to its conversion. -/
def rainRun : List (Thread × (c : Call) × Reply c) :=
  [(.sensor .rain, ⟨.registry (.post .schedule (.sensor .rain)), true⟩),
    (.sensor .rain, ⟨.fw (.chThdSleepMilliseconds 1000), ()⟩),
    (.sensor .rain, ⟨.fw (.setHwStatus .unknown), ()⟩),
    (.sensor .rain, ⟨.registry (.post .hw (.sensor .rain)), true⟩)] ++
  converts 1500 ++ publishes 0 ++ [(.sensor .rain, ⟨.chMsgWait 60000000, false⟩)]

theorem adc_exclusive_rain :
    ∃ p, (system rainOnly).Reachable (initial rainOnly ⟨0, 0, fun _ => 60⟩ false) p ∧
      p.AboutTo (.sensor .rain) .adcWait ∧ p.shared.2.driver = .active .rain ∧
      p.shared.1.locks.holds (.sensor .rain) .adc = true := by
  obtain ⟨p, hp, hf⟩ := System.Reachable.exists_of_playAll (system rainOnly)
    (initial rainOnly ⟨0, 0, fun _ => 60⟩ false) (rainRun ++ (converts 1200).take 3)
    (fun p => p.nextCall (.sensor .rain)) (b := some .adcWait) (by decide +kernel)
  have hwait := Pool.aboutTo_of_nextCall hf
  obtain ⟨hown, hgroup, -⟩ := adc_exclusive rainOnly ⟨0, 0, fun _ => 60⟩ false p hp
  obtain ⟨g, hg, hdriver⟩ := hgroup _ hwait
  cases hg
  exact ⟨p, hp, hwait, hdriver, (hown _ _ hwait trivial).1⟩

theorem analog_reports_rain :
    ∃ p, (system rainOnly).Reachable (initial rainOnly ⟨0, 0, fun _ => 60⟩ false) p ∧
      p.shared.2.results .rain = [(.ok, 1500), (.ok, 1200)] ∧
      p.shared.2.published .rain = [(0, 0), (0, 1)] := by
  obtain ⟨p, hp, hf⟩ := System.Reachable.exists_of_playAll (system rainOnly)
    (initial rainOnly ⟨0, 0, fun _ => 60⟩ false) (rainRun ++ converts 1200 ++ publishes 1)
    (fun p => (p.nextCall (.sensor .rain), p.shared.2.results .rain))
    (b := (some (.chMsgWait 60000000), [(.ok, 1500), (.ok, 1200)])) (by decide +kernel)
  simp only [Prod.mk.injEq] at hf
  refine ⟨p, hp, hf.2, ?_⟩
  rw [(analog_reports rainOnly ⟨0, 0, fun _ => 60⟩ false p hp .rain .rain rfl).2 60000000
    (Pool.aboutTo_of_nextCall hf.1), hf.2]
  decide

end Runs

end MeteoL053.Station.Adc
