import MeteoL053.Station.Messages

/-!
The configuration of the running station: the keys the shell reads, the commands
they make, `appConfiguration`, the EEPROM, the schedule list with its mailbox and
registry thread, the messages to the sensor threads and their intervals.

The firmware is the shipped one. What is not about the configuration is answered
in any way. `keys`, `pending` and `order` are history variables: the keys so far,
the command that was entered and has not taken effect, and the registrations and
commands that have. A registration takes effect with its store to the list, a
`schedule` with the first look of the shell at the list, a `save` with the lock
that ends its write.
-/

namespace MeteoL053.Station.Settings

open CallTree Config Registry

/-! ## What is typed -/

/-- The lines that were entered, and the line under way. -/
structure Typed where
  lines : List (List UInt8)
  line : List UInt8

/-- The line after a key that does not end it. -/
def edit (line : List UInt8) (c : UInt8) : List UInt8 :=
  if c = 8 ∨ c = 127 then line.dropLast
  else if c < 0x20 then line
  else if line.length < Shell.shellMaxLineLength - 1 then line ++ [c]
  else line

def Typed.key (k : Typed) (c : UInt8) : Typed :=
  if c = 0x0D then ⟨k.lines ++ [k.line], []⟩ else ⟨k.lines, edit k.line c⟩

def typed (keys : List UInt8) : Typed := keys.foldl Typed.key ⟨[], []⟩

theorem typed_snoc (keys : List UInt8) (c : UInt8) :
    typed (keys ++ [c]) = (typed keys).key c := by
  simp [typed]

/-- What a command asks of the configuration, if anything. -/
def commandEvent (argv : List (List UInt8)) : Shell.Command → Option Event
  | .schedule => some (.schedule (argv.map Shell.text))
  | .save => some .save
  | _ => none

def dispatchEvent (F : Features) (cmd : List UInt8) (argv : List (List UInt8)) : Option Event :=
  if Shell.text cmd = "help" then none
  else (Shell.cmdexec (Shell.shellCommands F) (Shell.text cmd)).bind (commandEvent argv)

/-- What a line asks of the configuration. -/
def eventOf (F : Features) (line : List UInt8) : Option Event :=
  (Shell.splitLine line).bind fun x => dispatchEvent F x.1 x.2

/-- The commands of the lines that were entered. -/
def entered (F : Features) (keys : List UInt8) : List Event :=
  (typed keys).lines.filterMap (eventOf F)

/-! ## The system -/

structure State where
  eeprom : Eeprom.Driver
  appConfiguration : AppConfiguration
  /-- the field of each thread's configuration -/
  interval : Sensor → UInt16
  registry : Registry.State
  msgs : Messages
  /-- all keys the shell has read -/
  keys : List UInt8
  /-- the command that was entered last, until it takes effect -/
  pending : Option Event
  /-- the registrations and the commands that have taken effect, in that order -/
  order : List Event

/-- An entry of the schedule list, known by its thread. -/
def State.scheduleList (s : State) (i : Fin scheduleListSize) : Option Sensor :=
  match s.registry.list .schedule i with
  | some (.sensor x) => some x
  | _ => none

def toFitted (x : Sensor) : Option Fitted := if h : x.enabled = true then some ⟨x, h⟩ else none

theorem toFitted_val (x : Fitted) : toFitted x.1 = some x := dif_pos x.2

/-- The configuration of the station as the model of the commands has it. -/
def State.station (s : State) : Config.Station where
  eeprom := s.eeprom
  appConfiguration := s.appConfiguration
  scheduleList i := (s.scheduleList i).bind toFitted
  interval t := s.interval t.1

/-- The registration a call of a registry thread makes. -/
def registration : Registry.Call → List Event
  | .put .schedule _ (.sensor x) => ((toFitted x).map Event.register).toList
  | _ => []

/-- The command that is pending takes effect. -/
def State.commit (s : State) : State :=
  { s with pending := none, order := s.order ++ s.pending.toList }

/-- The key `c` of the shell. -/
def State.key (F : Features) (s : State) (c : UInt8) : State :=
  { s with
    keys := s.keys ++ [c]
    pending := if c = 0x0D then eventOf F (typed s.keys).line else s.pending }

/-- A sensor thread stores its interval. -/
def State.setInterval (s : State) (n : UInt16) : Thread → State
  | .sensor x => { s with interval := Function.update s.interval x n }
  | _ => s

def possible (t : Thread) (s : State) (c : Call) (r : Reply c) : Prop :=
  s.msgs.Possible t c r ∧
    match c, r with
    | .registry c, r => Registry.possible s.registry c r
    | .scheduleList i, r => r = s.scheduleList i
    | .interval x, r => r = s.interval x
    | _, _ => True

instance (t : Thread) (s : State) (c : Call) (r : Reply c) : Decidable (possible t s c r) := by
  revert r
  apply Call.casesOn (motive := fun c => ∀ r : Reply c, Decidable (possible t s c r)) c <;>
    intros <;> first
    | exact inferInstanceAs (Decidable (_ ∧ True))
    | exact inferInstanceAs (Decidable (_ ∧ Registry.possible _ _ _))
    | exact inferInstanceAs (Decidable (_ ∧ _ = _))

section System

variable (F : Features) (waits : Nat → Eeprom.Wait)

def effect (t : Thread) (s : State) : (c : Call) → Reply c → State
  | .registry c, r =>
    { s with registry := Registry.effect s.registry c r, order := s.order ++ registration c }
  | .setInterval n, _ => s.setInterval n t
  | .setAppInterval i n, _ =>
    { s with
      appConfiguration :=
        { s.appConfiguration with interval := Function.update s.appConfiguration.interval i n } }
  | .scheduleList _, _ => s.commit
  | .eepromUnlock, _ => { s with eeprom := Eeprom.openEeprom waits s.eeprom }
  | .eepromProgram i, _ =>
    { s with
      eeprom :=
        Eeprom.eepromProgram waits (Eeprom.dataEepromBase + configBaseAddr + UInt32.ofNat i)
          (s.appConfiguration.bytes.getD i 0) s.eeprom }
  | .eepromLock, _ => { s with eeprom := Eeprom.lockEeprom waits .ready s.eeprom }.commit
  | .streamRead, c => s.key F c
  | c, r => { s with msgs := s.msgs.after t c r }

/-- The whole station with its configuration. -/
def system (x : Setup) : System Thread Call Reply Label State where
  body := body x
  possible := possible
  effect := effect x.features waits

instance (x : Setup) (t : Thread) (s : State) (c : Call) (r : Reply c) :
    Decidable ((system waits x).possible t s c r) :=
  inferInstanceAs (Decidable (possible t s c r))

/-- `main` has loaded the configuration `st` and started the threads. -/
def started (x : Setup) (st : Config.Station) : Pool Thread Call Reply Label State where
  shared :=
    { eeprom := st.eeprom
      appConfiguration := st.appConfiguration
      interval := startInterval st.appConfiguration
      registry := ⟨fun _ => [], fun _ _ => none⟩
      msgs := fun _ => .idle
      keys := []
      pending := none
      order := [] }
  prog t := .ret (startLabel x st.appConfiguration t)

end System

/-! ## The discipline of the threads -/

/-- What the shell still has to do for the last line. -/
inductive Todo where
  | nothing
  /-- show the table, for a `schedule` command that assigns nothing -/
  | table
  /-- look up the entry of a `schedule` command -/
  | lookUp (id : Fin scheduleListSize) (n : UInt8)
  /-- the entry was found: send the message and store the interval -/
  | assign (x : Sensor) (id : Fin scheduleListSize) (n : UInt8)
  | store (id : Fin scheduleListSize) (n : UInt8)
  /-- save, with `n` steps of the write done -/
  | save (n : Nat)

/-- The index of a `schedule` command. -/
def indexOf (id : UInt8) : Option (Fin scheduleListSize) :=
  if id > 0 then
    if h : id.toNat < scheduleListSize then some ⟨id.toNat, h⟩ else none
  else none

def Todo.of : Option Event → Todo
  | some (.schedule [id, interval]) =>
    match indexOf (UInt8.ofInt (atoi id)) with
    | some i => .lookUp i (UInt8.ofInt (atoi interval))
    | none => .table
  | some (.schedule _) => .table
  | some .save => .save 0
  | _ => .nothing

structure Phase where
  /-- the line under way -/
  line : List UInt8 := []
  todo : Todo := .nothing
  talk : Talk := .none
  /-- the interval of the sensor thread -/
  interval : UInt16 := 0
  /-- what the registry thread has fetched -/
  hand : Option Device := none

/-- The entry of the list the shell may look at. -/
def Todo.Reads (i : Fin scheduleListSize) : Todo → Prop
  | .nothing | .table => True
  | .lookUp id _ | .assign _ id _ => i = id
  | .store .. | .save _ => False

/-- The shell reads a key only when nothing is left to do. -/
def shellAllows (φ : Phase) : Call → Prop
  | .streamRead => φ.todo = .nothing
  | .scheduleList i => φ.todo.Reads i
  | .chMsgSend x m => ∃ id n, φ.todo = .assign x id n ∧ m = n.toUInt32
  | .chMsgSent x => ∃ id n, φ.todo = .assign x id n
  | .setAppInterval i v => ∃ n, φ.todo = .store i n ∧ v = n.toUInt16
  | .eepromUnlock => φ.todo = .save 0
  | .eepromProgram i => φ.todo = .save (i + 1)
  | .eepromLock => φ.todo = .save (configSize + 1)
  | .registry _ => False
  | _ => True

/-- Not one of the calls that only the shell makes. -/
def NotOfShell : Call → Prop
  | .streamRead | .scheduleList _ | .setAppInterval .. => False
  | .eepromUnlock | .eepromProgram _ | .eepromLock => False
  | _ => True

/-- A sensor thread waits for as long as its interval says. -/
def sensorAllows (F : Features) (x : Sensor) (φ : Phase) : Call → Prop
  | .chMsgWait timeout => timeout = waitTimeout φ.interval
  | .registry (.post .schedule d) => d = .sensor x ∧ F.starts d = true
  | .registry (.post .hw _) => True
  | .registry _ => False
  | c => NotOfShell c

/-- A registry thread puts what it has fetched at its id. -/
def registryAllows (m : Mail) (φ : Phase) : Call → Prop
  | .registry (.fetch m') => m' = m
  | .registry (.put m' id d) => m' = m ∧ φ.hand = some d ∧ id = d.hwId
  | .registry _ => False
  | c => NotOfShell c

def otherAllows : Call → Prop
  | .registry (.post .hw _) => True
  | .registry _ => False
  | c => NotOfShell c

def Todo.next (todo : Todo) : (c : Call) → Reply c → Todo
  | .scheduleList _, r =>
    match todo, r with
    | .lookUp id n, some x => if n > 0 then .assign x id n else .nothing
    | .lookUp .., none => .nothing
    | .table, _ => .nothing
    | todo, _ => todo
  | .chMsgSent _, _ =>
    match todo with
    | .assign _ id n => .store id n
    | todo => todo
  | .setAppInterval .., _ => .nothing
  | .eepromUnlock, _ => .save 1
  | .eepromProgram i, _ => .save (i + 2)
  | .eepromLock, _ => .nothing
  | _, _ => todo

/-- The entry that was found is found again. -/
def Todo.Answers (todo : Todo) : (c : Call) → Reply c → Prop
  | .scheduleList _, r => ∀ x id n, todo = .assign x id n → r = some x
  | _, _ => True

section Monitor

variable (F : Features)

def shellNext (φ : Phase) : (c : Call) → Reply c → Phase
  | .streamRead, c =>
    if c = 0x0D then { φ with line := [], todo := .of (eventOf F φ.line) }
    else { φ with line := edit φ.line c }
  | c, r => { φ with todo := φ.todo.next c r }

def sensorNext (φ : Phase) : (c : Call) → Reply c → Phase
  | .setInterval n, _ => { φ with interval := n }
  | _, _ => φ

def registryNext (φ : Phase) : (c : Call) → Reply c → Phase
  | .registry (.fetch _), d => { φ with hand := some d }
  | .registry (.put ..), _ => { φ with hand := none }
  | _, _ => φ

def Phase.allows (t : Thread) (φ : Phase) (c : Call) : Prop :=
  match t with
  | .shell => shellAllows φ c
  | .sensor x => sensorAllows F x φ c
  | .registry m => registryAllows m φ c
  | _ => otherAllows c

def Phase.next (t : Thread) (φ : Phase) (c : Call) (r : Reply c) : Phase :=
  match t with
  | .shell => shellNext F φ c r
  | .sensor _ => sensorNext φ c r
  | .registry _ => registryNext φ c r
  | _ => φ

def monitor (t : Thread) : Monitor Call Reply Phase where
  hangs _ := True
  allows φ c := φ.talk.Allows t c ∧ φ.allows F t c
  answers φ c r := t = .shell → φ.todo.Answers c r
  next φ c r := { φ.next F t c r with talk := φ.talk.next c r }

/-- The same for lifted code of a sensor thread. -/
def fwMonitor (x : Sensor) : Monitor MeteoL053.Call MeteoL053.Reply Phase where
  hangs _ := True
  allows φ
    | .chMsgWaitTimeout timeout => φ.talk = .none ∧ timeout = waitTimeout φ.interval
    | .registerSchedule _ => F.starts (.sensor x) = true
    | _ => True
  answers _ _ _ := True
  next φ
    | .chMsgWaitTimeout _, r => { φ with interval := nextInterval φ.interval r }
    | _, _ => φ

end Monitor

section Code

variable {F : Features} {t : Thread} {φ : Phase}

/-! ### Code that has nothing to do with the configuration -/

/-- A call that has nothing to do with the configuration. -/
def Idle : Call → Prop
  | .registry _ | .chMsgSend .. | .chMsgSent _ | .chMsgWait _ | .chMsgGet | .chMsgRelease => False
  | .setInterval _ | .streamRead | .scheduleList _ | .setAppInterval .. => False
  | .eepromUnlock | .eepromProgram _ | .eepromLock => False
  | _ => True

theorem idle_keeps : Keeps (monitor F t) φ Idle where
  hangs := trivial
  calls c hc := by
    cases t <;> cases c <;> first | exact hc.elim | exact ⟨⟨trivial, trivial⟩, fun _ _ => rfl⟩

theorem lift_waitless {α : Type} (d : Device) {p : Fw α} (hp : p.All Waitless) :
    (lift d p).wp (monitor F t) φ fun _ φ' => φ' = φ :=
  idle_keeps.follows ((lift_direct d hp).mono fun c h => by cases c <;> first | exact h.elim | trivial)

theorem lift_ordinary {α : Type} (d : Device) {p : Fw α} (hp : p.All Ordinary) :
    (lift d p).wp (monitor F t) φ fun _ φ' => φ' = φ :=
  lift_waitless d (hp.mono fun _ => Ordinary.waitless)

/-! ### The sensor threads -/

section Sensors

variable {x : Sensor}

theorem ordinary_follows {α : Type} {p : Fw α} (hp : p.All Ordinary) :
    p.wp (fwMonitor F x) φ fun _ φ' => φ' = φ := by
  refine hp.wp (fun c hc => ?_) trivial
  cases c <;> first | exact hc.elim | exact ⟨trivial, fun _ _ => rfl⟩

theorem awaitInterval_follows (timeout : UInt32) (htalk : φ.talk = .none)
    (htimeout : timeout = waitTimeout φ.interval) :
    (awaitInterval timeout).wp (monitor F (.sensor x)) φ fun msg φ' =>
      φ' = { φ with interval := nextInterval φ.interval msg } := by
  obtain ⟨line, todo, talk, interval, hand⟩ := φ
  cases htalk
  refine Prog.wp_step ⟨⟨⟨x, rfl⟩, rfl⟩, htimeout⟩ fun r _ => ?_
  cases r with
  | false => rfl
  | true =>
    refine Prog.wp_step ⟨⟨⟨x, rfl⟩, rfl⟩, trivial⟩ fun msg _ => ?_
    refine Prog.wp_step ⟨⟨⟨x, rfl⟩, msg, rfl, rfl⟩, trivial⟩ fun _ _ => ?_
    exact Prog.wp_step ⟨⟨⟨x, rfl⟩, msg, rfl⟩, trivial⟩ fun _ _ => rfl

theorem lift_follows {α : Type} {p : Fw α} {Q : α → Phase → Prop}
    (h : p.wp (fwMonitor F x) φ Q) : (lift (.sensor x) p).wp (monitor F (.sensor x)) φ Q := by
  have hexpand : (Bus.expand p).wp (fwMonitor F x) φ Q := by
    refine Prog.wp_inline (fun φ c hc => ?_) p φ h
    cases c with
    | busOp op =>
      have hop : (Bus.performOp op).wp (fwMonitor F x) φ fun _ φ' => φ' = φ := by
        refine (Bus.performOp_all op).wp (fun c hc => ?_) trivial
        cases c <;> first | exact hc.elim | exact ⟨trivial, fun _ _ => rfl⟩
      apply Prog.wp_bind_of _ _ _ hop
      rintro r _ rfl
      exact Prog.wp_step trivial fun _ _ => ⟨trivial, rfl⟩
    | _ => exact ⟨hc, fun _ _ => ⟨trivial, rfl⟩⟩
  refine Prog.wp_inline_of ?_ (fun φ c hc => ?_) _ φ hexpand
  · exact fun _ hh => hh
  cases c with
  | chMsgWaitTimeout timeout =>
    refine Prog.wp_mono _ _ ?_ (awaitInterval_follows timeout hc.1 hc.2)
    rintro r _ rfl
    exact ⟨trivial, rfl⟩
  | registerSchedule id =>
    exact Prog.wp_step ⟨trivial, rfl, hc⟩ fun _ _ => ⟨trivial, rfl⟩
  | registerHw id => exact Prog.wp_step ⟨trivial, trivial⟩ fun _ _ => ⟨trivial, rfl⟩
  | _ => exact ⟨⟨trivial, trivial⟩, fun _ _ => ⟨trivial, rfl⟩⟩

/-- The interval a block of a sensor thread continues with. -/
def intervalOf : Label → Option UInt16
  | .bmp280 (.startUp _ interval) => some interval
  | .bmp280 (.loop _ _ interval) => some interval
  | .veml7700 (.start _ interval) => some interval
  | .veml7700 (.loop _ _ interval) => some interval
  | .ml8511 (.start _ interval) => some interval
  | .ml8511 (.loop _ interval) => some interval
  | .power (.start interval) => some interval
  | .power (.loop v) => some v.interval
  | _ => none

/-- Between the blocks of a sensor thread that was started. -/
structure Runs (l : Label) (φ : Phase) : Prop where
  talk : φ.talk = .none
  interval : intervalOf l = some φ.interval

theorem bmp280_follows (fuel : Nat) (line : Option Line) (conv : Bmp280.Conversion)
    (l : Bmp280.Label) (hs : F.starts (.sensor x) = true) (h : Runs (.bmp280 l) φ) :
    (Bmp280.code fuel line conv l).wp (fwMonitor F x) φ fun l => Runs (.bmp280 l) := by
  obtain ⟨htalk, hinterval⟩ := h
  cases l with
  | startUp dev interval =>
    cases hinterval
    refine Prog.wp_step hs fun _ _ => ?_
    refine Prog.wp_step trivial fun _ _ => ?_
    apply Prog.wp_bind_of _ _ _ (ordinary_follows (deviceStart_ordinary dev fuel line))
    rintro dev _ rfl
    apply Prog.wp_bind_of _ _ _ (ordinary_follows (bmp280Init_ordinary dev fuel))
    rintro ⟨ok, dev⟩ _ rfl
    iterate 2 refine Prog.wp_step trivial fun _ _ => ?_
    apply Prog.wp_bind_of _ _ _ (ordinary_follows (deviceStop_ordinary line))
    rintro _ _ rfl
    exact Prog.wp_step trivial fun _ _ => ⟨htalk, rfl⟩
  | loop dev status interval =>
    cases hinterval
    apply Prog.wp_bind_of _ _ _ (ordinary_follows (deviceStart_ordinary dev fuel line))
    rintro dev _ rfl
    apply Prog.wp_bind_of _ _ _ (ordinary_follows (bmp280TryReconfigure_ordinary dev fuel status))
    rintro dev _ rfl
    apply Prog.wp_bind_of _ _ _ (ordinary_follows (readFloat_ordinary dev fuel))
    rintro reading _ rfl
    apply Prog.wp_bind_of _ _ _ (ordinary_follows (bmp280Report_ordinary conv reading))
    rintro status _ rfl
    apply Prog.wp_bind_of _ _ _ (ordinary_follows (deviceStop_ordinary line))
    rintro _ _ rfl
    exact Prog.wp_step ⟨htalk, rfl⟩ fun _ _ => ⟨htalk, rfl⟩

theorem veml7700_follows (fl : Veml7700.Arithmetic UInt32) (l : Veml7700.Label UInt32)
    (hs : F.starts (.sensor x) = true) (h : Runs (.veml7700 l) φ) :
    (Veml7700.code fl l).wp (fwMonitor F x) φ fun l => Runs (.veml7700 l) := by
  obtain ⟨htalk, hinterval⟩ := h
  cases l with
  | start d interval =>
    cases hinterval
    refine Prog.wp_step hs fun _ _ => ?_
    refine Prog.wp_step trivial fun _ _ => ?_
    apply Prog.wp_bind_of _ _ _ (ordinary_follows (veml7700Init_ordinary d))
    rintro ok _ rfl
    iterate 2 refine Prog.wp_step trivial fun _ _ => ?_
    exact Prog.wp_step trivial fun _ _ => ⟨htalk, rfl⟩
  | loop d status interval =>
    cases hinterval
    apply Prog.wp_bind_of _ _ _ (ordinary_follows (veml7700TryReconfigure_ordinary d status))
    rintro _ _ rfl
    apply Prog.wp_bind_of _ _ _ (ordinary_follows (getALSLux_ordinary fl d))
    rintro ⟨ok, d⟩ _ rfl
    apply Prog.wp_bind_of _ _ _ (ordinary_follows (veml7700Report_ordinary fl ok d.lux))
    rintro status _ rfl
    exact Prog.wp_step ⟨htalk, rfl⟩ fun _ _ => ⟨htalk, rfl⟩

theorem adcSample_idle (g : AdcGroup) : (adcSample g).All Idle := by
  iterate 6 refine Prog.all_step trivial fun _ => ?_
  trivial

theorem getUV_idle (uv : UInt16 → Option UInt32) (d : Ml8511.Driver) :
    (Ml8511.getUV uv d).All Idle := by
  have hline : ∀ c, Ml8511.LineCall c → Idle c := fun c h => by
    cases c <;> first | exact h.elim | trivial
  apply Prog.all_bind ((Ml8511.enable_all d).mono hline)
  intro d
  apply Prog.all_bind (adcSample_idle .device1)
  rintro ⟨msg, sample⟩
  exact Prog.all_bind ((Ml8511.disable_all d).mono hline) fun _ => trivial

theorem ml8511_follows (uv : UInt16 → Option UInt32) (l : Ml8511.Label)
    (hs : F.starts (.sensor .ml8511) = true) (h : Runs (.ml8511 l) φ) :
    (Ml8511.code uv l).wp (monitor F (.sensor .ml8511)) φ fun l => Runs (.ml8511 l) := by
  obtain ⟨htalk, hinterval⟩ := h
  cases l with
  | start d interval =>
    cases hinterval
    have hregister : (do
        MeteoL053.ask (.registerSchedule Ml8511.hwId)
        MeteoL053.ask (.chThdSleepMilliseconds 1000)
        MeteoL053.ask (.setHwStatus .unknown)
        MeteoL053.ask (.registerHw Ml8511.hwId) : Fw Unit).wp (fwMonitor F .ml8511) φ
          fun _ φ' => φ' = φ := by
      refine Prog.wp_step hs fun _ _ => ?_
      iterate 2 refine Prog.wp_step trivial fun _ _ => ?_
      exact ⟨trivial, fun _ _ => rfl⟩
    apply Prog.wp_bind_of _ _ _ (lift_follows hregister)
    rintro _ _ rfl
    exact ⟨htalk, rfl⟩
  | loop d interval =>
    cases hinterval
    apply Prog.wp_bind_of _ _ _ (idle_keeps.follows (getUV_idle uv d))
    rintro ⟨v, d⟩ _ rfl
    apply Prog.wp_bind_of _ _ _ (lift_ordinary Ml8511.device (ml8511Report_ordinary v))
    rintro _ _ rfl
    apply Prog.wp_bind_of _ _ _ (awaitInterval_follows _ htalk rfl)
    rintro msg _ rfl
    exact ⟨htalk, rfl⟩

theorem powerStart_follows (fuel : Nat) (interval : UInt16)
    (hs : F.starts (.sensor .power) = true) (h : Runs (.power (.start interval)) φ) :
    (Power.start fuel interval).wp (fwMonitor F .power) φ fun l => Runs (.power l) := by
  obtain ⟨htalk, hinterval⟩ := h
  cases hinterval
  refine Prog.wp_step hs fun _ _ => ?_
  refine Prog.wp_step trivial fun _ _ => ?_
  apply Prog.wp_bind_of _ _ _ (ordinary_follows (adsInit_ordinary fuel _))
  rintro ⟨ok, dev⟩ _ rfl
  iterate 2 refine Prog.wp_step trivial fun _ _ => ?_
  exact ⟨htalk, rfl⟩

theorem powerReport_follows (conv : Power.Conversion) (ok : Bool) (v : Power.Vars) :
    (Power.report conv ok v).wp (monitor F t) φ fun _ φ' => φ' = φ := by
  cases ok with
  | false => exact idle_keeps.step trivial fun _ => rfl
  | true =>
    have hmeasure : (Power.measure conv v).All Idle :=
      (Power.measure_all conv v).mono fun c h => by cases c <;> first | exact h.elim | trivial
    apply Prog.wp_bind_of _ _ _ (idle_keeps.follows hmeasure)
    rintro streamBuff _ rfl
    apply Prog.wp_bind_of _ _ _ (lift_ordinary Power.device (sendReading_ordinary _ streamBuff))
    rintro _ _ rfl
    rfl

theorem tryReconfigure_interval (fuel : Nat) (v : Power.Vars) :
    (Power.tryReconfigure fuel v).wp (fwMonitor F x) φ fun v' φ' =>
      φ' = φ ∧ v'.interval = v.interval := by
  unfold Power.tryReconfigure
  rw [Prog.wp_ite]
  split
  · apply Prog.wp_bind_of _ _ _ (ordinary_follows (adsInit_ordinary fuel v.dev))
    rintro ⟨ok, dev⟩ _ rfl
    exact ⟨rfl, rfl⟩
  · exact ⟨rfl, rfl⟩

theorem readVoltages_interval (fuel : Nat) (v : Power.Vars) :
    (Power.readVoltages fuel v).wp (fwMonitor F x) φ fun r φ' =>
      φ' = φ ∧ r.2.interval = v.interval := by
  apply Prog.wp_bind_of _ _ _ (ordinary_follows (readADCPriv_ordinary fuel _ _))
  rintro ⟨ok, batt, dev⟩ _ rfl
  cases ok with
  | false => exact ⟨rfl, rfl⟩
  | true =>
    apply Prog.wp_bind_of _ _ _ (ordinary_follows (readADCPriv_ordinary fuel _ _))
    rintro ⟨ok, solar, dev⟩ _ rfl
    exact ⟨rfl, rfl⟩

theorem power_follows (fuel : Nat) (conv : Power.Conversion) (l : Power.Label)
    (hs : F.starts (.sensor .power) = true) (h : Runs (.power l) φ) :
    (Power.code fuel conv l).wp (monitor F (.sensor .power)) φ fun l => Runs (.power l) := by
  cases l with
  | start interval => exact lift_follows (powerStart_follows fuel interval hs h)
  | loop v =>
    obtain ⟨htalk, hinterval⟩ := h
    have hv : v.interval = φ.interval := Option.some.inj hinterval
    apply Prog.wp_bind_of _ _ _ (lift_follows (tryReconfigure_interval fuel v))
    rintro v' _ ⟨rfl, hv'⟩
    apply Prog.wp_bind_of _ _ _ (lift_waitless Power.device
      (Hc12.tunrOffRadio_all.mono waitless_of_radioCall))
    rintro off _ rfl
    cases off with
    | false => exact ⟨htalk, congrArg some (hv'.trans hv)⟩
    | true =>
      apply Prog.wp_bind_of _ _ _ (lift_waitless Power.device
        (Hc12.tunrOnRadio_all.mono waitless_of_radioCall))
      rintro _ _ rfl
      apply Prog.wp_bind_of _ _ _ (lift_follows (readVoltages_interval fuel v'))
      rintro ⟨ok, v''⟩ _ ⟨rfl, hv''⟩
      have hinterval' : v''.interval = _ := hv''.trans (hv'.trans hv)
      apply Prog.wp_bind_of _ _ _ (powerReport_follows conv ok v'')
      rintro status _ rfl
      apply Prog.wp_bind_of _ _ _ (awaitInterval_follows _ htalk (congrArg waitTimeout hinterval'))
      rintro msg _ rfl
      exact ⟨htalk, congrArg (fun i => some (nextInterval i msg)) hinterval'⟩

end Sensors

/-! ### The shell -/

section Shell

variable (dev : UInt8)

theorem autoTune_follows : (Tuning.autoTune dev).wp (monitor F t) φ fun _ φ' => φ' = φ :=
  idle_keeps.follows
    ((Tuning.autoTune_all dev).mono fun c h => by cases c <;> first | exact h.elim | trivial)

/-- With nothing left to do the table may be read. -/
theorem scheduleLines_follows (is : List (Fin scheduleListSize)) :
    (Shell.scheduleLines is).wp (monitor F .shell) {} fun _ φ => φ = {} := by
  induction is with
  | nil => rfl
  | cons i is ih =>
    refine Prog.wp_step ⟨trivial, trivial⟩ fun entry _ => ?_
    cases entry with
    | none => exact ih
    | some s => exact idle_keeps.step trivial fun _ => idle_keeps.step trivial fun _ => ih

/-- A command that is only to show the table is done with its first line. -/
theorem table_follows (is : List (Fin scheduleListSize)) (h : is ≠ []) :
    (Shell.scheduleLines is).wp (monitor F .shell) { todo := .table } fun _ φ => φ = {} := by
  cases is with
  | nil => exact absurd rfl h
  | cons i is =>
    have hrest := scheduleLines_follows (F := F) is
    refine Prog.wp_step ⟨trivial, trivial⟩ fun entry _ => ?_
    cases entry with
    | none => exact hrest
    | some s => exact idle_keeps.step trivial fun _ => idle_keeps.step trivial fun _ => hrest

/-- **The assignment of `cmd_sch`**, from the first look at the list on. -/
theorem setEntry_follows (id : Fin scheduleListSize) (n : UInt8) :
    (Shell.setEntry id n).wp (monitor F .shell) { todo := .lookUp id n } fun _ φ => φ = {} := by
  refine Prog.wp_step ⟨trivial, rfl⟩ fun entry _ => ?_
  cases entry with
  | none => rfl
  | some x =>
    by_cases hn : n > 0
    · have hnext : (monitor F .shell).next { todo := .lookUp id n } (.scheduleList id) (some x) =
          { todo := .assign x id n } := by
        simp only [monitor, Phase.next, shellNext, Todo.next, Talk.next, if_pos hn]
      rw [hnext]
      simp only [Option.isSome_some, Bool.true_and, decide_eq_true_eq, if_pos hn]
      refine Prog.wp_step ⟨trivial, rfl⟩ fun entry hentry => ?_
      obtain rfl : entry = some x := hentry rfl x id n rfl
      refine Prog.wp_step ⟨⟨rfl, rfl⟩, id, n, rfl, rfl⟩ fun _ _ => ?_
      refine Prog.wp_step ⟨⟨rfl, _, rfl⟩, id, n, rfl⟩ fun _ _ => ?_
      exact ⟨⟨trivial, n, rfl, rfl⟩, fun _ _ => rfl⟩
    · have hnext : (monitor F .shell).next { todo := .lookUp id n } (.scheduleList id) (some x) =
          {} := by
        simp only [monitor, Phase.next, shellNext, Todo.next, Talk.next, if_neg hn]
      rw [hnext]
      simp only [Option.isSome_some, Bool.true_and, decide_eq_true_eq, if_neg hn]
      rfl

theorem setSchedule_eq (id n : UInt8) :
    Shell.setSchedule id n =
      match indexOf id with
      | some i => Shell.setEntry i n
      | none => pure () := by
  unfold Shell.setSchedule indexOf
  split
  · split <;> rfl
  · rfl

theorem cmdSch_follows (argv : List String) :
    (Shell.cmdSch argv).wp (monitor F .shell) { todo := .of (some (.schedule argv)) }
      fun _ φ => φ = {} := by
  have htable := table_follows (F := F) (List.finRange scheduleListSize) (by decide)
  match argv with
  | [id, interval] =>
    rw [Shell.cmdSch, setSchedule_eq, Todo.of]
    cases indexOf (UInt8.ofInt (atoi id)) with
    | none => exact htable
    | some i =>
      apply Prog.wp_bind_of _ _ _ (setEntry_follows i _)
      rintro _ _ rfl
      exact scheduleLines_follows (List.finRange scheduleListSize)
  | [] => exact htable
  | [_] => exact idle_keeps.step trivial fun _ => htable
  | _ :: _ :: _ :: _ => exact idle_keeps.step trivial fun _ => htable

/-- Between the blocks of the shell. -/
def AtLabel : Shell.Label → Phase → Prop
  | .key line, φ => φ = { line }
  | _, φ => φ = {}

theorem radio_follows (p : Fw Block) : (Shell.radio p).wp (monitor F .shell) {} AtLabel := by
  have hinline : (p.inline Shell.codeOf).wp (monitor F .shell) {} fun _ φ => φ = {} := by
    refine (Prog.all_of_forall (P := fun _ => True) (fun _ => trivial) p).wp_inline
      (fun c _ => ?_) trivial
    have hask : (ask (.fw c)).wp (monitor F .shell) {} fun _ φ => φ = {} :=
      idle_keeps.follows ⟨trivial, fun _ => trivial⟩
    cases c with
    | leave f r =>
      cases f <;> cases r <;> first
        | exact hask
        | exact idle_keeps.step trivial fun _ => idle_keeps.follows ⟨trivial, fun _ => trivial⟩
    | _ => exact hask
  apply Prog.wp_bind_of _ _ _ hinline
  rintro b _ rfl
  cases b <;> rfl

/-- A command that ends at the prompt. -/
theorem prompt_follows {p : Code Unit} (h : p.wp (monitor F .shell) φ fun _ φ => φ = {}) :
    (do p; return Shell.Label.prompt : Code Shell.Label).wp (monitor F .shell) φ AtLabel := by
  apply Prog.wp_bind_of _ _ _ h
  rintro _ _ rfl
  rfl

theorem showing_follows {p : Code Unit} (hp : p.All Showing) :
    p.wp (monitor F t) φ fun _ φ' => φ' = φ := by
  refine idle_keeps.follows (hp.mono fun c hc => ?_)
  cases c <;> first | exact hc.elim | trivial

/-- **The write of `cmd_save`**, from byte `k` on. -/
theorem programBytes_follows (k : Nat) (hk : k ≤ configSize) :
    (Shell.programBytes ((List.finRange configSize).drop k)).wp (monitor F .shell)
      { todo := .save (k + 1) } fun _ φ => φ = { todo := .save (configSize + 1) } := by
  induction hn : configSize - k generalizing k with
  | zero =>
    obtain rfl : k = configSize := by omega
    rfl
  | succ n ih =>
    have hlt : k < configSize := by omega
    have hdrop : (List.finRange configSize).drop k =
        ⟨k, hlt⟩ :: (List.finRange configSize).drop (k + 1) := by
      rw [List.drop_eq_getElem_cons (by simpa using hlt), List.getElem_finRange]
      rfl
    rw [hdrop]
    exact Prog.wp_step ⟨trivial, rfl⟩ fun _ _ => ih (k + 1) hlt (by omega)

theorem cmdSave_follows :
    Shell.cmdSave.wp (monitor F .shell) { todo := .save 0 } fun _ φ => φ = {} := by
  refine Prog.wp_step ⟨trivial, rfl⟩ fun _ _ => ?_
  apply Prog.wp_bind_of _ _ _ (programBytes_follows 0 (Nat.zero_le _))
  rintro _ _ rfl
  refine Prog.wp_step ⟨trivial, rfl⟩ fun _ _ => ?_
  exact idle_keeps.follows ⟨trivial, fun _ => trivial⟩

/-- A command does what it is to do for the configuration. -/
theorem command_follows (argv : List (List UInt8)) (c : Shell.Command) :
    (Shell.command dev argv c).wp (monitor F .shell) { todo := .of (commandEvent argv c) }
      AtLabel := by
  cases c with
  | tune =>
    apply Prog.wp_bind_of _ _ _ (autoTune_follows dev)
    rintro _ _ rfl
    exact idle_keeps.step trivial fun _ => rfl
  | sleep =>
    have hsleep : (Shell.cmdSleep (argv.map Shell.text)).All Idle :=
      (Shell.cmdSleep_all _).mono fun c h => by cases c <;> first | exact h.elim | trivial
    exact prompt_follows (idle_keeps.follows hsleep)
  | hc12set => exact radio_follows (Hc12.reconfigure Shell.hc12cfg)
  | values => exact prompt_follows (showing_follows (Shell.valueLines_showing _))
  | send => exact prompt_follows (showing_follows (Shell.cmdSend_showing argv))
  | hw => exact prompt_follows (showing_follows (Shell.hwLines_showing _))
  | schedule => exact prompt_follows (cmdSch_follows _)
  | save => exact prompt_follows cmdSave_follows
  | mem => exact prompt_follows (showing_follows (Shell.cmdMem_showing _))

theorem dispatch_follows (cmd : List UInt8) (argv : List (List UInt8)) :
    (Shell.dispatch F dev cmd argv).wp (monitor F .shell)
      { todo := .of (dispatchEvent F cmd argv) } AtLabel := by
  unfold Shell.dispatch dispatchEvent
  split
  · rw [Prog.wp_ite]
    split
    · exact idle_keeps.step trivial fun _ => rfl
    · refine idle_keeps.step trivial fun _ => ?_
      apply Prog.wp_bind_of _ _ _ (showing_follows (Shell.listCommands_showing _))
      rintro _ _ rfl
      apply Prog.wp_bind_of _ _ _ (showing_follows (Shell.listCommands_showing _))
      rintro _ _ rfl
      exact idle_keeps.step trivial fun _ => rfl
  · cases Shell.cmdexec (Shell.shellCommands F) (Shell.text cmd) with
    | some c => exact command_follows dev argv c
    | none => exact idle_keeps.step trivial fun _ => idle_keeps.step trivial fun _ => rfl

theorem execute_follows (line : List UInt8) :
    (Shell.execute F dev line).wp (monitor F .shell) { todo := .of (eventOf F line) } AtLabel := by
  unfold Shell.execute eventOf Shell.splitLine
  obtain ⟨cmd, saveptr⟩ := Shell.parseArguments (some line)
  cases cmd with
  | none =>
    dsimp only
    cases Shell.collectArguments saveptr Shell.shellMaxArguments with
    | none => exact idle_keeps.step trivial fun _ => rfl
    | some argv => rfl
  | some cmd =>
    dsimp only
    cases Shell.collectArguments saveptr Shell.shellMaxArguments with
    | none => exact idle_keeps.step trivial fun _ => rfl
    | some argv => exact dispatch_follows dev cmd argv

theorem key_follows (line : List UInt8) :
    (Shell.key F dev line).wp (monitor F .shell) { line } AtLabel := by
  refine Prog.wp_step ⟨trivial, rfl⟩ fun c _ => ?_
  have hnext : c ≠ 0x0D →
      (monitor F .shell).next { line } .streamRead c = { line := edit line c } := by
    intro hc
    simp only [monitor, Phase.next, shellNext, Talk.next, if_neg hc]
  simp only [Prog.wp_ite]
  split
  · next hdel =>
    have hc : c ≠ 0x0D := by
      rintro rfl
      exact absurd hdel (by decide)
    have hedit : edit line c = line.dropLast := if_pos hdel
    rw [hnext hc, hedit]
    split
    · iterate 3 refine idle_keeps.step trivial fun _ => ?_
      rfl
    · next hempty =>
      rw [not_ne_iff.mp hempty]
      rfl
  next hdel =>
  split
  · next hc =>
    subst hc
    exact idle_keeps.step trivial fun _ => execute_follows dev line
  next hc =>
  rw [hnext hc]
  split
  · next hlow =>
    have hedit : edit line c = line := by rw [edit, if_neg hdel, if_pos hlow]
    rw [hedit]
    rfl
  next hlow =>
  split
  · next hroom =>
    have hedit : edit line c = line ++ [c] := by
      rw [edit, if_neg hdel, if_neg hlow, if_pos hroom]
    rw [hedit]
    exact idle_keeps.step trivial fun _ => rfl
  · next hfull =>
    have hedit : edit line c = line := by
      rw [edit, if_neg hdel, if_neg hlow, if_neg hfull]
    rw [hedit]
    rfl

theorem shell_follows (l : Shell.Label) (h : AtLabel l φ) :
    (Shell.code F dev l).wp (monitor F .shell) φ AtLabel := by
  have hprompt : Shell.prompt.wp (monitor F .shell) {} AtLabel := idle_keeps.step trivial fun _ => rfl
  match l, h with
  | .start, rfl => exact idle_keeps.step trivial fun _ => idle_keeps.step trivial fun _ => rfl
  | .prompt, rfl => exact hprompt
  | .key line, rfl => exact key_follows dev line
  | .radio (.drain cfg), rfl => exact radio_follows _
  | .radio (.reply cfg cmd timeout index), rfl => exact radio_follows _
  | .radio .start, rfl => exact hprompt
  | .radio .ping, rfl => exact hprompt
  | .radio .transmit, rfl => exact hprompt
  | .radio .produce, rfl => exact hprompt
  | .radio .power, rfl => exact hprompt
  | .radio .prompt, rfl => exact hprompt
  | .radio .busOps, rfl => exact hprompt

end Shell

end Code

end MeteoL053.Station.Settings
