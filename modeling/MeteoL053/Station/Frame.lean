import MeteoL053.Station.Threads

/-!
What most of the station has nothing to do with: the ADC. Only the two analog
sensors use it.
-/

namespace MeteoL053.Station

open CallTree Config Registry

/-- Not a call of the ADC or of the line of the UV sensor. -/
def Digital : Call → Prop
  | .adcAcquireBus | .adcReleaseBus | .adcStart | .adcStop | .adcStartConversion _ | .adcWait => False
  | .setMl8511Line _ => False
  | _ => True

theorem Local.digital {c : Call} (h : Local c) : Digital c := by
  cases c <;> first | exact h.elim | trivial

/-! ## Lifted code -/

theorem awaitInterval_digital (timeout : UInt32) : (awaitInterval timeout).All Digital := by
  refine Prog.all_step trivial fun r => ?_
  cases r with
  | false => trivial
  | true =>
    iterate 2 refine Prog.all_step trivial fun _ => ?_
    exact Prog.all_step trivial fun _ => trivial

/-- Whatever a thread that knows nothing of the ADC asks for. -/
theorem lift_digital {α : Type} (d : Device) (p : Fw α) : (lift d p).All Digital := by
  have hall : (Bus.expand p).All fun _ => True := Prog.all_of_forall (fun _ => trivial) _
  refine hall.inline fun c _ => ?_
  cases c with
  | chMsgWaitTimeout timeout => exact awaitInterval_digital timeout
  | _ => exact ⟨trivial, fun _ => trivial⟩

/-! ## The threads without the ADC -/

theorem hc12_digital (b : Block) : (hc12 b).All Digital := by
  cases b with
  | start =>
    refine Prog.all_step trivial fun _ => Prog.all_step trivial fun _ => ?_
    exact Prog.all_bind (lift_digital .hc12 _) fun _ => trivial
  | _ => exact lift_digital .hc12 _

theorem powerReport_digital (conv : Power.Conversion) (ok : Bool) (v : Power.Vars) :
    (Power.report conv ok v).All Digital := by
  cases ok with
  | false => exact Prog.all_step trivial fun _ => trivial
  | true =>
    have hmeasure : (Power.measure conv v).All Digital :=
      (Power.measure_all conv v).mono fun c h => by cases c <;> first | exact h.elim | trivial
    apply Prog.all_bind hmeasure
    intro streamBuff
    exact Prog.all_bind (lift_digital Power.device _) fun _ => trivial

theorem power_digital (fuel : Nat) (conv : Power.Conversion) (l : Power.Label) :
    (Power.code fuel conv l).All Digital := by
  cases l with
  | start interval => exact lift_digital _ _
  | loop v =>
    apply Prog.all_bind (lift_digital _ _)
    intro v
    apply Prog.all_bind (lift_digital _ _)
    intro off
    cases off with
    | false => trivial
    | true =>
      apply Prog.all_bind (lift_digital _ _)
      intro _
      apply Prog.all_bind (lift_digital _ _)
      rintro ⟨ok, v⟩
      apply Prog.all_bind (powerReport_digital conv ok v)
      intro status
      exact Prog.all_bind (awaitInterval_digital _) fun _ => trivial

theorem sensor_digital (x : Setup) (s : Sensor) (l : Label) (hml8511 : s ≠ .ml8511)
    (hrain : s ≠ .rain) : (sensorCode x s l).All Digital := by
  unfold sensorCode
  split
  · exact Prog.all_bind (lift_digital _ _) fun _ => trivial
  · exact Prog.all_bind (lift_digital _ _) fun _ => trivial
  · exact Prog.all_bind (lift_digital _ _) fun _ => trivial
  · exact absurd rfl hml8511
  · exact absurd rfl hrain
  · exact Prog.all_bind (lift_digital _ _) fun _ => trivial
  · exact Prog.all_bind (lift_digital _ _) fun _ => trivial
  · exact Prog.all_bind (lift_digital _ _) fun _ => trivial
  · exact Prog.all_bind (lift_digital _ _) fun _ => trivial
  · exact Prog.all_bind (power_digital _ _ _) fun _ => trivial
  · trivial

theorem registry_digital (m : Mail) : (liftRegistry (registerThread m)).All Digital :=
  Prog.all_step trivial fun _ => Prog.all_step trivial fun _ => trivial

/-! ## The shell -/

namespace Shell

theorem radio_digital (p : Fw Block) : (radio p).All Digital := by
  have hall : p.All fun _ => True := Prog.all_of_forall (fun _ => trivial) p
  have hinline : (p.inline codeOf).All Digital := by
    refine hall.inline fun c _ => ?_
    have hask : (ask (.fw c)).All Digital := ⟨trivial, fun _ => trivial⟩
    cases c with
    | leave f result =>
      cases f <;> cases result <;> first
        | exact hask
        | exact Prog.all_step trivial fun _ => ⟨trivial, fun _ => trivial⟩
    | _ => exact hask
  apply Prog.all_bind hinline
  intro b
  cases b <;> trivial

theorem setEntry_digital (id : Fin scheduleListSize) (intervalI : UInt8) :
    (setEntry id intervalI).All Digital := by
  refine Prog.all_step trivial fun entry => ?_
  split
  · refine Prog.all_step trivial fun entry => ?_
    cases entry with
    | none => trivial
    | some s =>
      iterate 2 refine Prog.all_step trivial fun _ => ?_
      exact ⟨trivial, fun _ => trivial⟩
  · trivial

theorem setSchedule_digital (id intervalI : UInt8) : (setSchedule id intervalI).All Digital := by
  unfold setSchedule
  split
  · split
    · exact setEntry_digital _ intervalI
    · trivial
  · trivial

theorem cmdSch_digital (argv : List String) : (cmdSch argv).All Digital := by
  have hlines : (scheduleLines (List.finRange scheduleListSize)).All Digital :=
    (scheduleLines_local _).mono fun _ => Local.digital
  match argv with
  | [_, _] => exact Prog.all_bind (setSchedule_digital _ _) fun _ => hlines
  | [] => exact hlines
  | [_] => exact Prog.all_step trivial fun _ => hlines
  | _ :: _ :: _ :: _ => exact Prog.all_step trivial fun _ => hlines

/-- A command that ends at the prompt. -/
theorem prompt_digital {p : Code Unit} (hp : p.All Digital) :
    (do p; return Label.prompt : Code Label).All Digital :=
  Prog.all_bind hp fun _ => trivial

theorem showing_digital {p : Code Unit} (hp : p.All Showing) : p.All Digital :=
  hp.mono fun _ h => h.local.digital

variable (F : Features) (dev : UInt8)

theorem command_digital (argv : List (List UInt8)) (c : Command) :
    (command dev argv c).All Digital := by
  cases c with
  | tune =>
    have htune : (Tuning.autoTune dev).All Digital :=
      (Tuning.autoTune_all dev).mono fun c h => by cases c <;> first | exact h.elim | trivial
    exact Prog.all_bind htune fun _ => Prog.all_step trivial fun _ => trivial
  | sleep =>
    have hsleep : (cmdSleep (argv.map text)).All Digital :=
      (cmdSleep_all _).mono fun c h => by cases c <;> first | exact h.elim | trivial
    exact prompt_digital hsleep
  | hc12set => exact radio_digital _
  | values => exact prompt_digital (showing_digital (valueLines_showing _))
  | send => exact prompt_digital (showing_digital (cmdSend_showing argv))
  | hw => exact prompt_digital (showing_digital (hwLines_showing _))
  | schedule => exact prompt_digital (cmdSch_digital _)
  | save => exact prompt_digital (cmdSave_local.mono fun _ => Local.digital)
  | mem => exact prompt_digital (showing_digital (cmdMem_showing _))

theorem dispatch_digital (cmd : List UInt8) (argv : List (List UInt8)) :
    (dispatch F dev cmd argv).All Digital := by
  unfold dispatch
  split
  · split
    · exact Prog.all_step trivial fun _ => trivial
    · refine Prog.all_step trivial fun _ => ?_
      have hlist := showing_digital (listCommands_showing (shellCommands F))
      refine Prog.all_bind hlist fun _ => Prog.all_bind hlist fun _ => ?_
      exact Prog.all_step trivial fun _ => trivial
  · cases cmdexec (shellCommands F) (text cmd) with
    | some c => exact command_digital dev argv c
    | none => exact Prog.all_step trivial fun _ => Prog.all_step trivial fun _ => trivial

theorem execute_digital (line : List UInt8) : (execute F dev line).All Digital := by
  unfold execute
  obtain ⟨cmd, saveptr⟩ := Shell.parseArguments (some line)
  dsimp only
  cases Shell.collectArguments saveptr Shell.shellMaxArguments with
  | none => exact Prog.all_step trivial fun _ => trivial
  | some argv =>
    cases cmd with
    | none => trivial
    | some cmd => exact dispatch_digital F dev cmd argv

theorem key_digital (line : List UInt8) : (key F dev line).All Digital := by
  refine Prog.all_step trivial fun c => ?_
  split
  · split
    · iterate 3 refine Prog.all_step trivial fun _ => ?_
      trivial
    · trivial
  split
  · exact Prog.all_step trivial fun _ => execute_digital F dev line
  split
  · trivial
  split
  · exact Prog.all_step trivial fun _ => trivial
  · trivial

theorem code_digital (l : Label) : (code F dev l).All Digital := by
  have hprompt : prompt.All Digital := Prog.all_step trivial fun _ => trivial
  cases l with
  | start => exact Prog.all_step trivial fun _ => Prog.all_step trivial fun _ => trivial
  | prompt => exact hprompt
  | key line => exact key_digital F dev line
  | radio b =>
    cases b with
    | drain cfg => exact radio_digital _
    | reply cfg cmd timeout index => exact radio_digital _
    | _ => exact hprompt

end Shell

end MeteoL053.Station
