import MeteoL053.Bus.Attached
import MeteoL053.Stream.System

/-!
The frames that a thread with a device on the bus builds.
-/

namespace MeteoL053.Bus

open CallTree

/-- A pool buffer is filled. -/
def stored : Call → Option (Obj × PoolStreamObject)
  | .store o v => some (o, v)
  | _ => none

theorem stored_busCall (c : Call) (hc : BusCall c) : stored c = none := by
  cases c <;> first | rfl | exact hc.elim

section SendReading

variable {D : Type} (x : Wiring D) (s : Site D)

/-- A reading is stored in a buffer if there is a free one. -/
theorem sendReading_ends (cmd : UInt8) (args : List UInt32) (hargs : args.length ≤ 4) :
    (expand (Stream.sendReading cmd args)).Ends x.answer s fun _ s' =>
      match s.world.reply x.env .chPoolAlloc with
      | some o => ∃ obj v, Msp.createMspFrame obj cmd args = some v ∧
          s'.world.seen stored = (o, v) :: s.world.seen stored
      | none => s'.world.seen stored = s.world.seen stored := by
  have halloc : (expand (Stream.sendReading cmd args)).run x.answer s =
      (expand (match s.world.reply x.env .chPoolAlloc with
        | some o => do
          let obj ← ask (.load o)
          let obj ← orHang (Msp.createMspFrame obj cmd args)
          ask (.store o obj)
          let _ ← ask (.chMBPost o)
        | none => return ())).run x.answer (x.pass s .chPoolAlloc) := rfl
  unfold Prog.Ends
  rw [halloc]
  cases s.world.reply x.env .chPoolAlloc with
  | none => exact ⟨(), _, rfl, rfl⟩
  | some o =>
    obtain ⟨v, hv, -⟩ := Msp.createMspFrame_eq
      ((x.pass s .chPoolAlloc).world.reply x.env (.load o)) cmd args hargs
    have hload : (expand (do
          let obj ← ask (.load o)
          let obj ← orHang (Msp.createMspFrame obj cmd args)
          ask (.store o obj)
          let _ ← ask (.chMBPost o))).run x.answer (x.pass s .chPoolAlloc) =
        (expand (orHang (Msp.createMspFrame ((x.pass s .chPoolAlloc).world.reply x.env (.load o))
          cmd args) >>= fun obj => do
            ask (.store o obj)
            let _ ← ask (.chMBPost o))).run x.answer (x.pass (x.pass s .chPoolAlloc) (.load o)) := rfl
    dsimp only
    rw [hload, hv]
    exact ⟨(), _, rfl, _, v, hv, rfl⟩

end SendReading

end MeteoL053.Bus
