import MeteoL053.Stream.Pools

/-!
The MSP frames of `drivers/msp.c`. `createMspFrame` follows the source store by
store; `createMspFrame_eq` gives its result as a list of bytes, for every
argument list that fits a buffer.
-/

namespace MeteoL053.Msp

def hc12HwIdOffset : UInt8 := 0

/-! ## The encoder -/

/-- The loop over `argv`: four stores and four checksum updates an argument. -/
def putArgs : PoolStreamObject → Nat → UInt8 → List UInt32 →
    Option (PoolStreamObject × Nat × UInt8)
  | obj, p, crc, [] => some (obj, p, crc)
  | obj, p, crc, a :: argv => do
    let obj ← obj.poke p (a >>> 24).toUInt8
    let crc := crc ^^^ (a >>> 24).toUInt8
    let obj ← obj.poke (p + 1) (a >>> 16).toUInt8
    let crc := crc ^^^ (a >>> 16).toUInt8
    let obj ← obj.poke (p + 2) (a >>> 8).toUInt8
    let crc := crc ^^^ (a >>> 8).toUInt8
    let obj ← obj.poke (p + 3) a.toUInt8
    let crc := crc ^^^ a.toUInt8
    putArgs obj (p + 4) crc argv

/-- `MSP__createMspFrame`, with `argc = argv.length`; `none` when a store would
leave the message. -/
def createMspFrame (obj : PoolStreamObject) (cmd : UInt8) (argv : List UInt32) :
    Option PoolStreamObject := do
  let argc := argv.length
  let obj ← obj.pokes 0 [0x24, 0x4D, 0x3C]
  let obj := obj.setSize (UInt8.ofNat (6 + argc * 4))
  let cmd := hc12HwIdOffset + cmd
  let crc := cmd ^^^ UInt8.ofNat (argc * 4)
  let obj ← obj.poke 3 (UInt8.ofNat (argc * 4))
  let obj ← obj.poke 4 cmd
  let (obj, p, crc) ← putArgs obj 5 crc argv
  obj.poke p crc

/-! ## The frame as a list of bytes -/

/-- The bytes of an argument, most significant first. -/
def argBytes (a : UInt32) : List UInt8 :=
  [(a >>> 24).toUInt8, (a >>> 16).toUInt8, (a >>> 8).toUInt8, a.toUInt8]

def payload (argv : List UInt32) : List UInt8 := argv.flatMap argBytes

def xorAll (crc : UInt8) (bs : List UInt8) : UInt8 := bs.foldl (· ^^^ ·) crc

def frame (cmd : UInt8) (argv : List UInt32) : List UInt8 :=
  [0x24, 0x4D, 0x3C, UInt8.ofNat (argv.length * 4), cmd] ++ payload argv ++
    [xorAll (cmd ^^^ UInt8.ofNat (argv.length * 4)) (payload argv)]

@[simp] theorem payload_nil : payload [] = [] := rfl

@[simp] theorem payload_cons (a : UInt32) (argv : List UInt32) :
    payload (a :: argv) = argBytes a ++ payload argv := rfl

@[simp] theorem payload_length (argv : List UInt32) : (payload argv).length = argv.length * 4 := by
  induction argv with
  | nil => rfl
  | cons a argv ih => simp [argBytes, ih]; omega

theorem frame_length (cmd : UInt8) (argv : List UInt32) :
    (frame cmd argv).length = 6 + argv.length * 4 := by
  simp [frame]; omega

theorem xorAll_append (crc : UInt8) (as bs : List UInt8) :
    xorAll crc (as ++ bs) = xorAll (xorAll crc as) bs := List.foldl_append

theorem putArgs_eq (obj : PoolStreamObject) (p : Nat) (crc : UInt8) (argv : List UInt32) :
    putArgs obj p crc argv = (obj.pokes p (payload argv)).map
      fun obj => (obj, p + argv.length * 4, xorAll crc (payload argv)) := by
  induction argv generalizing obj p crc with
  | nil => rfl
  | cons a argv ih =>
    have hp : p + 4 + argv.length * 4 = p + (argv.length + 1) * 4 := by omega
    simp only [putArgs, payload_cons, PoolStreamObject.pokes_append, ih, hp, List.length_cons,
      xorAll_append]
    simp only [argBytes, PoolStreamObject.pokes, xorAll, List.foldl_cons, List.foldl_nil,
      List.length_cons, List.length_nil, zero_add, Nat.reduceAdd, Option.bind_eq_bind,
      Option.bind_fun_some, Option.bind_assoc, Option.map_bind, Function.comp_def]

/-- The stores of `createMspFrame` are those of the whole frame in order. -/
theorem createMspFrame_pokes (obj : PoolStreamObject) (cmd : UInt8) (argv : List UInt32) :
    createMspFrame obj cmd argv = (obj.pokes 0 (frame (hc12HwIdOffset + cmd) argv)).map
      (·.setSize (UInt8.ofNat (6 + argv.length * 4))) := by
  have hf : frame (hc12HwIdOffset + cmd) argv = [0x24, 0x4D, 0x3C] ++
      ([UInt8.ofNat (argv.length * 4)] ++ ([hc12HwIdOffset + cmd] ++ (payload argv ++
        [xorAll ((hc12HwIdOffset + cmd) ^^^ UInt8.ofNat (argv.length * 4)) (payload argv)]))) := by
    simp [frame]
  rw [hf]
  simp only [PoolStreamObject.pokes_append, createMspFrame, putArgs_eq, payload_length,
    PoolStreamObject.poke_eq_pokes, PoolStreamObject.setSize_pokes, Option.map_bind]
  simp only [PoolStreamObject.setSize_pokes, UInt8.ofNat_add, UInt8.ofNat_mul, UInt8.reduceOfNat,
    List.length_cons, List.length_nil, zero_add, Nat.reduceAdd, Option.bind_eq_bind,
    Option.bind_map, Option.map_bind, Function.comp_def]

/-- Up to four arguments the frame fits: `createMspFrame` stays inside the
message, sets the size to the frame's length and leaves the bytes behind it. -/
theorem createMspFrame_eq (obj : PoolStreamObject) (cmd : UInt8) (argv : List UInt32)
    (h : argv.length ≤ 4) :
    ∃ obj', createMspFrame obj cmd argv = some obj' ∧
      obj'.size.toNat = 6 + argv.length * 4 ∧
      obj'.message = frame (hc12HwIdOffset + cmd) argv ++
        obj.message.drop (6 + argv.length * 4) := by
  obtain ⟨obj', he, -, hm⟩ := obj.pokes_inside 0 (frame (hc12HwIdOffset + cmd) argv)
    (by rw [frame_length]; simp only [streamMessageSize]; omega)
  refine ⟨obj'.setSize _, by rw [createMspFrame_pokes, he]; rfl, ?_, ?_⟩
  · simp only [PoolStreamObject.setSize_size, UInt8.toNat_ofNat']
    omega
  · simpa [frame_length] using hm

end MeteoL053.Msp
