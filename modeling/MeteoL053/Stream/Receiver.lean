import MeteoL053.Stream.Msp

/-!
The other end of the radio link: a length driven MSP receiver, one byte at a
time. It skips to `$M<`, reads length, command and payload, and drops a frame
whose XOR checksum is wrong. It is a specification, not code of the station.

`run_wire` reads a sequence of frames back, each followed by the two
trailer bytes of the stream thread; payload bytes that look like a header or
like a trailer make no difference, since the payload is read by its length.
-/

namespace MeteoL053.Msp

/-- What the receiver has seen since the last frame it finished or dropped. -/
inductive Receiver where
  | idle
  | dollar
  | header
  | length
  | command (len : UInt8)
  | payload (cmd : UInt8) (left : Nat) (data : List UInt8) (crc : UInt8)
  deriving DecidableEq, Repr

/-- Four payload bytes make one argument, most significant first. -/
def words : List UInt8 → List UInt32
  | a :: b :: c :: d :: rest =>
    UInt32.ofNat (a.toNat * 2 ^ 24 + b.toNat * 2 ^ 16 + c.toNat * 2 ^ 8 + d.toNat) :: words rest
  | _ => []

namespace Receiver

/-- One byte; a frame with the right checksum is handed out. -/
def step : Receiver → UInt8 → Receiver × Option (UInt8 × List UInt32)
  | idle, b => (if b = 0x24 then dollar else idle, none)
  | dollar, b => (if b = 0x4D then header else if b = 0x24 then dollar else idle, none)
  | header, b => (if b = 0x3C then length else if b = 0x24 then dollar else idle, none)
  | length, b => (command b, none)
  | command len, b => (payload b len.toNat [] (b ^^^ len), none)
  | payload cmd 0 data crc, b => (idle, if b = crc then some (cmd, words data) else none)
  | payload cmd (left + 1) data crc, b => (payload cmd left (data ++ [b]) (crc ^^^ b), none)

/-- The receiver after a list of bytes, and the frames it handed out. -/
def run : Receiver → List UInt8 → Receiver × List (UInt8 × List UInt32)
  | s, [] => (s, [])
  | s, b :: bs =>
    let (s', out) := s.step b
    let (s'', outs) := s'.run bs
    (s'', out.toList ++ outs)

theorem run_append (s : Receiver) (as bs : List UInt8) :
    s.run (as ++ bs) =
      (((s.run as).1.run bs).1, (s.run as).2 ++ ((s.run as).1.run bs).2) := by
  induction as generalizing s with
  | nil => rfl
  | cons a as ih => simp [run, ih]

/-- A payload is collected by its length, whatever its bytes are. -/
theorem run_payload (cmd : UInt8) (bs data : List UInt8) (crc : UInt8) (left : Nat) :
    (payload cmd (bs.length + left) data crc).run bs =
      (payload cmd left (data ++ bs) (xorAll crc bs), []) := by
  induction bs generalizing data crc with
  | nil => simp [run, xorAll]
  | cons b bs ih =>
    have hl : (b :: bs).length + left = bs.length + left + 1 := by simp; omega
    rw [hl]
    simp [run, step, ih, xorAll]

end Receiver

/-- Everything a fresh receiver makes of a byte stream. -/
def receive (bs : List UInt8) : List (UInt8 × List UInt32) := (Receiver.idle.run bs).2

theorem word_argBytes (a : UInt32) :
    UInt32.ofNat ((a >>> 24).toUInt8.toNat * 2 ^ 24 + (a >>> 16).toUInt8.toNat * 2 ^ 16 +
      (a >>> 8).toUInt8.toNat * 2 ^ 8 + a.toUInt8.toNat) = a := by
  have ha := a.toNat_lt
  apply UInt32.toNat_inj.mp
  simp only [UInt32.toNat_ofNat', UInt32.toNat_toUInt8, UInt32.toNat_shiftRight,
    Nat.shiftRight_eq_div_pow]
  simp only [show UInt32.toNat 24 % 32 = 24 from rfl, show UInt32.toNat 16 % 32 = 16 from rfl,
    show UInt32.toNat 8 % 32 = 8 from rfl]
  omega

theorem words_payload (argv : List UInt32) : words (payload argv) = argv := by
  induction argv with
  | nil => rfl
  | cons a argv ih =>
    simp only [payload_cons, argBytes, List.cons_append, List.nil_append, words, ih]
    rw [word_argBytes]

/-- A receiver between frames reads one frame and is between frames again. -/
theorem run_frame (cmd : UInt8) (argv : List UInt32) (h : argv.length < 64) :
    Receiver.idle.run (frame cmd argv) = (.idle, [(cmd, argv)]) := by
  have hn : (UInt8.ofNat (argv.length * 4)).toNat = (payload argv).length + 0 := by
    simp only [payload_length, UInt8.toNat_ofNat']
    omega
  have hp := Receiver.run_payload cmd (payload argv) []
    (cmd ^^^ UInt8.ofNat (argv.length * 4)) 0
  simp only [frame, List.cons_append, List.nil_append, Receiver.run,
    Receiver.step, ↓reduceIte, Receiver.run_append, hn, hp]
  simp [words_payload]

/-- The two bytes the stream thread writes behind a message. -/
def trailer : List UInt8 := [0x0A, 0x0D]

theorem run_trailer : Receiver.idle.run trailer = (.idle, []) := by
  simp [trailer, Receiver.run, Receiver.step]

/-- **Decoding.** A sequence of frames with their trailers is read back in
order, with nothing lost, added or changed. -/
theorem run_wire (packets : List (UInt8 × List UInt32)) (h : ∀ q ∈ packets, q.2.length < 64) :
    Receiver.idle.run (packets.flatMap fun q => frame q.1 q.2 ++ trailer) = (.idle, packets) := by
  induction packets with
  | nil => rfl
  | cons q packets ih =>
    have hq := run_frame q.1 q.2 (h q List.mem_cons_self)
    have hr := ih fun q' hq' => h q' (List.mem_cons_of_mem q hq')
    simp [Receiver.run_append, hq, run_trailer, hr]

end MeteoL053.Msp
