import MeteoL053.Lib.Checksum
import MeteoL053.Stream.Receiver

/-!
How much the checksum of an MSP frame detects: the bytes from the length byte
on always sum to zero, so a single changed byte among them never goes unseen.
-/

namespace MeteoL053.Msp

open Checksum

theorem xor_cancels : Cancels fun crc b : UInt8 => crc ^^^ b where
  left h := UInt8.xor_left_inj _ |>.mp h
  right h := UInt8.xor_right_inj _ |>.mp h

/-- The check of a receiver on the bytes of a frame: all of them from the length
byte on, the checksum included, sum to zero. -/
def XorCheck (bs : List UInt8) : Prop := xorAll 0 (bs.drop 3) = 0

instance (bs : List UInt8) : Decidable (XorCheck bs) := inferInstanceAs (Decidable (_ = _))

/-- The bytes of a frame with length byte `len` pass the check if and only if
the last of them is the sum of those before. -/
theorem xorCheck_iff (len cmd c : UInt8) (data : List UInt8) :
    XorCheck ([0x24, 0x4D, 0x3C, len, cmd] ++ data ++ [c]) ↔ c = xorAll (cmd ^^^ len) data := by
  have hsum : xorAll 0 (([0x24, 0x4D, 0x3C, len, cmd] ++ data ++ [c]).drop 3) =
      xorAll (cmd ^^^ len) data ^^^ c := by
    simp [xorAll, UInt8.xor_comm len cmd]
  rw [XorCheck, hsum, UInt8.xor_eq_zero_iff, eq_comm]

/-- Length, command and payload are summed once each. -/
theorem xorCheck_frame (cmd : UInt8) (argv : List UInt32) : XorCheck (frame cmd argv) :=
  (xorCheck_iff _ _ _ _).mpr rfl

/-- A changed byte is seen by the check, unless it is one of the three of `$M<`. -/
theorem not_xorCheck_set {bs : List UInt8} (h : XorCheck bs) {i : Nat} {b : UInt8}
    (h3 : 3 ≤ i) (hi : i < bs.length) (hb : b ≠ bs[i]) : ¬ XorCheck (bs.set i b) := by
  have hlen : i - 3 < (bs.drop 3).length := by
    rw [List.length_drop]
    omega
  have hdrop : (bs.set i b).drop 3 = (bs.drop 3).set (i - 3) b := by
    rw [List.drop_set, if_neg (by omega)]
  have hb' : b ≠ (bs.drop 3)[i - 3] := by
    simpa [List.getElem_drop, Nat.add_sub_cancel' h3] using hb
  intro hset
  apply xor_cancels.foldl_set_ne hlen hb'
  rw [XorCheck, hdrop] at hset
  exact hset.trans h.symm

/-! ## The receiver -/

/-- A receiver between frames reads as many bytes as the length byte says and
hands them out exactly when they pass the check. -/
theorem run_sized (len cmd c : UInt8) (data : List UInt8) (h : data.length = len.toNat) :
    Receiver.idle.run ([0x24, 0x4D, 0x3C, len, cmd] ++ data ++ [c]) =
      (.idle, if XorCheck ([0x24, 0x4D, 0x3C, len, cmd] ++ data ++ [c]) then
        [(cmd, words data)] else []) := by
  have hp := Receiver.run_payload cmd data [] (cmd ^^^ len) 0
  simp only [xorCheck_iff]
  simp only [List.cons_append, List.nil_append, Receiver.run, Receiver.step, ↓reduceIte,
    Receiver.run_append, ← h, Nat.add_zero] at hp ⊢
  rw [hp]
  by_cases hc : c = xorAll (cmd ^^^ len) data <;> simp [hc]

/-- Bytes with the header and the length of a frame that fail the check are dropped. -/
theorem run_dropped {bs : List UInt8} {len : UInt8} (hhead : bs.take 4 = [0x24, 0x4D, 0x3C, len])
    (hlen : bs.length = 6 + len.toNat) (h : ¬ XorCheck bs) :
    Receiver.idle.run bs = (.idle, []) := by
  obtain ⟨cmd, rest, hrest⟩ : ∃ cmd rest, bs.drop 4 = cmd :: rest :=
    List.exists_cons_of_length_pos (by rw [List.length_drop]; omega)
  have hrestlen : rest.length = len.toNat + 1 := by
    have := congrArg List.length hrest
    rw [List.length_drop, List.length_cons] at this
    omega
  have hne : rest ≠ [] := List.ne_nil_of_length_pos (by omega)
  have hbs : bs = [0x24, 0x4D, 0x3C, len, cmd] ++ rest.dropLast ++ [rest.getLast hne] := by
    rw [List.append_assoc, List.dropLast_concat_getLast, ← List.take_append_drop 4 bs, hhead, hrest]
    rfl
  have hdata : rest.dropLast.length = len.toNat := by
    rw [List.length_dropLast]
    omega
  rw [hbs] at h ⊢
  rw [run_sized _ _ _ _ hdata, if_neg h]

/-! ## The encoder -/

/-- The bytes a call of the encoder leaves for the stream thread to send. -/
def encode (obj : PoolStreamObject) (cmd : UInt8) (argv : List UInt32) : Option (List UInt8) :=
  (createMspFrame obj cmd argv).bind PoolStreamObject.bytes

theorem encode_eq (obj : PoolStreamObject) (cmd : UInt8) {argv : List UInt32}
    (h : argv.length ≤ 4) : encode obj cmd argv = some (frame (hc12HwIdOffset + cmd) argv) := by
  obtain ⟨obj', hcreate, hsize, hmessage⟩ := createMspFrame_eq obj cmd argv h
  have hfits : obj'.size.toNat ≤ streamMessageSize := by
    rw [hsize]
    simp only [streamMessageSize]
    omega
  rw [encode, hcreate, Option.bind_some, PoolStreamObject.bytes, if_pos hfits, hsize, hmessage,
    List.take_left' (frame_length _ _)]

/-- Only frames that fit are encoded. -/
theorem length_le_of_encode {obj : PoolStreamObject} {cmd : UInt8} {argv : List UInt32}
    {bs : List UInt8} (h : encode obj cmd argv = some bs) : argv.length ≤ 4 := by
  obtain ⟨obj', hcreate, -⟩ := Option.bind_eq_some_iff.mp h
  rw [createMspFrame_pokes] at hcreate
  obtain ⟨obj'', hpokes, -⟩ := Option.map_eq_some_iff.mp hcreate
  have hfits := PoolStreamObject.length_le_of_pokes hpokes (by simp [frame])
  rw [frame_length] at hfits
  simp only [streamMessageSize] at hfits
  omega

theorem xorCheck_of_encode {obj : PoolStreamObject} {cmd : UInt8} {argv : List UInt32}
    {bs : List UInt8} (h : encode obj cmd argv = some bs) : XorCheck bs := by
  rw [encode_eq obj cmd (length_le_of_encode h)] at h
  cases h
  exact xorCheck_frame _ _

/-- Frames of different commands or arguments are different: a receiver reads
them back. -/
theorem frame_injective {cmd cmd' : UInt8} {argv argv' : List UInt32} (h : argv.length ≤ 4)
    (h' : argv'.length ≤ 4) (he : frame cmd argv = frame cmd' argv') :
    (cmd, argv) = (cmd', argv') := by
  have hrun := run_frame cmd argv (by omega)
  rw [he, run_frame cmd' argv' (by omega)] at hrun
  exact (List.cons.inj (Prod.mk.inj hrun).2).1.symm

theorem frame_differTwice {cmd cmd' : UInt8} {argv argv' : List UInt32}
    (hlen : argv.length = argv'.length) (hne : frame cmd argv ≠ frame cmd' argv') :
    DifferTwice (frame cmd argv) (frame cmd' argv') := by
  have hsplit : ∀ cmd argv, frame cmd argv = [0x24, 0x4D, 0x3C] ++ (frame cmd argv).drop 3 :=
    fun _ _ => rfl
  rw [hsplit cmd argv, hsplit cmd' argv']
  apply DifferTwice.append
  refine xor_cancels.differTwice ?_ ((xorCheck_frame cmd argv).trans (xorCheck_frame cmd' argv').symm) ?_
  · rw [List.length_drop, List.length_drop, frame_length, frame_length, hlen]
  · intro h
    apply hne
    rw [hsplit cmd argv, h, ← hsplit]

/-- **The checksum.** Two calls of the encoder with argument lists of the same
length and with different commands or arguments leave frames that differ in at
least two bytes. Every frame passes the check, and a frame with one byte
changed, from the length byte on, fails it and is left by no call at all. A
receiver drops it when the byte is behind the length byte; with another length it
takes the check byte from another place, and may accept what it has read. -/
theorem frame_detects_single_byte (obj obj' : PoolStreamObject) (cmd cmd' : UInt8)
    (argv argv' : List UInt32) (h : argv.length ≤ 4) (hlen : argv'.length = argv.length) :
    ∃ bs bs', encode obj cmd argv = some bs ∧ encode obj' cmd' argv' = some bs' ∧
      ((cmd, argv) ≠ (cmd', argv') → DifferTwice bs bs') ∧ XorCheck bs ∧
      ∀ i, ∀ hi : i < bs.length, ∀ b, 3 ≤ i → b ≠ bs[i] →
        ¬ XorCheck (bs.set i b) ∧ (∀ obj cmd argv, encode obj cmd argv ≠ some (bs.set i b)) ∧
        (i ≠ 3 → Receiver.idle.run (bs.set i b) = (.idle, [])) := by
  refine ⟨_, _, encode_eq obj cmd h, encode_eq obj' cmd' (hlen ▸ h), ?_, xorCheck_frame _ _, ?_⟩
  · intro hne
    refine frame_differTwice hlen.symm fun he => hne ?_
    obtain ⟨hcmd, hargv⟩ := Prod.mk.inj (frame_injective h (hlen ▸ h) he)
    rw [hargv, (UInt8.add_right_inj _).mp hcmd]
  · intro i hi b h3 hb
    have hcheck := not_xorCheck_set (xorCheck_frame _ _) h3 hi hb
    refine ⟨hcheck, fun obj cmd argv he => hcheck (xorCheck_of_encode he), fun hi3 => ?_⟩
    -- the header and the length byte are still those of the frame
    have hhead : ((frame (hc12HwIdOffset + cmd) argv).set i b).take 4 =
        [0x24, 0x4D, 0x3C, UInt8.ofNat (argv.length * 4)] := by
      rw [List.take_set_of_le (by omega)]
      rfl
    refine run_dropped hhead ?_ hcheck
    rw [List.length_set, frame_length, UInt8.toNat_ofNat']
    omega

-- without its length the frame is taken for one without arguments
example : Receiver.idle.run ((frame 2 [0x02000000]).set 3 0) = (.idle, [(2, [])]) := by decide

/-- A light reading of 300 against one of 301, with its last payload byte
changed on the way. -/
theorem frame_detects_single_byte_lux :
    ∃ bs bs', encode blank 2 [300] = some bs ∧ encode blank 2 [301] = some bs' ∧
      DifferTwice bs bs' ∧ Receiver.idle.run (bs.set 8 0x2D) = (.idle, []) := by
  obtain ⟨bs, bs', hbs, hbs', hdiffer, -, hset⟩ :=
    frame_detects_single_byte blank blank 2 2 [300] [301] (by decide) rfl
  have hbytes : bs = frame 2 [300] := Option.some.inj (hbs.symm.trans (encode_eq blank 2 (by decide)))
  refine ⟨bs, bs', hbs, hbs', hdiffer (by decide), ?_⟩
  subst hbytes
  exact (hset 8 (by decide) 0x2D (by decide) (by decide)).2.2 (by decide)

end MeteoL053.Msp
