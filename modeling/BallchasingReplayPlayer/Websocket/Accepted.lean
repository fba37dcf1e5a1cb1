import BallchasingReplayPlayer.Websocket.Assembly

/-!
# What the Frame Processor Accepts

The other direction: bytes that the processor does not refuse are the bytes of frames, written in
the one way there is to write them. So every message that is dispatched, whoever sent the bytes, is
one that frames make, and as well formed as those are.

## Layers

1. `header_eq`, `extended_eq`: a header that is not refused is one that is written
2. `exists_frame`: nothing is collected before there is a whole frame
3. `run_exists_frames`: the frames of a stream
4. `WellFormed`: what is true of the messages they make
-/

namespace BallchasingReplayPlayer

open BallchasingReplayPlayer.Frame Utf8Validator FieldReader

namespace Processor

/-! ## Headers -/

section Headers

variable {h : BasicHeader} {e : List UInt8}

/-- The first byte of a header, by its fields. -/
theorem b0_eq (h1 : getRsv1 h = false) (h2 : getRsv2 h = false) (h3 : getRsv3 h = false) :
    h.b0 = flag (getFin h) bhb0Fin ||| flag false bhb0Rsv1 ||| flag false bhb0Rsv2 |||
      flag false bhb0Rsv3 ||| (UInt8.ofNat (getOpcode h).value &&& bhb0Opcode) := by
  have htable : ∀ n < 256, (UInt8.ofNat n &&& bhb0Rsv1 == bhb0Rsv1) = false →
      (UInt8.ofNat n &&& bhb0Rsv2 == bhb0Rsv2) = false →
      (UInt8.ofNat n &&& bhb0Rsv3 == bhb0Rsv3) = false →
      UInt8.ofNat n = flag (UInt8.ofNat n &&& bhb0Fin == bhb0Fin) bhb0Fin ||| flag false bhb0Rsv1 |||
        flag false bhb0Rsv2 ||| flag false bhb0Rsv3 |||
        (UInt8.ofNat (Opcode.ofValue (UInt8.ofNat n &&& bhb0Opcode).toNat).value &&&
          bhb0Opcode) := by
    decide +kernel
  exact forall_byte (P := fun b0 => (b0 &&& bhb0Rsv1 == bhb0Rsv1) = false →
    (b0 &&& bhb0Rsv2 == bhb0Rsv2) = false → (b0 &&& bhb0Rsv3 == bhb0Rsv3) = false →
    b0 = flag (b0 &&& bhb0Fin == bhb0Fin) bhb0Fin ||| flag false bhb0Rsv1 ||| flag false bhb0Rsv2 |||
      flag false bhb0Rsv3 |||
      (UInt8.ofNat (Opcode.ofValue (b0 &&& bhb0Opcode).toNat).value &&& bhb0Opcode))
    htable h.b0 h1 h2 h3

/-- The second byte of a header, by its fields. -/
theorem b1_eq (h : BasicHeader) :
    h.b1 = flag (getMasked h) bhb1Mask ||| UInt8.ofNat (getBasicSize h) ∧ getBasicSize h < 128 := by
  have htable : ∀ n < 256,
      UInt8.ofNat n = flag (UInt8.ofNat n &&& bhb1Mask == bhb1Mask) bhb1Mask |||
        UInt8.ofNat (UInt8.ofNat n &&& bhb1Payload).toNat ∧
      (UInt8.ofNat n &&& bhb1Payload).toNat < 128 := by
    decide +kernel
  exact forall_byte (P := fun b1 => b1 = flag (b1 &&& bhb1Mask == bhb1Mask) bhb1Mask |||
    UInt8.ofNat (b1 &&& bhb1Payload).toNat ∧ (b1 &&& bhb1Payload).toNat < 128) htable h.b1

/-- A size that is not refused is announced in the shortest way. -/
theorem basicSize_eq (hvalid : validateIncomingExtendedHeader h e = .ok ()) :
    getBasicSize h = basicValue (getPayloadSize h e) ∧
      (getBasicSize h = payloadSizeCode16bit → getPayloadSize h e ≤ payloadSizeExtended) := by
  have hlt := (b1_eq h).2
  -- two bytes hold no more than a size of 16 bits
  have hextended : getExtendedSize e ≤ payloadSizeExtended := by
    have hread := BigEndian.read_lt (e.take 2)
    have hpow : 256 ^ (e.take 2).length ≤ 256 ^ 2 :=
      Nat.pow_le_pow_right (by decide) (List.length_take_le _ _)
    unfold getExtendedSize payloadSizeExtended
    omega
  unfold validateIncomingExtendedHeader at hvalid
  dsimp only at hvalid
  unfold getPayloadSize basicValue at *
  unfold payloadSizeBasic payloadSizeCode16bit payloadSizeCode64bit payloadSizeExtended at *
  by_cases hsmall : getBasicSize h ≤ 125
  · rw [if_pos hsmall, if_pos hsmall]
    exact ⟨rfl, fun hcode => by omega⟩
  · rw [if_neg hsmall] at hvalid ⊢
    by_cases hcode : getBasicSize h = 0x7e
    · rw [if_pos hcode] at hvalid ⊢
      split at hvalid
      · cases hvalid
      -- what 7 bits could hold is refused here
      case isFalse hminimal =>
        have hlarge : ¬ getExtendedSize e ≤ 125 := fun hle => hminimal ⟨hcode, hle⟩
        rw [if_neg hlarge, if_pos hextended]
        exact ⟨hcode, fun _ => hextended⟩
    · have hcode' : getBasicSize h = 0x7f := by omega
      rw [if_neg hcode] at hvalid ⊢
      split at hvalid
      · cases hvalid
      split at hvalid
      · cases hvalid
      -- and what 16 bits could hold here
      case isFalse hminimal =>
        have hlarge : ¬ getJumboSize e ≤ 0xffff := fun hle => hminimal ⟨hcode', hle⟩
        rw [if_neg (by omega), if_neg hlarge]
        exact ⟨hcode', fun hcode'' => absurd hcode'' hcode⟩

/-- **A header that is not refused** is one that is written. -/
theorem header_eq {isServer : Bool} (h1 : getRsv1 h = false) (h2 : getRsv2 h = false)
    (h3 : getRsv3 h = false) (hmasked : getMasked h = isServer)
    (hvalid : validateIncomingExtendedHeader h e = .ok ()) :
    h = .write (getOpcode h) (getPayloadSize h e) (getFin h) isServer false false false := by
  have hb0 := b0_eq h1 h2 h3
  have hb1 := (b1_eq h).1
  rw [hmasked, (basicSize_eq hvalid).1] at hb1
  calc
    h = ⟨h.b0, h.b1⟩ := rfl
    _ = _ := congr (congrArg BasicHeader.mk hb0) hb1

theorem c_ofBytes (a b c d : UInt8) : (MaskingKey.ofBytes [a, b, c, d]).c = [a, b, c, d] := by
  have hbyte : ∀ i < 4, byteAt (MaskingKey.ofBytes [a, b, c, d]) i = [a, b, c, d].getD i 0 := by
    intro i hi
    apply UInt8.toBitVec_inj.mp
    apply BitVec.eq_of_getLsbD_eq
    intro k hk
    unfold MaskingKey.ofBytes byteAt
    simp only [List.getD_cons_zero, List.getD_cons_succ, BitVec.getLsbD_append,
      BitVec.getLsbD_extractLsb']
    obtain rfl | rfl | rfl | rfl : i = 0 ∨ i = 1 ∨ i = 2 ∨ i = 3 := by omega
    all_goals
      simp only [List.getD_cons_zero, List.getD_cons_succ]
      grind
  unfold MaskingKey.c
  rw [hbyte 0 (by decide), hbyte 1 (by decide), hbyte 2 (by decide), hbyte 3 (by decide)]
  rfl

/-- The bytes of a length are those that are written for it. -/
theorem take_extended {size : ℕ} {op : Opcode} {fin mask : Bool}
    (hsize : getPayloadSize (.write op size fin mask false false false) e = size)
    (hlength : 8 - payloadOffset size ≤ e.length) :
    e.take (8 - payloadOffset size) = copyPayload size := by
  -- bytes that are read as a number are the bytes of that number
  have hwrite : ∀ k, k ≤ e.length → BigEndian.write k (BigEndian.read (e.take k)) = e.take k := by
    intro k hk
    have hbytes := BigEndian.write_read (e.take k)
    rwa [List.length_take, Nat.min_eq_left hk] at hbytes
  unfold getPayloadSize getExtendedSize getJumboSize at hsize
  rw [(read_b1 op size fin mask false false false).2] at hsize
  unfold copyPayload
  unfold basicValue payloadSizeBasic payloadSizeExtended payloadSizeCode16bit
    payloadSizeCode64bit at hsize
  unfold payloadOffset payloadSizeBasic payloadSizeExtended at *
  by_cases hsmall : size ≤ 125
  · rw [if_pos hsmall]
    exact (List.drop_of_length_le (BigEndian.length_write 8 size).le).symm
  by_cases hmiddle : size ≤ 0xffff
  · rw [if_neg hsmall, if_pos hmiddle] at *
    have hdrop : (BigEndian.write 8 size).drop 6 = BigEndian.write 2 size :=
      BigEndian.write_drop 6 2 size
    rw [if_neg (by decide), if_pos rfl] at hsize
    rw [hdrop]
    have hbytes := hwrite 2 (by omega)
    rw [hsize] at hbytes
    exact hbytes.symm
  · rw [if_neg hsmall, if_neg hmiddle] at *
    rw [if_neg (by decide), if_neg (by decide)] at hsize
    have hbytes := hwrite 8 (by omega)
    rw [hsize] at hbytes
    exact hbytes.symm

/-- The header of a frame in full: the bytes behind the basic header. -/
theorem extended_eq {size : ℕ} {op : Opcode} {fin mask : Bool} {rest : List UInt8}
    (hsize : getPayloadSize (.write op size fin mask false false false) (e ++ rest) = size)
    (hlength : e.length =
      getHeaderLen (.write op size fin mask false false false) - basicHeaderLength) :
    e = copyPayload size ++
      if mask then (getMaskingKey (.write op size fin mask false false false) (e ++ rest)).c
      else [] := by
  rw [getHeaderLen_write, length_copyPayload] at hlength
  have htake : e.take (8 - payloadOffset size) = copyPayload size := by
    have hle : 8 - payloadOffset size ≤ e.length := by omega
    have htake' := take_extended hsize (by rw [List.length_append]; omega)
    rwa [List.take_append_of_le_length hle] at htake'
  have hsplit := List.take_append_drop (8 - payloadOffset size) e
  rw [htake] at hsplit
  rw [← hsplit]
  -- behind the size there is the key, or nothing
  congr 1
  cases mask with
  | false =>
    rw [if_neg Bool.false_ne_true] at hlength ⊢
    exact List.drop_of_length_le hlength.le
  | true =>
    have hkey : (e.drop (8 - payloadOffset size)).length = 4 := by
      rw [List.length_drop, hlength]
      exact Nat.add_sub_cancel_left _ _
    obtain ⟨a, b, c, d, habcd⟩ : ∃ a b c d, e.drop (8 - payloadOffset size) = [a, b, c, d] := by
      match hbytes : e.drop (8 - payloadOffset size), hkey with
      | [a, b, c, d], _ => exact ⟨a, b, c, d, rfl⟩
    have hmask := (read_b1 op size fin true false false false).1
    unfold getMaskingKey
    rw [hmask, getMaskingKeyOffset_write, hsplit, List.drop_append_of_le_length (by omega), habcd]
    exact (c_ofBytes a b c d).symm

end Headers

/-! ## Whole Frames -/

variable {isServer : Bool} {s : Processor} {opened : Option Message} {bytes : List UInt8}

/-- What is true of a basic header that is not refused. -/
theorem fields_of_valid {h : BasicHeader} {newMsg : Bool}
    (hvalid : validateIncomingBasicHeader h isServer newMsg = .ok ()) :
    getRsv1 h = false ∧ getRsv2 h = false ∧ getRsv3 h = false ∧ getMasked h = isServer := by
  unfold validateIncomingBasicHeader at hvalid
  dsimp only at hvalid
  split at hvalid
  · cases hvalid
  split at hvalid
  · cases hvalid
  split at hvalid
  · cases hvalid
  iterate 5
    split at hvalid
    · cases hvalid
  split at hvalid
  · cases hvalid
  split at hvalid
  · cases hvalid
  case isFalse hrsv1 hrsv2 _ _ _ _ _ hrequired hforbidden =>
    rw [not_or] at hrsv2
    refine ⟨by simpa using hrsv1, by simpa using hrsv2.1, by simpa using hrsv2.2, ?_⟩
    cases isServer with
    | true => simpa using hrequired
    | false => simpa using hforbidden

theorem byteMask_byteMask (data : List UInt8) (key : MaskingKey) :
    byteMask (byteMask data key) key = data := by
  unfold byteMask
  apply List.ext_getElem
  · simp
  · intro i hi hi'
    rw [List.getElem_mapIdx, List.getElem_mapIdx, UInt8.xor_assoc, UInt8.xor_self, UInt8.xor_zero]

/-- A header that is not refused and a payload of its size are a frame. -/
theorem exists_bytes_eq {h : BasicHeader} {e rest wire : List UInt8} {newMsg : Bool}
    (hbasic : validateIncomingBasicHeader h isServer newMsg = .ok ())
    (hextended : validateIncomingExtendedHeader h (e ++ rest) = .ok ())
    (hlength : e.length = getHeaderLen h - basicHeaderLength)
    (hwire : wire.length = getPayloadSize h (e ++ rest)) (hsmall : wire.length < 2 ^ 63) :
    ∃ f : SentFrame, f.bytes isServer = [h.b0, h.b1] ++ (e ++ wire) := by
  obtain ⟨h1, h2, h3, hmasked⟩ := fields_of_valid hbasic
  have hheader := header_eq h1 h2 h3 hmasked hextended
  -- the frame has the fields of the header, and the payload with the mask taken off
  let key := getMaskingKey h (e ++ rest)
  have hpayload : (if isServer then byteMask wire key else wire).length = wire.length := by
    unfold byteMask
    split
    · simp
    · rfl
  let f : SentFrame :=
    ⟨getOpcode h, getFin h, if isServer then byteMask wire key else wire, key, hpayload ▸ hsmall⟩
  have hf : f.header isServer = h := by
    unfold SentFrame.header
    dsimp only [f]
    rw [hpayload, hwire]
    exact hheader.symm
  have he : f.extended isServer = e := by
    have hsize : getPayloadSize (.write (getOpcode h) (getPayloadSize h (e ++ rest)) (getFin h)
        isServer false false false) (e ++ rest) = getPayloadSize h (e ++ rest) := by
      rw [← hheader]
    have he := extended_eq hsize (by rw [← hheader]; exact hlength)
    rw [← hheader] at he
    unfold SentFrame.extended
    dsimp only [f]
    rw [hpayload, hwire]
    exact he.symm
  have hw : f.wire isServer = wire := by
    unfold SentFrame.wire
    dsimp only [f]
    cases isServer with
    | true => exact byteMask_byteMask wire key
    | false => rfl
  exact ⟨f, by rw [f.bytes_eq, hf, he, hw]⟩

theorem validateIncomingExtendedHeader_of_read {t : Processor}
    (h : s.extendedHeaderRead = .ok t) :
    validateIncomingExtendedHeader s.basicHeader s.extendedHeader = .ok () := by
  unfold extendedHeaderRead at h
  cases hvalid : validateIncomingExtendedHeader s.basicHeader s.extendedHeader with
  | error e =>
    rw [hvalid] at h
    cases h
  | ok u => rfl

/-- **Nothing is collected early**: what the processor collects from a stream begins with a whole
    frame. -/
theorem exists_frame (hs : Between isServer s opened) (hbytes : bytes.length < 2 ^ 63)
    (hitems : (frameReader.run s bytes).1 ≠ []) :
    ∃ (f : SentFrame) (rest : List UInt8), bytes = f.bytes isServer ++ rest := by
  rw [← Reader.runSettled_of_settled hs.settled] at hitems
  match bytes, hbytes with
  | [], _ =>
    refine absurd (Reader.runSettled_of_lt hs.valid hs.settled.ready ?_) hitems
    exact Nat.pos_of_ne_zero hs.settled.needed
  | [b0], _ =>
    refine absurd (Reader.runSettled_of_lt hs.valid hs.settled.ready ?_) hitems
    change 1 < s.bytesNeeded
    rw [hs.needed]
    exact Nat.one_lt_two
  | b0 :: b1 :: tail, hbytes =>
    simp only [List.length_cons] at hbytes
    -- the basic header is complete
    have hlength : [b0, b1].length = frameReader.needed s := hs.needed.symm
    have hsplit := Reader.runSettled_field hs.valid hs.settled.ready hlength tail
    have hfield := field_basic hs ⟨b0, b1⟩
    dsimp only at hfield
    rw [List.cons_append, List.cons_append, List.nil_append, hfield] at hsplit
    rw [hsplit] at hitems
    cases hbasic : validateIncomingBasicHeader ⟨b0, b1⟩ isServer opened.isNone with
    | error e =>
      rw [hbasic] at hitems
      exact absurd rfl hitems
    | ok u =>
      have hroom := getHeaderLen_le ⟨b0, b1⟩
      have hvalid : (s.behindBasic ⟨b0, b1⟩).Valid :=
        ⟨hs.header, (Nat.zero_add _).trans_le hroom⟩
      rw [hbasic] at hitems
      dsimp only [Except.map] at hitems
      rw [Result.andThen_of_ok] at hitems
      by_cases hshort : tail.length < getHeaderLen ⟨b0, b1⟩ - basicHeaderLength
      · exact absurd (Reader.runSettled_of_lt hvalid rfl hshort) hitems
      -- the whole header is complete
      have hextended := List.take_append_drop (getHeaderLen ⟨b0, b1⟩ - basicHeaderLength) tail
      have hlength' : (tail.take (getHeaderLen ⟨b0, b1⟩ - basicHeaderLength)).length =
          getHeaderLen ⟨b0, b1⟩ - basicHeaderLength :=
        List.length_take_of_le (Nat.not_lt.mp hshort)
      generalize tail.take (getHeaderLen ⟨b0, b1⟩ - basicHeaderLength) = e at hextended hlength'
      generalize tail.drop (getHeaderLen ⟨b0, b1⟩ - basicHeaderLength) = tail' at hextended
      rw [← hextended, Reader.runSettled_field hvalid rfl hlength',
        field_extended rfl rfl hlength'.symm] at hitems
      cases hread : ((s.behindBasic ⟨b0, b1⟩).behindExtended e).extendedHeaderRead with
      | error e =>
        rw [hread] at hitems
        exact absurd rfl hitems
      | ok t =>
        have hle : 0 + e.length ≤ (s.behindBasic ⟨b0, b1⟩).extendedHeader.length := by
          rw [hvalid.header, hlength', Nat.zero_add]
          exact hroom
        have hvalid' : ((s.behindBasic ⟨b0, b1⟩).behindExtended e).Valid := by
          refine ⟨(length_copyTo hle).trans hvalid.header, ?_⟩
          change e.length + 0 ≤ maxExtendedHeaderLength
          rw [hlength']
          exact hroom
        have ht := extendedHeaderRead_valid hvalid' hread
        obtain ⟨hstate, hneeded⟩ := extendedHeaderRead_state hread
        have hrest := copyTo_zero s.extendedHeader e
        generalize s.extendedHeader.drop e.length = rest at hrest
        have hheader : validateIncomingExtendedHeader ⟨b0, b1⟩ (e ++ rest) = .ok () := by
          rw [← hrest]
          exact validateIncomingExtendedHeader_of_read hread
        have hsize : t.bytesNeeded = getPayloadSize ⟨b0, b1⟩ (e ++ rest) := by
          rw [← hrest]
          exact hneeded
        rw [hread, Result.andThen_of_ok] at hitems
        have hready : frameReader.ready t = false := by simp [frameReader, hstate]
        by_cases hshort' : tail'.length < t.bytesNeeded
        · exact absurd (Reader.runSettled_of_lt ht hready hshort') hitems
        -- and so is the payload
        have hwire : (tail'.take t.bytesNeeded).length = t.bytesNeeded :=
          List.length_take_of_le (Nat.not_lt.mp hshort')
        have hsmall : t.bytesNeeded < 2 ^ 63 := by
          have htail := congrArg List.length hextended
          rw [List.length_append] at htail
          omega
        obtain ⟨f, hf⟩ := exists_bytes_eq hbasic hheader hlength' (hwire.trans hsize)
          (by rw [hwire]; exact hsmall)
        refine ⟨f, tail'.drop t.bytesNeeded, ?_⟩
        rw [hf, ← hextended]
        simp only [List.append_assoc, List.take_append_drop, List.cons_append, List.nil_append]

/-! ## Streams -/

/-- A frame that is refused makes nothing. -/
theorem assemble_of_error {f : SentFrame} {e : ProcessorError}
    (h : (assemble opened f).2 = .error e) : (assemble opened f).1 = [] := by
  have hextend : ∀ m, (extend f m).2 = .error e → (extend f m).1 = [] := by
    intro m hm
    unfold extend at hm ⊢
    split_ifs at hm ⊢
    all_goals rfl
  cases opened with
  | none =>
    unfold assemble at h ⊢
    dsimp only at h ⊢
    split_ifs at h ⊢
    all_goals first | rfl | exact hextend _ h
  | some m =>
    unfold assemble at h ⊢
    dsimp only at h ⊢
    split_ifs at h ⊢
    all_goals first | rfl | exact hextend _ h

/-- **Streams**: what the processor collects from a stream is what the frames at its beginning
    make. -/
theorem run_exists_frames (hs : Between isServer s opened) (hbytes : bytes.length < 2 ^ 63) :
    ∃ (fs : List SentFrame) (tail : List UInt8) (opened' : Option Message),
      bytes = fs.flatMap (·.bytes isServer) ++ tail ∧
        assembleAll opened fs = ((frameReader.run s bytes).1, .ok opened') := by
  induction hn : bytes.length using Nat.strongRecOn generalizing s opened bytes with
  | ind n ih =>
    -- without a message the whole stream is the tail
    by_cases hitems : (frameReader.run s bytes).1 = []
    · exact ⟨[], bytes, opened, rfl, by rw [hitems]; rfl⟩
    -- otherwise it begins with a frame, and the rest of it is shorter
    obtain ⟨f, rest, rfl⟩ := exists_frame hs hbytes hitems
    have hframe := run_frame hs f
    rw [Reader.run_append] at hitems ⊢
    cases hrun : frameReader.run s (f.bytes isServer) with
    | mk msgs r =>
      rw [hrun] at hitems hframe
      obtain ⟨hmsgs, hends⟩ := hframe
      cases hassemble : (assemble opened f).2 with
      -- a frame that is refused makes no message
      | error e =>
        rw [hassemble] at hends
        cases r with
        | error e' => exact absurd (hmsgs.trans (assemble_of_error hassemble)) hitems
        | ok s' => cases hends
      | ok opened' =>
        rw [hassemble] at hends
        cases r with
        | error e' => cases hends
        | ok s' =>
          have hlength := congrArg List.length (f.bytes_eq isServer)
          simp only [List.length_append, List.length_cons, List.length_nil] at hlength hn hbytes
          obtain ⟨fs, tail, opened'', hrest, hfs⟩ :=
            ih rest.length (by omega) hends (by omega) rfl
          refine ⟨f :: fs, tail, opened'', ?_, ?_⟩
          · rw [List.flatMap_cons, List.append_assoc, ← hrest]
          · have hone : assemble opened f = (msgs, .ok opened') := Prod.ext hmsgs.symm hassemble
            unfold assembleAll Result.andThen
            rw [hone]
            dsimp only
            rw [hfs]

/-! ## Well-Formed Messages -/

/-- What is true of every message that frames make. A text in several frames can end inside a
    character. -/
structure WellFormed (m : Message) : Prop where
  known : m.opcode ∈ [Opcode.text, .binary, .close, .ping, .pong]
  short : m.opcode.isControl = true → m.payload.length ≤ payloadSizeBasic
  small : m.payload.length ≤ BallchasingReplayPlayer.maxMessageSize
  legible : legible m = true

/-- A message of data. -/
def IsData (m : Message) : Prop := m.opcode = .text ∨ m.opcode = .binary

theorem IsData.known {m : Message} (hm : IsData m) :
    m.opcode ∈ [Opcode.text, .binary, .close, .ping, .pong] ∧ m.opcode.isControl = false := by
  rcases hm with hop | hop
  all_goals
    rw [hop]
    decide

theorem extend_wellFormed {f : SentFrame} {m : Message} {opened' : Option Message}
    (hm : IsData m) (h : (extend f m).2 = .ok opened') :
    (∀ m' ∈ (extend f m).1, WellFormed m') ∧ ∀ m' ∈ opened', IsData m' := by
  obtain ⟨hknown, hcontrol⟩ := hm.known
  unfold extend at h ⊢
  split_ifs at h ⊢ with hsize hlegible hfin hend
  · cases h
  · cases h
  · -- the message stays open
    cases h
    constructor
    · intro m' hm'
      cases hm'
    · rintro m' ⟨⟩
      exact hm
  · cases h
  · -- the message is complete
    cases h
    constructor
    · intro m' hm'
      obtain rfl := List.mem_singleton.mp hm'
      refine ⟨hknown, fun h => ?_, Nat.not_lt.mp hsize, by simpa using hlegible⟩
      rw [hcontrol] at h
      cases h
    · intro m' hm'
      cases hm'

/-- **Step lemma**: what a frame makes is well formed. -/
theorem assemble_wellFormed {f : SentFrame} {opened' : Option Message}
    (hopened : ∀ m ∈ opened, IsData m) (h : (assemble opened f).2 = .ok opened') :
    (∀ m ∈ (assemble opened f).1, WellFormed m) ∧ ∀ m ∈ opened', IsData m := by
  have hknown : ∀ op : Opcode, op.reserved = false →
      if op.isControl then op ∈ [Opcode.close, .ping, .pong]
      else op = .continuation ∨ op = .text ∨ op = .binary := by
    intro op
    cases op with
    | _ => decide
  -- the opcodes that are not reserved, by their kind
  have hop := hknown f.opcode
  have hcontrol : f.opcode.isControl = true → f.opcode.reserved = false →
      ¬ payloadSizeBasic < f.payload.length → WellFormed ⟨f.opcode, f.payload⟩ := by
    intro hcontrol hreserved hshort
    have hop := hop hreserved
    rw [if_pos hcontrol] at hop
    have hshort : f.payload.length ≤ payloadSizeBasic := Nat.not_lt.mp hshort
    refine ⟨?_, fun _ => hshort, hshort.trans (by decide), ?_⟩
    · simp only [List.mem_cons] at hop ⊢
      exact Or.inr (Or.inr hop)
    · unfold legible
      cases htext : f.opcode with
      | text =>
        rw [htext] at hcontrol
        cases hcontrol
      | _ => rfl
  unfold assemble at h ⊢
  by_cases hbig : f.opcode.isControl ∧ payloadSizeBasic < f.payload.length
  · rw [if_pos hbig] at h
    cases h
  rw [if_neg hbig] at h ⊢
  cases hreserved : f.opcode.reserved with
  | true =>
    rw [hreserved, if_pos rfl] at h
    cases h
  | false =>
    have hop := hop hreserved
    rw [hreserved, if_neg Bool.false_ne_true] at h
    rw [if_neg Bool.false_ne_true]
    cases hctrl : f.opcode.isControl with
    -- a frame of control is a message, and leaves the one that is open
    | true =>
      rw [hctrl, if_pos rfl] at h
      rw [if_pos rfl]
      cases hfin : f.fin with
      | false =>
        rw [hfin] at h
        cases h
      | true =>
        rw [hfin] at h
        cases h
        refine ⟨fun m hm => ?_, hopened⟩
        obtain rfl := List.mem_singleton.mp hm
        exact hcontrol hctrl hreserved fun hshort => hbig ⟨hctrl, hshort⟩
    | false =>
      rw [hctrl, if_neg Bool.false_ne_true] at h hop
      rw [if_neg Bool.false_ne_true]
      cases opened with
      | none =>
        dsimp only at h ⊢
        by_cases hcontinuation : f.opcode = .continuation
        · rw [if_pos hcontinuation] at h
          cases h
        · rw [if_neg hcontinuation] at h ⊢
          exact extend_wellFormed (hop.resolve_left hcontinuation) h
      | some m =>
        dsimp only at h ⊢
        by_cases hcontinuation : f.opcode = .continuation
        · rw [if_pos hcontinuation] at h ⊢
          have hm := hopened m rfl
          exact extend_wellFormed hm h
        · rw [if_neg hcontinuation] at h
          cases h

/-- **Run lemma**: what frames make is well formed. -/
theorem assembleAll_wellFormed {fs : List SentFrame} {opened' : Option Message}
    {msgs : List Message} (hopened : ∀ m ∈ opened, IsData m)
    (h : assembleAll opened fs = (msgs, .ok opened')) : ∀ m ∈ msgs, WellFormed m := by
  induction fs generalizing opened msgs with
  | nil =>
    cases h
    intro m hm
    cases hm
  | cons f fs ih =>
    unfold assembleAll Result.andThen at h
    cases hassemble : (assemble opened f).2 with
    | error e =>
      rw [hassemble] at h
      have hends : (assemble opened f).2 = .ok opened' := congrArg Prod.snd h
      rw [hends] at hassemble
      cases hassemble
    | ok opened'' =>
      rw [hassemble] at h
      obtain ⟨hmsgs, hopened''⟩ := assemble_wellFormed hopened hassemble
      obtain ⟨hitems, hends⟩ := Prod.mk.inj h
      intro m hm
      rw [← hitems, List.mem_append] at hm
      rcases hm with hm | hm
      · exact hmsgs m hm
      · exact ih hopened'' (Prod.ext rfl hends) m hm

/-- **What is dispatched**: whatever bytes come, cut anywhere by the reads, the messages dispatched
    are those made by whole frames at the beginning of the bytes, and they are well formed. -/
theorem readAll_exists_frames {τ : Type} (dispatch : Message → τ → τ × Bool) (isServer : Bool)
    (t : τ) (bufs : List (List UInt8)) (hbytes : bufs.flatten.length < 2 ^ 63) :
    ∃ (fs : List SentFrame) (tail : List UInt8) (opened : Option Message) (msgs : List Message),
      bufs.flatten = fs.flatMap (·.bytes isServer) ++ tail ∧
        assembleAll none fs = (msgs, .ok opened) ∧ (∀ m ∈ msgs, WellFormed m) ∧
        (readAll dispatch (fresh isServer) t bufs).1 = (dispatchAll dispatch msgs t).1 := by
  obtain ⟨fs, tail, opened, hflatten, hfs⟩ := run_exists_frames (between_fresh isServer) hbytes
  refine ⟨fs, tail, opened, _, hflatten, hfs,
    assembleAll_wellFormed (fun m hm => by cases hm) hfs, ?_⟩
  rw [readAll_eq dispatch (settled_fresh isServer), conclude_fst]

/-- A ping in three reads, and the first byte of another frame. -/
theorem readAll_exists_frames_ping :
    ∃ (fs : List SentFrame) (tail : List UInt8) (opened : Option Message) (msgs : List Message),
      [[0x89, 0x80, 0, 0], [0], [0, 0x81]].flatten = fs.flatMap (·.bytes true) ++ tail ∧
        assembleAll none fs = (msgs, .ok opened) ∧ (∀ m ∈ msgs, WellFormed m) ∧
        (readAll (fun msg msgs => (msgs ++ [msg], false)) (fresh true) []
          [[0x89, 0x80, 0, 0], [0], [0, 0x81]]).1 =
          (dispatchAll (fun msg msgs => (msgs ++ [msg], false)) msgs []).1 :=
  readAll_exists_frames _ true [] _ (by decide)

end Processor

end BallchasingReplayPlayer
