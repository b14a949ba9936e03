import EsphomeProxy.Wire

/-! The receive path of one connection: `handle_client_data` and the `recv` loop that feeds it. -/

namespace EsphomeProxy

def recvBufferSize : Nat := 4096

/-- A call of `dispatch_message` made by `handle_client_data`, with the header length,
declared length and `recv_pos` it was computed from. `payload` holds the bytes of the
buffer from `header_len` on, at most `msg_len` of them. -/
structure Dispatch where
  msgType : UInt16
  payload : List UInt8
  headerLen : Nat
  msgLen : UInt32
  recvPos : Nat
  deriving DecidableEq, Repr

def Dispatch.msg (d : Dispatch) : UInt16 × List UInt8 := (d.msgType, d.payload)

/-- How one pass of the loop body ends: a `break`, or a dispatch followed by the
compaction of the buffer. -/
inductive Pass where
  | wait
  | dispatch (d : Dispatch) (rest : List UInt8)
  deriving DecidableEq, Repr

/-- One pass of the body of `handle_client_data`'s loop. `total_len` is a `uint32_t`, so
`header_len + msg_len` wraps modulo `2 ^ 32`. -/
def handlePass (decode : List UInt8 → Nat × UInt32 × UInt16) (buf : List UInt8) : Pass :=
  match decode buf with
  | (headerLen, msgLen, msgType) =>
    if headerLen = 0 then .wait
    else
      let totalLen := (headerLen + msgLen.toNat) % 2 ^ 32
      if buf.length < totalLen then .wait
      else .dispatch ⟨msgType, (buf.drop headerLen).take msgLen.toNat, headerLen, msgLen,
        buf.length⟩ (buf.drop totalLen)

/-- `handle_client_data`, run for at most `fuel` passes (`none` when they run out). -/
def handleClientData (decode : List UInt8 → Nat × UInt32 × UInt16) :
    Nat → List UInt8 → Option (List Dispatch × List UInt8)
  | 0, _ => none
  | fuel + 1, buf =>
    if buf = [] then some ([], buf)
    else match handlePass decode buf with
      | .wait => some ([], buf)
      | .dispatch d rest => (handleClientData decode fuel rest).map fun r => (d :: r.1, r.2)

variable {decode : List UInt8 → Nat × UInt32 × UInt16}

theorem handleClientData_succ_nil (fuel : Nat) :
    handleClientData decode (fuel + 1) [] = some ([], []) := rfl

theorem handleClientData_succ_wait {fuel : Nat} {buf : List UInt8}
    (h : handlePass decode buf = .wait) : handleClientData decode (fuel + 1) buf = some ([], buf) := by
  by_cases hb : buf = [] <;> simp [handleClientData, hb, h]

theorem handleClientData_succ_dispatch {fuel : Nat} {buf rest : List UInt8} {d : Dispatch}
    (hb : buf ≠ []) (h : handlePass decode buf = .dispatch d rest) :
    handleClientData decode (fuel + 1) buf =
      (handleClientData decode fuel rest).map fun r => (d :: r.1, r.2) := by
  simp [handleClientData, hb, h]

theorem handleClientData_succ_of_eq {fuel : Nat} {buf : List UInt8} {r : List Dispatch × List UInt8}
    (h : handleClientData decode fuel buf = some r) :
    handleClientData decode (fuel + 1) buf = some r := by
  induction fuel generalizing buf r with
  | zero => cases h
  | succ fuel ih =>
    by_cases hb : buf = []
    · subst hb; rwa [handleClientData_succ_nil] at h ⊢
    cases hp : handlePass decode buf with
    | wait => rwa [handleClientData_succ_wait hp] at h ⊢
    | dispatch d rest =>
      rw [handleClientData_succ_dispatch hb hp] at h ⊢
      obtain ⟨r', hr', rfl⟩ := Option.map_eq_some'.mp h
      rw [ih hr']; rfl

theorem handleClientData_mono {fuel fuel' : Nat} {buf : List UInt8} {r : List Dispatch × List UInt8}
    (h : handleClientData decode fuel buf = some r) (hle : fuel ≤ fuel') :
    handleClientData decode fuel' buf = some r := by
  induction hle with
  | refl => exact h
  | step _ ih => exact handleClientData_succ_of_eq ih

/-- Passes of the loop of `handle_client_data`, each a dispatch, that take the buffer from `x`
to `y`; the loop may go on from `y`. -/
inductive HandleSteps (decode : List UInt8 → Nat × UInt32 × UInt16) :
    List UInt8 → List Dispatch → List UInt8 → Prop
  | refl (x : List UInt8) : HandleSteps decode x [] x
  | tail {x y z : List UInt8} {ds : List Dispatch} {d : Dispatch} : HandleSteps decode x ds y →
      y ≠ [] → handlePass decode y = .dispatch d z → HandleSteps decode x (ds ++ [d]) z

theorem HandleSteps.run {x y : List UInt8} {ds : List Dispatch}
    (h : HandleSteps decode x ds y) (k : Nat) :
    handleClientData decode (ds.length + k) x =
      (handleClientData decode k y).map fun r => (ds ++ r.1, r.2) := by
  induction h generalizing k with
  | refl => simp
  | @tail y z ds d _ hy hp ih =>
    have hlen : (ds ++ [d]).length + k = ds.length + (k + 1) := by simp; omega
    rw [hlen, ih, handleClientData_succ_dispatch hy hp, Option.map_map]
    simp only [Function.comp_def, List.append_assoc, List.singleton_append]

theorem HandleSteps.run_done {x y : List UInt8} {ds : List Dispatch}
    (h : HandleSteps decode x ds y) (hy : y = [] ∨ handlePass decode y = .wait) :
    handleClientData decode (ds.length + 1) x = some (ds, y) := by
  have hrun : handleClientData decode 1 y = some ([], y) := by
    rcases hy with rfl | hw
    exacts [rfl, handleClientData_succ_wait hw]
  rw [h.run 1, hrun]; simp

theorem handlePass_dispatch {buf rest : List UInt8} {d : Dispatch}
    (h : handlePass decode buf = .dispatch d rest) :
    d.recvPos = buf.length ∧ 0 < d.headerLen ∧
      (d.headerLen + d.msgLen.toNat) % 2 ^ 32 ≤ buf.length ∧
      rest = buf.drop ((d.headerLen + d.msgLen.toNat) % 2 ^ 32) := by
  rcases hdec : decode buf with ⟨hl, ml, ty⟩
  simp only [handlePass, hdec] at h
  split_ifs at h with h0 hlt
  cases h
  exact ⟨rfl, Nat.pos_of_ne_zero h0, Nat.le_of_not_lt hlt, rfl⟩

theorem handleClientData_wrap_diverges {buf : List UInt8} {hl : Nat} {ml : UInt32} {ty : UInt16}
    (hd : decode buf = (hl, ml, ty)) (hpos : 0 < hl) (hwrap : (hl + ml.toNat) % 2 ^ 32 = 0)
    (hne : buf ≠ []) (fuel : Nat) : handleClientData decode fuel buf = none := by
  have hpass : handlePass decode buf =
      .dispatch ⟨ty, (buf.drop hl).take ml.toNat, hl, ml, buf.length⟩ buf := by
    have hwrap' : (hl + ml.toNat) % 4294967296 = 0 := hwrap
    simp [handlePass, hd, Nat.pos_iff_ne_zero.mp hpos, hwrap']
  induction fuel with
  | zero => rfl
  | succ fuel ih => rw [handleClientData_succ_dispatch hne hpass, ih, Option.map_none']

/-- A peer that sends the seven bytes `00 FA FF FF FF 0F 07` (a ping declaring
`0xFFFFFFFA` bytes) makes `total_len` wrap to `0`: `dispatch_message` is handed a payload
of `0xFFFFFFF9` bytes in a buffer of seven, and `handle_client_data` never returns. -/
theorem handle_client_data_wraps_on_peer_length :
    handlePass esphomeDecodeFrameHeader [0x00, 0xFA, 0xFF, 0xFF, 0xFF, 0x0F, 0x07] =
      .dispatch ⟨esphomeMsgPingRequest, [], 7, 0xFFFFFFF9, 7⟩
        [0x00, 0xFA, 0xFF, 0xFF, 0xFF, 0x0F, 0x07] ∧
    7 < 7 + (0xFFFFFFF9 : UInt32).toNat ∧
    ∀ fuel, handleClientData esphomeDecodeFrameHeader fuel
      [0x00, 0xFA, 0xFF, 0xFF, 0xFF, 0x0F, 0x07] = none :=
  ⟨by decide, by decide, handleClientData_wrap_diverges
    (show esphomeDecodeFrameHeader [0x00, 0xFA, 0xFF, 0xFF, 0xFF, 0x0F, 0x07] =
      (7, 0xFFFFFFF9, 7) by decide) (by decide) (by decide) (by decide)⟩

/-- A frame on the wire: the header `esphome_decode_frame_header` parses (preamble, length
and type), then the payload. -/
structure Frame where
  header : List UInt8
  msgType : UInt16
  payload : List UInt8
  deriving DecidableEq, Repr

def Frame.bytes (F : Frame) : List UInt8 := F.header ++ F.payload

def Frame.msg (F : Frame) : UInt16 × List UInt8 := (F.msgType, F.payload)

/-- What reassembly assumes of a frame: it fits the receive buffer, and the decoder
reports no header on a proper prefix of its header and reports its header whatever
follows it. -/
structure FrameOk (decode : List UInt8 → Nat × UInt32 × UInt16) (F : Frame) : Prop where
  header_pos : 0 < F.header.length
  fits : F.header.length + F.payload.length ≤ recvBufferSize
  prefix_none : ∀ q, q <+: F.header → q.length < F.header.length → (decode q).1 = 0
  decode_header : ∀ rest, decode (F.header ++ rest) =
    (F.header.length, UInt32.ofNat F.payload.length, F.msgType)

theorem FrameOk.bytes_pos {F : Frame} (hF : FrameOk decode F) : 0 < F.bytes.length := by
  simp only [Frame.bytes, List.length_append]; have := hF.header_pos; omega

/-- The frame `esphome_frame_message` writes for a message (spec model of the codec). -/
def specFrame (msgType : UInt16) (payload : List UInt8) : Frame :=
  ⟨frameHeader msgType payload.length, msgType, payload⟩

theorem specFrame_bytes {outSize : Nat} {msgType : UInt16} {payload : List UInt8}
    (h : (specFrame msgType payload).bytes.length ≤ outSize) :
    esphomeFrameMessage outSize msgType payload = (specFrame msgType payload).bytes := by
  simp only [specFrame, Frame.bytes] at h ⊢
  simp only [esphomeFrameMessage, if_pos h]

theorem specFrame_ok (msgType : UInt16) (payload : List UInt8)
    (hfit : (frameHeader msgType payload.length).length + payload.length ≤ recvBufferSize) :
    FrameOk esphomeDecodeFrameHeader (specFrame msgType payload) where
  header_pos := by simp [specFrame, frameHeader]
  fits := hfit
  prefix_none _ hq hlt := esphomeDecodeFrameHeader_prefix_zero msgType _ hq hlt
  decode_header rest := esphomeDecodeFrameHeader_frameHeader msgType
    (by simp only [recvBufferSize] at hfit; omega) rest

theorem handlePass_frame {F : Frame} (hF : FrameOk decode F) (rest : List UInt8) :
    handlePass decode (F.bytes ++ rest) = .dispatch ⟨F.msgType, F.payload, F.header.length,
      UInt32.ofNat F.payload.length, (F.bytes ++ rest).length⟩ rest := by
  have hfit := hF.fits
  have hlen : (UInt32.ofNat F.payload.length).toNat = F.payload.length :=
    UInt32.toNat_ofNat_of_lt (by simp only [recvBufferSize] at hfit; simp [UInt32.size]; omega)
  have htot : (F.header.length + F.payload.length) % 4294967296 =
      F.header.length + F.payload.length :=
    Nat.mod_eq_of_lt (by simp only [recvBufferSize] at hfit; omega)
  have hdec := hF.decode_header (F.payload ++ rest)
  have hdrop : List.drop (F.header.length + F.payload.length) F.header = [] :=
    List.drop_eq_nil_of_le (by omega)
  simp only [Frame.bytes, List.append_assoc] at hdec ⊢
  simp [handlePass, hdec, hlen, htot, Nat.pos_iff_ne_zero.mp hF.header_pos, hdrop,
    List.drop_append_eq_append_drop, List.take_append_eq_append_take]

theorem handlePass_proper_prefix_wait {F : Frame} (hF : FrameOk decode F) {x : List UInt8}
    (hx : x <+: F.bytes) (hlt : x.length < F.bytes.length) : handlePass decode x = .wait := by
  have hh : F.header <+: F.bytes := List.prefix_append _ _
  by_cases hshort : x.length < F.header.length
  · have hq := hF.prefix_none x (List.prefix_of_prefix_length_le hx hh hshort.le) hshort
    rcases hdec : decode x with ⟨hl, ml, ty⟩
    simp only [hdec] at hq
    simp [handlePass, hdec, hq]
  · obtain ⟨y, rfl⟩ := List.prefix_of_prefix_length_le hh hx (Nat.le_of_not_lt hshort)
    have hfit := hF.fits
    have hlen : (UInt32.ofNat F.payload.length).toNat = F.payload.length :=
      UInt32.toNat_ofNat_of_lt (by simp only [recvBufferSize] at hfit; simp [UInt32.size]; omega)
    have htot : (F.header.length + F.payload.length) % 4294967296 =
        F.header.length + F.payload.length :=
      Nat.mod_eq_of_lt (by simp only [recvBufferSize] at hfit; omega)
    simp only [Frame.bytes, List.length_append] at hlt
    simp [handlePass, hF.decode_header, hlen, htot, Nat.pos_iff_ne_zero.mp hF.header_pos, hlt]

/-- `buf` is a proper prefix of the first of the frames `fs`, and empty when none is left. -/
def Pending (buf : List UInt8) : List Frame → Prop
  | [] => buf = []
  | F :: _ => buf <+: F.bytes ∧ buf.length < F.bytes.length

theorem handleClientData_frames {fs : List Frame} (hfs : ∀ F ∈ fs, FrameOk decode F)
    {x : List UInt8} (hx : x <+: (fs.map Frame.bytes).flatten) {fuel : Nat}
    (hfuel : x.length < fuel) :
    ∃ m ds rest, handleClientData decode fuel x = some (ds, rest) ∧
      ds.map Dispatch.msg = (fs.take m).map Frame.msg ∧
      x = ((fs.take m).map Frame.bytes).flatten ++ rest ∧ Pending rest (fs.drop m) := by
  obtain ⟨fuel, rfl⟩ : ∃ f, fuel = f + 1 := Nat.exists_eq_succ_of_ne_zero (by omega)
  induction fs generalizing x fuel with
  | nil =>
    obtain rfl : x = [] := List.prefix_nil.mp (by simpa using hx)
    exact ⟨0, [], [], rfl, rfl, rfl, rfl⟩
  | cons F fs ih =>
    have hF := hfs F (List.mem_cons_self F fs)
    simp only [List.map_cons, List.flatten_cons] at hx
    by_cases hlt : x.length < F.bytes.length
    · have hxF : x <+: F.bytes :=
        List.prefix_of_prefix_length_le hx (List.prefix_append _ _) hlt.le
      refine ⟨0, [], x, ?_, rfl, by simp, hxF, hlt⟩
      by_cases hx0 : x = []
      · subst hx0; rfl
      · exact handleClientData_succ_wait (handlePass_proper_prefix_wait hF hxF hlt)
    · obtain ⟨x', rfl⟩ :=
        List.prefix_of_prefix_length_le (List.prefix_append _ _) hx (Nat.le_of_not_lt hlt)
      have hpos := hF.bytes_pos
      rw [List.length_append] at hfuel
      obtain ⟨fuel, rfl⟩ : ∃ f, fuel = f + 1 := Nat.exists_eq_succ_of_ne_zero (by omega)
      obtain ⟨m, ds, rest, hrun, hds, hsplit, hpend⟩ :=
        ih (fun G hG => hfs G (List.mem_cons_of_mem F hG))
          ((List.prefix_append_right_inj _).mp hx) fuel (by omega)
      have hne : F.bytes ++ x' ≠ [] := by simp [List.ne_nil_of_length_pos hpos]
      refine ⟨m + 1, ⟨F.msgType, F.payload, F.header.length, UInt32.ofNat F.payload.length,
        (F.bytes ++ x').length⟩ :: ds, rest, ?_, ?_, ?_, hpend⟩
      · rw [handleClientData_succ_dispatch hne (handlePass_frame hF x'), hrun]; rfl
      · simp [hds, Dispatch.msg, Frame.msg]
      · simp [hsplit]

/-- The receive loop of `client_thread_func` over the bytes of its successful `recv` calls:
each chunk is appended at `recv_pos`, then `handle_client_data` runs on the buffer. -/
def recvLoop (decode : List UInt8 → Nat × UInt32 × UInt16) (fuel : Nat) :
    List UInt8 → List (List UInt8) → Option (List Dispatch × List UInt8)
  | buf, [] => some ([], buf)
  | buf, c :: cs =>
    match handleClientData decode fuel (buf ++ c) with
    | none => none
    | some (ds, buf') => (recvLoop decode fuel buf' cs).map fun r => (ds ++ r.1, r.2)

/-- Every chunk fits the free part of `recv_buffer` when it arrives: `recv` is passed
`sizeof(client->recv_buffer) - client->recv_pos` as its length. -/
def RecvFits (decode : List UInt8 → Nat × UInt32 × UInt16) (fuel : Nat) :
    List UInt8 → List (List UInt8) → Prop
  | _, [] => True
  | buf, c :: cs => buf.length + c.length ≤ recvBufferSize ∧
      match handleClientData decode fuel (buf ++ c) with
      | some r => RecvFits decode fuel r.2 cs
      | none => True

instance RecvFits.instDecidable (decode : List UInt8 → Nat × UInt32 × UInt16) (fuel : Nat) :
    ∀ buf chunks, Decidable (RecvFits decode fuel buf chunks)
  | _, [] => isTrue trivial
  | buf, c :: cs =>
    match h : handleClientData decode fuel (buf ++ c) with
    | some r =>
      have := RecvFits.instDecidable decode fuel r.2 cs
      decidable_of_iff (buf.length + c.length ≤ recvBufferSize ∧ RecvFits decode fuel r.2 cs)
        (by simp [RecvFits, h])
    | none => decidable_of_iff (buf.length + c.length ≤ recvBufferSize) (by simp [RecvFits, h])

theorem recvLoop_cons_eq_some {fuel : Nat} {buf c : List UInt8} {cs : List (List UInt8)}
    {r : List Dispatch × List UInt8} (h : recvLoop decode fuel buf (c :: cs) = some r) :
    ∃ ds b r', handleClientData decode fuel (buf ++ c) = some (ds, b) ∧
      recvLoop decode fuel b cs = some r' ∧ r = (ds ++ r'.1, r'.2) := by
  simp only [recvLoop] at h
  rcases hc : handleClientData decode fuel (buf ++ c) with _ | ⟨ds, b⟩
  · rw [hc] at h; cases h
  · rw [hc] at h
    obtain ⟨r', hr', rfl⟩ := Option.map_eq_some'.mp h
    exact ⟨ds, b, r', rfl, hr', rfl⟩

theorem recvLoop_mono {fuel fuel' : Nat} (hle : fuel ≤ fuel') (chunks : List (List UInt8)) :
    ∀ {buf : List UInt8} {r : List Dispatch × List UInt8}, recvLoop decode fuel buf chunks = some r →
      recvLoop decode fuel' buf chunks = some r := by
  induction chunks with
  | nil => exact id
  | cons c cs ih =>
    intro buf r h
    obtain ⟨ds, b, r', hc, hr', rfl⟩ := recvLoop_cons_eq_some h
    simp only [recvLoop, handleClientData_mono hc hle, ih hr', Option.map_some']

theorem recvLoop_append_single (fuel : Nat) (c : List UInt8) (cs : List (List UInt8)) :
    ∀ {buf : List UInt8} {ds : List Dispatch} {b : List UInt8}, recvLoop decode fuel buf cs = some (ds, b) →
      recvLoop decode fuel buf (cs ++ [c]) =
        (handleClientData decode fuel (b ++ c)).map fun r => (ds ++ r.1, r.2) := by
  induction cs with
  | nil =>
    intro buf ds b h
    cases h
    simp only [List.nil_append, recvLoop]
    rcases handleClientData decode fuel (buf ++ c) with _ | ⟨ds', b'⟩ <;> simp
  | cons c₀ cs ih =>
    intro buf ds b h
    obtain ⟨ds₀, b₀, ⟨ds₁, b₁⟩, hc, h₁, he⟩ := recvLoop_cons_eq_some h
    cases he
    rw [List.cons_append, recvLoop, hc]
    simp only [ih h₁, Option.map_map, Function.comp_def, List.append_assoc]

theorem RecvFits.append_single {fuel : Nat} {c : List UInt8} (cs : List (List UInt8)) :
    ∀ {buf : List UInt8} {r : List Dispatch × List UInt8}, recvLoop decode fuel buf cs = some r →
      RecvFits decode fuel buf cs → r.2.length + c.length ≤ recvBufferSize →
      RecvFits decode fuel buf (cs ++ [c]) := by
  induction cs with
  | nil =>
    intro buf r h _ hle
    cases h
    refine ⟨hle, ?_⟩
    split <;> trivial
  | cons c₀ cs ih =>
    intro buf r h ⟨hle₀, hrest⟩ hle
    obtain ⟨ds₀, b₀, r', hc, h₁, rfl⟩ := recvLoop_cons_eq_some h
    rw [hc] at hrest
    refine ⟨hle₀, ?_⟩
    rw [hc]
    exact ih h₁ hrest hle

theorem RecvFits.mono {fuel fuel' : Nat} (hle : fuel ≤ fuel') (chunks : List (List UInt8)) :
    ∀ {buf : List UInt8} {r : List Dispatch × List UInt8}, recvLoop decode fuel buf chunks = some r →
      RecvFits decode fuel buf chunks → RecvFits decode fuel' buf chunks := by
  induction chunks with
  | nil => intros; trivial
  | cons c cs ih =>
    intro buf r h ⟨hle₀, hrest⟩
    obtain ⟨ds₀, b₀, r', hc, h₁, rfl⟩ := recvLoop_cons_eq_some h
    rw [hc] at hrest
    refine ⟨hle₀, ?_⟩
    rw [handleClientData_mono hc hle]
    exact ih h₁ hrest

theorem recvLoop_frames {fuel : Nat} (hfuel : recvBufferSize < fuel)
    (chunks : List (List UInt8)) :
    ∀ {buf : List UInt8} {fs : List Frame}, (∀ F ∈ fs, FrameOk decode F) → Pending buf fs →
      buf ++ chunks.flatten <+: (fs.map Frame.bytes).flatten → RecvFits decode fuel buf chunks →
      ∃ m ds buf', recvLoop decode fuel buf chunks = some (ds, buf') ∧
        ds.map Dispatch.msg = (fs.take m).map Frame.msg ∧
        buf ++ chunks.flatten = ((fs.take m).map Frame.bytes).flatten ++ buf' ∧
        Pending buf' (fs.drop m) := by
  induction chunks with
  | nil => intro buf fs _ hp _ _; exact ⟨0, [], buf, rfl, rfl, by simp, hp⟩
  | cons c cs ih =>
    intro buf fs hfs _ hpre hfit
    obtain ⟨hle, hrest⟩ := hfit
    have hx : buf ++ c <+: (fs.map Frame.bytes).flatten :=
      (List.prefix_append _ _).trans (by simpa using hpre)
    obtain ⟨m₁, ds₁, r₁, hrun₁, hds₁, hsplit₁, hpend₁⟩ :=
      handleClientData_frames hfs hx (show (buf ++ c).length < fuel by
        rw [List.length_append]; omega)
    have hpre' : r₁ ++ cs.flatten <+: ((fs.drop m₁).map Frame.bytes).flatten := by
      rw [← List.prefix_append_right_inj ((fs.take m₁).map Frame.bytes).flatten,
        ← List.append_assoc, ← hsplit₁, ← List.flatten_append, ← List.map_append,
        List.take_append_drop]
      simpa using hpre
    obtain ⟨m₂, ds₂, r₂, hrun₂, hds₂, hsplit₂, hpend₂⟩ :=
      ih (fun F hF => hfs F (List.mem_of_mem_drop hF)) hpend₁ hpre' (by rwa [hrun₁] at hrest)
    refine ⟨m₁ + m₂, ds₁ ++ ds₂, r₂, ?_, ?_, ?_, ?_⟩
    · simp [recvLoop, hrun₁, hrun₂]
    · simp [hds₁, hds₂, List.take_add]
    · simp only [List.flatten_cons, ← List.append_assoc, List.take_add, List.map_append,
        List.flatten_append]
      rw [hsplit₁, List.append_assoc, hsplit₂, List.append_assoc]
    · simpa [List.drop_drop] using hpend₂

theorem RecvFits.take {fuel : Nat} (k : Nat) {chunks : List (List UInt8)} :
    ∀ {buf : List UInt8}, RecvFits decode fuel buf chunks →
      RecvFits decode fuel buf (chunks.take k) := by
  induction chunks generalizing k with
  | nil => simp [RecvFits]
  | cons c cs ih =>
    intro buf h
    cases k with
    | zero => trivial
    | succ k =>
      obtain ⟨h1, h2⟩ := h
      refine ⟨h1, ?_⟩
      cases hr : handleClientData decode fuel (buf ++ c) with
      | none => simp only [hr]
      | some r => simp only [hr] at h2 ⊢; exact ih k h2

theorem Pending.nil {fs : List Frame} (hfs : ∀ F ∈ fs, FrameOk decode F) : Pending [] fs := by
  cases fs with
  | nil => rfl
  | cons F _ => exact ⟨List.nil_prefix, (hfs F (List.mem_cons_self _ _)).bytes_pos⟩

theorem Pending.eq_nil_of_split {fs : List Frame} {m : Nat} {buf : List UInt8}
    (hsplit : ((fs.take m).map Frame.bytes).flatten ++ buf = (fs.map Frame.bytes).flatten)
    (hp : Pending buf (fs.drop m)) : buf = [] ∧ fs.length ≤ m := by
  have hall : (fs.map Frame.bytes).flatten =
      ((fs.take m).map Frame.bytes).flatten ++ ((fs.drop m).map Frame.bytes).flatten := by
    rw [← List.flatten_append, ← List.map_append, List.take_append_drop]
  have hbuf : buf = ((fs.drop m).map Frame.bytes).flatten :=
    List.append_cancel_left (hsplit.trans hall)
  cases hd : fs.drop m with
  | nil => exact ⟨by simpa [hd] using hp, List.drop_eq_nil_iff.mp hd⟩
  | cons F rest =>
    rw [hd] at hp hbuf
    have := hp.2
    simp [hbuf] at this

/-- Reassembly: however a stream of frames is cut into `recv` chunks that fit the buffer,
the frames reach `dispatch_message` once each and in order. After every chunk the buffer
holds exactly the bytes received and not yet dispatched, a proper prefix of the next
frame; after the last chunk it is empty. -/
theorem recvLoop_reassembles (frames : List Frame) (hframes : ∀ F ∈ frames, FrameOk decode F)
    (chunks : List (List UInt8)) (hstream : chunks.flatten = (frames.map Frame.bytes).flatten)
    {fuel : Nat} (hfuel : recvBufferSize < fuel) (hfits : RecvFits decode fuel [] chunks) :
    (∀ k, ∃ m ds buf, recvLoop decode fuel [] (chunks.take k) = some (ds, buf) ∧
        ds.map Dispatch.msg = (frames.take m).map Frame.msg ∧
        ((frames.take m).map Frame.bytes).flatten ++ buf = (chunks.take k).flatten ∧
        Pending buf (frames.drop m)) ∧
    ∃ ds, recvLoop decode fuel [] chunks = some (ds, []) ∧
      ds.map Dispatch.msg = frames.map Frame.msg := by
  have hk : ∀ k, ∃ m ds buf, recvLoop decode fuel [] (chunks.take k) = some (ds, buf) ∧
      ds.map Dispatch.msg = (frames.take m).map Frame.msg ∧
      ((frames.take m).map Frame.bytes).flatten ++ buf = (chunks.take k).flatten ∧
      Pending buf (frames.drop m) := by
    intro k
    have hpre : [] ++ (chunks.take k).flatten <+: (frames.map Frame.bytes).flatten :=
      ⟨(chunks.drop k).flatten, by rw [List.nil_append, ← List.flatten_append,
        List.take_append_drop, hstream]⟩
    obtain ⟨m, ds, buf, hrun, hds, hsplit, hp⟩ :=
      recvLoop_frames hfuel (chunks.take k) hframes (Pending.nil hframes) hpre (hfits.take k)
    exact ⟨m, ds, buf, hrun, hds, by simpa using hsplit.symm, hp⟩
  refine ⟨hk, ?_⟩
  obtain ⟨m, ds, buf, hrun, hds, hsplit, hp⟩ := hk chunks.length
  rw [List.take_length] at hrun hsplit
  obtain ⟨rfl, hm⟩ := Pending.eq_nil_of_split (hsplit.trans hstream) hp
  exact ⟨ds, hrun, by rw [hds, List.take_of_length_le hm]⟩

/-- A hello and a ping, cut so that the first chunk ends inside the hello's header and a
later one straddles the two frames. -/
theorem recvLoop_reassembles_hello_ping :
    let frames := [specFrame esphomeMsgHelloRequest [0x0A, 0x01, 0x61],
      specFrame esphomeMsgPingRequest []]
    let chunks : List (List UInt8) := [[0x00], [0x04, 0x01, 0x0A], [0x01, 0x61, 0x00, 0x01], [0x07]]
    (∀ F ∈ frames, FrameOk esphomeDecodeFrameHeader F) ∧
    chunks.flatten = (frames.map Frame.bytes).flatten ∧ recvBufferSize < 4097 ∧
    RecvFits esphomeDecodeFrameHeader 4097 [] chunks ∧
    ((∀ k, ∃ m ds buf, recvLoop esphomeDecodeFrameHeader 4097 [] (chunks.take k) = some (ds, buf) ∧
        ds.map Dispatch.msg = (frames.take m).map Frame.msg ∧
        ((frames.take m).map Frame.bytes).flatten ++ buf = (chunks.take k).flatten ∧
        Pending buf (frames.drop m)) ∧
      ∃ ds, recvLoop esphomeDecodeFrameHeader 4097 [] chunks = some (ds, []) ∧
        ds.map Dispatch.msg = frames.map Frame.msg) := by
  intro frames chunks
  have hframes : ∀ F ∈ frames, FrameOk esphomeDecodeFrameHeader F := by
    intro F hF
    simp only [frames, List.mem_cons, List.mem_singleton, List.not_mem_nil, or_false] at hF
    rcases hF with rfl | rfl <;> exact specFrame_ok _ _ (by decide)
  have hstream : chunks.flatten = (frames.map Frame.bytes).flatten := by decide
  have hfits : RecvFits esphomeDecodeFrameHeader 4097 [] chunks := by decide
  exact ⟨hframes, hstream, by decide, hfits,
    recvLoop_reassembles frames hframes chunks hstream (by decide) hfits⟩

end EsphomeProxy
