import Mathlib.Tactic.Ring
import EsphomeProxy.Proto

/-! Varints and the frame header of the absent `esphome_proto.c`, after the spec's frame layout. -/

namespace EsphomeProxy

/-- Modelled from the spec: `pb_encode_varint` of the missing `esphome_proto.c`.
Little-endian base-128 groups, the continuation bit set on every group but the last;
ten groups hold any 64-bit value. -/
def pbEncodeVarint (value : UInt64) : List UInt8 := go 10 value.toNat
where
  go : Nat → Nat → List UInt8
    | 0, _ => []
    | n + 1, v => if v < 128 then [v.toUInt8] else (v % 128 + 128).toUInt8 :: go n (v / 128)

/-- Modelled from the spec: `pb_decode_varint` of the missing `esphome_proto.c`. The value
and the number of bytes read; `none` when the input ends before a last group, or when the
value would need more than ten groups. -/
def pbDecodeVarint (buf : List UInt8) : Option (UInt64 × Nat) := go 10 0 0 buf
where
  go : Nat → Nat → Nat → List UInt8 → Option (UInt64 × Nat)
    | 0, _, _, _ => none
    | _ + 1, _, _, [] => none
    | n + 1, shift, acc, b :: bs =>
      if b.toNat < 128 then some (UInt64.ofNat (acc + b.toNat * 2 ^ shift), 1)
      else (go n (shift + 7) (acc + (b.toNat % 128) * 2 ^ shift) bs).map fun r => (r.1, r.2 + 1)

/-- Modelled from the spec: the header `esphome_frame_message` writes before the payload,
a zero preamble, the length of the type varint and payload, and the type varint. -/
def frameHeader (msgType : UInt16) (payloadLen : Nat) : List UInt8 :=
  let ty := pbEncodeVarint msgType.toUInt64
  0 :: pbEncodeVarint (UInt64.ofNat (ty.length + payloadLen)) ++ ty

/-- Modelled from the spec: `esphome_frame_message` of the missing `esphome_proto.c`.
No bytes (the `0` the callers test) when the frame does not fit `out_size`. -/
def esphomeFrameMessage (outSize : Nat) (msgType : UInt16) (payload : List UInt8) :
    List UInt8 :=
  let frame := frameHeader msgType payload.length ++ payload
  if frame.length ≤ outSize then frame else []

/-- Modelled from the spec: `esphome_decode_frame_header` of the missing
`esphome_proto.c`. The header length, the length of the body (the declared length less
the type varint) and the type; header length `0` while the header is incomplete or when
it is malformed. -/
def esphomeDecodeFrameHeader (buf : List UInt8) : Nat × UInt32 × UInt16 :=
  match buf with
  | 0 :: rest =>
    match pbDecodeVarint rest with
    | none => (0, 0, 0)
    | some (len, n) =>
      match pbDecodeVarint (rest.drop n) with
      | none => (0, 0, 0)
      | some (ty, k) =>
        if k ≤ len.toNat then (1 + n + k, UInt32.ofNat (len.toNat - k), UInt16.ofNat ty.toNat)
        else (0, 0, 0)
  | _ => (0, 0, 0)

theorem pbDecodeVarint_go_encode (rest : List UInt8) :
    ∀ (n shift acc v : Nat), v < 128 ^ (n + 1) →
      pbDecodeVarint.go (n + 1) shift acc (pbEncodeVarint.go (n + 1) v ++ rest) =
        some (UInt64.ofNat (acc + v * 2 ^ shift), (pbEncodeVarint.go (n + 1) v).length)
  | n, shift, acc, v, h => by
    by_cases hv : v < 128
    · have hb : v.toUInt8.toNat = v := UInt8.toNat_ofNat_of_lt (by simp [UInt8.size]; omega)
      simp [pbEncodeVarint.go, pbDecodeVarint.go, hv, hb]
    · cases n with
      | zero => simp at h; omega
      | succ n =>
        have hb : (v % 128 + 128).toUInt8.toNat = v % 128 + 128 :=
          UInt8.toNat_ofNat_of_lt (by simp [UInt8.size]; omega)
        have hlt : v / 128 < 128 ^ (n + 1) :=
          (Nat.div_lt_iff_lt_mul (by norm_num)).mpr (by rwa [← Nat.pow_succ])
        have hsum : acc + v % 128 * 2 ^ shift + v / 128 * 2 ^ (shift + 7) =
            acc + v * 2 ^ shift := by
          have hv' : v * 2 ^ shift = (v % 128 + 128 * (v / 128)) * 2 ^ shift := by
            rw [Nat.mod_add_div]
          rw [hv', Nat.pow_add]; ring
        rw [pbEncodeVarint.go, if_neg hv, List.cons_append, pbDecodeVarint.go, hb,
          if_neg (by omega), Nat.add_mod_right, Nat.mod_mod,
          pbDecodeVarint_go_encode rest n (shift + 7) _ _ hlt, hsum]
        rfl

theorem pbDecodeVarint_encode (v : UInt64) (rest : List UInt8) :
    pbDecodeVarint (pbEncodeVarint v ++ rest) = some (v, (pbEncodeVarint v).length) := by
  have h := pbDecodeVarint_go_encode rest 9 0 0 v.toNat
    (lt_of_lt_of_le v.toNat_lt_size (by decide))
  have hv : UInt64.ofNat v.toNat = v := UInt64.toNat.inj (UInt64.toNat_ofNat_of_lt v.toNat_lt_size)
  simpa [pbDecodeVarint, pbEncodeVarint, hv] using h

theorem pbDecodeVarint_go_prefix_none :
    ∀ (n shift acc v : Nat) (q : List UInt8), q <+: pbEncodeVarint.go n v →
      q.length < (pbEncodeVarint.go n v).length → pbDecodeVarint.go n shift acc q = none
  | 0, _, _, _, _, _, _ => rfl
  | n + 1, shift, acc, v, q, hq, hlt => by
    by_cases hv : v < 128
    · simp only [pbEncodeVarint.go, if_pos hv, List.length_singleton] at hlt
      rw [List.length_eq_zero.mp (show q.length = 0 by omega)]; rfl
    · simp only [pbEncodeVarint.go, if_neg hv] at hq hlt
      cases q with
      | nil => rfl
      | cons c q =>
        obtain ⟨rfl, hq'⟩ := List.cons_prefix_cons.mp hq
        have hb : (v % 128 + 128).toUInt8.toNat = v % 128 + 128 :=
          UInt8.toNat_ofNat_of_lt (by simp [UInt8.size]; omega)
        simp only [List.length_cons, Nat.add_lt_add_iff_right] at hlt
        rw [pbDecodeVarint.go, hb, if_neg (by omega),
          pbDecodeVarint_go_prefix_none n _ _ _ q hq' hlt, Option.map_none']

theorem pbDecodeVarint_prefix_none {v : UInt64} {q : List UInt8} (hq : q <+: pbEncodeVarint v)
    (hlt : q.length < (pbEncodeVarint v).length) : pbDecodeVarint q = none :=
  pbDecodeVarint_go_prefix_none 10 0 0 _ q hq hlt

theorem pbEncodeVarint_length_le (v : UInt64) : (pbEncodeVarint v).length ≤ 10 := by
  suffices h : ∀ n w, (pbEncodeVarint.go n w).length ≤ n from h 10 _
  intro n
  induction n with
  | zero => intro w; rfl
  | succ n ih => intro w; unfold pbEncodeVarint.go; split <;> simp [ih]

theorem esphomeDecodeFrameHeader_frameHeader (t : UInt16) {n : Nat} (hn : n < 2 ^ 32)
    (rest : List UInt8) :
    esphomeDecodeFrameHeader (frameHeader t n ++ rest) =
      ((frameHeader t n).length, UInt32.ofNat n, t) := by
  set ty := pbEncodeVarint t.toUInt64
  set len := pbEncodeVarint (UInt64.ofNat (ty.length + n))
  have hty : ty.length ≤ 10 := pbEncodeVarint_length_le _
  have hL : (UInt64.ofNat (ty.length + n)).toNat = ty.length + n :=
    UInt64.toNat_ofNat_of_lt (by simp [UInt64.size]; omega)
  have ht : UInt16.ofNat t.toUInt64.toNat = t :=
    UInt16.toNat.inj (UInt16.toNat_ofNat_of_lt t.toNat_lt_size)
  have h1 : pbDecodeVarint (len ++ (ty ++ rest)) = some (UInt64.ofNat (ty.length + n), len.length) :=
    pbDecodeVarint_encode _ _
  have h2 : pbDecodeVarint ((len ++ (ty ++ rest)).drop len.length) = some (t.toUInt64, ty.length) := by
    rw [List.drop_left]; exact pbDecodeVarint_encode _ _
  have hfh : frameHeader t n ++ rest = 0 :: (len ++ (ty ++ rest)) := by
    simp [frameHeader, ty, len]
  rw [hfh, esphomeDecodeFrameHeader]
  simp only [h1, h2, hL, ht, Nat.le_add_right, if_true, Nat.add_sub_cancel_left]
  simp [frameHeader, ty, len]
  omega

theorem esphomeDecodeFrameHeader_prefix_zero (t : UInt16) (n : Nat) {q : List UInt8}
    (hq : q <+: frameHeader t n) (hlt : q.length < (frameHeader t n).length) :
    (esphomeDecodeFrameHeader q).1 = 0 := by
  set ty := pbEncodeVarint t.toUInt64
  set len := pbEncodeVarint (UInt64.ofNat (ty.length + n))
  have hfh : frameHeader t n = 0 :: (len ++ ty) := rfl
  rw [hfh] at hq hlt
  cases q with
  | nil => rfl
  | cons c q =>
    obtain ⟨rfl, hq₁⟩ := List.cons_prefix_cons.mp hq
    simp only [List.length_cons, List.length_append, Nat.add_lt_add_iff_right] at hlt
    by_cases hshort : q.length < len.length
    · have hq' := List.prefix_of_prefix_length_le hq₁ (List.prefix_append _ _) hshort.le
      simp [esphomeDecodeFrameHeader, pbDecodeVarint_prefix_none hq' hshort]
    · obtain ⟨q', rfl⟩ :=
        List.prefix_of_prefix_length_le (List.prefix_append _ _) hq₁ (Nat.le_of_not_lt hshort)
      have hq' := (List.prefix_append_right_inj _).mp hq₁
      rw [List.length_append] at hlt
      have hnone : pbDecodeVarint q' = none :=
        pbDecodeVarint_prefix_none hq' (by show q'.length < ty.length; omega)
      simp [esphomeDecodeFrameHeader, len, pbDecodeVarint_encode, hnone]

/-- The codec of this module as a `Proto`. The spec fixes no encoding of the message bodies:
here the body encoders report failure and the subscription decoder accepts every payload. -/
def specProto : Proto where
  encodeHelloResponse _ _ := []
  encodeConnectResponse _ _ := []
  encodeDeviceInfoResponse _ _ := []
  encodeBleAdvertisements _ _ := []
  decodeSubscribeBleAdvertisements _ := some ⟨0⟩
  frameMessage := esphomeFrameMessage
  decodeFrameHeader := esphomeDecodeFrameHeader

end EsphomeProxy
