import Mathlib.Algebra.BigOperators.Fin
import Mathlib.Tactic.FinCases
import EsphomeProxy.Dispatch

/-! Advertisements on their way into the batch, and the flush timer's clock arithmetic. -/

namespace EsphomeProxy

/-- `esphome_ble_advert_t`, as the scanner hands it over. -/
structure BleAdvert where
  address : Fin 6 → UInt8
  addressType : UInt8
  rssi : Int8
  data : Fin 62 → UInt8
  dataLen : Nat

/-- `mac_to_uint64`: ORs `mac[i] << ((5 - i) * 8)` into the result for `i` from 0 to 5. -/
def macToUint64 (mac : Fin 6 → UInt8) : UInt64 :=
  (List.finRange 6).foldl
    (fun result i => result ||| (mac i).toUInt64 <<< ((5 - i.val) * 8).toUInt64) 0

theorem macToUint64_step (r : UInt64) (b : UInt8) (n H : Nat) (hn : n + 8 ≤ 64)
    (hr : r.toNat = 2 ^ (n + 8) * H) :
    (r ||| b.toUInt64 <<< n.toUInt64).toNat = 2 ^ n * (2 ^ 8 * H + b.toNat) := by
  have hlt : b.toNat * 2 ^ n < 2 ^ (n + 8) := by
    rw [pow_add, mul_comm (2 ^ n)]
    exact Nat.mul_lt_mul_of_pos_right b.toNat_lt_size (Nat.two_pow_pos n)
  have h64 : 2 ^ (n + 8) ≤ 2 ^ 64 := Nat.pow_le_pow_right (by decide) hn
  have hsh : (b.toUInt64 <<< n.toUInt64).toNat = b.toNat * 2 ^ n := by
    show (b.toNat <<< (n % 2 ^ 64 % 64)) % 2 ^ 64 = _
    rw [Nat.mod_mod_of_dvd n (by decide : 64 ∣ 2 ^ 64), Nat.mod_eq_of_lt (by omega : n < 64),
      Nat.shiftLeft_eq, Nat.mod_eq_of_lt (by omega)]
  show r.toNat ||| (b.toUInt64 <<< n.toUInt64).toNat = _
  rw [hsh, hr, ← Nat.mul_add_lt_is_or hlt]
  ring

theorem macToUint64_toNat_digits (mac : Fin 6 → UInt8) :
    (macToUint64 mac).toNat = 2 ^ 8 * (2 ^ 8 * (2 ^ 8 * (2 ^ 8 * (2 ^ 8 * (mac 0).toNat +
      (mac 1).toNat) + (mac 2).toNat) + (mac 3).toNat) + (mac 4).toNat) + (mac 5).toNat := by
  have h₀ : (0 : UInt64).toNat = 2 ^ (40 + 8) * 0 := rfl
  rw [show (macToUint64 mac).toNat = _ from macToUint64_step _ (mac 5) 0 _ (by decide)
    (macToUint64_step _ (mac 4) 8 _ (by decide) (macToUint64_step _ (mac 3) 16 _ (by decide)
    (macToUint64_step _ (mac 2) 24 _ (by decide) (macToUint64_step _ (mac 1) 32 _ (by decide)
    (macToUint64_step _ (mac 0) 40 _ (by decide) h₀)))))]
  simp only [Nat.pow_zero, Nat.one_mul, Nat.mul_zero, Nat.zero_add]

theorem macToUint64_toNat (mac : Fin 6 → UInt8) :
    (macToUint64 mac).toNat = ∑ i : Fin 6, (mac i).toNat * 2 ^ (8 * (5 - i.val)) := by
  rw [macToUint64_toNat_digits, Fin.sum_univ_six]
  show _ = (mac 0).toNat * 2 ^ 40 + (mac 1).toNat * 2 ^ 32 + (mac 2).toNat * 2 ^ 24 +
    (mac 3).toNat * 2 ^ 16 + (mac 4).toNat * 2 ^ 8 + (mac 5).toNat * 2 ^ 0
  ring

theorem macToUint64_lt (mac : Fin 6 → UInt8) : (macToUint64 mac).toNat < 2 ^ 48 := by
  have h := fun i => (mac i).toNat_lt_size
  have := h 0; have := h 1; have := h 2; have := h 3; have := h 4; have := h 5
  rw [macToUint64_toNat_digits]
  simp only [UInt8.size] at *
  omega

theorem byte_digit_eq {x y a b : Nat} (ha : a < 2 ^ 8) (hb : b < 2 ^ 8)
    (h : 2 ^ 8 * x + a = 2 ^ 8 * y + b) : x = y ∧ a = b := by
  omega

theorem macToUint64_injective : Function.Injective macToUint64 := by
  intro a b hab
  have h := congrArg UInt64.toNat hab
  rw [macToUint64_toNat_digits, macToUint64_toNat_digits] at h
  obtain ⟨h, e₅⟩ := byte_digit_eq (a 5).toNat_lt_size (b 5).toNat_lt_size h
  obtain ⟨h, e₄⟩ := byte_digit_eq (a 4).toNat_lt_size (b 4).toNat_lt_size h
  obtain ⟨h, e₃⟩ := byte_digit_eq (a 3).toNat_lt_size (b 3).toNat_lt_size h
  obtain ⟨h, e₂⟩ := byte_digit_eq (a 2).toNat_lt_size (b 2).toNat_lt_size h
  obtain ⟨e₀, e₁⟩ := byte_digit_eq (a 1).toNat_lt_size (b 1).toNat_lt_size h
  funext i
  apply UInt8.toNat.inj
  fin_cases i <;> assumption

/-- The entry `esphome_api_queue_ble_advert` writes at `advertisements[count]`: at most
`sizeof(pb_adv->data)` bytes of the payload are copied. -/
def toBleAdvertisement (advert : BleAdvert) : BleAdvertisement where
  address := macToUint64 advert.address
  rssi := advert.rssi.toInt
  addressType := advert.addressType.toUInt32
  data := (List.ofFn advert.data).take (min advert.dataLen esphomeMaxAdvData)

theorem toBleAdvertisement_fields (a : BleAdvert) :
    (toBleAdvertisement a).address = macToUint64 a.address ∧
      (toBleAdvertisement a).rssi = a.rssi.toInt ∧
      (toBleAdvertisement a).addressType = a.addressType.toUInt32 ∧
      (toBleAdvertisement a).data = (List.ofFn a.data).take (min a.dataLen esphomeMaxAdvData) ∧
      (toBleAdvertisement a).data.length = min a.dataLen esphomeMaxAdvData :=
  ⟨rfl, rfl, rfl, rfl, by simp [toBleAdvertisement, esphomeMaxAdvData]⟩

def batchFlushIntervalMs : Nat := 100

/-- `struct timespec`. -/
structure Timespec where
  tvSec : Int
  tvNsec : Int
  deriving DecidableEq, Repr

/-- A reading of `CLOCK_MONOTONIC` taken `ns` nanoseconds after its origin. -/
def Timespec.ofNs (ns : Nat) : Timespec := ⟨ns / 1000000000, ns % 1000000000⟩

/-- `elapsed_ms` of `flush_thread_func`: signed 64-bit arithmetic, the nanosecond
difference divided with truncation toward zero, the result stored in a `uint64_t`. -/
def elapsedMs (now last : Timespec) : UInt64 :=
  UInt64.ofNat ((((now.tvSec - last.tvSec) * 1000 +
    (now.tvNsec - last.tvNsec).tdiv 1000000) % 2 ^ 64).toNat)

theorem elapsedMs_ofNs {now last : Nat} (h : last ≤ now) :
    (elapsedMs (.ofNs now) (.ofNs last)).toNat =
      (if last % 1000000000 ≤ now % 1000000000 then (now - last) / 1000000
        else (now - last + 999999) / 1000000) % 2 ^ 64 := by
  have tdiv_neg : ∀ d : Int, d < 0 → d.tdiv 1000000 = -((-d) / 1000000) := fun d hd => by
    rw [← Int.tdiv_eq_ediv (by omega) (by omega), Int.neg_tdiv, Int.neg_neg]
  unfold elapsedMs Timespec.ofNs
  simp only [UInt64.toNat, UInt64.ofNat, BitVec.toNat_ofNat]
  split_ifs
  · rw [Int.tdiv_eq_ediv (by omega) (by omega)]
    omega
  · rw [tdiv_neg _ (by omega)]
    omega

theorem elapsedMs_due_iff {now last : Nat} (h : last ≤ now) (hlt : now - last < 2 ^ 64) :
    batchFlushIntervalMs ≤ (elapsedMs (.ofNs now) (.ofNs last)).toNat ↔
      batchFlushIntervalMs * 1000000 ≤ now - last ∨
        now % 1000000000 < last % 1000000000 ∧
          (batchFlushIntervalMs - 1) * 1000000 < now - last := by
  rw [elapsedMs_ofNs h, batchFlushIntervalMs]
  split_ifs <;> omega

end EsphomeProxy
