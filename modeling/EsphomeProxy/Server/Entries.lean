import EsphomeProxy.Server.Queue

/-! What the batch holds, with any number of producer threads. -/

namespace EsphomeProxy

/-- The entries of the batch, and the advertisements producers hold, come from calls. -/
structure Entries (s : State) : Prop where
  batch : ∀ e ∈ s.batch, ∃ a ∈ s.calls, e = toBleAdvertisement a
  inFlight : ∀ t, ∀ a ∈ (s.threads t).inFlight, a ∈ s.calls

section
variable {S : Setup} {s s' : State} {t : Nat} {pc : Pc}

theorem Entries.update (he : Entries s) (hthr : s'.threads = s.threads)
    (hcalls : ∀ a ∈ s.calls, a ∈ s'.calls)
    (hbatch : ∀ e ∈ s'.batch, e ∈ s.batch ∨ ∃ a ∈ (s.threads t).inFlight, e = toBleAdvertisement a)
    (hpc : ∀ a ∈ pc.inFlight, a ∈ (s.threads t).inFlight ∨ a ∈ s'.calls) :
    Entries (s'.setPc t pc) where
  batch e h := by
    rcases hbatch e h with h | ⟨a, ha, rfl⟩
    · obtain ⟨a, ha, rfl⟩ := he.batch e h
      exact ⟨a, hcalls a ha, rfl⟩
    · exact ⟨a, hcalls a (he.inFlight t a ha), rfl⟩
  inFlight u a h := by
    rw [State.threads_setPc, Function.update_apply, hthr] at h
    split_ifs at h with hu
    · rcases hpc a h with h | h
      · exact hcalls a (he.inFlight t a h)
      · exact h
    · exact hcalls a (he.inFlight u a h)

theorem Entries.setPc (he : Entries s) (hthr : s'.threads = s.threads) (hb : s'.batch = s.batch)
    (hc : s'.calls = s.calls) (hpc : pc.inFlight = []) : Entries (s'.setPc t pc) :=
  he.update hthr (fun _ h => hc ▸ h) (fun _ h => .inl (hb ▸ h))
    fun _ h => absurd (hpc ▸ h) (List.not_mem_nil _)

theorem Entries.producerStep (he : Entries s) {pc pc' : ProducerPc}
    (ht : s.threads t = .producer pc) (hs : ProducerStep t pc s pc' s') :
    Entries (s'.setPc t (.producer pc')) := by
  cases hs
  case call a =>
    exact he.update rfl (fun _ h => List.mem_append_left _ h) (fun _ h => .inl h)
      fun _ h => .inr (List.mem_append_right _ h)
  case write a _ =>
    refine he.update rfl (fun _ h => h) (fun e h => (List.mem_append.mp h).imp id fun h => ?_)
      fun _ h => absurd h (List.not_mem_nil _)
    exact ⟨a, by rw [ht]; exact List.mem_singleton_self a, List.mem_singleton.mp h⟩
  all_goals exact he.update rfl (fun _ h => h) (fun _ h => .inl h) fun _ h => .inl (by rw [ht]; exact h)

theorem Entries.listenerStep (he : Entries s) {pc pc' : ListenerPc} (hs : ListenerStep pc s pc' s') :
    Entries (s'.setPc listenerTid (.listener pc')) := by
  have spawn : ∀ h pc i, pc.inFlight = [] → Entries (s.spawn h pc i) := fun h pc _ hpc =>
    have h₁ : Entries ({ s with nextTid := max s.nextTid (h + 1) }.setPc h pc) := he.setPc rfl rfl rfl hpc
    ⟨h₁.batch, h₁.inFlight⟩
  cases hs
  case created i conn h _ => exact (spawn h (.client i conn .loop) i rfl).setPc rfl rfl rfl rfl
  case createFailed i conn h _ => exact (spawn h .failed i rfl).setPc rfl rfl rfl rfl
  all_goals exact he.setPc rfl rfl rfl rfl

theorem Entries.flushStep (he : Entries s) {f : FlushPc} {f' : Option FlushPc}
    (ht : (s.threads t).flushPc = some f) (hs : FlushStep S t f s f' s') :
    Entries (s'.setPc t ((s.threads t).afterFlush f')) := by
  have hpc : ∀ a ∈ ((s.threads t).afterFlush f').inFlight, a ∈ (s.threads t).inFlight ∨ a ∈ s'.calls :=
    fun _ h => .inl ((Pc.producerPc_afterFlush ht f').2 ▸ h)
  cases hs
  case dropped | finish =>
    exact he.update rfl (fun _ h => h) (fun _ h => absurd h (List.not_mem_nil _)) hpc
  all_goals exact he.update rfl (fun _ h => h) (fun _ h => .inl h) hpc

theorem Entries.step (he : Entries s) (h : Step S s s') : Entries s' := by
  cases h with
  | listener _ hs => exact he.listenerStep hs
  | flusher _ hs => cases hs <;> exact he.setPc rfl rfl rfl rfl
  | stopper _ hs => cases hs <;> exact he.setPc rfl rfl rfl rfl
  | producer ht hs => exact he.producerStep ht hs
  | client _ hs => cases hs <;> exact he.setPc rfl rfl rfl rfl
  | flush ht hs => exact he.flushStep ht hs
  | clock => exact ⟨he.batch, he.inFlight⟩

end

theorem Entries.init (nprod t0 : Nat) : Entries (State.init nprod t0) where
  batch _ h := absurd h (List.not_mem_nil _)
  inFlight t a h := by
    simp only [State.init] at h
    split_ifs at h <;> exact absurd h (List.not_mem_nil _)

theorem Entries.reachable {S : Setup} {nprod t0 : Nat} {s : State} (h : Reachable S nprod t0 s) :
    Entries s := by
  induction h with
  | refl => exact Entries.init nprod t0
  | tail _ hs ih => exact ih.step hs

/-- `mac_to_uint64` packs the six bytes big-endian, into a value below 2^48 that tells
distinct addresses apart; and every entry of the batch, with any number of producer threads,
is the conversion of an advertisement `esphome_api_queue_ble_advert` was called with, whose
address it carries packed so. -/
theorem queue_entries_carry_big_endian_address (S : Setup) (nprod t0 : Nat) (s : State)
    (h : Reachable S nprod t0 s) :
    (∀ mac : Fin 6 → UInt8,
      (macToUint64 mac).toNat = ∑ i : Fin 6, (mac i).toNat * 2 ^ (8 * (5 - i.val)) ∧
        (macToUint64 mac).toNat < 2 ^ 48) ∧
      Function.Injective macToUint64 ∧
      ∀ e ∈ s.batch, ∃ a ∈ s.calls, e = toBleAdvertisement a ∧
        e.address.toNat = ∑ i : Fin 6, (a.address i).toNat * 2 ^ (8 * (5 - i.val)) := by
  refine ⟨fun mac => ⟨macToUint64_toNat mac, macToUint64_lt mac⟩, macToUint64_injective,
    fun e he => ?_⟩
  obtain ⟨a, ha, rfl⟩ := (Entries.reachable h).batch e he
  exact ⟨a, ha, rfl, macToUint64_toNat a.address⟩

/-- A producer queues an advertisement from `AA:BB:CC:DD:EE:FF`. -/
theorem queue_entries_carry_big_endian_address_on_call :
    ∃ s, Reachable specSetup 1 0 s ∧ s.batch ≠ [] ∧
      (∀ mac : Fin 6 → UInt8,
        (macToUint64 mac).toNat = ∑ i : Fin 6, (mac i).toNat * 2 ^ (8 * (5 - i.val)) ∧
          (macToUint64 mac).toNat < 2 ^ 48) ∧
      Function.Injective macToUint64 ∧
      ∀ e ∈ s.batch, ∃ a ∈ s.calls, e = toBleAdvertisement a ∧
        e.address.toNat = ∑ i : Fin 6, (a.address i).toNat * 2 ^ (8 * (5 - i.val)) := by
  have h : Reachable specSetup 1 0 _ :=
    .tail (.tail (.tail .refl
      (.producer (show State.threads _ 4 = _ from rfl)
        (.call ⟨![0xAA, 0xBB, 0xCC, 0xDD, 0xEE, 0xFF], 0, 0, fun _ => 0, 0⟩)))
      (.producer (show State.threads _ 4 = _ from rfl) (.room (by rfl) (by decide))))
      (.producer (show State.threads _ 4 = _ from rfl) (.write (by decide)))
  exact ⟨_, h, List.cons_ne_nil _ _, queue_entries_carry_big_endian_address specSetup 1 0 _ h⟩

end EsphomeProxy
