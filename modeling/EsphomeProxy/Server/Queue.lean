import EsphomeProxy.Server.Locks

/-! The advertisement batch across whole runs, with one producer thread and with two. -/

namespace EsphomeProxy

/-- The advertisement a producer has been called with and not yet written. -/
def ProducerPc.inFlight : ProducerPc → List BleAdvert
  | .lock a | .flushFull _ a | .relock a | .write a | .overflow a => [a]
  | _ => []

def Pc.producerPc : Pc → Option ProducerPc
  | .producer p => some p
  | _ => none

def Pc.inFlight (pc : Pc) : List BleAdvert := pc.producerPc.elim [] ProducerPc.inFlight

/-- The encoded batch `flush_ble_batch` holds, once it has one. -/
def FlushPc.payload : FlushPc → Option (List UInt8)
  | .lockBatch => none
  | .lockClients p | .scan _ p | .lockSend _ p _ | .send _ p _ => some p

def Pc.payload (pc : Pc) : Option (List UInt8) := pc.flushPc.bind FlushPc.payload

/-- The batches `flush_ble_batch` removed, concatenated in removal order. -/
def State.flushed (s : State) : List BleAdvertisement := (s.removed.map Removal.batch).flatten

/-- A thread that takes no part in the batch: no producer, not past the first lock of
`flush_ble_batch`. -/
def Pc.Aside (pc : Pc) : Prop := pc.producerPc = none ∧ pc.payload = none

/-- The calls so far are the advertisements `queued`, whose entries are the removed batches
and then the pending one, followed by those in flight. -/
def State.Conserves (s : State) (inFlight : List BleAdvert) : Prop :=
  ∃ queued, s.calls = queued ++ inFlight ∧ s.flushed ++ s.batch = queued.map toBleAdvertisement

/-- The batch with one producer thread, `producerTid 0`. -/
structure Queue (S : Setup) (s : State) : Prop where
  producer : ∀ t, (s.threads t).producerPc ≠ none → t = producerTid 0
  conserve : s.Conserves (s.threads (producerTid 0)).inFlight
  removed : ∀ r ∈ s.removed, r.batch ≠ [] ∧ r.batch.length ≤ esphomeMaxAdvBatch
  batch_le : s.batch.length ≤ esphomeMaxAdvBatch
  relock : ∀ t a, (s.threads t).producerPc = some (.relock a) → s.batch = []
  write : ∀ t a, (s.threads t).producerPc = some (.write a) → s.batch.length < esphomeMaxAdvBatch
  payload : ∀ t p, (s.threads t).payload = some p →
    s.batch ≠ [] ∧ p = S.proto.encodeBleAdvertisements esphomeMaxMessageSize s.batch

@[simp] theorem State.flushed_setPc (s : State) (t : Nat) (pc : Pc) :
    (s.setPc t pc).flushed = s.flushed := rfl

@[simp] theorem State.flushed_append (s : State) (r : Removal) :
    { s with removed := s.removed ++ [r] }.flushed = s.flushed ++ r.batch := by
  simp [State.flushed]

@[simp] theorem State.conserves_setPc (s : State) (t : Nat) (pc : Pc) (l : List BleAdvert) :
    (s.setPc t pc).Conserves l ↔ s.Conserves l := Iff.rfl

theorem State.Conserves.congr {s s' : State} {l : List BleAdvert} (h : s.Conserves l)
    (hfb : s'.flushed ++ s'.batch = s.flushed ++ s.batch) (hc : s'.calls = s.calls) :
    s'.Conserves l :=
  let ⟨q, h₁, h₂⟩ := h
  ⟨q, hc.trans h₁, hfb.trans h₂⟩

theorem Pc.holds_batch_of_payload {pc : Pc} {p : List UInt8} (h : pc.payload = some p) :
    pc.holds .batch = true := by
  obtain ⟨f, hf, hp⟩ := Option.bind_eq_some.mp h
  rw [Pc.holds_of_flushPc hf]
  cases f <;> simp_all [FlushPc.payload, FlushPc.holds]

theorem Locks.payload_unique {s : State} (hl : Locks s) {t u : Nat} {p q : List UInt8}
    (ht : (s.threads t).payload = some p) (hu : (s.threads u).payload = some q) : t = u := by
  have h₁ := (hl.owner_iff .batch t).mpr (Pc.holds_batch_of_payload ht)
  have h₂ := (hl.owner_iff .batch u).mpr (Pc.holds_batch_of_payload hu)
  exact Option.some_injective _ (h₁.symm.trans h₂)

theorem Pc.flushPc_afterFlush {pc : Pc} {f : FlushPc} (h : pc.flushPc = some f)
    (f' : Option FlushPc) : (pc.afterFlush f').flushPc = f' := by
  unfold Pc.flushPc at h; split at h <;> cases h <;> cases f' <;> rfl

theorem Pc.afterFlush_afterFlush {pc : Pc} {f : FlushPc} (h : pc.flushPc = some f)
    (f' : FlushPc) (g : Option FlushPc) : (pc.afterFlush (some f')).afterFlush g = pc.afterFlush g := by
  unfold Pc.flushPc at h; split at h <;> cases h <;> cases g <;> rfl

theorem Pc.afterFlush_self {pc : Pc} {f : FlushPc} (h : pc.flushPc = some f) :
    pc.afterFlush (some f) = pc := by
  unfold Pc.flushPc at h; split at h <;> cases h <;> rfl

theorem Pc.producerPc_afterFlush {pc : Pc} {f : FlushPc} (h : pc.flushPc = some f)
    (f' : Option FlushPc) : ((pc.afterFlush f').producerPc = none ↔ pc.producerPc = none) ∧
      (pc.afterFlush f').inFlight = pc.inFlight := by
  unfold Pc.flushPc at h; split at h <;> cases h <;> cases f' <;> simp [Pc.producerPc, Pc.inFlight, Pc.afterFlush, ProducerPc.inFlight]

theorem Pc.producerPc_afterFlush_some {pc : Pc} {f : FlushPc} (h : pc.flushPc = some f)
    (g : FlushPc) (a : BleAdvert) : (pc.afterFlush (some g)).producerPc ≠ some (.relock a) ∧
      (pc.afterFlush (some g)).producerPc ≠ some (.write a) := by
  unfold Pc.flushPc at h; split at h <;> cases h <;> simp [Pc.afterFlush, Pc.producerPc]

section
variable {S : Setup} {s s' : State} {t : Nat} {pc : Pc}

theorem Queue.frame (hq : Queue S s) (hb : s'.batch = s.batch) (hr : s'.removed = s.removed)
    (hc : s'.calls = s.calls) (hp : ∀ t, (s'.threads t).producerPc = (s.threads t).producerPc)
    (hf : ∀ t, (s'.threads t).payload = (s.threads t).payload) : Queue S s' := by
  have hin : ∀ t, (s'.threads t).inFlight = (s.threads t).inFlight := fun t => by
    simp only [Pc.inFlight, hp]
  have hfb : s'.flushed ++ s'.batch = s.flushed ++ s.batch := by rw [State.flushed, hr, hb]; rfl
  obtain ⟨_, hcons, _, _, _, _, _⟩ := hq
  constructor <;> simp only [hb, hr, hp, hf, hin] <;> first | exact hcons.congr hfb hc | assumption

theorem Queue.update (hq : Queue S s) (hthr : s'.threads = s.threads)
    (hprod : pc.producerPc ≠ none → (s.threads t).producerPc ≠ none)
    (hcons : t = producerTid 0 → s.Conserves (s.threads t).inFlight → s'.Conserves pc.inFlight)
    (hkeep : t ≠ producerTid 0 → s'.flushed ++ s'.batch = s.flushed ++ s.batch ∧ s'.calls = s.calls)
    (hrem : ∀ r ∈ s'.removed, r.batch ≠ [] ∧ r.batch.length ≤ esphomeMaxAdvBatch)
    (hle : s'.batch.length ≤ esphomeMaxAdvBatch)
    (hrelock : ∀ a, pc.producerPc = some (.relock a) → s'.batch = [])
    (hwrite : ∀ a, pc.producerPc = some (.write a) → s'.batch.length < esphomeMaxAdvBatch)
    (hpay : ∀ p, pc.payload = some p →
      s'.batch ≠ [] ∧ p = S.proto.encodeBleAdvertisements esphomeMaxMessageSize s'.batch)
    (hother : s'.batch = s.batch ∨ ∀ u, u ≠ t →
      (s.threads u).payload = none ∧ (s'.batch = [] ∨ (s.threads u).producerPc = none)) :
    Queue S (s'.setPc t pc) := by
  obtain ⟨hprod', hcons', -, -, hrel, hwr, hpay'⟩ := hq
  refine ⟨fun u hu => ?_, ?_, hrem, hle, fun u a hu => ?_, fun u a hu => ?_, fun u p hu => ?_⟩
  · rw [State.threads_setPc, Function.update_apply] at hu
    split_ifs at hu with h
    · exact h ▸ hprod' t (hprod hu)
    · exact hprod' u (hthr ▸ hu)
  · simp only [State.conserves_setPc, State.threads_setPc, Function.update_apply]
    split_ifs with h
    · subst h; exact hcons rfl hcons'
    · obtain ⟨hfb, hc⟩ := hkeep (Ne.symm h)
      rw [hthr]; exact hcons'.congr hfb hc
  all_goals
    rw [State.threads_setPc, Function.update_apply, hthr] at hu
    split_ifs at hu with h
  · exact hrelock a hu
  · rcases hother with hb | hb
    · exact hb ▸ hrel u a hu
    · rcases (hb u h).2 with hb | hn
      · exact hb
      · rw [hn] at hu; cases hu
  · exact hwrite a hu
  · rcases hother with hb | hb
    · exact hb ▸ hwr u a hu
    · rcases (hb u h).2 with hb | hn
      · simp [hb, esphomeMaxAdvBatch]
      · rw [hn] at hu; cases hu
  · exact hpay p hu
  · rcases hother with hb | hb
    · exact hb ▸ hpay' u p hu
    · rw [(hb u h).1] at hu; cases hu

theorem Queue.setPc (hq : Queue S s) (hb : s'.batch = s.batch) (hr : s'.removed = s.removed)
    (hc : s'.calls = s.calls) (hthr : s'.threads = s.threads)
    (hprod : pc.producerPc ≠ none → (s.threads t).producerPc ≠ none)
    (hin : pc.inFlight = (s.threads t).inFlight)
    (hpay : pc.payload = none ∨ pc.payload = (s.threads t).payload)
    (hrelock : ∀ a, pc.producerPc = some (.relock a) → s.batch = [])
    (hwrite : ∀ a, pc.producerPc = some (.write a) → s.batch.length < esphomeMaxAdvBatch) :
    Queue S (s'.setPc t pc) := by
  have hfl : s'.flushed = s.flushed := by rw [State.flushed, hr]; rfl
  refine hq.update hthr hprod (fun _ h => by rw [hin]; exact h.congr (by rw [hfl, hb]) hc)
    (fun _ => ⟨by rw [hfl, hb], hc⟩) (hr ▸ hq.removed) (hb ▸ hq.batch_le)
    (fun a h => hb ▸ hrelock a h) (fun a h => hb ▸ hwrite a h) (fun p h => ?_) (.inl hb)
  rcases hpay with hn | he
  · rw [hn] at h; cases h
  · exact hb ▸ hq.payload t p (he ▸ h)

theorem Queue.setPc_aside (hq : Queue S s) (hb : s'.batch = s.batch)
    (hr : s'.removed = s.removed) (hc : s'.calls = s.calls) (hthr : s'.threads = s.threads)
    (h₀ : (s.threads t).Aside) (h : pc.Aside) : Queue S (s'.setPc t pc) := by
  have hin : ∀ pc : Pc, pc.producerPc = none → pc.inFlight = [] := fun pc hp => by
    simp [Pc.inFlight, hp]
  refine hq.setPc hb hr hc hthr (fun hp => absurd h.1 hp) ?_ (.inl h.2) ?_ ?_
  · rw [hin _ h.1, hin _ h₀.1]
  all_goals intro a ha; rw [h.1] at ha; cases ha

theorem Queue.spawn (hq : Queue S s) (hl : Locks s) {h : Nat} (hh : s.HandleFree h) (pc : Pc)
    (hpc : pc.Aside) : Queue S ({ s with nextTid := max s.nextTid (h + 1) }.setPc h pc) :=
  hq.setPc_aside rfl rfl rfl rfl
    (by rcases hl.handleFree_idle hh with e | e <;> rw [e] <;> exact ⟨rfl, rfl⟩) hpc

theorem Queue.listenerStep (hq : Queue S s) (hl : Locks s) {pc pc' : ListenerPc}
    (ht : s.threads listenerTid = .listener pc) (hs : ListenerStep pc s pc' s') :
    Queue S (s'.setPc listenerTid (.listener pc')) := by
  have h₀ : (s.threads listenerTid).Aside := by rw [ht]; exact ⟨rfl, rfl⟩
  have hne : ∀ {h}, s.HandleFree h → listenerTid ≠ h := fun hh =>
    hl.ne_of_handleFree hh (by rw [ht]; exact nofun) (by rw [ht]; exact nofun)
  cases hs
  case created i conn h hh =>
    exact (hq.spawn hl hh (.client i conn .loop) ⟨rfl, rfl⟩).setPc_aside rfl rfl rfl rfl
      (by rw [State.threads_setPc, Function.update_noteq (hne hh)]; exact h₀) ⟨rfl, rfl⟩
  case createFailed i conn h hh =>
    exact (hq.spawn hl hh .failed ⟨rfl, rfl⟩).setPc_aside rfl rfl rfl rfl
      (by rw [State.threads_setPc, Function.update_noteq (hne hh)]; exact h₀) ⟨rfl, rfl⟩
  all_goals exact hq.setPc_aside rfl rfl rfl rfl h₀ ⟨rfl, rfl⟩

theorem Queue.stopStep (hq : Queue S s) {pc pc' : StopPc}
    (ht : s.threads stopperTid = .stopper pc) (hs : StopStep pc s pc' s') :
    Queue S (s'.setPc stopperTid (.stopper pc')) := by
  cases hs <;> exact hq.setPc_aside rfl rfl rfl rfl (by rw [ht]; exact ⟨rfl, rfl⟩) ⟨rfl, rfl⟩

theorem Queue.flusherStep (hq : Queue S s) {pc pc' : FlusherPc}
    (ht : s.threads flusherTid = .flusher pc) (hs : FlusherStep pc s pc' s') :
    Queue S (s'.setPc flusherTid (.flusher pc')) := by
  have h₀ : (s.threads flusherTid).Aside := by rw [ht]; cases hs <;> exact ⟨rfl, rfl⟩
  cases hs <;> exact hq.setPc_aside rfl rfl rfl rfl h₀ ⟨rfl, rfl⟩

theorem Queue.clientStep (hq : Queue S s) {t : Nat} {i : Slot} {c : Nat} {pc pc' : ClientPc}
    (ht : s.threads t = .client i c pc) (hs : ClientStep S t i pc s pc' s') :
    Queue S (s'.setPc t (.client i c pc')) := by
  cases hs <;> exact hq.setPc_aside rfl rfl rfl rfl (by rw [ht]; exact ⟨rfl, rfl⟩) ⟨rfl, rfl⟩

theorem Queue.producerStep (hq : Queue S s) (hl : Locks s) {t : Nat} {pc pc' : ProducerPc}
    (ht : s.threads t = .producer pc) (hs : ProducerStep t pc s pc' s') :
    Queue S (s'.setPc t (.producer pc')) := by
  have hprod : (s.threads t).producerPc ≠ none := by rw [ht]; exact nofun
  have hp : t = producerTid 0 := hq.producer t hprod
  cases hs
  case call a =>
    refine hq.update rfl (fun _ => hprod) (fun _ h => ?_) (absurd hp) hq.removed hq.batch_le
      nofun nofun nofun (.inl rfl)
    obtain ⟨q, hc, hfb⟩ := h
    rw [ht, show (Pc.producer .idle).inFlight = [] from rfl, List.append_nil] at hc
    exact ⟨q, congrArg (· ++ [a]) hc, hfb⟩
  case write a hlen =>
    have hown : s.batchMutex = some t := (hl.owner_iff .batch t).mpr (by rw [ht]; rfl)
    refine hq.update rfl (fun _ => hprod) (fun _ h => ?_) (absurd hp) hq.removed
      (by simp only [List.length_append, List.length_singleton]; omega) nofun nofun nofun
      (.inr fun u hu => ⟨?_, .inr ?_⟩)
    · obtain ⟨q, hc, hfb⟩ := h
      rw [ht] at hc
      refine ⟨q ++ [a], hc.trans (List.append_nil _).symm, ?_⟩
      show s.flushed ++ (s.batch ++ [toBleAdvertisement a]) = _
      rw [← List.append_assoc, hfb, List.map_append]; rfl
    · cases hpu : (s.threads u).payload with
      | none => rfl
      | some q =>
        have := hown.symm.trans ((hl.owner_iff .batch u).mpr (Pc.holds_batch_of_payload hpu))
        exact absurd (Option.some_injective _ this).symm hu
    · by_contra hn
      exact hu ((hq.producer u hn).trans hp.symm)
  case overflow a hlen => exact absurd (hq.write t a (by rw [ht]; rfl)) (not_lt.mpr hlen)
  case full a _ _ =>
    exact hq.setPc rfl rfl rfl rfl (fun _ => hprod) (by rw [ht]; rfl) (.inl rfl) nofun nofun
  case room a _ hlen =>
    exact hq.setPc rfl rfl rfl rfl (fun _ => hprod) (by rw [ht]; rfl) (.inl rfl) nofun
      fun _ _ => hlen
  case relock a _ =>
    have hb := hq.relock t a (by rw [ht]; rfl)
    exact hq.setPc rfl rfl rfl rfl (fun _ => hprod) (by rw [ht]; rfl) (.inl rfl) nofun
      fun _ _ => by rw [hb]; decide
  all_goals exact hq.setPc rfl rfl rfl rfl (fun _ => hprod) (by rw [ht]; rfl) (.inl rfl) nofun nofun

theorem Queue.clear (hq : Queue S s) {t : Nat} {f : FlushPc} {x : Bool}
    (hthr : s'.threads = s.threads) (hb : s'.batch = [])
    (hr : s'.removed = s.removed ++ [⟨s.batch, x⟩]) (hc : s'.calls = s.calls) (hne : s.batch ≠ [])
    (ht : (s.threads t).flushPc = some f) (hu : ∀ u, u ≠ t → (s.threads u).payload = none) :
    Queue S (s'.setPc t ((s.threads t).afterFlush none)) := by
  obtain ⟨hprod, hin⟩ := Pc.producerPc_afterFlush ht none
  have hfl : s'.flushed ++ s'.batch = s.flushed ++ s.batch := by simp [State.flushed, hr, hb]
  refine hq.update hthr (fun h hn => h (hprod.mpr hn)) (fun _ h => by rw [hin]; exact h.congr hfl hc)
    (fun _ => ⟨hfl, hc⟩) (fun r h => ?_) (by simp [hb]) (fun _ _ => hb) (fun _ _ => by simp [hb, esphomeMaxAdvBatch])
    (fun p h => ?_) (.inr fun u h => ⟨hu u h, .inl hb⟩)
  · rcases List.mem_append.mp (hr ▸ h) with h | h
    · exact hq.removed r h
    · rw [List.mem_singleton.mp h]; exact ⟨hne, hq.batch_le⟩
  · rw [Pc.payload, Pc.flushPc_afterFlush ht] at h; cases h

theorem Queue.flushStep (hq : Queue S s) (hl : Locks s) {t : Nat} {f : FlushPc}
    {f' : Option FlushPc} (ht : (s.threads t).flushPc = some f) (hs : FlushStep S t f s f' s') :
    Queue S (s'.setPc t ((s.threads t).afterFlush f')) := by
  have hprod : ∀ g, ((s.threads t).afterFlush g).producerPc ≠ none → (s.threads t).producerPc ≠ none :=
    fun g h hn => h ((Pc.producerPc_afterFlush ht g).1.mpr hn)
  have hin := fun g => (Pc.producerPc_afterFlush ht g).2
  have hpay : ∀ g, ((s.threads t).afterFlush g).payload = g.bind FlushPc.payload := fun g => by
    rw [Pc.payload, Pc.flushPc_afterFlush ht]
  have hsome := Pc.producerPc_afterFlush_some ht
  cases hs
  case empty hb hbatch =>
    exact hq.setPc rfl rfl rfl rfl (hprod none) (hin none) (.inl (hpay none))
      (fun _ _ => hbatch) fun _ _ => by rw [hbatch]; decide
  case dropped hb hne _ =>
    exact hq.clear rfl rfl rfl rfl hne ht fun u _ => by
      cases hpu : (s.threads u).payload with
      | none => rfl
      | some q =>
        have := (hl.owner_iff .batch u).mpr (Pc.holds_batch_of_payload hpu)
        rw [State.owner, hb] at this; cases this
  case finish p =>
    have htp : (s.threads t).payload = some p := by rw [Pc.payload, ht]; rfl
    exact hq.clear rfl rfl rfl rfl (hq.payload t p htp).1 ht fun u hu => by
      cases hpu : (s.threads u).payload with
      | none => rfl
      | some q => exact absurd (hl.payload_unique hpu htp) hu
  case encoded hb hne _ =>
    exact hq.update rfl (hprod _) (fun _ h => by rw [hin]; exact h) (fun _ => ⟨rfl, rfl⟩) hq.removed
      hq.batch_le (fun a h => absurd h (hsome _ a).1) (fun a h => absurd h (hsome _ a).2)
      (fun p h => by rw [hpay] at h; cases h; exact ⟨hne, rfl⟩) (.inl rfl)
  all_goals
    refine hq.setPc rfl rfl rfl rfl (hprod _) (hin _) (.inr ?_) (fun a h => absurd h (hsome _ a).1)
      (fun a h => absurd h (hsome _ a).2)
    rw [hpay, Pc.payload, ht]; rfl

theorem Queue.step (hq : Queue S s) (hl : Locks s) (h : Step S s s') : Queue S s' := by
  cases h with
  | listener ht hs => exact hq.listenerStep hl ht hs
  | flusher ht hs => exact hq.flusherStep ht hs
  | stopper ht hs => exact hq.stopStep ht hs
  | producer ht hs => exact hq.producerStep hl ht hs
  | client ht hs => exact hq.clientStep ht hs
  | flush ht hs => exact hq.flushStep hl ht hs
  | clock => exact hq.frame rfl rfl rfl (fun _ => rfl) (fun _ => rfl)

end

theorem Queue.init (S : Setup) (t0 : Nat) : Queue S (State.init 1 t0) where
  producer t h := by
    simp only [State.init] at h
    split_ifs at h with h₁ h₂ h₃ h₄ <;> first | exact absurd rfl h | simp only [producerTid] at h₄ ⊢; omega
  conserve := ⟨[], rfl, rfl⟩
  removed := nofun
  batch_le := Nat.zero_le _
  relock _ _ _ := rfl
  write _ _ _ := by simp [State.init, esphomeMaxAdvBatch]
  payload t p h := by simp only [State.init] at h; split_ifs at h <;> cases h

theorem Queue.reachable {S : Setup} {t0 : Nat} {s : State} (h : Reachable S 1 t0 s) : Queue S s := by
  induction h with
  | refl => exact Queue.init S t0
  | tail hr hst ih => exact ih.step (Locks.reachable hr) hst

/-- With one producer thread, `esphome_api_queue_ble_advert` loses, duplicates and reorders
no advertisement: its calls are the advertisements whose entries are the removed batches and
then the pending batch, in call order, and then the one the producer is queueing. Each entry
carries its advertisement's packed address, RSSI, address type and first `min(data_len, 62)`
payload bytes. Every removed batch is non-empty, and it and the pending one are within
`ESPHOME_MAX_ADV_BATCH`; a thread that is broadcasting sends the encoding of the pending batch,
which is non-empty and is the batch it removes. -/
theorem queue_keeps_every_advertisement (S : Setup) (t0 : Nat) (s : State)
    (h : Reachable S 1 t0 s) :
    (∃ queued, s.calls = queued ++ (s.threads (producerTid 0)).inFlight ∧
      List.Forall₂ (fun e a => e.address = macToUint64 a.address ∧ e.rssi = a.rssi.toInt ∧
          e.addressType = a.addressType.toUInt32 ∧
          e.data = (List.ofFn a.data).take (min a.dataLen esphomeMaxAdvData))
        (s.flushed ++ s.batch) queued) ∧
      (∀ r ∈ s.removed, r.batch ≠ [] ∧ r.batch.length ≤ esphomeMaxAdvBatch) ∧
      s.batch.length ≤ esphomeMaxAdvBatch ∧
      ∀ t p, (s.threads t).payload = some p →
        s.batch ≠ [] ∧ p = S.proto.encodeBleAdvertisements esphomeMaxMessageSize s.batch := by
  have hq := Queue.reachable h
  obtain ⟨q, hc, hfb⟩ := hq.conserve
  refine ⟨⟨q, hc, ?_⟩, hq.removed, hq.batch_le, hq.payload⟩
  rw [hfb, List.forall₂_map_left_iff]
  exact List.forall₂_same.mpr fun a _ =>
    let ⟨h₁, h₂, h₃, h₄, _⟩ := toBleAdvertisement_fields a
    ⟨h₁, h₂, h₃, h₄⟩

/-- The producer queues an advertisement, the flush thread's timer broadcasts it, and the
producer is called again. -/
theorem queue_keeps_every_advertisement_on_timer :
    ∃ s, Reachable broadcastSetup 1 0 s ∧ s.removed.map Removal.broadcast = [true] ∧
      (s.threads (producerTid 0)).inFlight ≠ [] ∧
      ((∃ queued, s.calls = queued ++ (s.threads (producerTid 0)).inFlight ∧
        List.Forall₂ (fun e a => e.address = macToUint64 a.address ∧ e.rssi = a.rssi.toInt ∧
            e.addressType = a.addressType.toUInt32 ∧
            e.data = (List.ofFn a.data).take (min a.dataLen esphomeMaxAdvData))
          (s.flushed ++ s.batch) queued) ∧
      (∀ r ∈ s.removed, r.batch ≠ [] ∧ r.batch.length ≤ esphomeMaxAdvBatch) ∧
      s.batch.length ≤ esphomeMaxAdvBatch ∧
      ∀ t p, (s.threads t).payload = some p →
        s.batch ≠ [] ∧ p = broadcastSetup.proto.encodeBleAdvertisements esphomeMaxMessageSize
          s.batch) := by
  have h : Reachable broadcastSetup 1 0 _ :=
    .tail (.tail (.tail (.tail (.tail (.tail (.tail (.tail (.tail (.tail (.tail (.tail (.tail .refl
      (.producer (show State.threads _ 4 = _ from rfl) (.call ⟨fun _ => 1, 0, -40, fun _ => 7, 3⟩)))
      (.producer (show State.threads _ 4 = _ from rfl) (.room (by rfl) (by decide))))
      (.producer (show State.threads _ 4 = _ from rfl) (.write (by decide))))
      (.producer (show State.threads _ 4 = _ from rfl) (.done (by decide))))
      (.flusher (by rfl) (.enter (by rfl))))
      (.clock 100000000 (by decide)))
      (.flusher (by rfl) (.due (by decide))))
      (.flush (show (State.threads _ 2).flushPc = _ from rfl)
        (.encoded (by rfl) (List.cons_ne_nil _ _) (List.cons_ne_nil _ _))))
      (.flush (show (State.threads _ 2).flushPc = _ from rfl) (.lockClients (by rfl))))
      (.flush (show (State.threads _ 2).flushPc = _ from rfl) (.skip 0 (by decide))))
      (.flush (show (State.threads _ 2).flushPc = _ from rfl) (.skip 1 (by decide))))
      (.flush (show (State.threads _ 2).flushPc = _ from rfl) .finish))
      (.producer (show State.threads _ 4 = _ from rfl) (.call ⟨fun _ => 2, 1, -60, fun _ => 9, 80⟩))
  exact ⟨_, h, rfl, List.cons_ne_nil _ _, queue_keeps_every_advertisement broadcastSetup 0 _ h⟩

/-- The flush thread wakes from its `usleep` with `now = {1, 49000001}` while `last_flush =
{0, 950000000}`, set by a producer's flush of a full batch during the sleep: the batch is
99.000001 ms old. The nanosecond difference -900999999 truncates to -900, so `elapsed_ms`
is `1000 - 900 = 100`, and the thread calls `flush_ble_batch`, whatever the batch and the
rest of the state. -/
theorem flush_timer_fires_before_interval :
    1049000001 - 950000000 < batchFlushIntervalMs * 1000000 ∧
      ∀ s : State, s.now = 1049000001 → s.lastFlush = 950000000 →
        FlusherStep .tick s (.flush .lockBatch) s :=
  ⟨by decide, fun s hn hl => .due (by
    rw [hn, hl]
    exact (elapsedMs_due_iff (by decide) (by decide)).mpr (.inr ⟨by decide, by decide⟩))⟩

/-! ### Two producers -/

section
variable {S : Setup} {s : State} {t : Nat}

theorem enqueue_run (hp : s.threads t = .producer .idle) (hb : s.batchMutex = none)
    (hlen : s.batch.length < esphomeMaxAdvBatch) (a : BleAdvert) :
    Relation.ReflTransGen (Step S) s
      ({ s with calls := s.calls ++ [a], batch := s.batch ++ [toBleAdvertisement a] }.setPc t
        (.producer .check)) := by
  have h : Relation.ReflTransGen (Step S) s _ :=
    ((Relation.ReflTransGen.single (Step.producer hp (ProducerStep.call a))).tail
      (Step.producer (State.threads_setPc_self _ _ _) (ProducerStep.room hb hlen))).tail
      (Step.producer (State.threads_setPc_self _ _ _) (ProducerStep.write hlen))
  convert h using 1
  cases s; simp_all [State.setPc]

theorem enqueue_all_run (hp : s.threads t = .producer .idle) (hb : s.batchMutex = none)
    (as : List BleAdvert) (hlen : s.batch.length + as.length < esphomeMaxAdvBatch) :
    Relation.ReflTransGen (Step S) s
      { s with calls := s.calls ++ as, batch := s.batch ++ as.map toBleAdvertisement } := by
  induction as generalizing s with
  | nil => simp only [List.append_nil, List.map_nil]; exact .refl
  | cons a as ih =>
    have hlen₁ : (s.batch ++ [toBleAdvertisement a]).length < esphomeMaxAdvBatch := by
      simp only [List.length_append, List.length_cons, List.length_nil] at hlen ⊢; omega
    let s₁ : State := { s with calls := s.calls ++ [a], batch := s.batch ++ [toBleAdvertisement a] }
    have hdone : Step S (s₁.setPc t (.producer .check)) s₁ := by
      have h : Step S (s₁.setPc t (.producer .check)) _ :=
        Step.producer (State.threads_setPc_self _ _ _) (ProducerStep.done hlen₁)
      rwa [State.setPc_setPc, State.setPc_of_threads (show s₁.threads t = _ from hp)] at h
    have h₂ : Relation.ReflTransGen (Step S) s₁ _ := ih hp hb
      (by simp only [s₁, List.length_append, List.length_cons, List.length_nil] at hlen ⊢; omega)
    have h := ((enqueue_run hp hb (by simp only [List.length_cons] at hlen; omega) a).tail hdone).trans h₂
    simpa using h

theorem Step.flushFrom {s' : State} {pc₀ : Pc} {f₀ f : FlushPc} {f' : Option FlushPc}
    (h₀ : pc₀.flushPc = some f₀) (ht : s.threads t = pc₀.afterFlush (some f))
    (hs : FlushStep S t f s f' s') : Step S s (s'.setPc t (pc₀.afterFlush f')) := by
  have h := Step.flush (by rw [ht]; exact Pc.flushPc_afterFlush h₀ _) hs
  rwa [ht, Pc.afterFlush_afterFlush h₀] at h

theorem scan_run {pc₀ : Pc} {f₀ : FlushPc} {p : List UInt8} (h₀ : pc₀.flushPc = some f₀)
    (n : Nat) : ∀ {s : State} {k : Nat}, k + n = esphomeMaxClients →
      (∀ i, (s.clients i).subscribedBle = false) → s.threads t = pc₀.afterFlush (some (.scan k p)) →
      Relation.ReflTransGen (Step S) s (s.setPc t (pc₀.afterFlush (some (.scan esphomeMaxClients p)))) := by
  induction n with
  | zero =>
    intro s k hk _ ht
    rw [← hk, Nat.add_zero, State.setPc_of_threads ht]
  | succ n ih =>
    intro s k hk hsub ht
    have hk' : k + 1 + n = esphomeMaxClients := by omega
    have h : Relation.ReflTransGen (Step S) (s.setPc t (pc₀.afterFlush (some (.scan (k + 1) p)))) _ :=
      ih hk' hsub (State.threads_setPc_self _ _ _)
    rw [State.setPc_setPc] at h
    exact .head (Step.flushFrom h₀ ht (FlushStep.skip ⟨k, by omega⟩ (by simp [hsub]))) h

theorem flush_run (hf : (s.threads t).flushPc = some .lockBatch) (hb : s.batchMutex = none)
    (hc : s.clientsMutex = none) (hne : s.batch ≠ [])
    (hsub : ∀ i, (s.clients i).subscribedBle = false) :
    ∃ (x : Bool) (lf : Nat), Relation.ReflTransGen (Step S) s
      ({ s with batch := [], removed := s.removed ++ [Removal.mk s.batch x], lastFlush := lf }.setPc t
        ((s.threads t).afterFlush none)) := by
  by_cases henc : S.proto.encodeBleAdvertisements esphomeMaxMessageSize s.batch = []
  · exact ⟨false, s.lastFlush, .single (Step.flush hf (FlushStep.dropped hb hne henc))⟩
  refine ⟨true, s.now, ?_⟩
  have h : Relation.ReflTransGen (Step S) s _ :=
    (((Relation.ReflTransGen.single
      (Step.flushFrom hf (Pc.afterFlush_self hf).symm (FlushStep.encoded hb hne henc))).tail
      (Step.flushFrom hf (State.threads_setPc_self _ _ _) (FlushStep.lockClients hc))).trans
      (scan_run hf esphomeMaxClients (Nat.zero_add _) hsub (State.threads_setPc_self _ _ _))).tail
      (Step.flushFrom hf (State.threads_setPc_self _ _ _) FlushStep.finish)
  convert h using 1
  cases s; simp_all [State.setPc]

end

/-- Two producers and no client. The second queues `ESPHOME_MAX_ADV_BATCH` advertisements
and stops at the unlocked test after the last. The first finds the batch full, unlocks and
flushes it; the second then reads an empty batch, returns and queues as many again. The
first locks again and holds `batch_mutex` at the write of `advertisements[count]` with
`count = ESPHOME_MAX_ADV_BATCH`, one past the array. -/
theorem queue_writes_past_full_batch (S : Setup) (t0 : Nat) :
    ∃ s a, Reachable S 2 t0 s ∧ s.threads (producerTid 0) = .producer (.write a) ∧
      s.batchMutex = some (producerTid 0) ∧ s.batch.length = esphomeMaxAdvBatch := by
  let a : BleAdvert := ⟨fun _ => 0, 0, 0, fun _ => 0, 0⟩
  /- The second producer fills the batch; the first finds it full. -/
  obtain ⟨s₁, h₁, hA₁, hB₁, hb₁, hc₁, hne₁, hsub₁⟩ : ∃ s, Reachable S 2 t0 s ∧
      s.threads (producerTid 0) = .producer (.flushFull .lockBatch a) ∧
      s.threads (producerTid 1) = .producer .check ∧ s.batchMutex = none ∧
      s.clientsMutex = none ∧ s.batch ≠ [] ∧ ∀ i, (s.clients i).subscribedBle = false :=
    ⟨_, ((enqueue_all_run (show (State.init 2 t0).threads (producerTid 1) = _ from rfl) rfl
      (List.replicate 15 a) (by simp [State.init, esphomeMaxAdvBatch])).trans
      (enqueue_run (show State.threads _ (producerTid 1) = _ from rfl) rfl
        (by simp [State.init, esphomeMaxAdvBatch]) a)).trans
      ((Relation.ReflTransGen.single (Step.producer (show State.threads _ (producerTid 0) = _ from rfl)
        (ProducerStep.call a))).tail
        (Step.producer (State.threads_setPc_self _ _ _)
          (ProducerStep.full rfl (by simp [State.init, esphomeMaxAdvBatch])))),
      rfl, rfl, rfl, rfl, by simp, fun _ => rfl⟩
  /- The first flushes it. -/
  obtain ⟨s₂, h₂, hA₂, hB₂, hb₂, hbatch₂⟩ : ∃ s, Relation.ReflTransGen (Step S) s₁ s ∧
      s.threads (producerTid 0) = .producer (.relock a) ∧
      s.threads (producerTid 1) = .producer .check ∧ s.batchMutex = none ∧ s.batch = [] := by
    obtain ⟨x, lf, h⟩ := @flush_run S _ _ (by rw [hA₁]; rfl) hb₁ hc₁ hne₁ hsub₁
    refine ⟨_, h, ?_, ?_, hb₁, rfl⟩
    · rw [State.threads_setPc_self, hA₁]; rfl
    · rw [State.threads_setPc, Function.update_noteq (by decide)]; exact hB₁
  /- The second reads an empty batch, returns and fills it again; the first locks. -/
  let s₃ := s₂.setPc (producerTid 1) (.producer .idle)
  let s₄ : State := { s₃ with
    calls := s₃.calls ++ List.replicate 15 a
    batch := s₃.batch ++ (List.replicate 15 a).map toBleAdvertisement }
  let s₅ := State.setPc { s₄ with
    calls := s₄.calls ++ [a]
    batch := s₄.batch ++ [toBleAdvertisement a] } (producerTid 1) (.producer .check)
  have hne : producerTid 0 ≠ producerTid 1 := by decide
  have h₃ : Relation.ReflTransGen (Step S) s₂ s₅ :=
    ((Relation.ReflTransGen.single (Step.producer hB₂
      (ProducerStep.done (by simp [hbatch₂, esphomeMaxAdvBatch])))).trans
      (enqueue_all_run (State.threads_setPc_self _ _ _) hb₂ (List.replicate 15 a)
        (by simp [s₃, hbatch₂, esphomeMaxAdvBatch]))).trans
      (enqueue_run (show s₄.threads (producerTid 1) = _ by simp only [s₄, s₃, State.threads_setPc_self]) hb₂
        (by simp [s₄, s₃, hbatch₂, esphomeMaxAdvBatch]) a)
  have hA₅ : s₅.threads (producerTid 0) = .producer (.relock a) := by
    simp only [s₅, s₄, s₃, State.threads_setPc, Function.update_noteq hne]; exact hA₂
  exact ⟨_, a, ((h₁.trans h₂).trans h₃).tail (Step.producer hA₅ (ProducerStep.relock hb₂)),
    State.threads_setPc_self _ _ _, rfl, by simp [s₅, s₄, s₃, hbatch₂, esphomeMaxAdvBatch]⟩

end EsphomeProxy
