import EsphomeProxy.Server.Queue
import EsphomeProxy.Server.Slots

/-! The broadcasts of `flush_ble_batch`, with any number of producer threads. -/

namespace EsphomeProxy

/-- The frame a send of `flush_ble_batch` carries is the one `send_message` made of its
payload. -/
def FlushPc.Framed (S : Setup) : FlushPc → Prop
  | .lockSend _ p f | .send _ p f =>
    sendFrame S ⟨esphomeMsgBluetoothLeRawAdvertisementsResponse, p⟩ = some f
  | _ => True

structure Broadcasts (S : Setup) (s : State) : Prop where
  payload : ∀ t p, (s.threads t).payload = some p →
    s.batch ≠ [] ∧ p = S.proto.encodeBleAdvertisements esphomeMaxMessageSize s.batch
  framed : ∀ t f, (s.threads t).flushPc = some f → f.Framed S
  subscribed : ∀ t i, (s.threads t).sendSlot = some i → (s.clients i).subscribedBle = true
  removed : ∀ r ∈ s.removed, r.batch ≠ []

theorem Locks.payload_eq_none {s : State} (hl : Locks s) {u : Nat} (h : s.batchMutex ≠ some u) :
    (s.threads u).payload = none := by
  cases hp : (s.threads u).payload with
  | none => rfl
  | some q => exact absurd ((hl.owner_iff .batch u).mpr (Pc.holds_batch_of_payload hp)) h

section
variable {S : Setup} {s s' : State} {t : Nat} {pc : Pc}

theorem Broadcasts.update (hb : Broadcasts S s) (hthr : s'.threads = s.threads)
    (hbatch : s'.batch = s.batch ∨ ∀ u, u ≠ t → (s.threads u).payload = none)
    (hrem : ∀ r ∈ s'.removed, r ∈ s.removed ∨ r.batch ≠ [])
    (hsub : ∀ u i, u ≠ t → (s.threads u).sendSlot = some i → (s'.clients i).subscribedBle = true)
    (hpay : ∀ p, pc.payload = some p →
      s'.batch ≠ [] ∧ p = S.proto.encodeBleAdvertisements esphomeMaxMessageSize s'.batch)
    (hframed : ∀ f, pc.flushPc = some f → f.Framed S)
    (hslot : ∀ i, pc.sendSlot = some i → (s'.clients i).subscribedBle = true) :
    Broadcasts S (s'.setPc t pc) where
  payload u p h := by
    rw [State.threads_setPc, Function.update_apply, hthr] at h
    split_ifs at h with hu
    · exact hpay p h
    · rcases hbatch with hbt | hn
      · rw [State.batch_setPc, hbt]; exact hb.payload u p h
      · rw [hn u hu] at h; cases h
  framed u f h := by
    rw [State.threads_setPc, Function.update_apply, hthr] at h
    split_ifs at h
    exacts [hframed f h, hb.framed u f h]
  subscribed u i h := by
    rw [State.threads_setPc, Function.update_apply, hthr] at h
    split_ifs at h with hu
    exacts [hslot i h, hsub u i hu h]
  removed r h := (hrem r h).elim (hb.removed r) id

theorem Broadcasts.setPc (hb : Broadcasts S s) (hthr : s'.threads = s.threads)
    (hbatch : s'.batch = s.batch) (hrem : s'.removed = s.removed)
    (hsub : ∀ u i, (s.threads u).sendSlot = some i → (s'.clients i).subscribedBle = true)
    (hpc : ∀ f, pc.flushPc = some f → f = .lockBatch) : Broadcasts S (s'.setPc t pc) := by
  refine hb.update hthr (.inl hbatch) (fun r h => .inl (hrem ▸ h)) (fun u i _ => hsub u i)
    (fun p h => ?_) (fun f h => by rw [hpc f h]; trivial) fun i h => ?_
  · obtain ⟨f, hf, hp⟩ := Option.bind_eq_some.mp h
    rw [hpc f hf] at hp; cases hp
  · obtain ⟨f, hf, hp⟩ := Option.bind_eq_some.mp h
    rw [hpc f hf] at hp; cases hp

theorem State.subscribed_setClient {s : State} {i j : Slot} {c : Client}
    (hj : (s.clients j).subscribedBle = true) (hc : c.subscribedBle = (s.clients i).subscribedBle) :
    ((s.setClient i c).clients j).subscribedBle = true := by
  rw [State.clients_setClient_of Client.subscribedBle j hc]; exact hj

theorem Broadcasts.subscribed_setClient (hb : Broadcasts S s) {i : Slot} {c : Client}
    (hc : c.subscribedBle = (s.clients i).subscribedBle) (u : Nat) (j : Slot)
    (h : (s.threads u).sendSlot = some j) : ((s.setClient i c).clients j).subscribedBle = true :=
  State.subscribed_setClient (hb.subscribed u j h) hc

theorem Broadcasts.listenerStep (hb : Broadcasts S s) (hl : Locks s) {pc pc' : ListenerPc}
    (ht : s.threads listenerTid = .listener pc) (hst : ListenerStep pc s pc' s') :
    Broadcasts S (s'.setPc listenerTid (.listener pc')) := by
  have hpc : ∀ f, (Pc.listener pc').flushPc = some f → f = .lockBatch := fun _ h => by cases h
  /- `pthread_create` starts thread `tid` at a point outside `flush_ble_batch` -/
  have spawn : ∀ tid pc, (∀ f, pc.flushPc = some f → f = .lockBatch) →
      Broadcasts S ({ s with nextTid := max s.nextTid (tid + 1) }.setPc tid pc) := fun _ _ hf =>
    hb.setPc rfl rfl rfl hb.subscribed hf
  cases hst
  case take | noStack => exact hb.setPc rfl rfl rfl (hb.subscribed_setClient (by rfl)) hpc
  case created i conn tid _ =>
    have h₁ := spawn tid (.client i conn .loop) nofun
    exact h₁.setPc rfl rfl rfl (h₁.subscribed_setClient (by rfl)) hpc
  case createFailed i conn tid _ =>
    have h₁ := spawn tid .failed nofun
    exact h₁.setPc rfl rfl rfl (h₁.subscribed_setClient (by rfl)) hpc
  case closeFailed i hm =>
    exact hb.setPc rfl rfl rfl (fun u j h => absurd h (hl.no_sendSlot hm u j)) hpc
  all_goals exact hb.setPc rfl rfl rfl hb.subscribed hpc

theorem Broadcasts.stopStep (hb : Broadcasts S s) (hl : Locks s) {pc pc' : StopPc}
    (hst : StopStep pc s pc' s') : Broadcasts S (s'.setPc stopperTid (.stopper pc')) := by
  have hpc : ∀ f, (Pc.stopper pc').flushPc = some f → f = .lockBatch := fun _ h => by cases h
  cases hst
  case closeAll hm => exact hb.setPc rfl rfl rfl (fun u j h => absurd h (hl.no_sendSlot hm u j)) hpc
  all_goals exact hb.setPc rfl rfl rfl hb.subscribed hpc

theorem Broadcasts.clientStep (hb : Broadcasts S s) (hl : Locks s) {i : Slot} {c : Nat}
    {pc pc' : ClientPc} (hst : ClientStep S t i pc s pc' s') :
    Broadcasts S (s'.setPc t (.client i c pc')) := by
  have hpc : ∀ f, (Pc.client i c pc').flushPc = some f → f = .lockBatch := fun _ h => by cases h
  cases hst
  case dispatch d rest _ _ =>
    refine hb.setPc rfl rfl rfl (fun u j h => ?_) hpc
    have hsub := hb.subscribed u j h
    rw [State.clients_setClient]
    split_ifs with hj
    · subst hj
      simp [Client.dispatched, dispatchMessage_session, hsub]
    · exact hsub
  case send => exact hb.setPc rfl rfl rfl (hb.subscribed_setClient (by rfl)) hpc
  case cleanup hm =>
    exact hb.setPc rfl rfl rfl (fun u j h => absurd h (hl.no_sendSlot hm u j)) hpc
  all_goals first
    | exact hb.setPc rfl rfl rfl hb.subscribed hpc
    | exact hb.setPc rfl rfl rfl (hb.subscribed_setClient (by rfl)) hpc

theorem Broadcasts.producerStep (hb : Broadcasts S s) (hl : Locks s) {pc pc' : ProducerPc}
    (ht : s.threads t = .producer pc) (hst : ProducerStep t pc s pc' s') :
    Broadcasts S (s'.setPc t (.producer pc')) := by
  have hpc : ∀ f, (Pc.producer pc').flushPc = some f → f = .lockBatch := fun _ h => by
    cases hst <;> cases h <;> rfl
  cases hst
  case write =>
    have hown : s.batchMutex = some t := (hl.owner_iff .batch t).mpr (by rw [ht]; rfl)
    exact hb.update rfl (.inr fun u hu => hl.payload_eq_none fun h => hu (Option.some_injective _
      (h.symm.trans hown))) (fun r h => .inl h) (fun u i _ => hb.subscribed u i)
      (fun _ h => by cases h) (fun _ h => by cases h) fun _ h => by cases h
  all_goals exact hb.setPc rfl rfl rfl hb.subscribed hpc

theorem Broadcasts.flushStep (hb : Broadcasts S s) (hl : Locks s) {f : FlushPc}
    {f' : Option FlushPc} (ht : (s.threads t).flushPc = some f) (hst : FlushStep S t f s f' s') :
    Broadcasts S (s'.setPc t ((s.threads t).afterFlush f')) := by
  have hfl := Pc.flushPc_afterFlush ht f'
  have hpay : ((s.threads t).afterFlush f').payload = f'.bind FlushPc.payload := by
    rw [Pc.payload, hfl]
  have hslot := (Pc.afterFlush_of_flushPc ht f').2
  have hold : (s.threads t).payload = f.payload := by rw [Pc.payload, ht]; rfl
  have hsendSlot : (s.threads t).sendSlot = f.sendSlot := Pc.sendSlot_of_flushPc ht
  have hsub : ∀ u i, u ≠ t → (s.threads u).sendSlot = some i → (s.clients i).subscribedBle = true :=
    fun u i _ => hb.subscribed u i
  /- The steps that keep the payload and the batch. -/
  have keep : ∀ {s₁ : State}, s₁.threads = s.threads → s₁.batch = s.batch →
      s₁.removed = s.removed → (∀ u i, u ≠ t → (s.threads u).sendSlot = some i →
        (s₁.clients i).subscribedBle = true) →
      f'.bind FlushPc.payload = f.payload → (∀ g, f' = some g → g.Framed S) →
      (∀ i, f'.bind FlushPc.sendSlot = some i → (s₁.clients i).subscribedBle = true) →
      Broadcasts S (s₁.setPc t ((s.threads t).afterFlush f')) :=
    fun hthr hbt hrm hs hp hfr hsl => hb.update hthr (.inl hbt) (fun r h => .inl (hrm ▸ h)) hs
      (fun p h => by rw [hbt]; rw [hpay, hp, ← hold] at h; exact hb.payload t p h)
      (fun g h => hfr g (hfl ▸ h)) fun i h => hsl i (hslot ▸ h)
  cases hst
  case empty =>
    exact hb.setPc rfl rfl rfl hb.subscribed fun _ h => by rw [hfl] at h; cases h
  case dropped hm hne _ =>
    refine hb.update rfl (.inr fun u _ => hl.payload_eq_none (by rw [hm]; exact Option.noConfusion))
      (fun r h => (List.mem_append.mp h).imp id fun h => ?_) hsub (fun _ h => by rw [hpay] at h; cases h)
      (fun _ h => by rw [hfl] at h; cases h) fun _ h => by rw [hslot] at h; cases h
    rw [List.mem_singleton.mp h]; exact hne
  case encoded _ hne _ =>
    exact hb.update rfl (.inl rfl) (fun r h => .inl h) hsub
      (fun p h => by rw [hpay] at h; cases h; exact ⟨hne, rfl⟩)
      (fun _ h => by rw [hfl] at h; cases h; trivial) fun _ h => by rw [hslot] at h; cases h
  case framed _ _ i hfr _ hsubi =>
    exact keep rfl rfl rfl hsub rfl (fun g h => by cases h; exact hfr) fun j h => by
      cases h; exact hsubi
  case lockSend i p fr _ =>
    have hfr := hb.framed t _ ht
    exact keep rfl rfl rfl (fun u j _ => hb.subscribed_setClient (by rfl) u j) rfl
      (fun g h => by cases h; exact hfr) fun j h => by
        cases h; exact hb.subscribed_setClient (by rfl) t i hsendSlot
  case send i p fr k _ =>
    exact keep rfl rfl rfl (fun u j _ => hb.subscribed_setClient (by rfl) u j) rfl
      (fun g h => by cases h; trivial) fun _ h => by cases h
  case finish p =>
    have hown : s.batchMutex = some t := (hl.owner_iff .batch t).mpr (Pc.holds_batch_of_payload hold)
    refine hb.update rfl (.inr fun u hu => hl.payload_eq_none fun h => hu (Option.some_injective _
      (h.symm.trans hown))) (fun r h => (List.mem_append.mp h).imp id fun h => ?_) hsub
      (fun _ h => by rw [hpay] at h; cases h) (fun _ h => by rw [hfl] at h; cases h)
      fun _ h => by rw [hslot] at h; cases h
    rw [List.mem_singleton.mp h]; exact (hb.payload t p hold).1
  all_goals exact keep rfl rfl rfl hsub rfl (fun g h => by cases h; trivial) fun _ h => by cases h

theorem Broadcasts.step (hb : Broadcasts S s) (hl : Locks s) (h : Step S s s') : Broadcasts S s' := by
  cases h with
  | listener ht hst => exact hb.listenerStep hl ht hst
  | flusher _ hst => cases hst <;> exact hb.setPc rfl rfl rfl hb.subscribed fun _ h => by cases h <;> rfl
  | stopper _ hst => exact hb.stopStep hl hst
  | producer ht hst => exact hb.producerStep hl ht hst
  | client _ hst => exact hb.clientStep hl hst
  | flush ht hst => exact hb.flushStep hl ht hst
  | clock => exact ⟨hb.payload, hb.framed, hb.subscribed, hb.removed⟩

end

theorem Broadcasts.init (S : Setup) (nprod t0 : Nat) : Broadcasts S (State.init nprod t0) where
  payload t p h := by
    rcases State.init_threads nprod t0 t with h' | h' | h' | h' | h' <;> rw [h'] at h <;> cases h
  framed t f h := by
    rcases State.init_threads nprod t0 t with h' | h' | h' | h' | h' <;> rw [h'] at h <;> cases h
  subscribed t i h := by
    rcases State.init_threads nprod t0 t with h' | h' | h' | h' | h' <;> rw [h'] at h <;> cases h
  removed _ h := by cases h

theorem Broadcasts.reachable {S : Setup} {nprod t0 : Nat} {s : State} (h : Reachable S nprod t0 s) :
    Broadcasts S s := by
  induction h with
  | refl => exact Broadcasts.init S nprod t0
  | tail hr hst ih => exact ih.step (Locks.reachable hr) hst

/-! ### What the broadcasts invariant gives -/

/-- With any number of producer threads, a broadcast `send` of `flush_ble_batch` carries
`send_message`'s frame of the encoding of the pending batch, which is not empty, on a live slot
whose connection has sent a subscription request that decodes; and every batch a flush removes
is non-empty. -/
theorem broadcast_reaches_subscribers (S : Setup) (nprod t0 : Nat) (s : State)
    (h : Reachable S nprod t0 s) :
    (∀ t i p f, (s.threads t).flushPc = some (.send i p f) →
      s.batch ≠ [] ∧ p = S.proto.encodeBleAdvertisements esphomeMaxMessageSize s.batch ∧
        sendFrame S ⟨esphomeMsgBluetoothLeRawAdvertisementsResponse, p⟩ = some f ∧
        0 ≤ (s.clients i).fd ∧ ∃ m ∈ (s.clients i).handled,
          m.1 = esphomeMsgSubscribeBluetoothLeAdvertisementsRequest ∧
            (S.proto.decodeSubscribeBleAdvertisements m.2).isSome) ∧
      ∀ r ∈ s.removed, r.batch ≠ [] := by
  have hb := Broadcasts.reachable h
  have hs := Slots.reachable h
  refine ⟨fun t i p f ht => ?_, hb.removed⟩
  have hslot : (s.threads t).sendSlot = some i := by rw [Pc.sendSlot_of_flushPc ht]; rfl
  have hi := hs.flush t i hslot
  obtain ⟨hne, hp⟩ := hb.payload t p (by rw [Pc.payload, ht]; rfl)
  have hsub := hb.subscribed t i hslot
  rw [(hs.session i hi).2, List.any_eq_true] at hsub
  obtain ⟨m, hm, hms⟩ := hsub
  simp only [setsSubscribed, Bool.and_eq_true, decide_eq_true_eq] at hms
  exact ⟨hne, hp, hb.framed t _ ht, hi, m, hm, hms⟩

/-- A connection subscribes, a producer queues an advertisement, and the timer's flush is at the
`send` of the batch's frame to it. -/
theorem broadcast_reaches_subscribers_on_flush :
    ∃ s, Reachable broadcastSetup 1 0 s ∧ (∃ t i p f, (s.threads t).flushPc = some (.send i p f)) ∧
      (∀ t i p f, (s.threads t).flushPc = some (.send i p f) →
        s.batch ≠ [] ∧ p = broadcastSetup.proto.encodeBleAdvertisements esphomeMaxMessageSize s.batch ∧
          sendFrame broadcastSetup ⟨esphomeMsgBluetoothLeRawAdvertisementsResponse, p⟩ = some f ∧
          0 ≤ (s.clients i).fd ∧ ∃ m ∈ (s.clients i).handled,
            m.1 = esphomeMsgSubscribeBluetoothLeAdvertisementsRequest ∧
              (broadcastSetup.proto.decodeSubscribeBleAdvertisements m.2).isSome) ∧
        ∀ r ∈ s.removed, r.batch ≠ [] := by
  have h : Reachable broadcastSetup 1 0 _ :=
    .tail (.tail (.tail (.tail (.tail (.tail (.tail (.tail (.tail (.tail (.tail (.tail (.tail
      (.tail (.tail (.tail (.tail .refl
      (.listener (by rfl) (.enter (by rfl))))
      (.listener (by rfl) (.accepted 0 (by rfl) le_rfl (by rfl))))
      (.listener (by rfl) (.take 0 (by rfl) (by rfl))))
      (.listener (by rfl) (.created 5 (Or.inl rfl))))
      (.client (show State.threads _ 5 = _ from rfl) (.enter (by rfl) (by decide))))
      (.client (show State.threads _ 5 = _ from rfl) (.received [0, 1, 66] (by decide) (by decide))))
      (.client (show State.threads _ 5 = _ from rfl)
        (.dispatch (by decide) (show handlePass _ _ = .dispatch ⟨66, [], 3, 0, 3⟩ [] by decide))))
      (.producer (show State.threads _ 4 = _ from rfl) (.call ⟨fun _ => 0, 0, 0, fun _ => 0, 0⟩)))
      (.producer (show State.threads _ 4 = _ from rfl) (.room (by rfl) (by decide))))
      (.producer (show State.threads _ 4 = _ from rfl) (.write (by decide))))
      (.flusher (by rfl) (.enter (by rfl))))
      (.clock 100000000 (by decide)))
      (.flusher (by rfl) (.due (by decide))))
      (.flush (show (State.threads _ 2).flushPc = _ from rfl)
        (.encoded (by rfl) (List.cons_ne_nil _ _) (List.cons_ne_nil _ _))))
      (.flush (show (State.threads _ 2).flushPc = _ from rfl) (.lockClients (by rfl))))
      (.flush (show (State.threads _ 2).flushPc = _ from rfl)
        (.framed 0 (by decide) (by rfl) (show sendFrame broadcastSetup ⟨93, [0]⟩ = some [0, 2, 93, 0] from rfl))))
      (.flush (show (State.threads _ 2).flushPc = _ from rfl) (.lockSend (by rfl)))
  exact ⟨_, h, ⟨2, 0, [0], [0, 2, 93, 0], rfl⟩, broadcast_reaches_subscribers broadcastSetup 1 0 _ h⟩

end EsphomeProxy
