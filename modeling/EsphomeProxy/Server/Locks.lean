import EsphomeProxy.Server.Step

/-! The lock discipline of the server, and why its threads cannot deadlock. -/

namespace EsphomeProxy

/-- The lock discipline, and the handles `pthread_create` has not handed out yet. -/
structure Locks (s : State) : Prop where
  owner_iff : ∀ m t, s.owner m = some t ↔ (s.threads t).holds m = true
  unused : ∀ t, s.nextTid ≤ t → s.threads t = .unused

@[simp] theorem Pc.holds_unused (m : Mutex) : Pc.unused.holds m = false := rfl
@[simp] theorem Pc.holds_failed (m : Mutex) : Pc.failed.holds m = false := rfl

section
variable {s s' : State} {t : Nat} {pc₀ pc : Pc}

theorem Locks.lt_nextTid (hl : Locks s) (h : s.threads t ≠ .unused) : t < s.nextTid :=
  Nat.lt_of_not_le fun hle => h (hl.unused t hle)

theorem Locks.handleFree_idle (hl : Locks s) {h : Nat} (hh : s.HandleFree h) :
    s.threads h = .unused ∨ s.threads h = .failed :=
  hh.imp (fun e => hl.unused h e.ge) id

theorem Locks.ne_of_handleFree (hl : Locks s) {h : Nat} (hh : s.HandleFree h)
    (hu : s.threads t ≠ .unused) (hf : s.threads t ≠ .failed) : t ≠ h := by
  rintro rfl; exact (hl.handleFree_idle hh).elim hu hf

theorem Locks.not_handleFree (hl : Locks s) (hu : s.threads t ≠ .unused)
    (hf : s.threads t ≠ .failed) : ¬ s.HandleFree t := fun hh => hl.ne_of_handleFree hh hu hf rfl

theorem Locks.update (hl : Locks s) (hold : s.threads t = pc₀) (h₀ : pc₀ ≠ .unused)
    (hthr : s'.threads = s.threads) (hnext : s'.nextTid = s.nextTid)
    (hown : ∀ m, s'.owner m = if pc.holds m && !pc₀.holds m then some t
      else if pc₀.holds m && !pc.holds m then none else s.owner m)
    (hfree : ∀ m, pc.holds m = true → pc₀.holds m = false → s.owner m = none) :
    Locks (s'.setPc t pc) where
  owner_iff m u := by
    have hu := hl.owner_iff m u
    have ht := hl.owner_iff m t
    rw [hold] at ht
    show s'.owner m = some u ↔ (Function.update s'.threads t pc u).holds m = true
    rw [hthr, hown m]
    by_cases h : u = t
    · subst h
      rw [Function.update_same]
      cases hp : pc.holds m <;> cases hq : pc₀.holds m <;> simp [hq] at ht <;> simp [ht]
    · rw [Function.update_noteq h, ← hu]
      have hne : t ≠ u := Ne.symm h
      cases hp : pc.holds m <;> cases hq : pc₀.holds m <;> simp [hq] at ht
      · simp
      · simp [ht, hne]
      · simp [hfree m hp hq, hne]
      · simp
  unused u hu := by
    have htu : u ≠ t := by
      rintro rfl
      exact h₀ (hold ▸ hl.unused u (hnext ▸ hu))
    show Function.update s'.threads t pc u = .unused
    rw [hthr, Function.update_noteq htu]
    exact hl.unused u (hnext ▸ hu)

theorem Locks.keep (hl : Locks s) (hold : s.threads t = pc₀) (h₀ : pc₀ ≠ .unused)
    (hthr : s'.threads = s.threads) (hnext : s'.nextTid = s.nextTid)
    (hown : s'.owner = s.owner) (hpc : pc.holds = pc₀.holds) : Locks (s'.setPc t pc) :=
  hl.update hold h₀ hthr hnext (fun m => by simp [hown, hpc])
    (fun m hp hq => by rw [hpc, hq] at hp; cases hp)

theorem Locks.spawn (hl : Locks s) {h : Nat} (hh : s.HandleFree h) (pc : Pc)
    (hpc : ∀ m, pc.holds m = false) :
    Locks ({ s with nextTid := max s.nextTid (h + 1) }.setPc h pc) where
  owner_iff m u := by
    show s.owner m = some u ↔ (Function.update s.threads h pc u).holds m = true
    rw [hl.owner_iff]
    by_cases hu : u = h
    · subst hu
      rcases hl.handleFree_idle hh with hf | hf <;> simp [hf, hpc]
    · rw [Function.update_noteq hu]
  unused u hu := by
    simp only [State.setPc] at hu ⊢
    rw [Function.update_noteq (by omega)]
    exact hl.unused u (by omega)

end

theorem State.owner_eq {s s' : State} (hb : s'.batchMutex = s.batchMutex)
    (hc : s'.clientsMutex = s.clientsMutex)
    (hs : ∀ i, (s'.clients i).sendMutex = (s.clients i).sendMutex) : s'.owner = s.owner := by
  funext m; cases m <;> simp [State.owner, *]

@[simp] theorem State.owner_setPc (s : State) (t : Nat) (pc : Pc) :
    (s.setPc t pc).owner = s.owner := rfl

theorem State.owner_setClient {s : State} {i : Slot} {c : Client}
    (h : c.sendMutex = (s.clients i).sendMutex) : (s.setClient i c).owner = s.owner :=
  State.owner_eq rfl rfl fun j => by
    by_cases hj : j = i
    · subst hj; simp [State.setClient, h]
    · simp [State.setClient, hj]

theorem State.owner_setClient_apply (s : State) (i : Slot) (c : Client) (m : Mutex) :
    (s.setClient i c).owner m = if m = .send i then c.sendMutex else s.owner m := by
  cases m with
  | send j => by_cases hj : j = i <;> simp [State.owner, State.setClient, hj]
  | _ => simp [State.owner, State.setClient]

@[simp] theorem State.owner_clientClose (s : State) (i : Slot) :
    (s.clientClose i).owner = s.owner :=
  State.owner_eq rfl rfl fun j => by
    by_cases hj : j = i
    · subst hj; simp [State.clientClose, Client.close]
    · simp [State.clientClose, hj]

@[simp] theorem State.owner_logSend (s : State) (t : Nat) (i : Slot) (f : List UInt8) (k : Nat) :
    (s.logSend t i f k).owner = s.owner := rfl

theorem Pc.holds_of_flushPc {pc : Pc} {f : FlushPc} (h : pc.flushPc = some f) :
    pc.holds = f.holds := by
  unfold Pc.flushPc at h; split at h <;> cases h <;> rfl

theorem Pc.holds_afterFlush {pc : Pc} {f : FlushPc} (h : pc.flushPc = some f)
    (f' : Option FlushPc) : (pc.afterFlush f').holds = fun m => f'.elim false (·.holds m) := by
  unfold Pc.flushPc at h; split at h <;> cases h <;> cases f' <;> rfl

theorem Pc.holds_afterDispatch (S : Setup) (i : Slot) (c : Nat) (cl : Client) (d : Dispatch) :
    (Pc.client i c (afterDispatch S cl d)).holds = (Pc.client i c .handle).holds := by
  unfold afterDispatch; split <;> (try split) <;> rfl

theorem Pc.ne_unused_of_flushPc {pc : Pc} {f : FlushPc} (h : pc.flushPc = some f) :
    pc ≠ .unused := by
  rintro rfl; cases h

section
variable {S : Setup} {s s' : State}

theorem Locks.listenerStep (hl : Locks s) {pc pc' : ListenerPc}
    (ht : s.threads listenerTid = .listener pc) (hs : ListenerStep pc s pc' s') :
    Locks (s'.setPc listenerTid (.listener pc')) := by
  have h₀ : Pc.listener pc ≠ .unused := nofun
  have hne : ∀ {h}, s.HandleFree h → listenerTid ≠ h := fun hh =>
    hl.ne_of_handleFree hh (ht ▸ h₀) (by rw [ht]; exact nofun)
  cases hs
  case created i conn h hh =>
    exact (hl.spawn hh (.client i conn .loop) fun _ => rfl).keep
      (by simp [Function.update_noteq (hne hh), ht]) h₀ rfl rfl (State.owner_setClient rfl) rfl
  case createFailed i conn h hh =>
    exact (hl.spawn hh .failed fun _ => rfl).keep
      (by simp [Function.update_noteq (hne hh), ht]) h₀ rfl rfl (State.owner_setClient rfl) rfl
  case take | noStack => exact hl.keep ht h₀ rfl rfl (State.owner_setClient rfl) rfl
  case closeFailed => exact hl.keep ht h₀ rfl rfl (State.owner_clientClose _ _) rfl
  all_goals exact hl.keep ht h₀ rfl rfl rfl rfl

theorem Locks.flusherStep (hl : Locks s) {pc pc' : FlusherPc}
    (ht : s.threads flusherTid = .flusher pc) (hs : FlusherStep pc s pc' s') :
    Locks (s'.setPc flusherTid (.flusher pc')) := by
  cases hs <;> exact hl.keep ht nofun rfl rfl rfl rfl

theorem Locks.stopStep (hl : Locks s) {pc pc' : StopPc}
    (ht : s.threads stopperTid = .stopper pc) (hs : StopStep pc s pc' s') :
    Locks (s'.setPc stopperTid (.stopper pc')) := by
  cases hs <;> exact hl.keep ht nofun rfl rfl rfl rfl

theorem Locks.producerStep (hl : Locks s) {t : Nat} {pc pc' : ProducerPc}
    (ht : s.threads t = .producer pc) (hs : ProducerStep t pc s pc' s') :
    Locks (s'.setPc t (.producer pc')) := by
  cases hs
  case room hb _ | relock hb =>
    exact hl.update ht nofun rfl rfl (fun m => by cases m <;> simp [State.owner, Pc.holds])
      fun m hp _ => by cases m <;> simp_all [State.owner, Pc.holds]
  case write =>
    exact hl.update ht nofun rfl rfl (fun m => by cases m <;> simp [State.owner, Pc.holds])
      fun m hp => by cases m <;> simp [Pc.holds] at hp
  case overflow => exact hl.keep ht nofun rfl rfl rfl rfl
  all_goals exact hl.keep ht nofun rfl rfl rfl rfl

theorem Locks.clientStep (hl : Locks s) {t : Nat} {i : Slot} {c : Nat} {pc pc' : ClientPc}
    (ht : s.threads t = .client i c pc) (hs : ClientStep S t i pc s pc' s') :
    Locks (s'.setPc t (.client i c pc')) := by
  cases hs
  case lockSend hs =>
    exact hl.update ht nofun rfl rfl (fun m => by simp [State.owner_setClient_apply, Pc.holds])
      fun m hp _ => by simp [Pc.holds] at hp; subst hp; exact hs
  case send =>
    exact hl.update ht nofun rfl rfl (fun m => by simp [State.owner_setClient_apply, Pc.holds])
      fun m hp => by simp [Pc.holds] at hp
  case received => exact hl.keep ht nofun rfl rfl (State.owner_setClient rfl) rfl
  case dispatch => exact hl.keep ht nofun rfl rfl (State.owner_setClient rfl) (Pc.holds_afterDispatch ..)
  case cleanup =>
    exact hl.keep ht nofun rfl rfl ((State.owner_setClient (by rfl)).trans (State.owner_clientClose _ _))
      rfl
  all_goals exact hl.keep ht nofun rfl rfl rfl rfl

theorem Locks.flushStep (hl : Locks s) {t : Nat} {f : FlushPc} {f' : Option FlushPc}
    (ht : (s.threads t).flushPc = some f) (hs : FlushStep S t f s f' s') :
    Locks (s'.setPc t ((s.threads t).afterFlush f')) := by
  have h₀ := Pc.ne_unused_of_flushPc ht
  have hpc₀ := Pc.holds_of_flushPc ht
  have hpc := Pc.holds_afterFlush ht f'
  cases hs
  case empty | dropped | skip | unframed | framed =>
    exact hl.keep rfl h₀ rfl rfl rfl (by rw [hpc, hpc₀]; rfl)
  all_goals refine hl.update rfl h₀ rfl rfl (fun m => ?_) fun m hp hq => ?_ <;>
    simp only [hpc₀, hpc, Option.elim, State.owner_setClient_apply, State.owner_logSend] at * <;>
    cases m <;> simp_all [FlushPc.holds, State.owner]

theorem Locks.step (hl : Locks s) (h : Step S s s') : Locks s' := by
  cases h with
  | listener ht hs => exact hl.listenerStep ht hs
  | flusher ht hs => exact hl.flusherStep ht hs
  | stopper ht hs => exact hl.stopStep ht hs
  | producer ht hs => exact hl.producerStep ht hs
  | client ht hs => exact hl.clientStep ht hs
  | flush ht hs => exact hl.flushStep ht hs
  | clock => exact ⟨hl.owner_iff, hl.unused⟩

end

theorem Locks.init (nprod t0 : Nat) : Locks (State.init nprod t0) where
  owner_iff m t := by
    have hpc : ((State.init nprod t0).threads t).holds m = false := by
      simp only [State.init]; split_ifs <;> rfl
    rw [hpc]; cases m <;> simp [State.owner, State.init, clientInit]
  unused t ht := by
    simp only [State.init, producerTid] at ht ⊢
    rw [if_neg, if_neg, if_neg, if_neg] <;>
      simp only [listenerTid, flusherTid, stopperTid, not_and, not_lt] <;> omega

theorem Locks.reachable {S : Setup} {nprod t0 : Nat} {s : State}
    (h : Reachable S nprod t0 s) : Locks s := by
  induction h with
  | refl => exact Locks.init nprod t0
  | tail _ hs ih => exact ih.step hs

/-! ### No cycle of waiting threads -/

/-- Thread `t` waits for a mutex that thread `u` holds. -/
def State.WaitsOn (s : State) (t u : Nat) : Prop :=
  ∃ m, (s.threads t).waitsFor = some m ∧ s.owner m = some u

/-- The order in which the code nests the mutexes. -/
def Mutex.rank : Mutex → Nat
  | .batch => 0
  | .clients => 1
  | .send _ => 2

/-- The rank of the mutex thread `t` waits for, and `3`, above every rank, when it waits
for none. -/
def State.waitRank (s : State) (t : Nat) : Nat := ((s.threads t).waitsFor).elim 3 Mutex.rank

theorem FlushPc.rank_lt {f : FlushPc} {m m' : Mutex} (hw : f.waitsFor = some m')
    (hh : f.holds m = true) : m.rank < m'.rank := by
  cases f <;> simp only [FlushPc.waitsFor, Option.some.injEq, reduceCtorEq] at hw <;> subst hw <;>
    cases m <;> simp_all [FlushPc.holds, Mutex.rank]

theorem Pc.rank_lt {pc : Pc} {m m' : Mutex} (hw : pc.waitsFor = some m')
    (hh : pc.holds m = true) : m.rank < m'.rank := by
  cases pc with
  | flusher p => cases p <;> first | exact FlushPc.rank_lt hw hh | cases hh
  | producer p => cases p <;> first | exact FlushPc.rank_lt hw hh | cases hh | cases hw
  | client i c p => cases p <;> first | cases hh | cases hw
  | _ => cases hh

theorem Locks.waitRank_lt {s : State} (hl : Locks s) {t u : Nat} (h : s.WaitsOn t u) :
    s.waitRank t < s.waitRank u := by
  obtain ⟨m, hw, ho⟩ := h
  have hh := (hl.owner_iff m u).mp ho
  unfold State.waitRank
  rw [hw]
  cases hu : (s.threads u).waitsFor with
  | none => cases m <;> simp [Mutex.rank]
  | some m' => exact Pc.rank_lt hu hh

/-- Deadlock freedom: in every reachable state a thread that waits for a mutex holds only
mutexes of lower rank (`batch_mutex` < `clients_mutex` < `send_mutex`, so it never waits for
one it holds), and no thread waits, through a chain of others, for itself. -/
theorem server_waits_for_acyclic (S : Setup) (nprod t0 : Nat) (s : State)
    (h : Reachable S nprod t0 s) :
    (∀ t m m', (s.threads t).waitsFor = some m' → s.owner m = some t → m.rank < m'.rank) ∧
      ∀ t, ¬ Relation.TransGen s.WaitsOn t t := by
  have hl := Locks.reachable h
  refine ⟨fun t m m' hw ho => Pc.rank_lt hw ((hl.owner_iff m t).mp ho), fun t hc => ?_⟩
  have hlt := hc.lift s.waitRank fun _ _ => hl.waitRank_lt
  rw [Relation.transGen_eq_self transitive_lt] at hlt
  exact lt_irrefl _ hlt

/-- A producer holds `batch_mutex` at its write while the flush thread, whose timer has
run out, waits for it. -/
theorem server_waits_for_acyclic_on_timer :
    ∃ s, Reachable specSetup 1 0 s ∧ s.WaitsOn flusherTid (producerTid 0) ∧
      (∀ t m m', (s.threads t).waitsFor = some m' → s.owner m = some t → m.rank < m'.rank) ∧
        ∀ t, ¬ Relation.TransGen s.WaitsOn t t := by
  have h : Reachable specSetup 1 0 _ :=
    .tail (.tail (.tail (.tail (.tail .refl
      (.producer (show State.threads _ 4 = _ from rfl) (.call ⟨fun _ => 0, 0, 0, fun _ => 0, 0⟩)))
      (.producer (show State.threads _ 4 = _ from rfl) (.room (by rfl) (by decide))))
      (.flusher (by rfl) (.enter (by rfl))))
      (.clock 100000000 (by decide)))
      (.flusher (by rfl) (.due (by decide)))
  exact ⟨_, h, ⟨.batch, rfl, rfl⟩, server_waits_for_acyclic specSetup 1 0 _ h⟩

end EsphomeProxy
