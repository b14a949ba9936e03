import Mathlib.Data.List.FinRange
import EsphomeProxy.Server.Locks

/-! The slot table across whole runs: who owns each slot, and what a live one holds. -/

namespace EsphomeProxy

/-- Slots the listener has taken and not yet handed to a thread. -/
def ListenerPc.Reserves : ListenerPc → Slot → Prop
  | .start j _, i => j = i
  | .createFailed j, i => j = i
  | _, _ => False

/-- Slots whose thread `esphome_api_stop` has already joined or skipped. -/
def StopPc.Past : StopPc → Slot → Prop
  | .joinClients k, i => i.val < k
  | .joinClient j, i => i.val < j.val
  | .closeAll, _ => True
  | .returned, _ => True
  | _, _ => False

/-- Whether `esphome_api_stop` is past `pthread_join(server->listen_thread)`. -/
def StopPc.JoinedListener : StopPc → Prop
  | .idle | .closeListen | .joinListener => False
  | _ => True

/-- The slot `flush_ble_batch` is sending to. -/
def FlushPc.sendSlot : FlushPc → Option Slot
  | .lockSend i _ _ => some i
  | .send i _ _ => some i
  | _ => none

def Pc.sendSlot (pc : Pc) : Option Slot := pc.flushPc.bind FlushPc.sendSlot

/-- The threads that only take part in the batch: the flush thread and the producers. -/
def Pc.Neutral : Pc → Prop
  | .flusher _ => True
  | .producer _ => True
  | _ => False

/-- What the listener's next steps rely on, at each of its points. -/
def State.ListenerOk (s : State) : ListenerPc → Prop
  | .scan fd conn => 0 ≤ fd ∧ s.fds fd = some conn ∧ conn < s.nextConn ∧
      ∀ j, 0 ≤ (s.clients j).fd → (s.clients j).owner ≠ some conn
  | .reject fd => ∀ j, 0 ≤ (s.clients j).fd → (s.clients j).fd ≠ fd
  | .start i conn => 0 ≤ (s.clients i).fd ∧ (s.clients i).owner = some conn
  | _ => True

structure Slots (S : Setup) (s : State) : Prop where
  live : ∀ i, 0 ≤ (s.clients i).fd →
    ∃ c, (s.clients i).owner = some c ∧ s.fds (s.clients i).fd = some c ∧ c < s.nextConn
  owner_inj : ∀ i j, 0 ≤ (s.clients i).fd → 0 ≤ (s.clients j).fd →
    (s.clients i).owner = (s.clients j).owner → i = j
  free : ∀ i, (s.clients i).fd < 0 → (s.clients i).authenticated = false ∧
    (s.clients i).subscribedBle = false ∧ (s.clients i).recvBuffer = []
  session : ∀ i, 0 ≤ (s.clients i).fd →
    (s.clients i).authenticated = (s.clients i).handled.any setsAuthenticated ∧
    (s.clients i).subscribedBle = (s.clients i).handled.any (setsSubscribed S)
  sent : ∀ e ∈ s.sent, 0 ≤ e.fd ∧ ∃ c, e.owner = some c ∧ e.target = some c
  /-- A client thread that has not exited serves its connection in its slot. -/
  client : ∀ t i c p, s.threads t = .client i c p → p ≠ .exited →
    0 ≤ (s.clients i).fd ∧ (s.clients i).owner = some c ∧ (s.clients i).thread = t ∧
      (s.clients i).threadRunning = true
  reserved : ∀ t i c p pc, s.threads t = .client i c p → p ≠ .exited →
    s.threads listenerTid = .listener pc → ¬ pc.Reserves i
  past : ∀ t i c p pc, s.threads t = .client i c p → p ≠ .exited →
    s.threads stopperTid = .stopper pc → ¬ pc.Past i
  scan : ∀ fd conn, s.threads listenerTid = .listener (.scan fd conn) →
    0 ≤ fd ∧ s.fds fd = some conn ∧ conn < s.nextConn ∧
      ∀ j, 0 ≤ (s.clients j).fd → (s.clients j).owner ≠ some conn
  reject : ∀ fd, s.threads listenerTid = .listener (.reject fd) →
    ∀ j, 0 ≤ (s.clients j).fd → (s.clients j).fd ≠ fd
  start : ∀ i conn, s.threads listenerTid = .listener (.start i conn) →
    0 ≤ (s.clients i).fd ∧ (s.clients i).owner = some conn
  stopper : ∀ pc, s.threads stopperTid = .stopper pc → pc.JoinedListener →
    s.threads listenerTid = .listener .done
  roles : (∃ pc, s.threads listenerTid = .listener pc) ∧ ∃ pc, s.threads stopperTid = .stopper pc
  flush : ∀ t i, (s.threads t).sendSlot = some i → 0 ≤ (s.clients i).fd

section
variable {S : Setup} {s s' : State} {t : Nat} {pc₀ pc : Pc}

theorem Slots.ne_listenerTid (hs : Slots S s) (hold : s.threads t = pc₀) (hn : pc₀.Neutral) :
    t ≠ listenerTid := by
  rintro rfl
  obtain ⟨⟨p, hp⟩, -⟩ := hs.roles
  rw [hp] at hold; subst hold; exact hn

theorem Slots.ne_stopperTid (hs : Slots S s) (hold : s.threads t = pc₀) (hn : pc₀.Neutral) :
    t ≠ stopperTid := by
  rintro rfl
  obtain ⟨-, ⟨p, hp⟩⟩ := hs.roles
  rw [hp] at hold; subst hold; exact hn

theorem Slots.congr (hs : Slots S s) (hthr : s'.threads = s.threads)
    (hcl : ∃ f : Slot → Option Nat, s'.clients = fun i => { s.clients i with sendMutex := f i })
    (hfds : s'.fds = s.fds) (hconn : s'.nextConn = s.nextConn) (hsent : s'.sent = s.sent) :
    Slots S s' := by
  obtain ⟨f, hf⟩ := hcl
  obtain ⟨_, _, _, _, _, _, _, _, _, _, _, _, _, _⟩ := hs
  constructor <;> simp only [hthr, hf, hfds, hconn, hsent] <;> assumption

theorem Slots.setPc (hs : Slots S s) (hL : t ≠ listenerTid) (hT : t ≠ stopperTid)
    (hcl : ∀ i c p, pc = .client i c p → p ≠ .exited →
      ∃ p₀, s.threads t = .client i c p₀ ∧ p₀ ≠ .exited)
    (hslot : ∀ i, pc.sendSlot = some i → 0 ≤ (s.clients i).fd) : Slots S (s.setPc t pc) := by
  have hother : ∀ u i c p, Function.update s.threads t pc u = .client i c p → p ≠ .exited →
      ∃ p₀, s.threads u = .client i c p₀ ∧ p₀ ≠ .exited := fun u i c p h hp => by
    by_cases hu : u = t
    · subst hu; rw [Function.update_same] at h; exact hcl i c p h hp
    · rw [Function.update_noteq hu] at h; exact ⟨p, h, hp⟩
  obtain ⟨hlive, hinj, hfree, hsess, hsent, hcli, hres, hpast, hscan, hrej, hstart, hstop,
    hroles, hflush⟩ := hs
  refine ⟨hlive, hinj, hfree, hsess, hsent, ?_, ?_, ?_, ?_, ?_, ?_, ?_, ?_, ?_⟩ <;>
    simp only [State.threads_setPc, Function.update_noteq hL.symm, Function.update_noteq hT.symm]
  · intro u i c p h hp
    obtain ⟨p₀, h₀, hp₀⟩ := hother u i c p h hp
    exact hcli u i c p₀ h₀ hp₀
  · intro u i c p q h hp
    obtain ⟨p₀, h₀, hp₀⟩ := hother u i c p h hp
    exact hres u i c p₀ q h₀ hp₀
  · intro u i c p q h hp
    obtain ⟨p₀, h₀, hp₀⟩ := hother u i c p h hp
    exact hpast u i c p₀ q h₀ hp₀
  all_goals try assumption
  intro u i h
  rw [Function.update_apply] at h
  split_ifs at h
  exacts [hslot i h, hflush u i h]

theorem Slots.setPc_neutral (hs : Slots S s) (hold : s.threads t = pc₀) (hn₀ : pc₀.Neutral)
    (hn : pc.Neutral) (hslot : ∀ i, pc.sendSlot = some i → 0 ≤ (s.clients i).fd) :
    Slots S (s.setPc t pc) :=
  hs.setPc (hs.ne_listenerTid hold hn₀) (hs.ne_stopperTid hold hn₀)
    (fun _ _ _ h => by subst h; exact hn.elim) hslot

theorem Slots.setPc_neutral' (hs : Slots S s) (hold : s.threads t = pc₀) (hn₀ : pc₀.Neutral)
    (hn : pc.Neutral) (hslot : ∀ i, pc.sendSlot = some i → 0 ≤ (s.clients i).fd)
    (hthr : s'.threads = s.threads) (hcl : s'.clients = s.clients) (hfds : s'.fds = s.fds)
    (hconn : s'.nextConn = s.nextConn) (hsent : s'.sent = s.sent) :
    Slots S (s'.setPc t pc) :=
  (hs.setPc_neutral hold hn₀ hn hslot).congr (by simp [hthr]) ⟨fun i => (s.clients i).sendMutex, hcl⟩
    hfds hconn hsent

theorem Slots.setSendMutex (hs : Slots S s) (i : Slot) (x : Option Nat) :
    Slots S (s.setClient i { s.clients i with sendMutex := x }) := by
  refine hs.congr rfl ⟨fun j => if j = i then x else (s.clients j).sendMutex, ?_⟩ rfl rfl rfl
  funext j
  by_cases hj : j = i
  · subst hj; simp [State.setClient]
  · simp [State.setClient, hj]

theorem Slots.logSend (hs : Slots S s) {i : Slot} (hi : 0 ≤ (s.clients i).fd) (t : Nat)
    (frame : List UInt8) (k : Nat) : Slots S (s.logSend t i frame k) :=
  { hs with
    sent := by
      obtain ⟨c, hc, hfd, -⟩ := hs.live i hi
      intro e he
      simp only [State.logSend, List.mem_append, List.mem_singleton] at he
      rcases he with he | rfl
      · exact hs.sent e he
      · exact ⟨hi, c, hc, hfd⟩ }

theorem Slots.setLiveClient (hs : Slots S s) {i : Slot} (hi : 0 ≤ (s.clients i).fd) (c : Client)
    (hfd : c.fd = (s.clients i).fd) (howner : c.owner = (s.clients i).owner)
    (hthread : c.thread = (s.clients i).thread)
    (hrun : c.threadRunning = (s.clients i).threadRunning)
    (hsess : c.authenticated = c.handled.any setsAuthenticated ∧
      c.subscribedBle = c.handled.any (setsSubscribed S)) :
    Slots S (s.setClient i c) := by
  have same : ∀ {α : Type} (g : Client → α), g c = g (s.clients i) →
      ∀ j, g ((s.setClient i c).clients j) = g (s.clients j) := fun g h j => by
    rw [State.clients_setClient]; split_ifs with hj
    · subst hj; exact h
    · rfl
  have hfd' := same Client.fd hfd
  obtain ⟨hlive, hinj, hfree, hsess', hsent, hcli, hres, hpast, hscan, hrej, hstart, hstop,
    hroles, hflush⟩ := hs
  refine ⟨?_, ?_, ?_, ?_, hsent, ?_, hres, hpast, ?_, ?_, ?_, hstop, hroles, ?_⟩ <;>
    simp only [State.threads_setClient, State.fds_setClient, State.nextConn_setClient, hfd',
      same Client.owner howner, same Client.thread hthread, same Client.threadRunning hrun] <;>
    try assumption
  · intro j hj
    rw [State.clients_setClient]
    split_ifs with h
    · subst h; omega
    · exact hfree j hj
  · intro j hj
    rw [State.clients_setClient]
    split_ifs with h
    · exact hsess
    · exact hsess' j hj

end

theorem Pc.neutral_of_flushPc {pc : Pc} {f : FlushPc} (h : pc.flushPc = some f) : pc.Neutral := by
  unfold Pc.flushPc at h; split at h <;> first | exact trivial | cases h

theorem Pc.sendSlot_of_flushPc {pc : Pc} {f : FlushPc} (h : pc.flushPc = some f) :
    pc.sendSlot = f.sendSlot := by
  simp [Pc.sendSlot, h]

theorem Pc.afterFlush_of_flushPc {pc : Pc} {f : FlushPc} (h : pc.flushPc = some f)
    (f' : Option FlushPc) : (pc.afterFlush f').Neutral ∧
      (pc.afterFlush f').sendSlot = f'.bind FlushPc.sendSlot := by
  unfold Pc.flushPc at h; split at h <;> cases h <;> cases f' <;> exact ⟨trivial, rfl⟩

section
variable {S : Setup} {s s' : State}

theorem Slots.flushStep (hs : Slots S s) {t : Nat} {f : FlushPc}
    {f' : Option FlushPc} (ht : (s.threads t).flushPc = some f) (hst : FlushStep S t f s f' s') :
    Slots S (s'.setPc t ((s.threads t).afterFlush f')) := by
  have hn₀ := Pc.neutral_of_flushPc ht
  have hslot₀ := Pc.sendSlot_of_flushPc ht
  obtain ⟨hn, hslot⟩ := Pc.afterFlush_of_flushPc ht f'
  cases hst
  case framed i _ _ hfd _ _ =>
    exact hs.setPc_neutral' rfl hn₀ hn (fun j h => by simp_all [FlushPc.sendSlot]) rfl rfl rfl
      rfl rfl
  case lockSend i _ _ _ =>
    exact (hs.setSendMutex i _).setPc_neutral rfl hn₀ hn fun j h => by
      simp only [hslot, FlushPc.sendSlot, Option.some_bind, Option.some.injEq] at h
      subst h
      simpa [State.setClient] using hs.flush t i (by simp [hslot₀, FlushPc.sendSlot])
  case send i _ _ k _ =>
    have hi := hs.flush t i (by simp [hslot₀, FlushPc.sendSlot])
    exact ((hs.logSend hi t _ k).setSendMutex i _).setPc_neutral rfl hn₀ hn fun j h => by
      simp [hslot, FlushPc.sendSlot] at h
  all_goals
    exact hs.setPc_neutral' rfl hn₀ hn (fun j h => by simp [hslot, FlushPc.sendSlot] at h)
      rfl rfl rfl rfl rfl

theorem Slots.roles_ne (hs : Slots S s) {t : Nat} {i : Slot} {c : Nat} {p : ClientPc}
    (ht : s.threads t = .client i c p) : t ≠ listenerTid ∧ t ≠ stopperTid := by
  obtain ⟨⟨q, hq⟩, ⟨r, hr⟩⟩ := hs.roles
  constructor <;> rintro rfl <;> simp_all

theorem Slots.setListener (hs : Slots S s) {pc pc' : ListenerPc}
    (ht : s.threads listenerTid = .listener pc) (hne : pc ≠ .done) (hok : s.ListenerOk pc')
    (hres : ∀ i, pc'.Reserves i → ∀ u c p, s.threads u = .client i c p → p = .exited) :
    Slots S (s.setPc listenerTid (.listener pc')) := by
  have hother : ∀ u i c p, Function.update s.threads listenerTid (.listener pc') u =
      .client i c p → s.threads u = .client i c p := fun u i c p h => by
    rwa [Function.update_apply, if_neg] at h
    rintro rfl; simp at h
  have hTL : stopperTid ≠ listenerTid := by decide
  obtain ⟨hlive, hinj, hfree, hsess, hsent, hcli, hres', hpast, hscan, hrej, hstart, hstop,
    hroles, hflush⟩ := hs
  refine ⟨hlive, hinj, hfree, hsess, hsent, fun u i c p h => hcli u i c p (hother u i c p h),
    ?_, fun u i c p q h => hpast u i c p q (hother u i c p h), ?_, ?_, ?_, ?_, ?_, ?_⟩ <;>
    simp only [State.threads_setPc, Function.update_same, Function.update_noteq hTL,
      Pc.listener.injEq, forall_eq'] <;> try simp only [State.ListenerOk] at hok
  · intro u i c p q h hp hq hr
    subst hq
    exact hp (hres i hr u c p (hother u i c p h))
  · rintro fd conn rfl; exact hok
  · rintro fd rfl; exact hok
  · rintro i conn rfl; exact hok
  · intro q hq hj
    exact absurd (Pc.listener.inj (ht.symm.trans (hstop q hq hj))) hne
  · exact ⟨⟨pc', rfl⟩, hroles.2⟩
  · intro u i h
    rw [Function.update_apply] at h
    split_ifs at h
    · simp [Pc.sendSlot, Pc.flushPc] at h
    · exact hflush u i h

theorem Slots.setStopper (hs : Slots S s) {q' : StopPc}
    (hjoin : q'.JoinedListener → s.threads listenerTid = .listener .done)
    (hpast : ∀ i, q'.Past i → ∀ u c p, s.threads u = .client i c p → p = .exited) :
    Slots S (s.setPc stopperTid (.stopper q')) := by
  have hother : ∀ u i c p, Function.update s.threads stopperTid (.stopper q') u =
      .client i c p → s.threads u = .client i c p := fun u i c p h => by
    rwa [Function.update_apply, if_neg] at h
    rintro rfl; simp at h
  have hLT : listenerTid ≠ stopperTid := by decide
  obtain ⟨hlive, hinj, hfree, hsess, hsent, hcli, hres, hpast', hscan, hrej, hstart, hstop,
    hroles, hflush⟩ := hs
  refine ⟨hlive, hinj, hfree, hsess, hsent, fun u i c p h => hcli u i c p (hother u i c p h),
    fun u i c p q h => hres u i c p q (hother u i c p h), ?_, ?_, ?_, ?_, ?_, ?_, ?_⟩ <;>
    simp only [State.threads_setPc, Function.update_same, Function.update_noteq hLT,
      Pc.stopper.injEq, forall_eq'] <;> try assumption
  · intro u i c p r h hp hr hq
    subst hr
    exact hp (hpast i hq u c p (hother u i c p h))
  · exact ⟨hroles.1, q', rfl⟩
  · intro u i h
    rw [Function.update_apply] at h
    split_ifs at h
    · simp [Pc.sendSlot, Pc.flushPc] at h
    · exact hflush u i h

theorem Pc.holds_clients_of_sendSlot {pc : Pc} {i : Slot} (h : pc.sendSlot = some i) :
    pc.holds .clients = true := by
  unfold Pc.sendSlot at h
  cases hf : pc.flushPc with
  | none => simp [hf] at h
  | some f =>
    rw [Pc.holds_of_flushPc hf]
    cases f <;> simp_all [FlushPc.sendSlot, FlushPc.holds]

theorem Locks.no_sendSlot (hl : Locks s) (hm : s.clientsMutex = none) (u : Nat) (i : Slot) :
    (s.threads u).sendSlot ≠ some i := fun h => by
  have := (hl.owner_iff .clients u).mpr (Pc.holds_clients_of_sendSlot h)
  simp [State.owner, hm] at this

theorem Slots.clientClose (hs : Slots S s) {i : Slot}
    (hflush : ∀ u, (s.threads u).sendSlot ≠ some i)
    (hcl : ∀ u c p, s.threads u = .client i c p → p = .exited)
    (hstart : ∀ conn, s.threads listenerTid ≠ .listener (.start i conn)) :
    Slots S (s.clientClose i) := by
  have hother : ∀ j, j ≠ i → (s.clientClose i).clients j = s.clients j := fun j hj => by
    simp [State.clientClose, Function.update_noteq hj]
  have hself : (s.clientClose i).clients i = (s.clients i).close := by simp [State.clientClose]
  have hfree_i : ((s.clientClose i).clients i).fd < 0 := by
    rw [hself]; exact Client.close_fd_neg _
  have hne : ∀ j, 0 ≤ ((s.clientClose i).clients j).fd → j ≠ i := by
    rintro j hj rfl; omega
  have hlive' : ∀ j, 0 ≤ ((s.clientClose i).clients j).fd → 0 ≤ (s.clients j).fd := fun j hj => by
    rwa [hother j (hne j hj)] at hj
  have hfds : ∀ fd, fd ≠ (s.clients i).fd → (s.clientClose i).fds fd = s.fds fd := fun fd hfd => by
    simp only [State.clientClose, closeFd]; split_ifs <;> simp [Function.update_noteq hfd]
  obtain ⟨hlive, hinj, hfree, hsess, hsent, hcli, hres, hpast, hscan, hrej, hstart', hstop,
    hroles, hflush'⟩ := hs
  have hfd_ne : ∀ j, j ≠ i → 0 ≤ (s.clients j).fd → (s.clients j).fd ≠ (s.clients i).fd := by
    intro j hji hj heq
    obtain ⟨c, hc, hfd, -⟩ := hlive j hj
    obtain ⟨c', hc', hfd', -⟩ := hlive i (heq ▸ hj)
    rw [heq, hfd'] at hfd
    exact hji (hinj j i hj (heq ▸ hj) (by rw [hc, hc', hfd]))
  refine ⟨fun j hj => ?_, fun j k hj hk => ?_, fun j hj => ?_, fun j hj => ?_, hsent,
    fun u j c p h hp => ?_, hres, hpast, fun fd conn h => ?_, fun fd h j hj => ?_,
    fun j conn h => ?_, hstop, hroles, fun u j h => ?_⟩
  · have hji := hne j hj
    rw [hother j hji] at hj ⊢
    rw [hfds _ (hfd_ne j hji hj)]
    exact hlive j hj
  · rw [hother j (hne j hj), hother k (hne k hk)]
    exact hinj j k (hlive' j hj) (hlive' k hk)
  · by_cases hji : j = i
    · subst hji; rw [hself]; exact ⟨rfl, rfl, rfl⟩
    · rw [hother j hji] at hj ⊢; exact hfree j hj
  · have hji := hne j hj
    rw [hother j hji] at hj ⊢; exact hsess j hj
  · have hji : j ≠ i := by rintro rfl; exact hp (hcl u c p h)
    rw [hother j hji]; exact hcli u j c p h hp
  · obtain ⟨h0, hfd, hc, hown⟩ := hscan fd conn h
    refine ⟨h0, ?_, hc, fun j hj => ?_⟩
    · rw [hfds]
      · exact hfd
      rintro rfl
      obtain ⟨c', hc', hfd', -⟩ := hlive i h0
      exact hown i h0 (by rw [hc', ← hfd, hfd'])
    · rw [hother j (hne j hj)]; exact hown j (hlive' j hj)
  · rw [hother j (hne j hj)]; exact hrej fd h j (hlive' j hj)
  · have hji : j ≠ i := by rintro rfl; exact hstart conn h
    rw [hother j hji]; exact hstart' j conn h
  · have hji : j ≠ i := by rintro rfl; exact hflush u h
    rw [hother j hji]; exact hflush' u j h

theorem State.firstFree_fd {s : State} {i : Slot} (h : s.firstFree = some i) :
    (s.clients i).fd < 0 := by
  simpa using List.find?_some h

theorem State.firstFree_none {s : State} (h : s.firstFree = none) (i : Slot) :
    0 ≤ (s.clients i).fd := by
  have := List.find?_eq_none.mp h i (List.mem_finRange i)
  simpa using this

theorem StopPc.joinedListener_of_past {q : StopPc} {i : Slot} (h : q.Past i) : q.JoinedListener := by
  cases q <;> first | exact h.elim | trivial

theorem Slots.accept (hs : Slots S s) (ht : s.threads listenerTid = .listener .accept) {fd : Int}
    (hfd : s.fds fd = none) :
    Slots S { s with fds := Function.update s.fds fd (some s.nextConn),
                     nextConn := s.nextConn + 1 } :=
  { hs with
    live := fun j hj => by
      obtain ⟨c, hc, hfdj, hlt⟩ := hs.live j hj
      have hne : (s.clients j).fd ≠ fd := by rintro rfl; simp [hfd] at hfdj
      exact ⟨c, hc, by simpa [Function.update_noteq hne] using hfdj, Nat.lt_succ_of_lt hlt⟩
    scan := fun fd conn h => by simp [ht] at h }

theorem Slots.closeRejected (hs : Slots S s) {fd : Int}
    (ht : s.threads listenerTid = .listener (.reject fd)) :
    Slots S { s with fds := Function.update s.fds fd none } :=
  { hs with
    live := fun j hj => by
      simpa [Function.update_noteq (hs.reject fd ht j hj)] using hs.live j hj
    scan := fun fd conn h => by simp [ht] at h }

theorem Slots.take (hs : Slots S s) {fd : Int} {conn : Nat} {i : Slot}
    (ht : s.threads listenerTid = .listener (.scan fd conn)) (hi : (s.clients i).fd < 0) :
    Slots S ((s.setClient i { s.clients i with
      fd := fd, owner := some conn, handled := [], received := [] }).setPc
        listenerTid (.listener (.start i conn))) := by
  obtain ⟨hfd0, hfds, hconn, hown⟩ := hs.scan fd conn ht
  have hother : ∀ u j c p, Function.update s.threads listenerTid (.listener (.start i conn)) u =
      .client j c p → s.threads u = .client j c p := fun u j c p h => by
    rwa [Function.update_apply, if_neg] at h
    rintro rfl; simp at h
  have hnot : ∀ u j c p, s.threads u = .client j c p → p ≠ .exited → j ≠ i := by
    rintro u j c p h hp rfl; have := (hs.client u j c p h hp).1; omega
  have hTL : stopperTid ≠ listenerTid := by decide
  refine ⟨fun j hj => ?_, fun j k hj hk heq => ?_, fun j hj => ?_, fun j hj => ?_, hs.sent,
    fun u j c p h hp => ?_, fun u j c p q h hp hq => ?_, fun u j c p q h hp => ?_,
    fun fd' conn' h => ?_, fun fd' h => ?_, fun j conn' h => ?_, fun q hq hj => ?_, ?_,
    fun u j h => ?_⟩ <;>
    simp only [State.clients_setPc, State.clients_setClient, State.threads_setPc,
      State.fds_setPc, State.fds_setClient, State.nextConn_setPc, State.nextConn_setClient,
      Function.update_same, Function.update_noteq hTL, Pc.listener.injEq] at *
  · split_ifs at hj ⊢ with hji
    · exact ⟨conn, rfl, hfds, hconn⟩
    · exact hs.live j hj
  · split_ifs at hj hk heq with hji hki
    · subst hji; subst hki; rfl
    · exact absurd heq.symm (hown k hk)
    · exact absurd heq (hown j hj)
    · exact hs.owner_inj j k hj hk heq
  · split_ifs at hj ⊢ with hji
    · simp only at hj; omega
    · exact hs.free j hj
  · split_ifs at hj ⊢ with hji
    · subst hji; obtain ⟨ha, hb, -⟩ := hs.free j hi; simp [ha, hb]
    · exact hs.session j hj
  · have h' := hother u j c p h
    rw [if_neg (hnot u j c p h' hp)]; exact hs.client u j c p h' hp
  · subst hq; exact fun hr => hnot u j c p (hother u j c p h) hp hr.symm
  · exact hs.past u j c p q (hother u j c p h) hp
  · cases h
  · cases h
  · obtain ⟨rfl, rfl⟩ := h; simp [hfd0]
  · exact absurd (Pc.listener.inj (ht.symm.trans (hs.stopper q hq hj))) (by simp)
  · exact ⟨⟨_, rfl⟩, hs.roles.2⟩
  · rw [Function.update_apply] at h
    split_ifs at h with hu
    · simp [Pc.sendSlot, Pc.flushPc] at h
    · have := hs.flush u j h
      rw [if_neg]; exact this
      rintro rfl; omega

theorem Slots.spawn (hs : Slots S s) (hl : Locks s) {tid : Nat} (hh : s.HandleFree tid) {i : Slot}
    (pc : Pc) (hnone : ∀ u c p, s.threads u = .client i c p → p = .exited)
    (hnew : ∀ j c p, pc = .client j c p → p ≠ .exited → j = i ∧ 0 ≤ (s.clients i).fd ∧
      (s.clients i).owner = some c ∧ (∀ q, s.threads listenerTid = .listener q → ¬ q.Reserves i) ∧
      ∀ q, s.threads stopperTid = .stopper q → ¬ q.Past i)
    (hslot : pc.sendSlot = none) : Slots S (s.spawn tid pc i) := by
  obtain ⟨⟨q, hq⟩, ⟨r, hr⟩⟩ := hs.roles
  have hL : listenerTid ≠ tid := hl.ne_of_handleFree hh (by simp [hq]) (by simp [hq])
  have hT : stopperTid ≠ tid := hl.ne_of_handleFree hh (by simp [hr]) (by simp [hr])
  have same : ∀ {α : Type} (g : Client → α),
      (∀ c : Client, g { c with thread := tid, threadRunning := true } = g c) →
      ∀ j, g ((s.spawn tid pc i).clients j) = g (s.clients j) := fun g h j =>
    State.clients_setClient_of g j (h _)
  unfold State.spawn at same ⊢
  refine ⟨?_, ?_, ?_, ?_, hs.sent, fun u j c p h hp => ?_, fun u j c p q h hp => ?_,
    fun u j c p q h hp => ?_, ?_, ?_, ?_, ?_, ?_, fun u j h => ?_⟩ <;>
    simp only [State.threads_setClient, State.threads_setPc, Function.update_noteq hL,
      Function.update_noteq hT, State.fds_setClient, State.fds_setPc, State.nextConn_setClient,
      State.nextConn_setPc, same Client.fd (fun _ => rfl), same Client.owner (fun _ => rfl),
      same Client.authenticated (fun _ => rfl), same Client.subscribedBle (fun _ => rfl),
      same Client.recvBuffer (fun _ => rfl), same Client.handled (fun _ => rfl)] at * <;>
    obtain ⟨hlive, hinj, hfree, hsess, hsent, hcli, hres, hpast, hscan, hrej, hstart, hstop,
      hroles, hflush⟩ := hs <;>
    try assumption
  all_goals rw [Function.update_apply] at h; split_ifs at h with hu
  · obtain ⟨rfl, hfd, hown, -, -⟩ := hnew j c p h hp
    subst hu; simp [State.clients_setClient, hfd, hown]
  · have hji : j ≠ i := fun hji => hp (hnone u c p (hji ▸ h))
    rw [State.clients_setClient, if_neg hji]; exact hcli u j c p h hp
  · obtain ⟨rfl, -, -, hres', -⟩ := hnew j c p h hp; exact hres' q
  · exact hres u j c p q h hp
  · obtain ⟨rfl, -, -, -, hpast'⟩ := hnew j c p h hp; exact hpast' q
  · exact hpast u j c p q h hp
  · simp [hslot] at h
  · exact hflush u j h

theorem Slots.setRunning (hs : Slots S s) {i : Slot}
    (hnone : ∀ u c p, s.threads u = .client i c p → p = .exited) (r : Bool) :
    Slots S (s.setClient i { s.clients i with threadRunning := r }) := by
  have same : ∀ {α : Type} (g : Client → α),
      (∀ c : Client, g { c with threadRunning := r } = g c) →
      ∀ j, g ((s.setClient i { s.clients i with threadRunning := r }).clients j) =
        g (s.clients j) := fun g h j => by
    rw [State.clients_setClient]; split_ifs with hj
    · subst hj; exact h _
    · rfl
  obtain ⟨hlive, hinj, hfree, hsess, hsent, hcli, hres, hpast, hscan, hrej, hstart, hstop,
    hroles, hflush⟩ := hs
  refine ⟨?_, ?_, ?_, ?_, hsent, fun u j c p h hp => ?_, hres, hpast, ?_, ?_, ?_, hstop, hroles,
    ?_⟩ <;>
    simp only [State.threads_setClient, State.fds_setClient, State.nextConn_setClient,
      same Client.fd (fun _ => rfl), same Client.owner (fun _ => rfl),
      same Client.authenticated (fun _ => rfl), same Client.subscribedBle (fun _ => rfl),
      same Client.recvBuffer (fun _ => rfl), same Client.handled (fun _ => rfl),
      same Client.thread (fun _ => rfl)] <;>
    try assumption
  have hji : j ≠ i := by rintro rfl; exact hp (hnone u c p h)
  rw [State.clients_setClient, if_neg hji]
  exact hcli u j c p h hp

theorem Slots.closeAll (hs : Slots S s)
    (hnone : ∀ u i c p, s.threads u = .client i c p → p = .exited)
    (hdone : s.threads listenerTid = .listener .done) (hflush : ∀ u i, (s.threads u).sendSlot ≠ some i) :
    Slots S s.closeAll := by
  have hfd : ∀ j, (s.closeAll.clients j).fd < 0 := fun j => Client.close_fd_neg _
  refine ⟨fun j hj => absurd hj (not_le.mpr (hfd j)), fun j _ hj => absurd hj (not_le.mpr (hfd j)),
    fun j _ => ⟨rfl, rfl, rfl⟩, fun j hj => absurd hj (not_le.mpr (hfd j)), hs.sent,
    fun u i c p h hp => absurd (hnone u i c p h) hp, fun u i c p _ h hp => absurd (hnone u i c p h) hp,
    fun u i c p _ h hp => absurd (hnone u i c p h) hp, fun _ _ h => ?_, fun _ h => ?_,
    fun _ _ h => ?_, hs.stopper, hs.roles, fun u i h => absurd h (hflush u i)⟩ <;>
    simp [State.closeAll, hdone] at h

theorem Slots.no_client_of_reserves (hs : Slots S s) {pc : ListenerPc} {i : Slot}
    (ht : s.threads listenerTid = .listener pc) (hr : pc.Reserves i) :
    ∀ u c p, s.threads u = .client i c p → p = .exited := fun u c p h => by
  by_contra hp; exact hs.reserved u i c p pc h hp ht hr

theorem Slots.listenerStep (hl : Locks s) (hs : Slots S s) {pc pc' : ListenerPc}
    (ht : s.threads listenerTid = .listener pc) (hst : ListenerStep pc s pc' s') :
    Slots S (s'.setPc listenerTid (.listener pc')) := by
  cases hst
  case enter | stop | acceptFailed => exact hs.setListener ht nofun trivial fun _ h => h.elim
  case accepted fd h0 _ hfd =>
    refine (hs.accept ht hfd).setListener ht nofun ⟨h0, by simp, by simp, fun j hj => ?_⟩
      fun _ h => h.elim
    obtain ⟨c, hc, -, hlt⟩ := hs.live j hj
    simp only [hc, ne_eq, Option.some.injEq]; omega
  case take i _ hfree => exact hs.take ht (State.firstFree_fd hfree)
  case full fd conn _ _ =>
    obtain ⟨-, hfd, -, hown⟩ := hs.scan fd conn ht
    refine hs.setListener ht nofun (fun j hj heq => ?_) fun _ h => h.elim
    obtain ⟨c, hc, hfdj, -⟩ := hs.live j hj
    rw [heq, hfd] at hfdj
    exact hown j hj (by rw [hc, hfdj])
  case reject => exact (hs.closeRejected ht).setListener ht nofun trivial fun _ h => h.elim
  case created i conn tid hh =>
    obtain ⟨hfd, hown⟩ := hs.start i conn ht
    have hL : tid ≠ listenerTid := (hl.ne_of_handleFree hh (by simp [ht]) (by simp [ht])).symm
    have hnone := hs.no_client_of_reserves ht rfl
    have hs₁ : Slots S (s.setPc listenerTid (.listener .loop)) :=
      hs.setListener ht nofun trivial fun _ h => h.elim
    have hnone₁ : ∀ u c p, (s.setPc listenerTid (.listener .loop)).threads u = .client i c p →
        p = .exited := fun u c p h => by
      rw [State.threads_setPc, Function.update_apply] at h
      split_ifs at h
      exact hnone u c p h
    refine (hs₁.spawn (hl.keep ht nofun rfl rfl rfl rfl) (hh.setPc hL.symm) (.client i conn .loop)
      hnone₁ (fun j c p h _ => ?_) rfl).congr (Function.update_comm hL _ _ _) ⟨_, rfl⟩ rfl rfl rfl
    obtain ⟨rfl, rfl, -⟩ := Pc.client.inj h
    refine ⟨rfl, hfd, hown, fun q hq => ?_, fun q hq hp => ?_⟩
    · simp at hq; subst hq; exact id
    · have := hs₁.stopper q hq (StopPc.joinedListener_of_past hp)
      simp at this
  case createFailed i conn tid hh =>
    have hL : listenerTid ≠ tid := hl.ne_of_handleFree hh (by simp [ht]) (by simp [ht])
    have hnone := hs.no_client_of_reserves ht rfl
    refine (hs.spawn hl hh .failed hnone (fun _ _ _ h => by cases h) rfl).setListener
      ((Function.update_noteq hL _ _).trans ht) nofun trivial ?_
    rintro j rfl u c p h
    simp only [State.spawn, State.threads_setClient, State.threads_setPc, Function.update_apply] at h
    split_ifs at h
    exact hnone u c p h
  case noStack i conn =>
    have hnone := hs.no_client_of_reserves ht rfl
    exact (hs.setRunning hnone true).setListener ht nofun trivial fun j hj => hj ▸ hnone
  case closeFailed i hm =>
    exact (hs.clientClose (hl.no_sendSlot hm · i) (hs.no_client_of_reserves ht rfl)
      (fun conn h => by simp [ht] at h)).setListener ht nofun trivial fun _ h => h.elim

theorem Slots.stopStep (hl : Locks s) (hs : Slots S s) {pc pc' : StopPc}
    (ht : s.threads stopperTid = .stopper pc) (hst : StopStep pc s pc' s') :
    Slots S (s'.setPc stopperTid (.stopper pc')) := by
  have hnot : ∀ i, pc.Past i → ∀ u c p, s.threads u = .client i c p → p = .exited :=
    fun i hi u c p h => by by_contra hp; exact hs.past u i c p pc h hp ht hi
  have hjoin := hs.stopper pc ht
  cases hst
  case call | closeListen =>
    refine Slots.setStopper ?_ (fun h => h.elim) fun _ h => h.elim
    exact hs.congr rfl ⟨_, rfl⟩ rfl rfl rfl
  case joinListener hdone => exact hs.setStopper (fun _ => hdone) fun _ h => h.elim
  case joinFlusher => exact hs.setStopper (fun _ => hjoin trivial) fun _ h => (Nat.not_lt_zero _ h).elim
  case skip i hrun =>
    refine hs.setStopper (fun _ => hjoin trivial) fun j hj u c p h => ?_
    rcases Nat.lt_succ_iff_lt_or_eq.mp hj with hj | hj
    · exact hnot j hj u c p h
    · obtain rfl : j = i := Fin.ext hj
      by_contra hp
      simp [(hs.client u j c p h hp).2.2.2] at hrun
  case join i _ => exact hs.setStopper (fun _ => hjoin trivial) hnot
  case joined i hjoinable =>
    refine Slots.setStopper ?_ (fun _ => hjoin trivial) fun j hj u c p h => ?_
    · exact hs.congr rfl ⟨_, rfl⟩ rfl rfl rfl
    rcases Nat.lt_succ_iff_lt_or_eq.mp hj with hj | hj
    · exact hnot j hj u c p h
    · obtain rfl : j = i := Fin.ext hj
      by_contra hp
      exact hp (hjoinable j c p ((hs.client u j c p h hp).2.2.1 ▸ h))
  case lastSlot => exact hs.setStopper (fun _ => hjoin trivial) fun j _ => hnot j j.isLt
  case closeAll hm =>
    exact (hs.closeAll (fun u i => hnot i trivial u) (hjoin trivial) (hl.no_sendSlot hm)).setStopper
      (fun _ => hjoin trivial) fun i _ u c p h => hnot i trivial u c p h

theorem Client.dispatched_session {S : Setup} {c : Client}
    (h : c.authenticated = c.handled.any setsAuthenticated ∧
      c.subscribedBle = c.handled.any (setsSubscribed S)) (d : Dispatch) (rest : List UInt8) :
    (c.dispatched S d rest).authenticated = (c.dispatched S d rest).handled.any setsAuthenticated ∧
      (c.dispatched S d rest).subscribedBle =
        (c.dispatched S d rest).handled.any (setsSubscribed S) := by
  simp [Client.dispatched, dispatchMessage_session, h.1, h.2, Dispatch.msg]

theorem afterDispatch_ne_exited (S : Setup) (c : Client) (d : Dispatch) :
    afterDispatch S c d ≠ .exited := by
  unfold afterDispatch; split <;> (try split) <;> nofun

theorem Slots.clientStep (hl : Locks s) (hs : Slots S s) {t : Nat} {i : Slot} {c : Nat}
    {pc pc' : ClientPc} (ht : s.threads t = .client i c pc) (hst : ClientStep S t i pc s pc' s') :
    Slots S (s'.setPc t (.client i c pc')) := by
  obtain ⟨hL, hT⟩ := hs.roles_ne ht
  have move : ∀ {s₁ : State}, Slots S s₁ → s₁.threads = s.threads → pc ≠ .exited →
      Slots S (s₁.setPc t (.client i c pc')) := fun h₁ hthr hpc =>
    h₁.setPc hL hT (fun _ _ _ h _ => by cases h; exact ⟨pc, hthr ▸ ht, hpc⟩)
      (fun j h => by simp [Pc.sendSlot, Pc.flushPc] at h)
  have hserve := fun hpc => hs.client t i c pc ht hpc
  cases hst
  case enter | leave | hangup | idle => exact move hs rfl nofun
  case received =>
    have hi := (hserve nofun).1
    exact move (hs.setLiveClient hi _ rfl rfl rfl rfl (hs.session i hi)) rfl nofun
  case dispatch =>
    have hi := (hserve nofun).1
    exact move (hs.setLiveClient hi _ rfl rfl rfl rfl
      (Client.dispatched_session (hs.session i hi) _ _)) rfl nofun
  case lockSend => exact move (hs.setSendMutex i _) rfl nofun
  case send k _ => exact move ((hs.logSend (hserve nofun).1 t _ k).setSendMutex i _) rfl nofun
  case cleanup hm =>
    have hi := hserve nofun
    have hs₁ : Slots S (s.setPc t (.client i c .exited)) :=
      hs.setPc hL hT (fun _ _ _ h hp => by cases h; exact absurd rfl hp)
        (by simp [Pc.sendSlot, Pc.flushPc])
    have hnone : ∀ u c' p, (s.setPc t (.client i c .exited)).threads u = .client i c' p →
        p = .exited := by
      intro u c' p h
      rw [State.threads_setPc, Function.update_apply] at h
      split_ifs at h with hu
      · cases h; rfl
      · by_contra hp
        exact hu ((hs.client u i c' p h hp).2.2.1.symm.trans hi.2.2.1)
    have hclose : Slots S ((s.setPc t (.client i c .exited)).clientClose i) := hs₁.clientClose
      (fun u => by
        rw [State.threads_setPc, Function.update_apply]
        split_ifs
        · simp [Pc.sendSlot, Pc.flushPc]
        · exact hl.no_sendSlot hm u i)
      hnone
      (fun conn h => by
        rw [State.threads_setPc, Function.update_noteq hL.symm] at h
        exact hs.reserved t i c .cleanup _ ht nofun h rfl)
    exact (hclose.setRunning hnone false).congr rfl ⟨_, rfl⟩ rfl rfl rfl

theorem Slots.producerStep (hs : Slots S s) {t : Nat} {pc pc' : ProducerPc}
    (ht : s.threads t = .producer pc) (hst : ProducerStep t pc s pc' s') :
    Slots S (s'.setPc t (.producer pc')) := by
  cases hst <;> exact hs.setPc_neutral' ht trivial trivial
    (fun j h => by simp [Pc.sendSlot, Pc.flushPc, FlushPc.sendSlot] at h) rfl rfl rfl rfl rfl

theorem Slots.flusherStep (hs : Slots S s) {pc pc' : FlusherPc}
    (ht : s.threads flusherTid = .flusher pc) (hst : FlusherStep pc s pc' s') :
    Slots S (s'.setPc flusherTid (.flusher pc')) := by
  cases hst <;> exact hs.setPc_neutral ht trivial trivial
    (fun j h => by simp [Pc.sendSlot, Pc.flushPc, FlushPc.sendSlot] at h)

theorem Slots.step (hl : Locks s) (hs : Slots S s) (h : Step S s s') : Slots S s' := by
  cases h with
  | listener ht hst => exact hs.listenerStep hl ht hst
  | flusher ht hst => exact hs.flusherStep ht hst
  | stopper ht hst => exact hs.stopStep hl ht hst
  | producer ht hst => exact hs.producerStep ht hst
  | client ht hst => exact hs.clientStep hl ht hst
  | flush ht hst => exact hs.flushStep ht hst
  | clock => exact hs.congr rfl ⟨_, rfl⟩ rfl rfl rfl

end

theorem State.init_threads (nprod t0 t : Nat) :
    (State.init nprod t0).threads t = .listener .loop ∨
      (State.init nprod t0).threads t = .flusher .loop ∨
      (State.init nprod t0).threads t = .stopper .idle ∨
      (State.init nprod t0).threads t = .producer .idle ∨
      (State.init nprod t0).threads t = .unused := by
  simp only [State.init]; split_ifs <;> simp

theorem Slots.init (S : Setup) (nprod t0 : Nat) : Slots S (State.init nprod t0) := by
  have hcl : ∀ t i c p, (State.init nprod t0).threads t ≠ .client i c p := fun t i c p h => by
    rcases State.init_threads nprod t0 t with h' | h' | h' | h' | h' <;> rw [h'] at h <;> cases h
  have hfd : ∀ i, ¬ 0 ≤ ((State.init nprod t0).clients i).fd := fun _ => by
    show ¬ (0 : Int) ≤ -1; decide
  refine ⟨fun i h => absurd h (hfd i), fun i _ h => absurd h (hfd i), fun _ _ => ⟨rfl, rfl, rfl⟩,
    fun i h => absurd h (hfd i), nofun, fun t i c p h => (hcl t i c p h).elim,
    fun t i c p _ h => (hcl t i c p h).elim, fun t i c p _ h => (hcl t i c p h).elim,
    fun _ _ h => (by cases h), fun _ h => (by cases h), fun _ _ h => (by cases h),
    fun q h hq => (by cases h; exact False.elim hq), ⟨⟨_, rfl⟩, ⟨_, rfl⟩⟩, fun t i h => ?_⟩
  rcases State.init_threads nprod t0 t with h' | h' | h' | h' | h' <;>
    simp [h', Pc.sendSlot, Pc.flushPc] at h

theorem Slots.reachable {S : Setup} {nprod t0 : Nat} {s : State} (h : Reachable S nprod t0 s) :
    Slots S s := by
  induction h with
  | refl => exact Slots.init S nprod t0
  | tail hr hst ih => exact ih.step (Locks.reachable hr) hst

/-! ### What the slot table gives -/

/-- Every `send` of `send_message`, a client thread's reply or a broadcast of
`flush_ble_batch`, goes to a descriptor that is open at that moment, for the connection that
owns the slot: never to a closed descriptor, nor to one reused for another connection. -/
theorem send_reaches_slot_owner (S : Setup) (nprod t0 : Nat) (s : State)
    (h : Reachable S nprod t0 s) :
    ∀ e ∈ s.sent, 0 ≤ e.fd ∧ ∃ c, e.owner = some c ∧ e.target = some c :=
  (Slots.reachable h).sent

/-- A client thread answers a ping on connection `0` in slot `0`. -/
theorem send_reaches_slot_owner_on_ping :
    ∃ s, Reachable specSetup 0 0 s ∧
      ∃ e ∈ s.sent, 0 ≤ e.fd ∧ ∃ c, e.owner = some c ∧ e.target = some c := by
  have h : Reachable specSetup 0 0 _ :=
    .tail (.tail (.tail (.tail (.tail (.tail (.tail (.tail (.tail .refl
      (.listener (by rfl) (.enter (by rfl))))
      (.listener (by rfl) (.accepted 0 (by rfl) le_rfl (by rfl))))
      (.listener (by rfl) (.take 0 (by rfl) (by rfl))))
      (.listener (by rfl) (.created 4 (Or.inl rfl))))
      (.client (show State.threads _ 4 = _ from rfl) (.enter (by rfl) (by decide))))
      (.client (show State.threads _ 4 = _ from rfl) (.received [0, 1, 7] (by decide) (by decide))))
      (.client (show State.threads _ 4 = _ from rfl)
        (.dispatch (by decide) (show handlePass _ _ = .dispatch ⟨7, [], 3, 0, 3⟩ [] by decide))))
      (.client (show State.threads _ 4 = _ from rfl) (.lockSend (by rfl))))
      (.client (show State.threads _ 4 = _ from rfl) (.send 3 (by decide)))
  exact ⟨_, h, _, List.mem_singleton_self _,
    send_reaches_slot_owner specSetup 0 0 _ h _ (List.mem_singleton_self _)⟩

/-- The session flags of a live slot are what the messages dispatched for its connection set:
`authenticated` holds iff one was a connect request, `subscribed_ble` iff one was a
subscription whose payload decodes. No other message, and no flush, sets either. -/
theorem session_flags_follow_messages (S : Setup) (nprod t0 : Nat) (s : State)
    (h : Reachable S nprod t0 s) (i : Slot) (hi : 0 ≤ (s.clients i).fd) :
    ((s.clients i).authenticated = true ↔
        ∃ m ∈ (s.clients i).handled, m.1 = esphomeMsgConnectRequest) ∧
      ((s.clients i).subscribedBle = true ↔
        ∃ m ∈ (s.clients i).handled, m.1 = esphomeMsgSubscribeBluetoothLeAdvertisementsRequest ∧
          (S.proto.decodeSubscribeBleAdvertisements m.2).isSome) := by
  obtain ⟨ha, hb⟩ := (Slots.reachable h).session i hi
  rw [ha, hb, List.any_eq_true, List.any_eq_true]
  simp [setsAuthenticated, setsSubscribed]

/-- A connection sends a connect request and a subscription in one segment. -/
theorem session_flags_follow_messages_on_subscribe :
    ∃ s, Reachable specSetup 0 0 s ∧ 0 ≤ (s.clients 0).fd ∧
      (s.clients 0).handled = [(3, []), (66, [])] ∧ (s.clients 0).authenticated = true ∧
      (s.clients 0).subscribedBle = true ∧
      (((s.clients 0).authenticated = true ↔
          ∃ m ∈ (s.clients 0).handled, m.1 = esphomeMsgConnectRequest) ∧
        ((s.clients 0).subscribedBle = true ↔
          ∃ m ∈ (s.clients 0).handled, m.1 = esphomeMsgSubscribeBluetoothLeAdvertisementsRequest ∧
            (specSetup.proto.decodeSubscribeBleAdvertisements m.2).isSome)) := by
  have h : Reachable specSetup 0 0 _ :=
    .tail (.tail (.tail (.tail (.tail (.tail (.tail (.tail .refl
      (.listener (by rfl) (.enter (by rfl))))
      (.listener (by rfl) (.accepted 0 (by rfl) le_rfl (by rfl))))
      (.listener (by rfl) (.take 0 (by rfl) (by rfl))))
      (.listener (by rfl) (.created 4 (Or.inl rfl))))
      (.client (show State.threads _ 4 = _ from rfl) (.enter (by rfl) (by decide))))
      (.client (show State.threads _ 4 = _ from rfl)
        (.received [0, 1, 3, 0, 1, 66] (by decide) (by decide))))
      (.client (show State.threads _ 4 = _ from rfl)
        (.dispatch (by decide) (show handlePass _ _ = .dispatch ⟨3, [], 3, 0, 6⟩ [0, 1, 66] by decide))))
      (.client (show State.threads _ 4 = _ from rfl)
        (.dispatch (by decide) (show handlePass _ _ = .dispatch ⟨66, [], 3, 0, 3⟩ [] by decide)))
  exact ⟨_, h, le_rfl, rfl, rfl, rfl, session_flags_follow_messages specSetup 0 0 _ h 0 le_rfl⟩

end EsphomeProxy
