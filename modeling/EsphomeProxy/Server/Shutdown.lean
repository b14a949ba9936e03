import EsphomeProxy.Server.Slots

/-! The descriptors the process holds, and what `esphome_api_stop` leaves. -/

namespace EsphomeProxy

/-- The descriptor the listener holds and no slot does: accepted and not yet placed, or refused
and not yet closed. -/
def ListenerPc.inHand : ListenerPc → Option Int
  | .scan fd _ | .reject fd => some fd
  | _ => none

theorem closeFd_eq_some {fds : Int → Option Nat} {x fd : Int} {c : Nat} :
    closeFd fds x fd = some c ↔ fds fd = some c ∧ (0 ≤ x → fd ≠ x) := by
  unfold closeFd
  split_ifs with hx
  · by_cases hfd : fd = x
    · subst hfd; simp [hx]
    · simp [Function.update_noteq hfd, hfd]
  · simp [hx]

theorem State.closeAll_fds {s : State} {fd : Int} {c : Nat} (h : s.closeAll.fds fd = some c) :
    s.fds fd = some c ∧ ∀ i, 0 ≤ (s.clients i).fd → fd ≠ (s.clients i).fd := by
  have key : ∀ (l : List Slot) (m : Int → Option Nat),
      (l.foldl (fun fds i => closeFd fds (s.clients i).fd) m) fd = some c →
        m fd = some c ∧ ∀ i ∈ l, 0 ≤ (s.clients i).fd → fd ≠ (s.clients i).fd := by
    intro l
    induction l with
    | nil => exact fun m h => ⟨h, fun _ h => absurd h (List.not_mem_nil _)⟩
    | cons j l ih =>
      intro m h
      obtain ⟨h₁, h₂⟩ := ih _ h
      obtain ⟨h₃, h₄⟩ := closeFd_eq_some.mp h₁
      exact ⟨h₃, fun i hi => (List.mem_cons.mp hi).elim (fun e => e ▸ h₄) (h₂ i)⟩
  obtain ⟨h₁, h₂⟩ := key _ _ h
  exact ⟨h₁, fun i => h₂ i (List.mem_finRange i)⟩

/-- The open descriptors, and who serves the live slots. -/
structure Descriptors (s : State) : Prop where
  held : ∀ fd c, s.fds fd = some c → (∃ i, 0 ≤ (s.clients i).fd ∧ (s.clients i).fd = fd) ∨
    ∃ pc, s.threads listenerTid = .listener pc ∧ pc.inHand = some fd
  rejected : ∀ fd, s.threads listenerTid = .listener (.reject fd) → s.fds fd ≠ none
  served : ∀ i, 0 ≤ (s.clients i).fd → (∃ t c p, s.threads t = .client i c p ∧ p ≠ .exited) ∨
    ∃ pc, s.threads listenerTid = .listener pc ∧ pc.Reserves i

section
variable {S : Setup} {s s' : State} {t : Nat} {pc : Pc}

theorem Descriptors.congr (hd : Descriptors s) (hfds : s'.fds = s.fds)
    (hfd : ∀ j, (s'.clients j).fd = (s.clients j).fd)
    (hL : s'.threads listenerTid = s.threads listenerTid)
    (hcl : ∀ u i c p, s.threads u = .client i c p → p ≠ .exited →
      ∃ p', s'.threads u = .client i c p' ∧ p' ≠ .exited) : Descriptors s' where
  held fd c h := by
    simp only [hfds, hfd, hL] at h ⊢
    exact hd.held fd c h
  rejected fd h := by rw [hfds]; exact hd.rejected fd (hL ▸ h)
  served i hi := by
    rw [hfd] at hi
    rw [hL]
    refine (hd.served i hi).imp (fun ⟨u, c, p, hu, hp⟩ => ?_) id
    obtain ⟨p', hu', hp'⟩ := hcl u i c p hu hp
    exact ⟨u, c, p', hu', hp'⟩

theorem Descriptors.congr_fd (hd : Descriptors s) (hthr : s'.threads = s.threads)
    (hfds : s'.fds = s.fds) (hfd : ∀ j, (s'.clients j).fd = (s.clients j).fd) : Descriptors s' :=
  hd.congr hfds hfd (by rw [hthr]) fun _ _ _ p h hp => ⟨p, by rw [hthr]; exact h, hp⟩

theorem Descriptors.setPc (hd : Descriptors s) (ht : t ≠ listenerTid)
    (hpc : ∀ i c p, s.threads t = .client i c p → p ≠ .exited → 0 ≤ (s.clients i).fd →
      ∃ p', pc = .client i c p' ∧ p' ≠ .exited) : Descriptors (s.setPc t pc) where
  held fd c h := by
    rw [State.threads_setPc_ne ht.symm]
    exact hd.held fd c h
  rejected fd h := hd.rejected fd ((State.threads_setPc_ne ht.symm).symm.trans h)
  served i hi := by
    rw [State.threads_setPc_ne ht.symm]
    refine (hd.served i hi).imp (fun ⟨u, c, p, hu, hp⟩ => ?_) id
    by_cases hut : u = t
    · subst hut
      obtain ⟨p', rfl, hp'⟩ := hpc i c p hu hp hi
      exact ⟨u, c, p', State.threads_setPc_self _ _ _, hp'⟩
    · exact ⟨u, c, p, (State.threads_setPc_ne hut).trans hu, hp⟩

theorem Descriptors.served_move (hd : Descriptors s) {pc pc' : ListenerPc}
    (ht : s.threads listenerTid = .listener pc)
    (hres : ∀ i, pc.Reserves i → 0 ≤ (s.clients i).fd →
      pc'.Reserves i ∨ ∃ u c p, s.threads u = .client i c p ∧ p ≠ .exited)
    (i : Slot) (hi : 0 ≤ (s.clients i).fd) :
    (∃ u c p, (s.setPc listenerTid (.listener pc')).threads u = .client i c p ∧ p ≠ .exited) ∨
      ∃ q, (s.setPc listenerTid (.listener pc')).threads listenerTid = .listener q ∧ q.Reserves i := by
  have hcl : ∀ u c p, s.threads u = .client i c p → p ≠ .exited →
      ∃ u c p, (s.setPc listenerTid (.listener pc')).threads u = .client i c p ∧ p ≠ .exited := by
    intro u c p hu hp
    have hu' : u ≠ listenerTid := by rintro rfl; rw [ht] at hu; cases hu
    exact ⟨u, c, p, (State.threads_setPc_ne hu').trans hu, hp⟩
  rcases hd.served i hi with ⟨u, c, p, hu, hp⟩ | ⟨q, hq, hr⟩
  · exact .inl (hcl u c p hu hp)
  · rw [ht] at hq; cases hq
    rcases hres i hr hi with hr' | ⟨u, c, p, hu, hp⟩
    · exact .inr ⟨pc', State.threads_setPc_self _ _ _, hr'⟩
    · exact .inl (hcl u c p hu hp)

theorem Descriptors.moveListener (hd : Descriptors s) {pc pc' : ListenerPc}
    (ht : s.threads listenerTid = .listener pc) (hin : pc.inHand = none ∨ pc.inHand = pc'.inHand)
    (hres : ∀ i, pc.Reserves i → 0 ≤ (s.clients i).fd →
      pc'.Reserves i ∨ ∃ u c p, s.threads u = .client i c p ∧ p ≠ .exited)
    (hrej : ∀ fd, pc' = .reject fd → s.fds fd ≠ none) :
    Descriptors (s.setPc listenerTid (.listener pc')) where
  held fd c h := by
    refine (hd.held fd c h).imp id fun ⟨q, hq, hq'⟩ => ⟨pc', State.threads_setPc_self _ _ _, ?_⟩
    rw [ht] at hq; cases hq
    rcases hin with hin | hin
    · rw [hin] at hq'; cases hq'
    · rw [← hin]; exact hq'
  rejected fd h := hrej fd (Pc.listener.inj ((State.threads_setPc_self _ _ _).symm.trans h))
  served := hd.served_move ht hres

theorem Descriptors.clientClose (hd : Descriptors s) (hs : Slots S s) (i : Slot) :
    Descriptors (s.clientClose i) where
  held fd c h := by
    obtain ⟨h₁, h₂⟩ := closeFd_eq_some.mp h
    refine (hd.held fd c h₁).imp (fun ⟨j, hj, hjfd⟩ => ⟨j, ?_⟩) id
    have hji : j ≠ i := by rintro rfl; exact h₂ hj hjfd.symm
    simp only [State.clientClose, Function.update_noteq hji]
    exact ⟨hj, hjfd⟩
  rejected fd h := by
    obtain ⟨c, hc⟩ := Option.ne_none_iff_exists'.mp (hd.rejected fd h)
    have : (s.clientClose i).fds fd = some c :=
      closeFd_eq_some.mpr ⟨hc, fun hx heq => hs.reject fd h i hx heq.symm⟩
    rw [this]; exact Option.some_ne_none c
  served j hj := by
    have hji : j ≠ i := by
      rintro rfl
      have := Client.close_fd_neg (s.clients j)
      simp only [State.clientClose, Function.update_same] at hj; omega
    simp only [State.clientClose, Function.update_noteq hji] at hj
    exact hd.served j hj

theorem Descriptors.closeAll (hd : Descriptors s) (hdone : s.threads listenerTid = .listener .done) :
    Descriptors s.closeAll where
  held fd c h := by
    obtain ⟨h₁, h₂⟩ := State.closeAll_fds h
    rcases hd.held fd c h₁ with ⟨j, hj, hjfd⟩ | ⟨q, hq, hin⟩
    · exact absurd hjfd.symm (h₂ j hj)
    · rw [hdone] at hq; cases hq; cases hin
  rejected fd h := by rw [show s.closeAll.threads = s.threads from rfl, hdone] at h; cases h
  served i hi := absurd hi (not_le.mpr (Client.close_fd_neg _))

theorem Descriptors.accept (hd : Descriptors s) (ht : s.threads listenerTid = .listener .accept)
    (fd : Int) (c : Nat) :
    Descriptors ({ s with fds := Function.update s.fds fd (some c), nextConn := s.nextConn + 1 }.setPc
      listenerTid (.listener (.scan fd c))) where
  held fd' c' h := by
    by_cases hfd : fd' = fd
    · exact .inr ⟨_, State.threads_setPc_self _ _ _, by rw [hfd]; rfl⟩
    · refine (hd.held fd' c' ((Function.update_noteq hfd _ _).symm.trans h)).imp id
        fun ⟨q, hq, hin⟩ => ?_
      rw [ht] at hq; cases hq; cases hin
  rejected _ h := by rw [State.threads_setPc_self] at h; cases h
  served := hd.served_move ht fun _ h => h.elim

theorem Descriptors.take (hd : Descriptors s) (hs : Slots S s) {fd : Int} {conn : Nat} {i : Slot}
    (ht : s.threads listenerTid = .listener (.scan fd conn)) (hi : (s.clients i).fd < 0) :
    Descriptors ((s.setClient i { s.clients i with
      fd := fd, owner := some conn, handled := [], received := [] }).setPc
        listenerTid (.listener (.start i conn))) where
  held fd' c h := by
    refine .inl ?_
    simp only [State.clients_setPc, State.clients_setClient]
    rcases hd.held fd' c h with ⟨j, hj, hjfd⟩ | ⟨q, hq, hin⟩
    · have hji : j ≠ i := by rintro rfl; omega
      exact ⟨j, by rw [if_neg hji]; exact ⟨hj, hjfd⟩⟩
    · rw [ht] at hq; cases hq; cases hin
      exact ⟨i, by rw [if_pos rfl]; exact ⟨(hs.scan fd conn ht).1, rfl⟩⟩
  rejected _ h := by rw [State.threads_setPc_self] at h; cases h
  served j hj := by
    by_cases hji : j = i
    · exact .inr ⟨_, State.threads_setPc_self _ _ _, hji.symm⟩
    · rw [State.clients_setPc, State.clients_setClient, if_neg hji] at hj
      exact hd.served_move ht (fun _ h => h.elim) j hj

theorem Descriptors.closeRejected (hd : Descriptors s) {fd : Int}
    (ht : s.threads listenerTid = .listener (.reject fd)) :
    Descriptors ({ s with fds := Function.update s.fds fd none }.setPc listenerTid (.listener .loop)) where
  held fd' c h := by
    have hfd : fd' ≠ fd := by rintro rfl; simp at h
    refine (hd.held fd' c ((Function.update_noteq hfd _ _).symm.trans h)).imp id
      fun ⟨q, hq, hin⟩ => ?_
    rw [ht] at hq; cases hq
    exact absurd (Option.some.inj hin).symm hfd
  rejected _ h := by rw [State.threads_setPc_self] at h; cases h
  served := hd.served_move ht fun _ h => h.elim

theorem Descriptors.listenerStep (hd : Descriptors s) (hs : Slots S s) (hl : Locks s)
    {pc pc' : ListenerPc} (ht : s.threads listenerTid = .listener pc) (hst : ListenerStep pc s pc' s') :
    Descriptors (s'.setPc listenerTid (.listener pc')) := by
  have hN : ∀ {u tid}, s.HandleFree tid → (∃ pc, s.threads u = pc ∧ pc ≠ .unused ∧ pc ≠ .failed) →
      u ≠ tid := fun hh ⟨_, hu, h₁, h₂⟩ => hl.ne_of_handleFree hh (hu ▸ h₁) (hu ▸ h₂)
  have hL : ∀ {tid}, s.HandleFree tid → listenerTid ≠ tid := fun hh => hN hh ⟨_, ht, nofun, nofun⟩
  -- `pthread_create` starts thread `tid` at `pc₁` and writes its handle into slot `i`
  have hspawn : ∀ {tid} (i : Slot) (pc₁ : Pc), s.HandleFree tid → Descriptors (s.spawn tid pc₁ i) :=
    fun _ _ hh => hd.congr rfl (fun j => State.clients_setClient_of Client.fd j rfl)
      (Function.update_noteq (hL hh) _ _)
      fun u _ _ p h hp => ⟨p, (Function.update_noteq (hN hh ⟨_, h, nofun, nofun⟩) _ _).trans h, hp⟩
  cases hst
  case accepted fd _ _ _ => exact hd.accept ht fd _
  case take i _ hfree => exact hd.take hs ht (State.firstFree_fd hfree)
  case full fd conn _ _ =>
    refine hd.moveListener ht (.inr rfl) (fun _ h => h.elim) fun fd' h => ?_
    cases h
    obtain ⟨-, hfd, -⟩ := hs.scan fd conn ht
    rw [hfd]; exact Option.some_ne_none _
  case reject fd => exact hd.closeRejected ht
  case created i conn tid hh =>
    exact (hspawn i _ hh).moveListener ((Function.update_noteq (hL hh) _ _).trans ht) (.inl rfl)
      (fun j hj _ => .inr ⟨tid, conn, .loop, by rw [← hj]; exact Function.update_same _ _ _,
        ClientPc.noConfusion⟩) fun _ h => by cases h
  case createFailed i conn tid hh =>
    exact (hspawn i _ hh).moveListener ((Function.update_noteq (hL hh) _ _).trans ht) (.inl rfl)
      (fun _ hj _ => .inl hj) fun _ h => by cases h
  case noStack i conn =>
    have h₁ : Descriptors (s.setClient i { s.clients i with threadRunning := true }) :=
      hd.congr_fd rfl rfl fun j => State.clients_setClient_of Client.fd j rfl
    exact h₁.moveListener ht (.inl rfl) (fun _ hj _ => .inl hj) fun _ h => by cases h
  case closeFailed i _ =>
    refine (hd.clientClose hs i).moveListener ht (.inl rfl) (fun j hj hfd => absurd hfd ?_)
      fun _ h => by cases h
    subst hj
    simp only [State.clientClose, Function.update_same, not_le]
    exact Client.close_fd_neg _
  all_goals exact hd.moveListener ht (.inl rfl) (fun _ h => h.elim) fun _ h => by cases h

theorem Descriptors.clientStep (hd : Descriptors s) (hs : Slots S s) {i : Slot} {c : Nat}
    {pc pc' : ClientPc} (ht : s.threads t = .client i c pc) (hst : ClientStep S t i pc s pc' s') :
    Descriptors (s'.setPc t (.client i c pc')) := by
  have hL := (hs.roles_ne ht).1
  have hmove : ∀ {s₁ : State}, Descriptors s₁ → s₁.threads = s.threads → pc' ≠ .exited →
      Descriptors (s₁.setPc t (.client i c pc')) := fun h₁ hthr hp =>
    h₁.setPc hL fun j c' p h _ _ => by
      rw [hthr, ht] at h; cases h; exact ⟨pc', rfl, hp⟩
  have hset : ∀ c₁ : Client, c₁.fd = (s.clients i).fd → Descriptors (s.setClient i c₁) :=
    fun _ h => hd.congr_fd rfl rfl fun j => State.clients_setClient_of Client.fd j h
  cases hst
  case enter | leave | hangup | idle => exact hmove hd rfl nofun
  case received | lockSend => exact hmove (hset _ rfl) rfl nofun
  case dispatch => exact hmove (hset _ rfl) rfl (afterDispatch_ne_exited _ _ _)
  case send => exact hmove ((hd.congr_fd rfl rfl fun _ => rfl).congr_fd rfl rfl
    fun j => State.clients_setClient_of Client.fd j rfl) rfl nofun
  case cleanup =>
    have h₁ : Descriptors ((s.clientClose i).setClient i
        { (s.clientClose i).clients i with threadRunning := false }) :=
      (hd.clientClose hs i).congr_fd rfl rfl fun j => State.clients_setClient_of Client.fd j rfl
    refine h₁.setPc hL fun j c' p h _ hfd => absurd hfd (not_le.mpr ?_)
    have h' : s.threads t = .client j c' p := h
    rw [ht] at h'; cases h'
    rw [State.clients_setClient_self]
    show ((s.clientClose i).clients i).fd < 0
    simp only [State.clientClose, Function.update_same]
    exact Client.close_fd_neg _

theorem Descriptors.stopStep (hd : Descriptors s) (hs : Slots S s) {q q' : StopPc}
    (ht : s.threads stopperTid = .stopper q) (hst : StopStep q s q' s') :
    Descriptors (s'.setPc stopperTid (.stopper q')) := by
  have hT : stopperTid ≠ listenerTid := by decide
  have hpc : ∀ i c p, s.threads stopperTid = .client i c p → p ≠ .exited → 0 ≤ (s.clients i).fd →
      ∃ p', Pc.stopper q' = .client i c p' ∧ p' ≠ .exited := fun _ _ _ h => Pc.noConfusion (ht.symm.trans h)
  cases hst
  case closeAll =>
    exact Descriptors.setPc (hd.closeAll (hs.stopper _ ht trivial)) hT fun _ _ _ h =>
      Pc.noConfusion (ht.symm.trans h)
  all_goals exact Descriptors.setPc (hd.congr_fd rfl rfl fun _ => rfl) hT hpc

theorem Descriptors.step (hd : Descriptors s) (hs : Slots S s) (hl : Locks s) (h : Step S s s') :
    Descriptors s' := by
  cases h with
  | listener ht hst => exact hd.listenerStep hs hl ht hst
  | flusher ht hst =>
    cases hst <;> exact hd.setPc (by decide) fun _ _ _ h => Pc.noConfusion (ht.symm.trans h)
  | stopper ht hst => exact hd.stopStep hs ht hst
  | producer ht hst =>
    cases hst <;> exact Descriptors.setPc (hd.congr_fd rfl rfl fun _ => rfl)
      (hs.ne_listenerTid ht trivial) fun _ _ _ h => Pc.noConfusion (ht.symm.trans h)
  | client ht hst => exact hd.clientStep hs ht hst
  | @flush _ u _ _ ht hst =>
    have hn₀ := Pc.neutral_of_flushPc ht
    have hnc : ∀ i c p, s.threads u ≠ .client i c p := fun _ _ _ h => by rw [h] at hn₀; exact hn₀
    cases hst <;> refine Descriptors.setPc ?_ (hs.ne_listenerTid rfl hn₀) fun i c p h => absurd h (hnc i c p)
    all_goals first
      | exact hd.congr_fd rfl rfl fun _ => rfl
      | exact hd.congr_fd rfl rfl fun j => State.clients_setClient_of Client.fd j rfl
  | clock => exact hd.congr_fd rfl rfl fun _ => rfl

end

theorem Descriptors.init (nprod t0 : Nat) : Descriptors (State.init nprod t0) where
  held _ _ h := by cases h
  rejected _ h := by cases h
  served _ h := absurd h (by show ¬ (0 : Int) ≤ -1; decide)

theorem Descriptors.reachable {S : Setup} {nprod t0 : Nat} {s : State} (h : Reachable S nprod t0 s) :
    Descriptors s := by
  induction h with
  | refl => exact Descriptors.init nprod t0
  | tail hr hst ih => exact ih.step (Slots.reachable hr) (Locks.reachable hr) hst

/-- No descriptor leaks: in every reachable state the descriptors the process has open are
exactly those of the live slots and the one the listener holds between `accept` and the slot
scan, or the `close` of a refused connection; and every live slot is served by a client
thread that has not exited, or is the one the listener is handing to a new thread. -/
theorem open_descriptors_are_held (S : Setup) (nprod t0 : Nat) (s : State)
    (h : Reachable S nprod t0 s) :
    (∀ fd, s.fds fd ≠ none ↔ (∃ i, 0 ≤ (s.clients i).fd ∧ (s.clients i).fd = fd) ∨
      ∃ pc, s.threads listenerTid = .listener pc ∧ pc.inHand = some fd) ∧
    ∀ i, 0 ≤ (s.clients i).fd → (∃ t c p, s.threads t = .client i c p ∧ p ≠ .exited) ∨
      ∃ pc, s.threads listenerTid = .listener pc ∧ pc.Reserves i := by
  have hd := Descriptors.reachable h
  have hs := Slots.reachable h
  refine ⟨fun fd => ⟨fun hfd => ?_, ?_⟩, hd.served⟩
  · obtain ⟨c, hc⟩ := Option.ne_none_iff_exists'.mp hfd
    exact hd.held fd c hc
  · rintro (⟨i, hi, rfl⟩ | ⟨pc, hpc, hin⟩)
    · obtain ⟨c, -, hc, -⟩ := hs.live i hi
      rw [hc]; exact Option.some_ne_none c
    · cases pc with
      | scan fd' conn =>
        cases hin
        obtain ⟨-, hc, -⟩ := hs.scan _ conn hpc
        rw [hc]; exact Option.some_ne_none conn
      | reject fd' => cases hin; exact hd.rejected _ hpc
      | _ => cases hin

theorem reachable_slot_taken : ∃ s, Reachable specSetup 0 0 s ∧ 0 ≤ (s.clients 0).fd :=
  ⟨_, .tail (.tail (.tail .refl (.listener (by rfl) (.enter (by rfl))))
    (.listener (by rfl) (.accepted 0 (by rfl) le_rfl (by rfl))))
    (.listener (by rfl) (.take 0 (by rfl) (by rfl))), le_rfl⟩

theorem open_descriptors_are_held_on_accept :
    ∃ s, Reachable specSetup 0 0 s ∧ 0 ≤ (s.clients 0).fd ∧
      (∀ fd, s.fds fd ≠ none ↔ (∃ i, 0 ≤ (s.clients i).fd ∧ (s.clients i).fd = fd) ∨
        ∃ pc, s.threads listenerTid = .listener pc ∧ pc.inHand = some fd) ∧
      ∀ i, 0 ≤ (s.clients i).fd → (∃ t c p, s.threads t = .client i c p ∧ p ≠ .exited) ∨
        ∃ pc, s.threads listenerTid = .listener pc ∧ pc.Reserves i :=
  let ⟨s, h, hfd⟩ := reachable_slot_taken
  ⟨s, h, hfd, open_descriptors_are_held specSetup 0 0 s h⟩

/-- The slot table in every reachable state: the process keeps at most `ESPHOME_MAX_CLIENTS`
connections open besides the one the listener is placing or refusing; live slots hold pairwise
distinct descriptors; and every free slot is reset, so the slot the listener's scan picks for a
new connection carries no session of an earlier one. -/
theorem slot_table_consistent (S : Setup) (nprod t0 : Nat) (s : State)
    (h : Reachable S nprod t0 s) :
    (∀ fds : List Int, fds.Nodup → (∀ fd ∈ fds, s.fds fd ≠ none ∧
        ∀ pc, s.threads listenerTid = .listener pc → pc.inHand ≠ some fd) →
      fds.length ≤ esphomeMaxClients) ∧
      (∀ i j, i ≠ j → 0 ≤ (s.clients i).fd → 0 ≤ (s.clients j).fd →
        (s.clients i).fd ≠ (s.clients j).fd) ∧
      (∀ i, (s.clients i).fd < 0 → (s.clients i).authenticated = false ∧
        (s.clients i).subscribedBle = false ∧ (s.clients i).recvBuffer = []) ∧
      ∀ i, s.firstFree = some i → (s.clients i).authenticated = false ∧
        (s.clients i).subscribedBle = false ∧ (s.clients i).recvBuffer = [] := by
  have hs := Slots.reachable h
  have hd := Descriptors.reachable h
  refine ⟨fun fds hnd hall => ?_, fun i j hij hi hj heq => hij ?_, hs.free,
    fun i hi => hs.free i (State.firstFree_fd hi)⟩
  · have hsub : fds ⊆ (List.finRange esphomeMaxClients).map fun i => (s.clients i).fd :=
      fun fd hfd => by
        obtain ⟨hopen, hnot⟩ := hall fd hfd
        obtain ⟨c, hc⟩ := Option.ne_none_iff_exists'.mp hopen
        rcases hd.held fd c hc with ⟨i, -, rfl⟩ | ⟨pc, hpc, hin⟩
        · exact List.mem_map_of_mem _ (List.mem_finRange i)
        · exact absurd hin (hnot pc hpc)
    simpa using (hnd.subperm hsub).length_le
  · obtain ⟨c, hc, hfd, -⟩ := hs.live i hi
    obtain ⟨c', hc', hfd', -⟩ := hs.live j hj
    rw [heq, hfd'] at hfd
    exact hs.owner_inj i j hi hj (by rw [hc, hc', hfd])

/-- Connections `0` and `1` take both slots; the peer of `0`, which had authenticated, hangs up,
and connection `2` is accepted on the reused descriptor `0` into the reused slot `0`. -/
theorem slot_table_consistent_on_reuse :
    ∃ s, Reachable specSetup 0 0 s ∧ (s.clients 0).owner = some 2 ∧ (s.clients 1).owner = some 1 ∧
      0 ≤ (s.clients 0).fd ∧ 0 ≤ (s.clients 1).fd ∧
      (∀ fds : List Int, fds.Nodup → (∀ fd ∈ fds, s.fds fd ≠ none ∧
          ∀ pc, s.threads listenerTid = .listener pc → pc.inHand ≠ some fd) →
        fds.length ≤ esphomeMaxClients) ∧
      (∀ i j, i ≠ j → 0 ≤ (s.clients i).fd → 0 ≤ (s.clients j).fd →
        (s.clients i).fd ≠ (s.clients j).fd) ∧
      (∀ i, (s.clients i).fd < 0 → (s.clients i).authenticated = false ∧
        (s.clients i).subscribedBle = false ∧ (s.clients i).recvBuffer = []) ∧
      ∀ i, s.firstFree = some i → (s.clients i).authenticated = false ∧
        (s.clients i).subscribedBle = false ∧ (s.clients i).recvBuffer = [] := by
  have h : Reachable specSetup 0 0 _ :=
    .tail (.tail (.tail (.tail (.tail (.tail (.tail (.tail (.tail (.tail (.tail (.tail (.tail
      (.tail (.tail (.tail (.tail (.tail (.tail .refl
      (.listener (by rfl) (.enter (by rfl))))
      (.listener (by rfl) (.accepted 0 (by rfl) le_rfl (by rfl))))
      (.listener (by rfl) (.take 0 (by rfl) (by rfl))))
      (.listener (by rfl) (.created 4 (Or.inl rfl))))
      (.listener (by rfl) (.enter (by rfl))))
      (.listener (by rfl) (.accepted 1 (by rfl) (by decide) (by rfl))))
      (.listener (by rfl) (.take 1 (by rfl) (by rfl))))
      (.listener (by rfl) (.created 5 (Or.inl rfl))))
      (.client (show State.threads _ 4 = _ from rfl) (.enter (by rfl) (by decide))))
      (.client (show State.threads _ 4 = _ from rfl) (.received [0, 1, 3] (by decide) (by decide))))
      (.client (show State.threads _ 4 = _ from rfl)
        (.dispatch (by decide) (show handlePass _ _ = .dispatch ⟨3, [], 3, 0, 3⟩ [] by decide))))
      (.client (show State.threads _ 4 = _ from rfl) (.idle (.inl (by rfl)))))
      (.client (show State.threads _ 4 = _ from rfl) (.enter (by rfl) (by decide))))
      (.client (show State.threads _ 4 = _ from rfl) .hangup))
      (.client (show State.threads _ 4 = _ from rfl) (.cleanup (by rfl))))
      (.listener (by rfl) (.enter (by rfl))))
      (.listener (by rfl) (.accepted 0 (by rfl) le_rfl (by rfl))))
      (.listener (by rfl) (.take 0 (by rfl) (by rfl))))
      (.listener (by rfl) (.created 6 (Or.inl rfl)))
  exact ⟨_, h, rfl, rfl, le_rfl, by decide, slot_table_consistent specSetup 0 0 _ h⟩

/-! ### Shutdown -/

/-- `esphome_api_stop` is past `server->running = false`. -/
def StopPc.Called : StopPc → Prop
  | .idle => False
  | _ => True

/-- `esphome_api_stop` is past the close of `listen_fd`. -/
def StopPc.ClosedListen : StopPc → Prop
  | .idle | .closeListen => False
  | _ => True

/-- `esphome_api_stop` is past `pthread_join(server->flush_thread)`. -/
def StopPc.JoinedFlusher : StopPc → Prop
  | .idle | .closeListen | .joinListener | .joinFlusher => False
  | _ => True

section
variable {S : Setup} {s s' : State} {t : Nat} {i : Slot}

theorem ListenerStep.frame {pc pc' : ListenerPc} (h : ListenerStep pc s pc' s') :
    s'.running = s.running ∧ s'.listenOpen = s.listenOpen ∧
      ∀ u, ¬ s.HandleFree u → s'.threads u = s.threads u := by
  cases h
  case created _ _ tid hh | createFailed _ _ tid hh =>
    exact ⟨rfl, rfl, fun u hu => Function.update_noteq (fun (e : u = tid) => hu (e ▸ hh)) _ _⟩
  all_goals exact ⟨rfl, rfl, fun _ _ => rfl⟩

theorem StopStep.threads_eq {q q' : StopPc} (h : StopStep q s q' s') : s'.threads = s.threads := by
  cases h <;> rfl

theorem ProducerStep.frame {pc pc' : ProducerPc} (h : ProducerStep t pc s pc' s') :
    s'.running = s.running ∧ s'.listenOpen = s.listenOpen ∧ s'.threads = s.threads := by
  cases h <;> exact ⟨rfl, rfl, rfl⟩

theorem ClientStep.frame {pc pc' : ClientPc} (h : ClientStep S t i pc s pc' s') :
    s'.running = s.running ∧ s'.listenOpen = s.listenOpen ∧ s'.threads = s.threads := by
  cases h <;> exact ⟨rfl, rfl, rfl⟩

theorem FlushStep.frame {f : FlushPc} {f' : Option FlushPc} (h : FlushStep S t f s f' s') :
    s'.running = s.running ∧ s'.listenOpen = s.listenOpen ∧ s'.threads = s.threads := by
  cases h <;> exact ⟨rfl, rfl, rfl⟩

theorem Step.stopper_frame (hs : Slots S s) (hl : Locks s) (h : Step S s s') :
    (s'.threads stopperTid = s.threads stopperTid ∧ s'.running = s.running ∧
      s'.listenOpen = s.listenOpen) ∨
    ∃ q q' s₁, s.threads stopperTid = .stopper q ∧ StopStep q s q' s₁ ∧
      s' = s₁.setPc stopperTid (.stopper q') := by
  have hT : ¬ s.HandleFree stopperTid := by
    obtain ⟨-, q, hq⟩ := hs.roles
    exact hl.not_handleFree (by simp [hq]) (by simp [hq])
  cases h with
  | listener _ hst =>
    obtain ⟨hr, ho, hthr⟩ := hst.frame
    exact .inl ⟨(State.threads_setPc_ne (by decide)).trans (hthr _ hT), hr, ho⟩
  | flusher _ hst => cases hst <;> exact .inl ⟨State.threads_setPc_ne (by decide), rfl, rfl⟩
  | stopper ht hst => exact .inr ⟨_, _, _, ht, hst, rfl⟩
  | producer ht hst =>
    obtain ⟨hr, ho, hthr⟩ := hst.frame
    exact .inl ⟨(State.threads_setPc_ne (hs.ne_stopperTid ht trivial).symm).trans
      (congrFun hthr _), hr, ho⟩
  | client ht hst =>
    obtain ⟨hr, ho, hthr⟩ := hst.frame
    exact .inl ⟨(State.threads_setPc_ne (hs.roles_ne ht).2.symm).trans (congrFun hthr _), hr, ho⟩
  | flush ht hst =>
    obtain ⟨hr, ho, hthr⟩ := hst.frame
    exact .inl ⟨(State.threads_setPc_ne (hs.ne_stopperTid rfl (Pc.neutral_of_flushPc ht)).symm).trans
      (congrFun hthr _), hr, ho⟩
  | clock => exact .inl ⟨rfl, rfl, rfl⟩

theorem Step.flusher_done (hl : Locks s) (h : Step S s s')
    (hd : s.threads flusherTid = .flusher .done) : s'.threads flusherTid = .flusher .done := by
  have hF : ¬ s.HandleFree flusherTid :=
    hl.not_handleFree (by rw [hd]; exact fun h => Pc.noConfusion h) (by rw [hd]; exact fun h => Pc.noConfusion h)
  have hmove : ∀ {u : Nat} {pc₀ : Pc} {s₁ : State} (pc : Pc), s.threads u = pc₀ →
      pc₀ ≠ .flusher .done → s₁.threads = s.threads → (s₁.setPc u pc).threads flusherTid = .flusher .done :=
    fun {u} _ _ _ hu hne hthr => by
      have : flusherTid ≠ u := by rintro rfl; exact hne (hu.symm.trans hd)
      rw [State.threads_setPc_ne this, hthr, hd]
  cases h with
  | listener _ hst =>
    rw [State.threads_setPc_ne (by decide), hst.frame.2.2 _ hF, hd]
  | flusher ht hst => rw [hd] at ht; cases ht; cases hst
  | stopper ht hst => exact hmove _ ht (fun h => Pc.noConfusion h) hst.threads_eq
  | producer ht hst => exact hmove _ ht (fun h => Pc.noConfusion h) hst.frame.2.2
  | client ht hst => exact hmove _ ht (fun h => Pc.noConfusion h) hst.frame.2.2
  | flush ht hst => exact hmove _ rfl (fun h => by rw [h] at ht; cases ht) hst.frame.2.2
  | clock => exact hd

end

/-- What `esphome_api_stop` has done so far. -/
structure Stopped (s : State) : Prop where
  running : ∀ q, s.threads stopperTid = .stopper q → q.Called → s.running = false
  listen : ∀ q, s.threads stopperTid = .stopper q → q.ClosedListen → s.listenOpen = false
  flusher : ∀ q, s.threads stopperTid = .stopper q → q.JoinedFlusher →
    s.threads flusherTid = .flusher .done

section
variable {S : Setup} {s s' : State}

theorem Stopped.setStopper {q' : StopPc} (hrun : q'.Called → s.running = false)
    (hopen : q'.ClosedListen → s.listenOpen = false)
    (hF : q'.JoinedFlusher → s.threads flusherTid = .flusher .done) :
    Stopped (s.setPc stopperTid (.stopper q')) where
  running q h hq := by rw [State.threads_setPc_self] at h; cases h; exact hrun hq
  listen q h hq := by rw [State.threads_setPc_self] at h; cases h; exact hopen hq
  flusher q h hq := by
    rw [State.threads_setPc_self] at h; cases h
    rw [State.threads_setPc_ne (by decide)]; exact hF hq

theorem Stopped.stopStep (hst : Stopped s) {q q' : StopPc} (ht : s.threads stopperTid = .stopper q)
    (h : StopStep q s q' s') : Stopped (s'.setPc stopperTid (.stopper q')) := by
  have hrun := hst.running q ht
  have hopen := hst.listen q ht
  have hF := hst.flusher q ht
  cases h
  case call => exact Stopped.setStopper (fun _ => rfl) (fun h => h.elim) fun h => h.elim
  case closeListen => exact Stopped.setStopper (fun _ => hrun trivial) (fun _ => rfl) fun h => h.elim
  case joinListener =>
    exact Stopped.setStopper (fun _ => hrun trivial) (fun _ => hopen trivial) fun h => h.elim
  case joinFlusher hdone =>
    exact Stopped.setStopper (fun _ => hrun trivial) (fun _ => hopen trivial) fun _ => hdone
  all_goals exact Stopped.setStopper (fun _ => hrun trivial) (fun _ => hopen trivial) fun _ => hF trivial

theorem Stopped.step (hst : Stopped s) (hs : Slots S s) (hl : Locks s) (h : Step S s s') :
    Stopped s' := by
  rcases Step.stopper_frame hs hl h with ⟨hT, hr, ho⟩ | ⟨q, q', s₁, hq, hstep, rfl⟩
  · refine ⟨fun q hq hc => ?_, fun q hq hc => ?_, fun q hq hc => ?_⟩
    · rw [hr]; exact hst.running q (hT ▸ hq) hc
    · rw [ho]; exact hst.listen q (hT ▸ hq) hc
    · exact Step.flusher_done hl h (hst.flusher q (hT ▸ hq) hc)
  · exact hst.stopStep hq hstep

end

theorem Stopped.init (nprod t0 : Nat) : Stopped (State.init nprod t0) where
  running q h hq := by cases h; exact hq.elim
  listen q h hq := by cases h; exact hq.elim
  flusher q h hq := by cases h; exact hq.elim

theorem Stopped.reachable {S : Setup} {nprod t0 : Nat} {s : State} (h : Reachable S nprod t0 s) :
    Stopped s := by
  induction h with
  | refl => exact Stopped.init nprod t0
  | tail hr hst ih => exact ih.step (Slots.reachable hr) (Locks.reachable hr) hst

/-- When `esphome_api_stop` returns, `running` is cleared and `listen_fd` closed, the listener
and the flush thread are done, every client thread has exited, every slot is free, and the
process has no descriptor of the server open. -/
theorem stop_returns_with_everything_closed (S : Setup) (nprod t0 : Nat) (s : State)
    (h : Reachable S nprod t0 s) (hret : s.threads stopperTid = .stopper .returned) :
    s.running = false ∧ s.listenOpen = false ∧ s.threads listenerTid = .listener .done ∧
      s.threads flusherTid = .flusher .done ∧
      (∀ t i c p, s.threads t = .client i c p → p = .exited) ∧
      (∀ i, (s.clients i).fd < 0) ∧ ∀ fd, s.fds fd = none := by
  have hst := Stopped.reachable h
  have hs := Slots.reachable h
  have hd := Descriptors.reachable h
  have hdone := hs.stopper _ hret trivial
  have hexit : ∀ t i c p, s.threads t = .client i c p → p = .exited := fun t i c p ht => by
    by_contra hp; exact hs.past t i c p _ ht hp hret trivial
  have hfree : ∀ i, (s.clients i).fd < 0 := fun i => by
    by_contra hi
    rcases hd.served i (not_lt.mp hi) with ⟨t, c, p, ht, hp⟩ | ⟨q, hq, hr⟩
    · exact hp (hexit t i c p ht)
    · rw [hdone] at hq; cases hq; exact hr
  refine ⟨hst.running _ hret trivial, hst.listen _ hret trivial, hdone, hst.flusher _ hret trivial,
    hexit, hfree, fun fd => ?_⟩
  cases hc : s.fds fd with
  | none => rfl
  | some c =>
    rcases hd.held fd c hc with ⟨i, hi, -⟩ | ⟨q, hq, hin⟩
    · exact absurd hi (not_le.mpr (hfree i))
    · rw [hdone] at hq; cases hq; cases hin

/-- A connection in slot `0` whose peer hangs up, then `esphome_api_stop`. -/
theorem stop_returns_with_everything_closed_after_hangup :
    ∃ s, Reachable specSetup 0 0 s ∧ s.threads stopperTid = .stopper .returned ∧
      (s.running = false ∧ s.listenOpen = false ∧ s.threads listenerTid = .listener .done ∧
        s.threads flusherTid = .flusher .done ∧
        (∀ t i c p, s.threads t = .client i c p → p = .exited) ∧
        (∀ i, (s.clients i).fd < 0) ∧ ∀ fd, s.fds fd = none) := by
  have h : Reachable specSetup 0 0 _ :=
    .tail (.tail (.tail (.tail (.tail (.tail (.tail (.tail (.tail (.tail (.tail (.tail (.tail
      (.tail (.tail (.tail (.tail .refl
      (.listener (by rfl) (.enter (by rfl))))
      (.listener (by rfl) (.accepted 0 (by rfl) le_rfl (by rfl))))
      (.listener (by rfl) (.take 0 (by rfl) (by rfl))))
      (.listener (by rfl) (.created 4 (Or.inl rfl))))
      (.client (show State.threads _ 4 = _ from rfl) (.enter (by rfl) (by exact le_rfl))))
      (.client (show State.threads _ 4 = _ from rfl) .hangup))
      (.client (show State.threads _ 4 = _ from rfl) (.cleanup (by rfl))))
      (.stopper (by rfl) .call))
      (.stopper (by rfl) .closeListen))
      (.listener (by rfl) (.stop (by rfl))))
      (.stopper (by rfl) (.joinListener (by rfl))))
      (.flusher (by rfl) (.stop (by rfl))))
      (.stopper (by rfl) (.joinFlusher (by rfl))))
      (.stopper (by rfl) (.skip 0 (by rfl))))
      (.stopper (by rfl) (.skip 1 (by rfl))))
      (.stopper (by rfl) .lastSlot))
      (.stopper (by rfl) (.closeAll (by rfl)))
  exact ⟨_, h, rfl, stop_returns_with_everything_closed specSetup 0 0 _ h rfl⟩

/-- A step of the server in which thread `t` does not move: while `t` waits in `recv`, its peer
neither sends nor hangs up. -/
def QuietStep (S : Setup) (t : Nat) (s s' : State) : Prop :=
  Step S s s' ∧ s'.threads t = s.threads t

/-- `esphome_api_stop` closes the client sockets only after its join loop. So while it joins a
client thread blocked in `recv`, whatever the other threads do, as long as that `recv` does not
return the stopper stays in `pthread_join`, and the slot keeps the connection's descriptor
open: nothing the server does unblocks the `recv`. -/
theorem stop_waits_on_blocked_recv (S : Setup) (nprod t0 : Nat) (s : State)
    (h : Reachable S nprod t0 s) (t : Nat) (i : Slot) (c : Nat)
    (hstop : s.threads stopperTid = .stopper (.joinClient i)) (ht : s.threads t = .client i c .recv) :
    ∀ s', Relation.ReflTransGen (QuietStep S t) s s' →
      s'.threads stopperTid = .stopper (.joinClient i) ∧ s'.threads t = .client i c .recv ∧
        0 ≤ (s'.clients i).fd ∧ s'.fds (s'.clients i).fd = some c := by
  intro s' hq
  have run : Reachable S nprod t0 s' ∧ s'.threads stopperTid = .stopper (.joinClient i) ∧
      s'.threads t = .client i c .recv := by
    induction hq with
    | refl => exact ⟨h, hstop, ht⟩
    | tail _ hqs ih =>
      obtain ⟨hr, hT, ht'⟩ := ih
      obtain ⟨hstep, hstay⟩ := hqs
      refine ⟨hr.tail hstep, ?_, hstay.trans ht'⟩
      rcases Step.stopper_frame (Slots.reachable hr) (Locks.reachable hr) hstep with
        ⟨hT', -, -⟩ | ⟨q, q', s₁, hq, hst, -⟩
      · exact hT'.trans hT
      · rw [hT] at hq; cases hq
        cases hst with
        | joined hj =>
          have hth := ((Slots.reachable hr).client t i c .recv ht' nofun).2.2.1
          exact absurd (hj i c .recv (by rw [hth]; exact ht')) nofun
  obtain ⟨hr, hT, ht'⟩ := run
  have hs := Slots.reachable hr
  obtain ⟨hfd, hown, -, -⟩ := hs.client t i c .recv ht' nofun
  obtain ⟨c', hc', hfds, -⟩ := hs.live i hfd
  rw [hown] at hc'; cases hc'
  exact ⟨hT, ht', hfd, hfds⟩

/-- A connection's thread waits in `recv` while `esphome_api_stop` joins it. -/
theorem stop_waits_on_blocked_recv_on_idle_peer :
    ∃ s, Reachable specSetup 0 0 s ∧ s.threads stopperTid = .stopper (.joinClient 0) ∧
      s.threads 4 = .client 0 0 .recv ∧
      ∀ s', Relation.ReflTransGen (QuietStep specSetup 4) s s' →
        s'.threads stopperTid = .stopper (.joinClient 0) ∧ s'.threads 4 = .client 0 0 .recv ∧
          0 ≤ (s'.clients 0).fd ∧ s'.fds (s'.clients 0).fd = some 0 := by
  have h : Reachable specSetup 0 0 _ :=
    .tail (.tail (.tail (.tail (.tail (.tail (.tail (.tail (.tail (.tail (.tail (.tail .refl
      (.listener (by rfl) (.enter (by rfl))))
      (.listener (by rfl) (.accepted 0 (by rfl) le_rfl (by rfl))))
      (.listener (by rfl) (.take 0 (by rfl) (by rfl))))
      (.listener (by rfl) (.created 4 (Or.inl rfl))))
      (.client (show State.threads _ 4 = _ from rfl) (.enter (by rfl) (by exact le_rfl))))
      (.stopper (by rfl) .call))
      (.stopper (by rfl) .closeListen))
      (.listener (by rfl) (.stop (by rfl))))
      (.stopper (by rfl) (.joinListener (by rfl))))
      (.flusher (by rfl) (.stop (by rfl))))
      (.stopper (by rfl) (.joinFlusher (by rfl))))
      (.stopper (by rfl) (.join 0 (by rfl)))
  exact ⟨_, h, rfl, rfl, stop_waits_on_blocked_recv specSetup 0 0 _ h 4 0 0 rfl rfl⟩

/-- Two runs of one connection into slot 0 and then `esphome_api_stop`, with any codec and
start time. In the first the peer hangs up: the client thread clears `thread_running` and
exits, and `esphome_api_stop` returns without joining it. In the second `pthread_create`
fails: `thread_running` stays set, and `esphome_api_stop` joins the handle no thread has. -/
theorem stop_skips_exited_thread_and_joins_failed_create (S : Setup) (t0 : Nat) :
    (∃ s, Reachable S 0 t0 s ∧ s.threads stopperTid = .stopper .returned ∧
      ∃ h, s.threads h = .client 0 0 .exited ∧ h ∉ s.joins) ∧
    ∃ s, Reachable S 0 t0 s ∧ s.threads stopperTid = .stopper .returned ∧
      ∃ h ∈ s.joins, s.threads h = .failed := by
  constructor
  · have h : Reachable S 0 t0 _ :=
      .tail (.tail (.tail (.tail (.tail (.tail (.tail (.tail (.tail (.tail (.tail (.tail (.tail
        (.tail (.tail (.tail (.tail .refl
        (.listener (by rfl) (.enter (by rfl))))
        (.listener (by rfl) (.accepted 0 (by rfl) le_rfl (by rfl))))
        (.listener (by rfl) (.take 0 (by rfl) (by rfl))))
        (.listener (by rfl) (.created 4 (Or.inl rfl))))
        (.client (show State.threads _ 4 = _ from rfl) (.enter (by rfl) (by exact le_rfl))))
        (.client (show State.threads _ 4 = _ from rfl) .hangup))
        (.client (show State.threads _ 4 = _ from rfl) (.cleanup (by rfl))))
        (.stopper (by rfl) .call))
        (.stopper (by rfl) .closeListen))
        (.listener (by rfl) (.stop (by rfl))))
        (.stopper (by rfl) (.joinListener (by rfl))))
        (.flusher (by rfl) (.stop (by rfl))))
        (.stopper (by rfl) (.joinFlusher (by rfl))))
        (.stopper (by rfl) (.skip 0 (by rfl))))
        (.stopper (by rfl) (.skip 1 (by rfl))))
        (.stopper (by rfl) .lastSlot))
        (.stopper (by rfl) (.closeAll (by rfl)))
    exact ⟨_, h, rfl, 4, rfl, List.not_mem_nil 4⟩
  · have h : Reachable S 0 t0 _ :=
      .tail (.tail (.tail (.tail (.tail (.tail (.tail (.tail (.tail (.tail (.tail (.tail (.tail
        (.tail (.tail (.tail .refl
        (.listener (by rfl) (.enter (by rfl))))
        (.listener (by rfl) (.accepted 0 (by rfl) le_rfl (by rfl))))
        (.listener (by rfl) (.take 0 (by rfl) (by rfl))))
        (.listener (by rfl) (.createFailed 4 (Or.inl rfl))))
        (.listener (by rfl) (.closeFailed (by rfl))))
        (.stopper (by rfl) .call))
        (.stopper (by rfl) .closeListen))
        (.listener (by rfl) (.stop (by rfl))))
        (.stopper (by rfl) (.joinListener (by rfl))))
        (.flusher (by rfl) (.stop (by rfl))))
        (.stopper (by rfl) (.joinFlusher (by rfl))))
        (.stopper (by rfl) (.join 0 (by rfl))))
        (.stopper (by rfl) (.joined fun _ _ _ h => Pc.noConfusion h)))
        (.stopper (by rfl) (.skip 1 (by rfl))))
        (.stopper (by rfl) .lastSlot))
        (.stopper (by rfl) (.closeAll (by rfl)))
    exact ⟨_, h, rfl, 4, List.mem_singleton_self 4, rfl⟩

end EsphomeProxy
