import EsphomeProxy.Server.Shutdown

/-! The receive path of a client thread refines `recvLoop`. -/

namespace EsphomeProxy

variable {decode : List UInt8 → Nat × UInt32 × UInt16}

/-- Where a client thread's receive path is. Between two runs of `handle_client_data`, the
chunks `recv` returned since the slot was taken have gone through `recvLoop`; inside a run,
the last chunk has been appended and the loop has made the passes `ds'` so far. -/
def Client.RecvAt (decode : List UInt8 → Nat × UInt32 × UInt16) (cl : Client) : ClientPc → Prop
  | .loop | .recv | .cleanup => ∃ fuel ds, RecvFits decode fuel [] cl.received ∧
      recvLoop decode fuel [] cl.received = some (ds, cl.recvBuffer) ∧
      ds.map Dispatch.msg = cl.handled
  | .handle | .lockSend _ | .send _ => ∃ cs c fuel ds x ds', cl.received = cs ++ [c] ∧
      RecvFits decode fuel [] cs ∧ recvLoop decode fuel [] cs = some (ds, x) ∧
      x.length + c.length ≤ recvBufferSize ∧ HandleSteps decode (x ++ c) ds' cl.recvBuffer ∧
      (ds ++ ds').map Dispatch.msg = cl.handled
  | .exited => True

/-- Two slots agree on what the receive path reads. -/
def Client.SameRecv (c c' : Client) : Prop :=
  c'.received = c.received ∧ c'.recvBuffer = c.recvBuffer ∧ c'.handled = c.handled

theorem Client.SameRecv.refl (c : Client) : c.SameRecv c := ⟨rfl, rfl, rfl⟩

theorem Client.RecvAt.congr {cl cl' : Client} {p : ClientPc} (h : cl.RecvAt decode p)
    (he : cl.SameRecv cl') : cl'.RecvAt decode p := by
  obtain ⟨hr, hb, hh⟩ := he
  cases p <;> simp only [Client.RecvAt, hr, hb, hh] at h ⊢ <;> exact h

theorem State.sameRecv_setClient {s : State} {i : Slot} {c : Client} (h : (s.clients i).SameRecv c)
    (j : Slot) : (s.clients j).SameRecv ((s.setClient i c).clients j) := by
  rw [State.clients_setClient]
  split_ifs with hj
  · subst hj; exact h
  · exact .refl _

theorem Client.RecvAt.receive {cl : Client} (h : cl.RecvAt decode .recv) (chunk : List UInt8)
    (hfit : cl.recvBuffer.length + chunk.length ≤ recvBufferSize) :
    { cl with recvBuffer := cl.recvBuffer ++ chunk, received := cl.received ++ [chunk] }.RecvAt
      decode .handle := by
  obtain ⟨fuel, ds, hfits, hrun, hds⟩ := h
  exact ⟨cl.received, chunk, fuel, ds, cl.recvBuffer, [], rfl, hfits, hrun, hfit, .refl _,
    by rw [List.append_nil]; exact hds⟩

theorem Client.RecvAt.dispatch {S : Setup} {cl : Client} (h : cl.RecvAt S.proto.decodeFrameHeader .handle)
    {d : Dispatch} {rest : List UInt8} (hb : cl.recvBuffer ≠ [])
    (hp : handlePass S.proto.decodeFrameHeader cl.recvBuffer = .dispatch d rest) :
    (cl.dispatched S d rest).RecvAt S.proto.decodeFrameHeader (afterDispatch S cl d) := by
  obtain ⟨cs, c, fuel, ds, x, ds', hrec, hfits, hrun, hle, hsteps, hds⟩ := h
  have hnew : (cl.dispatched S d rest).RecvAt S.proto.decodeFrameHeader .handle :=
    ⟨cs, c, fuel, ds, x, ds' ++ [d], hrec, hfits, hrun, hle, hsteps.tail hb hp, by
      simp only [Client.dispatched, ← hds, List.map_append, List.append_assoc, List.map_singleton]⟩
  unfold afterDispatch
  split <;> (try split) <;> exact hnew

theorem Client.RecvAt.idle {cl : Client} (h : cl.RecvAt decode .handle)
    (hy : cl.recvBuffer = [] ∨ handlePass decode cl.recvBuffer = .wait) : cl.RecvAt decode .loop := by
  obtain ⟨cs, c, fuel, ds, x, ds', hrec, hfits, hrun, hle, hsteps, hds⟩ := h
  have hrun' := recvLoop_mono (le_max_left fuel (ds'.length + 1)) cs hrun
  refine ⟨max fuel (ds'.length + 1), ds ++ ds', ?_, ?_, hds⟩
  · rw [hrec]
    exact RecvFits.append_single cs hrun' (RecvFits.mono (le_max_left _ _) cs hrun hfits) hle
  · rw [hrec, recvLoop_append_single _ c cs hrun',
      handleClientData_mono (hsteps.run_done hy) (le_max_right _ _)]
    rfl

/-- The receive path of every client thread, and the slot the listener is handing to a new one:
no chunk, byte or message yet. -/
structure Received (S : Setup) (s : State) : Prop where
  client : ∀ t i c p, s.threads t = .client i c p → (s.clients i).RecvAt S.proto.decodeFrameHeader p
  start : ∀ i conn, s.threads listenerTid = .listener (.start i conn) →
    (s.clients i).received = [] ∧ (s.clients i).recvBuffer = [] ∧ (s.clients i).handled = []

section
variable {S : Setup} {s s' s₁ : State} {u : Nat} {pc : Pc}

theorem Received.move (hr : Received S s) (hthr : ∀ v, v ≠ u → s'.threads v = s.threads v)
    (hsame : ∀ v j c p, v ≠ u → s.threads v = .client j c p → p ≠ .exited →
      (s.clients j).SameRecv (s'.clients j))
    (hu : ∀ i c p, s'.threads u = .client i c p → (s'.clients i).RecvAt S.proto.decodeFrameHeader p)
    (hstart : ∀ i conn, s'.threads listenerTid = .listener (.start i conn) →
      (s'.clients i).received = [] ∧ (s'.clients i).recvBuffer = [] ∧ (s'.clients i).handled = []) :
    Received S s' where
  client v j c p h := by
    by_cases hv : v = u
    · subst hv; exact hu j c p h
    rw [hthr v hv] at h
    by_cases hp : p = .exited
    · subst hp; trivial
    exact (hr.client v j c p h).congr (hsame v j c p hv h hp)
  start := hstart

theorem Received.start_of (hr : Received S s) (hL : s'.threads listenerTid = s.threads listenerTid)
    (hsame : ∀ j, (s.clients j).SameRecv (s'.clients j)) (i : Slot) (conn : Nat)
    (h : s'.threads listenerTid = .listener (.start i conn)) :
    (s'.clients i).received = [] ∧ (s'.clients i).recvBuffer = [] ∧ (s'.clients i).handled = [] := by
  obtain ⟨hr₁, hb, hh⟩ := hsame i
  rw [hr₁, hb, hh]
  exact hr.start i conn (hL ▸ h)

theorem Received.keep (hr : Received S s) (hthr : s₁.threads = s.threads)
    (hsame : ∀ j, (s.clients j).SameRecv (s₁.clients j)) (hpc : ∀ i c p, pc ≠ .client i c p)
    (hL : u ≠ listenerTid ∨ ∀ i conn, pc ≠ .listener (.start i conn)) :
    Received S (s₁.setPc u pc) := by
  refine hr.move (u := u) (fun v hv => (State.threads_setPc_ne hv).trans (congrFun hthr v))
    (fun v j _ _ _ _ _ => hsame j) (fun i c p h => ?_) fun i conn h => ?_
  · rw [State.threads_setPc_self] at h; exact absurd h (hpc i c p)
  · by_cases hu : listenerTid = u
    · rw [hu, State.threads_setPc_self] at h
      rcases hL with hL | hL
      exacts [absurd hu.symm hL, absurd h (hL i conn)]
    exact hr.start_of ((State.threads_setPc_ne hu).trans (congrFun hthr _)) hsame i conn h

theorem Received.own (hr : Received S s) (hs : Slots S s) {t : Nat} {i : Slot} {c : Nat}
    {p p' : ClientPc} (ht : s.threads t = .client i c p) (hp : p ≠ .exited)
    (hthr : s₁.threads = s.threads) (hcl : ∀ j, j ≠ i → (s.clients j).SameRecv (s₁.clients j))
    (hnew : (s₁.clients i).RecvAt S.proto.decodeFrameHeader p') :
    Received S (s₁.setPc t (.client i c p')) := by
  obtain ⟨hL, -⟩ := hs.roles_ne ht
  have hth := (hs.client t i c p ht hp).2.2.1
  have hres : ∀ conn, s.threads listenerTid ≠ .listener (.start i conn) :=
    fun conn h => hs.reserved t i c p _ ht hp h rfl
  refine hr.move (u := t) (fun v hv => (State.threads_setPc_ne hv).trans (congrFun hthr v))
    (fun v j c' q hv h hq => hcl j fun hji => hv ?_) (fun j c' q h => ?_) fun j conn h => ?_
  · subst hji; exact (hs.client v j c' q h hq).2.2.1.symm.trans hth
  · rw [State.threads_setPc_self] at h
    cases h; exact hnew
  · rw [State.threads_setPc_ne hL.symm, hthr] at h
    have hji : j ≠ i := by rintro rfl; exact hres conn h
    obtain ⟨hr₁, hb, hh⟩ := hcl j hji
    rw [State.clients_setPc, hr₁, hb, hh]
    exact hr.start j conn h

end

section
variable {S : Setup} {s s' : State}

theorem Received.clientStep (hr : Received S s) (hs : Slots S s) {t : Nat} {i : Slot} {c : Nat}
    {pc pc' : ClientPc} (ht : s.threads t = .client i c pc) (hst : ClientStep S t i pc s pc' s') :
    Received S (s'.setPc t (.client i c pc')) := by
  have hold := hr.client t i c pc ht
  have hother : ∀ {cl : Client} j, j ≠ i → (s.clients j).SameRecv ((s.setClient i cl).clients j) :=
    fun j hj => by rw [State.clients_setClient, if_neg hj]; exact .refl _
  cases hst
  case enter | leave | hangup => exact hr.own hs ht nofun rfl (fun _ _ => .refl _) hold
  case idle hy => exact hr.own hs ht nofun rfl (fun _ _ => .refl _) (hold.idle hy)
  case received chunk _ hfit =>
    exact hr.own hs ht nofun rfl hother (by rw [State.clients_setClient_self]; exact hold.receive chunk hfit)
  case dispatch hb hp =>
    exact hr.own hs ht nofun rfl hother (by rw [State.clients_setClient_self]; exact hold.dispatch hb hp)
  case lockSend | send =>
    exact hr.own hs ht nofun rfl hother
      (by rw [State.clients_setClient_self]; exact hold.congr ⟨rfl, rfl, rfl⟩)
  case cleanup =>
    exact hr.own hs ht nofun rfl (fun j hj => by
      rw [State.clients_setClient, if_neg hj]
      simp only [State.clientClose, Function.update_noteq hj]
      exact .refl _) trivial

theorem Received.spawn (hr : Received S s) (hl : Locks s) {i : Slot} {conn tid : Nat}
    (hh : s.HandleFree tid) (ht : s.threads listenerTid = .listener (.start i conn)) {pc : Pc}
    (hpc : pc = .client i conn .loop ∨ pc = .failed) : Received S (s.spawn tid pc i) := by
  have hsame : ∀ j, (s.clients j).SameRecv ((s.spawn tid pc i).clients j) :=
    State.sameRecv_setClient (c := { s.clients i with thread := tid, threadRunning := true }) ⟨rfl, rfl, rfl⟩
  have hL : listenerTid ≠ tid := hl.ne_of_handleFree hh (by simp [ht]) (by simp [ht])
  refine hr.move (u := tid) (fun v hv => Function.update_noteq hv _ _) (fun v j _ _ _ _ _ => hsame j)
    (fun j c p h => ?_) (hr.start_of (Function.update_noteq hL _ _) hsame)
  rw [State.threads_spawn, Function.update_same] at h
  rcases hpc with rfl | rfl <;> cases h
  obtain ⟨hr₁, hb, hh'⟩ := hsame i
  obtain ⟨h₁, h₂, h₃⟩ := hr.start i conn ht
  exact ⟨0, [], by rw [hr₁, h₁]; trivial, by rw [hr₁, hb, h₁, h₂]; rfl, by rw [hh', h₃]; rfl⟩

theorem Received.listenerStep (hr : Received S s) (hs : Slots S s) (hl : Locks s)
    {pc pc' : ListenerPc} (ht : s.threads listenerTid = .listener pc) (hst : ListenerStep pc s pc' s') :
    Received S (s'.setPc listenerTid (.listener pc')) := by
  have hpc : ∀ i c p, Pc.listener pc' ≠ .client i c p := nofun
  cases hst
  case take i _ hfree =>
    have hi := State.firstFree_fd hfree
    refine hr.move (u := listenerTid) (fun v hv => State.threads_setPc_ne hv) (fun v j c p _ h hp => ?_)
      (fun _ _ _ h => by rw [State.threads_setPc_self] at h; cases h) fun j conn h => ?_
    · have hj := (hs.client v j c p h hp).1
      have hji : j ≠ i := by rintro rfl; omega
      rw [State.clients_setPc, State.clients_setClient, if_neg hji]; exact .refl _
    · rw [State.threads_setPc_self] at h; cases h
      rw [State.clients_setPc, State.clients_setClient_self]
      exact ⟨rfl, (hs.free i hi).2.2, rfl⟩
  case created i conn tid hh =>
    exact (hr.spawn hl hh ht (.inl rfl)).keep rfl (fun _ => .refl _) hpc (.inr nofun)
  case createFailed i conn tid hh =>
    exact (hr.spawn hl hh ht (.inr rfl)).keep rfl (fun _ => .refl _) hpc (.inr nofun)
  case noStack i conn =>
    exact hr.keep rfl (State.sameRecv_setClient ⟨rfl, rfl, rfl⟩) hpc (.inr nofun)
  case closeFailed i _ =>
    have hnone := hs.no_client_of_reserves ht rfl
    refine hr.move (u := listenerTid) (fun v hv => State.threads_setPc_ne hv) (fun v j c p _ h hp => ?_)
      (fun _ _ _ h => by rw [State.threads_setPc_self] at h; cases h) fun j conn h => ?_
    · have hji : j ≠ i := by rintro rfl; exact hp (hnone v c p h)
      simp only [State.clients_setPc, State.clientClose, Function.update_noteq hji]
      exact .refl _
    · rw [State.threads_setPc_self] at h; cases h
  all_goals exact hr.keep rfl (fun _ => .refl _) hpc (.inr nofun)

theorem Received.stopStep (hr : Received S s) (hs : Slots S s) {q q' : StopPc}
    (ht : s.threads stopperTid = .stopper q) (hst : StopStep q s q' s') :
    Received S (s'.setPc stopperTid (.stopper q')) := by
  have hT : stopperTid ≠ listenerTid := by decide
  cases hst
  case closeAll =>
    refine hr.move (u := stopperTid) (fun v hv => State.threads_setPc_ne hv)
      (fun v j c p _ h hp => absurd trivial (hs.past v j c p _ h hp ht)) nofun fun j conn h => ?_
    have h' : s.threads listenerTid = _ := (State.threads_setPc_ne hT.symm).symm.trans h
    rw [hs.stopper _ ht trivial] at h'; cases h'
  all_goals exact hr.keep rfl (fun _ => .refl _) nofun (.inl hT)

theorem Received.flushStep (hr : Received S s) (hs : Slots S s) {t : Nat} {f : FlushPc}
    {f' : Option FlushPc} (ht : (s.threads t).flushPc = some f) (hst : FlushStep S t f s f' s') :
    Received S (s'.setPc t ((s.threads t).afterFlush f')) := by
  have hn := (Pc.afterFlush_of_flushPc ht f').1
  have hpc : ∀ i c p, (s.threads t).afterFlush f' ≠ .client i c p := fun _ _ _ h => by
    rw [h] at hn; exact hn
  have hL : t ≠ listenerTid ∨ ∀ i conn, (s.threads t).afterFlush f' ≠ .listener (.start i conn) :=
    .inl (hs.ne_listenerTid rfl (Pc.neutral_of_flushPc ht))
  cases hst
  case lockSend | send => exact hr.keep rfl (State.sameRecv_setClient ⟨rfl, rfl, rfl⟩) hpc hL
  all_goals exact hr.keep rfl (fun _ => .refl _) hpc hL

theorem Received.step (hr : Received S s) (hs : Slots S s) (hl : Locks s) (h : Step S s s') :
    Received S s' := by
  cases h with
  | listener ht hst => exact hr.listenerStep hs hl ht hst
  | flusher _ hst => cases hst <;> exact hr.keep rfl (fun _ => .refl _) nofun (.inl (by decide))
  | stopper ht hst => exact hr.stopStep hs ht hst
  | producer ht hst =>
    cases hst <;> exact hr.keep rfl (fun _ => .refl _) nofun (.inl (hs.ne_listenerTid ht trivial))
  | client ht hst => exact hr.clientStep hs ht hst
  | flush ht hst => exact hr.flushStep hs ht hst
  | clock => exact ⟨hr.client, hr.start⟩

end

theorem Received.init (S : Setup) (nprod t0 : Nat) : Received S (State.init nprod t0) where
  client t i c p h := by
    rcases State.init_threads nprod t0 t with h' | h' | h' | h' | h' <;> rw [h'] at h <;> cases h
  start _ _ h := by cases h

theorem Received.reachable {S : Setup} {nprod t0 : Nat} {s : State} (h : Reachable S nprod t0 s) :
    Received S s := by
  induction h with
  | refl => exact Received.init S nprod t0
  | tail hr hst ih => exact ih.step (Slots.reachable hr) (Locks.reachable hr) hst

theorem Received.recvLoop {S : Setup} {nprod t0 : Nat} {s : State} (h : Reachable S nprod t0 s)
    {t : Nat} {i : Slot} {c : Nat} {p : ClientPc} (ht : s.threads t = .client i c p)
    (hp : p = .loop ∨ p = .recv) :
    ∃ n ds, ds.map Dispatch.msg = (s.clients i).handled ∧ ∀ fuel, n ≤ fuel →
      RecvFits S.proto.decodeFrameHeader fuel [] (s.clients i).received ∧
      recvLoop S.proto.decodeFrameHeader fuel [] (s.clients i).received =
        some (ds, (s.clients i).recvBuffer) := by
  have hrecv := (Received.reachable h).client t i c p ht
  obtain ⟨n, ds, hfits, hrun, hds⟩ : (s.clients i).RecvAt S.proto.decodeFrameHeader .loop := by
    rcases hp with rfl | rfl <;> exact hrecv
  exact ⟨n, ds, hds, fun fuel hle => ⟨RecvFits.mono hle _ hrun hfits, recvLoop_mono hle _ hrun⟩⟩

/-- A client thread's receive path is `recvLoop` over the chunks `recv` returned for its
connection: whenever the thread is between two `recv` calls, each chunk since its slot was taken
fitted the free part of `recv_buffer`, and `recvLoop` over them, given enough fuel, dispatches
the messages the thread has handled and leaves the bytes the thread still holds. -/
theorem client_thread_refines_recv_loop (S : Setup) (nprod t0 : Nat) (s : State)
    (h : Reachable S nprod t0 s) (t : Nat) (i : Slot) (c : Nat) (p : ClientPc)
    (ht : s.threads t = .client i c p) (hp : p = .loop ∨ p = .recv) :
    ∃ n ds, ds.map Dispatch.msg = (s.clients i).handled ∧ ∀ fuel, n ≤ fuel →
      RecvFits S.proto.decodeFrameHeader fuel [] (s.clients i).received ∧
      recvLoop S.proto.decodeFrameHeader fuel [] (s.clients i).received =
        some (ds, (s.clients i).recvBuffer) :=
  Received.recvLoop h ht hp

theorem reachable_ping_handled :
    ∃ s, Reachable specSetup 0 0 s ∧ s.threads 4 = .client 0 0 .loop ∧
      (s.clients 0).received = [[0, 1, 7]] ∧ (s.clients 0).handled = [(7, [])] :=
  ⟨_, .tail (.tail (.tail (.tail (.tail (.tail (.tail (.tail (.tail (.tail .refl
      (.listener (by rfl) (.enter (by rfl))))
      (.listener (by rfl) (.accepted 0 (by rfl) le_rfl (by rfl))))
      (.listener (by rfl) (.take 0 (by rfl) (by rfl))))
      (.listener (by rfl) (.created 4 (Or.inl rfl))))
      (.client (show State.threads _ 4 = _ from rfl) (.enter (by rfl) (by decide))))
      (.client (show State.threads _ 4 = _ from rfl) (.received [0, 1, 7] (by decide) (by decide))))
      (.client (show State.threads _ 4 = _ from rfl)
        (.dispatch (by decide) (show handlePass _ _ = .dispatch ⟨7, [], 3, 0, 3⟩ [] by decide))))
      (.client (show State.threads _ 4 = _ from rfl) (.lockSend (by rfl))))
      (.client (show State.threads _ 4 = _ from rfl) (.send 3 (by decide))))
      (.client (show State.threads _ 4 = _ from rfl) (.idle (.inl (by rfl)))),
    rfl, rfl, rfl⟩

theorem client_thread_refines_recv_loop_on_ping :
    ∃ s, Reachable specSetup 0 0 s ∧ s.threads 4 = .client 0 0 .loop ∧
      (s.clients 0).received = [[0, 1, 7]] ∧ (s.clients 0).handled = [(7, [])] ∧
      ∃ n ds, ds.map Dispatch.msg = (s.clients 0).handled ∧ ∀ fuel, n ≤ fuel →
        RecvFits specSetup.proto.decodeFrameHeader fuel [] (s.clients 0).received ∧
        recvLoop specSetup.proto.decodeFrameHeader fuel [] (s.clients 0).received =
          some (ds, (s.clients 0).recvBuffer) :=
  let ⟨s, h, ht, hr, hh⟩ := reachable_ping_handled
  ⟨s, h, ht, hr, hh, client_thread_refines_recv_loop specSetup 0 0 s h 4 0 0 .loop ht (.inl rfl)⟩

/-- End to end: when the bytes a connection has sent so far are whole frames the decoder
accepts, however `recv` cut them, its client thread, once back at `recv`, has dispatched exactly
those frames' messages, in order, and holds no byte. -/
theorem client_thread_dispatches_sent_frames (S : Setup) (nprod t0 : Nat) (s : State)
    (h : Reachable S nprod t0 s) (t : Nat) (i : Slot) (c : Nat) (p : ClientPc)
    (ht : s.threads t = .client i c p) (hp : p = .loop ∨ p = .recv) (frames : List Frame)
    (hframes : ∀ F ∈ frames, FrameOk S.proto.decodeFrameHeader F)
    (hstream : (s.clients i).received.flatten = (frames.map Frame.bytes).flatten) :
    (s.clients i).handled = frames.map Frame.msg ∧ (s.clients i).recvBuffer = [] := by
  obtain ⟨n, ds, hds, hrun⟩ := Received.recvLoop h ht hp
  obtain ⟨hfits, hr⟩ := hrun (max n (recvBufferSize + 1)) (le_max_left _ _)
  obtain ⟨-, ds', hr', hds'⟩ := recvLoop_reassembles frames hframes _ hstream
    (Nat.lt_of_lt_of_le (Nat.lt_succ_self _) (le_max_right _ _)) hfits
  rw [hr] at hr'
  obtain ⟨rfl, hbuf⟩ := Prod.mk.inj (Option.some.inj hr')
  exact ⟨hds.symm.trans hds', hbuf⟩

theorem client_thread_dispatches_sent_frames_on_ping :
    ∃ s, Reachable specSetup 0 0 s ∧ s.threads 4 = .client 0 0 .loop ∧
      (∀ F ∈ [specFrame esphomeMsgPingRequest []], FrameOk specSetup.proto.decodeFrameHeader F) ∧
      (s.clients 0).received.flatten = ([specFrame esphomeMsgPingRequest []].map Frame.bytes).flatten ∧
      ((s.clients 0).handled = [specFrame esphomeMsgPingRequest []].map Frame.msg ∧
        (s.clients 0).recvBuffer = []) :=
  let ⟨s, h, ht, hr, _⟩ := reachable_ping_handled
  have hF : ∀ F ∈ [specFrame esphomeMsgPingRequest []], FrameOk specSetup.proto.decodeFrameHeader F :=
    fun F hF => by
      rw [List.mem_singleton.mp hF]
      exact specFrame_ok esphomeMsgPingRequest [] (by decide)
  have hstream : (s.clients 0).received.flatten =
      ([specFrame esphomeMsgPingRequest []].map Frame.bytes).flatten := by rw [hr]; decide
  ⟨s, h, ht, hF, hstream, client_thread_dispatches_sent_frames specSetup 0 0 s h 4 0 0 .loop ht
    (.inl rfl) _ hF hstream⟩

end EsphomeProxy
