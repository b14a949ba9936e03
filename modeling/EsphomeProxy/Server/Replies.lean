import EsphomeProxy.Server.Slots

/-! What each connection is answered: a client thread refines the abstract session. -/

namespace EsphomeProxy

/-- The frame a thread of `flush_ble_batch` is sending. -/
def FlushPc.frame : FlushPc → Option (List UInt8)
  | .lockSend _ _ f | .send _ _ f => some f
  | _ => none

/-- The frame a thread is sending in `send_message`. -/
def Pc.frame : Pc → Option (List UInt8)
  | .client _ _ (.lockSend f) | .client _ _ (.send f) => some f
  | pc => pc.flushPc.bind FlushPc.frame


/-- The session of a slot `client_init` zeroed. -/
def Session.init : Session := ⟨false, false⟩

/-- The handlers run over a connection's messages in order: the session they leave, and the
frames of their replies, a reply that does not frame being dropped as `send_message` does. -/
def runSession (S : Setup) : Session → List (UInt16 × List UInt8) → Session × List (List UInt8)
  | sess, [] => (sess, [])
  | sess, m :: ms =>
    let r := dispatchMessage S sess m.1 m.2
    ((runSession S r.1 ms).1, (r.2.bind (sendFrame S)).toList ++ (runSession S r.1 ms).2)

theorem runSession_append (S : Setup) (sess : Session) (ms : List (UInt16 × List UInt8))
    (m : UInt16 × List UInt8) :
    runSession S sess (ms ++ [m]) =
      ((dispatchMessage S (runSession S sess ms).1 m.1 m.2).1, (runSession S sess ms).2 ++
        ((dispatchMessage S (runSession S sess ms).1 m.1 m.2).2.bind (sendFrame S)).toList) := by
  induction ms generalizing sess with
  | nil => simp [runSession]
  | cons m' ms ih => simp [runSession, ih]

theorem runSession_session (S : Setup) (sess : Session) (ms : List (UInt16 × List UInt8)) :
    (runSession S sess ms).1 = ⟨sess.authenticated || ms.any setsAuthenticated,
      sess.subscribedBle || ms.any (setsSubscribed S)⟩ := by
  induction ms generalizing sess with
  | nil => simp [runSession]
  | cons m ms ih => simp [runSession, ih, dispatchMessage_session, Bool.or_assoc]

/-- The frames thread `t` has handed to `send`, in order. -/
def State.sentBy (s : State) (t : Nat) : List (List UInt8) :=
  (s.sent.filter fun e => e.thread = t).map SendEvent.frame

section
variable (s : State) (t u : Nat) (pc : Pc) (i : Slot) (c : Client)

@[simp] theorem State.sentBy_setPc : (s.setPc t pc).sentBy u = s.sentBy u := rfl
@[simp] theorem State.sentBy_setClient : (s.setClient i c).sentBy u = s.sentBy u := rfl

theorem State.sentBy_logSend (f : List UInt8) (k : Nat) :
    (s.logSend t i f k).sentBy u = s.sentBy u ++ if t = u then [f] else [] := by
  simp only [State.sentBy, State.logSend, List.filter_append, List.map_append]
  split_ifs with h <;> simp [h]

end

theorem State.handled_clientClose (s : State) (i j : Slot) :
    ((s.clientClose i).clients j).handled = (s.clients j).handled :=
  State.clients_setClient_of (s := s) (c := (s.clients i).close) Client.handled j rfl

theorem runSession_init_append (S : Setup) (ms : List (UInt16 × List UInt8))
    (m : UInt16 × List UInt8) :
    (runSession S .init (ms ++ [m])).2 = (runSession S .init ms).2 ++
      ((dispatchMessage S ⟨ms.any setsAuthenticated, ms.any (setsSubscribed S)⟩ m.1 m.2).2.bind
        (sendFrame S)).toList := by
  rw [runSession_append, runSession_session]; rfl

theorem frame_afterDispatch (S : Setup) (i : Slot) (c : Nat) (cl : Client) (d : Dispatch) :
    (Pc.client i c (afterDispatch S cl d)).frame =
      (dispatchMessage S ⟨cl.authenticated, cl.subscribedBle⟩ d.msgType d.payload).2.bind
        (sendFrame S) := by
  unfold afterDispatch
  split <;> rename_i h <;> rw [h]
  · split <;> rename_i hf <;> simp [hf, Pc.frame, Pc.flushPc]
  · rfl

/-- The replies each client thread has sent, its own sends, and the slots the listener is
about to hand to a new thread. -/
structure Replies (S : Setup) (s : State) : Prop where
  replies : ∀ t i c p, s.threads t = .client i c p → p ≠ .exited →
    s.sentBy t ++ (Pc.client i c p).frame.toList = (runSession S .init (s.clients i).handled).2
  own : ∀ e ∈ s.sent, ∀ i c p, s.threads e.thread = .client i c p → e.slot = i ∧ e.owner = some c
  fresh : ∀ e ∈ s.sent, e.thread < s.nextTid ∧ s.threads e.thread ≠ .failed
  start : ∀ i conn, s.threads listenerTid = .listener (.start i conn) → (s.clients i).handled = []

section
variable {S : Setup} {s s' : State} {t u : Nat} {pc : Pc}

theorem Replies.congr (hr : Replies S s) (hthr : s'.threads = s.threads)
    (hnext : s.nextTid ≤ s'.nextTid) (hh : ∀ j, (s'.clients j).handled = (s.clients j).handled)
    (hsent : s'.sent = s.sent) : Replies S s' where
  replies t i c p ht hp := by
    simp only [State.sentBy, hsent, hh, hthr] at ht ⊢
    exact hr.replies t i c p ht hp
  own e he i c p ht := hr.own e (hsent ▸ he) i c p (hthr ▸ ht)
  fresh e he := by
    obtain ⟨hlt, hf⟩ := hr.fresh e (hsent ▸ he)
    exact ⟨Nat.lt_of_lt_of_le hlt hnext, hthr ▸ hf⟩
  start i conn ht := by rw [hh]; exact hr.start i conn (hthr ▸ ht)

theorem Replies.setPc (hr : Replies S s) (hpc : ∀ i c p, pc ≠ .client i c p) (hf : pc ≠ .failed)
    (hstart : ∀ i conn, pc = .listener (.start i conn) → (s.clients i).handled = []) :
    Replies S (s.setPc u pc) := by
  have hother : ∀ v i c p, (s.setPc u pc).threads v = .client i c p → s.threads v = .client i c p :=
    fun v i c p h => by
      rw [State.threads_setPc, Function.update_apply] at h
      split_ifs at h
      · exact absurd h (hpc i c p)
      · exact h
  refine ⟨fun v i c p h hp => hr.replies v i c p (hother v i c p h) hp,
    fun e he i c p h => hr.own e he i c p (hother _ i c p h), fun e he => ⟨(hr.fresh e he).1, ?_⟩,
    fun i conn h => ?_⟩
  · rw [State.threads_setPc, Function.update_apply]
    split_ifs
    exacts [hf, (hr.fresh e he).2]
  · rw [State.threads_setPc, Function.update_apply] at h
    split_ifs at h
    exacts [hstart i conn h, hr.start i conn h]

theorem Replies.setPc_neutral (hr : Replies S s) (h : pc.Neutral) : Replies S (s.setPc u pc) :=
  hr.setPc (fun _ _ _ he => by rw [he] at h; exact h) (fun he => by rw [he] at h; exact h)
    fun _ _ he => by rw [he] at h; exact h.elim

theorem Replies.logSend (hr : Replies S s) (hu : ∀ i c p, s.threads u ≠ .client i c p)
    (hlt : u < s.nextTid) (hf : s.threads u ≠ .failed) (i : Slot) (f : List UInt8) (k : Nat) :
    Replies S (s.logSend u i f k) where
  replies t j c p ht hp := by
    have hne : u ≠ t := by rintro rfl; exact hu j c p ht
    rw [State.sentBy_logSend, if_neg hne, List.append_nil]
    exact hr.replies t j c p ht hp
  own e he j c p ht := by
    rcases List.mem_append.mp he with he | he
    · exact hr.own e he j c p ht
    · rw [List.mem_singleton.mp he] at ht; exact absurd ht (hu j c p)
  fresh e he := by
    rcases List.mem_append.mp he with he | he
    · exact hr.fresh e he
    · rw [List.mem_singleton.mp he]; exact ⟨hlt, hf⟩
  start := hr.start

theorem Replies.spawn (hr : Replies S s) (hl : Locks s) {i : Slot} {conn tid : Nat}
    (hh : s.HandleFree tid) (ht : s.threads listenerTid = .listener (.start i conn)) {pc : Pc}
    (hpc : pc = .client i conn .loop ∨ pc = .failed) : Replies S (s.spawn tid pc i) := by
  have hsent : ∀ e ∈ s.sent, e.thread ≠ tid := fun e he hte => by
    obtain ⟨hlt, hf⟩ := hr.fresh e he
    rw [hte] at hlt hf
    rcases hh with rfl | hh
    exacts [lt_irrefl _ hlt, hf hh]
  have hnew : s.sentBy tid = [] := by
    simp only [State.sentBy, List.map_eq_nil_iff, List.filter_eq_nil_iff, decide_eq_true_eq]
    exact hsent
  have hother : ∀ v, v ≠ tid → (s.spawn tid pc i).threads v = s.threads v :=
    fun _ hv => Function.update_noteq hv _ _
  have hh' : ∀ j, ((s.spawn tid pc i).clients j).handled = (s.clients j).handled :=
    fun j => State.clients_setClient_of Client.handled j rfl
  have hL : listenerTid ≠ tid := hl.ne_of_handleFree hh (by simp [ht]) (by simp [ht])
  refine ⟨fun v j c p h hp => ?_, fun e he j c p h => ?_, fun e he => ?_, fun j conn' h => ?_⟩
  · rw [show (s.spawn tid pc i).sentBy v = s.sentBy v from rfl, hh']
    by_cases hv : v = tid
    · subst hv
      rw [State.threads_spawn, Function.update_same] at h
      rcases hpc with rfl | rfl <;> cases h
      rw [hnew, hr.start i conn ht]; rfl
    · rw [hother v hv] at h
      exact hr.replies v j c p h hp
  · rw [hother _ (hsent e he)] at h
    exact hr.own e he j c p h
  · obtain ⟨hlt, hf⟩ := hr.fresh e he
    exact ⟨lt_of_lt_of_le hlt (le_max_left _ _), by rw [hother _ (hsent e he)]; exact hf⟩
  · rw [hother _ hL] at h
    rw [hh']; exact hr.start j conn' h

theorem Replies.setFree (hr : Replies S s) (hs : Slots S s) {i : Slot} (hi : (s.clients i).fd < 0)
    (cl : Client) (hstart : ∀ conn, s.threads listenerTid ≠ .listener (.start i conn)) :
    Replies S (s.setClient i cl) where
  replies t j c p ht hp := by
    have hj : j ≠ i := by rintro rfl; have := (hs.client t j c p ht hp).1; omega
    rw [State.sentBy_setClient, State.clients_setClient, if_neg hj]
    exact hr.replies t j c p ht hp
  own := hr.own
  fresh := hr.fresh
  start j conn ht := by
    have hj : j ≠ i := by rintro rfl; exact hstart conn ht
    rw [State.clients_setClient, if_neg hj]
    exact hr.start j conn ht

theorem Replies.clientMove (hr : Replies S s) (hs : Slots S s) (hl : Locks s) {i : Slot} {c : Nat}
    {p p' : ClientPc} (ht : s.threads t = .client i c p) (hp : p ≠ .exited)
    (hthr : s'.threads = s.threads) (hnext : s'.nextTid = s.nextTid)
    (hh : ∀ j, j ≠ i → (s'.clients j).handled = (s.clients j).handled)
    (hsent : ∀ e ∈ s'.sent, e ∈ s.sent ∨ e.thread = t ∧ e.slot = i ∧ e.owner = some c)
    (hby : ∀ u, u ≠ t → s'.sentBy u = s.sentBy u)
    (heq : p' ≠ .exited → s'.sentBy t ++ (Pc.client i c p').frame.toList =
      (runSession S .init (s'.clients i).handled).2) :
    Replies S (s'.setPc t (.client i c p')) := by
  have hth := (hs.client t i c p ht hp).2.2.1
  have hslot : ∀ u j c' q, s.threads u = .client j c' q → q ≠ .exited → u ≠ t → j ≠ i :=
    fun u j c' q hu hq hne hji => hne (by subst hji; exact (hs.client u j c' q hu hq).2.2.1.symm.trans hth)
  have htid : t < s.nextTid := hl.lt_nextTid (by simp [ht])
  refine ⟨fun u j c' q h hq => ?_, fun e he j c' q h => ?_, fun e he => ?_, fun j conn h => ?_⟩
  · rw [State.threads_setPc, Function.update_apply, hthr] at h
    split_ifs at h with hu
    · cases h; subst hu; exact heq hq
    · rw [State.sentBy_setPc, hby u hu, State.clients_setPc, hh j (hslot u j c' q h hq hu)]
      exact hr.replies u j c' q h hq
  · rw [State.threads_setPc, Function.update_apply, hthr] at h
    rcases hsent e he with he | ⟨het, hei, heo⟩
    · split_ifs at h with hu
      · cases h; exact hr.own e he i c p (hu ▸ ht)
      · exact hr.own e he j c' q h
    · rw [if_pos het] at h
      cases h; exact ⟨hei, heo⟩
  · rw [State.threads_setPc, Function.update_apply, hthr]
    rcases hsent e he with he | ⟨het, -, -⟩
    · obtain ⟨hlt, hf⟩ := hr.fresh e he
      refine ⟨hnext ▸ hlt, ?_⟩
      split_ifs
      exacts [nofun, hf]
    · exact ⟨hnext ▸ het ▸ htid, by rw [if_pos het]; exact nofun⟩
  · rw [State.threads_setPc_ne (hs.roles_ne ht).1.symm, hthr] at h
    have hji : j ≠ i := fun hji => hs.reserved t i c p _ ht hp h hji
    rw [State.clients_setPc, hh j hji]
    exact hr.start j conn h

theorem Replies.clientStep (hr : Replies S s) (hs : Slots S s) (hl : Locks s) {i : Slot} {c : Nat}
    {pc pc' : ClientPc} (ht : s.threads t = .client i c pc) (hst : ClientStep S t i pc s pc' s') :
    Replies S (s'.setPc t (.client i c pc')) := by
  have hold := fun hp => hr.replies t i c pc ht hp
  have hkeep : ∀ {cl : Client} j, j ≠ i → ((s.setClient i cl).clients j).handled = (s.clients j).handled :=
    fun j hj => by rw [State.clients_setClient, if_neg hj]
  cases hst
  case enter | leave | hangup | idle =>
    exact hr.clientMove hs hl ht nofun rfl rfl (fun _ _ => rfl) (fun e he => .inl he)
      (fun _ _ => rfl) fun _ => hold nofun
  case received | lockSend =>
    exact hr.clientMove hs hl ht nofun rfl rfl hkeep (fun e he => .inl he) (fun _ _ => rfl)
      fun _ => by rw [State.sentBy_setClient, State.clients_setClient_self]; exact hold nofun
  case dispatch d rest _ _ =>
    have hi := (hs.client t i c .handle ht nofun).1
    obtain ⟨ha, hb⟩ := hs.session i hi
    refine hr.clientMove hs hl ht nofun rfl rfl hkeep (fun e he => .inl he) (fun _ _ => rfl)
      fun _ => ?_
    have h₀ : s.sentBy t = (runSession S .init (s.clients i).handled).2 :=
      (List.append_nil _).symm.trans (hold nofun)
    rw [State.sentBy_setClient, State.clients_setClient_self, frame_afterDispatch, ha, hb, h₀]
    exact (runSession_init_append S _ d.msg).symm
  case send f k _ =>
    have hown := (hs.client t i c (.send f) ht nofun).2.1
    refine hr.clientMove hs hl ht nofun rfl rfl hkeep (fun e he => ?_) (fun u hu => ?_)
      fun _ => ?_
    · rcases List.mem_append.mp he with he | he
      · exact .inl he
      · exact .inr (by rw [List.mem_singleton.mp he]; exact ⟨rfl, rfl, hown⟩)
    · rw [State.sentBy_setClient, State.sentBy_logSend, if_neg (Ne.symm hu), List.append_nil]
    · rw [State.sentBy_setClient, State.sentBy_logSend, if_pos rfl, State.clients_setClient_self]
      exact (List.append_nil _).trans (hold nofun)
  case cleanup =>
    exact hr.clientMove hs hl ht nofun rfl rfl
      (fun j hj => by rw [State.clients_setClient, if_neg hj, State.handled_clientClose])
      (fun e he => .inl he) (fun _ _ => rfl) fun h => absurd rfl h

theorem Replies.listenerStep (hr : Replies S s) (hs : Slots S s) (hl : Locks s) {pc pc' : ListenerPc}
    (ht : s.threads listenerTid = .listener pc) (hst : ListenerStep pc s pc' s') :
    Replies S (s'.setPc listenerTid (.listener pc')) := by
  have hpc : ∀ i c p, Pc.listener pc' ≠ .client i c p := fun _ _ _ h => by cases h
  have hf : Pc.listener pc' ≠ .failed := nofun
  cases hst
  case take i _ hfree =>
    refine Replies.setPc (hr.setFree hs (State.firstFree_fd hfree) _ fun conn h => by
      rw [ht] at h; cases h) hpc hf fun j conn h => ?_
    cases h
    rw [State.clients_setClient_self]
  case created i conn tid hh => exact (hr.spawn hl hh ht (.inl rfl)).setPc hpc hf nofun
  case createFailed i conn tid hh => exact (hr.spawn hl hh ht (.inr rfl)).setPc hpc hf nofun
  case noStack i conn =>
    exact Replies.setPc (hr.congr rfl le_rfl (fun j => State.clients_setClient_of Client.handled j rfl)
      rfl) hpc hf nofun
  case closeFailed i _ =>
    exact Replies.setPc (hr.congr rfl le_rfl (State.handled_clientClose s i) rfl) hpc hf nofun
  all_goals exact Replies.setPc (hr.congr rfl le_rfl (fun _ => rfl) rfl) hpc hf nofun

theorem Replies.flushStep (hr : Replies S s) (hl : Locks s) {f : FlushPc} {f' : Option FlushPc}
    (ht : (s.threads t).flushPc = some f) (hst : FlushStep S t f s f' s') :
    Replies S (s'.setPc t ((s.threads t).afterFlush f')) := by
  have hn₀ := Pc.neutral_of_flushPc ht
  have hn := (Pc.afterFlush_of_flushPc ht f').1
  have hu : ∀ i c p, s.threads t ≠ .client i c p := fun _ _ _ h => by rw [h] at hn₀; exact hn₀
  have hlt : t < s.nextTid := hl.lt_nextTid fun h => by rw [h] at hn₀; exact hn₀
  have hf : s.threads t ≠ .failed := fun h => by rw [h] at hn₀; exact hn₀
  cases hst
  case lockSend =>
    exact Replies.setPc_neutral (hr.congr rfl le_rfl (fun j => State.clients_setClient_of Client.handled j rfl) rfl) hn
  case send i _ _ k _ =>
    exact Replies.setPc_neutral ((hr.logSend hu hlt hf i _ k).congr rfl le_rfl
      (fun j => State.clients_setClient_of Client.handled j rfl) rfl) hn
  all_goals exact Replies.setPc_neutral (hr.congr rfl le_rfl (fun _ => rfl) rfl) hn

theorem Replies.step (hr : Replies S s) (hs : Slots S s) (hl : Locks s) (h : Step S s s') :
    Replies S s' := by
  cases h with
  | listener ht hst => exact hr.listenerStep hs hl ht hst
  | flusher _ hst => cases hst <;> exact hr.setPc_neutral trivial
  | stopper _ hst =>
    cases hst <;> exact Replies.setPc (hr.congr rfl le_rfl (fun _ => rfl) rfl) nofun nofun nofun
  | producer _ hst =>
    cases hst <;> exact Replies.setPc_neutral (hr.congr rfl le_rfl (fun _ => rfl) rfl) trivial
  | client ht hst => exact hr.clientStep hs hl ht hst
  | flush ht hst => exact hr.flushStep hl ht hst
  | clock => exact hr.congr rfl le_rfl (fun _ => rfl) rfl

end

theorem Replies.init (S : Setup) (nprod t0 : Nat) : Replies S (State.init nprod t0) where
  replies t i c p h := by
    rcases State.init_threads nprod t0 t with h' | h' | h' | h' | h' <;> rw [h'] at h <;> cases h
  own _ h := by cases h
  fresh _ h := by cases h
  start _ _ h := by cases h

theorem Replies.reachable {S : Setup} {nprod t0 : Nat} {s : State} (h : Reachable S nprod t0 s) :
    Replies S s := by
  induction h with
  | refl => exact Replies.init S nprod t0
  | tail hr hst ih => exact ih.step (Slots.reachable hr) (Locks.reachable hr) hst

/-! ### What the replies invariant gives -/

theorem reachable_ping_answered :
    ∃ s, Reachable specSetup 0 0 s ∧ s.threads 4 = .client 0 0 .handle ∧ s.sent ≠ [] :=
  ⟨_, .tail (.tail (.tail (.tail (.tail (.tail (.tail (.tail (.tail .refl
      (.listener (by rfl) (.enter (by rfl))))
      (.listener (by rfl) (.accepted 0 (by rfl) le_rfl (by rfl))))
      (.listener (by rfl) (.take 0 (by rfl) (by rfl))))
      (.listener (by rfl) (.created 4 (Or.inl rfl))))
      (.client (show State.threads _ 4 = _ from rfl) (.enter (by rfl) (by decide))))
      (.client (show State.threads _ 4 = _ from rfl) (.received [0, 1, 7] (by decide) (by decide))))
      (.client (show State.threads _ 4 = _ from rfl)
        (.dispatch (by decide) (show handlePass _ _ = .dispatch ⟨7, [], 3, 0, 3⟩ [] by decide))))
      (.client (show State.threads _ 4 = _ from rfl) (.lockSend (by rfl))))
      (.client (show State.threads _ 4 = _ from rfl) (.send 3 (by decide))),
    rfl, List.cons_ne_nil _ _⟩


/-- While a client thread serves connection `c` in slot `i`, the frames it has handed to `send`,
followed by the one it is about to send, are the frames of the handlers' replies to the messages
dispatched for `c`, run in order from the zeroed session: no reply is lost, repeated or
reordered, and a message without a reply sends nothing. -/
theorem client_replies_follow_messages (S : Setup) (nprod t0 : Nat) (s : State)
    (h : Reachable S nprod t0 s) (t : Nat) (i : Slot) (c : Nat) (p : ClientPc)
    (ht : s.threads t = .client i c p) (hp : p ≠ .exited) :
    (s.clients i).owner = some c ∧
      s.sentBy t ++ (Pc.client i c p).frame.toList = (runSession S .init (s.clients i).handled).2 :=
  ⟨((Slots.reachable h).client t i c p ht hp).2.1, (Replies.reachable h).replies t i c p ht hp⟩

theorem client_replies_follow_messages_on_ping :
    ∃ s, Reachable specSetup 0 0 s ∧ s.threads 4 = .client 0 0 .handle ∧
      ClientPc.handle ≠ .exited ∧ s.sent ≠ [] ∧ ((s.clients 0).owner = some 0 ∧
        s.sentBy 4 ++ (Pc.client 0 0 .handle).frame.toList =
          (runSession specSetup .init (s.clients 0).handled).2) :=
  let ⟨s, h, ht, hs⟩ := reachable_ping_answered
  ⟨s, h, ht, fun h => ClientPc.noConfusion h, hs,
    client_replies_follow_messages specSetup 0 0 s h 4 0 0 .handle ht fun h => ClientPc.noConfusion h⟩

/-- A client thread sends only on its own connection: each of its sends goes to its slot while
the slot belongs to the connection the thread serves, and reaches that connection, whatever the
other connections, the flushes and the listener do meanwhile. -/
theorem client_sends_stay_on_connection (S : Setup) (nprod t0 : Nat) (s : State)
    (h : Reachable S nprod t0 s) :
    ∀ e ∈ s.sent, ∀ i c p, s.threads e.thread = .client i c p →
      e.slot = i ∧ e.owner = some c ∧ e.target = some c := by
  intro e he i c p ht
  obtain ⟨hi, hc⟩ := (Replies.reachable h).own e he i c p ht
  obtain ⟨-, c', ho, htg⟩ := (Slots.reachable h).sent e he
  exact ⟨hi, hc, by rw [htg, ← ho, hc]⟩

theorem client_sends_stay_on_connection_on_ping :
    ∃ s, Reachable specSetup 0 0 s ∧ s.sent ≠ [] ∧
      ∀ e ∈ s.sent, ∀ i c p, s.threads e.thread = .client i c p →
        e.slot = i ∧ e.owner = some c ∧ e.target = some c :=
  let ⟨s, h, _, hs⟩ := reachable_ping_answered
  ⟨s, h, hs, client_sends_stay_on_connection specSetup 0 0 s h⟩

/-- A peer sends two pings in one segment. The socket takes one byte of the first pong;
`send_message` reports the short write to `handle_ping_request`, which ignores it, and
`handle_client_data` dispatches the second ping, whose pong the socket takes whole. The
connection has accepted `[0, 0, 1, 8]`: a cut frame with a whole one after it. -/
theorem session_sends_after_short_write :
    ∃ s, Reachable specSetup 0 0 s ∧
      s.sent.map (fun e => (e.target, e.frame, e.accepted)) =
        [(some 0, [0, 1, 8], 1), (some 0, [0, 1, 8], 3)] := by
  have h : Reachable specSetup 0 0 _ :=
    .tail (.tail (.tail (.tail (.tail (.tail (.tail (.tail (.tail (.tail (.tail (.tail .refl
      (.listener (by rfl) (.enter (by rfl))))
      (.listener (by rfl) (.accepted 0 (by rfl) le_rfl (by rfl))))
      (.listener (by rfl) (.take 0 (by rfl) (by rfl))))
      (.listener (by rfl) (.created 4 (Or.inl rfl))))
      (.client (show State.threads _ 4 = _ from rfl) (.enter (by rfl) (by decide))))
      (.client (show State.threads _ 4 = _ from rfl)
        (.received [0, 1, 7, 0, 1, 7] (by decide) (by decide))))
      (.client (show State.threads _ 4 = _ from rfl)
        (.dispatch (by decide) (show handlePass _ _ = .dispatch ⟨7, [], 3, 0, 6⟩ [0, 1, 7] by decide))))
      (.client (show State.threads _ 4 = _ from rfl) (.lockSend (by rfl))))
      (.client (show State.threads _ 4 = _ from rfl) (.send 1 (by decide))))
      (.client (show State.threads _ 4 = _ from rfl)
        (.dispatch (by decide) (show handlePass _ _ = .dispatch ⟨7, [], 3, 0, 3⟩ [] by decide))))
      (.client (show State.threads _ 4 = _ from rfl) (.lockSend (by rfl))))
      (.client (show State.threads _ 4 = _ from rfl) (.send 3 (by decide)))
  exact ⟨_, h, rfl⟩

end EsphomeProxy
