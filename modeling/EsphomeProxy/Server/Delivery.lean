import EsphomeProxy.Server.Broadcasts
import EsphomeProxy.Server.Shutdown

/-! Every connection subscribed when a flush begins its send loop gets the batch's frame. -/

namespace EsphomeProxy

/-- What a slot keeps while `clients_mutex` is held: its descriptor, its connection, and a
subscription once made. -/
structure Client.Keeps (c c' : Client) : Prop where
  fd : c'.fd = c.fd
  owner : c'.owner = c.owner
  subscribed : c.subscribedBle = true → c'.subscribedBle = true

theorem Client.Keeps.refl (c : Client) : c.Keeps c := ⟨rfl, rfl, id⟩

theorem Client.Keeps.trans {c c' c'' : Client} (h : c.Keeps c') (h' : c'.Keeps c'') : c.Keeps c'' :=
  ⟨h'.fd.trans h.fd, h'.owner.trans h.owner, h'.subscribed ∘ h.subscribed⟩

theorem State.keeps_setClient {s : State} {i : Slot} {c : Client} (j : Slot)
    (h : (s.clients i).Keeps c) : (s.clients j).Keeps ((s.setClient i c).clients j) := by
  rw [State.clients_setClient]
  split_ifs with hj
  · subst hj; exact h
  · exact .refl _

section
variable {S : Setup} {s s' : State}

theorem Step.keepsSlots (h : Step S s s') (hm : s.clientsMutex ≠ none) (j : Slot) :
    (s.clients j).Keeps (s'.clients j) := by
  cases h with
  | listener _ hst =>
    cases hst
    case take hm' _ | full hm' _ | closeFailed hm' => exact absurd hm' hm
    case created | createFailed | noStack => exact State.keeps_setClient j ⟨rfl, rfl, id⟩
    all_goals exact .refl _
  | stopper _ hst =>
    cases hst
    case closeAll hm' => exact absurd hm' hm
    all_goals exact .refl _
  | client _ hst =>
    cases hst
    case cleanup hm' => exact absurd hm' hm
    case dispatch =>
      exact State.keeps_setClient j ⟨rfl, rfl, fun h => by
        simp [Client.dispatched, dispatchMessage_session, h]⟩
    case received | lockSend | send => exact State.keeps_setClient j ⟨rfl, rfl, id⟩
    all_goals exact .refl _
  | flush _ hst =>
    cases hst
    case lockSend | send => exact State.keeps_setClient j ⟨rfl, rfl, id⟩
    all_goals exact .refl _
  | flusher _ hst => cases hst <;> exact .refl _
  | producer _ hst => cases hst <;> exact .refl _
  | clock => exact .refl _

theorem Step.sent_append (h : Step S s s') : ∃ m, s'.sent = s.sent ++ m := by
  have keep : ∀ {s₁ : State}, s₁.sent = s.sent → ∃ m, s₁.sent = s.sent ++ m :=
    fun h => ⟨[], h.trans (List.append_nil _).symm⟩
  cases h with
  | listener _ hst => cases hst <;> exact keep rfl
  | flusher _ hst => cases hst <;> exact keep rfl
  | stopper _ hst => cases hst <;> exact keep rfl
  | producer _ hst => cases hst <;> exact keep rfl
  | client _ hst =>
    cases hst
    case send => exact ⟨_, rfl⟩
    all_goals exact keep rfl
  | flush _ hst =>
    cases hst
    case send => exact ⟨_, rfl⟩
    all_goals exact keep rfl
  | clock => exact keep rfl

theorem Step.flushPc_cases (hl : Locks s) (h : Step S s s') {t : Nat} {f : FlushPc}
    (ht : (s.threads t).flushPc = some f) :
    s'.threads t = s.threads t ∨
      ∃ f' s₁, FlushStep S t f s f' s₁ ∧ s' = s₁.setPc t ((s.threads t).afterFlush f') := by
  have hne : ∀ {u : Nat} {pc : Pc}, s.threads u = pc → pc.flushPc = none → t ≠ u :=
    fun hu hpc htu => by subst htu; rw [hu, hpc] at ht; cases ht
  cases h with
  | listener hL hst =>
    exact .inl ((State.threads_setPc_ne (hne hL rfl)).trans
      (hst.frame.2.2 t (hl.not_handleFree (Pc.ne_unused_of_flushPc ht)
        fun h => by rw [h] at ht; cases ht)))
  | @flusher _ pc _ hF hst =>
    by_cases htF : t = flusherTid
    · subst htF; rw [hF] at ht
      cases pc <;> cases ht
      cases hst
    · cases hst <;> exact .inl (State.threads_setPc_ne htF)
  | stopper hT hst =>
    exact .inl ((State.threads_setPc_ne (hne hT rfl)).trans (congrFun hst.threads_eq t))
  | @producer _ u pc _ hP hst =>
    by_cases hu : t = u
    · subst hu; rw [hP] at ht
      cases pc <;> cases ht <;> cases hst
    · exact .inl ((State.threads_setPc_ne hu).trans (congrFun hst.frame.2.2 t))
  | client hC hst =>
    exact .inl ((State.threads_setPc_ne (hne hC rfl)).trans (congrFun hst.frame.2.2 t))
  | @flush _ u _ _ hu hst =>
    by_cases htu : t = u
    · subst htu; rw [ht] at hu; cases hu
      exact .inr ⟨_, _, hst, rfl⟩
    · exact .inl ((State.threads_setPc_ne htu).trans (congrFun hst.frame.2.2 t))
  | clock => exact .inl rfl

end

/-- The send loop of `flush_ble_batch` for payload `p`, at slot index `k`. -/
def FlushPc.LoopAt (p : List UInt8) (k : Nat) : FlushPc → Prop
  | .scan i q => i = k ∧ q = p
  | .lockSend i q _ | .send i q _ => i.val = k ∧ q = p
  | _ => False

theorem FlushPc.holds_clients_of_loopAt {f : FlushPc} {p : List UInt8} {k : Nat}
    (h : f.LoopAt p k) : f.holds .clients = true := by
  cases f <;> first | exact h.elim | rfl

/-- Since `s₀`, thread `t` has sent `fr` on the descriptor slot `j` had in `s₀`, for the
connection that held the slot then. -/
def State.SentSince (s₀ s : State) (t : Nat) (j : Slot) (fr : List UInt8) : Prop :=
  ∃ l, s.sent = s₀.sent ++ l ∧ ∃ e ∈ l, e.thread = t ∧ e.slot = j ∧
    e.fd = (s₀.clients j).fd ∧ e.owner = (s₀.clients j).owner ∧ e.frame = fr

/-- Each slot below `k` that was live and subscribed in `s₀` has been sent the frame of `p`
since. -/
def Served (S : Setup) (s₀ s : State) (t : Nat) (p : List UInt8) (k : Nat) : Prop :=
  ∀ j : Slot, j.val < k → 0 ≤ (s₀.clients j).fd → (s₀.clients j).subscribedBle = true →
    ∀ fr, sendFrame S ⟨esphomeMsgBluetoothLeRawAdvertisementsResponse, p⟩ = some fr →
      s₀.SentSince s t j fr

section
variable {S : Setup} {s₀ s s' : State} {t : Nat} {p : List UInt8}

theorem Served.mono {k : Nat} (h : Served S s₀ s t p k) (hm : ∃ m, s'.sent = s.sent ++ m) :
    Served S s₀ s' t p k := fun j hj hfd hsub fr hfr => by
  obtain ⟨l, hl, e, he, hrest⟩ := h j hj hfd hsub fr hfr
  obtain ⟨m, hm⟩ := hm
  exact ⟨l ++ m, by rw [hm, hl, List.append_assoc], e, List.mem_append_left m he, hrest⟩

theorem Served.succ {i : Slot} (h : Served S s₀ s t p i.val)
    (hi : 0 ≤ (s₀.clients i).fd → (s₀.clients i).subscribedBle = true →
      ∀ fr, sendFrame S ⟨esphomeMsgBluetoothLeRawAdvertisementsResponse, p⟩ = some fr →
        s₀.SentSince s t i fr) :
    Served S s₀ s t p (i.val + 1) := fun j hj => by
  rcases Nat.lt_succ_iff_lt_or_eq.mp hj with hj | hj
  · exact h j hj
  · obtain rfl : j = i := Fin.ext hj
    exact hi

/-- Where the flush of thread `t` that began its send loop for `p` in `s₀` is: in the loop at
slot `k`, with the slots `s₀` had live and subscribed kept and those below `k` served; or past
it, with all of them served. -/
structure Delivery (S : Setup) (s₀ : State) (t : Nat) (p : List UInt8) (s : State) : Prop where
  log : ∃ l, s.sent = s₀.sent ++ l
  loop : (∃ f k, (s.threads t).flushPc = some f ∧ f.LoopAt p k ∧
      (∀ j, (s₀.clients j).Keeps (s.clients j)) ∧ Served S s₀ s t p k) ∨
    Served S s₀ s t p esphomeMaxClients

theorem Delivery.start (h₀ : (s₀.threads t).flushPc = some (.scan 0 p)) : Delivery S s₀ t p s₀ where
  log := ⟨[], (List.append_nil _).symm⟩
  loop := .inl ⟨_, 0, h₀, ⟨rfl, rfl⟩, fun _ => .refl _, fun _ hj => absurd hj (Nat.not_lt_zero _)⟩

theorem Delivery.loopStep {f : FlushPc} {f' : Option FlushPc} {s₁ : State} {k : Nat}
    (hb : Broadcasts S s) (hlog : ∃ l, s.sent = s₀.sent ++ l) (hf : (s.threads t).flushPc = some f)
    (hat : f.LoopAt p k) (hkeep : ∀ j, (s₀.clients j).Keeps (s.clients j))
    (hserved : Served S s₀ s t p k) (hst : FlushStep S t f s f' s₁) :
    (∃ f₁ k', f' = some f₁ ∧ f₁.LoopAt p k' ∧ Served S s₀ s₁ t p k') ∨
      (f' = none ∧ Served S s₀ s₁ t p esphomeMaxClients) := by
  cases hst
  case skip _ i hnot =>
    obtain ⟨rfl, rfl⟩ := hat
    exact .inl ⟨_, _, rfl, ⟨rfl, rfl⟩, hserved.succ fun hfd hsub =>
      absurd ⟨(hkeep i).fd ▸ hfd, (hkeep i).subscribed hsub⟩ hnot⟩
  case unframed _ i hnone _ _ =>
    obtain ⟨rfl, rfl⟩ := hat
    exact .inl ⟨_, _, rfl, ⟨rfl, rfl⟩, hserved.succ fun _ _ _ hfr =>
      Option.noConfusion (hnone.symm.trans hfr)⟩
  case framed =>
    obtain ⟨rfl, rfl⟩ := hat
    exact .inl ⟨_, _, rfl, ⟨rfl, rfl⟩, hserved⟩
  case lockSend => exact .inl ⟨_, _, rfl, hat, hserved⟩
  case send i q fr kk _ =>
    obtain ⟨rfl, rfl⟩ := hat
    have hframed : sendFrame S ⟨esphomeMsgBluetoothLeRawAdvertisementsResponse, q⟩ = some fr :=
      hb.framed t _ hf
    refine .inl ⟨_, _, rfl, ⟨rfl, rfl⟩, (hserved.mono ⟨_, rfl⟩).succ fun _ _ fr' hfr' => ?_⟩
    rw [hframed] at hfr'; cases hfr'
    obtain ⟨l, hl⟩ := hlog
    let e : SendEvent := ⟨t, i, (s.clients i).fd, s.fds (s.clients i).fd, (s.clients i).owner, fr, kk⟩
    exact ⟨l ++ [e], by rw [← List.append_assoc, ← hl]; rfl, e,
      List.mem_append_right _ (List.mem_singleton_self e), rfl, rfl, (hkeep i).fd, (hkeep i).owner, rfl⟩
  case finish =>
    obtain ⟨rfl, rfl⟩ := hat
    exact .inr ⟨rfl, hserved⟩
  all_goals exact hat.elim

theorem Delivery.step (hd : Delivery S s₀ t p s) (hl : Locks s) (hb : Broadcasts S s)
    (h : Step S s s') : Delivery S s₀ t p s' := by
  obtain ⟨m, hm⟩ := h.sent_append
  refine ⟨let ⟨l, hl'⟩ := hd.log; ⟨l ++ m, by rw [hm, hl', List.append_assoc]⟩, ?_⟩
  rcases hd.loop with ⟨f, k, hf, hat, hkeep, hserved⟩ | hdone
  · -- the loop holds `clients_mutex`
    have hown : s.clientsMutex = some t := (hl.owner_iff .clients t).mpr
      (by rw [Pc.holds_of_flushPc hf]; exact FlushPc.holds_clients_of_loopAt hat)
    have hkeep' : ∀ j, (s₀.clients j).Keeps (s'.clients j) := fun j =>
      (hkeep j).trans (h.keepsSlots (by rw [hown]; exact Option.some_ne_none t) j)
    rcases Step.flushPc_cases hl h hf with hT | ⟨f', s₁, hst, rfl⟩
    · exact .inl ⟨f, k, hT ▸ hf, hat, hkeep', hserved.mono ⟨m, hm⟩⟩
    · rcases Delivery.loopStep hb hd.log hf hat hkeep hserved hst with
        ⟨f₁, k', rfl, hat', hserved'⟩ | ⟨rfl, hdone⟩
      · exact .inl ⟨f₁, k', by rw [State.threads_setPc_self, Pc.flushPc_afterFlush hf], hat', hkeep',
          hserved'⟩
      · exact .inr hdone
  · exact .inr (hdone.mono ⟨m, hm⟩)

theorem Delivery.run {nprod t0 : Nat} (h : Reachable S nprod t0 s₀)
    (h₀ : (s₀.threads t).flushPc = some (.scan 0 p)) (hrun : Relation.ReflTransGen (Step S) s₀ s) :
    Delivery S s₀ t p s := by
  induction hrun with
  | refl => exact Delivery.start h₀
  | tail hr hst ih =>
    have hreach : Reachable S nprod t0 _ := h.trans hr
    exact ih.step (Locks.reachable hreach) (Broadcasts.reachable hreach) hst

end

/-- No subscriber misses a broadcast. Once `flush_ble_batch` has locked `clients_mutex` and
begun its send loop for payload `p`, whatever the other threads do, by the end of the loop it
has sent the frame `send_message` makes of `p` to every connection that was live and subscribed
when the loop began, on the descriptor and for the connection the slot had then. -/
theorem flush_reaches_every_subscriber (S : Setup) (nprod t0 : Nat) (s₀ : State)
    (h : Reachable S nprod t0 s₀) (t : Nat) (p : List UInt8)
    (h₀ : (s₀.threads t).flushPc = some (.scan 0 p)) (s : State)
    (hrun : Relation.ReflTransGen (Step S) s₀ s)
    (hend : (s.threads t).flushPc = some (.scan esphomeMaxClients p)) :
    ∀ (j : Slot) fr, 0 ≤ (s₀.clients j).fd → (s₀.clients j).subscribedBle = true →
      sendFrame S ⟨esphomeMsgBluetoothLeRawAdvertisementsResponse, p⟩ = some fr →
      ∃ l, s.sent = s₀.sent ++ l ∧ ∃ e ∈ l, e.thread = t ∧ e.slot = j ∧
        e.fd = (s₀.clients j).fd ∧ e.owner = (s₀.clients j).owner ∧ e.frame = fr := by
  intro j fr hfd hsub hfr
  rcases (Delivery.run h h₀ hrun).loop with ⟨f, k, hf, hat, -, hserved⟩ | hdone
  · rw [hend] at hf; cases hf
    obtain ⟨rfl, -⟩ := hat
    exact hserved j j.isLt hfd hsub fr hfr
  · exact hdone j j.isLt hfd hsub fr hfr

theorem reachable_flush_loop :
    ∃ s₀ s, Reachable broadcastSetup 1 0 s₀ ∧ Relation.ReflTransGen (Step broadcastSetup) s₀ s ∧
      (s₀.threads flusherTid).flushPc = some (.scan 0 [0]) ∧
      (s.threads flusherTid).flushPc = some (.scan esphomeMaxClients [0]) ∧
      0 ≤ (s₀.clients 0).fd ∧ (s₀.clients 0).subscribedBle = true := by
  have h : Reachable broadcastSetup 1 0 _ :=
    .tail (.tail (.tail (.tail (.tail (.tail (.tail (.tail (.tail (.tail (.tail (.tail (.tail
      (.tail (.tail .refl
      (.listener (by rfl) (.enter (by rfl))))
      (.listener (by rfl) (.accepted 0 (by rfl) le_rfl (by rfl))))
      (.listener (by rfl) (.take 0 (by rfl) (by rfl))))
      (.listener (by rfl) (.created 5 (Or.inl rfl))))
      (.client (show State.threads _ 5 = _ from rfl) (.enter (by rfl) (by decide))))
      (.client (show State.threads _ 5 = _ from rfl) (.received [0, 1, 66] (by decide) (by decide))))
      (.client (show State.threads _ 5 = _ from rfl)
        (.dispatch (by decide) (show handlePass _ _ = .dispatch ⟨66, [], 3, 0, 3⟩ [] by decide))))
      (.producer (show State.threads _ 4 = _ from rfl) (.call ⟨fun _ => 0, 0, 0, fun _ => 0, 0⟩)))
      (.producer (show State.threads _ 4 = _ from rfl) (.room (by rfl) (by decide))))
      (.producer (show State.threads _ 4 = _ from rfl) (.write (by decide))))
      (.flusher (by rfl) (.enter (by rfl))))
      (.clock 100000000 (by decide)))
      (.flusher (by rfl) (.due (by decide))))
      (.flush (show (State.threads _ 2).flushPc = _ from rfl)
        (.encoded (by rfl) (List.cons_ne_nil _ _) (List.cons_ne_nil _ _))))
      (.flush (show (State.threads _ 2).flushPc = _ from rfl) (.lockClients (by rfl)))
  exact ⟨_, _, h, .tail (.tail (.tail (.tail .refl
      (.flush (show (State.threads _ 2).flushPc = _ from rfl)
        (.framed 0 (by decide) (by rfl) (show sendFrame broadcastSetup ⟨93, [0]⟩ = some [0, 2, 93, 0] from rfl))))
      (.flush (show (State.threads _ 2).flushPc = _ from rfl) (.lockSend (by rfl))))
      (.flush (show (State.threads _ 2).flushPc = _ from rfl) (.send 4 (by decide))))
      (.flush (show (State.threads _ 2).flushPc = _ from rfl) (.skip 1 (by decide))),
    rfl, rfl, by decide, rfl⟩

theorem flush_reaches_every_subscriber_on_timer :
    ∃ s₀ s, Reachable broadcastSetup 1 0 s₀ ∧ Relation.ReflTransGen (Step broadcastSetup) s₀ s ∧
      (s₀.threads flusherTid).flushPc = some (.scan 0 [0]) ∧
      (s.threads flusherTid).flushPc = some (.scan esphomeMaxClients [0]) ∧
      0 ≤ (s₀.clients 0).fd ∧ (s₀.clients 0).subscribedBle = true ∧
      ∀ (j : Slot) fr, 0 ≤ (s₀.clients j).fd → (s₀.clients j).subscribedBle = true →
        sendFrame broadcastSetup ⟨esphomeMsgBluetoothLeRawAdvertisementsResponse, [0]⟩ = some fr →
        ∃ l, s.sent = s₀.sent ++ l ∧ ∃ e ∈ l, e.thread = flusherTid ∧ e.slot = j ∧
          e.fd = (s₀.clients j).fd ∧ e.owner = (s₀.clients j).owner ∧ e.frame = fr :=
  let ⟨s₀, s, h, hrun, h₀, hend, hfd, hsub⟩ := reachable_flush_loop
  ⟨s₀, s, h, hrun, h₀, hend, hfd, hsub,
    flush_reaches_every_subscriber broadcastSetup 1 0 s₀ h flusherTid [0] h₀ s hrun hend⟩

end EsphomeProxy
