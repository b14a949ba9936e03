import EsphomeProxy.Server.State

/-! The threads of the server, one atomic step at a time, and the steps of the server. -/

namespace EsphomeProxy

def State.setPc (s : State) (t : Nat) (pc : Pc) : State :=
  { s with threads := Function.update s.threads t pc }

def State.setClient (s : State) (i : Slot) (c : Client) : State :=
  { s with clients := Function.update s.clients i c }

section
variable (s : State) (t : Nat) (pc : Pc) (i : Slot) (c : Client)

@[simp] theorem State.threads_setPc : (s.setPc t pc).threads = Function.update s.threads t pc := rfl
@[simp] theorem State.clients_setPc : (s.setPc t pc).clients = s.clients := rfl
@[simp] theorem State.fds_setPc : (s.setPc t pc).fds = s.fds := rfl
@[simp] theorem State.nextConn_setPc : (s.setPc t pc).nextConn = s.nextConn := rfl
@[simp] theorem State.sent_setPc : (s.setPc t pc).sent = s.sent := rfl
@[simp] theorem State.batch_setPc : (s.setPc t pc).batch = s.batch := rfl
@[simp] theorem State.batchMutex_setPc : (s.setPc t pc).batchMutex = s.batchMutex := rfl
@[simp] theorem State.removed_setPc : (s.setPc t pc).removed = s.removed := rfl
@[simp] theorem State.calls_setPc : (s.setPc t pc).calls = s.calls := rfl
@[simp] theorem State.joins_setPc : (s.setPc t pc).joins = s.joins := rfl
@[simp] theorem State.nextTid_setPc : (s.setPc t pc).nextTid = s.nextTid := rfl
@[simp] theorem State.threads_setClient : (s.setClient i c).threads = s.threads := rfl
@[simp] theorem State.fds_setClient : (s.setClient i c).fds = s.fds := rfl
@[simp] theorem State.nextConn_setClient : (s.setClient i c).nextConn = s.nextConn := rfl
@[simp] theorem State.sent_setClient : (s.setClient i c).sent = s.sent := rfl
@[simp] theorem State.joins_setClient : (s.setClient i c).joins = s.joins := rfl
@[simp] theorem State.nextTid_setClient : (s.setClient i c).nextTid = s.nextTid := rfl

theorem State.threads_setPc_self : (s.setPc t pc).threads t = pc := Function.update_same _ _ _

@[simp] theorem State.setPc_setPc (pc' : Pc) : (s.setPc t pc).setPc t pc' = s.setPc t pc' := by
  simp [State.setPc]

theorem State.clients_setClient (j : Slot) :
    (s.setClient i c).clients j = if j = i then c else s.clients j :=
  Function.update_apply _ _ _ _

end

theorem State.threads_setPc_ne {s : State} {t u : Nat} {pc : Pc} (h : u ≠ t) :
    (s.setPc t pc).threads u = s.threads u := Function.update_noteq h _ _

theorem State.clients_setClient_self (s : State) (i : Slot) (c : Client) :
    (s.setClient i c).clients i = c := Function.update_same _ _ _

theorem State.clients_setClient_of {α : Type} {s : State} {i : Slot} {c : Client} (g : Client → α)
    (j : Slot) (h : g c = g (s.clients i)) : g ((s.setClient i c).clients j) = g (s.clients j) := by
  rw [State.clients_setClient]
  split_ifs with hj
  · subst hj; exact h
  · rfl

theorem State.setPc_of_threads {s : State} {t : Nat} {pc : Pc} (h : s.threads t = pc) :
    s.setPc t pc = s := by
  simp [State.setPc, ← h]

/-- A handle `pthread_create` may return: one it never returned, or one it wrote for a create
that failed and whose descriptor glibc took back into its stack cache. -/
def State.HandleFree (s : State) (h : Nat) : Prop := h = s.nextTid ∨ s.threads h = .failed

/-- `pthread_create(&client->thread, ...)` writes handle `h` into slot `i`, whose
`thread_running` the listener has set; the thread starts at `pc`, or is `failed`. -/
def State.spawn (s : State) (h : Nat) (pc : Pc) (i : Slot) : State :=
  ({ s with nextTid := max s.nextTid (h + 1) }.setPc h pc).setClient i
    { s.clients i with thread := h, threadRunning := true }

@[simp] theorem State.threads_spawn (s : State) (h : Nat) (pc : Pc) (i : Slot) :
    (s.spawn h pc i).threads = Function.update s.threads h pc := rfl

theorem State.HandleFree.setPc {s : State} {t h : Nat} {pc : Pc} (hh : s.HandleFree h)
    (ht : t ≠ h) : (s.setPc t pc).HandleFree h :=
  hh.imp id fun hf => (State.threads_setPc_ne (Ne.symm ht)).trans hf

/-- The fields `client_close` resets; `owner` is the ghost of the connection, which ends. -/
def Client.close (c : Client) : Client :=
  { c with
    fd := if 0 ≤ c.fd then -1 else c.fd, authenticated := false, subscribedBle := false,
    recvBuffer := [], owner := none }

theorem Client.close_fd_neg (c : Client) : c.close.fd < 0 := by
  show (if 0 ≤ c.fd then -1 else c.fd) < 0
  split_ifs <;> omega

/-- The `close(client->fd)` of `client_close`, taken only when `fd >= 0`. -/
def closeFd (fds : Int → Option Nat) (fd : Int) : Int → Option Nat :=
  if 0 ≤ fd then Function.update fds fd none else fds

/-- `client_close` on slot `i`. -/
def State.clientClose (s : State) (i : Slot) : State :=
  { s with fds := closeFd s.fds (s.clients i).fd,
           clients := Function.update s.clients i (s.clients i).close }

/-- Records a `send` of `frame` on slot `i`'s descriptor that took `k` bytes. -/
def State.logSend (s : State) (t : Nat) (i : Slot) (frame : List UInt8) (k : Nat) : State :=
  { s with sent := s.sent ++
      [⟨t, i, (s.clients i).fd, s.fds (s.clients i).fd, (s.clients i).owner, frame, k⟩] }

/-- The slot scan of `listen_thread_func`: the first slot with `fd < 0`. -/
def State.firstFree (s : State) : Option Slot :=
  (List.finRange esphomeMaxClients).find? fun i => (s.clients i).fd < 0

/-- What `send_message` does before it locks: `none` when framing fails. -/
def sendFrame (S : Setup) (r : Reply) : Option (List UInt8) :=
  match S.proto.frameMessage sendBufferSize r.msgType r.payload with
  | [] => none
  | frame => some frame

/-- One step of `flush_ble_batch` run by thread `t`; `none` is its return. -/
inductive FlushStep (S : Setup) (t : Nat) : FlushPc → State → Option FlushPc → State → Prop
  | empty {s : State} : s.batchMutex = none → s.batch = [] → FlushStep S t .lockBatch s none s
  | dropped {s : State} : s.batchMutex = none → s.batch ≠ [] →
      S.proto.encodeBleAdvertisements esphomeMaxMessageSize s.batch = [] →
      FlushStep S t .lockBatch s none
        { s with batch := [], removed := s.removed ++ [⟨s.batch, false⟩] }
  | encoded {s : State} : s.batchMutex = none → s.batch ≠ [] →
      S.proto.encodeBleAdvertisements esphomeMaxMessageSize s.batch ≠ [] →
      FlushStep S t .lockBatch s
        (some (.lockClients (S.proto.encodeBleAdvertisements esphomeMaxMessageSize s.batch)))
        { s with batchMutex := some t }
  | lockClients {s : State} {payload : List UInt8} : s.clientsMutex = none →
      FlushStep S t (.lockClients payload) s (some (.scan 0 payload)) { s with clientsMutex := some t }
  | skip {s : State} {payload : List UInt8} (i : Slot) :
      ¬ (0 ≤ (s.clients i).fd ∧ (s.clients i).subscribedBle = true) →
      FlushStep S t (.scan i.val payload) s (some (.scan (i.val + 1) payload)) s
  | unframed {s : State} {payload : List UInt8} (i : Slot) :
      0 ≤ (s.clients i).fd → (s.clients i).subscribedBle = true →
      sendFrame S ⟨esphomeMsgBluetoothLeRawAdvertisementsResponse, payload⟩ = none →
      FlushStep S t (.scan i.val payload) s (some (.scan (i.val + 1) payload)) s
  | framed {s : State} {payload frame : List UInt8} (i : Slot) :
      0 ≤ (s.clients i).fd → (s.clients i).subscribedBle = true →
      sendFrame S ⟨esphomeMsgBluetoothLeRawAdvertisementsResponse, payload⟩ = some frame →
      FlushStep S t (.scan i.val payload) s (some (.lockSend i payload frame)) s
  | lockSend {s : State} {i : Slot} {payload frame : List UInt8} : (s.clients i).sendMutex = none →
      FlushStep S t (.lockSend i payload frame) s (some (.send i payload frame))
        (s.setClient i { s.clients i with sendMutex := some t })
  | send {s : State} {i : Slot} {payload frame : List UInt8} (k : Nat) : k ≤ frame.length →
      FlushStep S t (.send i payload frame) s (some (.scan (i.val + 1) payload))
        ((s.logSend t i frame k).setClient i { s.clients i with sendMutex := none })
  | finish {s : State} {payload : List UInt8} :
      FlushStep S t (.scan esphomeMaxClients payload) s none
        { s with
          clientsMutex := none, batch := [], removed := s.removed ++ [⟨s.batch, true⟩],
          lastFlush := s.now, batchMutex := none }

/-- The slot after `dispatch_message` handled `d` and `handle_client_data` compacted the
buffer to `rest`. -/
def Client.dispatched (S : Setup) (c : Client) (d : Dispatch) (rest : List UInt8) : Client :=
  let sess := (dispatchMessage S ⟨c.authenticated, c.subscribedBle⟩ d.msgType d.payload).1
  { c with
    authenticated := sess.authenticated, subscribedBle := sess.subscribedBle,
    recvBuffer := rest, handled := c.handled ++ [d.msg] }

/-- Where a client thread goes after a dispatch: into `send_message` when the handler
has a reply that frames, back to `handle_client_data`'s loop otherwise. -/
def afterDispatch (S : Setup) (c : Client) (d : Dispatch) : ClientPc :=
  match (dispatchMessage S ⟨c.authenticated, c.subscribedBle⟩ d.msgType d.payload).2 with
  | some r => match sendFrame S r with
    | some frame => .lockSend frame
    | none => .handle
  | none => .handle

/-- One step of client thread `t`, serving connection `c` in slot `i`. -/
inductive ClientStep (S : Setup) (t : Nat) (i : Slot) : ClientPc → State → ClientPc → State → Prop
  | enter {s : State} : s.running = true → 0 ≤ (s.clients i).fd → ClientStep S t i .loop s .recv s
  | leave {s : State} : ¬ (s.running = true ∧ 0 ≤ (s.clients i).fd) →
      ClientStep S t i .loop s .cleanup s
  /-- `recv` returned `0` or an error. -/
  | hangup {s : State} : ClientStep S t i .recv s .cleanup s
  | received {s : State} (chunk : List UInt8) : chunk ≠ [] →
      (s.clients i).recvBuffer.length + chunk.length ≤ recvBufferSize →
      ClientStep S t i .recv s .handle
        (s.setClient i { s.clients i with
          recvBuffer := (s.clients i).recvBuffer ++ chunk,
          received := (s.clients i).received ++ [chunk] })
  | idle {s : State} : ((s.clients i).recvBuffer = [] ∨
      handlePass S.proto.decodeFrameHeader (s.clients i).recvBuffer = .wait) →
      ClientStep S t i .handle s .loop s
  | dispatch {s : State} {d : Dispatch} {rest : List UInt8} : (s.clients i).recvBuffer ≠ [] →
      handlePass S.proto.decodeFrameHeader (s.clients i).recvBuffer = .dispatch d rest →
      ClientStep S t i .handle s (afterDispatch S (s.clients i) d)
        (s.setClient i ((s.clients i).dispatched S d rest))
  | lockSend {s : State} {frame : List UInt8} : (s.clients i).sendMutex = none →
      ClientStep S t i (.lockSend frame) s (.send frame)
        (s.setClient i { s.clients i with sendMutex := some t })
  | send {s : State} {frame : List UInt8} (k : Nat) : k ≤ frame.length →
      ClientStep S t i (.send frame) s .handle
        ((s.logSend t i frame k).setClient i { s.clients i with sendMutex := none })
  | cleanup {s : State} : s.clientsMutex = none →
      ClientStep S t i .cleanup s .exited
        ((s.clientClose i).setClient i { (s.clientClose i).clients i with threadRunning := false })

/-- One step of `listen_thread_func`. -/
inductive ListenerStep : ListenerPc → State → ListenerPc → State → Prop
  | enter {s : State} : s.running = true → ListenerStep .loop s .accept s
  | stop {s : State} : s.running = false → ListenerStep .loop s .done s
  | acceptFailed {s : State} : ListenerStep .accept s .loop s
  /-- `accept` returns a descriptor not open in the process, for a new connection. -/
  | accepted {s : State} (fd : Int) : s.listenOpen = true → 0 ≤ fd → s.fds fd = none →
      ListenerStep .accept s (.scan fd s.nextConn)
        { s with fds := Function.update s.fds fd (some s.nextConn), nextConn := s.nextConn + 1 }
  | take {s : State} {fd : Int} {conn : Nat} (i : Slot) : s.clientsMutex = none →
      s.firstFree = some i →
      ListenerStep (.scan fd conn) s (.start i conn)
        (s.setClient i { s.clients i with fd := fd, owner := some conn, handled := [], received := [] })
  | full {s : State} {fd : Int} {conn : Nat} : s.clientsMutex = none → s.firstFree = none →
      ListenerStep (.scan fd conn) s (.reject fd) s
  | reject {s : State} {fd : Int} :
      ListenerStep (.reject fd) s .loop { s with fds := Function.update s.fds fd none }
  | created {s : State} {i : Slot} {conn : Nat} (h : Nat) : s.HandleFree h →
      ListenerStep (.start i conn) s .loop (s.spawn h (.client i conn .loop) i)
  /-- `pthread_create` fails after writing the handle, as glibc's does when `clone` fails. -/
  | createFailed {s : State} {i : Slot} {conn : Nat} (h : Nat) : s.HandleFree h →
      ListenerStep (.start i conn) s (.createFailed i) (s.spawn h .failed i)
  /-- `pthread_create` fails before writing the handle: no stack for the thread. -/
  | noStack {s : State} {i : Slot} {conn : Nat} :
      ListenerStep (.start i conn) s (.createFailed i)
        (s.setClient i { s.clients i with threadRunning := true })
  | closeFailed {s : State} {i : Slot} : s.clientsMutex = none →
      ListenerStep (.createFailed i) s .loop (s.clientClose i)

/-- One step of `flush_thread_func` outside `flush_ble_batch`. -/
inductive FlusherStep : FlusherPc → State → FlusherPc → State → Prop
  | enter {s : State} : s.running = true → FlusherStep .loop s .tick s
  | stop {s : State} : s.running = false → FlusherStep .loop s .done s
  | due {s : State} :
      batchFlushIntervalMs ≤ (elapsedMs (.ofNs s.now) (.ofNs s.lastFlush)).toNat →
      FlusherStep .tick s (.flush .lockBatch) s
  | notDue {s : State} :
      (elapsedMs (.ofNs s.now) (.ofNs s.lastFlush)).toNat < batchFlushIntervalMs →
      FlusherStep .tick s .loop s

/-- One step of producer thread `t` in `esphome_api_queue_ble_advert`, outside
`flush_ble_batch`. -/
inductive ProducerStep (t : Nat) : ProducerPc → State → ProducerPc → State → Prop
  | call {s : State} (a : BleAdvert) : ProducerStep t .idle s (.lock a) { s with calls := s.calls ++ [a] }
  | full {s : State} {a : BleAdvert} : s.batchMutex = none → esphomeMaxAdvBatch ≤ s.batch.length →
      ProducerStep t (.lock a) s (.flushFull .lockBatch a) s
  | room {s : State} {a : BleAdvert} : s.batchMutex = none → s.batch.length < esphomeMaxAdvBatch →
      ProducerStep t (.lock a) s (.write a) { s with batchMutex := some t }
  | relock {s : State} {a : BleAdvert} : s.batchMutex = none →
      ProducerStep t (.relock a) s (.write a) { s with batchMutex := some t }
  | write {s : State} {a : BleAdvert} : s.batch.length < esphomeMaxAdvBatch →
      ProducerStep t (.write a) s .check
        { s with batch := s.batch ++ [toBleAdvertisement a], batchMutex := none }
  /-- The write to `advertisements[count]` with `count = ESPHOME_MAX_ADV_BATCH`. -/
  | overflow {s : State} {a : BleAdvert} : esphomeMaxAdvBatch ≤ s.batch.length →
      ProducerStep t (.write a) s (.overflow a) s
  | filled {s : State} : esphomeMaxAdvBatch ≤ s.batch.length →
      ProducerStep t .check s (.flushFilled .lockBatch) s
  | done {s : State} : s.batch.length < esphomeMaxAdvBatch → ProducerStep t .check s .idle s

/-- Whether `pthread_join` on handle `h` can return: `h` is not a client thread that is
still running. -/
def State.joinable (s : State) (h : Nat) : Prop :=
  ∀ i c pc, s.threads h = .client i c pc → pc = .exited

/-- The final loop of `esphome_api_stop`: `client_close` on every slot. -/
def State.closeAll (s : State) : State :=
  { s with fds := (List.finRange esphomeMaxClients).foldl (fun fds i => closeFd fds (s.clients i).fd) s.fds,
           clients := fun i => (s.clients i).close }

/-- One step of `esphome_api_stop`. -/
inductive StopStep : StopPc → State → StopPc → State → Prop
  | call {s : State} : StopStep .idle s .closeListen { s with running := false }
  | closeListen {s : State} : StopStep .closeListen s .joinListener { s with listenOpen := false }
  | joinListener {s : State} : s.threads listenerTid = .listener .done →
      StopStep .joinListener s .joinFlusher s
  | joinFlusher {s : State} : s.threads flusherTid = .flusher .done →
      StopStep .joinFlusher s (.joinClients 0) s
  | skip {s : State} (i : Slot) : (s.clients i).threadRunning = false →
      StopStep (.joinClients i.val) s (.joinClients (i.val + 1)) s
  | join {s : State} (i : Slot) : (s.clients i).threadRunning = true →
      StopStep (.joinClients i.val) s (.joinClient i) s
  | joined {s : State} {i : Slot} : s.joinable (s.clients i).thread →
      StopStep (.joinClient i) s (.joinClients (i.val + 1))
        { s with joins := s.joins ++ [(s.clients i).thread] }
  | lastSlot {s : State} : StopStep (.joinClients esphomeMaxClients) s .closeAll s
  | closeAll {s : State} : s.clientsMutex = none → StopStep .closeAll s .returned s.closeAll

/-- The part of `flush_ble_batch` a thread is in, if any. -/
def Pc.flushPc : Pc → Option FlushPc
  | .flusher (.flush f) => some f
  | .producer (.flushFull f _) => some f
  | .producer (.flushFilled f) => some f
  | _ => none

/-- The thread after a step of its `flush_ble_batch`; `none` is the return to its caller. -/
def Pc.afterFlush : Pc → Option FlushPc → Pc
  | .flusher _, some f => .flusher (.flush f)
  | .flusher _, none => .flusher .loop
  | .producer (.flushFull _ a), some f => .producer (.flushFull f a)
  | .producer (.flushFull _ a), none => .producer (.relock a)
  | .producer (.flushFilled _), some f => .producer (.flushFilled f)
  | .producer (.flushFilled _), none => .producer .idle
  | pc, _ => pc

/-- A step of the whole server: one thread runs its next step, or the clock advances. -/
inductive Step (S : Setup) : State → State → Prop
  | listener {s s' : State} {pc pc' : ListenerPc} : s.threads listenerTid = .listener pc →
      ListenerStep pc s pc' s' → Step S s (s'.setPc listenerTid (.listener pc'))
  | flusher {s s' : State} {pc pc' : FlusherPc} : s.threads flusherTid = .flusher pc →
      FlusherStep pc s pc' s' → Step S s (s'.setPc flusherTid (.flusher pc'))
  | stopper {s s' : State} {pc pc' : StopPc} : s.threads stopperTid = .stopper pc →
      StopStep pc s pc' s' → Step S s (s'.setPc stopperTid (.stopper pc'))
  | producer {s s' : State} {t : Nat} {pc pc' : ProducerPc} : s.threads t = .producer pc →
      ProducerStep t pc s pc' s' → Step S s (s'.setPc t (.producer pc'))
  | client {s s' : State} {t : Nat} {i : Slot} {c : Nat} {pc pc' : ClientPc} :
      s.threads t = .client i c pc → ClientStep S t i pc s pc' s' →
      Step S s (s'.setPc t (.client i c pc'))
  | flush {s s' : State} {t : Nat} {f : FlushPc} {f' : Option FlushPc} :
      (s.threads t).flushPc = some f → FlushStep S t f s f' s' →
      Step S s (s'.setPc t ((s.threads t).afterFlush f'))
  | clock {s : State} (ns : Nat) : s.now ≤ ns → Step S s { s with now := ns }

/-- The states a server with `nprod` producer threads, started at clock reading `t0`,
can reach. -/
def Reachable (S : Setup) (nprod t0 : Nat) : State → Prop :=
  Relation.ReflTransGen (Step S) (State.init nprod t0)

end EsphomeProxy
