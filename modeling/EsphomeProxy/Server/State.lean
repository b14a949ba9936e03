import EsphomeProxy.Batch

/-! The state of a running server and the program points of its threads. -/

namespace EsphomeProxy

def esphomeMaxClients : Nat := 2

def sendBufferSize : Nat := 8192

abbrev Slot := Fin esphomeMaxClients

instance : NeZero esphomeMaxClients := ⟨by decide⟩

/-- Where `flush_ble_batch` is. -/
inductive FlushPc where
  /-- At `pthread_mutex_lock(&server->batch_mutex)`. -/
  | lockBatch
  /-- The batch is encoded as `payload`; at `pthread_mutex_lock(&server->clients_mutex)`. -/
  | lockClients (payload : List UInt8)
  /-- At slot `i` of the send loop. -/
  | scan (i : Nat) (payload : List UInt8)
  /-- In `send_message` for slot `i`, framed as `frame`; at the lock of its `send_mutex`. -/
  | lockSend (i : Slot) (payload frame : List UInt8)
  /-- Holding slot `i`'s `send_mutex`, at `send`. -/
  | send (i : Slot) (payload frame : List UInt8)

/-- Where `listen_thread_func` is. -/
inductive ListenerPc where
  | loop
  | accept
  /-- Accepted descriptor `fd` of connection `conn`; at the slot scan. -/
  | scan (fd : Int) (conn : Nat)
  /-- No slot was free; at `close(client_fd)`. -/
  | reject (fd : Int)
  /-- Slot `i` was taken for `conn`; at `thread_running = true` and `pthread_create`. -/
  | start (i : Slot) (conn : Nat)
  /-- `pthread_create` failed; at the `client_close` under `clients_mutex`. -/
  | createFailed (i : Slot)
  | done

/-- Where `client_thread_func` is, with `handle_client_data` and the handlers. -/
inductive ClientPc where
  /-- At `while (server->running && client->fd >= 0)`. -/
  | loop
  | recv
  /-- At `while (client->recv_pos > 0)` of `handle_client_data`. -/
  | handle
  /-- In a handler's `send_message`, framed as `frame`; at the lock of `send_mutex`. -/
  | lockSend (frame : List UInt8)
  /-- Holding `send_mutex`, at `send`. -/
  | send (frame : List UInt8)
  /-- After the loop, at the cleanup under `clients_mutex`. -/
  | cleanup
  | exited

/-- Where `flush_thread_func` is. -/
inductive FlusherPc where
  | loop
  /-- After `usleep`, at the `elapsed_ms` test. -/
  | tick
  | flush (f : FlushPc)
  | done

/-- Where a producer is in `esphome_api_queue_ble_advert`. -/
inductive ProducerPc where
  | idle
  /-- At the first `pthread_mutex_lock(&server->batch_mutex)`. -/
  | lock (a : BleAdvert)
  /-- In the `flush_ble_batch` called because the batch was full. -/
  | flushFull (f : FlushPc) (a : BleAdvert)
  /-- At the `pthread_mutex_lock` after that flush. -/
  | relock (a : BleAdvert)
  /-- Holding `batch_mutex`, at the write of `advertisements[count]`. -/
  | write (a : BleAdvert)
  /-- The write went to `advertisements[ESPHOME_MAX_ADV_BATCH]`, past the array, over
  `count` and `batch_mutex`: the behaviour is undefined from here on. -/
  | overflow (a : BleAdvert)
  /-- At the unlocked test `count >= ESPHOME_MAX_ADV_BATCH` after the write. -/
  | check
  /-- In the `flush_ble_batch` called because the batch became full. -/
  | flushFilled (f : FlushPc)

/-- Where the thread that calls `esphome_api_stop` is. -/
inductive StopPc where
  | idle
  /-- `running = false` is done; at the close of `listen_fd`. -/
  | closeListen
  | joinListener
  | joinFlusher
  /-- At slot `i` of the join loop. -/
  | joinClients (i : Nat)
  /-- In `pthread_join(server->clients[i].thread)`. -/
  | joinClient (i : Slot)
  /-- At the final `client_close` loop under `clients_mutex`. -/
  | closeAll
  | returned

/-- A thread: what it runs and where it is. A client thread records its slot and the
connection it serves; `unused` is a handle not handed out, `failed` one whose
`pthread_create` failed. -/
inductive Pc where
  | unused
  | failed
  | listener (pc : ListenerPc)
  | flusher (pc : FlusherPc)
  | stopper (pc : StopPc)
  | producer (pc : ProducerPc)
  | client (slot : Slot) (conn : Nat) (pc : ClientPc)

/-- `client_connection_t`, without its `server` pointer. `recvBuffer` holds
`recv_buffer[0, recv_pos)`. `owner`, `handled` and `received` are ghost fields: the
connection that took the slot, and the messages dispatched and the chunks `recv` returned
for it since. -/
structure Client where
  fd : Int
  authenticated : Bool
  subscribedBle : Bool
  recvBuffer : List UInt8
  sendMutex : Option Nat
  thread : Nat
  threadRunning : Bool
  owner : Option Nat
  handled : List (UInt16 × List UInt8)
  received : List (List UInt8)

/-- `client_init`: a zeroed slot with `fd = -1`. -/
def clientInit : Client := ⟨-1, false, false, [], none, 0, false, none, [], []⟩

/-- A `send` on slot `slot`'s descriptor by thread `thread`: the connection the descriptor
referred to at that moment (`none`: it was closed), the connection that held the slot,
the frame, and how many of its bytes `send` took (fewer on a short write, none on an
error). -/
structure SendEvent where
  thread : Nat
  slot : Slot
  fd : Int
  target : Option Nat
  owner : Option Nat
  frame : List UInt8
  accepted : Nat

/-- A batch `flush_ble_batch` cleared: broadcast, or dropped when it could not be encoded. -/
structure Removal where
  batch : List BleAdvertisement
  broadcast : Bool

/-- `struct esphome_api_server` with the threads and the descriptor table. The clock and
`last_flush` are in nanoseconds. `sent`, `removed`, `calls` and `joins` are ghost logs:
the sends, the cleared batches, the arguments of `esphome_api_queue_ble_advert` and the
handles passed to `pthread_join` for client threads. -/
structure State where
  running : Bool
  listenOpen : Bool
  clients : Slot → Client
  clientsMutex : Option Nat
  batch : List BleAdvertisement
  batchMutex : Option Nat
  lastFlush : Nat
  now : Nat
  fds : Int → Option Nat
  nextConn : Nat
  threads : Nat → Pc
  nextTid : Nat
  sent : List SendEvent
  removed : List Removal
  calls : List BleAdvert
  joins : List Nat

def listenerTid : Nat := 1
def flusherTid : Nat := 2
def stopperTid : Nat := 3
def producerTid (p : Nat) : Nat := 4 + p

/-- The server after `esphome_api_init` and a successful `esphome_api_start` at clock
reading `t0`, with `nprod` producer threads. -/
def State.init (nprod t0 : Nat) : State where
  running := true
  listenOpen := true
  clients := fun _ => clientInit
  clientsMutex := none
  batch := []
  batchMutex := none
  lastFlush := t0
  now := t0
  fds := fun _ => none
  nextConn := 0
  threads := fun t =>
    if t = listenerTid then .listener .loop
    else if t = flusherTid then .flusher .loop
    else if t = stopperTid then .stopper .idle
    else if producerTid 0 ≤ t ∧ t < producerTid nprod then .producer .idle
    else .unused
  nextTid := producerTid nprod
  sent := []
  removed := []
  calls := []
  joins := []

inductive Mutex where
  | batch
  | clients
  | send (i : Slot)
  deriving DecidableEq

/-- The owner a mutex records. -/
def State.owner (s : State) : Mutex → Option Nat
  | .batch => s.batchMutex
  | .clients => s.clientsMutex
  | .send i => (s.clients i).sendMutex

/-- The mutexes `flush_ble_batch` holds at each point. -/
def FlushPc.holds : FlushPc → Mutex → Bool
  | .lockBatch, _ => false
  | .lockClients _, m => m == .batch
  | .scan _ _, m => m == .batch || m == .clients
  | .lockSend _ _ _, m => m == .batch || m == .clients
  | .send i _ _, m => m == .batch || m == .clients || m == .send i

/-- The mutexes a thread holds at each point of its code. -/
def Pc.holds : Pc → Mutex → Bool
  | .flusher (.flush f), m => f.holds m
  | .producer (.write _), m => m == .batch
  | .producer (.overflow _), m => m == .batch
  | .producer (.flushFull f _), m => f.holds m
  | .producer (.flushFilled f), m => f.holds m
  | .client i _ (.send _), m => m == .send i
  | _, _ => false

def FlushPc.waitsFor : FlushPc → Option Mutex
  | .lockBatch => some .batch
  | .lockClients _ => some .clients
  | .lockSend i _ _ => some (.send i)
  | _ => none

/-- The mutex a thread is about to lock. -/
def Pc.waitsFor : Pc → Option Mutex
  | .listener (.scan _ _) => some .clients
  | .listener (.createFailed _) => some .clients
  | .flusher (.flush f) => f.waitsFor
  | .producer (.lock _) => some .batch
  | .producer (.relock _) => some .batch
  | .producer (.flushFull f _) => f.waitsFor
  | .producer (.flushFilled f) => f.waitsFor
  | .client i _ (.lockSend _) => some (.send i)
  | .client _ _ .cleanup => some .clients
  | .stopper .closeAll => some .clients
  | _ => none

end EsphomeProxy
