import Wmediumd.Header

/-!
# The state of the medium simulator

`struct station`, `struct frame`, `struct client` and `struct wmediumd` as the event handlers of
`wmediumd.c` read and write them, with C's pointers made explicit: a frame is a `FramePtr` into
the heap `Ctx.frames` (`calloc` takes a pointer never handed out before, `free` clears it), a
client a `ClientPtr` into `Ctx.clientHeap`, a station its position in `Ctx.stations`. The
station queues hold frame pointers in list order and the scheduler `Ctx.sched` holds the
pending jobs, so that "each frame is in one queue and has one job" is a fact about two
separate structures.

The outputs `Out` are what the handlers send (`send_tx_info_frame_nl`, `send_cloned_frame_msg`,
the API socket's response headers), together with two ghost entries, `queued` and `cancelled`,
that only record what `queue_frame` and `wmediumd_remove_client` did to the queues.
-/

namespace Wmediumd

abbrev FramePtr := Nat
abbrev ClientPtr := Nat

inductive ClientType
  | netlink
  | vhostUser
  | apiSock
  deriving DecidableEq, Repr

/-- `struct client` as wmediumd reads it: its transport, and whether `client->list` is linked
into `ctx->clients` (`!list_empty(&client->list)`). -/
structure Client where
  type : ClientType
  linked : Bool
  deriving DecidableEq

/-- `struct hwsim_tx_rate`: a `signed char` rate index and an `unsigned char` count. -/
structure HwsimTxRate where
  idx : Int
  count : Nat
  deriving DecidableEq, Repr

/-- `struct station`. The position, direction and transmit power only feed the path-loss
computation of the configuration loader and are left out. -/
structure Station where
  index : Nat
  addr : MacAddr
  hwaddr : MacAddr
  client : Option ClientPtr
  queues : AcNumber → Wqueue

/-- `struct frame`. The scheduler job embedded in it is represented by its start time; whether
that job is pending is recorded in `Ctx.sched`. -/
structure Frame where
  data : Bytes
  flags : UInt32
  cookie : UInt64
  freq : UInt32
  sender : Nat
  src : Option ClientPtr
  txRates : Fin ieee80211TxMaxRates → HwsimTxRate
  txRatesCount : Nat
  signal : Int
  duration : Nat
  start : Nat

/-- A pending job of the scheduler: a frame's delivery, or the periodic interference update. -/
inductive Job
  | frame (ptr : FramePtr)
  | intfUpdate
  deriving DecidableEq

/-- `struct intf_info`. -/
structure IntfInfo where
  signal : Int
  duration : Nat
  probCol : ℚ

/-- `struct wmediumd` with the scheduler it runs on. `intf` is `ctx->intf`, an `N × N` matrix
read at `N * i + j`, or `NULL` when interference is off. -/
structure Ctx where
  stations : List Station
  frames : FramePtr → Option Frame
  nextFrame : FramePtr
  sched : List Job
  now : Nat
  intfStart : Nat
  intf : Option (Nat → IntfInfo)
  clients : List ClientPtr
  clientHeap : ClientPtr → Option Client
  nextClient : ClientPtr
  nlClient : Option ClientPtr

/-- A generic-netlink message: its command and its attributes in wire order. -/
structure NlMsg where
  cmd : UInt8
  attrs : List (HwsimAttr × Bytes)

/-- Modelled from the spec: `api.h` is not under `src/`. The message types of the API socket. -/
inductive WmediumdMessage
  | invalid
  | ack
  | register
  | unregister
  | netlink
  deriving DecidableEq, Repr

/-- A request `wmediumd_api_handler` has read whole; `netlink none` is a payload that
`nlmsg_ok` rejects. -/
inductive ApiRequest
  | register
  | unregister
  | netlink (msg : Option NlMsg)
  | unknown (type : UInt32)

/-- The attributes `send_tx_info_frame_nl` fills in. -/
structure TxReport where
  hwaddr : MacAddr
  flags : UInt32
  signal : Int
  txInfo : List HwsimTxRate
  cookie : UInt64

/-- The attributes `send_cloned_frame_msg` fills in. -/
structure RxMessage where
  hwaddr : MacAddr
  data : Bytes
  rxRate : Nat
  freq : UInt32
  signal : Int

inductive Out
  /-- Ghost: `queue_frame` appended frame `ptr` to queue `ac` of its sender at time `now`. -/
  | queued (ptr : FramePtr) (frame : Frame) (ac : AcNumber) (now : Nat)
  /-- Ghost: `wmediumd_remove_client` unlinked frame `ptr` and deleted its job. -/
  | cancelled (ptr : FramePtr)
  /-- `send_tx_info_frame_nl` for frame `ptr`, written to `client`. -/
  | txStatus (ptr : FramePtr) (client : ClientPtr) (report : TxReport)
  /-- `send_cloned_frame_msg` for frame `ptr` at station `receiver`, written to each of
  `recipients` in order: none when the message did not fit its buffer. -/
  | rx (ptr : FramePtr) (receiver : Nat) (msg : RxMessage) (recipients : List ClientPtr)
  /-- The response header `wmediumd_api_handler` writes for a request of `client`. -/
  | apiResponse (client : ClientPtr) (request : ApiRequest) (response : WmediumdMessage)

/-! ## Stations -/

namespace Station

/-- `memcpy(sender->hwaddr, hwaddr, ETH_ALEN)` and `if (!sender->client) sender->client =
client`. -/
def bind (st : Station) (hwaddr : MacAddr) (client : ClientPtr) : Station :=
  { st with hwaddr := hwaddr, client := some (st.client.getD client) }

/-- `list_add_tail(&frame->list, &queue->frames)` on `station->queues[ac]`. -/
def enqueue (st : Station) (ac : AcNumber) (p : FramePtr) : Station :=
  let queue := st.queues ac
  { st with queues := Function.update st.queues ac { queue with frames := queue.frames ++ [p] } }

/-- `list_del(&frame->list)`: the frame leaves whichever queue of the station holds it. -/
def unlink (st : Station) (p : FramePtr) : Station :=
  { st with queues := fun ac => { st.queues ac with frames := (st.queues ac).frames.erase p } }

/-- `if (station->client == client) station->client = NULL`. -/
def unbind (st : Station) (c : ClientPtr) : Station :=
  { st with client := if st.client = some c then none else st.client }

/-- The `list_for_each_entry_safe` loop of `wmediumd_remove_client` over one station: every
frame `drop` selects is unlinked. -/
def dropFrames (st : Station) (drop : FramePtr → Bool) : Station :=
  { st with queues := fun ac =>
      { st.queues ac with frames := (st.queues ac).frames.filter fun p => !drop p } }

@[simp] theorem bind_addr (st : Station) (hw : MacAddr) (c : ClientPtr) :
    (st.bind hw c).addr = st.addr := rfl
@[simp] theorem bind_index (st : Station) (hw : MacAddr) (c : ClientPtr) :
    (st.bind hw c).index = st.index := rfl
@[simp] theorem bind_queues (st : Station) (hw : MacAddr) (c : ClientPtr) :
    (st.bind hw c).queues = st.queues := rfl
@[simp] theorem enqueue_addr (st : Station) (ac : AcNumber) (p : FramePtr) :
    (st.enqueue ac p).addr = st.addr := rfl
@[simp] theorem enqueue_index (st : Station) (ac : AcNumber) (p : FramePtr) :
    (st.enqueue ac p).index = st.index := rfl
@[simp] theorem enqueue_client (st : Station) (ac : AcNumber) (p : FramePtr) :
    (st.enqueue ac p).client = st.client := rfl
@[simp] theorem enqueue_hwaddr (st : Station) (ac : AcNumber) (p : FramePtr) :
    (st.enqueue ac p).hwaddr = st.hwaddr := rfl
@[simp] theorem unlink_addr (st : Station) (p : FramePtr) : (st.unlink p).addr = st.addr := rfl
@[simp] theorem unlink_index (st : Station) (p : FramePtr) : (st.unlink p).index = st.index := rfl
@[simp] theorem unlink_client (st : Station) (p : FramePtr) :
    (st.unlink p).client = st.client := rfl
@[simp] theorem unlink_hwaddr (st : Station) (p : FramePtr) :
    (st.unlink p).hwaddr = st.hwaddr := rfl
@[simp] theorem unbind_addr (st : Station) (c : ClientPtr) : (st.unbind c).addr = st.addr := rfl
@[simp] theorem unbind_index (st : Station) (c : ClientPtr) : (st.unbind c).index = st.index := rfl
@[simp] theorem unbind_queues (st : Station) (c : ClientPtr) :
    (st.unbind c).queues = st.queues := rfl
@[simp] theorem dropFrames_addr (st : Station) (d : FramePtr → Bool) :
    (st.dropFrames d).addr = st.addr := rfl
@[simp] theorem dropFrames_index (st : Station) (d : FramePtr → Bool) :
    (st.dropFrames d).index = st.index := rfl
@[simp] theorem dropFrames_client (st : Station) (d : FramePtr → Bool) :
    (st.dropFrames d).client = st.client := rfl

end Station

/-! ## Queues -/

/-- The frames of `stations[k]->queues[ac]`, empty past the last station. -/
def queueOf (stations : List Station) (k : Nat) (ac : AcNumber) : List FramePtr :=
  ((stations[k]?).map fun st => (st.queues ac).frames).getD []

@[simp] theorem queueOf_map_unlink (l : List Station) (p : FramePtr) (k : Nat) (ac : AcNumber) :
    queueOf (l.map (·.unlink p)) k ac = (queueOf l k ac).erase p := by
  cases h : l[k]? <;> simp [queueOf, h, Station.unlink]

@[simp] theorem queueOf_map_dropFrames (l : List Station) (d : FramePtr → Bool) (k : Nat)
    (ac : AcNumber) : queueOf (l.map (·.dropFrames d)) k ac = (queueOf l k ac).filter (!d ·) := by
  cases h : l[k]? <;> simp [queueOf, h, Station.dropFrames]

@[simp] theorem queueOf_map_unbind (l : List Station) (c : ClientPtr) :
    queueOf (l.map (·.unbind c)) = queueOf l := by
  funext k ac
  cases h : l[k]? <;> simp [queueOf, h]

theorem queueOf_set_bind {l : List Station} {k : Nat} {st : Station} (h : l[k]? = some st)
    (hw : MacAddr) (c : ClientPtr) : queueOf (l.set k (st.bind hw c)) = queueOf l := by
  funext k' ac
  by_cases hk : k = k'
  · subst hk
    simp [queueOf, List.getElem?_set, h, (List.getElem?_eq_some_iff.1 h).1]
  · simp [queueOf, List.getElem?_set, hk]

theorem map_queues_set_bind {l : List Station} {k : Nat} {st : Station} (h : l[k]? = some st)
    (hw : MacAddr) (c : ClientPtr) :
    (l.set k (st.bind hw c)).map Station.queues = l.map Station.queues := by
  obtain ⟨hk, rfl⟩ := List.getElem?_eq_some_iff.1 h
  apply List.ext_getElem?
  intro n
  by_cases hkn : k = n
  · subst hkn
    simp [List.getElem?_set, hk]
  · simp [List.getElem?_set, hkn]

theorem queueOf_set_enqueue {l : List Station} {k : Nat} {st : Station} (h : l[k]? = some st)
    (ac : AcNumber) (p : FramePtr) (k' : Nat) (ac' : AcNumber) :
    queueOf (l.set k (st.enqueue ac p)) k' ac' =
      if k' = k ∧ ac' = ac then queueOf l k ac ++ [p] else queueOf l k' ac' := by
  have hk : k < l.length := (List.getElem?_eq_some_iff.1 h).1
  by_cases hkk : k = k'
  · subst hkk
    by_cases hac : ac' = ac
    · subst hac
      simp [queueOf, List.getElem?_set, hk, h, Station.enqueue]
    · simp [queueOf, List.getElem?_set, hk, h, Station.enqueue, hac]
  · simp [queueOf, List.getElem?_set, hkk, Ne.symm hkk]

theorem queueOf_eq_nil_of_length_le {l : List Station} {k : Nat} (h : l.length ≤ k)
    (ac : AcNumber) : queueOf l k ac = [] := by
  simp [queueOf, List.getElem?_eq_none h]

namespace Ctx

def queue (ctx : Ctx) (k : Nat) (ac : AcNumber) : List FramePtr := queueOf ctx.stations k ac

/-- The frame is in some station queue. -/
def Queued (ctx : Ctx) (p : FramePtr) : Prop := ∃ k ac, p ∈ ctx.queue k ac

def jobStart (ctx : Ctx) : Job → Option Nat
  | .frame p => (ctx.frames p).map Frame.start
  | .intfUpdate => some ctx.intfStart

/-- The client is allocated and not yet freed. -/
def Live (ctx : Ctx) (c : ClientPtr) : Prop := (ctx.clientHeap c).isSome

end Ctx

end Wmediumd
