import Wmediumd.Loop

/-!
# The API socket

`wmediumd_api_handler` runs when an API client's socket is readable. It asks `read` for an
8-byte `{type, data_len}` header and then for `data_len` bytes, disconnects the client when
either read returns fewer bytes than it asked for or `data_len` is over 1 MiB, dispatches the
request and writes a `{ACK or INVALID, 0}` header back. `wmediumd_send_to_client` pushes a
netlink message to an API client as a `{NETLINK, len}` header and the message, then blocks in a
`read` of 8 bytes that it takes for the client's ACK without looking at them.

A stream socket may return fewer bytes than asked for, and the two ends write independently.
A connection is modelled by the bytes each end has written and the other has not read, with the
ghost history of what the client sent, what each handler run read and what each push read
back. A handler run is one event: the client sees nothing wmediumd does between the two reads,
so a run whose second read waits for the client reads what a run after the client's write
reads. `apiHandlerRead` gives the `ApiRead` that `Input.apiMessage` hands to the handler, and a
response header not written whole disconnects the client as a failed read does. A push carries
the output of wmediumd whose netlink message it writes. `Wmediumd.ApiSystem` puts the
connection and wmediumd together.
-/

namespace Wmediumd

/-- Modelled from the spec: `api.h` is not under `src/`. The value of each message type, in
the order `enum wmediumd_message` lists them. -/
def WmediumdMessage.value : WmediumdMessage → UInt32
  | .invalid => 0
  | .ack => 1
  | .register => 2
  | .unregister => 3
  | .netlink => 4

/-- A `uint32_t` as it lies in memory on a little-endian host. -/
def le32 (n : Nat) : Bytes :=
  [UInt8.ofNat n, UInt8.ofNat (n / 256), UInt8.ofNat (n / 65536), UInt8.ofNat (n / 16777216)]

theorem leValue_le32 (n : Nat) : leValue (le32 n) = n % UInt32.size := by
  have h : ∀ k : Nat, (UInt8.ofNat k).toNat = k % 256 := fun _ => rfl
  simp only [le32, leValue, List.foldr, h, UInt32.size]
  omega

/-- Modelled from the spec: `api.h` is not under `src/`. `struct wmediumd_message_header`. -/
structure MessageHeader where
  type : UInt32
  dataLen : UInt32
  deriving DecidableEq

def MessageHeader.encode (hdr : MessageHeader) : Bytes :=
  le32 hdr.type.toNat ++ le32 hdr.dataLen.toNat

/-- The header `read(fd, &hdr, sizeof(hdr))` fills in from the first eight bytes. -/
def MessageHeader.decode (bytes : Bytes) : MessageHeader :=
  ⟨UInt32.ofNat (leValue (bytes.take 4)), UInt32.ofNat (leValue ((bytes.drop 4).take 4))⟩

@[simp] theorem MessageHeader.length_encode (hdr : MessageHeader) : hdr.encode.length = 8 := rfl

theorem uint32_ofNat_leValue_le32 (x : UInt32) : UInt32.ofNat (leValue (le32 x.toNat)) = x := by
  rw [leValue_le32, Nat.mod_eq_of_lt x.toNat_lt_size]
  exact UInt32.toNat.inj (UInt32.toNat_ofNat_of_lt x.toNat_lt_size)

/-- A header reads back as it was written, whatever follows it. -/
@[simp] theorem MessageHeader.decode_encode (hdr : MessageHeader) (rest : Bytes) :
    decode (hdr.encode ++ rest) = hdr := by
  have h₁ : (hdr.encode ++ rest).take 4 = le32 hdr.type.toNat := rfl
  have h₂ : ((hdr.encode ++ rest).drop 4).take 4 = le32 hdr.dataLen.toNat := rfl
  simp only [decode, h₁, h₂, uint32_ofNat_leValue_le32]

/-- The `switch (hdr.type)` of `wmediumd_api_handler`; `nlmsgConvert` stands for `nlmsg_ok` and
`nlmsg_convert` on the payload. -/
def decodeRequest (nlmsgConvert : Bytes → Option NlMsg) (type : UInt32) (data : Bytes) :
    ApiRequest :=
  if type = WmediumdMessage.register.value then .register
  else if type = WmediumdMessage.unregister.value then .unregister
  else if type = WmediumdMessage.netlink.value then .netlink (nlmsgConvert data)
  else .unknown type

/-- The safety valve of `wmediumd_api_handler`. -/
def apiMaxDataLen : Nat := 1024 * 1024

/-- The two reads of `wmediumd_api_handler` on the bytes the client has written, returning `k₁`
and `k₂` bytes: what the handler goes on with, and the bytes left to read. -/
def apiHandlerRead (nlmsgConvert : Bytes → Option NlMsg) (up : Bytes) (k₁ k₂ : Nat) :
    ApiRead × Bytes :=
  if k₁ ≠ 8 then (.failed, up.drop k₁)
  else
    let hdr := MessageHeader.decode up
    let rest := up.drop 8
    if apiMaxDataLen < hdr.dataLen.toNat then (.failed, rest)
    else if k₂ ≠ hdr.dataLen.toNat then (.failed, rest.drop k₂)
    else (.request (decodeRequest nlmsgConvert hdr.type (rest.take k₂)), rest.drop k₂)

/-- What `read(fd, buf, n)` may return with `avail` bytes to read: nothing when `n` is 0,
otherwise at least one byte and at most as many as asked for and available. -/
def ReadReturns (avail n k : Nat) : Prop :=
  if n = 0 then k = 0 else 0 < k ∧ k ≤ min n avail

instance (avail n k : Nat) : Decidable (ReadReturns avail n k) :=
  inferInstanceAs (Decidable (if n = 0 then k = 0 else 0 < k ∧ k ≤ min n avail))

/-- A request as a client writes it: type and payload, the header first. -/
def requestBytes (req : UInt32 × Bytes) : Bytes :=
  MessageHeader.encode ⟨req.1, UInt32.ofNat req.2.length⟩ ++ req.2

/-- The header a client returns for a push. -/
def ackBytes : Bytes := MessageHeader.encode ⟨WmediumdMessage.ack.value, 0⟩

/-- A request of at most 1 MiB that the client wrote whole is read whole, by reads that return
all they ask for. -/
theorem apiHandlerRead_requestBytes (nlmsgConvert : Bytes → Option NlMsg) (req : UInt32 × Bytes)
    (rest : Bytes) (hlen : req.2.length ≤ apiMaxDataLen) :
    apiHandlerRead nlmsgConvert (requestBytes req ++ rest) 8 req.2.length =
      (.request (decodeRequest nlmsgConvert req.1 req.2), rest) := by
  have hlt : req.2.length < UInt32.size := Nat.lt_of_le_of_lt hlen (by decide)
  have hdl : (UInt32.ofNat req.2.length).toNat = req.2.length := UInt32.toNat_ofNat_of_lt hlt
  have hrest : (requestBytes req ++ rest).drop 8 = req.2 ++ rest := by
    simp [requestBytes, List.drop_append_eq_append_drop]
  simp only [apiHandlerRead, ne_eq, not_true_eq_false, if_false, requestBytes, List.append_assoc,
    MessageHeader.decode_encode, hdl, Nat.not_lt.2 hlen]
  rw [← List.append_assoc, ← requestBytes, hrest]
  simp

/-- What wmediumd writes to the socket: a response header, or a push of the netlink message of
an output of wmediumd. -/
inductive ApiDown
  | response (type : WmediumdMessage)
  | push (msg : Out)

def ApiDown.isPush : ApiDown → Bool
  | .push _ => true
  | .response _ => false

def ApiDown.isResponse : ApiDown → Bool
  | .push _ => false
  | .response _ => true

/-- One API-socket connection: the bytes the client has written and wmediumd has not read,
what wmediumd has written, whether wmediumd is blocked reading an ACK back, whether the client
is still connected; and, as ghost history, the requests and the number of ACKs the client wrote,
what each handler run read and what each push read back. -/
structure ApiConn where
  up : Bytes
  down : List ApiDown
  waiting : Bool
  connected : Bool
  sent : List (UInt32 × Bytes)
  acks : Nat
  handled : List ApiRead
  readBack : List Bytes

/-- The connection `wmediumd_api_connected` accepts. -/
def ApiConn.init : ApiConn := ⟨[], [], false, true, [], 0, [], []⟩

/-- What can happen on a connection next. -/
inductive ApiEvent
  /-- The client writes a request. -/
  | request (type : UInt32) (data : Bytes)
  /-- The client writes the ACK header for a push it has read. -/
  | ack
  /-- `wmediumd_api_handler`, its reads returning `k₁` and `k₂` bytes, answering `response`;
  `written` says whether the response header was written whole. -/
  | handle (k₁ k₂ : Nat) (written : Bool) (response : WmediumdMessage)
  /-- `wmediumd_send_to_client` writes a push. -/
  | push (msg : Out)
  /-- The read of `wmediumd_send_to_client` returns `k` bytes. -/
  | readBack (k : Nat)

/-- When the handler can run with reads returning `k₁` and `k₂` bytes: on a readable socket of
a connected client while wmediumd is not blocked, each read returning what `read` may return. -/
def ApiConn.Readable (conn : ApiConn) (k₁ k₂ : Nat) : Prop :=
  conn.connected = true ∧ conn.waiting = false ∧ conn.up ≠ [] ∧
    ReadReturns conn.up.length 8 k₁ ∧
    (k₁ = 8 → (MessageHeader.decode conn.up).dataLen.toNat ≤ apiMaxDataLen →
      ReadReturns (conn.up.length - 8) (MessageHeader.decode conn.up).dataLen.toNat k₂)

/-- When an event can happen: the client writes while connected and acknowledges only pushes;
the handler runs on a readable socket, and the response of a dispatched request is an ACK or an
INVALID; wmediumd pushes to a connected client while not blocked. -/
def ApiEvent.Enabled (conn : ApiConn) : ApiEvent → Prop
  | .request _ _ => conn.connected = true
  | .ack => conn.connected = true ∧ conn.acks < conn.down.countP ApiDown.isPush
  | .handle k₁ k₂ _ response => conn.Readable k₁ k₂ ∧ (response = .ack ∨ response = .invalid)
  | .push _ => conn.connected = true ∧ conn.waiting = false
  | .readBack k => conn.waiting = true ∧ conn.up ≠ [] ∧ ReadReturns conn.up.length 8 k

/-- What an event does to the connection. A failed read, or a response header not written
whole, disconnects the client. -/
def ApiConn.step (nlmsgConvert : Bytes → Option NlMsg) (conn : ApiConn) : ApiEvent → ApiConn
  | .request type data =>
      { conn with up := conn.up ++ requestBytes (type, data), sent := conn.sent ++ [(type, data)] }
  | .ack => { conn with up := conn.up ++ ackBytes, acks := conn.acks + 1 }
  | .handle k₁ k₂ written response =>
      let (read, up) := apiHandlerRead nlmsgConvert conn.up k₁ k₂
      match read, written with
      | .request _, true => { conn with up := up, down := conn.down ++ [.response response],
                                        handled := conn.handled ++ [read] }
      | _, _ => { conn with up := up, connected := false, handled := conn.handled ++ [read] }
  | .push msg => { conn with down := conn.down ++ [.push msg], waiting := true }
  | .readBack k => { conn with up := conn.up.drop k, waiting := false,
                               readBack := conn.readBack ++ [conn.up.take k] }

/-- The connections reachable from a fresh one by events that are enabled and that `allowed`
admits. -/
inductive ApiReach (nlmsgConvert : Bytes → Option NlMsg) (allowed : ApiConn → ApiEvent → Prop) :
    ApiConn → Prop
  | init : ApiReach nlmsgConvert allowed ApiConn.init
  | step {conn : ApiConn} {ev : ApiEvent} : ApiReach nlmsgConvert allowed conn → ev.Enabled conn →
      allowed conn ev → ApiReach nlmsgConvert allowed (conn.step nlmsgConvert ev)

/-- A run continued by the event `ev`. -/
theorem ApiReach.next {nlmsgConvert : Bytes → Option NlMsg} {allowed : ApiConn → ApiEvent → Prop}
    {conn : ApiConn} (h : ApiReach nlmsgConvert allowed conn) (ev : ApiEvent) (he : ev.Enabled conn)
    (ha : allowed conn ev) : ApiReach nlmsgConvert allowed (conn.step nlmsgConvert ev) :=
  .step h he ha

/-! ## Lock-step use -/

/-- The runs the protocol is right on: every read returns all it asks for that is there and
every response header is written whole, a request carries at most 1 MiB, wmediumd pushes only
once it has read every byte the client has written, and the client writes no request between a
push and its ACK. -/
def LockStep (conn : ApiConn) : ApiEvent → Prop
  | .request _ data => conn.waiting = false ∧ data.length ≤ apiMaxDataLen
  | .ack => True
  | .handle k₁ k₂ written _ => k₁ = min 8 conn.up.length ∧
      k₂ = min (MessageHeader.decode conn.up).dataLen.toNat (conn.up.length - 8) ∧ written = true
  | .push _ => conn.up = []
  | .readBack k => k = min 8 conn.up.length

theorem requestBytes_ne_nil (req : UInt32 × Bytes) : requestBytes req ≠ [] := by
  simp [requestBytes, MessageHeader.encode, le32]

theorem flatMap_requestBytes_eq_nil {reqs : List (UInt32 × Bytes)}
    (h : reqs.flatMap requestBytes = []) : reqs = [] := by
  cases reqs with
  | nil => rfl
  | cons req reqs => simp [requestBytes_ne_nil] at h

/-- What a lock-step run keeps: the client stays connected; the handler has read the client's
requests in order, answered each once, and left the others whole in the stream; every push has
read back an ACK; while wmediumd waits for an ACK no request is pending. -/
structure LockInv (nlmsgConvert : Bytes → Option NlMsg) (conn : ApiConn) : Prop where
  connected : conn.connected = true
  handled : conn.handled = (conn.sent.take conn.handled.length).map
    fun req => .request (decodeRequest nlmsgConvert req.1 req.2)
  handled_le : conn.handled.length ≤ conn.sent.length
  small : ∀ req ∈ conn.sent, req.2.length ≤ apiMaxDataLen
  responses : conn.down.countP ApiDown.isResponse = conn.handled.length
  answers : ∀ r, ApiDown.response r ∈ conn.down → r = .ack ∨ r = .invalid
  readBack : ∀ b ∈ conn.readBack, b = ackBytes
  idle : conn.waiting = false →
    conn.up = (conn.sent.drop conn.handled.length).flatMap requestBytes ∧
      conn.acks = conn.down.countP ApiDown.isPush
  busy : conn.waiting = true → conn.handled.length = conn.sent.length ∧
    ((conn.up = [] ∧ conn.acks + 1 = conn.down.countP ApiDown.isPush) ∨
      (conn.up = ackBytes ∧ conn.acks = conn.down.countP ApiDown.isPush))

/-- With lock-step reads the handler takes exactly the whole request at the head of the stream,
and answers it. -/
theorem ApiConn.step_handle_eq {nlmsgConvert : Bytes → Option NlMsg} {conn : ApiConn}
    {req : UInt32 × Bytes} {rest : Bytes} {k₁ k₂ : Nat} {written : Bool}
    {response : WmediumdMessage} (hup : conn.up = requestBytes req ++ rest)
    (hsmall : req.2.length ≤ apiMaxDataLen) (hl : LockStep conn (.handle k₁ k₂ written response)) :
    conn.step nlmsgConvert (.handle k₁ k₂ written response) =
      { conn with up := rest, down := conn.down ++ [.response response],
                  handled := conn.handled ++ [.request (decodeRequest nlmsgConvert req.1 req.2)] } := by
  have hk : k₁ = 8 ∧ k₂ = req.2.length := by
    have hlen : (requestBytes req).length = 8 + req.2.length := by simp [requestBytes]
    have hdec : MessageHeader.decode conn.up = ⟨req.1, UInt32.ofNat req.2.length⟩ := by
      rw [hup, requestBytes, List.append_assoc, MessageHeader.decode_encode]
    have hdl : (UInt32.ofNat req.2.length).toNat = req.2.length :=
      UInt32.toNat_ofNat_of_lt (Nat.lt_of_le_of_lt hsmall (by decide))
    obtain ⟨rfl, rfl, -⟩ := hl
    rw [hdec, hdl, hup, List.length_append, hlen]
    omega
  obtain ⟨rfl, rfl⟩ := hk
  obtain rfl : written = true := hl.2.2
  simp only [ApiConn.step, hup, apiHandlerRead_requestBytes nlmsgConvert req rest hsmall]

namespace LockInv

variable {nlmsgConvert : Bytes → Option NlMsg} {conn : ApiConn}

theorem init : LockInv nlmsgConvert ApiConn.init :=
  ⟨rfl, rfl, Nat.le_refl _, fun _ h => (List.not_mem_nil _ h).elim, rfl,
    fun _ h => (List.not_mem_nil _ h).elim, fun _ h => (List.not_mem_nil _ h).elim,
    fun _ => ⟨rfl, rfl⟩, (fun h => nomatch h)⟩

theorem step_request (h : LockInv nlmsgConvert conn) {type : UInt32} {data : Bytes}
    (hl : LockStep conn (.request type data)) :
    LockInv nlmsgConvert (conn.step nlmsgConvert (.request type data)) := by
  obtain ⟨hw, hlen⟩ := hl
  obtain ⟨hup, hacks⟩ := h.idle hw
  refine ⟨h.connected, ?_, ?_, fun req hr => ?_, h.responses, h.answers, h.readBack,
    fun _ => ⟨?_, hacks⟩, (fun h' => nomatch hw.symm.trans h')⟩
  · simp only [ApiConn.step, List.take_append_of_le_length h.handled_le]
    exact h.handled
  · simp only [ApiConn.step, List.length_append]
    exact Nat.le_succ_of_le h.handled_le
  · rcases List.mem_append.1 hr with hr | hr
    · exact h.small req hr
    · rw [List.mem_singleton.1 hr]
      exact hlen
  · simp [ApiConn.step, hup, List.drop_append_of_le_length h.handled_le]

theorem step_ack (h : LockInv nlmsgConvert conn) (he : ApiEvent.ack.Enabled conn) :
    LockInv nlmsgConvert (conn.step nlmsgConvert .ack) := by
  obtain ⟨-, hlt⟩ := he
  cases hw : conn.waiting
  · exact absurd (h.idle hw).2 (Nat.ne_of_lt hlt)
  obtain ⟨hn, hb⟩ := h.busy hw
  rcases hb with ⟨hup, hacks⟩ | ⟨-, hacks⟩
  · exact ⟨h.connected, h.handled, h.handled_le, h.small, h.responses, h.answers, h.readBack,
      (fun h' => nomatch hw.symm.trans h'),
      fun _ => ⟨hn, .inr ⟨by simp [ApiConn.step, hup], hacks⟩⟩⟩
  · exact absurd hacks (Nat.ne_of_lt hlt)

theorem step_handle (h : LockInv nlmsgConvert conn) {k₁ k₂ : Nat} {written : Bool}
    {response : WmediumdMessage} (he : (ApiEvent.handle k₁ k₂ written response).Enabled conn)
    (hl : LockStep conn (.handle k₁ k₂ written response)) :
    LockInv nlmsgConvert (conn.step nlmsgConvert (.handle k₁ k₂ written response)) := by
  obtain ⟨⟨-, hw, hne, -, -⟩, hresp⟩ := he
  obtain ⟨hup, hacks⟩ := h.idle hw
  obtain ⟨req, reqs, hreqs⟩ : ∃ req reqs, conn.sent.drop conn.handled.length = req :: reqs := by
    cases hd : conn.sent.drop conn.handled.length with
    | nil => exact absurd (by rw [hup, hd]; rfl) hne
    | cons req reqs => exact ⟨req, reqs, rfl⟩
  have hsmall := h.small req (List.mem_of_mem_drop (hreqs ▸ List.mem_cons_self _ _))
  have hup' : conn.up = requestBytes req ++ reqs.flatMap requestBytes := by
    rw [hup, hreqs, List.flatMap_cons]
  have hget : conn.sent[conn.handled.length]? = some req := by
    rw [← Nat.add_zero conn.handled.length, ← List.getElem?_drop, hreqs]
    simp
  have hdrop : conn.sent.drop (conn.handled.length + 1) = reqs := by
    rw [← List.drop_drop, hreqs]
    rfl
  rw [ApiConn.step_handle_eq hup' hsmall hl]
  refine ⟨h.connected, ?_, ?_, h.small, ?_, fun r hr => ?_, h.readBack,
    fun _ => ⟨?_, ?_⟩, (fun h' => nomatch hw.symm.trans h')⟩
  · show conn.handled ++ _ = (conn.sent.take (conn.handled ++ _).length).map _
    rw [List.length_append, List.length_singleton, List.take_succ, hget, Option.toList_some,
      List.map_append, ← h.handled]
    rfl
  · simpa using (List.getElem?_eq_some_iff.1 hget).1
  · simp [List.countP_append, h.responses, ApiDown.isResponse]
  · rcases List.mem_append.1 hr with hr | hr
    · exact h.answers r hr
    · simp only [List.mem_singleton, ApiDown.response.injEq] at hr
      exact hr ▸ hresp
  · show _ = (conn.sent.drop (conn.handled ++ _).length).flatMap requestBytes
    rw [List.length_append, List.length_singleton, hdrop]
  · simp [List.countP_append, hacks, ApiDown.isPush]

theorem step_push (h : LockInv nlmsgConvert conn) {msg : Out} (he : (ApiEvent.push msg).Enabled conn)
    (hl : LockStep conn (.push msg)) : LockInv nlmsgConvert (conn.step nlmsgConvert (.push msg)) := by
  obtain ⟨-, hw⟩ := he
  obtain ⟨hup, hacks⟩ := h.idle hw
  have hn : conn.handled.length = conn.sent.length :=
    Nat.le_antisymm h.handled_le (List.drop_eq_nil_iff.1 (flatMap_requestBytes_eq_nil (hup ▸ hl)))
  refine ⟨h.connected, h.handled, h.handled_le, h.small, ?_, fun r hr => ?_, h.readBack,
    (fun h' => nomatch h'), fun _ => ⟨hn, .inl ⟨hl, ?_⟩⟩⟩
  · simp [ApiConn.step, List.countP_append, h.responses, ApiDown.isResponse]
  · rcases List.mem_append.1 hr with hr | hr
    · exact h.answers r hr
    · simp at hr
  · simp [ApiConn.step, List.countP_append, hacks, ApiDown.isPush]

theorem step_readBack (h : LockInv nlmsgConvert conn) {k : Nat}
    (he : (ApiEvent.readBack k).Enabled conn)
    (hl : LockStep conn (.readBack k)) :
    LockInv nlmsgConvert (conn.step nlmsgConvert (.readBack k)) := by
  obtain ⟨hw, hne, -⟩ := he
  obtain ⟨hn, hb⟩ := h.busy hw
  rcases hb with ⟨hup, -⟩ | ⟨hup, hacks⟩
  · exact absurd hup hne
  have hk : k = 8 := by rw [hl, hup]; rfl
  subst hk
  refine ⟨h.connected, h.handled, h.handled_le, h.small, h.responses, h.answers, fun b hb => ?_,
    fun _ => ⟨?_, hacks⟩, (fun h' => nomatch h')⟩
  · rcases List.mem_append.1 hb with hb | hb
    · exact h.readBack b hb
    · rw [List.mem_singleton.1 hb, hup]
      rfl
  · show conn.up.drop 8 = (conn.sent.drop conn.handled.length).flatMap requestBytes
    rw [hup, hn, List.drop_length]
    rfl

theorem step (h : LockInv nlmsgConvert conn) {ev : ApiEvent} (he : ev.Enabled conn)
    (hl : LockStep conn ev) : LockInv nlmsgConvert (conn.step nlmsgConvert ev) := by
  cases ev with
  | request type data => exact h.step_request hl
  | ack => exact h.step_ack he
  | handle k₁ k₂ written response => exact h.step_handle he hl
  | push msg => exact h.step_push he hl
  | readBack k => exact h.step_readBack he hl

end LockInv

/-- On every lock-step run of a connection the client stays connected, `wmediumd_api_handler`
has handled the client's requests in order, answered each with exactly one ACK or INVALID header
and left the requests it has not reached whole in the stream, and every push has read back the
client's ACK. -/
theorem ApiReach.lockstep_in_order {nlmsgConvert : Bytes → Option NlMsg} {conn : ApiConn}
    (h : ApiReach nlmsgConvert LockStep conn) :
    conn.connected = true ∧
      conn.handled = (conn.sent.take conn.handled.length).map
        (fun req => .request (decodeRequest nlmsgConvert req.1 req.2)) ∧
      conn.down.countP ApiDown.isResponse = conn.handled.length ∧
      (∀ r, ApiDown.response r ∈ conn.down → r = .ack ∨ r = .invalid) ∧
      (∀ b ∈ conn.readBack, b = ackBytes) ∧
      (conn.waiting = false →
        conn.up = (conn.sent.drop conn.handled.length).flatMap requestBytes) := by
  have hi : LockInv nlmsgConvert conn := by
    induction h with
    | init => exact .init
    | step _ he hl ih => exact ih.step he hl
  exact ⟨hi.connected, hi.handled, hi.responses, hi.answers, hi.readBack, fun hw => (hi.idle hw).1⟩

end Wmediumd
