import Wmediumd.Mrr

/-!
# `_process_messages`: frames submitted over generic netlink

The kernel, a vhost-user device and an API-socket client all hand a `HWSIM_CMD_FRAME` message to
`_process_messages`, which reads its attributes, drops a frame shorter than the two header
addresses or from an unknown sender, binds the sender station to the submitting client if it
has none, copies the frame and calls `queue_frame`.

Only `HWSIM_ATTR_ADDR_TRANSMITTER` and `HWSIM_ATTR_FREQ` are checked for presence, and no
payload length is checked: `nla_len`, `nla_data` and `nla_get_u32` on a missing attribute
dereference `NULL`, and `nla_get_u32` on a shorter payload reads past it. The model reads
attributes through `nlaPayload` and `nlaRead`, which return the corresponding `Fault`. libnl-3's
`nla_get_u64` alone checks its attribute: a missing cookie, or one shorter than 8 bytes, reads
as 0.
-/

namespace Wmediumd

/-- `genlmsg_parse`: the attribute table, each slot holding the last attribute of its type. -/
def genlmsgParse (msg : NlMsg) : HwsimAttr → Option Bytes :=
  msg.attrs.foldl (fun tb a => Function.update tb a.1 (some a.2)) fun _ => none

/-- `nla_len` and `nla_data` of the table slot `attr`, which may be `NULL`. -/
def nlaPayload (tb : HwsimAttr → Option Bytes) (attr : HwsimAttr) : Except Fault Bytes :=
  match tb attr with
  | some payload => .ok payload
  | none => .error (.missingAttribute attr)

theorem nlaPayload_eq_ok {tb : HwsimAttr → Option Bytes} {attr : HwsimAttr} {payload : Bytes} :
    nlaPayload tb attr = .ok payload ↔ tb attr = some payload := by
  unfold nlaPayload
  split <;> simp_all

/-- The first `width` bytes of a payload, as `nla_get_u32`, `nla_get_u64` and the `memcpy` of
the transmitter address read them. -/
def nlaRead (attr : HwsimAttr) (payload : Bytes) (width : Nat) : Except Fault Bytes :=
  if width ≤ payload.length then .ok (payload.take width) else .error (.attributeOverread attr)

/-- A little-endian integer, the host order in which `nla_get_u32` and `nla_get_u64` read. -/
def leValue (bytes : Bytes) : Nat :=
  bytes.foldr (fun b acc => b.toNat + 256 * acc) 0

def nlaGetU32 (tb : HwsimAttr → Option Bytes) (attr : HwsimAttr) : Except Fault UInt32 := do
  let payload ← nlaPayload tb attr
  let bytes ← nlaRead attr payload 4
  return UInt32.ofNat (leValue bytes)

/-- `nla_get_u64` of libnl-3: the first 8 bytes of the payload, or 0 when the attribute is
missing or shorter than 8 bytes. -/
def nlaGetU64 (tb : HwsimAttr → Option Bytes) (attr : HwsimAttr) : UInt64 :=
  match tb attr with
  | some payload => if 8 ≤ payload.length then UInt64.ofNat (leValue (payload.take 8)) else 0
  | none => 0

/-- `memcpy(sender->hwaddr, hwaddr, ETH_ALEN)` from the transmitter attribute. -/
def nlaAddr (payload : Bytes) : Except Fault MacAddr :=
  if h : ethAlen ≤ payload.length then .ok ⟨payload.take ethAlen, by simp; omega⟩
  else .error (.attributeOverread .addrTransmitter)

/-- A `signed char` read from its byte. -/
def signedChar (b : UInt8) : Int :=
  if b.toNat < 128 then b.toNat else b.toNat - 256

/-- `memcpy(frame->tx_rates, tx_rates, min(tx_rates_len, sizeof(frame->tx_rates)))` into the
zeroed frame: row `i` is bytes `2i` and `2i + 1` of the attribute, or 0 past its end. -/
def decodeTxRates (txInfo : Bytes) : Fin ieee80211TxMaxRates → HwsimTxRate :=
  fun i => ⟨signedChar (txInfo.getD (2 * i) 0), (txInfo.getD (2 * i + 1) 0).toNat⟩

/-- `attrs[HWSIM_ATTR_FREQ] ? nla_get_u32(attrs[HWSIM_ATTR_FREQ]) : 2412`. -/
def attrFreq (tb : HwsimAttr → Option Bytes) : Except Fault UInt32 :=
  match tb .freq with
  | some _ => nlaGetU32 tb .freq
  | none => pure 2412

/-- `_process_messages(msg, ctx, client)`. -/
def processMessages (m : Medium) (env : TxEnv) (ctx : Ctx) (msg : NlMsg) (client : ClientPtr) :
    Except Fault (Ctx × List Out) :=
  if msg.cmd = hwsimCmdFrame then
    let attrs := genlmsgParse msg
    match attrs .addrTransmitter with
    | none => .ok (ctx, [])
    | some hwaddr => do
        let data ← nlaPayload attrs .frame
        let flags ← nlaGetU32 attrs .flags
        let txInfo ← nlaPayload attrs .txInfo
        let cookie := nlaGetU64 attrs .cookie
        let freq ← attrFreq attrs
        if data.length < 6 + 6 + 4 then .ok (ctx, []) else
        let src ← frameAddr data 10
        match getStationByAddr ctx.stations src with
        | none => .ok (ctx, [])
        | some k =>
            match ctx.stations[k]? with
            | none => .error (.danglingStation k)
            | some sender => do
                let hw ← nlaAddr hwaddr
                let p := ctx.nextFrame
                let bound := sender.bind hw client
                let ctx := { ctx with stations := ctx.stations.set k bound, nextFrame := p + 1 }
                let frame : Frame :=
                  { data := data, flags := flags, cookie := cookie, freq := freq, sender := k,
                    src := none, txRates := decodeTxRates txInfo,
                    txRatesCount := txInfo.length / 2, signal := 0, duration := 0, start := 0 }
                queueFrame m env ctx k p frame
  else .ok (ctx, [])

/-- What an accepted message does: nothing, or it binds its sender station `k` and queues one
frame of at least 16 bytes from that station at the next free pointer. -/
theorem processMessages_spec {m : Medium} {env : TxEnv} {ctx ctx' : Ctx} {msg : NlMsg}
    {client : ClientPtr} {outs : List Out}
    (h : processMessages m env ctx msg client = .ok (ctx', outs)) :
    (ctx' = ctx ∧ outs = []) ∨
      ∃ k st hw frame, ctx.stations[k]? = some st ∧ 6 + 6 + 4 ≤ frame.data.length ∧
        frame.sender = k ∧
        queueFrame m env
          { ctx with stations := ctx.stations.set k (st.bind hw client),
                     nextFrame := ctx.nextFrame + 1 }
          k ctx.nextFrame frame = .ok (ctx', outs) := by
  have nothing : (Except.ok (ctx, []) : Except Fault (Ctx × List Out)) = .ok (ctx', outs) →
      ctx' = ctx ∧ outs = [] := by
    intro h
    simp only [Except.ok.injEq, Prod.mk.injEq] at h
    exact ⟨h.1.symm, h.2.symm⟩
  unfold processMessages at h
  split at h
  · dsimp only at h
    split at h
    · exact .inl (nothing h)
    · rename_i hwaddr _
      simp only [bind_eq_ok] at h
      obtain ⟨data, -, flags, -, txInfo, -, freq, -, h⟩ := h
      split at h
      · exact .inl (nothing h)
      · rename_i hlen
        simp only [bind_eq_ok] at h
        obtain ⟨src, -, h⟩ := h
        split at h
        · exact .inl (nothing h)
        · rename_i k _
          split at h
          · cases h
          · rename_i st hst
            simp only [bind_eq_ok] at h
            obtain ⟨hw, -, h⟩ := h
            exact .inr ⟨k, st, hw, _, hst, by simpa using hlen, rfl, h⟩
  · exact .inl (nothing h)

/-- What an accepted message does, in full: nothing, or it binds sender station `k` (to
`client`, unless it is bound already) and queues one frame `f` of that station at the next free
pointer, with `src` the station's binding and its job at the target `queue_frame` computed
before the append. -/
theorem processMessages_queued {m : Medium} {env : TxEnv} {ctx ctx' : Ctx} {msg : NlMsg}
    {client : ClientPtr} {outs : List Out}
    (h : processMessages m env ctx msg client = .ok (ctx', outs)) :
    (ctx' = ctx ∧ outs = []) ∨
      ∃ k st hw ac f, ctx.stations[k]? = some st ∧ 6 + 6 + 4 ≤ f.data.length ∧
        f.sender = k ∧ frameSelectQueue80211 f.data = .ok ac ∧
        f.src = some (st.client.getD client) ∧ f.start = queueTarget ctx ac + f.duration ∧
        ctx' = { ctx with
          stations := ctx.stations.set k ((st.bind hw client).enqueue ac ctx.nextFrame),
          frames := Function.update ctx.frames ctx.nextFrame (some f),
          sched := ctx.sched ++ [.frame ctx.nextFrame], nextFrame := ctx.nextFrame + 1 } ∧
        outs = [.queued ctx.nextFrame f ac ctx.now] := by
  rcases processMessages_spec h with h | ⟨k, st, hw, frame, hst, hlen, hsender, h⟩
  · exact .inl h
  · obtain ⟨st₁, ac, sent, hst₁, hac, hsent, rfl, rfl⟩ := queueFrame_spec h
    have hk : k < ctx.stations.length := (List.getElem?_eq_some_iff.1 hst).1
    obtain rfl : st₁ = st.bind hw client := by
      simpa [List.getElem?_set, hk] using hst₁.symm
    have hsent := congrArg (fun f : Frame => (f.data, f.sender)) (queueFrameMrr_eq hsent)
    simp only [Prod.mk.injEq] at hsent
    let ctx₁ : Ctx :=
      { ctx with stations := ctx.stations.set k (st.bind hw client), nextFrame := ctx.nextFrame + 1 }
    have htarget : queueTarget ctx₁ ac = queueTarget ctx ac :=
      queueTarget_congr (map_queues_set_bind hst hw client) (show ctx₁.frames = ctx.frames from rfl)
        (show ctx₁.now = ctx.now from rfl) ac
    refine .inr ⟨k, st, hw, ac, _, hst, ?_, ?_, ?_, rfl, ?_, ?_, rfl⟩
    · simpa [hsent.1] using hlen
    · simpa [hsent.2] using hsender
    · simpa [hsent.1] using hac
    · simp only [htarget]
    · simp [List.set_set]

/-! ## Inputs the code does not survive -/

/-- Every `HWSIM_CMD_FRAME` message that carries a transmitter address but no frame attribute
makes `_process_messages` dereference the missing attribute. -/
theorem processMessages_transmitter_only (m : Medium) (env : TxEnv) (ctx : Ctx)
    (hwaddr : Bytes) (client : ClientPtr) :
    processMessages m env ctx ⟨hwsimCmdFrame, [(.addrTransmitter, hwaddr)]⟩ client =
      .error (.missingAttribute .frame) := by
  simp [processMessages, genlmsgParse, nlaPayload]

end Wmediumd
