import Wmediumd.Medium

/-!
# `queue_frame`: the multi-rate retry walk and the delivery time

`queue_frame` charges a frame the airtime of every attempt its MRR table allows until one is
acknowledged (`mrrWalk` over the rows, `mrrRow` over the attempts of one row), truncates the
table at the successful attempt, and schedules the delivery `send_time` after the latest start
of any queued frame of equal or higher priority, or after now (`queueTarget`).

`frame->tx_rates` has `IEEE80211_TX_MAX_RATES` rows while the walk runs to
`frame->tx_rates_count`, which `_process_messages` computes from the attribute length, so every
access to a row is checked (`txRateAt`, `txRateSet`).
-/

namespace Wmediumd

/-- The loop variables `send_time` and `cw` of the walk, and which `drand48()` draw `choice`
currently holds. -/
structure Walk where
  sendTime : Nat
  cw : Nat
  choice : Nat

/-- What stays fixed during one walk: whether the frame expects no ACK, whether the random
choice is drawn once (`use_fixed_random_value`), the ACK time, the queue's `cw_max` and the
successive values `drand48()` returns. -/
structure Attempts where
  noack : Bool
  fixed : Bool
  ackTime : Nat
  cwMax : Nat
  draws : Nat → ℚ

/-- The inner loop `for (j = 0; j < frame->tx_rates[i].count; j++)` of one row, from attempt
`j` with `count` attempts left: the loop variables after it, and the attempt at which an ACK
(or the single attempt of a no-ack frame) ended the walk. -/
def mrrRow (a : Attempts) (txTime : Nat) (errorProb : ℚ) : Nat → Nat → Walk → Walk × Option Nat
  | 0, _, w => (w, none)
  | count + 1, j, w =>
      let w := { w with sendTime := w.sendTime + txTime }
      if a.noack then (w, some j)
      else
        let w := if 0 < j then
            { w with sendTime := w.sendTime + w.cw * slotTime / 2, cw := min (2 * w.cw + 1) a.cwMax }
          else w
        let w := { w with sendTime := w.sendTime + a.ackTime }
        if errorProb < a.draws w.choice then (w, some j)
        else mrrRow a txTime errorProb count (j + 1) (if a.fixed then w else { w with choice := w.choice + 1 })

/-- How the outer loop over the MRR rows ended. -/
inductive WalkEnd
  /-- All `tx_rates_count` rows were tried. -/
  | exhausted
  /-- A row with `idx < 0`: no more rates. -/
  | noMoreRates
  /-- Attempt `attempt` of row `row` succeeded. -/
  | acked (row attempt : Nat)
  deriving DecidableEq

/-- `frame->tx_rates[i]`, inside the array only below `IEEE80211_TX_MAX_RATES`. -/
def txRateAt (rates : Fin ieee80211TxMaxRates → HwsimTxRate) (i : Nat) : Except Fault HwsimTxRate :=
  if h : i < ieee80211TxMaxRates then .ok (rates ⟨i, h⟩) else .error (.txRatesOverrun i)

def txRateSet (rates : Fin ieee80211TxMaxRates → HwsimTxRate) (i : Nat) (r : HwsimTxRate) :
    Except Fault (Fin ieee80211TxMaxRates → HwsimTxRate) :=
  if h : i < ieee80211TxMaxRates then .ok (Function.update rates ⟨i, h⟩ r)
  else .error (.txRatesOverrun i)

/-- The outer loop `for (i = 0; i < frame->tx_rates_count && !is_acked; i++)` over the rows
still to read; `row` gives, for a rate index, the airtime of one attempt and `error_prob`. -/
def mrrWalk (a : Attempts) (row : Int → Nat × ℚ) :
    List (Except Fault HwsimTxRate) → Nat → Walk → Except Fault (Walk × WalkEnd)
  | [], _, w => .ok (w, .exhausted)
  | r :: rows, i, w => do
      let rate ← r
      if rate.idx < 0 then return (w, .noMoreRates)
      match mrrRow a (row rate.idx).1 (row rate.idx).2 rate.count 0 w with
      | (w, some j) => return (w, .acked i j)
      | (w, none) => mrrWalk a row rows (i + 1) w

/-- `frame->tx_rates[i-1].count = j + 1` for the successful row, then the loop that marks every
later row unused with `idx = -1` and `count = -1`, which the `unsigned char` stores as 255. -/
def truncateTxRates (rates : Fin ieee80211TxMaxRates → HwsimTxRate) (count row attempt : Nat) :
    Except Fault (Fin ieee80211TxMaxRates → HwsimTxRate) := do
  let r ← txRateAt rates row
  let rates ← txRateSet rates row { r with count := attempt + 1 }
  (List.range' (row + 1) (count - (row + 1))).foldlM (fun rates i => txRateSet rates i ⟨-1, 255⟩)
    rates

/-- The start of the last frame of a queue (`list_last_entry_or_null`), or 0 for an empty
queue. -/
def tailStart (frames : FramePtr → Option Frame) (queue : Wqueue) : Nat :=
  match queue.frames.getLast? with
  | some tail => ((frames tail).map Frame.start).getD 0
  | none => 0

/-- The loop of `queue_frame` that moves `target` from `scheduler.current_time` past the tail of
every queue `0..ac` of every station. -/
def queueTarget (ctx : Ctx) (ac : AcNumber) : Nat :=
  ((List.finRange 4).filter (· ≤ ac)).foldl
    (fun target i =>
      ctx.stations.foldl (fun target st => max target (tailStart ctx.frames (st.queues i))) target)
    ctx.now

/-- The target reads the stations only through their queues. -/
theorem queueTarget_congr {ctx ctx' : Ctx}
    (hq : ctx'.stations.map Station.queues = ctx.stations.map Station.queues)
    (hf : ctx'.frames = ctx.frames) (hn : ctx'.now = ctx.now) (ac : AcNumber) :
    queueTarget ctx' ac = queueTarget ctx ac := by
  have key : ∀ (l : List Station) (i : AcNumber) (t : Nat),
      l.foldl (fun target st => max target (tailStart ctx.frames (st.queues i))) t =
        (l.map Station.queues).foldl (fun target qs => max target (tailStart ctx.frames (qs i))) t :=
    fun l i t => by rw [List.foldl_map]
  unfold queueTarget
  simp only [hf, hn, key, hq]

/-- The randomness one call of `queue_frame` consumes: the `drand48()` values of the walk, the
interference offset and `ctx->get_fading_signal(ctx)`. -/
structure TxEnv where
  draws : Nat → ℚ
  interference : Nat
  fading : Int

/-- `deststa` of `queue_frame`: no station for a multicast `addr1`, else the station
`get_station_by_addr` finds at it. -/
def queueFrameDeststa (ctx : Ctx) (dest : MacAddr) : Option Station :=
  if isMulticastEtherAddr dest then none
  else (getStationByAddr ctx.stations dest).bind (ctx.stations[·]?)

/-- `snr` of `queue_frame`: `SNR_DEFAULT` without a destination station, else the SNR of the
link from `station`, less the interference offset, plus the fading. -/
def queueFrameSnr (m : Medium) (env : TxEnv) (ctx : Ctx) (station : Station) :
    Option Station → Int
  | none => snrDefault
  | some d => getLinkSnr m ctx.stations.length station d -
      signalOffsetByInterference ctx.intf env.interference + env.fading

/-- The part of `queue_frame` after it picked the queue `ac` of `station`: the frame's signal,
the MRR walk, the truncated table, the ACK flag and `frame->duration = send_time`. -/
def queueFrameMrr (m : Medium) (env : TxEnv) (ctx : Ctx) (station : Station) (ac : AcNumber)
    (frame : Frame) : Except Fault Frame := do
  let ackTime := pktDuration 14 (m.indexToRate 0 frame.freq) + sifs
  let queue := station.queues ac
  let dest ← frameAddr frame.data 4
  let n := ctx.stations.length
  let deststa := queueFrameDeststa ctx dest
  let snr := queueFrameSnr m env ctx station deststa
  let noack := (← frameIsMgmt frame.data) || isMulticastEtherAddr dest
  let attempts : Attempts :=
    { noack := noack, fixed := useFixedRandomValue m, ackTime := ackTime, cwMax := queue.cwMax,
      draws := env.draws }
  let row := fun idx : Int => (difs + pktDuration frame.data.length (m.indexToRate idx frame.freq),
    getErrorProb m n snr idx frame.freq frame.data.length station deststa)
  let rows := (List.range frame.txRatesCount).map (txRateAt frame.txRates)
  let (w, stop) ← mrrWalk attempts row rows 0 ⟨0, queue.cwMin, 0⟩
  let (txRates, flags) ← match stop with
    | .acked i j => do
        let rates ← truncateTxRates frame.txRates frame.txRatesCount i j
        pure (rates, frame.flags ||| hwsimTxStatAck)
    | _ => pure (frame.txRates, frame.flags)
  return { frame with signal := snr + noiseLevel, txRates := txRates, flags := flags,
                      duration := w.sendTime }

/-- `queue_frame` for the frame allocated at `p`, sent by station `k`: the MRR walk, then the
job at `target + send_time`, `frame->src = station->client` and the append to the queue. -/
def queueFrame (m : Medium) (env : TxEnv) (ctx : Ctx) (k : Nat) (p : FramePtr) (frame : Frame) :
    Except Fault (Ctx × List Out) := do
  let station ← match ctx.stations[k]? with
    | some st => pure st
    | none => throw (.danglingStation k)
  let ac ← frameSelectQueue80211 frame.data
  let sent ← queueFrameMrr m env ctx station ac frame
  let frame := { sent with src := station.client, start := queueTarget ctx ac + sent.duration }
  let ctx' : Ctx :=
    { ctx with frames := Function.update ctx.frames p (some frame), sched := ctx.sched ++ [.frame p],
               stations := ctx.stations.set k (station.enqueue ac p) }
  return (ctx', [.queued p frame ac ctx.now])

/-- What the MRR part of `queue_frame` computes: the walk over the frame's rows, with the no-ack
flag of its destination and type, the ACK time, the queue's window and the error probability of
the link to its destination station at its SNR; the rate table it truncates after an
acknowledged attempt; and the frame it returns, with that SNR plus the noise level as signal,
the walk's `send_time` as duration, and `HWSIM_TX_STAT_ACK` among the flags when the walk ended
on an acknowledged attempt. -/
theorem queueFrameMrr_ok {m : Medium} {env : TxEnv} {ctx : Ctx} {st : Station} {ac : AcNumber}
    {frame sent : Frame} (h : queueFrameMrr m env ctx st ac frame = .ok sent) :
    ∃ dest mgmt w stop rates, frameAddr frame.data 4 = .ok dest ∧
      frameIsMgmt frame.data = .ok mgmt ∧
      let deststa := queueFrameDeststa ctx dest
      let snr := queueFrameSnr m env ctx st deststa
      mrrWalk ⟨mgmt || isMulticastEtherAddr dest, useFixedRandomValue m,
          pktDuration 14 (m.indexToRate 0 frame.freq) + sifs, (st.queues ac).cwMax, env.draws⟩
        (fun idx => (difs + pktDuration frame.data.length (m.indexToRate idx frame.freq),
          getErrorProb m ctx.stations.length snr idx frame.freq frame.data.length st deststa))
        ((List.range frame.txRatesCount).map (txRateAt frame.txRates)) 0
        ⟨0, (st.queues ac).cwMin, 0⟩ = .ok (w, stop) ∧
      (match stop with
        | .acked i j => truncateTxRates frame.txRates frame.txRatesCount i j = .ok rates
        | _ => rates = frame.txRates) ∧
      sent = { frame with
        signal := snr + noiseLevel, txRates := rates, duration := w.sendTime,
        flags := match stop with
          | .acked _ _ => frame.flags ||| hwsimTxStatAck
          | _ => frame.flags } := by
  simp only [queueFrameMrr, bind_eq_ok] at h
  obtain ⟨dest, hd, mgmt, hm, ⟨w, stop⟩, hw, h⟩ := h
  cases stop with
  | acked i j =>
      simp only [bind_eq_ok, pure_eq_ok, ok_bind, Except.ok.injEq] at h
      obtain ⟨rates, hr, rfl⟩ := h
      exact ⟨dest, mgmt, w, _, rates, hd, hm, hw, hr, rfl⟩
  | _ =>
      simp only [pure_eq_ok, ok_bind, Except.ok.injEq] at h
      exact ⟨dest, mgmt, w, _, _, hd, hm, hw, rfl, h.symm⟩

/-- What the MRR part of `queue_frame` returns: the walk over the frame's rows, with the no-ack
flag of its destination and type, the ACK time, the queue's window and the error probability of
the link to its destination, gives the duration, and `HWSIM_TX_STAT_ACK` joins the flags when it
ended on an acknowledged attempt. -/
theorem queueFrameMrr_walk {m : Medium} {env : TxEnv} {ctx : Ctx} {st : Station} {ac : AcNumber}
    {frame sent : Frame} (h : queueFrameMrr m env ctx st ac frame = .ok sent) :
    ∃ dest mgmt w stop rates, frameAddr frame.data 4 = .ok dest ∧
      frameIsMgmt frame.data = .ok mgmt ∧
      let deststa := queueFrameDeststa ctx dest
      let snr := queueFrameSnr m env ctx st deststa
      mrrWalk ⟨mgmt || isMulticastEtherAddr dest, useFixedRandomValue m,
          pktDuration 14 (m.indexToRate 0 frame.freq) + sifs, (st.queues ac).cwMax, env.draws⟩
        (fun idx => (difs + pktDuration frame.data.length (m.indexToRate idx frame.freq),
          getErrorProb m ctx.stations.length snr idx frame.freq frame.data.length st deststa))
        ((List.range frame.txRatesCount).map (txRateAt frame.txRates)) 0
        ⟨0, (st.queues ac).cwMin, 0⟩ = .ok (w, stop) ∧
      sent = { frame with
        signal := snr + noiseLevel, txRates := rates, duration := w.sendTime,
        flags := match stop with
          | .acked _ _ => frame.flags ||| hwsimTxStatAck
          | _ => frame.flags } := by
  obtain ⟨dest, mgmt, w, stop, rates, hd, hm, hw, -, rfl⟩ := queueFrameMrr_ok h
  exact ⟨dest, mgmt, w, stop, rates, hd, hm, hw, rfl⟩

/-- The MRR part of `queue_frame` writes only the signal, the table, the flags and the
duration of the frame. -/
theorem queueFrameMrr_eq {m : Medium} {env : TxEnv} {ctx : Ctx} {st : Station} {ac : AcNumber}
    {frame sent : Frame} (h : queueFrameMrr m env ctx st ac frame = .ok sent) :
    sent = { frame with signal := sent.signal, txRates := sent.txRates, flags := sent.flags,
                        duration := sent.duration } := by
  obtain ⟨-, -, -, -, -, -, -, -, rfl⟩ := queueFrameMrr_walk h
  rfl

/-- The one thing `queue_frame` does: it stores the frame the MRR walk returned, with its job
at the delivery time and `src` the sender's client, at the tail of queue `ac` of the sender. -/
theorem queueFrame_spec {m : Medium} {env : TxEnv} {ctx ctx' : Ctx} {k : Nat} {p : FramePtr}
    {frame : Frame} {outs : List Out} (h : queueFrame m env ctx k p frame = .ok (ctx', outs)) :
    ∃ st ac sent, ctx.stations[k]? = some st ∧ frameSelectQueue80211 frame.data = .ok ac ∧
      queueFrameMrr m env ctx st ac frame = .ok sent ∧
      ctx' = { ctx with
        frames := Function.update ctx.frames p
          (some { sent with src := st.client, start := queueTarget ctx ac + sent.duration }),
        sched := ctx.sched ++ [.frame p], stations := ctx.stations.set k (st.enqueue ac p) } ∧
      outs = [.queued p { sent with src := st.client, start := queueTarget ctx ac + sent.duration }
        ac ctx.now] := by
  unfold queueFrame at h
  cases hst : ctx.stations[k]? with
  | none => simp [hst] at h
  | some st =>
      simp only [hst, pure_eq_ok, ok_bind, bind_eq_ok, Except.ok.injEq, Prod.mk.injEq] at h
      obtain ⟨ac, hac, sent, hsent, rfl, rfl⟩ := h
      exact ⟨st, ac, sent, rfl, hac, hsent, rfl, rfl⟩

end Wmediumd
