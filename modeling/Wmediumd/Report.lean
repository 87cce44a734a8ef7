import Wmediumd.Clients
import Wmediumd.Schedule
import Wmediumd.Ack

/-!
# Where a transmit status goes

`_process_messages` binds the sender station to the submitting client only when the station has
no client yet (`if (!sender->client) sender->client = client`), and `queue_frame` records the
station's client as the frame's `src`. The transmit status of the frame is written to that
`src`, and `wmediumd_remove_client` cancels queued frames by their `src`. A frame that one
client submits for a station another client bound first is reported to, and cancelled with,
the client that bound the station.
-/

namespace Wmediumd

theorem Changes.nextFrame_le {ctx ctx' : Ctx} {outs : List Out} {gone : FramePtr → Bool}
    (h : Changes ctx ctx' outs gone) : ctx.nextFrame ≤ ctx'.nextFrame := by
  rcases h with ⟨hr, -⟩ | ⟨mid, k, ac, f, rest, ha, hr, -⟩
  · exact Nat.le_of_eq hr.nextFrame.symm
  · rw [hr.nextFrame, ha.nextFrame]
    exact Nat.le_succ _

/-- A frame queued after a step was queued before it and kept, or is the fresh one. -/
theorem Evolves.queued {ctx ctx' : Ctx} {gone : FramePtr → Bool} (h : Evolves ctx ctx' gone)
    {q : FramePtr} (hq : ctx'.Queued q) : (ctx.Queued q ∧ gone q = false) ∨ q = ctx.nextFrame := by
  obtain ⟨k, ac, hq⟩ := hq
  obtain ⟨new, hnew, hn⟩ := h.queue k ac
  rw [hnew] at hq
  rcases List.mem_append.1 hq with hq | hq
  · obtain ⟨hq, hg⟩ := List.mem_filter.1 hq
    exact .inl ⟨⟨k, ac, hq⟩, by simpa using hg⟩
  · rcases hn with rfl | rfl
    · cases hq
    · exact .inr (List.mem_singleton.1 hq)

/-- The `src` `_process_messages` records for a frame of client `client`: the sender station's
client, or `client` when the station had none. -/
theorem processMessages_src {m : Medium} {env : TxEnv} {ctx ctx' : Ctx} {msg : NlMsg}
    {client : ClientPtr} {outs : List Out}
    (h : processMessages m env ctx msg client = .ok (ctx', outs)) :
    ∀ p f ac n, Out.queued p f ac n ∈ outs →
      ∃ st, ctx.stations[f.sender]? = some st ∧ f.src = some (st.client.getD client) := by
  rcases processMessages_queued h with ⟨-, rfl⟩ | ⟨k, st, hw, ac, f, hst, -, hs, -, hsrc, -, -, rfl⟩
  · exact fun _ _ _ _ h => by cases h
  · intro p f' ac' n h
    simp only [List.mem_singleton, Out.queued.injEq] at h
    obtain ⟨-, rfl, -⟩ := h
    exact ⟨st, hs ▸ hst, hsrc⟩

/-- `wmediumd_remove_client` cancels exactly the queued frames whose `src` is the client. -/
theorem wmediumdRemoveClient_cancelled {ctx ctx' : Ctx} {c : ClientPtr} {outs : List Out}
    (h : wmediumdRemoveClient ctx c = .ok (ctx', outs)) (q : FramePtr) :
    Out.cancelled q ∈ outs ↔ ctx.Queued q ∧ ∃ f, ctx.frames q = some f ∧ f.src = some c := by
  obtain ⟨-, rfl⟩ := wmediumdRemoveClient_removes h
  simp only [List.mem_map, Out.cancelled.injEq, exists_eq_right, removedFrames, List.mem_filter,
    mem_queuedFrames, fromClient]
  cases ctx.frames q <;> simp [Ctx.Queued, Ctx.queue]

/-- Every frame the log records as queued was allocated, and while it stays queued the heap
holds the record logged for it; every transmit status the log shows was for an allocated frame
and went to the `src` of the record logged for that frame, with its cookie. -/
structure Routed (log : List Out) (ctx : Ctx) : Prop where
  recorded : ∀ p f ac n, Out.queued p f ac n ∈ log →
    p < ctx.nextFrame ∧ (ctx.Queued p → ctx.frames p = some f)
  status_allocated : ∀ p c r, Out.txStatus p c r ∈ log → p < ctx.nextFrame
  reported : ∀ p f ac n c r, Out.queued p f ac n ∈ log → Out.txStatus p c r ∈ log →
    f.src = some c ∧ r.cookie = f.cookie

theorem Routed.step {m : Medium} {log : List Out} {ctx ctx' : Ctx} {input : Input}
    {outs : List Out} (hq : QueueInv ctx) (hi : ClientInv ctx) (hr : RegInv log ctx)
    (ht : Routed log ctx) (hs : Step m ctx input outs ctx') : Routed (log ++ outs) ctx' := by
  obtain ⟨gone, hc, -⟩ := step_changes hq hs
  have hev := hc.evolves hq
  have hstatus := (clientStep hq hi hr hs).addressed.status
  have hnext := hc.nextFrame_le
  have hnew : ∀ p f ac n, Out.queued p f ac n ∈ outs →
      p = ctx.nextFrame ∧ p < ctx'.nextFrame ∧ (ctx'.Queued p → ctx'.frames p = some f) := by
    intro p f ac n ho
    obtain ⟨l, hl⟩ := List.mem_iff_getElem?.1 ho
    obtain ⟨-, rfl, -, mid, rest, ha, hrm, -⟩ := hc.queued_entry hl
    refine ⟨rfl, by rw [hrm.nextFrame, ha.nextFrame]; exact Nat.lt_succ_self _, fun hq' => ?_⟩
    rw [hrm.frames _ ((hrm.queued_iff _).1 hq').2, ha.frames, Function.update_same]
  refine ⟨fun p f ac n hp => ?_, fun p c r hp => ?_, fun p f ac n c r hp hp' => ?_⟩
  · rcases List.mem_append.1 hp with hp | hp
    · obtain ⟨hlt, hf⟩ := ht.recorded p f ac n hp
      refine ⟨Nat.lt_of_lt_of_le hlt hnext, fun hq' => ?_⟩
      rcases hev.queued hq' with ⟨hq₀, hg⟩ | rfl
      · rw [(hev.kept p hq₀ hg).1]
        exact hf hq₀
      · exact absurd hlt (Nat.lt_irrefl _)
    · exact (hnew p f ac n hp).2
  · rcases List.mem_append.1 hp with hp | hp
    · exact Nat.lt_of_lt_of_le (ht.status_allocated p c r hp) hnext
    · obtain ⟨f, hqp, -⟩ := hstatus p c r hp
      exact Nat.lt_of_lt_of_le (hq.lt_nextFrame hqp) hnext
  · rcases List.mem_append.1 hp with hp | hp <;> rcases List.mem_append.1 hp' with hp' | hp'
    · exact ht.reported p f ac n c r hp hp'
    · obtain ⟨f', hqp, hf', hsrc, hcookie⟩ := hstatus p c r hp'
      obtain rfl := Option.some.inj (((ht.recorded p f ac n hp).2 hqp).symm.trans hf')
      exact ⟨hsrc, hcookie⟩
    · obtain ⟨rfl, -⟩ := hnew p f ac n hp
      exact absurd (ht.status_allocated _ c r hp') (Nat.lt_irrefl _)
    · obtain ⟨rfl, -⟩ := hnew p f ac n hp
      obtain ⟨f', hqp, -⟩ := hstatus _ c r hp'
      exact absurd (hq.lt_nextFrame hqp) (Nat.lt_irrefl _)

theorem run_routed {m : Medium} {ids : List MacAddr} {interference useNetlink : Bool}
    {log : List Out} {ctx : Ctx} (hrun : Run m (initCtx ids interference useNetlink) log ctx) :
    Routed log ctx := by
  induction hrun with
  | refl => exact ⟨fun _ _ _ _ h => (List.not_mem_nil _ h).elim,
      fun _ _ _ h => (List.not_mem_nil _ h).elim, fun _ _ _ _ _ _ h => (List.not_mem_nil _ h).elim⟩
  | step hrun' hs ih =>
      obtain ⟨hq, hi, hr⟩ := run_clientInv hrun'
      exact ih.step hq hi hr hs

/-- Along every run, the transmit status of every frame goes to the `src` recorded when the frame
was queued, with its cookie; `_process_messages` records as `src` the client the sender station
is bound to, binding it to the submitting client only if it had none; and
`wmediumd_remove_client` cancels exactly the queued frames whose `src` is the client. -/
theorem tx_status_to_bound_client {m : Medium} {ids : List MacAddr}
    {interference useNetlink : Bool} {log : List Out} {ctx : Ctx}
    (hrun : Run m (initCtx ids interference useNetlink) log ctx) :
    (∀ p f ac n c r, Out.queued p f ac n ∈ log → Out.txStatus p c r ∈ log →
      f.src = some c ∧ r.cookie = f.cookie) ∧
    (∀ env msg client ctx' outs, processMessages m env ctx msg client = .ok (ctx', outs) →
      ∀ p f ac n, Out.queued p f ac n ∈ outs →
        ∃ st, ctx.stations[f.sender]? = some st ∧ f.src = some (st.client.getD client)) ∧
    (∀ c ctx' outs, wmediumdRemoveClient ctx c = .ok (ctx', outs) → ∀ q,
      Out.cancelled q ∈ outs ↔ ctx.Queued q ∧ ∃ f, ctx.frames q = some f ∧ f.src = some c) :=
  ⟨(run_routed hrun).reported, fun _ _ _ _ _ h => processMessages_src h,
    fun _ _ _ h => wmediumdRemoveClient_cancelled h⟩

/-- The routing along `sample_run`: the statuses of frames 0 and 2 go to the kernel, which
bound `addrA`, and the disconnection of client 1 cancelled frame 1, which it had submitted. -/
theorem tx_status_to_bound_client_sample :
    ∃ log ctx, Run perfectMedium (initCtx [addrA, addrB] false true) log ctx ∧
      Out.cancelled 1 ∈ log ∧
      (∀ p f ac n c r, Out.queued p f ac n ∈ log → Out.txStatus p c r ∈ log →
        f.src = some c ∧ r.cookie = f.cookie) ∧
      (∀ env msg client ctx' outs, processMessages perfectMedium env ctx msg client = .ok (ctx', outs) →
        ∀ p f ac n, Out.queued p f ac n ∈ outs →
          ∃ st, ctx.stations[f.sender]? = some st ∧ f.src = some (st.client.getD client)) ∧
      (∀ c ctx' outs, wmediumdRemoveClient ctx c = .ok (ctx', outs) → ∀ q,
        Out.cancelled q ∈ outs ↔ ctx.Queued q ∧ ∃ f, ctx.frames q = some f ∧ f.src = some c) := by
  obtain ⟨_, _, _, _, _, _, _, _, _, _, _, _, ctx, hrun, -⟩ := sample_run
  exact ⟨_, ctx, hrun, by simp, tx_status_to_bound_client hrun⟩

/-! ## Two clients, one station

The kernel (client 0) submits a frame from `addrA` and so binds `addrA`; a vhost-user client
(client 1) then submits another frame from `addrA`. Both frames carry an empty rate table, so
both start at once.
-/

/-- A data frame from `addrA` to `addrB` with no rate table and no flags. -/
def frameFromA : NlMsg := frameMessage addrA (shortHeader 0x08 0 addrB addrA) [] [0, 0, 0, 0]

/-- Frame 1 is submitted by client 1, but its transmit status goes to client 0, and when
client 1 disconnects, frame 1 stays queued and nothing is cancelled. -/
theorem tx_status_to_binder_not_submitter :
    ∃ ctx₁ ctx₂ f₀ ac₀ ctx₃ f₁ ac₁,
      Step perfectMedium (initCtx [addrA, addrB] false true) .vhostUserConnected [] ctx₁ ∧
      Step perfectMedium ctx₁ (.netlinkMessage frameFromA (txDraws 0)) [.queued 0 f₀ ac₀ 0] ctx₂ ∧
      Step perfectMedium ctx₂ (.vhostUserMessage 1 (some frameFromA) (txDraws 0))
        [.queued 1 f₁ ac₁ 0] ctx₃ ∧
      (∃ r ctx₄, Step perfectMedium ctx₃ (.jobFired (.frame 1) rxQuiet) [.txStatus 1 0 r] ctx₄) ∧
      ∃ ctx₄, Step perfectMedium ctx₃ (.vhostUserDisconnected 1) [] ctx₄ ∧ ctx₄.Queued 1 := by
  refine ⟨_, _, _, _, _, _, _, ⟨trivial, rfl⟩, ⟨rfl, rfl⟩, ⟨⟨true, rfl⟩, rfl⟩,
    ⟨_, _, ⟨?_, rfl⟩, rfl⟩, _, ⟨⟨true, rfl⟩, rfl⟩, 0, 2, ?_⟩
  · decide
  · decide

end Wmediumd
