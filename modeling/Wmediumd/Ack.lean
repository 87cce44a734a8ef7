import Wmediumd.QueueInvariant

/-!
# Acknowledged frames and their receivers

`wmediumd_deliver_frame` fans a frame out only when its flags carry `HWSIM_TX_STAT_ACK`. A
unicast frame then reaches every station with its `addr1` other than the sender, unless
`set_interference_duration` records it instead: with interference on, a frame whose signal is
below `CCA_THRESHOLD` only adds to the interference matrix. `queue_frame` decides the ACK without
looking at the signal, so an acknowledged frame can reach nobody.

`queue_frame` only ever sets the ACK bit; the flags a client submits are kept, so a frame whose
walk made no attempt at all is still fanned out and reported acknowledged.
-/

namespace Wmediumd

section FanOut

variable {m : Medium} {env : RxEnv} {ctx : Ctx} {p : FramePtr} {frame : Frame} {sender : Station}
  {dest : MacAddr}

theorem deliverTo_fst_isSome (acc : Option (Nat → IntfInfo) × List Out) (k : Nat) (st : Station) :
    (deliverTo m env ctx p frame sender dest acc k st).1.isSome = acc.1.isSome := by
  obtain ⟨signal, h⟩ := @deliverTo_cases m env ctx p frame sender dest acc k st
  simp only [List.mem_cons, List.mem_singleton, List.not_mem_nil, or_false] at h
  rcases h with h | h | h <;> rw [h]
  all_goals exact setInterferenceDuration_isSome ..

/-- The receiver loop never takes back a copy it has sent. -/
theorem mem_foldl_deliverTo_of_mem {o : Out} :
    ∀ (l : List (Nat × Station)) (acc : Option (Nat → IntfInfo) × List Out), o ∈ acc.2 →
      o ∈ (l.foldl (fun acc ks => deliverTo m env ctx p frame sender dest acc ks.1 ks.2) acc).2 := by
  intro l
  induction l with
  | nil => exact fun _ h => h
  | cons ks l ih =>
      intro acc h
      refine ih _ ?_
      rcases @deliverTo_snd m env ctx p frame sender dest acc ks.1 ks.2 with h' | h' <;> rw [h']
      · exact h
      · exact List.mem_append_left _ h

/-- A copy that the pass at station `k` sends whenever interference is on exactly when the loop
started with it on is among the copies of the whole loop. -/
theorem mem_foldl_deliverTo {o : Out} {k : Nat} {st : Station} {b : Bool}
    (hsend : ∀ acc : Option (Nat → IntfInfo) × List Out, acc.1.isSome = b →
      o ∈ (deliverTo m env ctx p frame sender dest acc k st).2) :
    ∀ (l : List (Nat × Station)) (acc : Option (Nat → IntfInfo) × List Out), acc.1.isSome = b →
      (k, st) ∈ l →
      o ∈ (l.foldl (fun acc ks => deliverTo m env ctx p frame sender dest acc ks.1 ks.2) acc).2 := by
  intro l
  induction l with
  | nil => exact fun _ _ h => by cases h
  | cons ks l ih =>
      intro acc hb hks
      rcases List.mem_cons.1 hks with rfl | hks
      · exact mem_foldl_deliverTo_of_mem l _ (hsend acc hb)
      · exact ih _ (by rw [deliverTo_fst_isSome, hb]) hks

/-- An acknowledged unicast frame is copied to every station with its destination address,
unless it comes from that address or interference is on and its signal is below the CCA
threshold. -/
theorem mem_deliverFanOut {k : Nat} {st : Station} (hack : frame.flags &&& hwsimTxStatAck ≠ 0)
    (hmc : isMulticastEtherAddr dest = false) (hne : sender.addr ≠ dest)
    (hint : ctx.intf.isSome → ccaThreshold ≤ frame.signal) (hk : ctx.stations[k]? = some st)
    (hst : st.addr = dest) :
    sendClonedFrameMsg ctx p k st frame.data frame.freq ∈
      (deliverFanOut m env ctx p frame sender dest).2 := by
  subst hst
  have hrec : ∀ intf : Option (Nat → IntfInfo), intf.isSome = ctx.intf.isSome →
      (setInterferenceDuration ctx.stations.length intf sender.index frame.duration
        frame.signal).2 = false := fun intf hi => by
    cases h : ctx.intf.isSome
    · simp [hi, h]
    · simp [hi, h, Int.not_lt.2 (hint h)]
  unfold deliverFanOut
  rw [if_pos hack]
  have hks : ctx.stations.enum[k]? = some (k, st) := by simp [List.getElem?_enum, hk]
  refine mem_foldl_deliverTo (fun acc hacc => ?_) _ _ rfl (List.getElem?_mem hks)
  simp only [deliverTo, hne, if_false, hmc, Bool.false_eq_true, if_true, hrec acc.1 hacc]
  simp

/-- Below the CCA threshold with interference on, the receiver loop of a unicast frame from
another address sends nothing and records the frame once for each station with its destination
address. -/
theorem foldl_deliverTo_below_cca (hmc : isMulticastEtherAddr dest = false)
    (hne : sender.addr ≠ dest) (hsig : frame.signal < ccaThreshold) :
    ∀ (l : List (Nat × Station)) (intf : Option (Nat → IntfInfo)), intf.isSome →
      l.foldl (fun acc ks => deliverTo m env ctx p frame sender dest acc ks.1 ks.2) (intf, []) =
        ((fun i => (setInterferenceDuration ctx.stations.length i sender.index frame.duration
          frame.signal).1)^[l.countP fun ks => ks.2.addr = dest] intf, []) := by
  intro l
  induction l with
  | nil => exact fun _ _ => rfl
  | cons ks l ih =>
      intro intf hi
      rw [List.foldl_cons, List.countP_cons]
      by_cases hd : ks.2.addr = dest
      · have hstep : deliverTo m env ctx p frame sender dest (intf, []) ks.1 ks.2 =
            ((setInterferenceDuration ctx.stations.length intf sender.index frame.duration
              frame.signal).1, []) := by
          simp [deliverTo, hne, hmc, hd, hi, hsig]
        rw [hstep, ih _ (by simpa using hi), if_pos (decide_eq_true hd),
          Function.iterate_succ_apply]
      · have hstep : deliverTo m env ctx p frame sender dest (intf, []) ks.1 ks.2 = (intf, []) := by
          simp [deliverTo, hmc, Ne.symm hd]
        rw [hstep, ih _ hi, if_neg (by simpa using hd), Nat.add_zero]

end FanOut

/-- The stations of a list with address `dest`, counted along its enumeration. -/
theorem countP_enum_addr (l : List Station) (dest : MacAddr) :
    (l.enum.countP fun ks => ks.2.addr = dest) = l.countP fun st => st.addr = dest := by
  conv_rhs => rw [← List.enum_map_snd l]
  rw [List.countP_map]
  rfl

/-- When its job fires, an acknowledged unicast frame whose address is not the sender's reaches
each station with its `addr1`, unless interference is on and its signal is below the CCA
threshold; then it reaches no station, and `set_interference_duration` records it once for each
station with its `addr1`. -/
theorem acked_unicast_delivered {m : Medium} {ctx ctx' : Ctx} {env : RxEnv} {p : FramePtr}
    {outs : List Out} {f : Frame} {dest : MacAddr} {sender : Station}
    (hs : Step m ctx (.jobFired (.frame p) env) outs ctx') (hf : ctx.frames p = some f)
    (hack : f.flags &&& hwsimTxStatAck ≠ 0) (hdest : frameAddr f.data 4 = .ok dest)
    (hmc : isMulticastEtherAddr dest = false)
    (hsd : ctx.stations[f.sender]? = some sender) (hne : sender.addr ≠ dest) :
    ((ctx.intf.isSome → ccaThreshold ≤ f.signal) →
      ∀ k st, ctx.stations[k]? = some st → st.addr = dest →
        ∃ rs, Out.rx p k ⟨st.hwaddr, f.data, 1, f.freq, -50⟩ rs ∈ outs) ∧
    (ctx.intf.isSome → f.signal < ccaThreshold →
      (∀ o ∈ outs, ∃ c r, o = .txStatus p c r) ∧
      ctx'.intf = (fun intf => (setInterferenceDuration ctx.stations.length intf sender.index
        f.duration f.signal).1)^[ctx.stations.countP fun st => st.addr = dest] ctx.intf) := by
  let ctx₁ : Ctx := { ctx with sched := ctx.sched.erase (.frame p) }
  let ctx₂ : Ctx := { ctx₁ with stations := ctx₁.stations.map (·.unlink p) }
  obtain ⟨hintf, client, report, houts⟩ := wmediumdDeliverFrame_fanOut
    (show wmediumdDeliverFrame m env ctx₁ p = .ok (ctx', outs) from hs.2) hf hsd hdest
  refine ⟨fun hint k st hk hst => ?_, fun hon hsig => ?_⟩
  · have hk₂ : ctx₂.stations[k]? = some (st.unlink p) := by simp [ctx₂, ctx₁, hk]
    have hmem := @mem_deliverFanOut m env ctx₂ p f sender dest k (st.unlink p) hack hmc hne hint
      hk₂ (by simpa using hst)
    exact ⟨_, houts ▸ List.mem_append_left _ hmem⟩
  · have hfan : deliverFanOut m env ctx₂ p f sender dest =
        ((fun intf => (setInterferenceDuration ctx.stations.length intf sender.index f.duration
          f.signal).1)^[ctx.stations.countP fun st => st.addr = dest] ctx.intf, []) := by
      rw [deliverFanOut, if_pos hack, foldl_deliverTo_below_cca hmc hne hsig _ _ hon,
        countP_enum_addr]
      simp [ctx₂, ctx₁, List.countP_map, Function.comp_def]
    rw [hfan] at hintf houts
    refine ⟨fun o ho => ?_, hintf⟩
    rw [houts, List.nil_append, List.mem_singleton] at ho
    exact ⟨client, report, ho⟩

/-! ## Sample runs

Two stations `addrA` and `addrB` on links that lose nothing (an all-zero error-probability
matrix), every rate index at 1 Mb/s, and `drand48()` always drawing 1/2. `addrA` sends `addrB` a
data frame with one MRR row of one attempt (`TX_INFO` bytes `[0, 1]`).
-/

/-- With interference off the delivery copies the frame to `addrB`. With interference on and a
fading of -30 dB it copies it to no station, and records its airtime once, for `addrB`. -/
theorem acked_unicast_delivered_sample :
    (∃ ctx₁ f ac ctx₂,
      Step perfectMedium (initCtx [addrA, addrB] false true)
        (.netlinkMessage (dataFrame addrA addrB) (txDraws 0)) [.queued 0 f ac 0] ctx₁ ∧
      Step perfectMedium ctx₁ (.timePasses f.start) [] ctx₂ ∧
      ∃ outs ctx₃, Step perfectMedium ctx₂ (.jobFired (.frame 0) rxQuiet) outs ctx₃ ∧
        ∃ rs, Out.rx 0 1 ⟨addrB, f.data, 1, f.freq, -50⟩ rs ∈ outs) ∧
    (∃ ctx₁ f ac ctx₂ sender,
      Step perfectMedium (initCtx [addrA, addrB] true true)
        (.netlinkMessage (dataFrame addrA addrB) (txDraws (-30))) [.queued 0 f ac 0] ctx₁ ∧
      Step perfectMedium ctx₁ (.timePasses f.start) [] ctx₂ ∧ ctx₂.stations[0]? = some sender ∧
      ∃ outs ctx₃, Step perfectMedium ctx₂ (.jobFired (.frame 0) rxQuiet) outs ctx₃ ∧
        (∀ o ∈ outs, ∃ c r, o = .txStatus 0 c r) ∧
        ctx₃.intf = (setInterferenceDuration 2 ctx₂.intf sender.index f.duration f.signal).1) := by
  refine ⟨⟨_, _, _, _, ⟨rfl, rfl⟩, ⟨Nat.zero_le _, rfl⟩, ?_⟩,
    ⟨_, _, _, _, _, ⟨rfl, rfl⟩, ⟨Nat.zero_le _, rfl⟩, rfl, ?_⟩⟩
  · exact (fun hs => ⟨_, _, hs, (acked_unicast_delivered hs rfl (by decide) rfl rfl rfl
      (by decide)).1 (by decide) 1 _ rfl rfl⟩) ⟨⟨by decide, rfl⟩, rfl⟩
  · exact (fun hs => ⟨_, _, hs,
      (acked_unicast_delivered hs rfl (by decide) rfl rfl rfl (by decide)).2 rfl (by decide)⟩)
      ⟨⟨by decide, rfl⟩, rfl⟩

/-- With interference on and a fading of -30 dB the same frame is acknowledged by `queue_frame`,
but its signal of -91 dBm is below the CCA threshold: its delivery only records interference
and sends nothing but the transmit status. -/
theorem acked_unicast_below_cca_unreceived :
    ∃ ctx₁ f ac ctx₂ outs ctx₃,
      Step perfectMedium (initCtx [addrA, addrB] true true)
        (.netlinkMessage (frameMessage addrA (shortHeader 0x08 0 addrB addrA) [0, 1] [0, 0, 0, 0])
          (txDraws (-30))) [.queued 0 f ac 0] ctx₁ ∧
      Step perfectMedium ctx₁ (.timePasses f.start) [] ctx₂ ∧
      Step perfectMedium ctx₂ (.jobFired (.frame 0) rxQuiet) outs ctx₃ ∧
      f.flags &&& hwsimTxStatAck ≠ 0 ∧ frameIsMgmt f.data = .ok false ∧
      frameAddr f.data 4 = .ok addrB ∧ isMulticastEtherAddr addrB = false ∧
      outs.all (Out.isTxStatusOf 0) = true := by
  refine ⟨_, _, _, _, _, _, ⟨rfl, rfl⟩, ⟨Nat.zero_le _, rfl⟩, ⟨⟨?_, rfl⟩, rfl⟩, ?_, rfl, rfl, rfl,
    ?_⟩
  · decide
  · decide
  · decide

/-- A client that submits `HWSIM_TX_STAT_ACK` in the flags of a frame with an empty rate table:
the walk makes no attempt, yet the frame is copied to `addrB` and reported acknowledged. -/
theorem client_ack_without_attempt :
    ∃ ctx₁ f ac ctx₂ outs,
      Step perfectMedium (initCtx [addrA, addrB] false true)
        (.netlinkMessage (frameMessage addrA (shortHeader 0x08 0 addrB addrA) [] [4, 0, 0, 0])
          (txDraws 0)) [.queued 0 f ac 0] ctx₁ ∧ f.txRatesCount = 0 ∧
      Step perfectMedium ctx₁ (.jobFired (.frame 0) rxQuiet) outs ctx₂ ∧
      (∃ msg rs, Out.rx 0 1 msg rs ∈ outs) ∧
      ∃ c r, Out.txStatus 0 c r ∈ outs ∧ r.flags = hwsimTxStatAck := by
  refine ⟨_, _, _, _, _, ⟨rfl, rfl⟩, rfl, ⟨⟨?_, rfl⟩, rfl⟩, ⟨_, _, List.mem_cons_self _ _⟩,
    _, _, List.mem_cons_of_mem _ (List.mem_singleton_self _), ?_⟩
  · decide
  · decide

end Wmediumd
