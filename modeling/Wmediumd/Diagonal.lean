import Wmediumd.Interference

/-!
# The diagonal of the link matrices

`get_link_snr_from_snr_matrix` reads `snr_matrix[sender * N + receiver]` and
`get_error_prob_from_matrix` reads `error_prob_matrix[N * src + dst]`; the entries whose two
stations are the same are the diagonal. The receiver loop of `wmediumd_deliver_frame` skips every
station with the sender's address, so delivery never reads it. `queue_frame` reads the link to
the station it finds at `addr1`: a unicast frame whose `addr1` is found at its own sender reads
that station's diagonal entry, and its signal follows the entry.

The results compare two media that agree everywhere but on the diagonal: from every reachable
state, a step that does not submit such a frame is a step of both or of neither.
-/

namespace Wmediumd

/-- The two link models are of one kind and agree on every entry `(i, j)`, `i ≠ j`, of an
`n × n` matrix, each at the offset its reader uses. -/
def LinkModel.OffDiagEq (n : Nat) : LinkModel → LinkModel → Prop
  | .snrMatrix snr, .snrMatrix snr' =>
      ∀ i < n, ∀ j < n, i ≠ j → snr (i * n + j) = snr' (i * n + j)
  | .errorProbMatrix e, .errorProbMatrix e' =>
      ∀ i < n, ∀ j < n, i ≠ j → e (n * i + j) = e' (n * i + j)
  | _, _ => False

/-- Two media that differ at most on the diagonal of their link matrix. -/
structure Medium.OffDiagEq (n : Nat) (m m' : Medium) : Prop where
  link : LinkModel.OffDiagEq n m.link m'.link
  indexToRate : m.indexToRate = m'.indexToRate
  errorProbFromSnr : m.errorProbFromSnr = m'.errorProbFromSnr

section Readers

variable {n : Nat} {m m' : Medium}

theorem useFixedRandomValue_congr (hm : Medium.OffDiagEq n m m') :
    useFixedRandomValue m = useFixedRandomValue m' := by
  have h := hm.link
  unfold useFixedRandomValue
  revert h
  cases m.link <;> cases m'.link <;> simp only [LinkModel.OffDiagEq, false_implies, implies_true]

theorem getLinkSnr_congr (hm : Medium.OffDiagEq n m m') {sender receiver : Station}
    (hs : sender.index < n) (hr : receiver.index < n) (hne : sender.index ≠ receiver.index) :
    getLinkSnr m n sender receiver = getLinkSnr m' n sender receiver := by
  have h := hm.link
  unfold getLinkSnr
  revert h
  cases m.link <;> cases m'.link <;> simp only [LinkModel.OffDiagEq, false_implies, implies_true]
  exact fun h => h _ hs _ hr hne

/-- `ctx->get_error_prob` reads no diagonal entry when the destination, if any, is another
station. -/
theorem getErrorProb_congr (hm : Medium.OffDiagEq n m m') {src : Station} {dst : Option Station}
    (hs : src.index < n) (hd : ∀ d ∈ dst, d.index < n ∧ src.index ≠ d.index)
    (snr rateIdx : Int) (freq : UInt32) (len : Nat) :
    getErrorProb m n snr rateIdx freq len src dst =
      getErrorProb m' n snr rateIdx freq len src dst := by
  have h := hm.link
  unfold getErrorProb
  revert h
  cases m.link <;> cases m'.link <;>
    simp only [LinkModel.OffDiagEq, false_implies, hm.errorProbFromSnr, implies_true]
  intro h
  cases dst with
  | none => rfl
  | some d => exact h _ hs _ (hd d rfl).1 (hd d rfl).2

end Readers

/-- Station `k` of the list has index `k`: `main` numbers the stations in the order of
`ifaces.ids`, and no handler renumbers them. -/
def IndexedStations (stations : List Station) : Prop :=
  ∀ (k : Nat) (st : Station), stations[k]? = some st → st.index = k

theorem IndexedStations.of_shape {l l' : List Station} (hl : IndexedStations l)
    (h : l'.map Station.shape = l.map Station.shape) : IndexedStations l' := by
  intro k st hk
  have hk' := congrArg (·[k]?) h
  simp only [List.getElem?_map, hk, Option.map_some'] at hk'
  obtain ⟨st', hst', hs⟩ := Option.map_eq_some'.1 hk'.symm
  rw [← hl k st' hst']
  exact (congrArg Prod.fst hs).symm

theorem reachable_indexed {m : Medium} {ids : List MacAddr} {interference useNetlink : Bool}
    {ctx : Ctx} (hr : Reachable m ids interference useNetlink ctx) :
    IndexedStations ctx.stations := by
  obtain ⟨log, hrun⟩ := hr
  refine IndexedStations.of_shape ?_ (run_shape hrun)
  intro k st hk
  simp only [initCtx, List.getElem?_map, List.getElem?_enum, Option.map_map,
    Option.map_eq_some'] at hk
  obtain ⟨a, -, rfl⟩ := hk
  rfl

theorem map_addr_of_shape {l l' : List Station} (h : l'.map Station.shape = l.map Station.shape) :
    l'.map Station.addr = l.map Station.addr := by
  simpa [Function.comp_def, Station.shape] using congrArg (List.map fun s => s.2.1) h

theorem IndexedStations.map_unlink {l : List Station} (hl : IndexedStations l) (p : FramePtr) :
    IndexedStations (l.map (·.unlink p)) :=
  hl.of_shape (by simp [Function.comp_def])

/-! ## Delivery -/

section Delivery

variable {m m' : Medium} {env : RxEnv} {ctx : Ctx} {p : FramePtr} {frame : Frame}
  {sender : Station} {dest : MacAddr}

/-- One pass of the receiver loop reads only the link from the sender to a station of another
address. -/
theorem deliverTo_congr (hm : Medium.OffDiagEq ctx.stations.length m m') {station : Station}
    (hs : sender.index < ctx.stations.length) (hst : station.index < ctx.stations.length)
    (hne : sender.addr ≠ station.addr → sender.index ≠ station.index)
    (acc : Option (Nat → IntfInfo) × List Out) (k : Nat) :
    deliverTo m env ctx p frame sender dest acc k station =
      deliverTo m' env ctx p frame sender dest acc k station := by
  unfold deliverTo
  by_cases ha : sender.addr = station.addr
  · simp only [if_pos ha]
  · have hi := hne ha
    have hd : ∀ d ∈ some station, d.index < ctx.stations.length ∧ sender.index ≠ d.index := by
      simpa using And.intro hst hi
    simp only [if_neg ha, getLinkSnr_congr hm hs hst hi, getErrorProb_congr hm hs hd]

/-- The receiver loop, when the station at the sender's index has the sender's address. -/
theorem deliverFanOut_congr (hm : Medium.OffDiagEq ctx.stations.length m m')
    (hix : IndexedStations ctx.stations)
    (hsend : ∃ st, ctx.stations[sender.index]? = some st ∧ st.addr = sender.addr) :
    deliverFanOut m env ctx p frame sender dest = deliverFanOut m' env ctx p frame sender dest := by
  obtain ⟨st₀, hst₀, haddr⟩ := hsend
  unfold deliverFanOut
  by_cases hack : frame.flags &&& hwsimTxStatAck ≠ 0
  · simp only [if_pos hack]
    refine List.foldl_ext _ _ _ fun acc ks hmem => ?_
    have hk := List.mem_enum_iff_getElem?.1 hmem
    have hlt := fun k (st : Station) (h : ctx.stations[k]? = some st) =>
      (hix k st h).symm ▸ (List.getElem?_eq_some_iff.1 h).1
    refine deliverTo_congr hm (List.getElem?_eq_some_iff.1 hst₀).1 (hlt _ _ hk)
      (fun ha hi => ha ?_) _ _
    rw [hix _ _ hk] at hi
    rw [hi, hk] at hst₀
    cases hst₀
    exact haddr.symm
  · simp only [if_neg hack]

/-- `wmediumd_deliver_frame` reads no diagonal entry, in every state whose stations sit at their
own index. -/
theorem wmediumdDeliverFrame_congr (hm : Medium.OffDiagEq ctx.stations.length m m')
    (hix : IndexedStations ctx.stations) (env : RxEnv) (p : FramePtr) :
    wmediumdDeliverFrame m env ctx p = wmediumdDeliverFrame m' env ctx p := by
  unfold wmediumdDeliverFrame
  cases hf : ctx.frames p with
  | none => rfl
  | some frame =>
      dsimp only
      cases hsend : ctx.stations[frame.sender]? with
      | none => rfl
      | some sender =>
          have hsend' : ∃ st, (ctx.stations.map (·.unlink p))[sender.index]? = some st ∧
              st.addr = sender.addr :=
            ⟨sender.unlink p, by simp [hix _ _ hsend, hsend], rfl⟩
          simp only [@deliverFanOut_congr m m' env { ctx with stations := ctx.stations.map (·.unlink p) }
            p frame sender _ (by simpa using hm) (hix.map_unlink p) hsend']

end Delivery

/-! ## Queueing -/

section Queueing

variable {m m' : Medium} {ctx : Ctx} {frame : Frame} {k : Nat}

/-- `queue_frame`'s MRR walk reads the link from its station `k` to the station it finds at
`addr1`, so no diagonal entry unless `addr1` is a unicast address found at `k`. -/
theorem queueFrameMrr_congr (hm : Medium.OffDiagEq ctx.stations.length m m')
    (hix : IndexedStations ctx.stations) {station : Station} (hk : ctx.stations[k]? = some station)
    (hself : ∀ dest, frameAddr frame.data 4 = .ok dest → isMulticastEtherAddr dest = false →
      getStationByAddr ctx.stations dest ≠ some k)
    (env : TxEnv) (ac : AcNumber) :
    queueFrameMrr m env ctx station ac frame = queueFrameMrr m' env ctx station ac frame := by
  have hkn : station.index < ctx.stations.length :=
    hix k station hk ▸ (List.getElem?_eq_some_iff.1 hk).1
  unfold queueFrameMrr
  cases hd : frameAddr frame.data 4 with
  | error e => rfl
  | ok dest =>
      have hdst : ∀ d ∈ queueFrameDeststa ctx dest,
          d.index < ctx.stations.length ∧ station.index ≠ d.index := by
        intro d hd'
        by_cases hmc : isMulticastEtherAddr dest
        · simp [queueFrameDeststa, hmc] at hd'
        · simp only [queueFrameDeststa, hmc, Bool.false_eq_true, if_false, Option.mem_def,
            Option.bind_eq_some] at hd'
          obtain ⟨j, hj, hdj⟩ := hd'
          rw [hix k station hk, hix j d hdj]
          exact ⟨(List.getElem?_eq_some_iff.1 hdj).1,
            fun hkj => hself dest hd (by simpa using hmc) (hkj ▸ hj)⟩
      simp only [ok_bind]
      generalize queueFrameDeststa ctx dest = deststa at hdst ⊢
      cases deststa with
      | none =>
          simp only [queueFrameSnr, hm.indexToRate, useFixedRandomValue_congr hm,
            getErrorProb_congr hm hkn hdst]
      | some d =>
          have hd := hdst d rfl
          simp only [queueFrameSnr, hm.indexToRate, useFixedRandomValue_congr hm,
            getErrorProb_congr hm hkn hdst, getLinkSnr_congr hm hkn hd.1 hd.2]

theorem queueFrame_congr (hm : Medium.OffDiagEq ctx.stations.length m m')
    (hix : IndexedStations ctx.stations)
    (hself : ∀ dest, frameAddr frame.data 4 = .ok dest → isMulticastEtherAddr dest = false →
      getStationByAddr ctx.stations dest ≠ some k)
    (env : TxEnv) (p : FramePtr) :
    queueFrame m env ctx k p frame = queueFrame m' env ctx k p frame := by
  unfold queueFrame
  cases hk : ctx.stations[k]? with
  | none => rfl
  | some station => simp only [pure_bind, queueFrameMrr_congr hm hix hk hself]

/-- The message submits a frame unicast to an `addr1` that `get_station_by_addr` finds at the
same station as its `addr2`: the station that sends it. -/
def NlMsg.SelfAddressed (msg : NlMsg) (stations : List Station) : Prop :=
  msg.cmd = hwsimCmdFrame ∧ ∃ data src dest k, genlmsgParse msg .frame = some data ∧
    frameAddr data 10 = .ok src ∧ frameAddr data 4 = .ok dest ∧
    isMulticastEtherAddr dest = false ∧ getStationByAddr stations src = some k ∧
    getStationByAddr stations dest = some k

theorem processMessages_congr (hm : Medium.OffDiagEq ctx.stations.length m m')
    (hix : IndexedStations ctx.stations) {msg : NlMsg} (hself : ¬ msg.SelfAddressed ctx.stations)
    (env : TxEnv) (c : ClientPtr) :
    processMessages m env ctx msg c = processMessages m' env ctx msg c := by
  unfold processMessages
  by_cases hcmd : msg.cmd = hwsimCmdFrame
  · simp only [if_pos hcmd]
    cases genlmsgParse msg .addrTransmitter with
    | none => rfl
    | some hwaddr =>
        refine bind_congr_of_ok fun data hdata => ?_
        refine bind_congr_of_ok fun _ _ => bind_congr_of_ok fun _ _ =>
          bind_congr_of_ok fun _ _ => ?_
        by_cases hlen : data.length < 6 + 6 + 4
        · simp only [if_pos hlen]
        simp only [if_neg hlen]
        refine bind_congr_of_ok fun src hsrc => ?_
        cases hk : getStationByAddr ctx.stations src with
        | none => rfl
        | some k =>
            dsimp only
            cases hst : ctx.stations[k]? with
            | none => rfl
            | some sender =>
                refine bind_congr_of_ok fun hw _ => ?_
                have hshape := map_shape_set hst (Station.shape_bind sender hw c)
                refine queueFrame_congr (by simpa using hm) (hix.of_shape hshape)
                  (fun dest hd hmc hdk => hself
                    ⟨hcmd, data, src, dest, k, nlaPayload_eq_ok.1 hdata, hsrc, hd, hmc, hk, ?_⟩) _ _
                rwa [getStationByAddr_congr (map_addr_of_shape hshape)] at hdk
  · simp only [if_neg hcmd]

theorem apiDispatch_congr (hm : Medium.OffDiagEq ctx.stations.length m m')
    (hix : IndexedStations ctx.stations) {req : ApiRequest}
    (hself : ∀ msg, req = .netlink (some msg) → ¬ msg.SelfAddressed ctx.stations)
    (env : TxEnv) (c : ClientPtr) (client : Client) :
    apiDispatch m env ctx c client req = apiDispatch m' env ctx c client req := by
  cases req with
  | netlink msg =>
      cases msg with
      | none => rfl
      | some msg => simp only [apiDispatch, processMessages_congr hm hix (hself msg rfl)]
  | _ => rfl

theorem wmediumdApiHandler_congr (hm : Medium.OffDiagEq ctx.stations.length m m')
    (hix : IndexedStations ctx.stations) {read : ApiRead}
    (hself : ∀ msg, read = .request (.netlink (some msg)) → ¬ msg.SelfAddressed ctx.stations)
    (env : TxEnv) (c : ClientPtr) (written : Bool) :
    wmediumdApiHandler m env ctx c read written = wmediumdApiHandler m' env ctx c read written := by
  unfold wmediumdApiHandler
  cases ctx.clientHeap c with
  | none => rfl
  | some client =>
      cases read with
      | failed => rfl
      | request req =>
          simp only [apiDispatch_congr hm hix (fun msg h => hself msg (h ▸ rfl))]

end Queueing

/-! ## Steps -/

/-- The input hands `_process_messages` a self-addressed frame, from the kernel, a vhost-user
client or an API client. -/
def Input.SelfAddressed (stations : List Station) : Input → Prop
  | .netlinkMessage msg _ => msg.SelfAddressed stations
  | .vhostUserMessage _ (some msg) _ => msg.SelfAddressed stations
  | .apiMessage _ (.request (.netlink (some msg))) _ _ => msg.SelfAddressed stations
  | _ => False

theorem wmediumdStep_congr {m m' : Medium} {ctx : Ctx}
    (hm : Medium.OffDiagEq ctx.stations.length m m') (hix : IndexedStations ctx.stations)
    {input : Input} (hself : ¬ input.SelfAddressed ctx.stations) :
    wmediumdStep m ctx input = wmediumdStep m' ctx input := by
  cases input with
  | netlinkMessage msg env =>
      unfold wmediumdStep
      cases ctx.nlClient with
      | none => rfl
      | some c => exact processMessages_congr hm hix hself env c
  | vhostUserMessage c msg env =>
      cases msg with
      | none => rfl
      | some msg => exact processMessages_congr hm hix hself env c
  | apiMessage c read written env =>
      exact wmediumdApiHandler_congr hm hix (fun msg h => by subst h; exact hself) env c written
  | jobFired j env =>
      cases j with
      | frame p =>
          exact @wmediumdDeliverFrame_congr m m' { ctx with sched := ctx.sched.erase (.frame p) }
            hm hix env p
      | intfUpdate => rfl
  | _ => rfl

/-- From every reachable state, two media that differ only on the diagonal of the link matrix
take the same steps, except on an input that submits a self-addressed frame. -/
theorem diagonal_unread_unless_self_addressed {m₀ m m' : Medium} {ids : List MacAddr}
    {interference useNetlink : Bool} {ctx ctx' : Ctx} {input : Input} {outs : List Out}
    (hr : Reachable m₀ ids interference useNetlink ctx) (hm : Medium.OffDiagEq ids.length m m')
    (hself : ¬ input.SelfAddressed ctx.stations) :
    Step m ctx input outs ctx' ↔ Step m' ctx input outs ctx' := by
  obtain ⟨log, hrun⟩ := hr
  have hlen : ctx.stations.length = ids.length := by simpa [initCtx] using run_length hrun
  rw [Step, Step, wmediumdStep_congr (hlen ▸ hm) (reachable_indexed ⟨log, hrun⟩) hself]

/-! ## Two media apart on the diagonal -/

/-- Station 0's diagonal entry is 50 dB, every other entry 10 dB. -/
def diagHighMedium : Medium :=
  ⟨.snrMatrix fun x => if x = 0 then 50 else 10, fun _ _ => 10, fun _ _ _ _ => 0⟩

/-- Every entry 10 dB. -/
def flatMedium : Medium := ⟨.snrMatrix fun _ => 10, fun _ _ => 10, fun _ _ _ _ => 0⟩

theorem diagHighMedium_offDiagEq : Medium.OffDiagEq 2 diagHighMedium flatMedium :=
  ⟨fun i _ j _ hij => if_neg (by omega), rfl, rfl⟩

theorem longFrame_not_selfAddressed {stations : List Station}
    (h : stations.map Station.addr = [addrA, addrB]) : ¬ longFrame.SelfAddressed stations := by
  rintro ⟨-, data, src, dest, k, hd, hs, hdst, -, hk, hk'⟩
  obtain rfl : data = shortHeader 0x08 0 addrB addrA := Option.some.inj hd.symm
  obtain rfl : src = addrA := Except.ok.inj hs.symm
  obtain rfl : dest = addrB := Except.ok.inj hdst.symm
  have hl : stations.map Station.addr = (initCtx [addrA, addrB] false true).stations.map
      Station.addr := h
  rw [getStationByAddr_congr hl] at hk hk'
  obtain rfl : k = 0 := Option.some.inj hk.symm
  exact absurd hk' (by decide)

/-- At the end of `sample_run`, after frames were queued, delivered and cancelled and a client
bound and removed, the frame from station 0 to station 1 steps alike under both media. -/
theorem frame_to_other_station_unread :
    ∃ log ctx, Run perfectMedium (initCtx [addrA, addrB] false true) log ctx ∧
      Out.cancelled 1 ∈ log ∧ Medium.OffDiagEq [addrA, addrB].length diagHighMedium flatMedium ∧
      ¬ (Input.netlinkMessage longFrame (txDraws 0)).SelfAddressed ctx.stations ∧
      ∀ outs ctx', Step diagHighMedium ctx (.netlinkMessage longFrame (txDraws 0)) outs ctx' ↔
        Step flatMedium ctx (.netlinkMessage longFrame (txDraws 0)) outs ctx' := by
  obtain ⟨_, _, _, _, _, _, _, _, _, _, _, _, ctx, hrun, -⟩ := sample_run
  have hself := longFrame_not_selfAddressed (map_addr_of_shape (run_shape hrun))
  exact ⟨_, ctx, hrun, by simp, diagHighMedium_offDiagEq, hself, fun _ _ =>
    diagonal_unread_unless_self_addressed ⟨_, hrun⟩ diagHighMedium_offDiagEq hself⟩

/-- A unicast data frame from station 0 to its own address. -/
def selfFrame : NlMsg := frameMessage addrA (shortHeader 0x08 0 addrA addrA) [0, 1] [0, 0, 0, 0]

/-- The self-addressed frame takes the signal of station 0's diagonal entry: 50 dB gives
`50 + NOISE_LEVEL = -41` dBm, 10 dB gives `-81` dBm. -/
theorem self_addressed_frame_reads_diagonal :
    Medium.OffDiagEq [addrA, addrB].length diagHighMedium flatMedium ∧
    ∃ f ac ctx f' ac' ctx',
      Step diagHighMedium (initCtx [addrA, addrB] false true)
        (.netlinkMessage selfFrame (txDraws 0)) [.queued 0 f ac 0] ctx ∧
      Step flatMedium (initCtx [addrA, addrB] false true)
        (.netlinkMessage selfFrame (txDraws 0)) [.queued 0 f' ac' 0] ctx' ∧
      f.signal = -41 ∧ f'.signal = -81 :=
  ⟨diagHighMedium_offDiagEq, _, _, _, _, _, _, ⟨rfl, rfl⟩, ⟨rfl, rfl⟩, rfl, rfl⟩

end Wmediumd
