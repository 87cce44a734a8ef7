import Wmediumd.Ack

/-!
# The interference matrix over a run

`ctx->intf` holds, for each ordered pair of stations, the airtime recorded on the sender's row
since the last `wmediumd_intf_update`, and the collision probability that update derived from
it. A delivery only ever adds to a row (`set_interference_duration`); the update turns each
off-diagonal busy time into `prob_col = duration / 10000` and zeroes it, and it skips the
diagonal.

No handler adds, removes or moves a station, or changes its address or the contention-window
bounds of its queues, so along every run `station->index` is the station's position and the
matrix keeps its size.
-/

namespace Wmediumd

/-! ## What no handler changes about a station -/

/-- The part of a station no handler writes: its index, its address and the contention-window
bounds of its queues. -/
def Station.shape (st : Station) : Nat × MacAddr × (AcNumber → Nat × Nat) :=
  (st.index, st.addr, fun ac => ((st.queues ac).cwMin, (st.queues ac).cwMax))

namespace Station

@[simp] theorem shape_bind (st : Station) (hw : MacAddr) (c : ClientPtr) :
    (st.bind hw c).shape = st.shape := rfl
@[simp] theorem shape_unlink (st : Station) (p : FramePtr) : (st.unlink p).shape = st.shape := rfl
@[simp] theorem shape_unbind (st : Station) (c : ClientPtr) : (st.unbind c).shape = st.shape := rfl
@[simp] theorem shape_dropFrames (st : Station) (d : FramePtr → Bool) :
    (st.dropFrames d).shape = st.shape := rfl

@[simp] theorem shape_enqueue (st : Station) (ac : AcNumber) (p : FramePtr) :
    (st.enqueue ac p).shape = st.shape := by
  simp only [shape, enqueue, Prod.mk.injEq, true_and]
  funext ac'
  by_cases h : ac' = ac
  · subst h
    simp
  · simp [Function.update_noteq h]

end Station

theorem map_shape_set {l : List Station} {k : Nat} {st st' : Station} (h : l[k]? = some st)
    (hs : st'.shape = st.shape) : (l.set k st').map Station.shape = l.map Station.shape := by
  obtain ⟨hk, rfl⟩ := List.getElem?_eq_some_iff.1 h
  apply List.ext_getElem?
  intro n
  by_cases hkn : k = n
  · subst hkn
    simp [List.getElem?_set, hk, hs]
  · simp [List.getElem?_set, hkn]

/-- A handler that changes neither the shapes of the stations nor `ctx->intf`. -/
structure Keeps (ctx ctx' : Ctx) : Prop where
  shape : ctx'.stations.map Station.shape = ctx.stations.map Station.shape
  intf : ctx'.intf = ctx.intf

theorem Keeps.trans {ctx mid ctx' : Ctx} (h₁ : Keeps ctx mid) (h₂ : Keeps mid ctx') :
    Keeps ctx ctx' :=
  ⟨h₂.shape.trans h₁.shape, h₂.intf.trans h₁.intf⟩

section Handlers

variable {m : Medium} {env : TxEnv} {ctx ctx' : Ctx} {outs : List Out}

theorem processMessages_keeps {msg : NlMsg} {c : ClientPtr}
    (h : processMessages m env ctx msg c = .ok (ctx', outs)) : Keeps ctx ctx' := by
  rcases processMessages_spec h with ⟨rfl, -⟩ | ⟨k, st, hw, frame, hk, -, -, hq⟩
  · exact ⟨rfl, rfl⟩
  · obtain ⟨st', ac, sent, hk', -, -, rfl, -⟩ := queueFrame_spec hq
    exact ⟨(map_shape_set hk' (Station.shape_enqueue ..)).trans
      (map_shape_set hk (Station.shape_bind ..)), rfl⟩

theorem wmediumdRemoveClient_keeps {c : ClientPtr}
    (h : wmediumdRemoveClient ctx c = .ok (ctx', outs)) : Keeps ctx ctx' := by
  obtain ⟨client, -, rfl, -⟩ := wmediumdRemoveClient_eq h
  exact ⟨by simp [Function.comp_def], rfl⟩

theorem wmediumdApiHandler_keeps {c : ClientPtr} {read : ApiRead} {written : Bool}
    (h : wmediumdApiHandler m env ctx c read written = .ok (ctx', outs)) : Keeps ctx ctx' := by
  obtain ⟨client, -, ⟨-, hrm⟩ | ⟨req, mid, o, r, -, hd, hw⟩⟩ := wmediumdApiHandler_cases h
  · exact wmediumdRemoveClient_keeps hrm
  · have hmid : Keeps ctx mid := by
      rcases apiDispatch_cases hd with ⟨msg, -, hp, -⟩ | ⟨-, -, -, -, rfl⟩ | ⟨-, -, -, -, rfl⟩ |
        ⟨rfl, -, -⟩
      · exact processMessages_keeps hp
      all_goals exact ⟨rfl, rfl⟩
    rcases hw with ⟨-, rfl, -⟩ | ⟨-, removed, hrm, -⟩
    · exact hmid
    · exact hmid.trans (wmediumdRemoveClient_keeps hrm)

end Handlers

/-! ## Busy times -/

/-- The busy time `ctx->intf[x].duration` of entry `x`, 0 with interference off. -/
def intfBusy (intf : Option (Nat → IntfInfo)) (x : Nat) : Nat :=
  (intf.map fun matrix => (matrix x).duration).getD 0

/-- No busy time of `intf` is above that of `intf'`. -/
def IntfGrows (intf intf' : Option (Nat → IntfInfo)) : Prop :=
  ∀ x, intfBusy intf x ≤ intfBusy intf' x

theorem IntfGrows.refl (intf : Option (Nat → IntfInfo)) : IntfGrows intf intf :=
  fun _ => Nat.le_refl _

theorem IntfGrows.trans {a b c : Option (Nat → IntfInfo)} (h₁ : IntfGrows a b)
    (h₂ : IntfGrows b c) : IntfGrows a c :=
  fun x => Nat.le_trans (h₁ x) (h₂ x)

/-- `set_interference_duration` only adds to the busy times of a row. -/
theorem setInterferenceDuration_grows (n : Nat) (intf : Option (Nat → IntfInfo))
    (srcIdx duration : Nat) (signal : Int) :
    IntfGrows intf (setInterferenceDuration n intf srcIdx duration signal).1 := by
  intro x
  cases intf with
  | none => exact Nat.le_refl _
  | some matrix =>
      unfold setInterferenceDuration
      split_ifs
      · exact Nat.le_refl _
      · simp only [intfBusy, Option.map_some', Option.getD_some]
        split_ifs
        · exact Nat.le_add_right _ _
        · exact Nat.le_refl _

section FanOut

variable {m : Medium} {env : RxEnv} {ctx : Ctx} {p : FramePtr} {frame : Frame} {sender : Station}
  {dest : MacAddr}

theorem deliverTo_grows (acc : Option (Nat → IntfInfo) × List Out) (k : Nat) (st : Station) :
    IntfGrows acc.1 (deliverTo m env ctx p frame sender dest acc k st).1 := by
  obtain ⟨signal, h⟩ := @deliverTo_cases m env ctx p frame sender dest acc k st
  simp only [List.mem_cons, List.mem_singleton, List.not_mem_nil, or_false] at h
  rcases h with h | h | h <;> rw [h]
  · exact IntfGrows.refl _
  all_goals exact setInterferenceDuration_grows _ _ _ _ _

theorem deliverFanOut_grows :
    IntfGrows ctx.intf (deliverFanOut m env ctx p frame sender dest).1 := by
  have fold : ∀ (l : List (Nat × Station)) (acc : Option (Nat → IntfInfo) × List Out),
      IntfGrows acc.1
        (l.foldl (fun acc ks => deliverTo m env ctx p frame sender dest acc ks.1 ks.2) acc).1 := by
    intro l
    induction l with
    | nil => exact fun acc => IntfGrows.refl _
    | cons ks l ih => exact fun acc => (deliverTo_grows acc ks.1 ks.2).trans (ih _)
  unfold deliverFanOut
  split_ifs
  · exact fold ctx.stations.enum (ctx.intf, [])
  · exact setInterferenceDuration_grows _ _ _ _ _

end FanOut

theorem wmediumdDeliverFrame_grows {m : Medium} {env : RxEnv} {ctx ctx' : Ctx} {p : FramePtr}
    {outs : List Out} (h : wmediumdDeliverFrame m env ctx p = .ok (ctx', outs)) :
    ctx'.stations.map Station.shape = ctx.stations.map Station.shape ∧
      IntfGrows ctx.intf ctx'.intf := by
  obtain ⟨frame, intf, rxs, client, report, -, -, -, -, -, ⟨sender, dest, -, rfl⟩, rfl, -⟩ :=
    wmediumdDeliverFrame_spec h
  exact ⟨by simp [Function.comp_def],
    @deliverFanOut_grows m env { ctx with stations := ctx.stations.map (·.unlink p) } p frame
      sender dest⟩

/-- The update leaves every diagonal entry as it is. -/
theorem wmediumdIntfUpdate_diag (n : Nat) (matrix : Nat → IntfInfo) {i : Nat} (hi : i < n) :
    wmediumdIntfUpdate n matrix (n * i + i) = matrix (n * i + i) := by
  have hdiv : (n * i + i) / n = i := by
    rw [Nat.mul_comm, Nat.add_comm, Nat.add_mul_div_right _ _ (Nat.zero_lt_of_lt hi),
      Nat.div_eq_of_lt hi, Nat.zero_add]
  have hmod : (n * i + i) % n = i := by rw [Nat.mul_add_mod, Nat.mod_eq_of_lt hi]
  simp [wmediumdIntfUpdate, hdiv, hmod]

/-! ## Steps and runs -/

section Runs

variable {m : Medium} {ctx ctx' : Ctx} {input : Input} {outs : List Out}

/-- What one step does to the stations and to `ctx->intf`: the shapes stay; the interference
job applies `wmediumd_intf_update`, and every other handler only adds busy time. -/
theorem step_medium (hs : Step m ctx input outs ctx') :
    ctx'.stations.map Station.shape = ctx.stations.map Station.shape ∧
      ((∃ env, input = .jobFired .intfUpdate env ∧
          ctx'.intf = ctx.intf.map (wmediumdIntfUpdate ctx.stations.length)) ∨
        IntfGrows ctx.intf ctx'.intf) := by
  have keeps : Keeps ctx ctx' → ctx'.stations.map Station.shape = ctx.stations.map Station.shape ∧
      ((∃ env, input = .jobFired .intfUpdate env ∧
          ctx'.intf = ctx.intf.map (wmediumdIntfUpdate ctx.stations.length)) ∨
        IntfGrows ctx.intf ctx'.intf) :=
    fun hk => ⟨hk.shape, .inr (hk.intf ▸ IntfGrows.refl _)⟩
  obtain ⟨-, h⟩ := hs
  cases input with
  | netlinkMessage msg env =>
      simp only [wmediumdStep] at h
      split at h
      · exact keeps (processMessages_keeps h)
      · cases h
        exact keeps ⟨rfl, rfl⟩
  | vhostUserConnected =>
      cases h
      exact keeps ⟨rfl, rfl⟩
  | vhostUserMessage c msg env =>
      cases msg with
      | some msg => exact keeps (processMessages_keeps h)
      | none =>
          cases h
          exact keeps ⟨rfl, rfl⟩
  | vhostUserDisconnected c => exact keeps (wmediumdRemoveClient_keeps h)
  | apiConnected =>
      cases h
      exact keeps ⟨rfl, rfl⟩
  | apiMessage c read written env => exact keeps (wmediumdApiHandler_keeps h)
  | jobFired j env =>
      cases j with
      | frame p => exact (wmediumdDeliverFrame_grows h).imp_right .inr
      | intfUpdate =>
          cases h
          exact ⟨rfl, .inl ⟨env, rfl, rfl⟩⟩
  | timePasses t =>
      cases h
      exact keeps ⟨rfl, rfl⟩

theorem step_shape (hs : Step m ctx input outs ctx') :
    ctx'.stations.map Station.shape = ctx.stations.map Station.shape :=
  (step_medium hs).1

/-- No step lowers the busy time a station has on its own diagonal entry. -/
theorem step_diag_le (hs : Step m ctx input outs ctx') {i : Nat} (hi : i < ctx.stations.length) :
    intfBusy ctx.intf (ctx.stations.length * i + i) ≤
      intfBusy ctx'.intf (ctx.stations.length * i + i) := by
  rcases (step_medium hs).2 with ⟨env, -, hu⟩ | hg
  · rw [hu]
    cases ctx.intf with
    | none => exact Nat.le_refl _
    | some matrix =>
        simp only [intfBusy, Option.map_some', Option.getD_some, wmediumdIntfUpdate_diag _ _ hi]
        exact Nat.le_refl _
  · exact hg _

theorem run_shape {ctx₀ : Ctx} {log : List Out} (hrun : Run m ctx₀ log ctx) :
    ctx.stations.map Station.shape = ctx₀.stations.map Station.shape := by
  induction hrun with
  | refl => rfl
  | step _ hs ih => exact (step_shape hs).trans ih

theorem run_length {ctx₀ : Ctx} {log : List Out} (hrun : Run m ctx₀ log ctx) :
    ctx.stations.length = ctx₀.stations.length := by
  simpa using congrArg List.length (run_shape hrun)

/-- Along every run, the busy time of each diagonal entry never goes down. -/
theorem run_diag_le {ctx₀ : Ctx} {log : List Out} (hrun : Run m ctx₀ log ctx) {i : Nat}
    (hi : i < ctx₀.stations.length) :
    intfBusy ctx₀.intf (ctx₀.stations.length * i + i) ≤
      intfBusy ctx.intf (ctx₀.stations.length * i + i) := by
  induction hrun with
  | refl => exact Nat.le_refl _
  | step hrun hs ih =>
      have hn := run_length hrun
      have hstep := step_diag_le hs (by rw [hn]; exact hi)
      rw [hn] at hstep
      exact Nat.le_trans ih hstep

end Runs

/-! ## A frame longer than one interference window

Two stations on links that lose every attempt, 1 Mb/s at every rate index, and interference on.
`addrA` sends `addrB` a 16-byte data frame with one MRR row of eight attempts: all are lost, and
with their ACK timeouts and backoffs they take 12133 µs. With a fading of -30 dB its signal is
-91 dBm, below the CCA threshold, so its delivery records all of that airtime on row 0 of the
matrix.
-/

/-- Error probability 1 on every link and 1 Mb/s for every rate index. -/
def lossyMedium : Medium := ⟨.errorProbMatrix fun _ => 1, fun _ _ => 10, fun _ _ _ _ => 1⟩

/-- The frame: one MRR row of eight attempts at rate index 0 (`TX_INFO` bytes `[0, 8]`). -/
def longFrame : NlMsg := frameMessage addrA (shortHeader 0x08 0 addrB addrA) [0, 8] [0, 0, 0, 0]

/-- The run: the frame is queued at 0 for 12133 µs, the interference job runs at 10000 µs, the
frame is delivered at 12133 µs, and the job runs again at 20000 µs. -/
theorem long_frame_run : ∃ ctx₁ f ac ctx₂ ctx₃ ctx₄ outs₅ ctx₅ ctx₆ outs₇ ctx₇ matrix,
    Step lossyMedium (initCtx [addrA, addrB] true true) (.netlinkMessage longFrame (txDraws (-30)))
      [.queued 0 f ac 0] ctx₁ ∧
    Step lossyMedium ctx₁ (.timePasses 10000) [] ctx₂ ∧
    Step lossyMedium ctx₂ (.jobFired .intfUpdate rxQuiet) [] ctx₃ ∧
    Step lossyMedium ctx₃ (.timePasses 12133) [] ctx₄ ∧
    Step lossyMedium ctx₄ (.jobFired (.frame 0) rxQuiet) outs₅ ctx₅ ∧
    Step lossyMedium ctx₅ (.timePasses 20000) [] ctx₆ ∧
    Step lossyMedium ctx₆ (.jobFired .intfUpdate rxQuiet) outs₇ ctx₇ ∧
    ctx₇.intf = some matrix ∧ (matrix 0).duration = 12133 ∧
      (matrix 1).probCol = ((12133 : ℕ) : ℚ) / 10000 :=
  ⟨_, _, _, _, _, _, _, _, _, _, _, _, ⟨rfl, rfl⟩, ⟨Nat.le_of_ble_eq_true rfl, rfl⟩,
    ⟨⟨by decide, rfl⟩, rfl⟩, ⟨Nat.le_of_ble_eq_true rfl, rfl⟩, ⟨⟨by decide, rfl⟩, rfl⟩,
    ⟨Nat.le_of_ble_eq_true rfl, rfl⟩, ⟨⟨by decide, rfl⟩, rfl⟩, rfl, rfl, rfl⟩

/-- The update at 20000 µs sets `intf[0][1].prob_col` to 12133/10000: the whole airtime of a frame
delivered in the window is charged to it. -/
theorem intf_update_prob_col_above_one :
    ∃ ctx outs ctx' matrix, Reachable lossyMedium [addrA, addrB] true true ctx ∧
      Step lossyMedium ctx (.jobFired .intfUpdate rxQuiet) outs ctx' ∧
      ctx'.intf = some matrix ∧ 1 < (matrix (2 * 0 + 1)).probCol := by
  obtain ⟨_, _, _, _, _, _, _, _, ctx, outs, ctx', matrix, h₁, h₂, h₃, h₄, h₅, h₆, h₇, hm, -, hp⟩ :=
    long_frame_run
  refine ⟨ctx, outs, ctx', matrix,
    ⟨_, .step (.step (.step (.step (.step (.step .refl h₁) h₂) h₃) h₄) h₅) h₆⟩, h₇, hm, ?_⟩
  rw [hp, show (10000 : ℚ) = ((10000 : ℕ) : ℚ) from rfl, Rat.natCast_div_eq_divInt,
    ← Rat.mkRat_eq_divInt]
  decide

/-- The same update leaves the busy time of `intf[0][0]` at 12133 µs, and no step of any run ever
lowers the busy time of a diagonal entry: the diagonal is never reset. -/
theorem intf_update_keeps_diagonal :
    (∃ ctx outs ctx' matrix, Reachable lossyMedium [addrA, addrB] true true ctx ∧
      Step lossyMedium ctx (.jobFired .intfUpdate rxQuiet) outs ctx' ∧
      ctx'.intf = some matrix ∧ (matrix (2 * 0 + 0)).duration = 12133) ∧
    ∀ (m : Medium) (ctx₀ ctx : Ctx) (log : List Out), Run m ctx₀ log ctx →
      ∀ i < ctx₀.stations.length, intfBusy ctx₀.intf (ctx₀.stations.length * i + i) ≤
        intfBusy ctx.intf (ctx₀.stations.length * i + i) := by
  obtain ⟨_, _, _, _, _, _, _, _, ctx, outs, ctx', matrix, h₁, h₂, h₃, h₄, h₅, h₆, h₇, hm, hd, -⟩ :=
    long_frame_run
  exact ⟨⟨ctx, outs, ctx', matrix,
    ⟨_, .step (.step (.step (.step (.step (.step .refl h₁) h₂) h₃) h₄) h₅) h₆⟩, h₇, hm, hd⟩,
    fun _ _ _ _ hrun _ hi => run_diag_le hrun hi⟩

end Wmediumd
