import Wmediumd.QueueInvariant

/-!
# Clients

`ctx->clients` lists the clients a copy for a station with no bound client is written to; a
station's `client` and a frame's `src` point into the client heap without owning what they
point to. `wmediumd_remove_client` clears every station pointer to the client, frees every
queued frame whose `src` is the client, unlinks the client when its `list` is linked and frees
it. `ClientInv` says that no pointer outlives its client: every client in `ctx->clients`, bound
to a station or recorded as the `src` of a queued frame is live, and `ctx->clients` holds each
client once, exactly those whose `list` is linked. `RegInv` ties the link of an API client to
the last `REGISTER` or `UNREGISTER` its handler accepted, as the run's responses show it.
-/

namespace Wmediumd

theorem Ctx.live_of_heap {ctx : Ctx} {c : ClientPtr} {cl : Client}
    (h : ctx.clientHeap c = some cl) : ctx.Live c := by
  simp [Ctx.Live, h]

/-- The clients an output is written to. -/
def Out.recipients : Out → List ClientPtr
  | .txStatus _ c _ => [c]
  | .rx _ _ _ rs => rs
  | .apiResponse c _ _ => [c]
  | _ => []

/-- For the response to an accepted `REGISTER` (`true`) or `UNREGISTER` (`false`) of client
`c`, which of the two it accepted. -/
def Out.registration (c : ClientPtr) : Out → Option Bool
  | .apiResponse c' .register .ack => if c' = c then some true else none
  | .apiResponse c' .unregister .ack => if c' = c then some false else none
  | _ => none

/-- The last `REGISTER` or `UNREGISTER` of client `c` that `log` shows accepted. -/
def lastRegistration (c : ClientPtr) (log : List Out) : Option Bool :=
  (log.filterMap (Out.registration c)).getLast?

theorem lastRegistration_append (c : ClientPtr) (log outs : List Out) :
    lastRegistration c (log ++ outs) = (lastRegistration c outs).or (lastRegistration c log) := by
  simp [lastRegistration, List.filterMap_append]

theorem lastRegistration_eq_none {c : ClientPtr} {outs : List Out}
    (h : ∀ o ∈ outs, o.registration c = none) : lastRegistration c outs = none := by
  simp [lastRegistration, List.filterMap_eq_nil_iff.2 h]

theorem lastRegistration_singleton (c : ClientPtr) (o : Out) :
    lastRegistration c [o] = o.registration c := by
  unfold lastRegistration
  cases h : o.registration c <;> simp [List.filterMap_cons, h]

theorem Out.registration_apiResponse_ne {c c' : ClientPtr} (req : ApiRequest)
    (r : WmediumdMessage) (h : c ≠ c') : (Out.apiResponse c req r).registration c' = none := by
  cases req <;> cases r <;> first | rfl | simp [Out.registration, h]

theorem Out.registration_invalid (c c' : ClientPtr) (req : ApiRequest) :
    (Out.apiResponse c' req .invalid).registration c = none := by
  cases req <;> rfl

/-- The records `queue_frame` and `wmediumd_remove_client` leave in the log: no client reads
them. -/
def Out.isGhost : Out → Bool
  | .queued .. => true
  | .cancelled _ => true
  | _ => false

@[simp] theorem Out.isGhost_queued (p : FramePtr) (f : Frame) (ac : AcNumber) (n : Nat) :
    (Out.queued p f ac n).isGhost = true := rfl
@[simp] theorem Out.isGhost_cancelled (p : FramePtr) : (Out.cancelled p).isGhost = true := rfl

theorem Out.recipients_of_isGhost {o : Out} (h : o.isGhost = true) : o.recipients = [] := by
  cases o <;> first | rfl | cases h

theorem Out.registration_of_isGhost {o : Out} (h : o.isGhost = true) (c : ClientPtr) :
    o.registration c = none := by
  cases o <;> first | rfl | cases h

/-- What the client list, the client heap and the pointers into it keep. -/
structure ClientInv (ctx : Ctx) : Prop where
  clients_nodup : ctx.clients.Nodup
  linked_iff : ∀ c cl, ctx.clientHeap c = some cl → (cl.linked = true ↔ c ∈ ctx.clients)
  clients_live : ∀ c ∈ ctx.clients, ctx.Live c
  stations_live : ∀ (k : Nat) (st : Station) (c : ClientPtr), ctx.stations[k]? = some st →
    st.client = some c → ctx.Live c
  frames_live : ∀ (q : FramePtr) (f : Frame) (c : ClientPtr), ctx.Queued q →
    ctx.frames q = some f → f.src = some c → ctx.Live c
  netlink : ∀ c, ctx.nlClient = some c → ∃ linked, ctx.clientHeap c = some ⟨.netlink, linked⟩
  fresh : ∀ c, ctx.nextClient ≤ c → ctx.clientHeap c = none

/-- An API client is linked exactly when the last `REGISTER` or `UNREGISTER` the log shows
accepted for it was a `REGISTER`; the log answers no client not yet allocated. -/
structure RegInv (log : List Out) (ctx : Ctx) : Prop where
  api_linked : ∀ c cl, ctx.clientHeap c = some cl → cl.type = .apiSock →
    (cl.linked = true ↔ lastRegistration c log = some true)
  fresh : ∀ c, ctx.nextClient ≤ c → lastRegistration c log = none

namespace ClientInv

variable {ctx ctx' : Ctx}

theorem init (ids : List MacAddr) (interference useNetlink : Bool) :
    ClientInv (initCtx ids interference useNetlink) := by
  have hst : ∀ (k : Nat) (st : Station) (c : ClientPtr),
      (initCtx ids interference useNetlink).stations[k]? = some st → st.client = some c →
        (initCtx ids interference useNetlink).Live c := fun k st c hk hc => by
    simp only [initCtx, List.getElem?_map, Option.map_eq_some'] at hk
    obtain ⟨_, -, rfl⟩ := hk
    cases hc
  cases useNetlink with
  | false =>
    refine ⟨List.nodup_nil, fun c cl h => ?_, fun c h => ?_, hst, fun q f c _ h => ?_,
      fun c h => ?_, fun c _ => rfl⟩ <;> simp [initCtx] at h
  | true =>
    refine ⟨List.nodup_singleton 0, fun c cl h => ?_, fun c h => ?_, hst, fun q f c _ h => ?_,
      fun c h => ⟨true, ?_⟩, fun c h => ?_⟩ <;> simp only [initCtx, if_true] at h ⊢
    · rw [Function.update_apply] at h
      split_ifs at h with hc
      cases h
      simp [hc]
    · obtain rfl := List.mem_singleton.1 h
      rfl
    · cases h
    · cases h
      rfl
    · exact Function.update_noteq (Nat.pos_iff_ne_zero.1 h) _ _

/-- A step that leaves the clients, their heap, the netlink client and the allocator alone keeps
the bookkeeping when every station binding and queued frame it leaves points to a live
client. -/
theorem of_heap_eq (hi : ClientInv ctx) (hc : ctx'.clients = ctx.clients)
    (hh : ctx'.clientHeap = ctx.clientHeap) (hn : ctx'.nextClient = ctx.nextClient)
    (hnl : ctx'.nlClient = ctx.nlClient)
    (hst : ∀ (k : Nat) (st : Station) (c : ClientPtr), ctx'.stations[k]? = some st →
      st.client = some c → ctx.Live c)
    (hf : ∀ (q : FramePtr) (f : Frame) (c : ClientPtr), ctx'.Queued q → ctx'.frames q = some f →
      f.src = some c → ctx.Live c) :
    ClientInv ctx' := by
  have hl : ∀ c, ctx'.Live c ↔ ctx.Live c := fun c => by simp only [Ctx.Live, hh]
  refine ⟨hc ▸ hi.clients_nodup, fun c cl h => ?_, fun c h => (hl c).2 (hi.clients_live c (hc ▸ h)),
    fun k st c h h' => (hl c).2 (hst k st c h h'),
    fun q f c h h' h'' => (hl c).2 (hf q f c h h' h''), fun c h => ?_, fun c h => ?_⟩
  · rw [hc]
    exact hi.linked_iff c cl (hh ▸ h)
  · rw [hh]
    exact hi.netlink c (hnl ▸ h)
  · rw [hh]
    exact hi.fresh c (hn ▸ h)

/-- Setting the heap entry of a client other than the netlink client, with `ctx->clients`
holding it exactly when the new entry is linked, keeps the bookkeeping. This is what a connect,
a `REGISTER` and an `UNREGISTER` do. -/
theorem setClient (hi : ClientInv ctx) {c next : ClientPtr} {cl : Client}
    {clients : List ClientPtr} (hnl : ∀ cl₀, ctx.clientHeap c = some cl₀ → cl₀.type ≠ .netlink)
    (hnd : clients.Nodup)
    (hmem : ∀ c', c' ∈ clients ↔ (c' = c ∧ cl.linked = true) ∨ (c' ≠ c ∧ c' ∈ ctx.clients))
    (hc : c < next) (hn : ctx.nextClient ≤ next) :
    ClientInv { ctx with clients := clients, nextClient := next,
                         clientHeap := Function.update ctx.clientHeap c (some cl) } := by
  have hl : ∀ c', ctx.Live c' → (Function.update ctx.clientHeap c (some cl) c').isSome = true :=
    fun c' h => by
      rw [Function.update_apply]
      split_ifs
      exacts [rfl, h]
  refine ⟨hnd, fun c' cl' h => ?_, fun c' h => ?_, fun k st c' hk h => hl c' (hi.stations_live k st c'
    hk h), fun q f c' hq hf h => hl c' (hi.frames_live q f c' hq hf h), fun c' h => ?_,
    fun c' h => ?_⟩
  · rw [hmem]
    by_cases hc' : c' = c
    · subst hc'
      simp only [Function.update_same, Option.some.injEq] at h
      subst h
      simp
    · have h : ctx.clientHeap c' = some cl' := by simpa [Function.update_noteq hc'] using h
      simp [hc', hi.linked_iff c' cl' h]
  · rcases (hmem c').1 h with ⟨rfl, -⟩ | ⟨-, h⟩
    · simp [Ctx.Live]
    · exact hl c' (hi.clients_live c' h)
  · obtain ⟨linked, hlk⟩ := hi.netlink c' h
    have hc' : c' ≠ c := by
      rintro rfl
      exact hnl _ hlk rfl
    exact ⟨linked, by simpa [Function.update_noteq hc'] using hlk⟩
  · have hc' : c' ≠ c := (Nat.ne_of_lt (Nat.lt_of_lt_of_le hc h)).symm
    simpa [Function.update_noteq hc'] using hi.fresh c' (Nat.le_trans hn h)

/-- A step that touches none of the clients, the stations and the frame heap. -/
theorem congr (hi : ClientInv ctx) (hs : ctx'.stations = ctx.stations)
    (hf : ctx'.frames = ctx.frames) (hc : ctx'.clients = ctx.clients)
    (hh : ctx'.clientHeap = ctx.clientHeap) (hn : ctx'.nextClient = ctx.nextClient)
    (hnl : ctx'.nlClient = ctx.nlClient) : ClientInv ctx' :=
  hi.of_heap_eq hc hh hn hnl (fun k st c hk => hi.stations_live k st c (hs ▸ hk))
    fun q f c hq hf' =>
      hi.frames_live q f c (by simpa [Ctx.Queued, Ctx.queue, hs] using hq) (hf ▸ hf')

theorem lt_nextClient (hi : ClientInv ctx) {c : ClientPtr} {cl : Client}
    (h : ctx.clientHeap c = some cl) : c < ctx.nextClient :=
  Nat.lt_of_not_le fun hle => by simp [hi.fresh c hle] at h

/-- `_process_messages` for a live client binds stations only to live clients and records a
live `src`. -/
theorem processMessages (hi : ClientInv ctx) (hq : QueueInv ctx) {m : Medium} {env : TxEnv}
    {msg : NlMsg} {c : ClientPtr} {outs : List Out} (hc : ctx.Live c)
    (h : Wmediumd.processMessages m env ctx msg c = .ok (ctx', outs)) : ClientInv ctx' := by
  rcases processMessages_queued h with ⟨rfl, -⟩ |
    ⟨k, st, hw, ac, f, hst, -, hs, hac, hsrc, hstart, rfl, -⟩
  · exact hi
  have hb : ctx.Live (st.client.getD c) := by
    cases hcl : st.client with
    | none => exact hc
    | some c' => exact hi.stations_live k st c' hst hcl
  have ha := Appends.bind_enqueue hw c hst hs hac hstart
  refine hi.of_heap_eq rfl rfl rfl rfl (fun k' st' c' hk' hc' => ?_) fun q f' c' hq' hf' hc' => ?_
  · change (ctx.stations.set k _)[k']? = some st' at hk'
    rcases eq_or_ne k k' with rfl | hne
    · rw [List.getElem?_set_self (List.getElem?_eq_some_iff.1 hst).1, Option.some.injEq] at hk'
      subst hk'
      simp only [Station.enqueue_client, Station.bind, Option.some.injEq] at hc'
      exact hc' ▸ hb
    · rw [List.getElem?_set_ne hne] at hk'
      exact hi.stations_live k' st' c' hk' hc'
  · change Function.update ctx.frames ctx.nextFrame (some f) q = some f' at hf'
    rcases (ha.queued_iff q).1 hq' with hq' | rfl
    · rw [Function.update_noteq (Nat.ne_of_lt (hq.lt_nextFrame hq'))] at hf'
      exact hi.frames_live q f' c' hq' hf' hc'
    · rw [Function.update_same, Option.some.injEq] at hf'
      subst hf'
      rw [hsrc, Option.some.injEq] at hc'
      exact hc' ▸ hb

/-- `wmediumd_remove_client` leaves no pointer to the client it frees. -/
theorem removeClient (hi : ClientInv ctx) {c : ClientPtr} {outs : List Out}
    (hnl : ctx.nlClient ≠ some c) (h : wmediumdRemoveClient ctx c = .ok (ctx', outs)) :
    ClientInv ctx' := by
  obtain ⟨hr, -⟩ := wmediumdRemoveClient_removes h
  obtain ⟨cl, hcl, rfl, -⟩ := wmediumdRemoveClient_eq h
  have hl : ∀ c', c' ≠ c → ctx.Live c' → (Function.update ctx.clientHeap c none c').isSome = true :=
    fun c' hne h => by simpa [Function.update_noteq hne] using h
  have hmem : ∀ c', c' ∈ (if cl.linked then ctx.clients.erase c else ctx.clients) ↔
      c' ≠ c ∧ c' ∈ ctx.clients := fun c' => by
    split
    · exact hi.clients_nodup.mem_erase_iff
    · rename_i hlk
      refine ⟨fun h' => ⟨fun hc => hlk ((hi.linked_iff c cl hcl).2 (hc ▸ h')), h'⟩, And.right⟩
  refine ⟨?_, fun c' cl' h' => ?_, fun c' h' => ?_, fun k st' c' hk hc' => ?_,
    fun q f c' hq hf hc' => ?_, fun c' h' => ?_, fun c' h' => ?_⟩
  · split
    exacts [hi.clients_nodup.erase c, hi.clients_nodup]
  · have hne : c' ≠ c := by
      rintro rfl
      simp at h'
    change Function.update ctx.clientHeap c none c' = some cl' at h'
    rw [Function.update_noteq hne] at h'
    exact (hi.linked_iff c' cl' h').trans (by rw [hmem]; exact ⟨And.intro hne, And.right⟩)
  · obtain ⟨hne, h'⟩ := (hmem c').1 h'
    exact hl c' hne (hi.clients_live c' h')
  · change ((ctx.stations.map (·.unbind c)).map (·.dropFrames (fromClient ctx c)))[k]? = some st'
      at hk
    simp only [List.map_map, List.getElem?_map, Option.map_eq_some'] at hk
    obtain ⟨st, hst, rfl⟩ := hk
    simp only [Function.comp, Station.dropFrames_client, Station.unbind] at hc'
    split_ifs at hc' with hsc
    exact hl c' (by rintro rfl; exact hsc hc') (hi.stations_live k st c' hst hc')
  · obtain ⟨hq, hgone⟩ := (hr.queued_iff q).1 hq
    rw [hr.frames q hgone] at hf
    have hfrom : fromClient ctx c q = false := by
      simpa [removedFrames, mem_queuedFrames.2 hq] using hgone
    have hne : c' ≠ c := by
      rintro rfl
      simp [fromClient, hf, hc'] at hfrom
    exact hl c' hne (hi.frames_live q f c' hq hf hc')
  · obtain ⟨linked, hlk⟩ := hi.netlink c' h'
    have hne : c' ≠ c := by
      rintro rfl
      exact hnl h'
    exact ⟨linked, by simpa [Function.update_noteq hne] using hlk⟩
  · show Function.update ctx.clientHeap c none c' = none
    rw [Function.update_apply]
    split_ifs
    exacts [rfl, hi.fresh c' h']

/-- Delivery unlinks and frees one frame and binds nothing. -/
theorem deliverFrame (hi : ClientInv ctx) (hq : QueueInv ctx) {m : Medium} {env : RxEnv}
    {p : FramePtr} {outs : List Out} (hp : Job.frame p ∈ ctx.sched)
    (h : wmediumdDeliverFrame m env { ctx with sched := ctx.sched.erase (.frame p) } p =
      .ok (ctx', outs)) : ClientInv ctx' := by
  obtain ⟨hr, -, -⟩ := wmediumdDeliverFrame_removes hq hp h
  obtain ⟨frame, intf, rxs, client, report, -, -, -, -, -, -, rfl, -⟩ :=
    wmediumdDeliverFrame_spec h
  refine hi.of_heap_eq rfl rfl rfl rfl (fun k st c hk hc => ?_) fun q f c hq' hf hc => ?_
  · change (ctx.stations.map (·.unlink p))[k]? = some st at hk
    simp only [List.getElem?_map, Option.map_eq_some'] at hk
    obtain ⟨st, hst, rfl⟩ := hk
    exact hi.stations_live k st c hst hc
  · obtain ⟨hq', hgone⟩ := (hr.queued_iff q).1 hq'
    exact hi.frames_live q f c hq' (hr.frames q hgone ▸ hf) hc

/-- `REGISTER` and `UNREGISTER` relink the client they come from, as `setClient` allows. -/
theorem apiDispatch (hi : ClientInv ctx) (hq : QueueInv ctx) {m : Medium} {env : TxEnv}
    {c : ClientPtr} {client : Client} {req : ApiRequest} {mid : Ctx} {o : List Out}
    {r : WmediumdMessage} (hcl : ctx.clientHeap c = some client) (hty : client.type = .apiSock)
    (h : Wmediumd.apiDispatch m env ctx c client req = .ok (mid, o, r)) : ClientInv mid := by
  have hnl : ∀ cl₀, ctx.clientHeap c = some cl₀ → cl₀.type ≠ .netlink := fun cl₀ h' => by
    rw [hcl, Option.some.injEq] at h'
    rw [← h', hty]
    exact ClientType.noConfusion
  have hc := hi.lt_nextClient hcl
  rcases apiDispatch_cases h with ⟨msg, -, hp, -⟩ | ⟨-, hlk, -, -, rfl⟩ | ⟨-, -, -, -, rfl⟩ |
    ⟨rfl, -, -⟩
  · exact hi.processMessages hq (Ctx.live_of_heap hcl) hp
  · have hnot : c ∉ ctx.clients := fun hm => by simp [(hi.linked_iff c client hcl).2 hm] at hlk
    exact hi.setClient hnl (List.nodup_cons.2 ⟨hnot, hi.clients_nodup⟩)
      (fun c' => by by_cases hc' : c' = c <;> simp [hc']) hc (Nat.le_refl _)
  · exact hi.setClient hnl (hi.clients_nodup.erase c)
      (fun c' => by simp [hi.clients_nodup.mem_erase_iff]) hc (Nat.le_refl _)
  · exact hi

end ClientInv

/-- What `_process_messages` leaves of the clients: all of it, and only records in the log. -/
theorem processMessages_clientHeap {m : Medium} {env : TxEnv} {ctx ctx' : Ctx} {msg : NlMsg}
    {c : ClientPtr} {outs : List Out} (h : processMessages m env ctx msg c = .ok (ctx', outs)) :
    ctx'.clientHeap = ctx.clientHeap ∧ ctx'.nextClient = ctx.nextClient ∧
      ctx'.nlClient = ctx.nlClient ∧ ∀ o ∈ outs, o.isGhost = true := by
  rcases processMessages_queued h with ⟨rfl, rfl⟩ | ⟨k, st, hw, ac, f, -, -, -, -, -, -, rfl, rfl⟩
  · simp
  · simp

/-- What a request does to the client heap: only the requesting client's `list` link changes,
to what its response shows accepted; the allocator and the netlink client stay, and the only
records sent on the way are of queued frames. -/
theorem apiDispatch_clientHeap {m : Medium} {env : TxEnv} {ctx mid : Ctx} {c : ClientPtr}
    {client : Client} {req : ApiRequest} {o : List Out} {r : WmediumdMessage}
    (hcl : ctx.clientHeap c = some client)
    (h : apiDispatch m env ctx c client req = .ok (mid, o, r)) :
    mid.clientHeap = Function.update ctx.clientHeap c
        (some { client with linked := ((Out.apiResponse c req r).registration c).getD client.linked })
      ∧ mid.nextClient = ctx.nextClient ∧ mid.nlClient = ctx.nlClient ∧
      ∀ o' ∈ o, o'.isGhost = true := by
  have hself : Function.update ctx.clientHeap c (some { client with linked := client.linked }) =
      ctx.clientHeap := Function.update_eq_self_iff.2 hcl.symm
  rcases apiDispatch_cases h with ⟨msg, rfl, hp, rfl⟩ | ⟨rfl, -, rfl, rfl, rfl⟩ |
    ⟨rfl, -, rfl, rfl, rfl⟩ | ⟨rfl, rfl, rfl⟩
  · obtain ⟨hh, hn, hnl, ho⟩ := processMessages_clientHeap hp
    exact ⟨by rw [hh]; exact hself.symm, hn, hnl, ho⟩
  · simp [Out.registration]
  · simp [Out.registration]
  · refine ⟨?_, rfl, rfl, by simp⟩
    rw [Out.registration_invalid, Option.getD_none, hself]

namespace RegInv

variable {log : List Out} {ctx ctx' : Ctx}

theorem init (ids : List MacAddr) (interference useNetlink : Bool) :
    RegInv [] (initCtx ids interference useNetlink) := by
  refine ⟨fun c cl h hty => ?_, fun c _ => rfl⟩
  cases useNetlink <;> simp only [initCtx, if_true, Bool.false_eq_true, if_false] at h
  · cases h
  · rw [Function.update_apply] at h
    split_ifs at h
    cases h
    cases hty

/-- A step that frees clients or leaves the heap alone, allocates none and accepts no
registration. -/
theorem mono (hr : RegInv log ctx) {outs : List Out}
    (hh : ∀ c cl, ctx'.clientHeap c = some cl → ctx.clientHeap c = some cl)
    (hn : ctx'.nextClient = ctx.nextClient) (ho : ∀ o ∈ outs, ∀ c, o.registration c = none) :
    RegInv (log ++ outs) ctx' := by
  have hl : ∀ c, lastRegistration c (log ++ outs) = lastRegistration c log := fun c => by
    rw [lastRegistration_append, lastRegistration_eq_none fun o h => ho o h c, Option.none_or]
  exact ⟨fun c cl h hty => hl c ▸ hr.api_linked c cl (hh c cl h) hty,
    fun c h => hl c ▸ hr.fresh c (hn ▸ h)⟩

/-- A connect allocates a client at the next pointer, which no response has answered yet; a new
API client starts unlinked. -/
theorem connect (hr : RegInv log ctx) {cl : Client} (hcl : cl.type = .apiSock → cl.linked = false)
    (hh : ctx'.clientHeap = Function.update ctx.clientHeap ctx.nextClient (some cl))
    (hn : ctx'.nextClient = ctx.nextClient + 1) : RegInv (log ++ []) ctx' := by
  rw [List.append_nil]
  refine ⟨fun c cl' h hty => ?_, fun c h => hr.fresh c (by rw [hn] at h; exact Nat.le_of_succ_le h)⟩
  rw [hh, Function.update_apply] at h
  split_ifs at h with hc
  · cases h
    simp [hcl hty, hr.fresh c (Nat.le_of_eq hc.symm)]
  · exact hr.api_linked c cl' h hty

/-- The response to a request of client `c` records what the request did to `c`'s link. -/
theorem apiDispatch (hr : RegInv log ctx) {m : Medium} {env : TxEnv} {c : ClientPtr}
    {client : Client} {req : ApiRequest} {mid : Ctx} {o : List Out} {r : WmediumdMessage}
    (hcl : ctx.clientHeap c = some client) (hlt : c < ctx.nextClient)
    (h : Wmediumd.apiDispatch m env ctx c client req = .ok (mid, o, r)) :
    RegInv (log ++ (o ++ [.apiResponse c req r])) mid := by
  obtain ⟨hh, hn, -, ho⟩ := apiDispatch_clientHeap hcl h
  have hl : ∀ c', lastRegistration c' (log ++ (o ++ [.apiResponse c req r])) =
      ((Out.apiResponse c req r).registration c').or (lastRegistration c' log) := fun c' => by
    rw [lastRegistration_append, lastRegistration_append,
      lastRegistration_eq_none fun o' h' => Out.registration_of_isGhost (ho o' h') c',
      Option.or_none, lastRegistration_singleton]
  refine ⟨fun c' cl h' hty => ?_, fun c' h' => ?_⟩
  · rw [hh, Function.update_apply] at h'
    rw [hl]
    split_ifs at h' with hc'
    · subst hc'
      cases h'
      cases hreg : (Out.apiResponse c' req r).registration c' with
      | none => simpa [hreg] using hr.api_linked c' client hcl hty
      | some b => simp [hreg]
    · rw [Out.registration_apiResponse_ne req r (Ne.symm hc'), Option.none_or]
      exact hr.api_linked c' cl h' hty
  · have hc' : c ≠ c' := Nat.ne_of_lt (Nat.lt_of_lt_of_le hlt (hn ▸ h'))
    rw [hl, Out.registration_apiResponse_ne req r hc', Option.none_or]
    exact hr.fresh c' (hn ▸ h')

end RegInv

/-- What `wmediumd_remove_client` does to the client heap: it frees the client. -/
theorem wmediumdRemoveClient_clientHeap {ctx ctx' : Ctx} {c : ClientPtr} {outs : List Out}
    (h : wmediumdRemoveClient ctx c = .ok (ctx', outs)) :
    ctx'.clientHeap = Function.update ctx.clientHeap c none ∧ ctx'.nextClient = ctx.nextClient ∧
      ∀ o ∈ outs, o.isGhost = true := by
  obtain ⟨client, -, rfl, rfl⟩ := wmediumdRemoveClient_eq h
  simp

theorem heap_some_of_update_none {heap : ClientPtr → Option Client} {c c' : ClientPtr}
    {cl : Client} (h : Function.update heap c none c' = some cl) : heap c' = some cl := by
  rw [Function.update_apply] at h
  split_ifs at h
  exact h

theorem ClientInv.nlClient_ne {ctx : Ctx} (hi : ClientInv ctx) {c : ClientPtr} {cl : Client}
    (hcl : ctx.clientHeap c = some cl) (hty : cl.type ≠ .netlink) : ctx.nlClient ≠ some c :=
  fun h => by
    obtain ⟨linked, hlk⟩ := hi.netlink c h
    rw [hcl, Option.some.injEq] at hlk
    exact hty (hlk ▸ rfl)

/-- Every message of `outs` goes to a client live in `ctx`; a copy for a station with no bound
client goes to `ctx->clients` when its message fits its buffer, and to no client otherwise; a
transmit status is for a queued frame and goes to its `src`, with its cookie. -/
structure Addressed (ctx : Ctx) (outs : List Out) : Prop where
  live : ∀ o ∈ outs, ∀ c ∈ o.recipients, ctx.Live c
  unbound : ∀ p k msg rs (st : Station), Out.rx p k msg rs ∈ outs → ctx.stations[k]? = some st →
    st.client = none → rs = if msg.data.length ≤ 4036 then ctx.clients else []
  status : ∀ p c r, Out.txStatus p c r ∈ outs →
    ∃ f, ctx.Queued p ∧ ctx.frames p = some f ∧ f.src = some c ∧ r.cookie = f.cookie

namespace Addressed

variable {ctx : Ctx} {outs : List Out}

theorem of_ghost (h : ∀ o ∈ outs, o.isGhost = true) : Addressed ctx outs :=
  ⟨fun o ho c hc => by simp [Out.recipients_of_isGhost (h o ho)] at hc,
    fun _ _ _ _ _ ho => absurd (h _ ho) Bool.false_ne_true,
    fun _ _ _ ho => absurd (h _ ho) Bool.false_ne_true⟩

theorem append {o₁ o₂ : List Out} (h₁ : Addressed ctx o₁) (h₂ : Addressed ctx o₂) :
    Addressed ctx (o₁ ++ o₂) := by
  refine ⟨fun o ho => ?_, fun p k msg rs st ho => ?_, fun p c r ho => ?_⟩ <;>
    rcases List.mem_append.1 ho with ho | ho
  · exact h₁.live o ho
  · exact h₂.live o ho
  · exact h₁.unbound p k msg rs st ho
  · exact h₂.unbound p k msg rs st ho
  · exact h₁.status p c r ho
  · exact h₂.status p c r ho

theorem response {c : ClientPtr} (hc : ctx.Live c) (req : ApiRequest) (r : WmediumdMessage) :
    Addressed ctx [.apiResponse c req r] :=
  ⟨fun o ho c' hc' => by simp_all [Out.recipients], fun _ _ _ _ _ ho => by simp at ho,
    fun _ _ _ ho => by simp at ho⟩

/-- Delivery writes each copy to the receiver's bound client, or to `ctx->clients` when it has
none, and the transmit status to the frame's `src`: all of them live. -/
theorem deliverFrame (hi : ClientInv ctx) (hq : QueueInv ctx) {m : Medium} {env : RxEnv}
    {p : FramePtr} {ctx' : Ctx} (hp : Job.frame p ∈ ctx.sched)
    (h : wmediumdDeliverFrame m env { ctx with sched := ctx.sched.erase (.frame p) } p =
      .ok (ctx', outs)) : Addressed ctx outs := by
  obtain ⟨frame, intf, rxs, client, report, hf, hsrc, -, hcookie, hrxs, -, -, rfl⟩ :=
    wmediumdDeliverFrame_spec h
  have hqp := (hq.job_iff_queued p).1 hp
  refine ⟨fun o ho c hc => ?_, fun p' k msg rs st ho hst hnone => ?_, fun p' c r ho => ?_⟩
  · rcases List.mem_append.1 ho with ho | ho
    · obtain ⟨k, st, hk, rfl⟩ := hrxs o ho
      simp only [Out.recipients] at hc
      split at hc
      · simp only [clonedRecipients] at hc
        split at hc
        · rename_i c' hc'
          rw [List.mem_singleton.1 hc]
          exact hi.stations_live k st c' hk hc'
        · exact hi.clients_live c hc
      · exact absurd hc (List.not_mem_nil c)
    · rw [List.mem_singleton.1 ho, Out.recipients, List.mem_singleton] at hc
      exact hc ▸ hi.frames_live p frame client hqp hf hsrc
  · rcases List.mem_append.1 ho with ho | ho
    · obtain ⟨k', st', hk', he⟩ := hrxs _ ho
      simp only [Out.rx.injEq] at he
      obtain ⟨-, rfl, rfl, rfl⟩ := he
      obtain rfl : st' = st := Option.some.inj (hk'.symm.trans hst)
      simp [clonedRecipients, hnone, clonedMsgLen_isSome]
    · simp at ho
  · rcases List.mem_append.1 ho with ho | ho
    · obtain ⟨k, st, -, he⟩ := hrxs _ ho
      cases he
    · simp only [List.mem_singleton, Out.txStatus.injEq] at ho
      obtain ⟨rfl, rfl, rfl⟩ := ho
      exact ⟨frame, hqp, hf, hsrc, hcookie⟩

end Addressed

/-- What one handler run keeps and sends, as far as clients go. -/
structure ClientStep (log : List Out) (ctx : Ctx) (outs : List Out) (ctx' : Ctx) : Prop where
  inv : ClientInv ctx'
  reg : RegInv (log ++ outs) ctx'
  addressed : Addressed ctx outs

namespace ClientStep

variable {log : List Out} {ctx ctx' : Ctx} {outs : List Out}

theorem processMessages (hq : QueueInv ctx) (hi : ClientInv ctx) (hr : RegInv log ctx)
    {m : Medium} {env : TxEnv} {msg : NlMsg} {c : ClientPtr} (hc : ctx.Live c)
    (h : Wmediumd.processMessages m env ctx msg c = .ok (ctx', outs)) :
    ClientStep log ctx outs ctx' := by
  obtain ⟨hh, hn, -, ho⟩ := processMessages_clientHeap h
  exact ⟨hi.processMessages hq hc h,
    hr.mono (fun c cl h' => hh ▸ h') hn fun o h' => Out.registration_of_isGhost (ho o h'),
    .of_ghost ho⟩

theorem removeClient (hi : ClientInv ctx) (hr : RegInv log ctx) {c : ClientPtr}
    (hnl : ctx.nlClient ≠ some c) (h : wmediumdRemoveClient ctx c = .ok (ctx', outs)) :
    ClientStep log ctx outs ctx' := by
  obtain ⟨hh, hn, ho⟩ := wmediumdRemoveClient_clientHeap h
  exact ⟨hi.removeClient hnl h,
    hr.mono (fun c cl h' => heap_some_of_update_none (hh ▸ h')) hn
      fun o h' => Out.registration_of_isGhost (ho o h'),
    .of_ghost ho⟩

/-- A step that changes none of what clients depend on and sends nothing. -/
theorem quiet (hi : ClientInv ctx) (hr : RegInv log ctx) (hs : ctx'.stations = ctx.stations)
    (hf : ctx'.frames = ctx.frames) (hc : ctx'.clients = ctx.clients)
    (hh : ctx'.clientHeap = ctx.clientHeap) (hn : ctx'.nextClient = ctx.nextClient)
    (hnl : ctx'.nlClient = ctx.nlClient) : ClientStep log ctx [] ctx' :=
  ⟨hi.congr hs hf hc hh hn hnl, hr.mono (fun c cl h' => hh ▸ h') hn (by simp), .of_ghost (by simp)⟩

/-- A connect: a client at the next pointer, linked into `ctx->clients` when it is a vhost-user
client. -/
theorem connect (hi : ClientInv ctx) (hr : RegInv log ctx) {cl : Client}
    (hapi : cl.type = .apiSock → cl.linked = false)
    {clients : List ClientPtr}
    (hmem : clients = if cl.linked then ctx.nextClient :: ctx.clients else ctx.clients) :
    ClientStep log ctx []
      { ctx with clients := clients, nextClient := ctx.nextClient + 1,
                 clientHeap := Function.update ctx.clientHeap ctx.nextClient (some cl) } := by
  have hnot : ctx.nextClient ∉ ctx.clients := fun h => by
    simpa [Ctx.Live, hi.fresh _ (Nat.le_refl _)] using hi.clients_live _ h
  refine ⟨hi.setClient (fun cl₀ h => by simp [hi.fresh _ (Nat.le_refl _)] at h) ?_ (fun c' => ?_)
    (Nat.lt_succ_self _) (Nat.le_succ _), hr.connect hapi rfl rfl, .of_ghost (by simp)⟩
  · subst hmem
    split
    · exact List.nodup_cons.2 ⟨hnot, hi.clients_nodup⟩
    · exact hi.clients_nodup
  · subst hmem
    by_cases hc' : c' = ctx.nextClient
    · subst hc'
      split <;> simp_all
    · split <;> simp_all

theorem deliverFrame (hq : QueueInv ctx) (hi : ClientInv ctx) (hr : RegInv log ctx)
    {m : Medium} {env : RxEnv} {p : FramePtr} (hp : Job.frame p ∈ ctx.sched)
    (h : wmediumdDeliverFrame m env { ctx with sched := ctx.sched.erase (.frame p) } p =
      .ok (ctx', outs)) : ClientStep log ctx outs ctx' := by
  obtain ⟨frame, intf, rxs, client, report, -, -, -, -, hrxs, -, rfl, rfl⟩ :=
    wmediumdDeliverFrame_spec h
  refine ⟨hi.deliverFrame hq hp h, hr.mono (fun c cl h' => h') rfl fun o ho c => ?_,
    Addressed.deliverFrame hi hq hp h⟩
  rcases List.mem_append.1 ho with ho | ho
  · obtain ⟨k, st, -, rfl⟩ := hrxs o ho
    rfl
  · rw [List.mem_singleton.1 ho]
    rfl

theorem apiHandler (hq : QueueInv ctx) (hi : ClientInv ctx) (hr : RegInv log ctx) {m : Medium}
    {env : TxEnv} {c : ClientPtr} {linked : Bool} {read : ApiRead} {written : Bool}
    (hcl : ctx.clientHeap c = some ⟨.apiSock, linked⟩)
    (h : wmediumdApiHandler m env ctx c read written = .ok (ctx', outs)) :
    ClientStep log ctx outs ctx' := by
  have hnl := hi.nlClient_ne hcl ClientType.noConfusion
  obtain ⟨client, hcl', hcases⟩ := wmediumdApiHandler_cases h
  rw [hcl, Option.some.injEq] at hcl'
  subst hcl'
  rcases hcases with ⟨-, hrm⟩ | ⟨req, mid, o, r, -, hd, ⟨-, rfl, rfl⟩ | ⟨-, removed, hrm, rfl⟩⟩
  · exact removeClient hi hr hnl hrm
  all_goals
    have hmid := hi.apiDispatch hq hcl rfl hd
    have hrmid := hr.apiDispatch hcl (hi.lt_nextClient hcl) hd
    obtain ⟨-, -, hnl', ho⟩ := apiDispatch_clientHeap hcl hd
    have haddr : Addressed ctx (o ++ [.apiResponse c req r]) :=
      (Addressed.of_ghost ho).append (.response (Ctx.live_of_heap hcl) req r)
  · exact ⟨hmid, hrmid, haddr⟩
  · have hstep := removeClient hmid hrmid (hnl' ▸ hnl) hrm
    obtain ⟨-, -, ho'⟩ := wmediumdRemoveClient_clientHeap hrm
    exact ⟨hstep.inv, by rw [← List.append_assoc]; exact hstep.reg,
      haddr.append (.of_ghost ho')⟩

end ClientStep

/-- Every handler run keeps the client bookkeeping and writes only to live clients. -/
theorem clientStep {m : Medium} {log : List Out} {ctx ctx' : Ctx} {input : Input}
    {outs : List Out} (hq : QueueInv ctx) (hi : ClientInv ctx) (hr : RegInv log ctx)
    (hs : Step m ctx input outs ctx') : ClientStep log ctx outs ctx' := by
  obtain ⟨hen, h⟩ := hs
  cases input with
  | netlinkMessage msg env =>
      obtain ⟨c, hc⟩ := Option.isSome_iff_exists.1 hen
      simp only [wmediumdStep, hc] at h
      obtain ⟨linked, hcl⟩ := hi.netlink c hc
      exact .processMessages hq hi hr (Ctx.live_of_heap hcl) h
  | vhostUserConnected =>
      cases h
      exact .connect hi hr ClientType.noConfusion rfl
  | vhostUserMessage c msg env =>
      obtain ⟨linked, hcl⟩ := hen
      cases msg with
      | none =>
          cases h
          exact .quiet hi hr rfl rfl rfl rfl rfl rfl
      | some msg => exact .processMessages hq hi hr (Ctx.live_of_heap hcl) h
  | vhostUserDisconnected c =>
      obtain ⟨linked, hcl⟩ := hen
      exact .removeClient hi hr (hi.nlClient_ne hcl ClientType.noConfusion) h
  | apiConnected =>
      cases h
      exact .connect hi hr (fun _ => rfl) rfl
  | apiMessage c read written env =>
      obtain ⟨linked, hcl⟩ := hen
      exact .apiHandler hq hi hr hcl h
  | jobFired j env =>
      cases j with
      | frame p => exact .deliverFrame hq hi hr hen.1 h
      | intfUpdate =>
          cases h
          exact .quiet hi hr rfl rfl rfl rfl rfl rfl
  | timePasses t =>
      cases h
      exact .quiet hi hr rfl rfl rfl rfl rfl rfl

/-- Along every run from the initial state the queue, client and registration bookkeeping
hold. -/
theorem run_clientInv {m : Medium} {ids : List MacAddr} {interference useNetlink : Bool}
    {log : List Out} {ctx : Ctx} (hrun : Run m (initCtx ids interference useNetlink) log ctx) :
    QueueInv ctx ∧ ClientInv ctx ∧ RegInv log ctx := by
  induction hrun with
  | refl => exact ⟨.init ids interference useNetlink, .init ids interference useNetlink,
      .init ids interference useNetlink⟩
  | step _ hs ih =>
      obtain ⟨hq, hi, hr⟩ := ih
      obtain ⟨gone, hc, -⟩ := step_changes hq hs
      have h := clientStep hq hi hr hs
      exact ⟨hc.queueInv hq, h.inv, h.reg⟩

/-- In every state a run reaches, every client in `ctx->clients`, bound to a station or recorded
as the `src` of a queued frame is live, `ctx->clients` holds each client once, and an API client
is in `ctx->clients` exactly when the last `REGISTER` or `UNREGISTER` accepted for it was a
`REGISTER`. So the next handler writes every message to a live client, and a copy for a station
with no bound client to each client of `ctx->clients` when the frame has at most 4036 bytes, and
to none when it is longer. -/
theorem reachable_clients_live {m : Medium} {ids : List MacAddr} {interference useNetlink : Bool}
    {log : List Out} {ctx : Ctx} (hrun : Run m (initCtx ids interference useNetlink) log ctx) :
    ClientInv ctx ∧
      (∀ c cl, ctx.clientHeap c = some cl → cl.type = .apiSock →
        (c ∈ ctx.clients ↔ lastRegistration c log = some true)) ∧
      ∀ input outs ctx', Step m ctx input outs ctx' →
        (∀ o ∈ outs, ∀ c ∈ o.recipients, ctx.Live c) ∧
        ∀ p k msg rs st, Out.rx p k msg rs ∈ outs → ctx.stations[k]? = some st →
          st.client = none → rs = if msg.data.length ≤ 4036 then ctx.clients else [] := by
  obtain ⟨hq, hi, hr⟩ := run_clientInv hrun
  refine ⟨hi, fun c cl h hty => (hi.linked_iff c cl h).symm.trans (hr.api_linked c cl h hty),
    fun input outs ctx' hs => ?_⟩
  have h := (clientStep hq hi hr hs).addressed
  exact ⟨h.live, h.unbound⟩

/-- The bookkeeping at the end of `sample_run`, after client 1 was bound to `addrB`, received
the copy of frame 0 and disconnected, and the copy of frame 2 went to `ctx->clients`. -/
theorem reachable_clients_live_sample :
    ∃ log ctx, Run perfectMedium (initCtx [addrA, addrB] false true) log ctx ∧
      Out.cancelled 1 ∈ log ∧ ClientInv ctx ∧
      (∀ c cl, ctx.clientHeap c = some cl → cl.type = .apiSock →
        (c ∈ ctx.clients ↔ lastRegistration c log = some true)) ∧
      ∀ input outs ctx', Step perfectMedium ctx input outs ctx' →
        (∀ o ∈ outs, ∀ c ∈ o.recipients, ctx.Live c) ∧
        ∀ p k msg rs st, Out.rx p k msg rs ∈ outs → ctx.stations[k]? = some st →
          st.client = none → rs = if msg.data.length ≤ 4036 then ctx.clients else [] := by
  obtain ⟨_, _, _, _, _, _, _, _, _, _, _, _, ctx, hrun, -⟩ := sample_run
  exact ⟨_, ctx, hrun, by simp, reachable_clients_live hrun⟩

/-- The body of a frame past its first byte after the header: 4020 bytes that no handler reads
but for their number. It is kept folded, so that evaluating a run never unfolds it. -/
@[irreducible] def framePadding : Bytes := List.replicate 4020 0

/-- A data frame of 4037 bytes from `addrA` to `addrB` with one MRR row of one attempt. -/
def oversizedFrame : NlMsg :=
  frameMessage addrA (shortHeader 0x08 0 addrB addrA ++ 0 :: framePadding) [0, 1] [0, 0, 0, 0]

/-- Its copy does not fit its message: `addrB` has no bound client and the kernel is in
`ctx->clients`, yet `send_cloned_frame_msg` writes the copy to no client. -/
theorem long_copy_to_no_client :
    ∃ outs₁ ctx₁ t outs₂ ctx₂ outs ctx₃ st,
      Step perfectMedium (initCtx [addrA, addrB] false true)
        (.netlinkMessage oversizedFrame (txDraws 0)) outs₁ ctx₁ ∧
      Step perfectMedium ctx₁ (.timePasses t) outs₂ ctx₂ ∧
      Step perfectMedium ctx₂ (.jobFired (.frame 0) rxQuiet) outs ctx₃ ∧
      ctx₂.stations[1]? = some st ∧ st.client = none ∧ ctx₂.clients = [0] ∧
      ∃ msg, Out.rx 0 1 msg [] ∈ outs :=
  ⟨_, _, _, _, _, _, _, _, ⟨rfl, rfl⟩, ⟨Nat.zero_le _, rfl⟩,
    ⟨⟨List.mem_singleton_self _, rfl⟩, rfl⟩, rfl, rfl, rfl, _,
    List.mem_append_left _ (List.mem_singleton.2 (sendClonedFrameMsg_of_long (by
      simp only [shortHeader, framePadding, List.length_append, List.length_cons,
        MacAddr.length_octets, List.length_replicate]; decide)).symm)⟩

end Wmediumd
