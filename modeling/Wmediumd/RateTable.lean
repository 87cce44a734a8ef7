import Wmediumd.MrrReference

/-!
# The rate table a TX status reports

After the walk `queue_frame` rewrites the frame's rate table, which `send_tx_info_frame_nl` then
copies back to the kernel as it is: when attempt `j` of row `i` was acknowledged, row `i` keeps
`count = j + 1` and every later row below `tx_rates_count` is marked unused with `idx = -1`;
otherwise the table goes back as it came. Read as the walk reads a table (rows up to the first with
`idx < 0`, `count` attempts a row), the table reported lists exactly the attempts the walk made:
the slots up to the acknowledged one, or all of them (`reported_rates_are_attempts`).

The truncation is first stated on the list of rows (`truncRows`), where the prefix of the slots
follows by induction on the rows; `truncateTxRates` on the array is then shown to give those rows.
-/

namespace Wmediumd

/-! ## The truncation on the list of rows -/

/-- The rows after attempt `j` of row `i` was acknowledged: row `i` keeps `j + 1` attempts, the
rows after it are unused. -/
def truncRows : List HwsimTxRate → Nat → Nat → List HwsimTxRate
  | [], _, _ => []
  | r :: rows, 0, j => { r with count := j + 1 } :: rows.map fun _ => ⟨-1, 255⟩
  | r :: rows, i + 1, j => r :: truncRows rows i j

@[simp] theorem length_truncRows (rows : List HwsimTxRate) (i j : Nat) :
    (truncRows rows i j).length = rows.length := by
  induction rows generalizing i with
  | nil => rfl
  | cons r rows ih => cases i <;> simp [truncRows, ih]

theorem getElem_truncRows (rows : List HwsimTxRate) (i j n : Nat)
    (h : n < (truncRows rows i j).length) :
    (truncRows rows i j)[n] =
      if n < i then rows.get ⟨n, by simpa using h⟩
      else if n = i then { rows.get ⟨n, by simpa using h⟩ with count := j + 1 } else ⟨-1, 255⟩ := by
  induction rows generalizing i n with
  | nil => simp at h
  | cons r rows ih =>
      cases i with
      | zero => cases n <;> simp [truncRows]
      | succ i => cases n <;> simp [truncRows, ih]

/-- Rows that all have `idx < 0` hold no slot. -/
theorem mrrSlots_unused (i : Nat) (rows : List HwsimTxRate) :
    mrrSlots i (rows.map fun _ => ⟨-1, 255⟩) = [] := by
  cases rows <;> simp [mrrSlots]

/-- Every slot from row `i` on lies in one of the rows. -/
theorem row_mem_of_mem_mrrSlots {i : Nat} {rows : List HwsimTxRate} {s : Slot}
    (h : s ∈ mrrSlots i rows) : i ≤ s.row ∧ s.row < i + rows.length := by
  induction rows generalizing i with
  | nil => simp [mrrSlots] at h
  | cons r rows ih =>
      by_cases hr : r.idx < 0
      · simp [mrrSlots, hr] at h
      · simp only [mrrSlots, if_neg hr, List.mem_append, List.mem_map, List.mem_range] at h
        rcases h with ⟨j, -, rfl⟩ | h
        · simp
        · have := ih h
          simp only [List.length_cons]
          omega

/-- Cutting the rows after slot `n` leaves the slots up to and including slot `n`. -/
theorem mrrSlots_truncRows {i n : Nat} {rows : List HwsimTxRate} {s : Slot}
    (h : (mrrSlots i rows)[n]? = some s) :
    mrrSlots i (truncRows rows (s.row - i) s.attempt) = (mrrSlots i rows).take (n + 1) := by
  induction rows generalizing i n with
  | nil => simp [mrrSlots] at h
  | cons r rows ih =>
      by_cases hr : r.idx < 0
      · simp [mrrSlots, hr] at h
      simp only [mrrSlots, if_neg hr] at h ⊢
      by_cases hn : n < r.count
      · -- the acknowledged slot is in the first row
        rw [List.getElem?_append_left (by simpa using hn)] at h
        simp only [List.getElem?_map, List.getElem?_range hn, Option.map_some',
          Option.some.injEq] at h
        subst h
        simp only [Nat.sub_self, truncRows, mrrSlots, if_neg hr, mrrSlots_unused, List.append_nil,
          List.take_append_eq_append_take, List.length_map, List.length_range,
          Nat.sub_eq_zero_of_le hn, List.take_zero, ← List.map_take, List.take_range,
          Nat.min_eq_left hn]
      · -- it is in a later row
        rw [List.getElem?_append_right (by simpa using hn)] at h
        simp only [List.length_map, List.length_range] at h
        have hrow := row_mem_of_mem_mrrSlots (List.getElem?_mem h)
        obtain ⟨k, hk⟩ : ∃ k, s.row - i = k + 1 := ⟨s.row - (i + 1), by omega⟩
        have hk' : s.row - (i + 1) = k := by omega
        rw [hk, truncRows, mrrSlots, if_neg hr, ← hk', ih h, List.take_append_eq_append_take,
          List.take_of_length_le (l := List.map _ (List.range r.count)) (by simp; omega),
          List.length_map, List.length_range]
        congr 2
        omega

/-! ## The truncation on the array -/

theorem txRateSet_of_lt {rates : Fin ieee80211TxMaxRates → HwsimTxRate} {i : Nat}
    (h : i < ieee80211TxMaxRates) (r : HwsimTxRate) :
    txRateSet rates i r = .ok (Function.update rates ⟨i, h⟩ r) :=
  dif_pos h

/-- The loop that marks rows unused writes `r` at each index of the list. -/
theorem foldlM_txRateSet (r : HwsimTxRate) (l : List Nat) (hl : ∀ i ∈ l, i < ieee80211TxMaxRates)
    (rates : Fin ieee80211TxMaxRates → HwsimTxRate) :
    l.foldlM (fun rates i => txRateSet rates i r) rates =
      .ok fun k => if k.val ∈ l then r else rates k := by
  induction l generalizing rates with
  | nil => simp
  | cons i l ih =>
      have hi := hl i (List.mem_cons_self _ _)
      rw [List.foldlM_cons, txRateSet_of_lt hi, ok_bind,
        ih (fun j hj => hl j (List.mem_cons_of_mem _ hj))]
      congr 1
      funext k
      by_cases hk : k.val = i <;> simp [hk, Function.update_apply, Fin.ext_iff]

/-- `truncate` of `queue_frame` for a row inside the count: the acknowledged row keeps
`attempt + 1` attempts, the later rows below the count are unused, the others are unchanged. -/
theorem truncateTxRates_apply {rates rates' : Fin ieee80211TxMaxRates → HwsimTxRate}
    {count row attempt : Nat} (hc : count ≤ ieee80211TxMaxRates) (hrow : row < count)
    (ht : truncateTxRates rates count row attempt = .ok rates') (k : Fin ieee80211TxMaxRates) :
    rates' k = if row < k.val ∧ k.val < count then ⟨-1, 255⟩
      else if k.val = row then { rates k with count := attempt + 1 } else rates k := by
  have h4 : row < ieee80211TxMaxRates := by omega
  rw [truncateTxRates, txRateAt, dif_pos h4, ok_bind, txRateSet_of_lt h4, ok_bind,
    foldlM_txRateSet _ _ (fun i hi => by simp at hi; omega)] at ht
  cases ht
  by_cases hk : k.val = row
  · obtain rfl : k = ⟨row, h4⟩ := Fin.ext hk
    simp [List.mem_range'_1]
  · simp only [List.mem_range'_1, Function.update_apply, Fin.ext_iff, hk, if_false]
    congr 1
    simp only [eq_iff_iff]
    omega

/-- The rows of a frame whose table was truncated at attempt `attempt` of row `row` are the
truncated rows. -/
theorem frameRows_truncate {frame sent : Frame} {row attempt : Nat}
    (hc : frame.txRatesCount ≤ ieee80211TxMaxRates) (hrow : row < frame.txRatesCount)
    (ht : truncateTxRates frame.txRates frame.txRatesCount row attempt = .ok sent.txRates)
    (hn : sent.txRatesCount = frame.txRatesCount) :
    frameRows sent = truncRows (frameRows frame) row attempt := by
  apply List.ext_getElem
  · simp [frameRows, hn]
  · intro n h₁ _
    have hn4 : n < ieee80211TxMaxRates := by simp [frameRows] at h₁; omega
    have hnc : n < frame.txRatesCount := by simp [frameRows, hn] at h₁; omega
    rw [getElem_truncRows]
    simp only [frameRows, List.getElem_take, List.getElem_map, List.getElem_finRange]
    rw [truncateTxRates_apply hc hrow ht]
    by_cases hlt : n < row
    · simp [hlt, Nat.not_lt.2 hlt.le, hlt.ne]
    · by_cases heq : n = row
      · simp [heq]
      · simp [hlt, heq, Nat.lt_of_le_of_ne (Nat.not_lt.1 hlt) (Ne.symm heq), hnc]

/-! ## The table reported -/

theorem firstHit_lt {α : Type} {ok : Nat → α → Bool} {l : List α} {n : Nat}
    (h : firstHit ok l = some n) : n < l.length := by
  induction l generalizing ok n with
  | nil => simp [firstHit] at h
  | cons x xs ih =>
      simp only [firstHit] at h
      split at h
      · cases h; simp
      · obtain ⟨k, hk, rfl⟩ := Option.map_eq_some'.1 h
        simpa using ih hk

/-- The rate table of the TX status lists the attempts the walk made. For every frame whose table
is within bounds that `queue_frame` sends, the table it returns keeps `tx_rates_count`, and read as
the walk reads a table it holds the slots of the walk up to the first acknowledged attempt, or all
of them when none was acknowledged; the same first acknowledged attempt gives the frame's
`send_time` as the description of the walk. -/
theorem reported_rates_are_attempts {m : Medium} {env : TxEnv} {ctx : Ctx} {station : Station}
    {ac : AcNumber} {frame sent : Frame} (hc : frame.txRatesCount ≤ ieee80211TxMaxRates)
    (h : queueFrameMrr m env ctx station ac frame = .ok sent) :
    sent.txRatesCount = frame.txRatesCount ∧
      ∃ dest mgmt, frameAddr frame.data 4 = .ok dest ∧ frameIsMgmt frame.data = .ok mgmt ∧
        let deststa := queueFrameDeststa ctx dest
        let errorProb := fun idx => getErrorProb m ctx.stations.length
          (queueFrameSnr m env ctx station deststa) idx frame.freq frame.data.length station deststa
        let a : Attempts := ⟨mgmt || isMulticastEtherAddr dest, useFixedRandomValue m,
          pktDuration 14 (m.indexToRate 0 frame.freq) + sifs, (station.queues ac).cwMax, env.draws⟩
        let slots := mrrSlots 0 (frameRows frame)
        let hit := firstHit (attemptAcked a errorProb 0) slots
        sent.duration = (mrrReference a
            (fun idx => (difs + pktDuration frame.data.length (m.indexToRate idx frame.freq),
              errorProb idx))
            slots ⟨0, (station.queues ac).cwMin, 0⟩).sendTime ∧
          mrrSlots 0 (frameRows sent) = slots.take ((hit.map (· + 1)).getD slots.length) := by
  obtain ⟨dest, mgmt, w, stop, rates, hd, hm, hw, hr, rfl⟩ := queueFrameMrr_ok h
  refine ⟨rfl, dest, mgmt, hd, hm, ?_⟩
  intro deststa errorProb
  rw [txRateAt_range hc] at hw
  obtain ⟨e, he, hack⟩ := mrrWalk_eq_slotWalk (frameRows frame) 0 ⟨0, (station.queues ac).cwMin, 0⟩
  rw [he, Except.ok.injEq, Prod.mk.injEq] at hw
  obtain ⟨rfl, rfl⟩ := hw
  obtain ⟨hsend, -, hacked⟩ := @slotWalk_eq_reference ⟨mgmt || isMulticastEtherAddr dest,
      useFixedRandomValue m, pktDuration 14 (m.indexToRate 0 frame.freq) + sifs,
      (station.queues ac).cwMax, env.draws⟩
    (fun idx => (difs + pktDuration frame.data.length (m.indexToRate idx frame.freq),
      errorProb idx))
    (mrrSlots 0 (frameRows frame)) ⟨0, (station.queues ac).cwMin, 0⟩
  refine ⟨hsend, ?_⟩
  rw [hacked] at hack
  simp only [mrrReference] at hack
  generalize hhit : firstHit _ _ = hit at hack ⊢
  cases hit with
  | none =>
      cases e with
      | acked i j => simp [WalkEnd.ackedAt] at hack
      | _ => subst hr; simp only [Option.map_none', Option.getD_none, List.take_length]; rfl
  | some n =>
      obtain ⟨s, hs⟩ : ∃ s, (mrrSlots 0 (frameRows frame))[n]? = some s :=
        ⟨_, List.getElem?_eq_getElem (firstHit_lt hhit)⟩
      simp only [Option.some_bind, hs, Option.map_some'] at hack
      cases e with
      | acked i j =>
          obtain ⟨rfl, rfl⟩ := Prod.mk.inj (Option.some.inj hack)
          have hrow := (row_mem_of_mem_mrrSlots (List.getElem?_mem hs)).2
          have hlen : (frameRows frame).length = frame.txRatesCount := by simp [frameRows]; omega
          have hrows : frameRows { frame with txRates := rates } =
              truncRows (frameRows frame) s.row s.attempt :=
            frameRows_truncate hc (by omega) hr rfl
          change mrrSlots 0 (frameRows { frame with txRates := rates }) = _
          simpa [hrows] using mrrSlots_truncRows hs
      | _ => simp [WalkEnd.ackedAt] at hack

/-- A data frame from `addrA` to `addrB` with three rows of two attempts at rate index 0. -/
def threeRowFrame : Frame :=
  ⟨shortHeader 0x08 0 addrB addrA, 0, 0, 2412, 0, none, fun _ => ⟨0, 2⟩, 3, 0, 0, 0⟩

theorem three_row_frame_reports_attempts :
    ∃ st sent, (initCtx [addrA, addrB] false true).stations[0]? = some st ∧
      threeRowFrame.txRatesCount ≤ ieee80211TxMaxRates ∧
      queueFrameMrr perfectMedium (txDraws 0) (initCtx [addrA, addrB] false true) st 0
        threeRowFrame = .ok sent ∧
      sent.txRatesCount = threeRowFrame.txRatesCount ∧
      ∃ dest mgmt, frameAddr threeRowFrame.data 4 = .ok dest ∧
        frameIsMgmt threeRowFrame.data = .ok mgmt ∧
        let ctx := initCtx [addrA, addrB] false true
        let deststa := queueFrameDeststa ctx dest
        let errorProb := fun idx => getErrorProb perfectMedium ctx.stations.length
          (queueFrameSnr perfectMedium (txDraws 0) ctx st deststa) idx threeRowFrame.freq
          threeRowFrame.data.length st deststa
        let a : Attempts := ⟨mgmt || isMulticastEtherAddr dest, useFixedRandomValue perfectMedium,
          pktDuration 14 (perfectMedium.indexToRate 0 threeRowFrame.freq) + sifs,
          (st.queues 0).cwMax, (txDraws 0).draws⟩
        let slots := mrrSlots 0 (frameRows threeRowFrame)
        let hit := firstHit (attemptAcked a errorProb 0) slots
        sent.duration = (mrrReference a
            (fun idx => (difs + pktDuration threeRowFrame.data.length
              (perfectMedium.indexToRate idx threeRowFrame.freq), errorProb idx))
            slots ⟨0, (st.queues 0).cwMin, 0⟩).sendTime ∧
          mrrSlots 0 (frameRows sent) = slots.take ((hit.map (· + 1)).getD slots.length) :=
  ⟨_, _, rfl, by decide, rfl, reported_rates_are_attempts (by decide)
    (show queueFrameMrr _ _ (initCtx [addrA, addrB] false true) _ _ _ = _ from rfl)⟩

end Wmediumd
