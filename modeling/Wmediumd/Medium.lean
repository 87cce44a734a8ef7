import Wmediumd.State

/-!
# Link model and interference bookkeeping

The configuration chooses the link model once (`load_config` in `config.c`): the function
pointers `ctx->get_link_snr` and `ctx->get_error_prob` either read the SNR matrix and the
packet-error-rate table, or return `SNR_DEFAULT` and read the error-probability matrix. The
model keeps that choice as the tagged `LinkModel`; `per.c`, which holds `index_to_rate` and
`get_error_prob_from_snr`, is not under `src/`, so those two are parameters of `Medium`.

`set_interference_duration` and `wmediumd_intf_update` work on `ctx->intf`. The offset
`get_signal_offset_by_interference` computes is a sum of `pow` terms drawn with `drand48()`;
the model takes the drawn integer as an input and keeps only what the code decides without
floating point: it is 0 when interference is off.
-/

namespace Wmediumd

/-- The pair `ctx->get_link_snr`, `ctx->get_error_prob` chosen by the configuration. -/
inductive LinkModel
  /-- `get_link_snr_from_snr_matrix` and `_get_error_prob_from_snr`: `ifaces.links` or
  `path_loss` filled `ctx->snr_matrix`, read at `sender * N + receiver`. -/
  | snrMatrix (snr : Nat → Int)
  /-- `get_link_snr_default` and `get_error_prob_from_matrix`: `ifaces.error_probs`, read at
  `N * src + dst`. -/
  | errorProbMatrix (errorProb : Nat → ℚ)

/-- The fixed configuration of a run. -/
structure Medium where
  link : LinkModel
  /-- `index_to_rate` of `per.c`: the rate of an MRR index at a frequency, in 100 kb/s. -/
  indexToRate : Int → UInt32 → Nat
  /-- `get_error_prob_from_snr` of `per.c`, by SNR, rate index, frequency and length. -/
  errorProbFromSnr : Int → Int → UInt32 → Nat → ℚ

def getLinkSnr (m : Medium) (n : Nat) (sender receiver : Station) : Int :=
  match m.link with
  | .snrMatrix snr => snr (sender.index * n + receiver.index)
  | .errorProbMatrix _ => snrDefault

/-- `ctx->get_error_prob`; `dst = none` is the `NULL` destination of a multicast frame. -/
def getErrorProb (m : Medium) (n : Nat) (snr rateIdx : Int) (freq : UInt32) (len : Nat)
    (src : Station) (dst : Option Station) : ℚ :=
  match m.link with
  | .snrMatrix _ => m.errorProbFromSnr snr rateIdx freq len
  | .errorProbMatrix errorProb =>
      match dst with
      | none => 0
      | some dst => errorProb (n * src.index + dst.index)

/-- `use_fixed_random_value`: `ctx->error_prob_matrix != NULL`. -/
def useFixedRandomValue (m : Medium) : Bool :=
  match m.link with
  | .snrMatrix _ => false
  | .errorProbMatrix _ => true

/-- `get_station_by_addr`, as the position of the first station with that address. -/
def getStationByAddr (stations : List Station) (addr : MacAddr) : Option Nat :=
  stations.findIdx? fun st => st.addr == addr

theorem getStationByAddr_congr {l l' : List Station} (h : l'.map Station.addr = l.map Station.addr)
    (addr : MacAddr) : getStationByAddr l' addr = getStationByAddr l addr := by
  have key : ∀ l : List Station, getStationByAddr l addr = (l.map Station.addr).findIdx? (· == addr) :=
    fun l => by simp [getStationByAddr, Function.comp_def]
  rw [key, key, h]

theorem getStationByAddr_eq_some {l : List Station} {addr : MacAddr} {k : Nat}
    (h : getStationByAddr l addr = some k) : ∃ st, l[k]? = some st ∧ st.addr = addr := by
  obtain ⟨hk, hst, -⟩ := List.findIdx?_eq_some_iff_getElem.1 h
  exact ⟨_, List.getElem?_eq_getElem hk, by simpa using hst⟩

theorem getStationByAddr_eq_none {l : List Station} {addr : MacAddr}
    (h : getStationByAddr l addr = none) : ∀ st ∈ l, st.addr ≠ addr := by
  simpa [getStationByAddr] using h

/-! ## Interference -/

/-- `get_signal_offset_by_interference`, with the offset drawn from the matrix as input. -/
def signalOffsetByInterference (intf : Option (Nat → IntfInfo)) (drawn : Nat) : Int :=
  match intf with
  | none => 0
  | some _ => drawn

/-- `set_interference_duration`: for a signal below the CCA threshold, adds `duration` to row
`srcIdx` of the matrix and overwrites its signal; returns the matrix and whether it did. -/
def setInterferenceDuration (n : Nat) (intf : Option (Nat → IntfInfo)) (srcIdx duration : Nat)
    (signal : Int) : Option (Nat → IntfInfo) × Bool :=
  match intf with
  | none => (none, false)
  | some matrix =>
      if ccaThreshold ≤ signal then (some matrix, false)
      else
        (some fun x => if n * srcIdx ≤ x ∧ x < n * srcIdx + n then
            { matrix x with duration := (matrix x).duration + duration, signal := signal }
          else matrix x, true)

/-- `set_interference_duration` records exactly when interference is on and the signal is
below the CCA threshold. -/
@[simp] theorem setInterferenceDuration_snd (n : Nat) (intf : Option (Nat → IntfInfo))
    (srcIdx duration : Nat) (signal : Int) :
    (setInterferenceDuration n intf srcIdx duration signal).2 =
      (intf.isSome && decide (signal < ccaThreshold)) := by
  cases intf with
  | none => rfl
  | some matrix =>
      by_cases h : ccaThreshold ≤ signal
      · simp [setInterferenceDuration, h, Int.not_lt.2 h]
      · simp [setInterferenceDuration, h]
        omega

@[simp] theorem setInterferenceDuration_isSome (n : Nat) (intf : Option (Nat → IntfInfo))
    (srcIdx duration : Nat) (signal : Int) :
    (setInterferenceDuration n intf srcIdx duration signal).1.isSome = intf.isSome := by
  cases intf with
  | none => rfl
  | some matrix => by_cases h : ccaThreshold ≤ signal <;> simp [setInterferenceDuration, h]

/-- The body of `wmediumd_intf_update`: every off-diagonal entry turns its busy time of the
last 10 ms into a collision probability and starts again from 0. -/
def wmediumdIntfUpdate (n : Nat) (matrix : Nat → IntfInfo) : Nat → IntfInfo :=
  fun x => if x < n * n ∧ x / n ≠ x % n then
      { matrix x with probCol := ((matrix x).duration : ℚ) / 10000, duration := 0 }
    else matrix x

end Wmediumd
