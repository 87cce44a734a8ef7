import Mathlib.Data.List.Basic
import Mathlib.Data.List.FinRange
import Mathlib.Data.Rat.Defs
import Mathlib.Algebra.Order.Ring.Nat

/-!
# Bytes, addresses and constants of wmediumd

The values `wmediumd.c` reads from its headers, the inline helpers `div_round` and
`pkt_duration`, the EDCA queues `station_init_queues` builds, and the checked reads through
which the model touches `frame->data`. A read past the end of the bytes it is allowed to see is
undefined behaviour in C; the model returns a `Fault` there, so a memory-safety claim becomes
the statement that a computation never returns that fault.

`ieee80211.h` and `api.h` are not under `src/`: the few values of them that the code reads are
modelled from the spec and marked so.
-/

namespace Wmediumd

/-- The bytes of a frame, of a netlink attribute payload or of a socket stream. -/
abbrev Bytes := List UInt8

def ethAlen : Nat := 6

/-- A 6-byte MAC address, `u8 addr[ETH_ALEN]`. -/
structure MacAddr where
  octets : List UInt8
  length_octets : octets.length = ethAlen
  deriving DecidableEq

/-- `is_multicast_ether_addr`: the group bit of the first octet. -/
def isMulticastEtherAddr (addr : MacAddr) : Bool :=
  (addr.octets.headD 0 &&& 1) != 0

/-! ## Computations that can fault -/

@[simp] theorem ok_bind {ε α β : Type} (a : α) (f : α → Except ε β) : (Except.ok a >>= f) = f a :=
  rfl

@[simp] theorem error_bind {ε α β : Type} (e : ε) (f : α → Except ε β) :
    (Except.error e >>= f : Except ε β) = .error e :=
  rfl

@[simp] theorem pure_eq_ok {ε α : Type} (a : α) : (pure a : Except ε α) = .ok a :=
  rfl

@[simp] theorem throw_eq_error {ε α : Type} (e : ε) : (throw e : Except ε α) = .error e :=
  rfl

theorem bind_eq_ok {ε α β : Type} {x : Except ε α} {f : α → Except ε β} {b : β} :
    x >>= f = .ok b ↔ ∃ a, x = .ok a ∧ f a = .ok b := by
  cases x <;> simp

theorem bind_eq_error {ε α β : Type} {x : Except ε α} {f : α → Except ε β} {e : ε} :
    x >>= f = .error e ↔ x = .error e ∨ ∃ a, x = .ok a ∧ f a = .error e := by
  cases x <;> simp

/-- A check that fails with `e` when `c` holds. -/
theorem ite_error_eq_ok {ε α : Type} {c : Prop} [Decidable c] {e : ε} {x : Except ε α} {a : α} :
    (if c then .error e else x) = .ok a ↔ ¬c ∧ x = .ok a := by
  split <;> simp_all

/-- Two continuations that agree on every value the computation can return. -/
theorem bind_congr_of_ok {ε α β : Type} {x : Except ε α} {f g : α → Except ε β}
    (h : ∀ a, x = .ok a → f a = g a) : x >>= f = x >>= g := by
  cases x with
  | error e => rfl
  | ok a => exact h a rfl

/-! ## Constants of `wmediumd.h` -/

def hwsimTxCtlReqTxStatus : UInt32 := 1
def hwsimTxCtlNoAck : UInt32 := (1 : UInt32) <<< 1
def hwsimTxStatAck : UInt32 := (1 : UInt32) <<< 2

def hwsimCmdRegister : UInt8 := 1
def hwsimCmdFrame : UInt8 := 2
def hwsimCmdTxInfoFrame : UInt8 := 3

def snrDefault : Int := 30
def noiseLevel : Int := -91
def ccaThreshold : Int := -90

/-- The generic-netlink attributes `_process_messages` and the two senders use. The kernel's
wire ids are `ADDR_RECEIVER = 1` to `COOKIE = 8` and `FREQ = 19`; the model keeps the
attributes by name, as `genlmsg_parse` files them. -/
inductive HwsimAttr
  | addrReceiver
  | addrTransmitter
  | frame
  | flags
  | rxRate
  | signal
  | txInfo
  | cookie
  | freq
  deriving DecidableEq, Repr

/-- What C leaves undefined, where the model stops. -/
inductive Fault
  /-- `nla_len`, `nla_data` or `nla_get_*` on an attribute the message does not carry. -/
  | missingAttribute (attr : HwsimAttr)
  /-- A read past the end of an attribute's payload. -/
  | attributeOverread (attr : HwsimAttr)
  /-- A read of `frame->data[offset]` with `offset ≥ data_len`. -/
  | frameOverread (offset : Nat)
  /-- An access to `frame->tx_rates[index]` with `index ≥ IEEE80211_TX_MAX_RATES`. -/
  | txRatesOverrun (index : Nat)
  /-- `wmediumd_send_to_client` on a `NULL` client. -/
  | nullClient
  /-- A frame or station pointer that does not point at a live object. -/
  | danglingFrame (ptr : Nat)
  | danglingStation (index : Nat)
  | danglingClient (ptr : Nat)
  deriving DecidableEq, Repr

/-! ## Constants of `ieee80211.h` -/

/-- Modelled from the spec: `ieee80211.h` is not under `src/`. The frame-control masks of the
802.11 header that `frame_is_mgmt`, `frame_is_data`, `frame_is_data_qos` and `frame_has_a4`
test. -/
def fctlFtype : UInt8 := 0x0c
def ftypeMgmt : UInt8 := 0x00
def ftypeData : UInt8 := 0x08
def stypeQosData : UInt8 := 0x80
def fctlTods : UInt8 := 0x01
def fctlFromds : UInt8 := 0x02

/-- Modelled from the spec: the 802.1D priority field of the QoS-control octet. -/
def qosCtlTag1dMask : UInt8 := 0x07

/-- Modelled from the spec: the MRR table has at most four rows. -/
def ieee80211TxMaxRates : Nat := 4

/-- An EDCA access category, `enum ieee80211_ac_number`: `VO = 0`, `VI = 1`, `BE = 2`,
`BK = 3`, so a smaller number is a higher priority. -/
abbrev AcNumber := Fin 4

def ieee80211AcVo : AcNumber := 0
def ieee80211AcVi : AcNumber := 1
def ieee80211AcBe : AcNumber := 2
def ieee80211AcBk : AcNumber := 3

/-- Modelled from the spec: the IEEE 802.1D priority to access category table. -/
def ieee8021dToAc (priority : UInt8) : AcNumber :=
  match priority.toNat with
  | 0 => ieee80211AcBe
  | 1 => ieee80211AcBk
  | 2 => ieee80211AcBk
  | 3 => ieee80211AcBe
  | 4 => ieee80211AcVi
  | 5 => ieee80211AcVi
  | _ => ieee80211AcVo

/-! ## Airtime -/

def slotTime : Nat := 9
def sifs : Nat := 16
def difs : Nat := 2 * slotTime + sifs

def divRound (a b : Nat) : Nat := (a + b - 1) / b

/-- `pkt_duration`: preamble, signal and `t_sym * n_sym`, the rate in units of 100 kb/s. -/
def pktDuration (len rate : Nat) : Nat :=
  16 + 4 + 4 * divRound ((16 + 8 * len + 6) * 10) (4 * rate)

/-- `struct wqueue`: the frames of one access category in list order, and its contention
window bounds. -/
structure Wqueue where
  frames : List Nat
  cwMin : Nat
  cwMax : Nat

/-- `station_init_queues`. -/
def stationInitQueues : AcNumber → Wqueue
  | ⟨3, _⟩ => ⟨[], 15, 1023⟩
  | ⟨2, _⟩ => ⟨[], 15, 1023⟩
  | ⟨1, _⟩ => ⟨[], 7, 15⟩
  | ⟨0, _⟩ => ⟨[], 3, 7⟩

@[simp] theorem stationInitQueues_frames (ac : AcNumber) : (stationInitQueues ac).frames = [] := by
  unfold stationInitQueues
  split <;> rfl

/-! ## Checked reads of `frame->data` -/

/-- `frame->data[offset]`, which lies inside the allocation only below `data_len`. -/
def frameByte (data : Bytes) (offset : Nat) : Except Fault UInt8 :=
  if h : offset < data.length then .ok data[offset] else .error (.frameOverread offset)

/-- The address field of the 802.11 header starting at `offset` (`addr1` at 4, `addr2` at
10); the fault names the first byte past `data_len`. -/
def frameAddr (data : Bytes) (offset : Nat) : Except Fault MacAddr :=
  if h : offset + ethAlen ≤ data.length then
    .ok ⟨(data.drop offset).take ethAlen, by simp [List.length_take, List.length_drop]; omega⟩
  else .error (.frameOverread (max offset data.length))

theorem frameByte_of_lt {data : Bytes} {offset : Nat} (h : offset < data.length) :
    frameByte data offset = .ok data[offset] := by
  simp [frameByte, h]

theorem frameByte_eq_error {data : Bytes} {offset : Nat} {fault : Fault}
    (h : frameByte data offset = .error fault) :
    data.length ≤ offset ∧ fault = .frameOverread offset := by
  unfold frameByte at h
  split at h
  · cases h
  · exact ⟨by omega, by cases h; rfl⟩

theorem frameAddr_ok {data : Bytes} {offset : Nat} (h : offset + ethAlen ≤ data.length) :
    ∃ addr, frameAddr data offset = .ok addr := by
  simp [frameAddr, h]

end Wmediumd
