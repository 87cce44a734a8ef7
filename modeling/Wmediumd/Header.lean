import Wmediumd.Basic

/-!
# The 802.11 header tests of `wmediumd.c`

`frame_has_a4`, `frame_is_mgmt`, `frame_is_data`, `frame_is_data_qos`, `frame_get_qos_ctl` and
`frame_select_queue_80211`, each reading `frame->data` through `frameByte`. The frame-control
octets sit at offsets 0 and 1; the QoS-control octet at 24, or at 30 when both `ToDS` and
`FromDS` are set. `frameSelectQueue80211_eq_error` says exactly when the classification reads
past `data_len`: only for a QoS data frame too short to hold its QoS-control octet.
-/

namespace Wmediumd

def frameHasA4 (data : Bytes) : Except Fault Bool := do
  let fc1 ← frameByte data 1
  return (fc1 &&& (fctlTods ||| fctlFromds)) == (fctlTods ||| fctlFromds)

def frameIsMgmt (data : Bytes) : Except Fault Bool := do
  let fc0 ← frameByte data 0
  return (fc0 &&& fctlFtype) == ftypeMgmt

def frameIsData (data : Bytes) : Except Fault Bool := do
  let fc0 ← frameByte data 0
  return (fc0 &&& fctlFtype) == ftypeData

def frameIsDataQos (data : Bytes) : Except Fault Bool := do
  let fc0 ← frameByte data 0
  return (fc0 &&& (fctlFtype ||| stypeQosData)) == (ftypeData ||| stypeQosData)

/-- `frame_get_qos_ctl`, as the offset of the QoS-control octet in `frame->data`. -/
def frameGetQosCtl (data : Bytes) : Except Fault Nat := do
  if ← frameHasA4 data then return 30 else return 24

def frameSelectQueue80211 (data : Bytes) : Except Fault AcNumber := do
  if !(← frameIsData data) then return ieee80211AcVo
  if !(← frameIsDataQos data) then return ieee80211AcBe
  let p ← frameGetQosCtl data
  let priority ← frameByte data p
  return ieee8021dToAc (priority &&& qosCtlTag1dMask)

/-- The header is a QoS data frame, whose classification reads the QoS-control octet. -/
def IsQosData (fc0 : UInt8) : Prop :=
  (fc0 &&& fctlFtype) = ftypeData ∧ (fc0 &&& (fctlFtype ||| stypeQosData)) = ftypeData ||| stypeQosData

/-- Where `frame_get_qos_ctl` points for the frame-control octet `fc1`. -/
def qosCtlOffset (fc1 : UInt8) : Nat :=
  if (fc1 &&& (fctlTods ||| fctlFromds)) = fctlTods ||| fctlFromds then 30 else 24

section HeaderReads

variable {data : Bytes} (h : 2 ≤ data.length)
include h

theorem frameHasA4_eq : frameHasA4 data =
    .ok ((data[1] &&& (fctlTods ||| fctlFromds)) == (fctlTods ||| fctlFromds)) := by
  simp [frameHasA4, frameByte_of_lt (show 1 < data.length by omega)]

theorem frameIsMgmt_eq : frameIsMgmt data =
    .ok ((data[0] &&& fctlFtype) == ftypeMgmt) := by
  simp [frameIsMgmt, frameByte_of_lt (show 0 < data.length by omega)]

theorem frameGetQosCtl_eq : frameGetQosCtl data = .ok (qosCtlOffset (data[1])) := by
  simp only [frameGetQosCtl, frameHasA4_eq h, qosCtlOffset]
  by_cases hc : (data[1] &&& (fctlTods ||| fctlFromds)) = fctlTods ||| fctlFromds <;>
    simp [hc]

/-- `frame_select_queue_80211` faults exactly on a QoS data frame that ends before its
QoS-control octet; every other header it classifies from the two frame-control octets. -/
theorem frameSelectQueue80211_eq_error {fault : Fault} :
    frameSelectQueue80211 data = .error fault ↔
      IsQosData (data[0]) ∧ data.length ≤ qosCtlOffset (data[1]) ∧
        fault = .frameOverread (qosCtlOffset (data[1])) := by
  have h0 := frameByte_of_lt (show 0 < data.length by omega)
  simp only [frameSelectQueue80211, frameIsData, frameIsDataQos, h0, frameGetQosCtl_eq h,
    IsQosData, ok_bind, pure_eq_ok]
  by_cases hd : (data[0] &&& fctlFtype) = ftypeData
  · by_cases hq : (data[0] &&& (fctlFtype ||| stypeQosData)) = ftypeData ||| stypeQosData
    · by_cases hl : qosCtlOffset (data[1]) < data.length
      · simp [hd, hq, frameByte_of_lt hl]
        omega
      · simpa [hd, hq, frameByte, hl, Nat.le_of_not_lt hl] using eq_comm
    · simp [hd, hq]
  · simp [hd]

end HeaderReads

end Wmediumd
