-- The three records of `app_vision_production.h` as they lie in memory and in
-- flash, and the values that a fresh tag starts with.
import SmartTrack.Bytes

open bytes

namespace smart_track.production

abbrev BLE_GAP_ADDR_LEN : Nat := 6
abbrev SR_NUM_SIZE : Nat := 18
abbrev MAX_PASSWORD_SIZE : Nat := 16
abbrev MODEL_NUMBER_LEN : Nat := 12

@[ext] structure EnergySavePara where
  u16_StartMinutes : UInt16
  u16_EndMinutes : UInt16
  mu16_EnergySavingAdvInterval : UInt16
  mu8_EnergySavingGlobalTxPow : UInt8
  deriving DecidableEq

/-- `st_ProductionData_t`. The record is packed but aligned to four bytes, so it ends in
two bytes that no field names. -/
@[ext] structure ProductionData where
  mu16_MagicNumber : UInt16
  mu8ar_MACAddr : Bytes BLE_GAP_ADDR_LEN
  mu8_SerialNumber : Bytes SR_NUM_SIZE
  mu8ar_Password : Bytes MAX_PASSWORD_SIZE
  mu8ar_ModelNumber : Bytes MODEL_NUMBER_LEN
  padding : Bytes 2
  deriving DecidableEq

/-- `st_ConfigData_t`, with its three bytes of padding. -/
@[ext] structure ConfigData where
  mu16_MagicNumber : UInt16
  mu16_AdvertismentInterval : UInt16
  mu8_TxPow : UInt8
  mu8_Movement_INT_THS : UInt8
  mu8_Movement_INT_TIME : UInt8
  mu8_DeepSleepControl : UInt8
  s16_TimeZoneOffset : UInt16
  energy_save_para : EnergySavePara
  padding : Bytes 3
  deriving DecidableEq

/-- `st_DynamicData_t`. The capacity is the bit pattern of the `float`. -/
structure DynamicData where
  mu16_MagicNumber : UInt16
  f32_RemainingBatCap : UInt32
  mu16_ResetCnt : UInt16
  mu32_CurrentTime : UInt32
  deriving DecidableEq

/-! ## The layouts -/

def ProductionData.toBytes (r : ProductionData) : List UInt8 :=
  le16 r.mu16_MagicNumber ++ (listOf r.mu8ar_MACAddr ++ (listOf r.mu8_SerialNumber ++
    (listOf r.mu8ar_Password ++ (listOf r.mu8ar_ModelNumber ++ listOf r.padding))))

def ProductionData.ofBytes (l : List UInt8) : ProductionData :=
  let magic := takeU16 l
  let mac := takeBytes BLE_GAP_ADDR_LEN magic.2
  let serial := takeBytes SR_NUM_SIZE mac.2
  let password := takeBytes MAX_PASSWORD_SIZE serial.2
  let model := takeBytes MODEL_NUMBER_LEN password.2
  { mu16_MagicNumber := magic.1, mu8ar_MACAddr := mac.1, mu8_SerialNumber := serial.1,
    mu8ar_Password := password.1, mu8ar_ModelNumber := model.1,
    padding := (takeBytes 2 model.2).1 }

def productionLayout : Layout ProductionData where
  size := 56
  toBytes := ProductionData.toBytes
  ofBytes := ProductionData.ofBytes
  toBytes_length r := by simp [ProductionData.toBytes, le16]; rfl
  ofBytes_toBytes r := by simp [ProductionData.toBytes, ProductionData.ofBytes]

def ConfigData.toBytes (r : ConfigData) : List UInt8 :=
  le16 r.mu16_MagicNumber ++ (le16 r.mu16_AdvertismentInterval ++
    r.mu8_TxPow :: r.mu8_Movement_INT_THS :: r.mu8_Movement_INT_TIME :: r.mu8_DeepSleepControl ::
    (le16 r.s16_TimeZoneOffset ++ (le16 r.energy_save_para.u16_StartMinutes ++
    (le16 r.energy_save_para.u16_EndMinutes ++
    (le16 r.energy_save_para.mu16_EnergySavingAdvInterval ++
    r.energy_save_para.mu8_EnergySavingGlobalTxPow :: listOf r.padding)))))

def ConfigData.ofBytes (l : List UInt8) : ConfigData :=
  let magic := takeU16 l
  let interval := takeU16 magic.2
  let txPow := takeU8 interval.2
  let ths := takeU8 txPow.2
  let time := takeU8 ths.2
  let sleep := takeU8 time.2
  let zone := takeU16 sleep.2
  let start := takeU16 zone.2
  let stop := takeU16 start.2
  let esInterval := takeU16 stop.2
  let esTxPow := takeU8 esInterval.2
  { mu16_MagicNumber := magic.1, mu16_AdvertismentInterval := interval.1, mu8_TxPow := txPow.1,
    mu8_Movement_INT_THS := ths.1, mu8_Movement_INT_TIME := time.1,
    mu8_DeepSleepControl := sleep.1, s16_TimeZoneOffset := zone.1,
    energy_save_para :=
      { u16_StartMinutes := start.1, u16_EndMinutes := stop.1,
        mu16_EnergySavingAdvInterval := esInterval.1, mu8_EnergySavingGlobalTxPow := esTxPow.1 },
    padding := (takeBytes 3 esTxPow.2).1 }

def configLayout : Layout ConfigData where
  size := 20
  toBytes := ConfigData.toBytes
  ofBytes := ConfigData.ofBytes
  toBytes_length r := by simp [ConfigData.toBytes, le16]
  ofBytes_toBytes r := by simp [ConfigData.toBytes, ConfigData.ofBytes]

def DynamicData.toBytes (r : DynamicData) : List UInt8 :=
  le16 r.mu16_MagicNumber ++ (le32 r.f32_RemainingBatCap ++ (le16 r.mu16_ResetCnt ++
    le32 r.mu32_CurrentTime))

def DynamicData.ofBytes (l : List UInt8) : DynamicData :=
  let magic := takeU16 l
  let cap := takeU32 magic.2
  let resets := takeU16 cap.2
  { mu16_MagicNumber := magic.1, f32_RemainingBatCap := cap.1, mu16_ResetCnt := resets.1,
    mu32_CurrentTime := (takeU32 resets.2).1 }

def dynamicLayout : Layout DynamicData where
  size := 12
  toBytes := DynamicData.toBytes
  ofBytes := DynamicData.ofBytes
  toBytes_length r := by simp [DynamicData.toBytes, le16, le32]
  ofBytes_toBytes r := by simp [DynamicData.toBytes, DynamicData.ofBytes]

/-! Each record is the bytes that it was read from, if there are just enough of them. -/

theorem productionLayout_exact : productionLayout.Exact := by
  intro l h
  change l.length = 56 at h
  simp only [productionLayout, ProductionData.toBytes, ProductionData.ofBytes]
  rw [listOf_takeBytes_last (n := 2), listOf_takeBytes, listOf_takeBytes, listOf_takeBytes,
    listOf_takeBytes, le16_takeU16]
  all_goals
    simp only [takeBytes_length, takeU16_length, h]
    decide

theorem configLayout_exact : configLayout.Exact := by
  intro l h
  change l.length = 20 at h
  simp only [configLayout, ConfigData.toBytes, ConfigData.ofBytes]
  rw [listOf_takeBytes_last, takeU8_eq, le16_takeU16, le16_takeU16, le16_takeU16, le16_takeU16,
    takeU8_eq, takeU8_eq, takeU8_eq, takeU8_eq, le16_takeU16, le16_takeU16]
  all_goals simp [h]

theorem dynamicLayout_exact : dynamicLayout.Exact := by
  intro l h
  change l.length = 12 at h
  simp only [dynamicLayout, DynamicData.toBytes, DynamicData.ofBytes]
  have htime := le32_takeU32_last (l := (takeU16 (takeU32 (takeU16 l).2).2).2) (by simp [h])
  rw [htime, le16_takeU16 (by simp [h]), le32_takeU32 (by simp [h]), le16_takeU16 (by simp [h])]

end smart_track.production
