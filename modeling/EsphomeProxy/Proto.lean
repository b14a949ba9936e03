import Mathlib.Data.List.Infix

/-! The message catalog of `esphome_proto.h`, over any codec `Proto`. -/

namespace EsphomeProxy

def esphomeMsgHelloRequest : UInt16 := 1
def esphomeMsgHelloResponse : UInt16 := 2
def esphomeMsgConnectRequest : UInt16 := 3
def esphomeMsgConnectResponse : UInt16 := 4
def esphomeMsgPingRequest : UInt16 := 7
def esphomeMsgPingResponse : UInt16 := 8
def esphomeMsgDeviceInfoRequest : UInt16 := 9
def esphomeMsgDeviceInfoResponse : UInt16 := 10
def esphomeMsgListEntitiesRequest : UInt16 := 11
def esphomeMsgListEntitiesDoneResponse : UInt16 := 19
def esphomeMsgSubscribeStatesRequest : UInt16 := 20
def esphomeMsgSubscribeHomeassistantServicesRequest : UInt16 := 34
def esphomeMsgSubscribeHomeassistantStatesRequest : UInt16 := 38
def esphomeMsgSubscribeBluetoothLeAdvertisementsRequest : UInt16 := 66
def esphomeMsgBluetoothLeRawAdvertisementsResponse : UInt16 := 93

def esphomeMaxStringLen : Nat := 128
def esphomeMaxAdvData : Nat := 62
def esphomeMaxAdvBatch : Nat := 16
def esphomeMaxMessageSize : Nat := 4096

def bleFeaturePassiveScan : UInt32 := (1 : UInt32) <<< 0
def bleFeatureRawAdvertisements : UInt32 := (1 : UInt32) <<< 5

/-- A NUL-terminated `char[]`: the bytes before its terminator. -/
abbrev CString := List UInt8

/-- `esphome_device_config_t`, loaded outside the server and only read by it. -/
structure DeviceConfig where
  deviceName : CString
  macAddress : CString
  esphomeVersion : CString
  model : CString
  manufacturer : CString
  friendlyName : CString
  suggestedArea : CString
  deriving DecidableEq, Repr

structure HelloResponse where
  apiVersionMajor : UInt32
  apiVersionMinor : UInt32
  serverInfo : CString
  name : CString
  deriving DecidableEq, Repr

structure ConnectResponse where
  invalidPassword : Bool
  deriving DecidableEq, Repr

structure DeviceInfoResponse where
  usesPassword : Bool
  name : CString
  macAddress : CString
  esphomeVersion : CString
  compilationTime : CString
  model : CString
  manufacturer : CString
  friendlyName : CString
  hasDeepSleep : Bool
  suggestedArea : CString
  bluetoothProxyFeatureFlags : UInt32
  bluetoothMacAddress : CString
  deriving DecidableEq, Repr

structure SubscribeBleAdvertisements where
  flags : UInt32
  deriving DecidableEq, Repr

/-- `esphome_ble_advertisement_t`. `data` holds the `data_len` bytes that are in use;
`rssi` is the `int32_t` value. -/
structure BleAdvertisement where
  address : UInt64
  rssi : Int
  addressType : UInt32
  data : List UInt8
  deriving DecidableEq, Repr

/-- The functions of `esphome_proto.c` that `esphome_api.c` calls. An encoder gets the
size of the caller's buffer and returns the bytes it wrote; no bytes is the `0` that
reports a failure. `decodeFrameHeader` returns `header_len` (`0`: no header yet),
`msg_len` and `msg_type`. -/
structure Proto where
  encodeHelloResponse : Nat → HelloResponse → List UInt8
  encodeConnectResponse : Nat → ConnectResponse → List UInt8
  encodeDeviceInfoResponse : Nat → DeviceInfoResponse → List UInt8
  encodeBleAdvertisements : Nat → List BleAdvertisement → List UInt8
  decodeSubscribeBleAdvertisements : List UInt8 → Option SubscribeBleAdvertisements
  frameMessage : Nat → UInt16 → List UInt8 → List UInt8
  decodeFrameHeader : List UInt8 → Nat × UInt32 × UInt16

end EsphomeProxy
