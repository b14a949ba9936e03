import EsphomeProxy.Transport

/-! The message handlers and `dispatch_message`. -/

namespace EsphomeProxy

/-- What the server is built and started with: the codec of `esphome_proto.c`, the device
configuration, and the `__DATE__ " " __TIME__` of the build. -/
structure Setup where
  proto : Proto
  config : DeviceConfig
  compilationTime : CString

/-- A server on the spec's frame codec, with an empty configuration. -/
def specSetup : Setup := ⟨specProto, ⟨[], [], [], [], [], [], []⟩, []⟩

/-- The spec's codec with an advertisement encoder that writes a byte per advertisement, so
that a flush has a payload to broadcast. -/
def broadcastSetup : Setup :=
  { specSetup with proto := { specProto with encodeBleAdvertisements := fun _ b => b.map fun _ => 0 } }

/-- The fields of `client_connection_t` that the handlers write. -/
structure Session where
  authenticated : Bool
  subscribedBle : Bool
  deriving DecidableEq, Repr

/-- A reply handed to `send_message`: the message type and the encoded payload. -/
structure Reply where
  msgType : UInt16
  payload : List UInt8
  deriving DecidableEq, Repr

/-- `strncpy(dst, src, sizeof(dst) - 1)` into a zeroed `char[n]`. -/
def strncpyField (n : Nat) (src : CString) : CString := src.take (n - 1)

/-- `snprintf(dst, n, fmt, ...)`: the formatted bytes, cut to leave room for the NUL. -/
def snprintfField (n : Nat) (formatted : CString) : CString := formatted.take (n - 1)

def helloResponse (cfg : DeviceConfig) : HelloResponse where
  apiVersionMajor := 1
  apiVersionMinor := 12
  serverInfo := snprintfField esphomeMaxStringLen
    (cfg.deviceName ++ " (Thingino BLE Proxy v1.0)".toUTF8.toList)
  name := strncpyField esphomeMaxStringLen cfg.deviceName

def deviceInfoResponse (S : Setup) : DeviceInfoResponse where
  usesPassword := false
  name := strncpyField esphomeMaxStringLen S.config.deviceName
  macAddress := strncpyField 24 S.config.macAddress
  esphomeVersion := strncpyField 32 S.config.esphomeVersion
  compilationTime := strncpyField 64 S.compilationTime
  model := strncpyField esphomeMaxStringLen S.config.model
  manufacturer := strncpyField esphomeMaxStringLen S.config.manufacturer
  friendlyName := strncpyField esphomeMaxStringLen S.config.friendlyName
  hasDeepSleep := false
  suggestedArea := strncpyField 64 S.config.suggestedArea
  bluetoothProxyFeatureFlags := bleFeaturePassiveScan ||| bleFeatureRawAdvertisements
  bluetoothMacAddress := strncpyField 24 S.config.macAddress

/-- The tail shared by the handlers that encode a response: `if (len > 0) send_message(...)`. -/
def replyIfEncoded (msgType : UInt16) (encoded : List UInt8) : Option Reply :=
  if encoded.length > 0 then some ⟨msgType, encoded⟩ else none

/-- The handlers that only acknowledge: no reply, no change. -/
def acknowledge (sess : Session) : Session × Option Reply := (sess, none)

def handleHelloRequest (S : Setup) (sess : Session) : Session × Option Reply :=
  (sess, replyIfEncoded esphomeMsgHelloResponse
    (S.proto.encodeHelloResponse 512 (helloResponse S.config)))

def handleConnectRequest (S : Setup) (sess : Session) : Session × Option Reply :=
  ({ sess with authenticated := true }, replyIfEncoded esphomeMsgConnectResponse
    (S.proto.encodeConnectResponse 32 ⟨false⟩))

def handleDeviceInfoRequest (S : Setup) (sess : Session) : Session × Option Reply :=
  (sess, replyIfEncoded esphomeMsgDeviceInfoResponse
    (S.proto.encodeDeviceInfoResponse 1024 (deviceInfoResponse S)))

def handleListEntitiesRequest (sess : Session) : Session × Option Reply :=
  (sess, some ⟨esphomeMsgListEntitiesDoneResponse, []⟩)

def handleSubscribeStatesRequest (sess : Session) : Session × Option Reply := acknowledge sess

def handleSubscribeBleAdvertisements (S : Setup) (sess : Session) (payload : List UInt8) :
    Session × Option Reply :=
  match S.proto.decodeSubscribeBleAdvertisements payload with
  | some _ => ({ sess with subscribedBle := true }, none)
  | none => (sess, none)

def handlePingRequest (sess : Session) : Session × Option Reply :=
  (sess, some ⟨esphomeMsgPingResponse, []⟩)

def handleSubscribeHomeassistantServices (sess : Session) : Session × Option Reply :=
  acknowledge sess

def handleSubscribeHomeassistantStates (sess : Session) : Session × Option Reply :=
  acknowledge sess

/-- `dispatch_message`: the `switch` on the message type. A disconnect request and every
other type are only logged. -/
def dispatchMessage (S : Setup) (sess : Session) (msgType : UInt16) (payload : List UInt8) :
    Session × Option Reply :=
  if msgType = esphomeMsgHelloRequest then handleHelloRequest S sess
  else if msgType = esphomeMsgConnectRequest then handleConnectRequest S sess
  else if msgType = esphomeMsgDeviceInfoRequest then handleDeviceInfoRequest S sess
  else if msgType = esphomeMsgListEntitiesRequest then handleListEntitiesRequest sess
  else if msgType = esphomeMsgSubscribeStatesRequest then handleSubscribeStatesRequest sess
  else if msgType = esphomeMsgSubscribeBluetoothLeAdvertisementsRequest then
    handleSubscribeBleAdvertisements S sess payload
  else if msgType = esphomeMsgSubscribeHomeassistantServicesRequest then
    handleSubscribeHomeassistantServices sess
  else if msgType = esphomeMsgSubscribeHomeassistantStatesRequest then
    handleSubscribeHomeassistantStates sess
  else if msgType = esphomeMsgPingRequest then handlePingRequest sess
  else (sess, none)

/-- Whether a message sets `authenticated`: a connect request, whatever its payload. -/
def setsAuthenticated (m : UInt16 × List UInt8) : Bool :=
  m.1 = esphomeMsgConnectRequest

/-- Whether a message sets `subscribed_ble`: a subscription whose payload decodes. -/
def setsSubscribed (S : Setup) (m : UInt16 × List UInt8) : Bool :=
  m.1 = esphomeMsgSubscribeBluetoothLeAdvertisementsRequest &&
    (S.proto.decodeSubscribeBleAdvertisements m.2).isSome

theorem dispatchMessage_session (S : Setup) (sess : Session) (t : UInt16) (p : List UInt8) :
    (dispatchMessage S sess t p).1 = ⟨sess.authenticated || setsAuthenticated (t, p),
      sess.subscribedBle || setsSubscribed S (t, p)⟩ := by
  have hsub : (handleSubscribeBleAdvertisements S sess p).1 = { sess with subscribedBle :=
      sess.subscribedBle || (S.proto.decodeSubscribeBleAdvertisements p).isSome } := by
    unfold handleSubscribeBleAdvertisements; split <;> simp_all
  simp only [dispatchMessage, apply_ite Prod.fst, handleHelloRequest, handleConnectRequest,
    handleDeviceInfoRequest, handleListEntitiesRequest, handleSubscribeStatesRequest,
    handlePingRequest, handleSubscribeHomeassistantServices, handleSubscribeHomeassistantStates,
    acknowledge, hsub, setsAuthenticated, setsSubscribed]
  by_cases hc : t = esphomeMsgConnectRequest
  · subst hc
    simp [esphomeMsgConnectRequest, esphomeMsgHelloRequest,
      esphomeMsgSubscribeBluetoothLeAdvertisementsRequest]
  by_cases hs : t = esphomeMsgSubscribeBluetoothLeAdvertisementsRequest
  · subst hs
    simp [esphomeMsgConnectRequest, esphomeMsgHelloRequest,
      esphomeMsgSubscribeBluetoothLeAdvertisementsRequest, esphomeMsgDeviceInfoRequest,
      esphomeMsgListEntitiesRequest, esphomeMsgSubscribeStatesRequest]
  simp [hc, hs]

end EsphomeProxy
