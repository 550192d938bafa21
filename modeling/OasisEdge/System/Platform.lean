import OasisEdge.Led.Driver

/-! # Messages of the platform

The texts a platform sends to the LED, as functions of the values in them: the list of a connection
response, the answer to an `updateShadow` request and the update notification. Next to the
notification is the item it parses to when the numbers in it are the given integers. -/

namespace OasisEdge.System.Platform

open OasisEdge.Lib.Chars OasisEdge.CJson.Value OasisEdge.Shadow.State OasisEdge.Led.Driver

/-- A connection response that lists one device. -/
def connectText (productKey deviceID state : CString) : CString :=
  .lit "\x7b\"deviceInfo\":[\x7b\"productKey\":\"" ++ productKey ++ .lit "\",\"deviceID\":\"" ++
    deviceID ++ .lit "\",\"state\":\"" ++ state ++ .lit "\"\x7d]\x7d"

/-- The answer to an `updateShadow` request. -/
def answerText (productKey deviceID statusCode version : CString) : CString :=
  .lit "\x7b\"productKey\":\"" ++ productKey ++ .lit "\",\"deviceID\":\"" ++ deviceID ++
    .lit "\",\"statusCode\":" ++ statusCode ++ .lit ",\"version\":" ++ version ++ .lit "\x7d"

/-- An update notification. -/
def notificationText (productKey timestamp version sw swTimestamp : CString) : CString :=
  .lit "\x7b\"timestamp\":\"" ++ timestamp ++ .lit "\",\"version\":" ++ version ++
    .lit ",\"productKey\":\"" ++ productKey ++ .lit "\",\"deviceID\":\"" ++ DEVICEID ++
    .lit "\",\"state\":\x7b\"desired\":\x7b\"switch\":\"" ++ sw ++
    .lit "\"\x7d\x7d,\"metadata\":\x7b\"desired\":\x7b\"switch\":\x7b\"timestamp\":" ++
    swTimestamp ++ .lit "\x7d\x7d\x7d\x7d"

/-- The item of an update notification. -/
def notificationRoot (productKey timestamp : CString) (version : ℤ) (sw : CString)
    (swTimestamp : ℤ) : Json :=
  .obj [(.lit "timestamp", .str timestamp), (.lit "version", .num (.fin version)),
    (.lit "productKey", .str productKey), (.lit "deviceID", .str DEVICEID),
    (.lit "state", .obj [(.lit "desired", .obj [(.lit "switch", .str sw)])]),
    (.lit "metadata", .obj [(.lit "desired", .obj [(.lit "switch",
      .obj [(.lit "timestamp", .num (.fin swTimestamp))])])])]

/-! ### What the calls of the device return -/

/-- A request that is sent. -/
def sentEnv : ReqEnv := ⟨.zero _, .zero _, 0, true⟩

/-- A request that is not sent. -/
def unsentEnv : ReqEnv := ⟨.zero _, .zero _, 0, false⟩

/-- A turn of the monitor whose report is sent. -/
def sentMonitor : MonitorEnv := ⟨.zero _, 0, 0, sentEnv⟩

/-- Accesses to the bus that succeed. -/
def spiOk : SpiEnv := ⟨true, true⟩

/-- The response that lists the LED as online. -/
def onlineText : CString := connectText PRODUCTKEY DEVICEID DEV_ONLINE

end OasisEdge.System.Platform
