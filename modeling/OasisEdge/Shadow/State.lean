import OasisEdge.Lib.Checking
import OasisEdge.CJson.Value

/-! # The device shadow

The records of `oasis_shadow.h` and the constants the shadow functions use. A `char` array is a
`CBuf` of its size, so no field ever holds more than fits. `long` is an integer (an increment that
would leave its range is a fault), `unsigned long` is `UInt64`, and the flags take the two values
`FLAG_REQ` and `FLAG_RSP`. `SHADOW_Init` fills every record with zeros, which makes every flag
`FLAG_RSP`. -/

namespace OasisEdge.Shadow.State

open OasisEdge.Lib.Chars OasisEdge.Lib.Checking OasisEdge.CJson.Value

/-- What the functions return: `SUCCESS` or `ERROR`. -/
inductive Ret
  | success
  | error
deriving DecidableEq

/-- A request flag: `FLAG_REQ` while an answer is awaited, `FLAG_RSP` otherwise. -/
inductive Flag
  | req
  | rsp
deriving DecidableEq

/-! ### Sizes, states and topics -/

abbrev LENGTH_PRODUCTKEY : ℕ := 20
abbrev LENGTH_DEVICEID : ℕ := 20
abbrev LENGTH_SWITCH : ℕ := 10
abbrev LENGTH_TOKEN : ℕ := 37
abbrev LENGTH_TIMESTAMP : ℕ := 30
abbrev LENGTH_STATUS : ℕ := 11

instance : NeZero LENGTH_PRODUCTKEY := ⟨by decide⟩
instance : NeZero LENGTH_SWITCH := ⟨by decide⟩
instance : NeZero LENGTH_TOKEN := ⟨by decide⟩
instance : NeZero LENGTH_TIMESTAMP := ⟨by decide⟩
instance : NeZero LENGTH_STATUS := ⟨by decide⟩

/-- The ends of `long`. -/
def LONG_MAX : ℤ := 9223372036854775807
def LONG_MIN : ℤ := -9223372036854775808

def DEV_ONLINE : CString := .lit "online"
def DEV_OFFLINE : CString := .lit "offline"

def TOPIC_REQ_ONLINE : CString := .lit "app/request/oasis/online"
def TOPIC_REQ_OFFLINE : CString := .lit "app/request/oasis/offline"
def TOPIC_REQ_SET_SHADOW : CString := .lit "app/request/oasis/updateShadow"
def TOPIC_REQ_KEEPALIVE : CString := .lit "app/request/oasis/keepalive"
def TOPIC_RSP_ONLINE : CString := .lit "oasis/response/app/online"
def TOPIC_RSP_OFFLINE : CString := .lit "oasis/response/app/offline"
def TOPIC_RSP_SET_SHADOW : CString := .lit "oasis/response/app/updateShadow"
def TOPIC_RSP_KEEPALIVE : CString := .lit "oasis/response/app/keepalive"
def TOPIC_UPDATE_SHADOW : CString := .lit "oasis/notify/app/updateShadow"

/-! ### Records -/

/-- `DEV_SHADOW_ATTRIBUTE_S`. -/
@[ext]
structure DevShadowAttribute where
  sw : CBuf LENGTH_SWITCH
  swTimestamp : UInt64
deriving DecidableEq

/-- `DEV_SHADOW_STATE_S`. -/
@[ext]
structure DevShadowState where
  desired : DevShadowAttribute
  reported : DevShadowAttribute
  delta : DevShadowAttribute
deriving DecidableEq

/-- `DEV_SHADOW_FLAG_S`. -/
@[ext]
structure DevShadowFlag where
  online : Flag
  offline : Flag
  keepalive : Flag
  setShadow : Flag
deriving DecidableEq

/-- `DEV_SHADOW_S`. -/
@[ext]
structure DevShadow where
  productKey : CBuf LENGTH_PRODUCTKEY
  deviceID : CBuf LENGTH_DEVICEID
  timestamp : CBuf LENGTH_TIMESTAMP
  token : CBuf LENGTH_TOKEN
  status : CBuf LENGTH_STATUS
  version : ℤ
  flag : DevShadowFlag
  state : DevShadowState
deriving DecidableEq

/-- `Shadow_Attribute_Init` on one attribute. -/
def shadowAttributeInit : DevShadowAttribute := ⟨.zero _, 0⟩

/-- `SHADOW_Init`, when no allocation fails. -/
def shadowInit : DevShadow where
  productKey := .zero _
  deviceID := .zero _
  timestamp := .zero _
  token := .zero _
  status := .zero _
  version := 0
  flag := ⟨.rsp, .rsp, .rsp, .rsp⟩
  state := ⟨shadowAttributeInit, shadowAttributeInit, shadowAttributeInit⟩

/-- `shadow->version++`. -/
def incrVersion (version : ℤ) : Checked ℤ := checkedInt LONG_MIN LONG_MAX (version + 1)

/-! ### Requests and effects

A request builder asks the tools for a time stamp and a token and `MQTTAsync_send` for an outcome.
When the send fails it destroys the client it was given. -/

/-- What the calls of one request builder return. -/
structure ReqEnv where
  timestamp : CBuf LENGTH_TIMESTAMP
  uuid : CBuf LENGTH_TOKEN
  unixTime : UInt64
  sent : Bool

/-- What the device does to the world outside the shadow. A payload is the item that
`cJSON_PrintUnformatted` prints. -/
inductive Output
  | publish (topic : CString) (payload : Json)
  | sendFailed (topic : CString) (payload : Json)
  | destroy
  | ledUpdateState (state : UInt8)
  | spiWrite (reg value : UInt8)
deriving DecidableEq

/-- The end of every request builder: `MQTTAsync_send`, and `MQTTAsync_destroy` if it fails. -/
def send (env : ReqEnv) (topic : CString) (payload : Json) : Ret × List Output :=
  if env.sent then (.success, [.publish topic payload])
  else (.error, [.sendFailed topic payload, .destroy])

end OasisEdge.Shadow.State
