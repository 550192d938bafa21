import OasisEdge.CJson.Parse
import OasisEdge.Shadow.State

/-! # Function calls: `FUNC_Call_Req` and `FUNC_Call_Rsp`

The response handler looks up six members, and then compares the *keys* of the first two
(`name->string`, `service->string`) with the name and the service of the function. A key is what the
lookup matched, so the handler never answers `SUCCESS` (`funcCallRsp_eq`). -/

namespace OasisEdge.App.Func

open OasisEdge.Lib.Chars OasisEdge.Lib.Doubles OasisEdge.CJson.Value OasisEdge.CJson.Parse
open OasisEdge.Shadow.State

def TOPIC_REQ_CALL_FUNCTION : CString := .lit "app/request/oasis/callFunction"
def TOPIC_RSP_CALL_FUNCTION : CString := .lit "oasis/response/app/callFunction"
def FUNC_NAME : CString := .lit "test_demo"
def FUNC_TYPE_PYTHON3 : CString := .lit "python3"

/-- The item a function call prints. -/
def callReqMessage (env : ReqEnv) (payload : ℤ × ℤ) : Json :=
  .obj [(.lit "timestamp", .str env.timestamp.str), (.lit "token", .str env.uuid.str),
    (.lit "name", .str FUNC_NAME), (.lit "service", .str FUNC_TYPE_PYTHON3),
    (.lit "param", .arr [.num (.ofInt payload.1), .num (.ofInt payload.2)])]

def funcCallReq (env : ReqEnv) (payload : ℤ × ℤ) : Ret × List Output :=
  send env TOPIC_REQ_CALL_FUNCTION (callReqMessage env payload)

/-- The members of a reply the call looks up: the keys of the first two, and the status. -/
structure Reply where
  nameKey : CString
  serviceKey : CString
  statusCode : Json

/-- The lookups; the call returns `ERROR` at the first that fails. -/
def readReply (root : Json) : Option Reply := do
  let name ← findMember root (.lit "name")
  let service ← findMember root (.lit "service")
  let statusCode ← cjsonGetObjectItem root (.lit "statusCode")
  let _ ← cjsonGetObjectItem root (.lit "statusStr")
  let _ ← cjsonGetObjectItem root (.lit "token")
  let _ ← cjsonGetObjectItem root (.lit "timestamp")
  some ⟨name.1, service.1, statusCode⟩

def funcCallRsp (payload : CString) : Ret :=
  match (cjsonParse payload).bind readReply with
  | none => .error
  | some r =>
    if strcmp r.nameKey FUNC_NAME = 0 ∧ strcmp r.serviceKey FUNC_TYPE_PYTHON3 = 0 then
      if 200 = r.statusCode.valueint then .success else .error
    else .error

theorem findMember_key {root : Json} {name : CString} {m : CString × Json}
    (h : findMember root name = some m) : caseInsensitiveEq name m.1 = true := by
  unfold findMember at h
  have := List.find?_some h
  exact this

/-- **No reply is a success**: the key `name` is never `test_demo`. -/
theorem funcCallRsp_eq (payload : CString) : funcCallRsp payload = .error := by
  unfold funcCallRsp
  cases h : (cjsonParse payload).bind readReply with
  | none => rfl
  | some r =>
    simp only [strcmp_eq_zero]
    rw [if_neg]
    rintro ⟨hname, -⟩
    obtain ⟨root, -, hr⟩ := Option.bind_eq_some_iff.mp h
    simp only [readReply, Option.bind_eq_bind, Option.bind_eq_some_iff] at hr
    obtain ⟨name, hn, service, -, statusCode, -, statusStr, -, token, -, timestamp, -, hr⟩ := hr
    obtain rfl := Option.some.inj hr
    have hkey := findMember_key hn
    rw [show name.1 = FUNC_NAME from hname] at hkey
    revert hkey
    decide

end OasisEdge.App.Func
