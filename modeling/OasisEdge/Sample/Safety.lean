import OasisEdge.Sample.EdgeClient
import OasisEdge.System.Platform

/-! # Which messages reach no fault

For each topic, what a payload has to look like for the dispatch of `messageArrived` to execute no
undefined operation (`MessageSafe`). A text that does not parse is always safe, and so is any
message on the topic of the function calls or on a topic without a handler; the other handlers
compare or print strings that a message can leave out. -/

namespace OasisEdge.Sample.Safety

open OasisEdge.Lib.Chars OasisEdge.Lib.Checking OasisEdge.CJson.Value OasisEdge.CJson.Parse
open OasisEdge.App.Func OasisEdge.Shadow.State OasisEdge.Shadow.Connect OasisEdge.Shadow.Set
open OasisEdge.Shadow.Update OasisEdge.Led.Driver OasisEdge.Sample.EdgeClient
open OasisEdge.System.Platform

/-- The entries a connection response is read up to, those before the first incomplete one, have the
strings that are compared. -/
def ConnectSafe (payload : CString) (shadow : DevShadow) : Prop :=
  ∀ entries, connectEntries payload = some entries →
    ∀ entry ∈ entries.takeWhile entryComplete, EntrySafe shadow entry

/-- The fields of an update that the call gets to have the types it needs. -/
def UpdateTextSafe (payload : CString) (shadow : DevShadow) : Prop :=
  ∀ root, cjsonParse payload = some root → UpdateSafe root shadow

/-- The members of an answer have the strings that are compared. -/
def AnswerTextSafe (payload : CString) (shadow : DevShadow) : Prop :=
  ∀ root, cjsonParse payload = some root → ∀ a, readAnswer root = some a → a.Safe shadow

/-- What a message has to look like, by its topic. -/
def MessageSafe (topicName payload : CString) (shadow : DevShadow) : Prop :=
  (topicName ∈ connectTopics → ConnectSafe payload shadow) ∧
    (topicName = TOPIC_UPDATE_SHADOW → UpdateTextSafe payload shadow) ∧
      (topicName = TOPIC_RSP_SET_SHADOW → AnswerTextSafe payload shadow)

/-! ### The handlers -/

theorem onShadow_defined {dev : Device} {r : Checked (Ret × DevShadow)} :
    Defined (onShadow dev r) ↔ Defined r := by
  unfold onShadow
  rw [defined_bind]
  exact exists_congr fun _ => and_iff_left (defined_ok _)

theorem shadowSetRsp_defined {payload : CString} {shadow : DevShadow} :
    Defined (shadowSetRsp payload shadow) ↔ AnswerTextSafe payload shadow := by
  unfold shadowSetRsp AnswerTextSafe
  cases cjsonParse payload with
  | none => simp
  | some root =>
    simp only [Option.some.injEq, forall_eq']
    exact setRspRoot_defined

theorem shadowUpdate_defined {payload : CString} {shadow : DevShadow} :
    Defined (shadowUpdate payload shadow) ↔ UpdateTextSafe payload shadow := by
  unfold shadowUpdate UpdateTextSafe
  cases cjsonParse payload with
  | none => simp
  | some root =>
    simp only [Option.some.injEq, forall_eq']
    exact updateRoot_defined

theorem ledUpdateShadow_defined (spi : SpiEnv) {payload : CString} {dev : Device} :
    Defined (ledUpdateShadow spi payload dev) ↔ UpdateTextSafe payload dev.ledShadow := by
  rw [← shadowUpdate_defined]
  unfold ledUpdateShadow
  rw [defined_bind]
  refine exists_congr fun r => and_iff_left ?_
  obtain ⟨ret, shadow⟩ := r
  cases ret <;> exact defined_ok _

/-! ### The dispatch -/

/-- **Which messages reach no fault.** -/
theorem messageArrived_defined (spi : SpiEnv) (topicName payload : CString) (dev : Device) :
    Defined (messageArrived spi topicName payload dev) ↔
      MessageSafe topicName payload dev.ledShadow := by
  have hupd : TOPIC_UPDATE_SHADOW ≠ TOPIC_RSP_SET_SHADOW := by decide
  unfold MessageSafe
  by_cases hc : topicName ∈ connectTopics
  · have hu : topicName ≠ TOPIC_UPDATE_SHADOW := by
      rintro rfl; exact update_not_connect hc
    have hs : topicName ≠ TOPIC_RSP_SET_SHADOW := by
      rintro rfl; exact setShadow_not_connect hc
    rw [messageArrived_connect hc, onShadow_defined, shadowConnectRsp_defined]
    simp only [hc, hu, hs, forall_const, false_implies, and_true]
    rfl
  by_cases hu : topicName = TOPIC_UPDATE_SHADOW
  · subst hu
    rw [messageArrived_update, defined_bind]
    simp only [hc, hupd, false_implies, true_and, forall_const, and_true]
    rw [← ledUpdateShadow_defined spi]
    exact exists_congr fun r => and_iff_left (defined_ok _)
  by_cases hs : topicName = TOPIC_RSP_SET_SHADOW
  · subst hs
    rw [messageArrived_setShadow, ledSetShadowRsp, onShadow_defined, shadowSetRsp_defined]
    simp only [hc, hu, false_implies, true_and, forall_const]
  · rw [messageArrived_other hc hu hs]
    simp only [hc, hu, hs, false_implies, and_true, iff_true]
    exact defined_ok _

/-- The shortest notification with a time stamp that is not a string. -/
def untypedText : CString := .lit "\x7b\"timestamp\":1\x7d"

/-- **A notification that crashes the device**: its time stamp is a number. -/
theorem messageArrived_crash :
    (cjsonParse untypedText).isSome ∧ ¬ Defined (messageArrived spiOk TOPIC_UPDATE_SHADOW untypedText
      (ledInstall LED_OFF (.zero _) 0 fun _ => 0)) := by
  decide +kernel

end OasisEdge.Sample.Safety
