import Mathlib.Data.List.Basic

/-! # Message ids

`MQTTProtocol_assignMsgId` and `MQTTAsync_assignMsgId` look for an id that is not taken, behind the
id they gave last (`msgID`) and from 1 again behind `MAX_MSG_ID`. They differ in what they take for
taken: the messages in flight, or the commands that wait and the responses that are awaited.

The id that was given last is not tried: 0 is returned also if that id is free
(`assignMsgId_cases`). And if no id was given yet, the loop has no end where all ids are taken. -/

namespace OasisEdge.Mqtt.MessageIds

def MAX_MSG_ID : ℕ := 65535

/-- The id that is tried behind `msgid`. -/
def next (msgid : ℕ) : ℕ := if msgid = MAX_MSG_ID then 1 else msgid + 1

/-- The loop, for a number of turns; `none` is that it has not ended. -/
def findFree (taken : ℕ → Bool) (start_msgid : ℕ) : ℕ → ℕ → Option ℕ
  | 0, _ => none
  | turns + 1, msgid =>
    if taken msgid then
      if next msgid = start_msgid then some 0 else findFree taken start_msgid turns (next msgid)
    else some msgid

/-- `MQTTProtocol_assignMsgId` and `MQTTAsync_assignMsgId`, in `MAX_MSG_ID` turns. -/
def assignMsgId (taken : ℕ → Bool) (msgID : ℕ) : Option ℕ :=
  findFree taken msgID MAX_MSG_ID (next msgID)

/-- The `k`-th id behind `start`. -/
def behind (start k : ℕ) : ℕ := (start + k - 1) % MAX_MSG_ID + 1

theorem next_eq_behind {start : ℕ} (h : start ≤ MAX_MSG_ID) : next start = behind start 1 := by
  unfold next behind MAX_MSG_ID at *
  split_ifs
  · omega
  · omega

theorem next_behind (start : ℕ) {k : ℕ} (hk : 0 < k) :
    next (behind start k) = behind start (k + 1) := by
  unfold next behind MAX_MSG_ID
  split_ifs
  · omega
  · omega

theorem behind_pos (start k : ℕ) : 0 < behind start k := Nat.succ_pos _

theorem behind_le (start k : ℕ) : behind start k ≤ MAX_MSG_ID := by
  unfold behind MAX_MSG_ID
  omega

/-- Every other id is behind the last one, less than `MAX_MSG_ID` steps away. -/
theorem exists_behind {start id : ℕ} (hstart : start ≤ MAX_MSG_ID) (hpos : 0 < id)
    (hid : id ≤ MAX_MSG_ID) :
    ∃ k, 0 < k ∧ k ≤ MAX_MSG_ID ∧ (id ≠ start → k < MAX_MSG_ID ∨ start = 0) ∧
    behind start k = id := by
  unfold behind MAX_MSG_ID at *
  rcases Nat.lt_or_ge start id with h | h
  · exact ⟨id - start, by omega, by omega, by omega, by omega⟩
  · exact ⟨id + 65535 - start, by omega, by omega, by omega, by omega⟩

/-- What the loop does in its turns: it stops at the first id that is free, or where it comes back
to the start. -/
theorem findFree_behind (taken : ℕ → Bool) (start : ℕ) : ∀ (turns : ℕ) {k : ℕ}, 0 < k →
    (∃ i, k ≤ i ∧ i < k + turns ∧ findFree taken start turns (behind start k) = some
      (behind start i) ∧
      taken (behind start i) = false ∧
      ∀ j, k ≤ j → j < i → taken (behind start j) = true ∧ behind start (j + 1) ≠ start) ∨
    (∃ i, k ≤ i ∧ i < k + turns ∧ findFree taken start turns (behind start k) = some 0 ∧
      behind start (i + 1) = start ∧ ∀ j, k ≤ j → j ≤ i → taken (behind start j) = true) ∨
    findFree taken start turns (behind start k) = none ∧
      ∀ j, k ≤ j → j < k + turns → taken (behind start j) = true ∧ behind start (j + 1) ≠ start
  | 0, k, _ => .inr (.inr ⟨rfl, fun j h₁ h₂ => absurd h₂ (by omega)⟩)
  | turns + 1, k, hk => by
    unfold findFree
    rw [next_behind start hk]
    rcases hfree : taken (behind start k) with _ | _
    · exact .inl ⟨k, Nat.le_refl k, by omega, rfl, hfree, fun j h₁ h₂ => absurd h₂ (by omega)⟩
    rw [if_pos rfl]
    split_ifs with hback
    · refine .inr (.inl ⟨k, Nat.le_refl k, by omega, rfl, hback, fun j h₁ h₂ => ?_⟩)
      obtain rfl : j = k := by omega
      exact hfree
    have hfirst : ∀ j, k ≤ j → ¬ k + 1 ≤ j → taken (behind start j) = true ∧
      behind start (j + 1) ≠ start := by
      intro j h₁ h₂
      obtain rfl : j = k := by omega
      exact ⟨hfree, hback⟩
    rcases findFree_behind taken start turns (Nat.succ_pos k) with
      ⟨i, h₁, h₂, hres, hi, hbefore⟩ | ⟨i, h₁, h₂, hres, hi, hbefore⟩ | ⟨hres, hbefore⟩
    · refine .inl ⟨i, by omega, by omega, hres, hi, fun j hj hji => ?_⟩
      by_cases hkj : k + 1 ≤ j
      · exact hbefore j hkj hji
      · exact hfirst j hj hkj
    · refine .inr (.inl ⟨i, by omega, by omega, hres, hi, fun j hj hji => ?_⟩)
      by_cases hkj : k + 1 ≤ j
      · exact hbefore j hkj hji
      · exact (hfirst j hj hkj).1
    · refine .inr (.inr ⟨hres, fun j hj hji => ?_⟩)
      by_cases hkj : k + 1 ≤ j
      · exact hbefore j hkj (by omega)
      · exact hfirst j hj hkj

/-- **What id is assigned**: the first one behind the last that is free; or 0, where every id but
the last one is taken, whether that one is free or not; or the loop does not end, where no id was
given yet and all are taken. -/
theorem assignMsgId_cases (taken : ℕ → Bool) {msgID : ℕ} (h : msgID ≤ MAX_MSG_ID) :
    (∃ k, 0 < k ∧ assignMsgId taken msgID = some (behind msgID k) ∧ taken (behind msgID k) = false ∧
      behind msgID k ≠ msgID ∧ ∀ j, 0 < j → j < k → taken (behind msgID j) = true) ∨
    (msgID ≠ 0 ∧ assignMsgId taken msgID = some 0 ∧
      ∀ id, 0 < id → id ≤ MAX_MSG_ID → id ≠ msgID → taken id = true) ∨
    (msgID = 0 ∧ assignMsgId taken msgID = none ∧
      (∀ turns, findFree taken msgID turns (next msgID) = none) ∧
      ∀ id, 0 < id → id ≤ MAX_MSG_ID → taken id = true) := by
  unfold assignMsgId
  rw [next_eq_behind h]
  rcases findFree_behind taken msgID MAX_MSG_ID Nat.one_pos with
    ⟨i, h₁, -, hres, hi, hbefore⟩ | ⟨i, h₁, h₂, hres, hi, hbefore⟩ | ⟨hres, hbefore⟩
  · refine .inl ⟨i, h₁, hres, hi, ?_, fun j hj hji => (hbefore j hj hji).1⟩
    -- the last step to the id is not one back to the start
    by_cases hone : i = 1
    · unfold behind MAX_MSG_ID at *
      omega
    · have hback := (hbefore (i - 1) (by omega) (by omega)).2
      rwa [show i - 1 + 1 = i by omega] at hback
  · have hi' : 0 < msgID ∧ MAX_MSG_ID - 1 ≤ i := by
      unfold behind MAX_MSG_ID at *
      omega
    refine .inr (.inl ⟨by omega, hres, fun id hpos hid hne => ?_⟩)
    obtain ⟨k, hk, -, hlt, rfl⟩ := exists_behind h hpos hid
    have := hlt hne
    exact hbefore k hk (by omega)
  · have hzero : msgID = 0 := by
      by_contra hne
      refine (hbefore (MAX_MSG_ID - 1) ?_ ?_).2 ?_
      · unfold MAX_MSG_ID
        omega
      · unfold MAX_MSG_ID
        omega
      · unfold behind MAX_MSG_ID at *
        omega
    have hall : ∀ id, 0 < id → id ≤ MAX_MSG_ID → taken id = true := by
      intro id hpos hid
      obtain ⟨k, hk, hkle, -, rfl⟩ := exists_behind h hpos hid
      exact (hbefore k hk (by omega)).1
    refine .inr (.inr ⟨hzero, hres, fun turns => ?_, hall⟩)
    rcases findFree_behind taken msgID turns Nat.one_pos with
      ⟨i, -, -, -, hi, -⟩ | ⟨i, -, -, -, hi, -⟩ | ⟨hres', -⟩
    · rw [hall _ (behind_pos _ _) (behind_le _ _)] at hi
      cases hi
    · rw [hzero] at hi
      cases hi
    · exact hres'

/-- The id that was given last is the only one that is free, and is not found. -/
theorem assignMsgId_cases_last : assignMsgId (fun id => decide (id ≠ 7)) 7 = some 0 := by
  rcases assignMsgId_cases (fun id => decide (id ≠ 7)) (show 7 ≤ MAX_MSG_ID by decide) with
    ⟨k, -, -, hfree, hne, -⟩ | ⟨-, hres, -⟩ | ⟨hzero, -⟩
  · exact absurd hne (of_decide_eq_false hfree)
  · exact hres
  · cases hzero

theorem assignMsgId_free {taken : ℕ → Bool} {msgID id : ℕ} (h : msgID ≤ MAX_MSG_ID)
    (hid : assignMsgId taken msgID = some id) (hne : id ≠ 0) : id ≤ MAX_MSG_ID ∧
    taken id = false := by
  rcases assignMsgId_cases taken h with ⟨k, -, hres, hfree, -, -⟩ | ⟨-, hres, -⟩ | ⟨-, hres, -⟩
  · obtain rfl := Option.some.inj (hid.symm.trans hres)
    exact ⟨behind_le _ _, hfree⟩
  · exact absurd (Option.some.inj (hid.symm.trans hres)) hne
  · rw [hid] at hres
    cases hres

/-- The first call ends where nothing is taken. -/
theorem assignMsgId_ne_none {taken : ℕ → Bool} {msgID : ℕ} (h : msgID ≤ MAX_MSG_ID)
    (hnone : msgID = 0 → ∀ id, taken id = false) : assignMsgId taken msgID ≠ none := by
  rcases assignMsgId_cases taken h with ⟨k, -, hres, -⟩ | ⟨-, hres, -⟩ | ⟨hzero, -, -, hall⟩
  · rw [hres]
    exact Option.some_ne_none _
  · rw [hres]
    exact Option.some_ne_none _
  · have htaken := hall 1 Nat.one_pos (by unfold MAX_MSG_ID; omega)
    rw [hnone hzero 1] at htaken
    cases htaken

end OasisEdge.Mqtt.MessageIds
