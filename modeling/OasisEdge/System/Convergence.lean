import OasisEdge.Lib.Register
import OasisEdge.Lib.Runs
import OasisEdge.System.Platform

/-! # Update notifications out of order

Well-formed notifications for the LED (`Notification`) delivered to `SHADOW_Update` in any order and
any number of times. Their time stamps play no role, since nothing ever stores one in the shadow:
the call behaves as a register of the desired attribute stamped with the version
(`updateRun_register`), which keeps the last delivered of the entries with the greatest version.

The deliveries of a history converge, and old notifications stay without effect, exactly when
notifications of one version agree (`History.Convergent`): versions alone have to order the
history. -/

namespace OasisEdge.System.Convergence

open OasisEdge.Lib.Chars OasisEdge.Lib.Checking OasisEdge.Lib.Runs OasisEdge.Lib.Register
open OasisEdge.CJson.Value OasisEdge.CJson.Parse OasisEdge.Shadow.State OasisEdge.Shadow.Update
open OasisEdge.Led.Driver OasisEdge.System.Platform

/-! ### Notifications -/

/-- A well-formed notification for the LED: the text, and the values its members carry. -/
structure Notification where
  payload : CString
  root : Json
  timestamp : CString
  version : ℤ
  sw : CString
  swTimestamp : UInt64
  parses : cjsonParse payload = some root
  timestamp_eq : stringField root (.lit "timestamp") = some timestamp
  version_eq : cjsonGetObjectItem root (.lit "version") = some (.num (.fin version))
  version_int : INT_MIN ≤ version ∧ version ≤ INT_MAX
  productKey_eq : stringField root (.lit "productKey") = some PRODUCTKEY
  deviceID_eq : stringField root (.lit "deviceID") = some DEVICEID
  sw_eq : desiredSwitch root = some (.str sw)
  swTimestamp_eq : ∃ d, desiredSwitchTimestamp root = some (.num d) ∧ toULong d = some swTimestamp

namespace Notification

/-- What the shadow keeps of a notification: the switch as far as it fits, and its time stamp. -/
def stored (n : Notification) : DevShadowAttribute := ⟨snprintf LENGTH_SWITCH n.sw, n.swTimestamp⟩

/-- The notification as an entry of the register. -/
def entry (n : Notification) : Entry ℤ DevShadowAttribute := ⟨n.version, n.stored⟩

/-- The shadow holds what the notification carries. -/
def CarriedBy (n : Notification) (shadow : DevShadow) : Prop :=
  shadow.state.desired.sw.str = n.sw ∧ shadow.state.desired.swTimestamp = n.swTimestamp ∧
    shadow.version = n.version

theorem desires (n : Notification) : Desires n.root n.sw n.swTimestamp := by
  obtain ⟨d, hd, ht⟩ := n.swTimestamp_eq
  refine ⟨?_, ?_⟩
  · rw [n.sw_eq]; rfl
  · rw [hd]; exact ht

end Notification

/-- The register a shadow contains: the desired attribute, stamped with the version. -/
def register (shadow : DevShadow) : Entry ℤ DevShadowAttribute := ⟨shadow.version, shadow.state.desired⟩

/-- **`SHADOW_Update` on a well-formed notification**: only the version decides. -/
theorem shadowUpdate_notification {shadow : DevShadow} (hi : Installed shadow) (n : Notification) :
    shadowUpdate n.payload shadow =
      .ok (if n.version < shadow.version then (.error, shadow)
        else (.success, takeOver shadow n.sw n.swTimestamp n.version)) := by
  have hint : (Json.num (.fin n.version)).valueint = n.version := valueint_int n.version_int
  unfold shadowUpdate
  rw [n.parses]
  show updateRoot n.root shadow = _
  by_cases hlt : n.version < shadow.version
  · rw [if_pos hlt]
    exact updateRoot_of_behind n.timestamp_eq n.version_eq (by rw [hint]; exact hlt)
  · rw [if_neg hlt]
    refine updateRoot_of_accepts ⟨⟨_, ⟨⟨_, n.timestamp_eq, ?_⟩, n.version_eq, ?_⟩, hint⟩, ⟨?_, ?_⟩,
      n.desires⟩
    · rw [hi.timestamp]; exact strcmp_empty_nonneg _
    · rw [hint]; exact not_lt.mp hlt
    · rw [hi.productKey]; exact n.productKey_eq
    · rw [hi.deviceID]; exact n.deviceID_eq

/-! ### Deliveries -/

/-- One delivery: the shadow afterwards, and what the call returned. -/
def updateStep (shadow : DevShadow) (n : Notification) : Checked (DevShadow × List Ret) := do
  let (ret, shadow) ← shadowUpdate n.payload shadow
  .ok (shadow, [ret])

/-- The shadow after a delivery. -/
def updated (shadow : DevShadow) (n : Notification) : DevShadow :=
  if n.version < shadow.version then shadow else takeOver shadow n.sw n.swTimestamp n.version

theorem updateStep_of_le {shadow : DevShadow} (hi : Installed shadow) {n : Notification}
    (hle : shadow.version ≤ n.version) :
    updateStep shadow n = .ok (takeOver shadow n.sw n.swTimestamp n.version, [.success]) := by
  unfold updateStep
  rw [shadowUpdate_notification hi, if_neg (not_lt.mpr hle)]; rfl

theorem updateStep_eq {shadow : DevShadow} (hi : Installed shadow) (n : Notification) :
    ∃ ret, updateStep shadow n = .ok (updated shadow n, [ret]) := by
  unfold updateStep updated
  rw [shadowUpdate_notification hi]
  by_cases hlt : n.version < shadow.version
  · exact ⟨.error, by rw [if_pos hlt, if_pos hlt]; rfl⟩
  · exact ⟨.success, by rw [if_neg hlt, if_neg hlt]; rfl⟩

theorem installed_takeOver {shadow : DevShadow} (hi : Installed shadow) (sw : CString)
    (swTimestamp : UInt64) (version : ℤ) : Installed (takeOver shadow sw swTimestamp version) :=
  ⟨hi.productKey, hi.deviceID, hi.timestamp⟩

theorem updateStep_success {shadow shadow' : DevShadow} (hi : Installed shadow) {n : Notification}
    (h : updateStep shadow n = .ok (shadow', [.success])) :
    shadow.version ≤ n.version ∧ shadow' = takeOver shadow n.sw n.swTimestamp n.version := by
  unfold updateStep at h
  rw [shadowUpdate_notification hi] at h
  by_cases hlt : n.version < shadow.version
  · rw [if_pos hlt] at h
    cases h
  · rw [if_neg hlt] at h
    exact ⟨not_lt.mp hlt, ((Prod.mk.inj (Except.ok.inj h)).1).symm⟩

theorem takeOver_eq_self {shadow : DevShadow} {sw : CString} {swTimestamp : UInt64} {version : ℤ}
    (hdes : shadow.state.desired = ⟨snprintf LENGTH_SWITCH sw, swTimestamp⟩)
    (hv : version = shadow.version) (hflag : shadow.flag.setShadow = .req) :
    takeOver shadow sw swTimestamp version = shadow := by
  unfold takeOver
  rw [← hdes, hv, ← hflag]

theorem installed_updated {shadow : DevShadow} (hi : Installed shadow) (n : Notification) :
    Installed (updated shadow n) := by
  unfold updated
  split_ifs
  · exact hi
  · exact installed_takeOver hi ..

/-- A delivery offers an entry to the register. -/
theorem register_updated (shadow : DevShadow) (n : Notification) :
    register (updated shadow n) = offer (register shadow) n.entry := by
  by_cases hlt : n.version < shadow.version
  · rw [updated, if_pos hlt]; exact (offer_of_lt hlt).symm
  · rw [updated, if_neg hlt]; exact (offer_of_le (not_lt.mp hlt)).symm

/-- **Deliveries offer their entries to the register.** -/
theorem updateRun_register {shadow : DevShadow} (hi : Installed shadow) (d : List Notification) :
    ∃ shadow' rets, exec updateStep shadow d = .ok (shadow', rets) ∧ Installed shadow' ∧
      register shadow' = offers (register shadow) (d.map Notification.entry) ∧
        (shadow.flag.setShadow = .req → shadow'.flag.setShadow = .req) := by
  induction d generalizing shadow with
  | nil => exact ⟨shadow, [], rfl, hi, rfl, id⟩
  | cons n d ih =>
    obtain ⟨ret, hstep⟩ := updateStep_eq hi n
    obtain ⟨shadow', rets, hrun, hi', hreg, hflag⟩ := ih (installed_updated hi n)
    refine ⟨shadow', [ret] ++ rets, exec_cons_eq_ok.mpr ⟨_, _, _, hstep, hrun, rfl⟩, hi', ?_, ?_⟩
    · rw [hreg, register_updated]; rfl
    · intro hreq
      refine hflag ?_
      unfold updated
      split_ifs
      · exact hreq
      · rfl

/-! ### Histories -/

/-- Notifications in the order the platform made them. -/
structure History where
  notes : List Notification
  nonempty : notes ≠ []
  timestamps : notes.Pairwise fun m n => strcmp m.timestamp n.timestamp < 0
  versions : notes.Pairwise fun m n => m.version ≤ n.version

namespace History

/-- The last notification. -/
def last (h : History) : Notification := h.notes.getLast h.nonempty

theorem last_mem (h : History) : h.last ∈ h.notes := List.getLast_mem h.nonempty

/-- The last notification has the greatest version. -/
theorem version_le_last (h : History) {n : Notification} (hn : n ∈ h.notes) :
    n.version ≤ h.last.version := by
  rcases List.mem_iff_getElem.mp hn with ⟨i, hi, rfl⟩
  unfold last
  rw [List.getLast_eq_getElem]
  rcases Nat.lt_or_ge i (h.notes.length - 1) with hlt | hge
  · exact List.pairwise_iff_getElem.mp h.versions i _ hi (by omega) hlt
  · have : i = h.notes.length - 1 := by omega
    subst this; exact le_rfl

theorem older_or_older (h : History) {m n : Notification} (hm : m ∈ h.notes) (hn : n ∈ h.notes)
    (hne : m ≠ n) : strcmp m.timestamp n.timestamp < 0 ∨ strcmp n.timestamp m.timestamp < 0 := by
  obtain ⟨i, hi, rfl⟩ := List.mem_iff_getElem.mp hm
  obtain ⟨j, hj, rfl⟩ := List.mem_iff_getElem.mp hn
  rcases Nat.lt_trichotomy i j with hlt | rfl | hlt
  · exact Or.inl (List.pairwise_iff_getElem.mp h.timestamps i j hi hj hlt)
  · exact absurd rfl hne
  · exact Or.inr (List.pairwise_iff_getElem.mp h.timestamps j i hj hi hlt)

theorem version_le_of_older (h : History) {m n : Notification} (hm : m ∈ h.notes)
    (hn : n ∈ h.notes) (hold : strcmp m.timestamp n.timestamp < 0) : m.version ≤ n.version := by
  obtain ⟨i, hi, rfl⟩ := List.mem_iff_getElem.mp hm
  obtain ⟨j, hj, rfl⟩ := List.mem_iff_getElem.mp hn
  rcases Nat.lt_trichotomy i j with hlt | rfl | hlt
  · exact List.pairwise_iff_getElem.mp h.versions i j hi hj hlt
  · exact le_rfl
  · have := List.pairwise_iff_getElem.mp h.timestamps j i hj hi hlt
    have := strcmp_swap h.notes[i].timestamp h.notes[j].timestamp
    omega

/-- Every delivery of the history, each notification at least once, ends with what the last
notification carries. -/
def Converges (h : History) (shadow : DevShadow) : Prop :=
  ∀ d : List Notification, (∀ n, n ∈ d ↔ n ∈ h.notes) →
    ∃ shadow' rets, exec updateStep shadow d = .ok (shadow', rets) ∧ h.last.CarriedBy shadow'

/-- Once a notification is accepted, no older one changes the shadow. -/
def IgnoresOlder (h : History) (shadow : DevShadow) : Prop :=
  ∀ (d₁ d₂ : List Notification) (n m : Notification) (s₁ s₂ s₃ s₄ : DevShadow) (rs₁ rs₃ : List Ret)
    (r : Ret), (∀ x ∈ d₁ ++ n :: d₂ ++ [m], x ∈ h.notes) → strcmp m.timestamp n.timestamp < 0 →
    exec updateStep shadow d₁ = .ok (s₁, rs₁) → updateStep s₁ n = .ok (s₂, [.success]) →
    exec updateStep s₂ d₂ = .ok (s₃, rs₃) → updateStep s₃ m = .ok (s₄, [r]) → s₄ = s₃

/-- The versions alone order the history: they are not negative at the end, and notifications of one
version (that is not negative) store the same. The switch of the last one is stored whole. -/
structure Convergent (h : History) : Prop where
  nonneg : 0 ≤ h.last.version
  fits : h.last.sw.length < LENGTH_SWITCH
  agree : ∀ m ∈ h.notes, ∀ n ∈ h.notes, 0 ≤ m.version → m.version = n.version → m.stored = n.stored

/-- The register of a shadow without a version yet, after a delivery. -/
theorem agree_entries {h : History} (hc : h.Convergent) {d : List Notification}
    (hd : ∀ n ∈ d, n ∈ h.notes) : Agree (0 : ℤ) (d.map Notification.entry) := by
  intro x hx y hy h0 hxy
  obtain ⟨m, hm, rfl⟩ := List.mem_map.mp hx
  obtain ⟨n, hn, rfl⟩ := List.mem_map.mp hy
  have hst : m.stored = n.stored := hc.agree m (hd m hm) n (hd n hn) h0 hxy
  ext1
  · exact hxy
  · exact hst

section
variable {h : History} {shadow : DevShadow} (hi : Installed shadow) (h0 : shadow.version = 0)
include hi h0

theorem converges_of_convergent (hc : h.Convergent) : h.Converges shadow := by
  intro d hd
  obtain ⟨shadow', rets, hrun, -, hreg, -⟩ := updateRun_register hi d
  have hlast : offers (register shadow) (d.map Notification.entry) = h.last.entry := by
    refine offers_eq_of_agree ?_ (List.mem_map_of_mem ((hd _).mpr h.last_mem)) ?_ ?_
    · show Agree shadow.version _
      rw [h0]; exact agree_entries hc fun n hn => (hd n).mp hn
    · show shadow.version ≤ _
      rw [h0]; exact hc.nonneg
    · rintro y hy
      obtain ⟨n, hn, rfl⟩ := List.mem_map.mp hy
      exact h.version_le_last ((hd n).mp hn)
  rw [hlast] at hreg
  have hv : shadow'.version = h.last.version := congrArg Entry.stamp hreg
  have hdes : shadow'.state.desired = h.last.stored := congrArg Entry.value hreg
  refine ⟨shadow', rets, hrun, ?_, ?_, hv⟩
  · rw [hdes]; exact str_snprintf hc.fits
  · rw [hdes]; rfl

theorem ignoresOlder_of_convergent (hc : h.Convergent) : h.IgnoresOlder shadow := by
  intro d₁ d₂ n m s₁ s₂ s₃ s₄ rs₁ rs₃ r hmem hold hd₁ hn hd₂ hm
  obtain ⟨_, _, hrun₁, hi₁, hreg₁, -⟩ := updateRun_register hi d₁
  obtain ⟨rfl, rfl⟩ := Prod.mk.inj (Except.ok.inj (hd₁.symm.trans hrun₁))
  have h0₁ : 0 ≤ s₁.version := by
    have hle : shadow.version ≤ s₁.version := by
      show (register shadow).stamp ≤ (register s₁).stamp
      rw [hreg₁]; exact le_offers _ _
    omega
  obtain ⟨hle, rfl⟩ := updateStep_success hi₁ hn
  obtain ⟨_, _, hrun₂, hi₃, hreg₃, hflag⟩ :=
    updateRun_register (installed_takeOver hi₁ n.sw n.swTimestamp n.version) d₂
  obtain ⟨rfl, rfl⟩ := Prod.mk.inj (Except.ok.inj (hd₂.symm.trans hrun₂))
  have hreq : s₃.flag.setShadow = .req := hflag rfl
  -- the register holds the entry of a notification that is not behind `n`
  obtain ⟨p, hp, hpe⟩ : ∃ p ∈ h.notes, register s₃ = p.entry := by
    rw [hreg₃]
    rcases offers_mem (register (takeOver s₁ n.sw n.swTimestamp n.version))
      (d₂.map Notification.entry) with he | he
    · exact ⟨n, hmem n (by simp), he⟩
    · obtain ⟨p, hp, hpe⟩ := List.mem_map.mp he
      exact ⟨p, hmem p (by simp [hp]), hpe.symm⟩
  have hnp : n.version ≤ p.version := by
    show n.entry.stamp ≤ p.entry.stamp
    rw [← hpe, hreg₃]; exact le_offers _ _
  have hv : s₃.version = p.version := congrArg Entry.stamp hpe
  have hdes : s₃.state.desired = p.stored := congrArg Entry.value hpe
  obtain ⟨ret, hstep⟩ := updateStep_eq hi₃ m
  obtain ⟨rfl, -⟩ := Prod.mk.inj (Except.ok.inj (hm.symm.trans hstep))
  unfold updated
  by_cases hlt : m.version < s₃.version
  · rw [if_pos hlt]
  · have hmn := h.version_le_of_older (hmem m (by simp)) (hmem n (by simp)) hold
    have hmp : m.stored = p.stored :=
      hc.agree m (hmem m (by simp)) p hp (by omega) (by omega)
    rw [if_neg hlt]
    refine takeOver_eq_self ?_ (by omega) hreq
    rw [hdes, ← hmp]; rfl

/-- Notifications of one version that come one after the other, the older one last. -/
theorem stored_eq_of_older (hold : h.IgnoresOlder shadow) {m n : Notification} (hm : m ∈ h.notes)
    (hn : n ∈ h.notes) (hnonneg : 0 ≤ m.version) (hv : m.version = n.version)
    (hlt : strcmp m.timestamp n.timestamp < 0) : m.stored = n.stored := by
  have hn' : shadow.version ≤ n.version := by omega
  have hi' := installed_takeOver hi n.sw n.swTimestamp n.version
  have h1 := updateStep_of_le hi hn'
  have h2 := updateStep_of_le hi' (n := m) (by show n.version ≤ m.version; omega)
  have hmem : ∀ x ∈ [] ++ n :: [] ++ [m], x ∈ h.notes := by
    intro x hx
    rcases List.mem_cons.mp hx with rfl | hx
    · exact hn
    · obtain rfl := List.mem_singleton.mp hx; exact hm
  have heq := hold [] [] n m shadow _ _ _ [] [] .success hmem hlt rfl h1 rfl h2
  exact congrArg (fun s : DevShadow => s.state.desired) heq

theorem convergent_of_converges (hconv : h.Converges shadow) (hold : h.IgnoresOlder shadow) :
    h.Convergent := by
  obtain ⟨shadow', rets, hrun, hsw, -, hv⟩ := hconv h.notes fun _ => Iff.rfl
  obtain ⟨_, _, hrun', -, hreg, -⟩ := updateRun_register hi h.notes
  obtain ⟨rfl, -⟩ := Prod.mk.inj (Except.ok.inj (hrun.symm.trans hrun'))
  refine ⟨?_, ?_, ?_⟩
  · have hle : shadow.version ≤ shadow'.version := by
      show (register shadow).stamp ≤ (register shadow').stamp
      rw [hreg]; exact le_offers _ _
    omega
  · rw [← hsw]; exact shadow'.state.desired.sw.fits
  · intro m hm n hn hnonneg hmn
    by_cases hne : m = n
    · rw [hne]
    · rcases h.older_or_older hm hn hne with hlt | hlt
      · exact stored_eq_of_older hi h0 hold hm hn hnonneg hmn hlt
      · exact (stored_eq_of_older hi h0 hold hn hm (hmn ▸ hnonneg) hmn.symm hlt).symm

end

/-- **When deliveries out of order converge**: exactly if the versions alone order the history. -/
theorem converges_iff (h : History) (ledState : UInt8) (uuid : CBuf LENGTH_TOKEN)
    (unixTime : UInt64) :
    h.Converges (ledInit ledState uuid unixTime) ∧ h.IgnoresOlder (ledInit ledState uuid unixTime) ↔
      h.Convergent := by
  have hi := installed_ledInit ledState uuid unixTime
  constructor
  · rintro ⟨hconv, hold⟩; exact convergent_of_converges hi rfl hconv hold
  · intro hc; exact ⟨converges_of_convergent hi rfl hc, ignoresOlder_of_convergent hi rfl hc⟩

/-! ### Two notifications of one version -/

/-- The switch turned on at time `1` and off at time `2`, both under version `1`. -/
def switchedOn : Notification where
  payload := notificationText PRODUCTKEY (.lit "1") (.lit "1") (.lit "on") (.lit "1")
  root := notificationRoot PRODUCTKEY (.lit "1") 1 (.lit "on") 1
  timestamp := .lit "1"
  version := 1
  sw := .lit "on"
  swTimestamp := 1
  parses := by decide +kernel
  timestamp_eq := by decide +kernel
  version_eq := by decide +kernel
  version_int := by decide
  productKey_eq := by decide +kernel
  deviceID_eq := by decide +kernel
  sw_eq := by decide +kernel
  swTimestamp_eq := ⟨.fin 1, by decide +kernel, by decide +kernel⟩

@[inherit_doc switchedOn]
def switchedOff : Notification where
  payload := notificationText PRODUCTKEY (.lit "2") (.lit "1") (.lit "off") (.lit "2")
  root := notificationRoot PRODUCTKEY (.lit "2") 1 (.lit "off") 2
  timestamp := .lit "2"
  version := 1
  sw := .lit "off"
  swTimestamp := 2
  parses := by decide +kernel
  timestamp_eq := by decide +kernel
  version_eq := by decide +kernel
  version_int := by decide
  productKey_eq := by decide +kernel
  deviceID_eq := by decide +kernel
  sw_eq := by decide +kernel
  swTimestamp_eq := ⟨.fin 2, by decide +kernel, by decide +kernel⟩

/-- The history of the two. -/
def onOff : History where
  notes := [switchedOn, switchedOff]
  nonempty := by simp
  timestamps := by
    refine List.pairwise_pair.mpr ?_
    show strcmp (.lit "1") (.lit "2") < 0
    decide
  versions := List.pairwise_pair.mpr (le_refl 1)

/-- **Delivered in the wrong order the two do not converge**: the LED stays switched on. -/
theorem not_converges_onOff : ¬ onOff.Converges (ledInit LED_OFF (.zero _) 0) := by
  intro hconv
  have hd : ∀ n, n ∈ [switchedOff, switchedOn] ↔ n ∈ onOff.notes :=
    fun _ => (List.Perm.swap switchedOn switchedOff []).mem_iff
  obtain ⟨shadow', rets, hrun, hsw, -, -⟩ := hconv _ hd
  obtain ⟨_, _, hrun', -, hreg, -⟩ :=
    updateRun_register (installed_ledInit LED_OFF (.zero _) 0) [switchedOff, switchedOn]
  obtain ⟨rfl, -⟩ := Prod.mk.inj (Except.ok.inj (hrun.symm.trans hrun'))
  have hlast : register shadow' = switchedOn.entry :=
    hreg.trans (offers_pair (by show (0 : ℤ) ≤ 1; decide) rfl)
  have hdes : shadow'.state.desired = switchedOn.stored := congrArg Entry.value hlast
  rw [hdes] at hsw
  revert hsw
  decide

end History

end OasisEdge.System.Convergence
