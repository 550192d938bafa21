import Mathlib.Algebra.BigOperators.Group.Finset.Basic
import Mathlib.Algebra.Order.Group.Multiset

/-! # Transfer of a message by a two-phase handshake

A sender and a receiver that share one message id, over two queues that lose messages but keep their
order. The sender offers a message until it is told that it was received, then releases the id until
it is told that the release was completed, and only then takes the next message. The receiver holds
what it was offered until the release. It hands a message on when it first holds it (`early`), or
when it is released.

`Step early l l' a d` is one move; `a` is what the sender accepted in it and `d` what the receiver
handed on. `Ok` is the invariant: the five stages of a transfer, with what the queues can hold in
each. `Step.balance` is the law of the handshake: what is accepted is what is handed on and what is
`pending`.

`Stuck` is a stage that is never left (`Step.stuck`): the message was handed on, and the answer to
its release was lost. -/

namespace OasisEdge.Lib.Handshake

/-- From the sender. -/
inductive Forth (M : Type*)
  | offer (m : M)
  | release

/-- From the receiver. -/
inductive Back
  | received
  | completed

/-- What the sender is at. -/
inductive Sending (M : Type*)
  | idle
  | offered (m : M)
  | released (m : M)

/-- The two sides and what is between them. What is held may be gone, once it was handed on. -/
structure Line (M : Type*) where
  sending : Sending M
  held : Option (Option M)
  forth : List (Forth M)
  back : List Back

variable {M : Type*} {early : Bool}

/-- One move, in which any messages may be lost as well. -/
inductive Step (early : Bool) (l l' : Line M) : List M → List M → Prop
  | lose : l'.sending = l.sending → l'.held = l.held → l'.forth.Sublist l.forth →
      l'.back.Sublist l.back → Step early l l' [] []
  | accept {m : M} : l.sending = .idle → l'.sending = .offered m → l'.held = l.held →
      l'.forth.Sublist (l.forth ++ [.offer m]) → l'.back.Sublist l.back → Step early l l' [m] []
  | offer {m : M} (xs : List (Forth M)) : l.sending = .offered m → (∀ x ∈ xs, x = .offer m) →
      l'.sending = l.sending → l'.held = l.held → l'.forth.Sublist (l.forth ++ xs) →
      l'.back.Sublist l.back → Step early l l' [] []
  | release {m : M} (xs : List (Forth M)) : l.sending = .released m → (∀ x ∈ xs, x = .release) →
      l'.sending = l.sending → l'.held = l.held → l'.forth.Sublist (l.forth ++ xs) →
      l'.back.Sublist l.back → Step early l l' [] []
  | hold {m : M} {f : List (Forth M)} : l.forth = .offer m :: f → l.held = none →
      l'.sending = l.sending → l'.held = some (if early then none else some m) →
      l'.forth.Sublist f →
      l'.back.Sublist (l.back ++ [.received]) → Step early l l' [] (if early then [m] else [])
  | holdAgain {m : M} {x : Option M} {f : List (Forth M)} : l.forth = .offer m :: f →
    l.held = some x →
      l'.sending = l.sending → l'.held = some (some m) → l'.forth.Sublist f →
      l'.back.Sublist (l.back ++ [.received]) → Step early l l' [] []
  | drop {x : Option M} {f : List (Forth M)} : l.forth = .release :: f → l.held = some x →
      l'.sending = l.sending → l'.held = none → l'.forth.Sublist f →
      l'.back.Sublist (l.back ++ [.completed]) → Step early l l' [] (if early then [] else x.toList)
  | received {m : M} {b : List Back} : l.back = .received :: b → l.sending = .offered m →
      l'.sending = .released m → l'.held = l.held → l'.forth.Sublist (l.forth ++ [.release]) →
      l'.back.Sublist b → Step early l l' [] []
  | completed {m : M} {b : List Back} : l.back = .completed :: b → l.sending = .released m →
      l'.sending = .idle → l'.held = l.held → l'.forth.Sublist l.forth → l'.back.Sublist b →
      Step early l l' [] []

/-! ### The stages of a transfer -/

/-- What is held of the message `m`: before a repetition nothing, if it was handed on. -/
def Holds (early : Bool) (m : M) (h : Option M) : Prop := h = some m ∨ early = true ∧ h = none

/-- Only releases, of transfers that are over. -/
def Releases (f : List (Forth M)) : Prop := ∀ x ∈ f, x = .release

/-- Only the message `m`. -/
def Offers (m : M) (f : List (Forth M)) : Prop := ∀ x ∈ f, x = .offer m

/-- Only acknowledgements of an offer. -/
def Receipts (b : List Back) : Prop := ∀ x ∈ b, x = .received

/-- The five stages. -/
inductive Ok (early : Bool) : Line M → Prop
  /-- No transfer. -/
  | idle {f : List (Forth M)} : Releases f → Ok early ⟨.idle, none, f, []⟩
  /-- The message has not arrived. -/
  | offered {m : M} {f g : List (Forth M)} : Releases f → Offers m g →
      Ok early ⟨.offered m, none, f ++ g, []⟩
  /-- It has arrived, but the sender does not know. -/
  | held {m : M} {h : Option M} {g : List (Forth M)} {b : List Back} :
    Holds early m h → Offers m g →
      Receipts b → Ok early ⟨.offered m, some h, g, b⟩
  /-- It is released, but the receiver does not know. -/
  | released {m : M} {h : Option M} {g f : List (Forth M)} {b : List Back} : Holds early m h →
      Offers m g → Releases f → Receipts b → Ok early ⟨.released m, some h, g ++ f, b⟩
  /-- It was handed on and dropped, but the sender does not know. -/
  | done {m : M} {f : List (Forth M)} {b c : List Back} : Releases f → Receipts b →
      c.Sublist [.completed] → Ok early ⟨.released m, none, f, b ++ c⟩

/-- What was accepted and is not handed on. -/
def pending (early : Bool) : Sending M → Option (Option M) → List M
  | .idle, _ => []
  | .offered m, none => [m]
  | .offered m, some _ => if early then [] else [m]
  | .released _, none => []
  | .released m, some _ => if early then [] else [m]

theorem Offers.head {m m' : M} {f : List (Forth M)} (h : Offers m (.offer m' :: f)) :
    m' = m ∧ Offers m f :=
  ⟨Forth.offer.inj (h _ List.mem_cons_self), fun x hx => h x (List.mem_cons_of_mem _ hx)⟩

theorem Releases.head {m : M} {f : List (Forth M)} (h : Releases (.offer m :: f)) : False :=
  nomatch h _ List.mem_cons_self

theorem Offers.tail {m : M} {f : List (Forth M)} (h : Offers m (.release :: f)) : False :=
  nomatch h _ List.mem_cons_self

theorem Offers.append {m : M} {f g : List (Forth M)} (hf : Offers m f) (hg : Offers m g) :
    Offers m (f ++ g) := fun x hx => (List.mem_append.mp hx).elim (hf x) (hg x)

theorem Releases.append {f g : List (Forth M)} (hf : Releases f) (hg : Releases g) :
    Releases (f ++ g) :=
  fun x hx => (List.mem_append.mp hx).elim (hf x) (hg x)

theorem Receipts.append {b : List Back} (h : Receipts b) : Receipts (b ++ [.received]) :=
  fun x hx => (List.mem_append.mp hx).elim (h x) List.mem_singleton.mp

/-- An offer in front of releases and offers of `m` is one of these. -/
theorem offer_head {m m' : M} {f g tl : List (Forth M)} (hf : Releases f) (hg : Offers m g)
    (h : f ++ g = .offer m' :: tl) : m' = m ∧ Offers m tl := by
  rcases f with _ | ⟨x, f⟩
  · rw [List.nil_append] at h
    rw [h] at hg
    exact hg.head
  · obtain ⟨rfl, -⟩ := List.cons.inj h
    exact hf.head.elim

/-- An offer in front of offers of `m` and releases is one of these. -/
theorem offer_head' {m m' : M} {g f tl : List (Forth M)} (hg : Offers m g) (hf : Releases f)
    (h : g ++ f = .offer m' :: tl) : m' = m ∧ ∃ g', Offers m g' ∧ tl = g' ++ f := by
  rcases g with _ | ⟨x, g⟩
  · rw [List.nil_append] at h
    rw [h] at hf
    exact hf.head.elim
  · obtain ⟨rfl, rfl⟩ := List.cons.inj h
    exact ⟨hg.head.1, g, hg.head.2, rfl⟩

/-- A release in front of offers of `m` and releases: there are no offers. -/
theorem release_head {m : M} {g f tl : List (Forth M)} (hg : Offers m g) (hf : Releases f)
    (h : g ++ f = .release :: tl) : Releases tl := by
  rcases g with _ | ⟨x, g⟩
  · rw [List.nil_append] at h
    rw [h] at hf
    exact fun y hy => hf y (List.mem_cons_of_mem _ hy)
  · obtain ⟨rfl, -⟩ := List.cons.inj h
    exact hg.tail.elim

/-- Losing messages keeps the stage. -/
theorem Ok.lose {l : Line M} (h : Ok early l) {f : List (Forth M)} {b : List Back}
    (hf : f.Sublist l.forth) (hb : b.Sublist l.back) :
    Ok early { l with forth := f, back := b } := by
  rcases h with h | ⟨hr, ho⟩ | ⟨hh, ho, hb'⟩ | ⟨hh, ho, hr, hb'⟩ | ⟨hr, hb', hc⟩
  · obtain rfl := List.sublist_nil.mp hb
    exact .idle fun x hx => h x (hf.subset hx)
  · obtain rfl := List.sublist_nil.mp hb
    obtain ⟨f₁, f₂, rfl, h₁, h₂⟩ := List.sublist_append_iff.mp hf
    exact .offered (fun x hx => hr x (h₁.subset hx)) fun x hx => ho x (h₂.subset hx)
  · exact .held hh (fun x hx => ho x (hf.subset hx)) fun x hx => hb' x (hb.subset hx)
  · obtain ⟨f₁, f₂, rfl, h₁, h₂⟩ := List.sublist_append_iff.mp hf
    exact .released hh (fun x hx => ho x (h₁.subset hx)) (fun x hx => hr x (h₂.subset hx))
      fun x hx => hb' x (hb.subset hx)
  · obtain ⟨b₁, b₂, rfl, h₁, h₂⟩ := List.sublist_append_iff.mp hb
    exact .done (fun x hx => hr x (hf.subset hx)) (fun x hx => hb' x (h₁.subset hx)) (h₂.trans hc)

/-- **A move keeps the invariant, and what is accepted in it is what is handed on and what is
pending.** -/
theorem Step.balance {l l' : Line M} {a d : List M} (hs : Step early l l' a d) (h : Ok early l) :
    Ok early l' ∧ a ++ pending early l.sending l.held = d ++ pending early l'.sending l'.held := by
  obtain ⟨s', h', f', b'⟩ := l'
  rcases hs with ⟨rfl, rfl, hf, hb⟩ | ⟨hsend, rfl, rfl, hf, hb⟩ | ⟨xs, hsend, hxs, rfl,
    rfl, hf, hb⟩ |
    ⟨xs, hsend, hxs, rfl, rfl, hf, hb⟩ | ⟨hforth, hheld, rfl, rfl, hf, hb⟩ |
    ⟨hforth, hheld, rfl, rfl, hf, hb⟩ | ⟨hforth, hheld, rfl, rfl, hf, hb⟩ |
    ⟨hback, hsend, rfl, rfl, hf, hb⟩ | ⟨hback, hsend, rfl, rfl, hf, hb⟩
  case lose => exact ⟨h.lose hf hb, rfl⟩
  case accept =>
    rcases h with h | ⟨hr, ho⟩ | ⟨hh, ho, hb₀⟩ | ⟨hh, ho, hr, hb₀⟩ | ⟨hr, hb₀, hc⟩
    · exact ⟨(Ok.offered h fun x hx => List.mem_singleton.mp hx).lose hf hb, rfl⟩
    all_goals cases hsend
  case offer =>
    rcases h with h | ⟨hr, ho⟩ | ⟨hh, ho, hb₀⟩ | ⟨hh, ho, hr, hb₀⟩ | ⟨hr, hb₀, hc⟩
    · cases hsend
    · cases hsend
      simp only [List.append_assoc] at hf
      exact ⟨(Ok.offered hr (ho.append hxs)).lose hf hb, rfl⟩
    · cases hsend
      exact ⟨(Ok.held hh (ho.append hxs) hb₀).lose hf hb, rfl⟩
    · cases hsend
    · cases hsend
  case release =>
    rcases h with h | ⟨hr, ho⟩ | ⟨hh, ho, hb₀⟩ | ⟨hh, ho, hr, hb₀⟩ | ⟨hr, hb₀, hc⟩
    · cases hsend
    · cases hsend
    · cases hsend
    · simp only [List.append_assoc] at hf
      exact ⟨(Ok.released hh ho (hr.append hxs) hb₀).lose hf hb, rfl⟩
    · exact ⟨(Ok.done (hr.append hxs) hb₀ hc).lose hf hb, rfl⟩
  case hold =>
    rcases h with h | ⟨hr, ho⟩ | ⟨hh, ho, hb₀⟩ | ⟨hh, ho, hr, hb₀⟩ | ⟨hr, hb₀, hc⟩
    · simp only at hforth
      rw [hforth] at h
      exact h.head.elim
    · obtain ⟨rfl, htl⟩ := offer_head hr ho hforth
      have hrec : Receipts [.received] := fun x hx => List.mem_singleton.mp hx
      rcases early with _ | _
      · exact ⟨(Ok.held (.inl rfl) htl hrec).lose hf hb, rfl⟩
      · exact ⟨(Ok.held (.inr ⟨rfl, rfl⟩) htl hrec).lose hf hb, rfl⟩
    · cases hheld
    · cases hheld
    · simp only at hforth
      rw [hforth] at hr
      exact hr.head.elim
  case holdAgain =>
    rcases h with h | ⟨hr, ho⟩ | ⟨hh, ho, hb₀⟩ | ⟨hh, ho, hr, hb₀⟩ | ⟨hr, hb₀, hc⟩
    · cases hheld
    · cases hheld
    · simp only at hforth
      rw [hforth] at ho
      obtain ⟨rfl, htl⟩ := ho.head
      exact ⟨(Ok.held (.inl rfl) htl hb₀.append).lose hf hb, rfl⟩
    · obtain ⟨rfl, g', hg', rfl⟩ := offer_head' ho hr hforth
      exact ⟨(Ok.released (.inl rfl) hg' hr hb₀.append).lose hf hb, rfl⟩
    · cases hheld
  case drop =>
    rcases h with h | ⟨hr, ho⟩ | ⟨hh, ho, hb₀⟩ | ⟨hh, ho, hr, hb₀⟩ | ⟨hr, hb₀, hc⟩
    · cases hheld
    · cases hheld
    · simp only at hforth
      rw [hforth] at ho
      exact ho.tail.elim
    · cases hheld
      refine ⟨(Ok.done (release_head ho hr hforth) hb₀ (List.Sublist.refl _)).lose hf hb, ?_⟩
      rcases early with _ | _
      · rcases hh with rfl | ⟨hfalse, -⟩
        · rfl
        · cases hfalse
      · rfl
    · cases hheld
  case received =>
    rcases h with h | ⟨hr, ho⟩ | ⟨hh, ho, hb₀⟩ | ⟨hh, ho, hr, hb₀⟩ | ⟨hr, hb₀, hc⟩
    · cases hsend
    · cases hback
    · cases hsend
      simp only at hback
      rw [hback] at hb₀
      have hrel : Releases ([.release] : List (Forth M)) := fun x hx => List.mem_singleton.mp hx
      exact ⟨(Ok.released hh ho hrel fun x hx => hb₀ x (List.mem_cons_of_mem _ hx)).lose hf hb, rfl⟩
    · cases hsend
    · cases hsend
  case completed =>
    rcases h with h | ⟨hr, ho⟩ | ⟨hh, ho, hb₀⟩ | ⟨hh, ho, hr, hb₀⟩ | @⟨_, _, b₀, c, hr, hb₀, hc⟩
    · cases hsend
    · cases hsend
    · cases hsend
    · simp only at hback
      rw [hback] at hb₀
      cases hb₀ _ List.mem_cons_self
    · rcases b₀ with _ | ⟨x, b₀⟩
      · simp only [List.nil_append] at hback
        have hlen := hc.length_le
        rw [hback, List.length_cons, List.length_singleton] at hlen
        obtain rfl := List.length_eq_zero_iff.mp (Nat.le_zero.mp (Nat.le_of_succ_le_succ hlen))
        exact ⟨(Ok.idle hr).lose hf hb, rfl⟩
      · obtain ⟨rfl, -⟩ := List.cons.inj hback
        cases hb₀ _ List.mem_cons_self

/-! ### Many ids -/

/-- **The law for many ids**: where one of them moves and the others lose messages at most, what is
accepted is what is handed on and what is pending, over all. -/
theorem Step.sum {ι : Type*} [DecidableEq ι] {s : Finset ι} {k : ι} (hk : k ∈ s) {l l' : ι → Line M}
    {a d : List M} (hstep : Step early (l k) (l' k) a d) (hother : ∀ j, j ≠ k →
      Step early (l j) (l' j) [] [])
    (h : ∀ j, Ok early (l j)) :
    (∀ j, Ok early (l' j)) ∧
      (a : Multiset M) + ∑ j ∈ s, (pending early (l j).sending (l j).held : Multiset M) =
        d + ∑ j ∈ s, (pending early (l' j).sending (l' j).held : Multiset M) := by
  refine ⟨fun j => ?_, ?_⟩
  · by_cases hj : j = k
    · rw [hj]
      exact (hstep.balance (h k)).1
    · exact ((hother j hj).balance (h j)).1
  · have hrest : ∑ j ∈ s.erase k, (pending early (l j).sending (l j).held : Multiset M) =
        ∑ j ∈ s.erase k, (pending early (l' j).sending (l' j).held : Multiset M) :=
      Finset.sum_congr rfl fun j hj =>
        congrArg _ ((hother j (Finset.ne_of_mem_erase hj)).balance (h j)).2
    rw [← Finset.add_sum_erase s _ hk, ← Finset.add_sum_erase s _ hk, hrest,
      ← add_assoc, ← add_assoc,
      Multiset.coe_add, Multiset.coe_add, (hstep.balance (h k)).2]

theorem ok_start : Ok early (⟨.idle, none, [], []⟩ : Line M) := .idle fun _ hx => nomatch hx

/-! ### A stage that is never left -/

/-- The message was dropped, and no answer to the release is on its way: the receiver does not
answer a release of what it does not hold. -/
structure Stuck (l : Line M) : Prop where
  released : ∃ m, l.sending = .released m
  held : l.held = none
  forth : Releases l.forth
  back : Receipts l.back

theorem Stuck.sending_ne {l : Line M} (h : Stuck l) (m : M) :
    l.sending ≠ .idle ∧ l.sending ≠ .offered m := by
  obtain ⟨m', hrel⟩ := h.released
  rw [hrel]
  exact ⟨nofun, nofun⟩

/-- **The stage is never left**, and nothing is handed on in it. -/
theorem Step.stuck {l l' : Line M} {a d : List M} (hs : Step early l l' a d) (h : Stuck l) :
    Stuck l' ∧ l'.sending = l.sending ∧ d = [] := by
  obtain ⟨hrel, hheld, hforth, hback⟩ := id h
  have hne := h.sending_ne
  rcases hs with ⟨hs', hh', hf, hb⟩ | ⟨hsend, -, -, -, -⟩ | ⟨xs, hsend, -, -, -, -, -⟩ |
    ⟨xs, -, hxs, hs', hh', hf, hb⟩ | ⟨hf₀, -, -, -, -, -⟩ | ⟨hf₀, -, -, -, -, -⟩ | ⟨-,
    hh₀, -, -, -, -⟩ |
    ⟨-, hsend, -, -, -, -⟩ | ⟨hb₀, -, -, -, -, -⟩
  case lose =>
    exact ⟨⟨hs' ▸ hrel, hh'.trans hheld, fun x hx => hforth x (hf.subset hx),
      fun x hx => hback x (hb.subset hx)⟩, hs', rfl⟩
  case accept m => exact absurd hsend (hne m).1
  case offer m => exact absurd hsend (hne m).2
  case release =>
    exact ⟨⟨hs' ▸ hrel, hh'.trans hheld, fun x hx => hforth.append hxs x (hf.subset hx),
      fun x hx => hback x (hb.subset hx)⟩, hs', rfl⟩
  case hold =>
    rw [hf₀] at hforth
    exact hforth.head.elim
  case holdAgain =>
    rw [hf₀] at hforth
    exact hforth.head.elim
  case drop =>
    rw [hheld] at hh₀
    cases hh₀
  case received m _ => exact absurd hsend (hne m).2
  case completed =>
    rw [hb₀] at hback
    cases hback _ List.mem_cons_self

end OasisEdge.Lib.Handshake
