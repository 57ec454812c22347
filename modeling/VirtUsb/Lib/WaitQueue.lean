/-
# Sleeping until a condition holds

The agents of a machine share a queue in which they sleep.  Who waits for a condition enters the
queue first and looks then: it leaves if the condition holds, and goes to sleep if not.  Who
may have made a condition true wakes everybody, but only some time later, and a sleeper that
is woken looks again (`Protocol.step`).

Since an agent is in the queue before it looks, no wake-up is lost (`Protocol.Sound`): while a
sleeper that nobody has woken sleeps although its condition holds, some agent is still to
wake it.  So every sleeper whose condition holds can leave within three steps of the queue
(`Protocol.leaves`).
-/

import VirtUsb.Lib.Machine
import Mathlib.Logic.Function.Basic

namespace WaitQueue

open Transition

universe u v w x

/-- Where an agent is, and for which condition it is there. -/
inductive Place (ω : Type x)
  | out
  | entered (c : ω)
  | asleep (c : ω)
  deriving DecidableEq

/-- A machine whose agents wait for conditions. -/
structure Protocol (σ : Type u) (α : Type v) (ι : Type w) (ω : Type x) where
  next : σ → α → Option σ
  /-- The agent that takes a step, unless it is a new one. -/
  agent : α → Option ι
  /-- The step is followed by a wake-up. -/
  wakes : σ → α → Bool
  /-- What an agent waits for next. -/
  waits : σ → ι → Option ω
  holds : σ → ω → Bool
  /-- The wait returns, as the condition holds. -/
  leave : σ → ι → Option σ
  /-- The wait is broken off. -/
  quit : σ → ι → Option σ

/-- Who is in the queue, whom nobody has woken since it entered, and who is still to wake the
others. -/
structure State (σ : Type u) (ι : Type w) (ω : Type x) where
  inner : σ
  place : ι → Place ω
  armed : ι → Bool
  waking : ι → Bool

/-- A step of the inner machine, or of an agent in the queue: it enters, looks, goes on after it
was woken or interrupted by a signal, or wakes everybody. -/
inductive Act (α : Type v) (ι : Type w)
  | inner (a : α)
  /-- The condition holds before the agent enters. -/
  | pass (i : ι)
  | enter (i : ι)
  | look (i : ι) (signal : Bool)
  | rise (i : ι) (signal : Bool)
  | wake (i : ι)

variable {σ : Type u} {α : Type v} {ι : Type w} {ω : Type x}

/-- Nobody is in the queue, and nobody is to wake it. -/
def State.Initial (I : σ → Prop) (s : State σ ι ω) : Prop :=
  I s.inner ∧ (∀ i, s.place i = .out) ∧ ∀ i, s.waking i = false

section Moves

variable [DecidableEq ι]

namespace State

variable (s : State σ ι ω) (i : ι)

/-- The agent goes on outside of the queue. -/
def goOn (t : σ) : State σ ι ω :=
  { s with
    inner := t
    place := Function.update s.place i .out
    armed := Function.update s.armed i false }

/-- The agent moves inside of the queue, and counts as woken from now on or not. -/
def goTo (p : Place ω) (armed : Bool) : State σ ι ω :=
  { s with place := Function.update s.place i p, armed := Function.update s.armed i armed }

/-- The agent takes a step of the machine, after which it is to wake the others or not. -/
def act (t : σ) (agent : Option ι) (wakes : Bool) : State σ ι ω :=
  { s with
    inner := t
    waking := match agent with
      | none => s.waking
      | some i => Function.update s.waking i wakes }

/-- Everybody in the queue is woken. -/
def wakeAll : State σ ι ω :=
  { s with armed := fun _ => false, waking := Function.update s.waking i false }

variable {s i} {j : ι} {t : σ} {p : Place ω} {armed : Bool}

/-- An agent that goes on is outside. -/
@[simp]
theorem goOn_place_self : (s.goOn i t).place i = .out := Function.update_self ..

/-- The others stay where they are. -/
theorem goOn_place_of_ne (hj : j ≠ i) : (s.goOn i t).place j = s.place j :=
  Function.update_of_ne hj ..

/-- The others stay as they are, woken or not. -/
theorem goOn_armed_of_ne (hj : j ≠ i) : (s.goOn i t).armed j = s.armed j :=
  Function.update_of_ne hj ..

/-- An agent that moves is where it moved to. -/
@[simp]
theorem goTo_place_self : (s.goTo i p armed).place i = p := Function.update_self ..

/-- The others stay where they are. -/
theorem goTo_place_of_ne (hj : j ≠ i) : (s.goTo i p armed).place j = s.place j :=
  Function.update_of_ne hj ..

/-- The others stay as they are, woken or not. -/
theorem goTo_armed_of_ne (hj : j ≠ i) : (s.goTo i p armed).armed j = s.armed j :=
  Function.update_of_ne hj ..

end State

namespace Protocol

variable (P : Protocol σ α ι ω)

/-- An agent that waits, or is still to wake the others, does nothing else. -/
def Free (s : State σ ι ω) (a : α) : Bool :=
  (P.agent a).all fun i => (P.waits s.inner i).isNone && !s.waking i

/-- What an action does, if it is possible. -/
def step (s : State σ ι ω) : Act α ι → Option (State σ ι ω)
  | .inner a =>
      if P.Free s a then
        (P.next s.inner a).map fun t => s.act t (P.agent a) (P.wakes s.inner a)
      else none
  | .pass i =>
      match s.place i, P.waits s.inner i with
      | .out, some c =>
          if !s.waking i && P.holds s.inner c then (P.leave s.inner i).map (s.goOn i) else none
      | _, _ => none
  | .enter i =>
      match s.place i, P.waits s.inner i with
      | .out, some c => if s.waking i then none else some (s.goTo i (.entered c) true)
      | _, _ => none
  | .look i signal =>
      match s.place i with
      | .entered c =>
          if P.holds s.inner c then (P.leave s.inner i).map (s.goOn i)
          else if signal then (P.quit s.inner i).map (s.goOn i)
          else some (s.goTo i (.asleep c) (s.armed i))
      | _ => none
  | .rise i signal =>
      match s.place i with
      | .asleep c => if s.armed i && !signal then none else some (s.goTo i (.entered c) true)
      | _ => none
  | .wake i => if s.waking i then some (s.wakeAll i) else none

end Protocol

end Moves

namespace Protocol

variable (P : Protocol σ α ι ω) (I : σ → Prop)

/-- The agent takes at most one step, which needs no wake-up. -/
def Quiet (s : σ) (i : ι) (t : σ) : Prop :=
  t = s ∨ ∃ a, P.agent a = some i ∧ P.next s a = some t ∧ P.wakes s a = false

/-- What makes a condition true is followed by a wake-up, and an agent waits until it leaves. -/
structure Lawful : Prop where
  keeps : ∀ s a t, I s → P.next s a = some t → I t
  wakes : ∀ s a t c, I s → P.next s a = some t → P.holds t c = true → P.holds s c = false →
    ∃ i, P.agent a = some i ∧ P.wakes s a = true
  waits : ∀ s a t i c, I s → P.next s a = some t → P.agent a ≠ some i → P.waits s i = some c →
    P.waits t i = some c
  leave : ∀ s i c t, P.waits s i = some c → P.leave s i = some t → P.Quiet s i t
  quit : ∀ s i c t, P.waits s i = some c → P.quit s i = some t → P.Quiet s i t
  leaves : ∀ s i c, I s → P.waits s i = some c → P.holds s c = true → ∃ t, P.leave s i = some t

/-- A sleeper whose condition holds has been woken, or will be. -/
structure Sound (s : State σ ι ω) : Prop where
  inner : I s.inner
  waits : ∀ i c, s.place i = .entered c ∨ s.place i = .asleep c → P.waits s.inner i = some c
  owed : ∀ i c, s.place i = .asleep c → s.armed i = true → P.holds s.inner c = true →
    ∃ j, s.waking j = true

section Quiet

variable {P I} {i j : ι} {c : ω}

variable {x y : σ}

/-- A quiet step keeps the invariant. -/
theorem Quiet.keeps (hP : P.Lawful I) (hq : P.Quiet x i y) (hx : I x) : I y := by
  rcases hq with rfl | ⟨a, -, ha, -⟩
  · exact hx
  · exact hP.keeps x a y hx ha

/-- A quiet step makes no condition true. -/
theorem Quiet.holds (hP : P.Lawful I) (hq : P.Quiet x i y) (hx : I x) (hc : P.holds y c = true) :
    P.holds x c = true := by
  rcases hq with rfl | ⟨a, -, ha, hquiet⟩
  · exact hc
  · by_contra hne
    obtain ⟨-, -, hwakes⟩ := hP.wakes x a y c hx ha hc (Bool.eq_false_iff.2 hne)
    exact absurd (hquiet.symm.trans hwakes) Bool.false_ne_true

/-- A quiet step leaves what the others wait for. -/
theorem Quiet.waits (hP : P.Lawful I) (hq : P.Quiet x i y) (hx : I x) (hij : j ≠ i)
    (hw : P.waits x j = some c) : P.waits y j = some c := by
  rcases hq with rfl | ⟨a, hagent, ha, -⟩
  · exact hw
  · exact hP.waits x a y j c hx ha (by rw [hagent]; exact fun h => hij (Option.some.inj h).symm) hw

end Quiet

variable [DecidableEq ι]

/-- The protocol as a machine, begun with an empty queue. -/
def machine : Machine (State σ ι ω) (Act α ι) := .ofFun (State.Initial I) P.step

variable {P I} {s t : State σ ι ω} {i j : ι} {c : ω}

/-- Whoever goes on outside of the queue leaves the others as they are. -/
theorem Sound.goOn (hP : P.Lawful I) (hs : P.Sound I s) {x : σ} (hq : P.Quiet s.inner i x) :
    P.Sound I (s.goOn i x) := by
  have other : ∀ {j : ι} {p : Place ω}, p ≠ .out → (s.goOn i x).place j = p →
      j ≠ i ∧ s.place j = p := by
    intro j p hp hj
    have hne : j ≠ i := by
      rintro rfl
      exact hp (hj.symm.trans State.goOn_place_self)
    exact ⟨hne, (State.goOn_place_of_ne hne).symm.trans hj⟩
  refine ⟨hq.keeps hP hs.inner, fun j c hj => ?_, fun j c hj harmed hc => ?_⟩
  · have hplace : j ≠ i ∧ (s.place j = .entered c ∨ s.place j = .asleep c) := by
      rcases hj with hj | hj
      · exact (other (by simp) hj).imp_right .inl
      · exact (other (by simp) hj).imp_right .inr
    exact hq.waits hP hs.inner hplace.1 (hs.waits j c hplace.2)
  · obtain ⟨hne, hplace⟩ := other (by simp) hj
    rw [State.goOn_armed_of_ne hne] at harmed
    exact hs.owed j c hplace harmed (hq.holds hP hs.inner hc)

/-- An agent that stays in the queue sleeps only if its condition does not hold. -/
theorem Sound.goTo (hs : P.Sound I s) {p : Place ω} {armed : Bool}
    (hw : ∀ c, p = .entered c ∨ p = .asleep c → P.waits s.inner i = some c)
    (hp : ∀ c, p = .asleep c → P.holds s.inner c = false) : P.Sound I (s.goTo i p armed) := by
  refine ⟨hs.inner, fun j c hj => ?_, fun j c hj harmed hc => ?_⟩
  · rcases eq_or_ne j i with rfl | hne
    · rw [State.goTo_place_self] at hj
      exact hw c hj
    · rw [State.goTo_place_of_ne hne] at hj
      exact hs.waits j c hj
  · rcases eq_or_ne j i with rfl | hne
    · rw [State.goTo_place_self] at hj
      exact absurd ((hp c hj).symm.trans hc) Bool.false_ne_true
    · rw [State.goTo_place_of_ne hne] at hj
      rw [State.goTo_armed_of_ne hne] at harmed
      exact hs.owed j c hj harmed hc

/-- A step of an agent that is free to act loses no wake-up. -/
theorem Sound.act (hP : P.Lawful I) (hs : P.Sound I s) {a : α} {x : σ} (hfree : P.Free s a = true)
    (ha : P.next s.inner a = some x) : P.Sound I (s.act x (P.agent a) (P.wakes s.inner a)) := by
  have hagent : ∀ k, P.agent a = some k → P.waits s.inner k = none ∧ s.waking k = false := by
    intro k hk
    simpa [Free, hk] using hfree
  refine ⟨hP.keeps _ a x hs.inner ha, fun k c hk => ?_, fun k c hk harmed hc => ?_⟩
  · have hwaits := hs.waits k c hk
    refine hP.waits _ a x k c hs.inner ha (fun hk => ?_) hwaits
    exact absurd ((hagent k hk).1.symm.trans hwaits) nofun
  · rcases hold : P.holds s.inner c with _ | _
    · obtain ⟨k', hk', hwakes⟩ := hP.wakes _ a x c hs.inner ha hc hold
      exact ⟨k', by simp [State.act, hk', hwakes]⟩
    · obtain ⟨j, hj⟩ := hs.owed k c hk harmed hold
      refine ⟨j, ?_⟩
      rcases hk' : P.agent a with _ | k'
      · exact hj
      · have hne : j ≠ k' := by
          rintro rfl
          exact absurd (hj.symm.trans (hagent j hk').2) (by simp)
        exact (Function.update_of_ne hne ..).trans hj

/-- **Every step keeps the promise** that a sleeper whose condition holds is woken. -/
theorem Sound.step (hP : P.Lawful I) (hs : P.Sound I s) {a : Act α ι} (hst : P.step s a = some t) :
    P.Sound I t := by
  cases a with
  | inner a =>
      rw [Protocol.step] at hst
      split at hst
      · rename_i hfree
        obtain ⟨x, hx, rfl⟩ := Option.map_eq_some_iff.1 hst
        exact hs.act hP hfree hx
      · exact absurd hst nofun
  | pass i =>
      rw [Protocol.step] at hst
      split at hst
      · rename_i c _ hwaits
        split at hst
        · obtain ⟨x, hx, rfl⟩ := Option.map_eq_some_iff.1 hst
          exact hs.goOn hP (hP.leave _ i c _ hwaits hx)
        · exact absurd hst nofun
      · exact absurd hst nofun
  | enter i =>
      rw [Protocol.step] at hst
      split at hst
      · rename_i c hplace hwaits
        split at hst
        · exact absurd hst nofun
        · obtain rfl := Option.some.inj hst
          refine hs.goTo (fun c' hc' => ?_) nofun
          obtain rfl : c = c' := by simpa using hc'
          exact hwaits
      · exact absurd hst nofun
  | look i signal =>
      rw [Protocol.step] at hst
      split at hst
      · rename_i c hplace
        have hwaits := hs.waits i c (.inl hplace)
        split at hst
        · obtain ⟨x, hx, rfl⟩ := Option.map_eq_some_iff.1 hst
          exact hs.goOn hP (hP.leave _ i c _ hwaits hx)
        rename_i hnot
        split at hst
        · obtain ⟨x, hx, rfl⟩ := Option.map_eq_some_iff.1 hst
          exact hs.goOn hP (hP.quit _ i c _ hwaits hx)
        · obtain rfl := Option.some.inj hst
          refine hs.goTo (fun c' hc' => ?_) fun c' hc' => ?_
          · obtain rfl : c = c' := by simpa using hc'
            exact hwaits
          · obtain rfl : c = c' := by simpa using hc'
            exact Bool.eq_false_iff.2 hnot
      · exact absurd hst nofun
  | rise i signal =>
      rw [Protocol.step] at hst
      split at hst
      · rename_i c hplace
        split at hst
        · exact absurd hst nofun
        · obtain rfl := Option.some.inj hst
          refine hs.goTo (fun c' hc' => ?_) nofun
          obtain rfl : c = c' := by simpa using hc'
          exact hs.waits i c (.inr hplace)
      · exact absurd hst nofun
  | wake i =>
      rw [Protocol.step] at hst
      split at hst
      · obtain rfl := Option.some.inj hst
        exact ⟨hs.inner, hs.waits, fun j c _ harmed => absurd harmed Bool.false_ne_true⟩
      · exact absurd hst nofun

/-- **No wake-up is lost**, in whichever order the agents act. -/
theorem sound_of_reachable (hP : P.Lawful I) (hs : (P.machine I).Reachable s) : P.Sound I s := by
  refine Machine.Reachable.invariant (I := P.Sound I) (fun s₀ hs₀ => ?_)
    (fun _ _ _ hs hst => Sound.step hP hs hst) hs
  obtain ⟨hI, hout, -⟩ := hs₀
  refine ⟨hI, fun i c hi => ?_, fun i c hi => ?_⟩
  · rw [hout i] at hi
    exact absurd hi (by simp)
  · rw [hout i] at hi
    exact absurd hi (by simp)

/-- A sleeper that was woken leaves if its condition holds. -/
theorem Sound.leaves_of_woken (hP : P.Lawful I) (hs : P.Sound I s) (hi : s.place i = .asleep c)
    (harmed : s.armed i = false) (hc : P.holds s.inner c = true) :
    ∃ l t, Run (P.machine I) s l t ∧ l.map Prod.snd = [.rise i false, .look i false] ∧
      t.place i = .out ∧ P.leave s.inner i = some t.inner := by
  obtain ⟨x, hx⟩ := hP.leaves s.inner i c hs.inner (hs.waits i c (.inr hi)) hc
  have hrise : P.step s (.rise i false) = some (s.goTo i (.entered c) true) := by
    simp [Protocol.step, hi, harmed]
  have hlook : P.step (s.goTo i (.entered c) true) (.look i false) =
      some ((s.goTo i (.entered c) true).goOn i x) := by
    simp only [Protocol.step, State.goTo_place_self]
    rw [if_pos (show P.holds (s.goTo i (.entered c) true).inner c = true from hc)]
    exact Option.map_eq_some_iff.2 ⟨x, hx, rfl⟩
  refine ⟨[(s, .rise i false), (s.goTo i (.entered c) true, .look i false)],
    (s.goTo i (.entered c) true).goOn i x, ?_, rfl, ?_, hx⟩
  · exact .snoc (.snoc .nil hrise) hlook
  · exact State.goOn_place_self

/-- **Every sleeper whose condition holds can leave** without anything else but steps of the
queue: it has been woken, or somebody is to wake it. -/
theorem Sound.leaves (hP : P.Lawful I) (hs : P.Sound I s) (hi : s.place i = .asleep c)
    (hc : P.holds s.inner c = true) :
    ∃ l t, Run (P.machine I) s l t ∧
      (l.map Prod.snd = [.rise i false, .look i false] ∨
        ∃ j, l.map Prod.snd = [.wake j, .rise i false, .look i false]) ∧
      t.place i = .out ∧ P.leave s.inner i = some t.inner := by
  rcases harmed : s.armed i with _ | _
  · obtain ⟨l, t, hl, hacts, ht⟩ := hs.leaves_of_woken hP hi harmed hc
    exact ⟨l, t, hl, .inl hacts, ht⟩
  · obtain ⟨j, hj⟩ := hs.owed i c hi harmed hc
    have hwake : P.step s (.wake j) = some (s.wakeAll j) := by simp [Protocol.step, hj]
    obtain ⟨l, t, hl, hacts, ht⟩ :=
      (hs.step hP hwake).leaves_of_woken (i := i) (c := c) hP hi rfl hc
    refine ⟨(s, .wake j) :: l, t, (Run.single hwake).trans hl, .inr ⟨j, ?_⟩, ht⟩
    rw [List.map_cons, hacts]

end Protocol

end WaitQueue
