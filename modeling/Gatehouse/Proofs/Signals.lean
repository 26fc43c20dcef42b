import Mathlib.Algebra.GroupWithZero.Nat
import Gatehouse.Shutdown

namespace Gatehouse

/-- How many signals are told of as missed. -/
def Polled.missed : Polled → Nat
  | lagged n => n
  | _ => 0

/-- What a look finds, and what it leaves, where so many signals are pending. -/
def Polled.ofPending : Nat → Polled × Nat
  | 0 => (.empty, 0)
  | 1 => (.fired, 0)
  | n + 2 => (.lagged (n + 1), 1)

/-- How many signals some looks account for: those that were seen and those told of as missed. -/
def accountedFor (seen : List Polled) : Nat := seen.count .fired + (seen.map Polled.missed).sum

theorem accountedFor_cons (found : Polled) (seen : List Polled) :
    accountedFor (found :: seen) = accountedFor [found] + accountedFor seen := by
  simp [accountedFor, List.count_cons]
  omega

theorem Polled.accountedFor_ofPending (p : Nat) :
    accountedFor [(ofPending p).1] + (ofPending p).2 = p := by
  match p with
  | 0 => rfl
  | 1 => rfl
  | n + 2 => simp [ofPending, accountedFor, missed]

theorem Polled.ofPending_iff (p : Nat) :
    ((ofPending p).1 = .empty ↔ p = 0) ∧ ((ofPending p).1 = .fired ↔ p = 1) ∧
      ∀ n, (ofPending p).1 = .lagged n ↔ 0 < n ∧ p = n + 1 := by
  match p with
  | 0 => simp [ofPending]
  | 1 =>
    refine ⟨by simp [ofPending], by simp [ofPending], fun n => ?_⟩
    simp only [ofPending, reduceCtorEq, false_iff]
    omega
  | k + 2 =>
    refine ⟨by simp [ofPending], by simp [ofPending], fun n => ?_⟩
    simp only [ofPending, lagged.injEq]
    omega

/-- A channel for one signal answers by how many are pending, whatever their numbers are. -/
theorem Channel.receive_eq {c : Channel} (hc : c.capacity = 1) {next : Nat} (h : next ≤ c.sent) :
    (c.receive next).1 = (Polled.ofPending (c.sent - next)).1 ∧
      c.sent - (c.receive next).2 = (Polled.ofPending (c.sent - next)).2 ∧
      (c.receive next).2 ≤ c.sent := by
  unfold receive oldest
  rw [hc]
  obtain ⟨p, hp⟩ : ∃ p, c.sent = next + p := ⟨c.sent - next, by omega⟩
  rw [hp, Nat.add_sub_cancel_left]
  match p with
  | 0 =>
    rw [if_neg (by omega), if_neg (by omega)]
    exact ⟨rfl, Nat.sub_self next, Nat.le_refl next⟩
  | 1 =>
    rw [if_neg (by omega), if_pos (by omega)]
    exact ⟨rfl, Nat.sub_self (next + 1), Nat.le_refl (next + 1)⟩
  | n + 2 =>
    rw [if_pos (by omega)]
    have hmissed : next + (n + 2) - 1 - next = n + 1 := by omega
    exact ⟨congrArg Polled.lagged hmissed, Nat.sub_sub_self (by omega), Nat.sub_le ..⟩

namespace Shutdown

/-- What can be done with a handle, or by a subscriber. Both are numbered as they came. -/
inductive Step where
  | subscribe (handle : Nat)
  | clone (handle : Nat)
  | trigger (handle : Nat)
  | poll (subscriber : Nat)
deriving DecidableEq, Repr

def Step.isSubscribe : Step → Bool
  | subscribe _ => true
  | _ => false

def Step.isTrigger : Step → Bool
  | trigger _ => true
  | _ => false

/-- Does one step, if there is such a handle or subscriber; a subscriber also finds something. -/
def step? (s : Shutdown) : Step → Option (Option Polled × Shutdown)
  | .subscribe handle => if handle < s.handles then some (none, s.subscribe) else none
  | .clone handle => if handle < s.handles then some (none, s.clone) else none
  | .trigger handle => if handle < s.handles then some (none, s.trigger) else none
  | .poll subscriber => (s.pollOne? subscriber).map fun (found, s) => (some found, s)

/-- Does one step after the other, and lists them with what was found. -/
def run? (s : Shutdown) : List Step → Option (List (Step × Option Polled) × Shutdown)
  | [] => some ([], s)
  | step :: rest => (s.step? step).bind fun (found, next) =>
    (next.run? rest).map fun (log, last) => ((step, found) :: log, last)

/-- What a subscriber found, look by look. -/
def seenBy (subscriber : Nat) (log : List (Step × Option Polled)) : List Polled :=
  log.filterMap fun (step, found) => if step = .poll subscriber then found else none

/-- A channel for one signal, with nobody ahead of it. -/
structure IsSound (s : Shutdown) : Prop where
  capacity : s.channel.capacity = 1
  reached : ∀ n ∈ s.next, n ≤ s.channel.sent

variable {s t last : Shutdown} {step : Step} {found : Option Polled} {i : Nat}
  {steps : List Step} {log : List (Step × Option Polled)}

theorem step?_cases (h : s.step? step = some (found, t)) :
    (∃ handle, step = .subscribe handle ∧ handle < s.handles ∧ found = none ∧ t = s.subscribe) ∨
    (∃ handle, step = .clone handle ∧ handle < s.handles ∧ found = none ∧ t = s.clone) ∨
    (∃ handle, step = .trigger handle ∧ handle < s.handles ∧ found = none ∧ t = s.trigger) ∨
    ∃ j n, step = .poll j ∧ s.next[j]? = some n ∧ found = some (s.channel.receive n).1 ∧
      t = { s with next := s.next.set j (s.channel.receive n).2 } := by
  cases step with
  | poll j =>
    obtain ⟨⟨_, _⟩, hpoll, h⟩ := Option.map_eq_some_iff.mp h
    obtain ⟨n, hn, hpoll⟩ := Option.map_eq_some_iff.mp hpoll
    cases hpoll
    cases h
    exact .inr (.inr (.inr ⟨j, n, rfl, hn, rfl, rfl⟩))
  | subscribe handle | clone handle | trigger handle =>
    simp only [step?] at h
    split at h
    next hlt =>
      cases h
      simp [hlt]
    next => cases h

theorem pending_subscribe (s : Shutdown) : s.subscribe.pending = s.pending ++ [0] := by
  simp [pending, subscribe]

theorem pending_trigger (hs : s.IsSound) : s.trigger.pending = s.pending.map (· + 1) := by
  simp only [pending, trigger, List.map_map]
  refine List.map_congr_left fun n hn => ?_
  have := hs.reached n hn
  simp only [Function.comp_apply]
  omega

/-- A look goes by what is pending and changes that of one subscriber only. -/
theorem pending_poll (hs : s.IsSound) {j n : Nat} (hn : s.next[j]? = some n) :
    s.pending[j]? = some (s.channel.sent - n) ∧
      (s.channel.receive n).1 = (Polled.ofPending (s.channel.sent - n)).1 ∧
      { s with next := s.next.set j (s.channel.receive n).2 : Shutdown }.pending =
        s.pending.set j (Polled.ofPending (s.channel.sent - n)).2 := by
  obtain ⟨hfound, hleft, -⟩ :=
    Channel.receive_eq hs.capacity (hs.reached n (List.mem_of_getElem? hn))
  refine ⟨by simp [pending, hn], hfound, ?_⟩
  simp only [pending, List.map_set, hleft]

theorem isSound_new : new.IsSound := ⟨rfl, by simp [new]⟩

theorem isSound_of_step? (hs : s.IsSound) (h : s.step? step = some (found, t)) : t.IsSound := by
  obtain ⟨_, -, -, -, rfl⟩ | ⟨_, -, -, -, rfl⟩ | ⟨_, -, -, -, rfl⟩ | ⟨j, n, -, hn, -, rfl⟩ :=
    step?_cases h
  · refine ⟨hs.capacity, fun m hm => ?_⟩
    rcases List.mem_append.mp hm with hm | hm
    · exact hs.reached m hm
    · exact Nat.le_of_eq (List.mem_singleton.mp hm)
  · exact ⟨hs.capacity, hs.reached⟩
  · exact ⟨hs.capacity, fun m hm => Nat.le_succ_of_le (hs.reached m hm)⟩
  · refine ⟨hs.capacity, fun m hm => ?_⟩
    rcases List.mem_or_eq_of_mem_set hm with hm | rfl
    · exact hs.reached m hm
    · exact (Channel.receive_eq hs.capacity (hs.reached n (List.mem_of_getElem? hn))).2.2

theorem run?_cons_inv (h : s.run? (step :: steps) = some (log, last)) :
    ∃ found t rest, s.step? step = some (found, t) ∧ t.run? steps = some (rest, last) ∧
      log = (step, found) :: rest := by
  obtain ⟨⟨found, t⟩, hstep, h⟩ := Option.bind_eq_some_iff.mp h
  obtain ⟨⟨rest, _⟩, hrest, h⟩ := Option.map_eq_some_iff.mp h
  cases h
  exact ⟨found, t, rest, hstep, hrest, rfl⟩

theorem run?_append_inv {before after : List Step}
    (h : s.run? (before ++ after) = some (log, last)) :
    ∃ log₁ t log₂, s.run? before = some (log₁, t) ∧ t.run? after = some (log₂, last) ∧
      log = log₁ ++ log₂ := by
  induction before generalizing s log with
  | nil => exact ⟨[], s, log, rfl, h, rfl⟩
  | cons step before ih =>
    obtain ⟨found, t, rest, hstep, hrest, rfl⟩ := run?_cons_inv h
    obtain ⟨log₁, u, log₂, hbefore, hafter, rfl⟩ := ih hrest
    exact ⟨(step, found) :: log₁, u, log₂, by simp [run?, hstep, hbefore], hafter, rfl⟩

theorem isSound_of_run? (hs : s.IsSound) (h : s.run? steps = some (log, last)) :
    last.IsSound := by
  induction steps generalizing s log with
  | nil =>
    cases h
    exact hs
  | cons step steps ih =>
    obtain ⟨_, t, _, hstep, hrest, -⟩ := run?_cons_inv h
    exact ih (isSound_of_step? hs hstep) hrest

/-- Subscribers that are looked at one after the other do not disturb each other. -/
theorem run?_polls_append {done todo : List Nat} (h : s.next = done ++ todo) :
    ∃ log, s.run? ((List.range' done.length todo.length).map .poll) =
        some (log, { s with next := done ++ todo.map fun n => (s.channel.receive n).2 }) ∧
      log.map Prod.snd = todo.map fun n => some (s.channel.receive n).1 := by
  induction todo generalizing done s with
  | nil =>
    rw [List.append_nil] at h
    subst h
    exact ⟨[], by simp [run?], rfl⟩
  | cons n todo ih =>
    have hstep : s.step? (.poll done.length) = some (some (s.channel.receive n).1,
        { s with next := done ++ (s.channel.receive n).2 :: todo }) := by
      simp [step?, pollOne?, h]
    obtain ⟨log, hrun, hlog⟩ :=
      ih (s := { s with next := done ++ (s.channel.receive n).2 :: todo }) (List.append_cons ..)
    rw [List.length_append, List.length_singleton, ← List.append_cons] at hrun
    refine ⟨(.poll done.length, some (s.channel.receive n).1) :: log, ?_, ?_⟩
    · rw [List.length_cons, List.range'_succ, List.map_cons, run?, hstep]
      simp [hrun]
    · simp [hlog]

theorem run?_polls (s : Shutdown) :
    ∃ log, s.run? ((List.range s.next.length).map .poll) = some (log, s.poll.2) ∧
      log.map Prod.snd = s.poll.1.map some := by
  obtain ⟨log, hrun, hlog⟩ := run?_polls_append (s := s) (List.nil_append _).symm
  refine ⟨log, ?_, ?_⟩
  · rw [List.range_eq_range']
    exact hrun
  · rw [hlog, poll, List.map_map]
    rfl

theorem seenBy_append (i : Nat) (log₁ log₂ : List (Step × Option Polled)) :
    seenBy i (log₁ ++ log₂) = seenBy i log₁ ++ seenBy i log₂ := List.filterMap_append

theorem length_of_step? (h : s.step? step = some (found, t)) :
    t.next.length = s.next.length + [step].countP Step.isSubscribe := by
  obtain ⟨_, rfl, -, -, rfl⟩ | ⟨_, rfl, -, -, rfl⟩ | ⟨_, rfl, -, -, rfl⟩ |
    ⟨_, _, rfl, -, -, rfl⟩ := step?_cases h
  · exact List.length_append
  · rfl
  · rfl
  · exact List.length_set

theorem length_of_run? (h : s.run? steps = some (log, last)) :
    last.next.length = s.next.length + steps.countP Step.isSubscribe := by
  induction steps generalizing s log with
  | nil =>
    cases h
    rfl
  | cons step steps ih =>
    obtain ⟨_, t, _, hstep, hrest, -⟩ := run?_cons_inv h
    have hone := length_of_step? hstep
    rw [ih hrest, hone, Nat.add_assoc, ← List.countP_append, List.singleton_append]

/-- Nothing is found by a subscriber that is still to come. -/
theorem seenBy_of_run? (h : s.run? steps = some (log, last)) (hi : last.next.length ≤ i) :
    seenBy i log = [] := by
  induction steps generalizing s log with
  | nil =>
    cases h
    rfl
  | cons step steps ih =>
    obtain ⟨found, t, rest, hstep, hrest, rfl⟩ := run?_cons_inv h
    have hlength := length_of_run? h
    have hne : step ≠ .poll i := by
      rintro rfl
      obtain ⟨_, hstep, -⟩ | ⟨_, hstep, -⟩ | ⟨_, hstep, -⟩ | ⟨j, n, hstep, hn, -⟩ :=
        step?_cases hstep
      · cases hstep
      · cases hstep
      · cases hstep
      · cases hstep
        have := (List.getElem?_eq_some_iff.mp hn).1
        omega
    have hone : seenBy i [(step, found)] = [] := by simp [seenBy, hne]
    calc
      seenBy i ((step, found) :: rest) = seenBy i [(step, found)] ++ seenBy i rest :=
        seenBy_append i [(step, found)] rest
      _ = [] := by rw [hone, ih hrest, List.append_nil]

/--
What one subscriber finds, and what is left for it, where so many signals are pending for it first.
-/
def replay (i : Nat) : Nat → List Step → List Polled × Nat
  | p, [] => ([], p)
  | p, .trigger _ :: rest => replay i (p + 1) rest
  | p, .poll j :: rest =>
    if j = i then
      ((Polled.ofPending p).1 :: (replay i (Polled.ofPending p).2 rest).1,
        (replay i (Polled.ofPending p).2 rest).2)
    else replay i p rest
  | p, _ :: rest => replay i p rest

theorem replay_cons (i p : Nat) (step : Step) (rest : List Step) :
    replay i p (step :: rest) =
      ((replay i p [step]).1 ++ (replay i (replay i p [step]).2 rest).1,
        (replay i (replay i p [step]).2 rest).2) := by
  cases step with
  | poll j => by_cases hj : j = i <;> simp [replay, hj]
  | subscribe | clone | trigger => rfl

/-- What is sent is accounted for by what is found and what is left. -/
theorem replay_accounts (i p : Nat) (steps : List Step) :
    steps.countP Step.isTrigger + p =
      accountedFor (replay i p steps).1 + (replay i p steps).2 := by
  induction steps generalizing p with
  | nil => simp [replay, accountedFor]
  | cons step rest ih =>
    cases step with
    | subscribe | clone => simpa [replay, Step.isTrigger] using ih p
    | trigger =>
      have := ih (p + 1)
      simp only [replay, List.countP_cons, Step.isTrigger, if_true]
      omega
    | poll j =>
      by_cases hj : j = i
      · have hone := Polled.accountedFor_ofPending p
        have hrest := ih (Polled.ofPending p).2
        have hcons := accountedFor_cons (Polled.ofPending p).1
          (replay i (Polled.ofPending p).2 rest).1
        simp only [replay, if_pos hj, List.countP_cons, Step.isTrigger, Bool.false_eq_true,
          if_false]
        omega
      · simpa [replay, hj, Step.isTrigger] using ih p

/-- What is found, and what is left, goes by what is pending. -/
theorem replays_of_step? (hs : s.IsSound) (h : s.step? step = some (found, t)) {p : Nat}
    (hp : s.pending[i]? = some p) :
    seenBy i [(step, found)] = (replay i p [step]).1 ∧
      t.pending[i]? = some (replay i p [step]).2 := by
  obtain ⟨_, rfl, -, rfl, rfl⟩ | ⟨_, rfl, -, rfl, rfl⟩ | ⟨_, rfl, -, rfl, rfl⟩ |
    ⟨j, n, rfl, hn, rfl, rfl⟩ := step?_cases h
  · refine ⟨rfl, ?_⟩
    rw [pending_subscribe, List.getElem?_append_left (List.getElem?_eq_some_iff.mp hp).1]
    exact hp
  · exact ⟨rfl, hp⟩
  · refine ⟨rfl, ?_⟩
    rw [pending_trigger hs, List.getElem?_map, hp]
    rfl
  · obtain ⟨hpending, hfound, hleft⟩ := pending_poll hs hn
    rw [hfound, hleft]
    by_cases hj : j = i
    · subst hj
      obtain rfl := Option.some.inj (hpending.symm.trans hp)
      have hlt := (List.getElem?_eq_some_iff.mp hp).1
      exact ⟨by simp [seenBy, replay], by simp [replay, hlt]⟩
    · have hpoll : Step.poll j ≠ .poll i := fun h => hj (Step.poll.inj h)
      refine ⟨by simp [seenBy, replay, hj], ?_⟩
      rw [List.getElem?_set_ne hj, hp]
      simp [replay, hj]

theorem replays_of_run? (hs : s.IsSound) (h : s.run? steps = some (log, last)) {p : Nat}
    (hp : s.pending[i]? = some p) :
    seenBy i log = (replay i p steps).1 ∧ last.pending[i]? = some (replay i p steps).2 := by
  induction steps generalizing s log p with
  | nil =>
    cases h
    exact ⟨rfl, hp⟩
  | cons step steps ih =>
    obtain ⟨found, t, rest, hstep, hrest, rfl⟩ := run?_cons_inv h
    obtain ⟨hseen, hleft⟩ := replays_of_step? hs hstep hp
    obtain ⟨hseen', hleft'⟩ := ih (isSound_of_step? hs hstep) hrest hleft
    rw [replay_cons]
    refine ⟨?_, hleft'⟩
    rw [← hseen, ← hseen']
    exact seenBy_append i [(step, found)] rest

/-- A subscriber goes by what was done since it subscribed. -/
theorem replays_of_subscribe {before after : List Step} {handle : Nat}
    (h : new.run? (before ++ .subscribe handle :: after) = some (log, last)) :
    seenBy (before.countP Step.isSubscribe) log =
        (replay (before.countP Step.isSubscribe) 0 after).1 ∧
      last.pending[before.countP Step.isSubscribe]? =
        some (replay (before.countP Step.isSubscribe) 0 after).2 := by
  obtain ⟨log₁, s, log₂, hbefore, hafter, rfl⟩ := run?_append_inv h
  obtain ⟨found, t, rest, hstep, hrest, rfl⟩ := run?_cons_inv hafter
  have hs : s.IsSound := isSound_of_run? isSound_new hbefore
  have hlength : s.next.length = before.countP Step.isSubscribe := by
    simpa [new] using length_of_run? hbefore
  rw [← hlength]
  obtain ⟨_, hsub, -, rfl, rfl⟩ | ⟨_, hsub, -⟩ | ⟨_, hsub, -⟩ | ⟨_, _, hsub, -⟩ :=
    step?_cases hstep
  · have hp : s.subscribe.pending[s.next.length]? = some 0 := by
      rw [pending_subscribe, List.getElem?_append_right (by simp [pending])]
      simp [pending]
    have hnone : seenBy s.next.length log₁ = [] := seenBy_of_run? hbefore (Nat.le_refl _)
    obtain ⟨hseen, hleft⟩ := replays_of_run? (isSound_of_step? hs hstep) hrest hp
    refine ⟨?_, hleft⟩
    rw [seenBy_append, hnone, ← hseen]
    rfl
  · cases hsub
  · cases hsub
  · cases hsub

/-- A look at a subscription tells how many signals are pending for it. -/
theorem poll_of_pending (hs : s.IsSound) {left : Nat} (hp : s.pending[i]? = some left) :
    ∃ found next, s.step? (.poll i) = some (some found, next) ∧ (found = .empty ↔ left = 0) ∧
      (found = .fired ↔ left = 1) ∧ ∀ n, found = .lagged n ↔ 0 < n ∧ left = n + 1 := by
  obtain ⟨n, hn, rfl⟩ := Option.map_eq_some_iff.mp (List.getElem?_map ▸ hp)
  obtain ⟨hfound, -, -⟩ :=
    Channel.receive_eq hs.capacity (hs.reached n (List.mem_of_getElem? hn))
  have hstep : s.step? (.poll i) = some (some (s.channel.receive n).1,
      { s with next := s.next.set i (s.channel.receive n).2 }) := by
    simp [step?, pollOne?, hn]
  refine ⟨_, _, hstep, ?_⟩
  rw [hfound]
  exact Polled.ofPending_iff _

/--
Every signal is accounted for, for every subscriber, after whatever was done by whichever handles:
those that were sent since it subscribed are those it has seen, those it was told it has missed, and
those still pending, and how many are pending is what its next look tells. What was sent before it
subscribed makes no difference to what it finds.
-/
theorem run?_accounts (before after : List Step) (handle : Nat)
    (h : new.run? (before ++ .subscribe handle :: after) = some (log, last)) :
    let i := before.countP Step.isSubscribe
    let seen := seenBy i log
    (∃ left, last.pending[i]? = some left ∧
      after.countP Step.isTrigger =
        seen.count .fired + (seen.map Polled.missed).sum + left ∧
      ∃ found next, last.step? (.poll i) = some (some found, next) ∧
        (found = .empty ↔ left = 0) ∧ (found = .fired ↔ left = 1) ∧
        ∀ n, found = .lagged n ↔ 0 < n ∧ left = n + 1) ∧
    ∀ before' handle' log' last', before'.countP Step.isSubscribe = i →
      new.run? (before' ++ .subscribe handle' :: after) = some (log', last') →
      seenBy i log' = seen ∧ last'.pending[i]? = last.pending[i]? := by
  intro i seen
  obtain ⟨hseen, hleft⟩ := replays_of_subscribe h
  have hsound : last.IsSound := isSound_of_run? isSound_new h
  constructor
  · refine ⟨_, hleft, ?_, poll_of_pending hsound hleft⟩
    rw [show seen = _ from hseen]
    exact replay_accounts i 0 after
  · rintro before' handle' log' last' hi h'
    obtain ⟨hseen', hleft'⟩ := replays_of_subscribe h'
    rw [hi] at hseen' hleft'
    exact ⟨hseen'.trans hseen.symm, hleft'.trans hleft.symm⟩

/-- Signals of two handles, before and after a subscription, with a look now and then. -/
def clonedSteps : List Step :=
  [.clone 0, .trigger 1, .subscribe 0, .trigger 0] ++ .subscribe 1 ::
    [.trigger 0, .poll 1, .trigger 1, .trigger 0, .poll 0, .trigger 1, .poll 1, .trigger 1]

/-- The second subscriber sees one signal of five, is told that it missed two, and has two left. -/
theorem run?_accounts_cloned :
    ∃ log last, new.run? clonedSteps = some (log, last) ∧
      seenBy 1 log = [.fired, .lagged 2] ∧ last.pending[1]? = some 2 ∧
      ∃ found next, last.step? (.poll 1) = some (some found, next) ∧ found = .lagged 1 := by
  obtain ⟨⟨log, last⟩, hrun⟩ : ∃ outcome, new.run? clonedSteps = some outcome := ⟨_, rfl⟩
  have hseen : seenBy 1 log = [.fired, .lagged 2] := by
    cases hrun
    rfl
  obtain ⟨⟨left, hleft, hsum, found, next, hpoll, -, -, htold⟩, -⟩ := run?_accounts _ _ _ hrun
  obtain rfl : left = 2 := by
    have hfound : accountedFor (seenBy 1 log) = 3 := by rw [hseen]; rfl
    have hfive : 5 = accountedFor (seenBy 1 log) + left := hsum
    omega
  exact ⟨log, last, hrun, hseen, hleft, found, next, hpoll, (htold 1).mpr ⟨by decide, rfl⟩⟩

end Shutdown

end Gatehouse
