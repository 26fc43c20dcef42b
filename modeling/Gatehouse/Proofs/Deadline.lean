import Gatehouse.Exchange
import Gatehouse.Proofs.Trace

namespace Gatehouse

/-- A call whatever time is given to its answer. -/
def Call.timeless (c : Call) : Call := { c with patience := 0 }

/-- Calls with their outcomes, whatever time was given to them. -/
def timeless (qs : List (Call × Outcome)) : List (Call × Outcome) :=
  qs.map fun x => (x.1.timeless, x.2)

/-- How long the outcomes of some calls are waited for, with this patience for each. -/
def waitedBy (patience : Call → Nat) : List (Call × Outcome) → Nat
  | [] => 0
  | (c, o) :: rest => o.wait (patience c) + waitedBy patience rest

def waited (qs : List (Call × Outcome)) : Nat := waitedBy Call.patience qs

theorem Call.of_timeless_eq {c d : Call} (h : c.timeless = d.timeless) :
    c.collaborator = d.collaborator ∧ c.target = d.target ∧ c.headers = d.headers := by
  simp only [timeless, mk.injEq] at h
  exact ⟨h.1, h.2.2.1, h.2.2.2.1⟩

theorem Call.sent_of_timeless_eq {c d : Call} (h : c.timeless = d.timeless) :
    c.method = d.method ∧ c.body = d.body := by
  simp only [timeless, mk.injEq] at h
  exact ⟨h.2.1, h.2.2.2.2.1⟩

theorem Call.wait_hears_le (c : Call) (o : Outcome) :
    (c.hears o).wait c.patience ≤ c.patience := by
  unfold hears
  split
  next htime => exact htime
  next => exact Nat.le_refl _

theorem Outcome.wait_of_ne_silent {o : Outcome} (h : o ≠ .silent) (m n : Nat) :
    o.wait m = o.wait n := by
  cases o with
  | silent => exact absurd rfl h
  | _ => rfl

theorem timeless_cons (c : Call) (o : Outcome) (qs : List (Call × Outcome)) :
    timeless ((c, o) :: qs) = (c.timeless, o) :: timeless qs := rfl

theorem timeless_append (qs rs : List (Call × Outcome)) :
    timeless (qs ++ rs) = timeless qs ++ timeless rs := List.map_append

theorem timeless_prefix {qs rs : List (Call × Outcome)} (h : qs <+: rs) :
    timeless qs <+: timeless rs := h.map _

theorem waitedBy_congr {patience other : Call → Nat} {qs : List (Call × Outcome)}
    (h : ∀ x ∈ qs, patience x.1 = other x.1) : waitedBy patience qs = waitedBy other qs := by
  induction qs with
  | nil => rfl
  | cons x rest ih =>
    have hrest := ih fun y hy => h y (List.mem_cons_of_mem _ hy)
    rw [waitedBy, waitedBy, hrest, h x (List.mem_cons_self ..)]

theorem waitedBy_timeless {patience : Call → Nat} (h : ∀ c, patience c.timeless = patience c)
    (qs : List (Call × Outcome)) : waitedBy patience (timeless qs) = waitedBy patience qs := by
  induction qs with
  | nil => rfl
  | cons x rest ih => rw [timeless_cons, waitedBy, waitedBy, ih, h]

theorem waited_nil : waited [] = 0 := rfl

theorem waited_cons (c : Call) (o : Outcome) (qs : List (Call × Outcome)) :
    waited ((c, o) :: qs) = o.wait c.patience + waited qs := rfl

theorem waited_append (qs rs : List (Call × Outcome)) :
    waited (qs ++ rs) = waited qs + waited rs := by
  induction qs with
  | nil => rw [List.nil_append, waited_nil, Nat.zero_add]
  | cons x rest ih =>
    obtain ⟨c, o⟩ := x
    rw [List.cons_append, waited_cons, waited_cons, ih, Nat.add_assoc]

theorem waited_eq_zero {qs : List (Call × Outcome)} (h : ∀ x ∈ qs, x.2.wait x.1.patience = 0) :
    waited qs = 0 := by
  induction qs with
  | nil => rfl
  | cons x rest ih =>
    obtain ⟨c, o⟩ := x
    obtain ⟨hfirst, hrest⟩ := List.forall_mem_cons.mp h
    rw [waited_cons, ih hrest, Nat.add_zero]
    exact hfirst

namespace Exchange

open Program

variable {β γ : Type}

theorem run_bind {σ : Type} (answer : σ → Call → Outcome × σ) (p : Exchange β)
    (f : β → Exchange γ) (s : σ) :
    run answer s (p.bind f) =
      let first := p.run answer s
      let rest := (f first.result).run answer first.peer
      ⟨rest.result, rest.peer, first.events ++ rest.events, first.asked ++ rest.asked⟩ :=
  Program.run_bind (hearing answer) p f s

theorem run_done {σ : Type} (answer : σ → Call → Outcome × σ) (b : β) (s : σ) :
    run answer s (.done b) = ⟨b, s, [], []⟩ := rfl

theorem trace_run {σ : Type} (answer : σ → Call → Outcome × σ) (p : Exchange β) (s : σ) :
    ∃ d, Trace p (p.run answer s).events (p.run answer s).asked d
      (some (p.run answer s).result) := Program.trace_run (hearing answer) p s

/-- What is heard of a call comes while it is waited for. -/
theorem wait_le_of_mem_asked {σ : Type} {answer : σ → Call → Outcome × σ} {p : Exchange β} {s : σ}
    {x : Call × Outcome} (hx : x ∈ (p.run answer s).asked) :
    x.2.wait x.1.patience ≤ x.1.patience := by
  obtain ⟨s', hheard⟩ := answer_of_mem_asked hx
  rw [← hheard]
  exact x.1.wait_hears_le _

/-- A pause under a deadline is over in time, or the program ends late. -/
theorem trace_within_pause_inv {ms n : Nat} {next : Exchange β} {late b : β} {es : List Event}
    {qs : List (Call × Outcome)} {d : Nat}
    (h : Trace (within n late (.pause ms next)) es qs d (some b)) :
    (ms ≤ n ∧ ∃ d', Trace (next.within (n - ms) late) es qs d' (some b)) ∨
      (n < ms ∧ b = late ∧ es = [] ∧ qs = []) := by
  unfold within at h
  split at h
  next hms =>
    cases h with
    | pause rest => exact Or.inl ⟨hms, _, rest⟩
  next hms =>
    obtain ⟨rfl, rfl, -, hb⟩ := h.done_inv
    exact Or.inr ⟨by omega, by simpa using hb, rfl, rfl⟩

/-- A call under a deadline is heard of in time, or the program ends late. -/
theorem trace_within_ask_inv {c : Call} {n : Nat} {next : Outcome → Exchange β} {late b : β}
    {es : List Event} {qs : List (Call × Outcome)} {d : Nat}
    (h : Trace (within n late (.ask c next)) es qs d (some b)) :
    ∃ o rest, qs = ({ c with patience := min c.patience n }, o) :: rest ∧
      ((o.wait c.patience ≤ n ∧
          Trace ((next o).within (n - o.wait c.patience) late) es rest d (some b)) ∨
        (n < o.wait c.patience ∧ b = late ∧ es = [] ∧ rest = [])) := by
  unfold within at h
  cases h with
  | @ask _ _ o _ rest _ _ h =>
    refine ⟨o, rest, rfl, ?_⟩
    dsimp only at h
    split at h
    next htime => exact Or.inl ⟨htime, h⟩
    next htime =>
      obtain ⟨rfl, rfl, -, hb⟩ := h.done_inv
      exact Or.inr ⟨by omega, by simpa using hb, rfl, rfl⟩

/-- A way under a deadline is a way without it that takes no longer, or one that was left late. -/
theorem trace_within {p : Exchange β} {n : Nat} {late b : β} {es : List Event}
    {qs : List (Call × Outcome)} {d : Nat} (h : Trace (p.within n late) es qs d (some b)) :
    ∃ qs' d', timeless qs = timeless qs' ∧
      ((Trace p es qs' d' (some b) ∧ waited qs' + d' ≤ n) ∨
        (b = late ∧ Trace p es qs' d' none ∧ n < waited qs' + d')) := by
  induction p generalizing n es qs d with
  | done c =>
    cases h with
    | done => exact ⟨[], 0, rfl, Or.inl ⟨.done b, Nat.zero_le n⟩⟩
  | note e next ih =>
    cases h with
    | note rest =>
      obtain ⟨qs', d', he, h | ⟨hb, h, hl⟩⟩ := ih rest
      · exact ⟨qs', d', he, Or.inl ⟨.note h.1, h.2⟩⟩
      · exact ⟨qs', d', he, Or.inr ⟨hb, .note h, hl⟩⟩
  | pause ms next ih =>
    rcases trace_within_pause_inv h with ⟨hms, _, rest⟩ | ⟨hms, hb, rfl, rfl⟩
    · obtain ⟨qs', d', he, h | ⟨hb, h, hl⟩⟩ := ih rest
      · exact ⟨qs', ms + d', he, Or.inl ⟨.pause h.1, by omega⟩⟩
      · exact ⟨qs', ms + d', he, Or.inr ⟨hb, .pause h, by omega⟩⟩
    · refine ⟨[], ms + 0, rfl, Or.inr ⟨hb, .pause (.left next), ?_⟩⟩
      rw [waited_nil]; omega
  | ask c next ih =>
    obtain ⟨o, rest, rfl, ⟨htime, hrest⟩ | ⟨htime, hb, rfl, rfl⟩⟩ := trace_within_ask_inv h
    · obtain ⟨qs', d', he, h | ⟨hb, h, hl⟩⟩ := ih o hrest
      · refine ⟨(c, o) :: qs', d', by simp [timeless_cons, Call.timeless, he],
          Or.inl ⟨.ask h.1, ?_⟩⟩
        rw [waited_cons]; omega
      · refine ⟨(c, o) :: qs', d', by simp [timeless_cons, Call.timeless, he],
          Or.inr ⟨hb, .ask h, ?_⟩⟩
        rw [waited_cons]; omega
    · refine ⟨[(c, o)], 0, by simp [timeless, Call.timeless], Or.inr ⟨hb, .ask (.left _), ?_⟩⟩
      rw [waited_cons, waited_nil]; omega

theorem within_of_rests {p : Exchange β} (hp : p.Rests) (n : Nat) (late : β) :
    p.within n late = p := by
  induction p with
  | done b => rfl
  | note e next ih => exact congrArg (Program.note e) (ih hp)
  | pause | ask => cases hp

/-- What is heard of a call in time, though the call outlasts the deadline, is silence. -/
theorem silent_of_lt_wait {c : Call} {n : Nat} {o : Outcome}
    (hheard : o.wait (min c.patience n) ≤ min c.patience n) (hlong : n < o.wait c.patience) :
    o = .silent := by
  refine Decidable.byContradiction fun hne => ?_
  have hwait : o.wait c.patience = o.wait (min c.patience n) := Outcome.wait_of_ne_silent hne _ _
  omega

/-- What rests after some calls is not left late once anything has been heard of one of them. -/
theorem trace_within_restsAfter {P : Call → Prop}
    (hP : ∀ (c : Call) (patience : Nat), P { c with patience } → P c) {p : Exchange β}
    (hp : p.RestsAfter P) {n : Nat} {late b : β} {es : List Event} {qs : List (Call × Outcome)}
    {d : Nat} (h : Trace (p.within n late) es qs d (some b))
    (hheard : ∀ x ∈ qs, x.2.wait x.1.patience ≤ x.1.patience) :
    (∃ qs' d', Trace p es qs' d' (some b)) ∨ ∀ x ∈ qs, P x.1 → x.2 = .silent := by
  induction p generalizing n es qs d with
  | done c => exact Or.inl ⟨qs, d, h⟩
  | note e next ih =>
    cases h with
    | note rest =>
      rcases ih hp rest hheard with ⟨qs', d', h⟩ | hsilent
      · exact Or.inl ⟨qs', d', .note h⟩
      · exact Or.inr hsilent
  | pause ms next ih =>
    rcases trace_within_pause_inv h with ⟨-, _, rest⟩ | ⟨-, -, -, rfl⟩
    · rcases ih hp rest hheard with ⟨qs', d', h⟩ | hsilent
      · exact Or.inl ⟨qs', ms + d', .pause h⟩
      · exact Or.inr hsilent
    · exact Or.inr (by simp)
  | ask c next ih =>
    obtain ⟨o, rest, rfl, hrest⟩ := trace_within_ask_inv h
    obtain ⟨hfirst, hheard⟩ := List.forall_mem_cons.mp hheard
    rcases hrest with ⟨-, hrest⟩ | ⟨hlong, -, -, rfl⟩
    · by_cases hc : P c
      · rw [within_of_rests (hp.1 hc o)] at hrest
        exact Or.inl ⟨_, _, .ask hrest⟩
      · rcases ih o (hp.2 o) hrest hheard with ⟨qs', d', h⟩ | hsilent
        · exact Or.inl ⟨(c, o) :: qs', d', .ask h⟩
        · exact Or.inr (List.forall_mem_cons.mpr ⟨fun hq => absurd (hP _ _ hq) hc, hsilent⟩)
    · exact Or.inr (List.forall_mem_singleton.mpr fun _ => silent_of_lt_wait hfirst hlong)

/-- No call is waited for beyond the deadline. -/
theorem patience_le_of_within {p : Exchange β} {n : Nat} {late b : β} {es : List Event}
    {qs : List (Call × Outcome)} {d : Nat} (h : Trace (p.within n late) es qs d (some b)) :
    ∀ x ∈ qs, x.1.patience ≤ n := by
  induction p generalizing n es qs d with
  | done c =>
    obtain ⟨-, rfl, -⟩ := h.done_inv
    simp
  | note e next ih =>
    cases h with
    | note rest => exact ih rest
  | pause ms next ih =>
    rcases trace_within_pause_inv h with ⟨-, _, rest⟩ | ⟨-, -, -, rfl⟩
    · exact fun x hx => Nat.le_trans (ih rest x hx) (Nat.sub_le ..)
    · simp
  | ask c next ih =>
    obtain ⟨o, rest, rfl, hrest⟩ := trace_within_ask_inv h
    refine List.forall_mem_cons.mpr ⟨Nat.min_le_right .., ?_⟩
    rcases hrest with ⟨-, hrest⟩ | ⟨-, -, -, rfl⟩
    · exact fun x hx => Nat.le_trans (ih o hrest x hx) (Nat.sub_le ..)
    · simp

/-- A deadline goes by what is done, not by what is made of the result. -/
theorem within_bind_done (p : Exchange β) (f : β → γ) (budget : Nat) (late : β) :
    within budget (f late) (p.bind fun b => .done (f b)) =
      (p.within budget late).bind fun b => .done (f b) := by
  induction p generalizing budget with
  | done b => rfl
  | note e next ih => exact congrArg (Program.note e) (ih budget)
  | pause ms next ih =>
    simp only [Program.bind, within]
    split
    next => exact congrArg (Program.pause ms) (ih _)
    next => rfl
  | ask c next ih =>
    simp only [Program.bind, within]
    refine congrArg (Program.ask _) (funext fun o => ?_)
    split
    next => exact ih o _
    next => rfl

/-- An exchange under a deadline whose end is told apart from the exchange's own. -/
def tagged (p : Exchange β) (budget : Nat) : Exchange (Option β) :=
  within budget none (p.bind fun b => .done (some b))

/-- Whether an exchange is cut off by a deadline. -/
def isCutOff {σ : Type} (p : Exchange β) (budget : Nat) (answer : σ → Call → Outcome × σ) (s : σ) :
    Bool := ((p.tagged budget).run answer s).result.isNone

theorem run_within {σ : Type} (p : Exchange β) (budget : Nat) (late : β)
    (answer : σ → Call → Outcome × σ) (s : σ) :
    (p.within budget late).run answer s =
      let tagged := (p.tagged budget).run answer s
      ⟨tagged.result.getD late, tagged.peer, tagged.events, tagged.asked⟩ := by
  have h : p.within budget late = (p.tagged budget).bind fun b => .done (b.getD late) := by
    rw [tagged, ← within_bind_done, bind_assoc]
    exact congrArg (within budget late) (bind_done p).symm
  rw [h, run_bind]
  simp [run_done]

/-- What is not cut off goes a way of its own to the end, and takes no longer than it may. -/
theorem trace_of_isCutOff {σ : Type} {p : Exchange β} {budget : Nat}
    {answer : σ → Call → Outcome × σ} {s : σ} (h : p.isCutOff budget answer s = false)
    (late : β) :
    let run := (p.within budget late).run answer s
    ∃ qs d, timeless run.asked = timeless qs ∧ Trace p run.events qs d (some run.result) ∧
      waited qs + d ≤ budget := by
  intro run
  have hrun : run = _ := run_within p budget late answer s
  obtain ⟨b, hb⟩ := Option.isSome_iff_exists.mp (Option.isNone_eq_false_iff.mp h)
  obtain ⟨_, htrace⟩ := trace_run answer (p.tagged budget) s
  rw [hb] at htrace
  obtain ⟨qs, d, heq, ⟨hend, htime⟩ | ⟨hlate, -⟩⟩ := trace_within htrace
  · obtain ⟨c, es₁, es₂, qs₁, qs₂, d₁, d₂, hp, hdone, hes, rfl, rfl⟩ := hend.bind_some_inv
    obtain ⟨rfl, rfl, rfl, hc⟩ := hdone.done_inv
    obtain rfl : b = c := by simpa using hc
    rw [List.append_nil] at hes heq htime
    rw [hrun]
    dsimp only
    rw [hes, hb]
    exact ⟨qs₁, d₁, heq, hp, htime⟩
  · cases hlate

theorem result_of_isCutOff {σ : Type} {p : Exchange β} {budget : Nat}
    {answer : σ → Call → Outcome × σ} {s : σ} (h : p.isCutOff budget answer s = true) (late : β) :
    ((p.within budget late).run answer s).result = late := by
  rw [run_within]
  dsimp only
  rw [Option.isNone_iff_eq_none.mp h, Option.getD_none]

/-- What is cut off has had no answer to a call that it rests after. -/
theorem silent_of_isCutOff {σ : Type} {P : Call → Prop}
    (hP : ∀ (c : Call) (patience : Nat), P { c with patience } → P c) {p : Exchange β}
    (hp : p.RestsAfter P) {budget : Nat} {answer : σ → Call → Outcome × σ} {s : σ}
    (h : p.isCutOff budget answer s = true) (late : β) :
    ∀ x ∈ ((p.within budget late).run answer s).asked, P x.1 → x.2 = .silent := by
  rw [run_within]
  obtain ⟨d, htrace⟩ := trace_run answer (p.tagged budget) s
  have hnone : ((p.tagged budget).run answer s).result = none := Option.isNone_iff_eq_none.mp h
  rw [hnone] at htrace
  have hrests : (p.bind fun b => .done (some b)).RestsAfter P := hp.bind fun _ => trivial
  rcases trace_within_restsAfter hP hrests htrace
    fun _ hx => wait_le_of_mem_asked hx with ⟨qs, d', hend⟩ | hsilent
  · obtain ⟨b, _, _, _, _, _, _, _, hdone, _⟩ := hend.bind_some_inv
    obtain ⟨-, -, -, hc⟩ := hdone.done_inv
    simp at hc
  · exact hsilent

end Exchange

end Gatehouse
