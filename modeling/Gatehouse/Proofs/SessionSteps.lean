import Gatehouse.Proofs.Session

namespace Gatehouse

open Program

inductive SessionStep where
  | validate (h : Headers) (id : Option HeaderValue)
  | resolve (token : String) (id : Option HeaderValue)

inductive SessionStep.Result where
  | validated (result : Except SessionFailure ValidSession)
  | resolved (result : Except IdentityFailure Identity)

namespace SessionStep

def program : SessionStep → SessionProgram Result
  | validate h id => (validateSession h id).bind fun r => .done (.validated r)
  | resolve token id => (resolveIdentity token id).bind fun r => .done (.resolved r)

def inOrder : List SessionStep → SessionProgram (List Result)
  | [] => .done []
  | step :: more => step.program.bind fun r => (inOrder more).bind fun rs => .done (r :: rs)

/-- The conversations of a step, each with its end. -/
inductive Holds : SessionStep → Conversation → Result → Prop where
  | validate {h : Headers} {id : Option HeaderValue} {qs : Conversation}
      {r : Except SessionFailure ValidSession} (hc : Checked h id qs r) :
      Holds (.validate h id) qs (.validated r)
  | resolve {token : String} {id : Option HeaderValue} {qs : Conversation}
      {r : Except IdentityFailure Identity} (hr : Resolved token id qs r) :
      Holds (.resolve token id) qs (.resolved r)

/-- The conversations of steps that are done one after the other. -/
inductive HoldInOrder : List SessionStep → Conversation → List Result → Prop where
  | nil : HoldInOrder [] [] []
  | cons {step : SessionStep} {qs qs' : Conversation} {r : Result} {more : List SessionStep}
      {rs : List Result} (first : Holds step qs r) (rest : HoldInOrder more qs' rs) :
      HoldInOrder (step :: more) (qs ++ qs') (r :: rs)

theorem holds_of_trace {step : SessionStep} {es : List Event} {qs : Conversation} {d : Nat}
    {r : Result} (htrace : Trace step.program es qs d (some r)) : Holds step qs r := by
  cases step with
  | validate h id =>
    obtain ⟨r', _, _, _, _, _, _, hv, hd, rfl, rfl, rfl⟩ := htrace.bind_some_inv
    cases hd
    simpa using Holds.validate (trace_validateSession hv).2.2
  | resolve token id =>
    obtain ⟨r', _, _, _, _, _, _, hv, hd, rfl, rfl, rfl⟩ := htrace.bind_some_inv
    cases hd
    simpa using Holds.resolve (trace_resolveIdentity hv).2.2

theorem holdInOrder_of_trace {steps : List SessionStep} {es : List Event} {qs : Conversation}
    {d : Nat} {rs : List Result} (htrace : Trace (inOrder steps) es qs d (some rs)) :
    HoldInOrder steps qs rs := by
  induction steps generalizing es qs d rs with
  | nil =>
    cases htrace
    exact .nil
  | cons step more ih =>
    obtain ⟨r, _, _, _, _, _, _, hs, hrest, rfl, rfl, rfl⟩ := htrace.bind_some_inv
    obtain ⟨rs', _, _, _, _, _, _, hm, hd, rfl, rfl, rfl⟩ := hrest.bind_some_inv
    cases hd
    simpa using HoldInOrder.cons (holds_of_trace hs) (ih hm)

theorem trace_of_checked {h : Headers} {id : Option HeaderValue} {qs : Conversation}
    {r : Except SessionFailure ValidSession} (hc : Checked h id qs r) :
    ∃ es d, Trace (validateSession h id) es qs d (some r) := by
  have hcheck : Trace (checkSession h id) [] qs 0 (some r) := by
    unfold checkSession
    cases hc with
    | noSession ht =>
      rw [ht]
      exact .done _
    | serviceDown ht fault =>
      rw [ht]
      exact .ask (.done _)
    | valid ht hs =>
      rw [ht]
      refine .ask ?_
      simp only [hs, ↓reduceIte]
      exact .done _
    | rejected ht hs hu =>
      rw [ht]
      refine .ask ?_
      simp only [hs, hu, ↓reduceIte]
      exact .done _
    | refreshed ht hu hs =>
      rw [ht]
      refine .ask ?_
      simp only [hu, Status.unauthorized_ne_ok, ↓reduceIte]
      refine .ask ?_
      simp only [Program.bind, hs, ↓reduceIte]
      exact .done _
    | @expired t ht reply answer hu hs =>
      rw [ht]
      refine .ask ?_
      simp only [hu, Status.unauthorized_ne_ok, ↓reduceIte]
      refine .ask ?_
      cases answer with
      | error fault => exact .done _
      | ok new =>
        simp only [Program.bind, hs new rfl, ↓reduceIte]
        exact .done _
  have hnote := hcheck.bind (f := fun result =>
    .note (.sessionCheck (checkOutcome result)) (.done result)) (.note (.done r))
  rw [List.append_nil] at hnote
  exact ⟨_, _, hnote⟩

theorem trace_of_resolved {token : String} {id : Option HeaderValue} {qs : Conversation}
    {r : Except IdentityFailure Identity} (hr : Resolved token id qs r) :
    ∃ es d, Trace (resolveIdentity token id) es qs d (some r) := by
  refine ⟨[], 0, ?_⟩
  cases hr with
  | serviceDown fault => exact .ask (.done _)
  | @rejected reply hs =>
    have hi : reply.identity = .error (.rejected reply.status) := by simp [AuthReply.identity, hs]
    rw [← hi]
    exact .ask (.done _)
  | found hs hn =>
    rw [← AuthReply.identity_eq_ok_iff.mpr ⟨hs, hn⟩]
    exact .ask (.done _)
  | malformed hs hn =>
    rw [← AuthReply.identity_eq_malformed hs hn]
    exact .ask (.done _)

theorem trace_of_holds {step : SessionStep} {qs : Conversation} {r : Result}
    (h : Holds step qs r) : ∃ es d, Trace step.program es qs d (some r) := by
  cases h with
  | validate hc =>
    obtain ⟨es, d, htrace⟩ := trace_of_checked hc
    have hdone := htrace.bind (f := fun r => .done (Result.validated r)) (.done _)
    simp only [List.append_nil] at hdone
    exact ⟨_, _, hdone⟩
  | resolve hr =>
    obtain ⟨es, d, htrace⟩ := trace_of_resolved hr
    have hdone := htrace.bind (f := fun r => .done (Result.resolved r)) (.done _)
    simp only [List.append_nil] at hdone
    exact ⟨_, _, hdone⟩

theorem Holds.unique {step : SessionStep} {qs qs' : Conversation} {r r' : Result}
    (h : Holds step qs r) (h' : Holds step qs' r') (hq : qs.map Prod.snd = qs'.map Prod.snd) :
    qs = qs' ∧ r = r' := by
  obtain ⟨_, _, htrace⟩ := trace_of_holds h
  obtain ⟨_, _, htrace'⟩ := trace_of_holds h'
  obtain ⟨_, he, _, hr⟩ := htrace.unique htrace' hq
  exact ⟨he, hr⟩

/--
Whoever answers, steps that are done one after the other hold the conversations of the protocol, one
for each step. Every such conversation can take place, and what a step asks and how it ends is
settled by the step and the answers that it got itself.
-/
theorem run_inOrder_holds {σ : Type} (answer : σ → AuthQuestion → AuthAnswer × σ) (s : σ)
    (steps : List SessionStep) :
    HoldInOrder steps ((inOrder steps).run answer s).asked ((inOrder steps).run answer s).result ∧
      (∀ step qs r, Holds step qs r ↔ ∃ es d, Trace step.program es qs d (some r)) ∧
      ∀ step qs qs' r r', Holds step qs r → Holds step qs' r' →
        qs.map Prod.snd = qs'.map Prod.snd → qs = qs' ∧ r = r' := by
  obtain ⟨d, htrace⟩ := trace_run answer (inOrder steps) s
  refine ⟨holdInOrder_of_trace htrace, fun step qs r => ⟨trace_of_holds, ?_⟩,
    fun _ _ _ _ _ h h' hq => h.unique h' hq⟩
  rintro ⟨es, d, htrace⟩
  exact holds_of_trace htrace

end SessionStep

end Gatehouse
