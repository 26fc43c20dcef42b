import Gatehouse.Proofs.Members
import Gatehouse.Proofs.Trace
import Gatehouse.Session.Protocol

namespace Gatehouse

open Program

abbrev Conversation := List (AuthQuestion × AuthAnswer)

/-- The cookies that a new session is asked for with. -/
def Headers.refreshCookies (h : Headers) (token : String) : String :=
  h.fullCookie?.getD (sessionCookie ++ "=" ++ token)

/-- The conversations that check a session, each with its end. -/
inductive Checked (h : Headers) (id : Option HeaderValue) :
    Conversation → Except SessionFailure ValidSession → Prop where
  | noSession (ht : h.sessionToken? = none) : Checked h id [] (.error .noSession)
  | serviceDown {t : String} (ht : h.sessionToken? = some t) (fault : AuthFault) :
      Checked h id [(.me t id, .error fault)] (.error .serviceDown)
  | valid {t : String} (ht : h.sessionToken? = some t) {reply : AuthReply}
      (hs : reply.status = .ok) : Checked h id [(.me t id, .ok reply)] (.ok ⟨t, false, []⟩)
  | rejected {t : String} (ht : h.sessionToken? = some t) {reply : AuthReply}
      (hs : reply.status ≠ .ok) (hu : reply.status ≠ .unauthorized) :
      Checked h id [(.me t id, .ok reply)] (.error (.rejected reply.status))
  | refreshed {t : String} (ht : h.sessionToken? = some t) {reply new : AuthReply}
      (hu : reply.status = .unauthorized) (hs : new.status = .ok) :
      Checked h id [(.me t id, .ok reply), (.refresh (h.refreshCookies t) id, .ok new)]
        (.ok ⟨t, true, new.setCookies⟩)
  | expired {t : String} (ht : h.sessionToken? = some t) {reply : AuthReply} {answer : AuthAnswer}
      (hu : reply.status = .unauthorized) (hs : ∀ new, answer = .ok new → new.status ≠ .ok) :
      Checked h id [(.me t id, .ok reply), (.refresh (h.refreshCookies t) id, answer)]
        (.error .stillUnauthorized)

/-- Whether a body is a JSON object whose last binding of the owner's name is this text. -/
def NamesOwner (body : ByteArray) (uid : String) : Prop :=
  ∃ bindings, Json.bindingsOfBytes? body = some bindings ∧
    lastBound identityField bindings = some (.string uid) ∧ uid ≠ ""

/-- The conversations that find the owner of a session, each with its end. -/
inductive Resolved (token : String) (id : Option HeaderValue) :
    Conversation → Except IdentityFailure Identity → Prop where
  | serviceDown (fault : AuthFault) :
      Resolved token id [(.me token id, .error fault)] (.error .serviceDown)
  | rejected {reply : AuthReply} (hs : reply.status ≠ .ok) :
      Resolved token id [(.me token id, .ok reply)] (.error (.rejected reply.status))
  | found {reply : AuthReply} {uid : String} (hs : reply.status = .ok)
      (hn : NamesOwner reply.body uid) :
      Resolved token id [(.me token id, .ok reply)] (.ok ⟨uid⟩)
  | malformed {reply : AuthReply} (hs : reply.status = .ok)
      (hn : ∀ uid, ¬NamesOwner reply.body uid) :
      Resolved token id [(.me token id, .ok reply)] (.error .malformed)

theorem Status.unauthorized_ne_ok : Status.unauthorized ≠ .ok := by decide

theorem trace_refreshSession {h : Headers} {t : String} {id : Option HeaderValue}
    {es : List Event} {qs : Conversation} {d : Nat}
    {r : Except SessionFailure (List HeaderValue)}
    (htrace : Trace (refreshSession h t id) es qs d (some r)) :
    es = [] ∧ d = 0 ∧ ∃ answer, qs = [(.refresh (h.refreshCookies t) id, answer)] ∧
      ((∃ new, answer = .ok new ∧ new.status = .ok ∧ r = .ok new.setCookies) ∨
        ((∀ new, answer = .ok new → new.status ≠ .ok) ∧ r = .error .stillUnauthorized)) := by
  unfold refreshSession at htrace
  cases htrace with
  | @ask _ _ answer _ _ _ _ rest =>
    cases answer with
    | error fault =>
      cases rest
      exact ⟨rfl, rfl, _, rfl, Or.inr ⟨by simp, rfl⟩⟩
    | ok new =>
      cases rest
      by_cases hs : new.status = .ok
      · exact ⟨rfl, rfl, _, rfl, Or.inl ⟨new, rfl, hs, by rw [if_pos hs]⟩⟩
      · refine ⟨rfl, rfl, _, rfl, Or.inr ⟨?_, by rw [if_neg hs]⟩⟩
        intro other he
        cases he
        exact hs

theorem trace_checkSession {h : Headers} {id : Option HeaderValue} {es : List Event}
    {qs : Conversation} {d : Nat} {r : Except SessionFailure ValidSession}
    (htrace : Trace (checkSession h id) es qs d (some r)) :
    es = [] ∧ d = 0 ∧ Checked h id qs r := by
  unfold checkSession at htrace
  split at htrace
  next ht =>
    cases htrace
    exact ⟨rfl, rfl, .noSession ht⟩
  next t ht =>
    cases htrace with
    | @ask _ _ answer _ _ _ _ rest =>
      cases answer with
      | error fault =>
        cases rest
        exact ⟨rfl, rfl, .serviceDown ht fault⟩
      | ok reply =>
        dsimp only at rest
        split at rest
        next hs =>
          cases rest
          exact ⟨rfl, rfl, .valid ht hs⟩
        next hs =>
          split at rest
          next hu =>
            obtain ⟨cookies, _, _, _, _, _, _, hr, hd, rfl, rfl, rfl⟩ := rest.bind_some_inv
            obtain ⟨rfl, rfl, answer, rfl, h⟩ := trace_refreshSession hr
            cases hd
            rcases h with ⟨new, rfl, hn, rfl⟩ | ⟨hn, rfl⟩
            · exact ⟨rfl, rfl, .refreshed ht hu hn⟩
            · exact ⟨rfl, rfl, .expired ht hu hn⟩
          next hu =>
            cases rest
            exact ⟨rfl, rfl, .rejected ht hs hu⟩

theorem trace_validateSession {h : Headers} {id : Option HeaderValue} {es : List Event}
    {qs : Conversation} {d : Nat} {r : Except SessionFailure ValidSession}
    (htrace : Trace (validateSession h id) es qs d (some r)) :
    es = [.sessionCheck (checkOutcome r)] ∧ d = 0 ∧ Checked h id qs r := by
  obtain ⟨r', _, _, _, _, _, _, hc, hn, rfl, rfl, rfl⟩ := htrace.bind_some_inv
  obtain ⟨rfl, rfl, h⟩ := trace_checkSession hc
  cases hn with
  | note rest =>
    cases rest
    exact ⟨rfl, rfl, by simpa using h⟩

/-- An answer names an owner exactly when it is in order and its body does. -/
theorem AuthReply.identity_eq_ok_iff {reply : AuthReply} {uid : String} :
    reply.identity = .ok ⟨uid⟩ ↔ reply.status = .ok ∧ NamesOwner reply.body uid := by
  unfold AuthReply.identity NamesOwner
  rw [Json.objectOfBytes?_eq]
  cases Json.bindingsOfBytes? reply.body with
  | none => by_cases hs : reply.status = .ok <;> simp [hs]
  | some bindings =>
    simp only [Option.map_some, Option.bind_some, Members.get?_ofList]
    by_cases hs : reply.status = .ok
    · simp only [hs, ne_eq, not_true_eq_false, ↓reduceIte, true_and, Option.some.injEq,
        exists_eq_left']
      split
      next v hv =>
        by_cases hu : v = ""
        · simp [hv, hu]
        · simp [hv, hu]; intro h; rwa [← h]
      next hv =>
        constructor
        · intro h; cases h
        · intro h; exact absurd h.1 (hv uid)
    · simp [hs]

theorem AuthReply.identity_eq_malformed {reply : AuthReply} (hs : reply.status = .ok)
    (hn : ∀ uid, ¬NamesOwner reply.body uid) : reply.identity = .error .malformed := by
  cases hr : reply.identity with
  | ok owner => exact absurd (AuthReply.identity_eq_ok_iff.mp hr).2 (hn owner.text)
  | error f =>
    unfold AuthReply.identity at hr
    rw [if_neg (by simpa using hs)] at hr
    split at hr
    · split at hr
      · cases hr; rfl
      · cases hr
    · cases hr; rfl

theorem trace_resolveIdentity {token : String} {id : Option HeaderValue} {es : List Event}
    {qs : Conversation} {d : Nat} {r : Except IdentityFailure Identity}
    (htrace : Trace (resolveIdentity token id) es qs d (some r)) :
    es = [] ∧ d = 0 ∧ Resolved token id qs r := by
  unfold resolveIdentity at htrace
  cases htrace with
  | @ask _ _ answer _ _ _ _ rest =>
    cases answer with
    | error fault =>
      cases rest
      exact ⟨rfl, rfl, .serviceDown fault⟩
    | ok reply =>
      cases rest
      refine ⟨rfl, rfl, ?_⟩
      by_cases hs : reply.status = .ok
      · by_cases hn : ∃ uid, NamesOwner reply.body uid
        · obtain ⟨uid, hn⟩ := hn
          rw [AuthReply.identity_eq_ok_iff.mpr ⟨hs, hn⟩]
          exact .found hs hn
        · have hn : ∀ uid, ¬NamesOwner reply.body uid := fun uid h => hn ⟨uid, h⟩
          rw [AuthReply.identity_eq_malformed hs hn]
          exact .malformed hs hn
      · have hr : reply.identity = .error (.rejected reply.status) := by
          simp [AuthReply.identity, hs]
        rw [hr]
        exact .rejected hs

end Gatehouse
