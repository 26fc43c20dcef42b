import Gatehouse.Proofs.CookieText
import Gatehouse.Session.Client

namespace Gatehouse

open Program

namespace Outcome

/-- What the auth service answered, where that can be read. -/
def authReply? (o : Outcome) : Option AuthReply := (o.authAnswer 0).toOption

/-- The status that the auth service answered with, where the answer can be read. -/
def authStatus? (o : Outcome) : Option Status := o.authReply?.map AuthReply.status

/-- The owner of a session that the auth service named. -/
def owner? (o : Outcome) : Option Identity := o.authReply?.bind fun reply => reply.identity.toOption

/-- Whether an answer has come, whatever it says. -/
def IsReply : Outcome → Prop
  | reply _ _ => True
  | _ => False

instance decidableIsReply : (o : Outcome) → Decidable o.IsReply
  | reply _ _ => isTrue trivial
  | refused _ | broken _ | silent => isFalse id

def setCookies : Outcome → List HeaderValue
  | reply r _ => r.headers.all .setCookie
  | _ => []

theorem authAnswer_eq_ok_iff {o : Outcome} {patience : Nat} {reply : AuthReply} :
    o.authAnswer patience = .ok reply ↔ o.authReply? = some reply := by
  unfold authReply?
  cases o with
  | reply r =>
    unfold authAnswer
    cases hb : r.body.collect maxAuthReply <;> simp [hb, Except.toOption]
  | _ => simp [authAnswer, Except.toOption]

theorem authStatus?_of_ok {o : Outcome} {patience : Nat} {reply : AuthReply}
    (h : o.authAnswer patience = .ok reply) : o.authStatus? = some reply.status := by
  rw [authStatus?, authAnswer_eq_ok_iff.mp h, Option.map_some]

theorem authStatus?_of_error {o : Outcome} {patience : Nat} {fault : AuthFault}
    (h : o.authAnswer patience = .error fault) : o.authStatus? = none := by
  unfold authStatus?
  cases hr : o.authReply? with
  | none => rfl
  | some reply =>
    rw [authAnswer_eq_ok_iff.mpr hr] at h
    cases h

theorem isReply_of_authReply? {o : Outcome} {reply : AuthReply} (h : o.authReply? = some reply) :
    o.IsReply := by
  cases o with
  | reply => trivial
  | _ => cases h

theorem isReply_of_authStatus? {o : Outcome} {s : Status} (h : o.authStatus? = some s) :
    o.IsReply := by
  obtain ⟨reply, hreply, -⟩ := Option.map_eq_some_iff.mp h
  exact isReply_of_authReply? hreply

theorem isReply_of_owner? {o : Outcome} {owner : Identity} (h : o.owner? = some owner) :
    o.IsReply := by
  obtain ⟨reply, hreply, -⟩ := Option.bind_eq_some_iff.mp h
  exact isReply_of_authReply? hreply

theorem IsReply.ne_silent {o : Outcome} (h : o.IsReply) : o ≠ .silent := by
  rintro rfl
  exact h

theorem setCookies_of_ok {o : Outcome} {patience : Nat} {reply : AuthReply}
    (h : o.authAnswer patience = .ok reply) : reply.setCookies = o.setCookies := by
  cases o with
  | reply r =>
    simp only [authAnswer] at h
    split at h <;> cases h
    rfl
  | _ => simp [authAnswer] at h

end Outcome

namespace AuthClient

variable {client : AuthClient} {h : Headers} {id : Option HeaderValue} {t : String}

/-- Whether a call is the one that asks a question. -/
def Asks (client : AuthClient) (q : AuthQuestion) (c : Call) : Prop :=
  ∃ cookie, HeaderValue.ofText? q.cookie = some cookie ∧ c = client.call q cookie

/-- Whether a call asks a question that goes with this id. -/
def AsksWith (client : AuthClient) (id : Option HeaderValue) (c : Call) : Prop :=
  ∃ q, client.Asks q c ∧ q.requestId = id

theorem AsksWith.asks {c : Call} (hc : client.AsksWith id c) : ∃ q, client.Asks q c := by
  obtain ⟨q, hq, -⟩ := hc
  exact ⟨q, hq⟩

/-- The calls that a conversation is held by. What cannot be sent is not heard of again. -/
inductive Carries (client : AuthClient) : Conversation → List (Call × Outcome) → Prop where
  | nil : Carries client [] []
  | sent {q : AuthQuestion} {c : Call} (o : Outcome) {conv : Conversation}
      {qs : List (Call × Outcome)} (hc : client.Asks q c) (rest : Carries client conv qs) :
      Carries client ((q, o.authAnswer client.patience) :: conv) ((c, o) :: qs)
  | unsent {q : AuthQuestion} {conv : Conversation} {qs : List (Call × Outcome)}
      (hq : HeaderValue.ofText? q.cookie = none) (rest : Carries client conv qs) :
      Carries client ((q, .error .transport) :: conv) qs

/-- The calls that end with an accepted session, and the cookies that came with a new one. -/
inductive Admits (client : AuthClient) (h : Headers) (id : Option HeaderValue) (t : String) :
    List (Call × Outcome) → List HeaderValue → Prop where
  | valid {c : Call} {o : Outcome} (hc : client.Asks (.me t id) c)
      (ho : o.authStatus? = some .ok) : Admits client h id t [(c, o)] []
  | refreshed {c c' : Call} {o o' : Outcome} (hc : client.Asks (.me t id) c)
      (ho : o.authStatus? = some .unauthorized)
      (hc' : client.Asks (.refresh (h.refreshCookies t) id) c')
      (ho' : o'.authStatus? = some .ok) :
      Admits client h id t [(c, o), (c', o')] o'.setCookies

/-- The calls that end without one, and what the client is told. -/
inductive Denies (client : AuthClient) (h : Headers) (id : Option HeaderValue) (t : String) :
    List (Call × Outcome) → Failure → Prop where
  | serviceDown {c : Call} {o : Outcome} (hc : client.Asks (.me t id) c)
      (ho : o.authStatus? = none) : Denies client h id t [(c, o)] .authServiceUnavailable
  | rejected {c : Call} {o : Outcome} {s : Status} (hc : client.Asks (.me t id) c)
      (ho : o.authStatus? = some s) (hs : s ≠ .ok) (hu : s ≠ .unauthorized) :
      Denies client h id t [(c, o)] .unauthorized
  | expired {c c' : Call} {o o' : Outcome} (hc : client.Asks (.me t id) c)
      (ho : o.authStatus? = some .unauthorized)
      (hc' : client.Asks (.refresh (h.refreshCookies t) id) c')
      (ho' : o'.authStatus? ≠ some .ok) : Denies client h id t [(c, o), (c', o')] .sessionExpired

theorem Asks.collaborator {q : AuthQuestion} {c : Call} (hc : client.Asks q c) :
    c.collaborator = .auth := by
  obtain ⟨_, _, rfl⟩ := hc
  rfl

theorem Asks.patience {q : AuthQuestion} {c : Call} (hc : client.Asks q c) :
    c.patience = client.patience := by
  obtain ⟨_, _, rfl⟩ := hc
  rfl

theorem Admits.asksWith {qs : List (Call × Outcome)} {cookies : List HeaderValue}
    (ha : client.Admits h id t qs cookies) : ∀ x ∈ qs, client.AsksWith id x.1 := by
  cases ha with
  | valid hc _ => simpa using ⟨_, hc, rfl⟩
  | refreshed hc _ hc' _ => simpa using ⟨⟨_, hc, rfl⟩, ⟨_, hc', rfl⟩⟩

theorem Admits.asks {qs : List (Call × Outcome)} {cookies : List HeaderValue}
    (ha : client.Admits h id t qs cookies) : ∀ x ∈ qs, ∃ q, client.Asks q x.1 :=
  fun x hx => (ha.asksWith x hx).asks

theorem Admits.answered {qs : List (Call × Outcome)} {cookies : List HeaderValue}
    (ha : client.Admits h id t qs cookies) : ∀ x ∈ qs, x.2.IsReply := by
  cases ha with
  | valid _ ho => simpa using Outcome.isReply_of_authStatus? ho
  | refreshed _ ho _ ho' =>
    simpa using ⟨Outcome.isReply_of_authStatus? ho, Outcome.isReply_of_authStatus? ho'⟩

theorem Denies.asksWith {qs : List (Call × Outcome)} {f : Failure}
    (hd : client.Denies h id t qs f) : ∀ x ∈ qs, client.AsksWith id x.1 := by
  cases hd with
  | serviceDown hc _ => simpa using ⟨_, hc, rfl⟩
  | rejected hc _ _ _ => simpa using ⟨_, hc, rfl⟩
  | expired hc _ hc' _ => simpa using ⟨⟨_, hc, rfl⟩, ⟨_, hc', rfl⟩⟩

theorem Denies.asks {qs : List (Call × Outcome)} {f : Failure}
    (hd : client.Denies h id t qs f) : ∀ x ∈ qs, ∃ q, client.Asks q x.1 :=
  fun x hx => (hd.asksWith x hx).asks

theorem asks_me_isSome (ht : h.sessionToken? = some t) :
    HeaderValue.ofText? (AuthQuestion.me t id).cookie ≠ none := by
  obtain ⟨v, hv⟩ := HeaderValue.ofText?_of_isVisible
    (sessionCookie_isVisible (Headers.cookieValue?_isVisible ht))
  simp [AuthQuestion.cookie, hv]

theorem asks_refresh_isSome (ht : h.sessionToken? = some t) :
    HeaderValue.ofText? (AuthQuestion.refresh (h.refreshCookies t) id).cookie ≠ none := by
  obtain ⟨v, hv⟩ := HeaderValue.ofText?_of_isVisible
    (refreshCookies_isVisible h (Headers.cookieValue?_isVisible ht))
  simp [AuthQuestion.cookie, hv]

theorem Carries.nil_inv {qs : List (Call × Outcome)} (hq : client.Carries [] qs) : qs = [] := by
  cases hq
  rfl

theorem Carries.cons_inv {q : AuthQuestion} {answer : AuthAnswer} {conv : Conversation}
    {qs : List (Call × Outcome)} (hq : client.Carries ((q, answer) :: conv) qs)
    (hsent : HeaderValue.ofText? q.cookie ≠ none) :
    ∃ c o qs', client.Asks q c ∧ answer = o.authAnswer client.patience ∧
      client.Carries conv qs' ∧ qs = (c, o) :: qs' := by
  cases hq with
  | sent o hc rest => exact ⟨_, o, _, hc, rfl, rest, rfl⟩
  | unsent hn _ => exact absurd hn hsent

/-- What is done over calls is done by a conversation that the calls carry. -/
theorem trace_via {β : Type} {p : SessionProgram β} {es : List Event}
    {qs : List (Call × Outcome)} {d : Nat} {b : β}
    (htrace : Trace (p.via client.ask) es qs d (some b)) :
    ∃ conv, Trace p es conv d (some b) ∧ client.Carries conv qs := by
  induction p generalizing es qs d with
  | done =>
    cases htrace
    exact ⟨[], .done b, .nil⟩
  | note e next ih =>
    cases htrace with
    | note rest =>
      obtain ⟨conv, hp, hc⟩ := ih rest
      exact ⟨conv, .note hp, hc⟩
  | pause ms next ih =>
    cases htrace with
    | pause rest =>
      obtain ⟨conv, hp, hc⟩ := ih rest
      exact ⟨conv, .pause hp, hc⟩
  | ask q next ih =>
    simp only [Program.via] at htrace
    unfold AuthClient.ask at htrace
    split at htrace
    next hq =>
      obtain ⟨conv, hp, hc⟩ := ih _ htrace
      exact ⟨_, .ask hp, .unsent hq hc⟩
    next cookie hq =>
      cases htrace with
      | @ask _ _ o _ _ _ _ rest =>
        obtain ⟨conv, hp, hc⟩ := ih _ rest
        exact ⟨_, .ask hp, .sent o ⟨cookie, hq, rfl⟩ hc⟩

theorem trace_validate {es : List Event} {qs : List (Call × Outcome)} {d : Nat}
    {result : Except SessionFailure ValidSession}
    (htrace : Trace ((validateSession h id).via client.ask) es qs d (some result)) :
    es = [.sessionCheck (checkOutcome result)] ∧ d = 0 ∧
      ((h.sessionToken? = none ∧ qs = [] ∧ result = .error .noSession) ∨
        ∃ t, h.sessionToken? = some t ∧
          ((∃ f, result = .error f ∧ client.Denies h id t qs f.failure) ∨
            ∃ session, result = .ok session ∧ session.token = t ∧
              client.Admits h id t qs session.cookies)) := by
  obtain ⟨conv, hp, hc⟩ := trace_via htrace
  obtain ⟨hes, hd, hchecked⟩ := trace_validateSession hp
  refine ⟨hes, hd, ?_⟩
  cases hchecked with
  | noSession ht => exact Or.inl ⟨ht, hc.nil_inv, rfl⟩
  | @serviceDown t ht fault =>
    obtain ⟨c, o, _, ha, ho, hrest, rfl⟩ := hc.cons_inv (asks_me_isSome ht)
    obtain rfl := hrest.nil_inv
    exact Or.inr ⟨t, ht, Or.inl ⟨_, rfl, .serviceDown ha (Outcome.authStatus?_of_error ho.symm)⟩⟩
  | @valid t ht reply hs =>
    obtain ⟨c, o, _, ha, ho, hrest, rfl⟩ := hc.cons_inv (asks_me_isSome ht)
    obtain rfl := hrest.nil_inv
    have hok := Outcome.authStatus?_of_ok ho.symm
    exact Or.inr ⟨t, ht, Or.inr ⟨_, rfl, rfl, .valid ha (hs ▸ hok)⟩⟩
  | @rejected t ht reply hs hu =>
    obtain ⟨c, o, _, ha, ho, hrest, rfl⟩ := hc.cons_inv (asks_me_isSome ht)
    obtain rfl := hrest.nil_inv
    exact Or.inr ⟨t, ht, Or.inl
      ⟨_, rfl, .rejected ha (Outcome.authStatus?_of_ok ho.symm) hs hu⟩⟩
  | @refreshed t ht reply new hu hs =>
    obtain ⟨c, o, _, ha, ho, hrest, rfl⟩ := hc.cons_inv (asks_me_isSome ht)
    obtain ⟨c', o', _, ha', ho', hrest', rfl⟩ := hrest.cons_inv (asks_refresh_isSome ht)
    obtain rfl := hrest'.nil_inv
    have hcookies := Outcome.setCookies_of_ok ho'.symm
    have hold := Outcome.authStatus?_of_ok ho.symm
    have hnew := Outcome.authStatus?_of_ok ho'.symm
    refine Or.inr ⟨t, ht, Or.inr ⟨_, rfl, rfl, ?_⟩⟩
    rw [hcookies]
    exact .refreshed ha (hu ▸ hold) ha' (hs ▸ hnew)
  | @expired t ht reply answer hu hs =>
    obtain ⟨c, o, _, ha, ho, hrest, rfl⟩ := hc.cons_inv (asks_me_isSome ht)
    obtain ⟨c', o', _, ha', ho', hrest', rfl⟩ := hrest.cons_inv (asks_refresh_isSome ht)
    obtain rfl := hrest'.nil_inv
    have hold := Outcome.authStatus?_of_ok ho.symm
    refine Or.inr ⟨t, ht, Or.inl ⟨_, rfl, .expired ha (hu ▸ hold) ha' fun hnew => ?_⟩⟩
    cases answer with
    | error fault => rw [Outcome.authStatus?_of_error ho'.symm] at hnew; cases hnew
    | ok new =>
      rw [Outcome.authStatus?_of_ok ho'.symm] at hnew
      exact hs new rfl (Option.some.inj hnew)

theorem trace_resolve (ht : h.sessionToken? = some t) {es : List Event}
    {qs : List (Call × Outcome)} {d : Nat} {result : Except IdentityFailure Identity}
    (htrace : Trace ((resolveIdentity t id).via client.ask) es qs d (some result)) :
    es = [] ∧ d = 0 ∧
      ∃ c o, client.Asks (.me t id) c ∧ qs = [(c, o)] ∧ result.toOption = o.owner? := by
  obtain ⟨conv, hp, hc⟩ := trace_via htrace
  unfold resolveIdentity at hp
  cases hp with
  | @ask _ _ answer _ _ _ _ rest =>
    obtain ⟨c, o, _, ha, ho, hrest, rfl⟩ := hc.cons_inv (asks_me_isSome ht)
    cases answer with
    | error fault =>
      cases rest
      obtain rfl := hrest.nil_inv
      refine ⟨rfl, rfl, c, o, ha, rfl, ?_⟩
      have hnone := Outcome.authStatus?_of_error ho.symm
      simp only [Outcome.authStatus?, Option.map_eq_none_iff] at hnone
      simp [Outcome.owner?, hnone, Except.toOption]
    | ok reply =>
      cases rest
      obtain rfl := hrest.nil_inv
      refine ⟨rfl, rfl, c, o, ha, rfl, ?_⟩
      simp [Outcome.owner?, Outcome.authAnswer_eq_ok_iff.mp ho.symm]

end AuthClient

end Gatehouse
