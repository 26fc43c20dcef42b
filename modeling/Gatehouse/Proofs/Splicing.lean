import Gatehouse.Proofs.FoundCookies

namespace Gatehouse

open Program

namespace Headers

variable {h : Headers} {name value : String}

theorem semicolon_not_mem_cookiePairs {pair : List Char} (hp : pair ∈ h.cookiePairs) :
    ';' ∉ pair := by
  obtain ⟨field, -, hpair⟩ := List.mem_flatMap.mp hp
  obtain ⟨hpair, -⟩ := List.mem_filter.mp hpair
  obtain ⟨piece, hpiece, rfl⟩ := List.mem_map.mp hpair
  exact fun hm => not_mem_of_mem_pieces hpiece (trimBy_subset isBlank piece hm)

theorem cookieValue?_not_mem (hv : h.cookieValue? name = some value) : ';' ∉ value.toList := by
  obtain ⟨_, hfirst, -⟩ := (h.cookieValue?_eq_some_iff name value).mp hv
  obtain ⟨pair, _, hpairs, raw, -, hpair, hvalue⟩ := hfirst.given
  have hmem : pair ∈ h.cookiePairs := by
    rw [hpairs]
    simp
  intro hm
  rw [← hvalue] at hm
  refine semicolon_not_mem_cookiePairs hmem ?_
  rw [hpair]
  exact List.mem_append_right _ (List.mem_cons_of_mem _ (unquote_subset raw hm))

end Headers

namespace AuthClient

/--
Whether a question is asked with this cookie field: it holds the question's cookies, in tabs and
printable ASCII only, and nothing but the id of the request goes with it.
-/
structure Sends (client : AuthClient) (q : AuthQuestion) (cookie : HeaderValue) : Prop where
  carried : HeaderValue.ofText? q.cookie = some cookie
  octets : cookie.octets = octetsOf q.cookie
  visible : ∀ o ∈ cookie.octets, o = 0x09 ∨ 0x20 ≤ o ∧ o ≤ 0x7E
  fields : (client.call q cookie).headers.fields =
    ⟨.cookie, cookie⟩ :: (q.requestId.map (Field.mk .requestId)).toList
  asked : client.ask q = .ask (client.call q cookie) fun o => .done (o.authAnswer client.patience)

variable {client : AuthClient} {h : Headers} {id : Option HeaderValue} {t : String}

theorem exists_sends {q : AuthQuestion} (hq : IsVisible q.cookie.toList) :
    ∃ cookie, client.Sends q cookie := by
  obtain ⟨cookie, hcookie⟩ := HeaderValue.ofText?_of_isVisible hq
  have hoctets := HeaderValue.octets_of_ofText? hcookie
  refine ⟨cookie, hcookie, hoctets, fun o ho => ?_, ?_, ?_⟩
  · have ho := octetsOf_isVisible hq o (hoctets ▸ ho)
    unfold isVisibleOctet at ho
    grind
  · unfold call
    cases q.requestId <;> rfl
  · unfold ask
    rw [hcookie]

theorem Asks.cookiePairs_me {c : Call} (hc : client.Asks (.me t id) c)
    (ht : h.sessionToken? = some t) :
    c.headers.cookieFields = [(sessionCookie ++ "=" ++ t).toList] ∧
      ∃ value, c.headers.cookiePairs = [sessionCookie.toList ++ '=' :: value] := by
  have hfields := hc.cookieFields (sessionCookie_isVisible (Headers.cookieValue?_isVisible ht))
  refine ⟨hfields, ?_⟩
  have htext :
      (sessionCookie ++ "=" ++ t).toList = (sessionCookie.toList ++ ['=']) ++ t.toList := by
    simp
  have hsep : ';' ∉ (sessionCookie ++ "=" ++ t).toList := by
    rw [htext, List.mem_append, not_or]
    exact ⟨by decide, Headers.cookieValue?_not_mem ht⟩
  obtain ⟨value, hvalue⟩ : ∃ value,
      trimBlank (sessionCookie ++ "=" ++ t).toList = (sessionCookie.toList ++ ['=']) ++ value := by
    rw [htext]
    have hfirst : (sessionCookie.toList ++ ['=']).head? = some 's' := rfl
    have hlast : (sessionCookie.toList ++ ['=']).getLast? = some '=' := rfl
    exact exists_trimBy_append hfirst hlast (by decide) (by decide)
  have hpair : (sessionCookie.toList ++ ['=']) ++ value = sessionCookie.toList ++ '=' :: value := by
    simp
  refine ⟨value, ?_⟩
  rw [Headers.cookiePairs, hfields, List.flatMap_singleton]
  change entries ';' (sessionCookie ++ "=" ++ t).toList = _
  rw [entries_of_not_mem hsep, hvalue, hpair]
  simp

/-- The questions that a session with this token is checked and renewed by. -/
def questions (h : Headers) (id : Option HeaderValue) (t : String) : List AuthQuestion :=
  [.me t id, .refresh (h.refreshCookies t) id]

theorem exists_sends_of_token (ht : h.sessionToken? = some t) {q : AuthQuestion}
    (hq : q ∈ questions h id t) : ∃ cookie, client.Sends q cookie := by
  have hvisible : IsVisible t.toList := Headers.cookieValue?_isVisible ht
  rcases List.mem_cons.mp hq with rfl | hq
  · exact exists_sends (sessionCookie_isVisible hvisible)
  · obtain rfl := List.mem_singleton.mp hq
    exact exists_sends (refreshCookies_isVisible h hvisible)

theorem Asks.eq_call {q : AuthQuestion} {c : Call} {cookie : HeaderValue} (hc : client.Asks q c)
    (hs : client.Sends q cookie) : c = client.call q cookie := by
  obtain ⟨other, hother, rfl⟩ := hc
  rw [Option.some.inj (hother.symm.trans hs.carried)]

theorem Admits.asks_questions {asked : List (Call × Outcome)} {cookies : List HeaderValue}
    (ha : client.Admits h id t asked cookies) :
    ∀ x ∈ asked, ∃ q ∈ questions h id t, client.Asks q x.1 := by
  cases ha with
  | valid hc => simpa [questions] using Or.inl hc
  | refreshed hc _ hc' => simpa [questions] using ⟨Or.inl hc, Or.inr hc'⟩

theorem Denies.asks_questions {asked : List (Call × Outcome)} {f : Failure}
    (hd : client.Denies h id t asked f) :
    ∀ x ∈ asked, ∃ q ∈ questions h id t, client.Asks q x.1 := by
  cases hd with
  | serviceDown hc | rejected hc => simpa [questions] using Or.inl hc
  | expired hc _ hc' => simpa [questions] using ⟨Or.inl hc, Or.inr hc'⟩

/-- An outage is told of only where the check of the session was not answered. -/
theorem Denies.unanswered {asked : List (Call × Outcome)} {f : Failure}
    (hd : client.Denies h id t asked f) (hf : f.status = .serviceUnavailable) :
    ∃ c o, client.Asks (.me t id) c ∧ asked = [(c, o)] ∧ o.authStatus? = none := by
  cases hd with
  | serviceDown hc ho => exact ⟨_, _, hc, rfl, ho⟩
  | rejected | expired => exact absurd hf (by decide)

/--
A session is checked with one cookie field that holds the token and no other cookie, and renewed
with one that holds all cookies of the request. Whatever the client has sent, both can be sent as
they are, and nothing else is. So an outage of the auth service is told of only where the service
was asked and has not answered.
-/
theorem sessionToken?_spliced {σ : Type} (h : Headers) (client : AuthClient)
    (id : Option HeaderValue) (answer : σ → Call → Outcome × σ) (s : σ) :
    (∀ t, h.sessionToken? = some t →
      ';' ∉ t.toList ∧ (AuthQuestion.me t id).cookie = sessionCookie ++ "=" ++ t ∧
      (∀ q ∈ questions h id t, ∃ cookie, client.Sends q cookie) ∧
      ∀ c, client.Asks (.me t id) c →
        c.headers.cookieFields = [(sessionCookie ++ "=" ++ t).toList] ∧
          ∃ value, c.headers.cookiePairs = [sessionCookie.toList ++ '=' :: value]) ∧
    let run := ((validateSession h id).via client.ask).run answer s
    (∀ x ∈ run.asked, ∃ t q cookie, h.sessionToken? = some t ∧ q ∈ questions h id t ∧
      client.Sends q cookie ∧ x.1 = client.call q cookie) ∧
    ∀ f, run.result = .error f → f.failure.status = .serviceUnavailable →
      ∃ t c o, h.sessionToken? = some t ∧ client.Asks (.me t id) c ∧ run.asked = [(c, o)] ∧
        o.authStatus? = none := by
  refine ⟨fun t ht => ⟨Headers.cookieValue?_not_mem ht, rfl,
    fun q hq => exists_sends_of_token ht hq, fun c hc => hc.cookiePairs_me ht⟩, ?_⟩
  intro run
  have hsent {t : String} (ht : h.sessionToken? = some t) {x : Call × Outcome}
      (hx : ∃ q ∈ questions h id t, client.Asks q x.1) :
      ∃ t q cookie, h.sessionToken? = some t ∧ q ∈ questions h id t ∧
        client.Sends q cookie ∧ x.1 = client.call q cookie := by
    obtain ⟨q, hq, hask⟩ := hx
    obtain ⟨cookie, hsends⟩ : ∃ cookie, client.Sends q cookie := exists_sends_of_token ht hq
    exact ⟨t, q, cookie, ht, hq, hsends, hask.eq_call hsends⟩
  obtain ⟨d, htrace⟩ := trace_run answer ((validateSession h id).via client.ask) s
  obtain ⟨-, -, ⟨-, hnil, hnone⟩ | ⟨t, ht, ⟨f, hdenied, hdenies⟩ | ⟨_, hok, -, hadmits⟩⟩⟩ :=
    trace_validate htrace
  · have hasked : run.asked = [] := hnil
    refine ⟨by simp [hasked], fun f hresult hf => ?_⟩
    cases hresult.symm.trans hnone
    exact absurd hf (by decide)
  · refine ⟨fun x hx => hsent ht (hdenies.asks_questions x hx), fun f' hresult hf => ?_⟩
    cases hresult.symm.trans hdenied
    obtain ⟨c, o, hc, hasked, ho⟩ := hdenies.unanswered hf
    exact ⟨t, c, o, ht, hc, hasked, ho⟩
  · refine ⟨fun x hx => hsent ht (hadmits.asks_questions x hx), fun f hresult _ => ?_⟩
    cases hresult.symm.trans hok

/-- A token with a tab and an equals sign in it, in quotes, behind a field that cannot be read. -/
def quoted : Headers :=
  (Headers.empty.add .cookie ⟨[0x62, 0x3D, 0xFF], by decide⟩).add .cookie
    ⟨octetsOf "theme=dark; session_token=\"a\t=b\" ; other=1", by decide⟩

def quotedClient : AuthClient := ⟨⟨"http", "auth"⟩, authPatience⟩

/-- It is sent as it stands, without the cookie beside it, to a service that has no answer. -/
theorem sessionToken?_spliced_quoted :
    quoted.sessionToken? = some "a\t=b" ∧
      let run := ((validateSession quoted none).via quotedClient.ask).run Outcome.scripted
        [.broken 0]
      run.result = .error .serviceDown ∧
        (∃ cookie, quotedClient.Sends (.me "a\t=b" none) cookie) ∧
        ∃ c o, quotedClient.Asks (.me "a\t=b" none) c ∧ run.asked = [(c, o)] ∧
          o.authStatus? = none := by
  have ht : quoted.sessionToken? = some "a\t=b" := by decide +kernel
  refine ⟨ht, ?_⟩
  intro run
  have hresult : run.result = .error .serviceDown := by rfl
  obtain ⟨htoken, -, houtage⟩ :=
    sessionToken?_spliced quoted quotedClient none Outcome.scripted [.broken 0]
  obtain ⟨-, -, hsends, -⟩ := htoken _ ht
  obtain ⟨t, c, o, ht', hc, hasked, ho⟩ := houtage _ hresult rfl
  obtain rfl := Option.some.inj (ht'.symm.trans ht)
  exact ⟨hresult, hsends _ (List.mem_cons_self ..), c, o, hc, hasked, ho⟩

end AuthClient

end Gatehouse
