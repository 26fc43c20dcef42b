import Gatehouse.Proofs.AuthCalls
import Gatehouse.Proofs.Entries
import Gatehouse.Proofs.Fields
import Gatehouse.Proofs.Serve

namespace Gatehouse

/-- The pairs of a cookie field as they are written, without blanks around them. -/
def cookiePairs (field : List Char) : List (List Char) :=
  ((pieces ';' field).map trimBlank).filter (!·.isEmpty)

/-- The value that a pair gives a name, if it is for that name and not empty. -/
def pairValue? (name pair : List Char) : Option (List Char) :=
  (cutAt? '=' pair).bind fun (key, value) =>
    if key = name ∧ value ≠ [] then some value else none

theorem cookiePairs_eq_entries : cookiePairs = entries ';' := rfl

/-- A semicolon is none of the blanks that may stand around a pair. -/
theorem isBlank_semicolon : isBlank ';' = false := by decide

theorem cookiePairs_trimBlank (field : List Char) :
    cookiePairs (trimBlank field) = cookiePairs field := entries_trimBlank isBlank_semicolon field

theorem findCookie?_eq (name field : List Char) :
    findCookie? name field = (cookiePairs field).findSome? (pairValue? name) := by
  unfold findCookie? cookiePairs
  induction pieces ';' field with
  | nil => rfl
  | cons piece more ih =>
    rw [List.findSome?_cons, List.map_cons, List.filter_cons, ih]
    by_cases he : trimBlank piece = []
    · simp [he, cookiePair?, cutAt?]
    · have hne : (!(trimBlank piece).isEmpty) = true := by simpa using he
      rw [if_pos hne, List.findSome?_cons]
      rfl

namespace Headers

/-- The pairs of all cookie fields that can be read, in order. -/
def cookiePairs (h : Headers) : List (List Char) := h.cookieFields.flatMap Gatehouse.cookiePairs

theorem cookieValue?_eq (h : Headers) (name : String) :
    h.cookieValue? name = ((h.cookiePairs.findSome? (pairValue? name.toList)).map unquote).bind
      fun value => if value.isEmpty then none else some (String.ofList value) := by
  have hall (fields : List (List Char)) : fields.findSome? (findCookie? name.toList) =
      (fields.flatMap Gatehouse.cookiePairs).findSome? (pairValue? name.toList) := by
    induction fields with
    | nil => rfl
    | cons field more ih =>
      rw [List.findSome?_cons, List.flatMap_cons, List.findSome?_append, ← ih, findCookie?_eq]
      cases (Gatehouse.cookiePairs field).findSome? (pairValue? name.toList) <;> rfl
  have hfirst : (((h.first? .cookie).bind HeaderValue.chars?).bind (findCookie? name.toList) <|>
      h.cookieFields.findSome? (findCookie? name.toList)) =
        h.cookieFields.findSome? (findCookie? name.toList) := by
    unfold cookieFields first?
    cases h.all .cookie with
    | nil => rfl
    | cons v rest =>
      cases hv : v.chars? with
      | none => simp [hv]
      | some field =>
        cases hf : findCookie? name.toList field <;> simp [hv, hf]
  unfold cookieValue?
  dsimp only
  rw [hfirst, hall]
  rfl

variable {h : Headers} {text : String}

theorem cookieValue?_congr {other : Headers} (hp : other.cookiePairs = h.cookiePairs)
    (name : String) : other.cookieValue? name = h.cookieValue? name := by
  rw [cookieValue?_eq, cookieValue?_eq, hp]

theorem fullCookie?_eq_none_iff :
    h.fullCookie? = none ↔ ∀ field ∈ h.cookieFields, ∀ c ∈ field, isBlank c := by
  have hnone : h.fullCookie? = none ↔
      ((h.cookieFields.map trimBlank).filter (!·.isEmpty)) = [] := by
    unfold fullCookie?
    dsimp only
    rw [← List.isEmpty_iff]
    split <;> simp_all
  rw [hnone, List.filter_eq_nil_iff, List.forall_mem_map]
  refine forall₂_congr fun field _ => ?_
  rw [trimBlank, ← trimBy_eq_nil_iff]
  simp

theorem cookiePairs_of_fullCookie? (ht : h.fullCookie? = some text) :
    Gatehouse.cookiePairs text.toList = h.cookiePairs := by
  unfold fullCookie? at ht
  dsimp only at ht
  split at ht
  · cases ht
  · cases Option.some.inj ht
    rw [String.toList_ofList, cookiePairs_eq_entries, entries_joinWith isBlank_semicolon,
      ← cookiePairs_eq_entries, cookiePairs]
    induction h.cookieFields with
    | nil => rfl
    | cons field more ih =>
      rw [List.map_cons, List.filter_cons, List.flatMap_cons, ← ih, ← cookiePairs_trimBlank field]
      split
      · rw [List.flatMap_cons]
      next he =>
        have hnil : trimBlank field = [] := by simpa using he
        rw [hnil]
        rfl

theorem exists_fullCookie? {t : String} (ht : h.sessionToken? = some t) :
    ∃ text, h.fullCookie? = some text := by
  cases hf : h.fullCookie? with
  | some text => exact ⟨text, rfl⟩
  | none =>
    have hblank := fullCookie?_eq_none_iff.mp hf
    have hnil : h.cookiePairs = [] := by
      refine List.flatMap_eq_nil_iff.mpr fun field hfield => ?_
      exact entries_append_blank isBlank_semicolon [] (hblank field hfield)
    rw [sessionToken?, cookieValue?_eq, hnil] at ht
    cases ht

end Headers

namespace AuthClient

theorem Asks.cookieFields {client : AuthClient} {q : AuthQuestion} {c : Call}
    (hc : client.Asks q c) (hq : IsVisible q.cookie.toList) :
    c.headers.cookieFields = [q.cookie.toList] := by
  obtain ⟨cookie, hcookie, rfl⟩ := hc
  have hall : (client.call q cookie).headers.all .cookie = [cookie] :=
    (Headers.all_withRequestId_of_ne _ (by decide) _).trans (Headers.all_add_self .empty _ _)
  rw [Headers.cookieFields, hall, List.filterMap_cons_some
    (HeaderValue.chars?_of_octets (HeaderValue.octets_of_ofText? hcookie) hq)]
  rfl

theorem Asks.target_me {client : AuthClient} {t : String} {id : Option HeaderValue} {c : Call}
    (hc : client.Asks (.me t id) c) : c.target ≠ client.destination.target refreshPlace := by
  obtain ⟨cookie, -, rfl⟩ := hc
  intro he
  have hplace : mePlace = refreshPlace := by
    simpa [AuthClient.call, Destination.target, AuthQuestion.place] using he
  exact absurd hplace (by decide)

variable {client : AuthClient} {h : Headers} {id : Option HeaderValue} {t : String}
  {x : Call × Outcome} {asked : List (Call × Outcome)}

theorem Admits.of_refresh {cookies : List HeaderValue} (ha : client.Admits h id t asked cookies)
    (hx : x ∈ asked) (hplace : x.1.target = client.destination.target refreshPlace) :
    ∃ check, client.Asks (.me t id) check.1 ∧ client.Asks (.refresh (h.refreshCookies t) id) x.1 ∧
      asked = [check, x] := by
  cases ha with
  | valid hc _ =>
    obtain rfl := List.mem_singleton.mp hx
    exact absurd hplace hc.target_me
  | refreshed hc _ hc' _ =>
    rcases List.mem_cons.mp hx with rfl | hx
    · exact absurd hplace hc.target_me
    · obtain rfl := List.mem_singleton.mp hx
      exact ⟨_, hc, hc', rfl⟩

theorem Denies.of_refresh {f : Failure} (hd : client.Denies h id t asked f) (hx : x ∈ asked)
    (hplace : x.1.target = client.destination.target refreshPlace) :
    ∃ check, client.Asks (.me t id) check.1 ∧ client.Asks (.refresh (h.refreshCookies t) id) x.1 ∧
      asked = [check, x] := by
  cases hd with
  | serviceDown hc _ | rejected hc _ _ _ =>
    obtain rfl := List.mem_singleton.mp hx
    exact absurd hplace hc.target_me
  | expired hc _ hc' _ =>
    rcases List.mem_cons.mp hx with rfl | hx
    · exact absurd hplace hc.target_me
    · obtain rfl := List.mem_singleton.mp hx
      exact ⟨_, hc, hc', rfl⟩

/-- Where a new session is asked for, the old one was checked before, and nothing else was asked. -/
theorem asked_refresh {σ : Type} (answer : σ → Call → Outcome × σ) (s : σ)
    (hx : x ∈ (((validateSession h id).via client.ask).run answer s).asked)
    (hplace : x.1.target = client.destination.target refreshPlace) :
    ∃ t check, h.sessionToken? = some t ∧ client.Asks (.me t id) check.1 ∧
      client.Asks (.refresh (h.refreshCookies t) id) x.1 ∧
      (((validateSession h id).via client.ask).run answer s).asked = [check, x] := by
  obtain ⟨d, htrace⟩ := Program.trace_run answer ((validateSession h id).via client.ask) s
  obtain ⟨-, -, ⟨-, hnil, -⟩ | ⟨t, ht, ⟨f, -, hdenies⟩ | ⟨session, -, -, hadmits⟩⟩⟩ :=
    trace_validate htrace
  · rw [hnil] at hx
    cases hx
  · obtain ⟨check, hcheck, hask, hasked⟩ := hdenies.of_refresh hx hplace
    exact ⟨t, check, ht, hcheck, hask, hasked⟩
  · obtain ⟨check, hcheck, hask, hasked⟩ := hadmits.of_refresh hx hplace
    exact ⟨t, check, ht, hcheck, hask, hasked⟩

end AuthClient

namespace Headers

/--
All readable cookie fields as one hold the same pairs in the same order, and give every name the
same value; there is none only where no readable field has more than blanks in it. So there is one
wherever there is a session token, and a new session is asked for with it: with the token that was
checked and all other cookies that can be read.
-/
theorem fullCookie?_faithful {σ : Type} (h : Headers) :
    (h.fullCookie? = none ↔ ∀ field ∈ h.cookieFields, ∀ c ∈ field, isBlank c) ∧
    (∀ text, h.fullCookie? = some text →
      Gatehouse.cookiePairs text.toList = h.cookiePairs ∧
      ∃ v, HeaderValue.ofText? text = some v ∧
        ∀ name, (Headers.empty.add .cookie v).cookieValue? name = h.cookieValue? name) ∧
    (∀ t, h.sessionToken? = some t → ∃ text, h.fullCookie? = some text) ∧
    ∀ (client : AuthClient) (id : Option HeaderValue) (answer : σ → Call → Outcome × σ) (s : σ),
      let run := ((validateSession h id).via client.ask).run answer s
      ∀ x ∈ run.asked, x.1.target = client.destination.target refreshPlace →
        ∃ t text check, h.sessionToken? = some t ∧ h.fullCookie? = some text ∧
          run.asked = [check, x] ∧ client.Asks (.me t id) check.1 ∧
          x.1.headers.cookieFields = [text.toList] ∧ x.1.headers.sessionToken? = some t ∧
          x.1.headers.cookiePairs = h.cookiePairs ∧
          ∀ name, x.1.headers.cookieValue? name = h.cookieValue? name := by
  have hone {text : String} (ht : h.fullCookie? = some text) {other : Headers}
      (hother : other.cookieFields = [text.toList]) : other.cookiePairs = h.cookiePairs := by
    rw [Headers.cookiePairs, hother, List.flatMap_singleton]
    exact cookiePairs_of_fullCookie? ht
  refine ⟨fullCookie?_eq_none_iff, fun text ht => ⟨cookiePairs_of_fullCookie? ht, ?_⟩,
    fun t ht => exists_fullCookie? ht, fun client id answer s => ?_⟩
  · have hvisible := fullCookie?_isVisible ht
    obtain ⟨v, hv⟩ := HeaderValue.ofText?_of_isVisible hvisible
    refine ⟨v, hv, cookieValue?_congr (hone ht ?_)⟩
    have hchars := HeaderValue.chars?_of_octets (HeaderValue.octets_of_ofText? hv) hvisible
    rw [cookieFields, all_add_self, List.filterMap_append]
    simp [hchars, all, empty]
  · intro run x hx hplace
    obtain ⟨t, check, ht, hcheck, hask, hasked⟩ :=
      AuthClient.asked_refresh answer s hx hplace
    obtain ⟨text, htext⟩ := exists_fullCookie? ht
    have hcookies : h.refreshCookies t = text := by rw [refreshCookies, htext, Option.getD_some]
    rw [hcookies] at hask
    have hfields : x.1.headers.cookieFields = [text.toList] :=
      hask.cookieFields (fullCookie?_isVisible htext)
    have hpairs := hone htext hfields
    exact ⟨t, text, check, ht, htext, hasked, hcheck, hfields,
      (cookieValue?_congr hpairs _).trans ht, hpairs, cookieValue?_congr hpairs⟩

/-- Cookies in several fields, one of which cannot be read and one of which is blank. -/
def scattered : Headers :=
  (((Headers.empty.add .cookie ⟨[0x61, 0x3D, 0xFF], by decide⟩).add .cookie
    ⟨octetsOf "theme=dark; ;", by decide⟩).add .cookie ⟨octetsOf " ", by decide⟩).add .cookie
    ⟨octetsOf "\tsession_token=\"s1\" ;refresh_token=r1", by decide⟩

theorem fullCookie?_faithful_scattered :
    scattered.fullCookie? = some "theme=dark; ;; session_token=\"s1\" ;refresh_token=r1" ∧
      let client : AuthClient := ⟨⟨"http", "auth"⟩, authPatience⟩
      let run := ((validateSession scattered none).via client.ask).run Outcome.scripted
        [.reply ⟨.unauthorized, .empty, .empty⟩ 0]
      run.asked.map (·.1.target) = [client.destination.target mePlace,
        client.destination.target refreshPlace] ∧
      ∀ x ∈ run.asked, x.1.target = client.destination.target refreshPlace →
        x.1.headers.sessionToken? = some "s1" ∧
          x.1.headers.cookieValue? "refresh_token" = some "r1" := by
  refine ⟨by decide +kernel, ?_⟩
  intro client run
  refine ⟨by decide +kernel, fun x hx hplace => ?_⟩
  obtain ⟨t, text, check, -, -, -, -, -, -, -, hvalues⟩ :=
    (fullCookie?_faithful scattered).2.2.2 client none Outcome.scripted _ x hx hplace
  have ht : scattered.sessionToken? = some "s1" := by decide +kernel
  have hr : scattered.cookieValue? "refresh_token" = some "r1" := by decide +kernel
  exact ⟨(hvalues _).trans ht, (hvalues _).trans hr⟩

end Headers

end Gatehouse
