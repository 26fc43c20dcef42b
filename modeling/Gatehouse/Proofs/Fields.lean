import Gatehouse.Gateway

namespace Gatehouse

namespace Headers

variable {h : Headers} {name other : HeaderName} {value : HeaderValue}

theorem all_add_self (h : Headers) (name : HeaderName) (value : HeaderValue) :
    (h.add name value).all name = h.all name ++ [value] := by
  simp [all, add, List.filter_append]

theorem all_add_of_ne (h : Headers) (hne : name ≠ other) (value : HeaderValue) :
    (h.add name value).all other = h.all other := by
  simp [all, add, List.filter_append, hne]

/-- Taking fields away by their names leaves the values of all names that are kept. -/
theorem all_filter (h : Headers) (keeps : HeaderName → Bool) (hk : keeps name = true) :
    all ⟨h.fields.filter (keeps ·.name)⟩ name = h.all name := by
  unfold all
  rw [List.filter_filter]
  congr 1
  refine List.filter_congr fun f _ => ?_
  by_cases hf : f.name = name
  · simp [hf, hk]
  · simp [hf]

theorem all_remove_of_ne (h : Headers) (hne : name ≠ other) :
    (h.remove name).all other = h.all other :=
  h.all_filter (· ≠ name) (by simpa using hne.symm)

theorem all_set_of_ne (h : Headers) (hne : name ≠ other) (value : HeaderValue) :
    (h.set name value).all other = h.all other := by
  rw [set, all_add_of_ne _ hne, all_remove_of_ne _ hne]

theorem all_foldl_add (values : List HeaderValue) (h : Headers) (name : HeaderName) :
    (values.foldl (·.add name ·) h).all name = h.all name ++ values := by
  induction values generalizing h with
  | nil => simp
  | cons v rest ih =>
    rw [List.foldl_cons, ih, all_add_self, List.append_assoc, List.singleton_append]

theorem all_foldl_add_of_ne (hne : name ≠ other) (values : List HeaderValue) (h : Headers) :
    (values.foldl (·.add name ·) h).all other = h.all other := by
  induction values generalizing h with
  | nil => rfl
  | cons v rest ih => rw [List.foldl_cons, ih, all_add_of_ne h hne]

theorem all_remove_self (h : Headers) (name : HeaderName) : (h.remove name).all name = [] := by
  simp [all, remove, List.filter_filter]

theorem all_foldl_remove (names : List HeaderName) (h : Headers) (name : HeaderName) :
    (names.foldl remove h).all name = if name ∈ names then [] else h.all name := by
  induction names generalizing h with
  | nil => rfl
  | cons first rest ih =>
    rw [List.foldl_cons, ih]
    by_cases hn : name = first
    · subst hn
      simp [all_remove_self]
    · simp [hn, all_remove_of_ne h (Ne.symm hn)]

theorem contains_iff : h.contains name = true ↔ h.all name ≠ [] := by
  simp [contains, all, List.filter_eq_nil_iff]

theorem contains_congr {h' : Headers} (hall : h'.all name = h.all name) :
    h'.contains name = h.contains name := by
  rw [Bool.eq_iff_iff, contains_iff, contains_iff, hall]

theorem remove_comm (h : Headers) (name other : HeaderName) :
    (h.remove name).remove other = (h.remove other).remove name := by
  simp [remove, List.filter_filter, Bool.and_comm]

theorem remove_add_of_ne (h : Headers) (hne : name ≠ other) (value : HeaderValue) :
    (h.add other value).remove name = (h.remove name).add other value := by
  simp [remove, add, List.filter_append, hne.symm]

theorem remove_set_of_ne (h : Headers) (hne : name ≠ other) (value : HeaderValue) :
    (h.set other value).remove name = (h.remove name).set other value := by
  rw [set, remove_add_of_ne _ hne, remove_comm]
  rfl

theorem remove_foldl_remove (names : List HeaderName) (h : Headers) (name : HeaderName) :
    (names.foldl remove h).remove name = names.foldl remove (h.remove name) := by
  induction names generalizing h with
  | nil => rfl
  | cons first rest ih => rw [List.foldl_cons, ih, remove_comm, List.foldl_cons]

/-- What is left of a name once the fields are prepared for the client. -/
theorem all_scrub (h : Headers) (hn : isAccessControl name = false) :
    h.scrub.all name = if name ∈ h.perConnection ++ hopByHop then [] else h.all name := by
  have hall : h.scrub.all name = h.stripHopByHop.all name :=
    h.stripHopByHop.all_filter (!isAccessControl ·) (by simp [hn])
  rw [hall, stripHopByHop, all_foldl_remove]

theorem all_withForwardedFor_of_ne (h : Headers) (hne : HeaderName.forwardedFor ≠ name)
    (client : Option IpAddress) : (h.withForwardedFor client).all name = h.all name := by
  unfold withForwardedFor
  cases client with
  | none => rfl
  | some ip =>
    dsimp only
    split
    · exact all_set_of_ne _ hne _
    · rfl

/-- What is sent on of a name that the gateway does not write. -/
theorem all_sentOn (h : Headers) (hhost : HeaderName.host ≠ name)
    (hfor : HeaderName.forwardedFor ≠ name) (client : Option IpAddress) :
    (h.sentOn client).all name = if name ∈ h.perConnection ++ hopByHop then [] else h.all name := by
  rw [sentOn, all_withForwardedFor_of_ne _ hfor, all_remove_of_ne _ hhost, stripHopByHop,
    all_foldl_remove]

theorem all_withHost_of_ne (h : Headers) (hne : HeaderName.host ≠ name) (target : RequestTarget) :
    (h.withHost target).all name = h.all name := by
  unfold withHost
  split
  · rfl
  split
  · exact all_add_of_ne h hne _
  · rfl

theorem all_withRequestId_of_ne (h : Headers) (hne : HeaderName.requestId ≠ name)
    (id : Option HeaderValue) : (h.withRequestId id).all name = h.all name := by
  cases id with
  | none => rfl
  | some v => exact all_add_of_ne h hne v

end Headers

namespace Request

variable (r : Request) (fresh : HeaderValue)

@[simp] theorem identified_method : (r.identified fresh).method = r.method := by
  unfold identified
  split <;> rfl

@[simp] theorem identified_target : (r.identified fresh).target = r.target := by
  unfold identified
  split <;> rfl

@[simp] theorem identified_bodyTime : (r.identified fresh).bodyTime = r.bodyTime := by
  unfold identified
  split <;> rfl

@[simp] theorem identified_body : (r.identified fresh).body = r.body := by
  unfold identified
  split <;> rfl

theorem all_identified_of_ne {name : HeaderName} (hne : HeaderName.requestId ≠ name) :
    (r.identified fresh).headers.all name = r.headers.all name := by
  unfold identified
  split
  · rfl
  · exact Headers.all_add_of_ne _ hne _

end Request

theorem Response.all_withCookies (r : Response) (cookies : List HeaderValue) :
    (r.withCookies cookies).headers.all .setCookie = r.headers.all .setCookie ++ cookies :=
  Headers.all_foldl_add cookies r.headers .setCookie

/-- A failure is told with a body and its type, and nothing else. -/
theorem Failure.all_response (f : Failure) {name : HeaderName}
    (hne : HeaderName.contentType ≠ name) : f.response.headers.all name = [] :=
  Headers.all_add_of_ne .empty hne jsonType

/-- The names of the fields that a response is finished with. -/
def finishingNames : List HeaderName :=
  [.allowOrigin, .allowCredentials, .allowMethods, .allowHeaders, .vary, .requestId, .allow]

theorem OriginDecision.all_apply (decision : OriginDecision) (h : Headers) {name : HeaderName}
    (hname : name ∉ finishingNames) : (decision.apply h).all name = h.all name := by
  cases decision with
  | deny => rfl
  | allow origin =>
    have hne {other : HeaderName} (ho : other ∈ finishingNames) : other ≠ name :=
      fun he => hname (he ▸ ho)
    unfold OriginDecision.apply
    rw [Headers.all_add_of_ne _ (hne (by decide)), Headers.all_set_of_ne _ (hne (by decide)),
      Headers.all_set_of_ne _ (hne (by decide)), Headers.all_set_of_ne _ (hne (by decide)),
      Headers.all_set_of_ne _ (hne (by decide))]

theorem Response.all_withRequestId_of_ne (r : Response) {name : HeaderName}
    (hne : HeaderName.requestId ≠ name) (id : Option HeaderValue) :
    (r.withRequestId id).headers.all name = r.headers.all name := by
  unfold withRequestId
  split
  · rfl
  · exact Headers.all_withRequestId_of_ne _ hne id

theorem Gateway.all_withAllowed_of_ne (r : Request) (response : Response) {name : HeaderName}
    (hne : HeaderName.allow ≠ name) :
    (withAllowed r response).headers.all name = response.headers.all name := by
  unfold withAllowed
  split
  · exact Headers.all_set_of_ne _ hne _
  · rfl

theorem Response.headers_sentFor (r : Response) (m : Method) :
    (r.sentFor m).headers = r.headers := by
  unfold sentFor
  split <;> rfl

/-- Finishing a response leaves the values of all other names as they are. -/
theorem Gateway.all_finish (g : Gateway) (r : Request) (response : Response) {name : HeaderName}
    (hname : name ∉ finishingNames) :
    (g.finish r response).headers.all name = response.headers.all name := by
  have hid : HeaderName.requestId ≠ name := fun he => hname (he ▸ by decide)
  have hallow : HeaderName.allow ≠ name := fun he => hname (he ▸ by decide)
  unfold finish
  rw [Response.headers_sentFor, all_withAllowed_of_ne _ _ hallow,
    Response.all_withRequestId_of_ne _ hid]
  exact OriginDecision.all_apply _ _ hname

end Gatehouse
