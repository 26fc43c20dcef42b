import Mathlib.Data.List.Nodup
import Gatehouse.Proofs.Bases

namespace Gatehouse

def BasesConfig.put (b : BasesConfig) (who : Collaborator) (base : String) : BasesConfig :=
  match who with
  | .auth => { b with auth := base }
  | .backend => { b with backend := base }
  | .node => { b with node := base }
  | .monitoring => { b with monitoring := base }

/-- What can be set. Whether metrics are offered and at which address is one setting. -/
inductive SettingName where
  | bindAddress
  | base (who : Collaborator)
  | allowedOrigins
  | connectSecs
  | forwardSecs
  | requestSecs
  | maxBodyBytes
  | logFilter
  | metrics
deriving DecidableEq, Repr

namespace SettingName

/-- The section and the name that faults of a setting are reported under. -/
def field : SettingName → String
  | bindAddress => "listener.bind_address"
  | base who => "upstreams." ++ who.name
  | allowedOrigins => "cors.allowed_origins"
  | connectSecs => "timeouts.connect_secs"
  | forwardSecs => "timeouts.forward_secs"
  | requestSecs => "timeouts.request_secs"
  | maxBodyBytes => "limits.max_body_bytes"
  | logFilter => "observability.log_filter"
  | metrics => "observability.metrics_address"

/-- The settings that can be at fault, in the order that they are checked in. -/
def checked : List SettingName :=
  [bindAddress] ++ collaborators.map base ++
    [allowedOrigins, connectSecs, forwardSecs, requestSecs, maxBodyBytes, metrics]

/-- The second settings with the value that this one has in the first. -/
def put (s : SettingName) (c d : Config) : Config :=
  match s with
  | bindAddress => { d with listener.bindAddress := c.listener.bindAddress }
  | base who => { d with bases := d.bases.put who (c.bases.get who) }
  | allowedOrigins => { d with cors.allowedOrigins := c.cors.allowedOrigins }
  | connectSecs => { d with timeouts.connectSecs := c.timeouts.connectSecs }
  | forwardSecs => { d with timeouts.forwardSecs := c.timeouts.forwardSecs }
  | requestSecs => { d with timeouts.requestSecs := c.timeouts.requestSecs }
  | maxBodyBytes => { d with limits.maxBodyBytes := c.limits.maxBodyBytes }
  | logFilter => { d with observability.logFilter := c.observability.logFilter }
  | metrics =>
    { d with
      observability.metricsEnabled := c.observability.metricsEnabled
      observability.metricsAddress := c.observability.metricsAddress }

/-- Once all of them are put, nothing is left of the second settings. -/
theorem put_all (c d : Config) : (logFilter :: checked).foldr (·.put c) d = c := rfl

theorem mem_all (s : SettingName) : s ∈ logFilter :: checked := by
  cases s with
  | base who => cases who <;> decide
  | _ => decide

theorem field_injective {s t : SettingName} (h : s.field = t.field) : s = t := by
  have hall : ∀ x ∈ logFilter :: checked, ∀ y ∈ logFilter :: checked,
      x.field = y.field → x = y := by decide
  exact hall s (mem_all s) t (mem_all t) h

/-- What only one setting contributes to, if it is checked at all, is its contribution. -/
theorem flatMap_checked {α : Type} {f : SettingName → List α} {s : SettingName}
    (h : ∀ t, t ≠ s → f t = []) (hs : s = logFilter → f s = []) : checked.flatMap f = f s := by
  have hnodup : checked.Nodup := by decide
  rcases List.mem_cons.mp (mem_all s) with rfl | hmem
  · rw [hs rfl, List.flatMap_eq_nil_iff]
    intro t _
    by_cases ht : t = logFilter
    · rw [ht, hs rfl]
    · exact h t ht
  · obtain ⟨before, after, hsplit⟩ := List.append_of_mem hmem
    rw [hsplit, List.nodup_middle, List.nodup_cons, List.mem_append, not_or] at hnodup
    have hnone {ts : List SettingName} (hts : s ∉ ts) : ts.flatMap f = [] :=
      List.flatMap_eq_nil_iff.mpr fun t ht => h t fun he => hts (he ▸ ht)
    rw [hsplit, List.flatMap_append, List.flatMap_cons, hnone hnodup.1.1, hnone hnodup.1.2,
      List.nil_append, List.append_nil]

end SettingName

namespace Config

variable {c d : Config} {s t : SettingName}

/-- These settings with the default for all but one. -/
def only (c : Config) (s : SettingName) : Config := s.put c {}

/-- What is wrong with the value of a setting. -/
def complaintsOf (c : Config) : SettingName → List Complaint
  | .bindAddress => checkAddress c.listener.bindAddress
  | .base who => checkBase (c.bases.get who)
  | .allowedOrigins => checkOrigins c.cors.allowedOrigins
  | .connectSecs => checkPositive c.timeouts.connectSecs
  | .forwardSecs => checkPositive c.timeouts.forwardSecs
  | .requestSecs => checkPositive c.timeouts.requestSecs
  | .maxBodyBytes => checkPositive c.limits.maxBodyBytes
  | .logFilter => []
  | .metrics => checkMetrics c.observability

/-- The faults that are reported for a setting, in their order among all. -/
def faultsOf (c : Config) (s : SettingName) : List ConfigFault :=
  c.faults.filter (·.field = s.field)

theorem faults_eq (c : Config) : c.faults =
    SettingName.checked.flatMap fun s => (c.complaintsOf s).map (⟨s.field, ·⟩) := rfl

theorem complaintsOf_put (c d : Config) (s t : SettingName) :
    (s.put c d).complaintsOf t = (if t = s then c else d).complaintsOf t := by
  cases s with
  | base who => cases t with
    | base who' => cases who <;> cases who' <;> rfl
    | _ => rfl
  | _ => cases t <;> rfl

theorem complaintsOf_default (s : SettingName) : ({} : Config).complaintsOf s = [] := by
  cases s with
  | base who => cases who <;> decide +kernel
  | _ => decide +kernel

theorem complaintsOf_only (c : Config) (s t : SettingName) :
    (c.only s).complaintsOf t = if t = s then c.complaintsOf t else [] := by
  rw [only, complaintsOf_put]
  split
  · rfl
  · exact complaintsOf_default t

theorem faultsOf_eq (c : Config) (s : SettingName) :
    c.faultsOf s = (c.complaintsOf s).map (⟨s.field, ·⟩) := by
  have hown (t : SettingName) : ((c.complaintsOf t).map (ConfigFault.mk t.field)).filter
      (·.field = s.field) = if t = s then (c.complaintsOf t).map (⟨t.field, ·⟩) else [] := by
    split
    next h => simp [h]
    next h =>
      have hne : t.field ≠ s.field := fun he => h (SettingName.field_injective he)
      simp [hne]
  rw [faultsOf, faults_eq, List.filter_flatMap]
  simp only [hown]
  refine (SettingName.flatMap_checked (s := s) (fun t ht => if_neg ht) ?_).trans (if_pos rfl)
  rintro rfl
  rfl

theorem faults_only (c : Config) (s : SettingName) : (c.only s).faults = c.faultsOf s := by
  have hother : ∀ t, t ≠ s → ((c.only s).complaintsOf t).map (ConfigFault.mk t.field) = [] := by
    intro t ht
    rw [complaintsOf_only, if_neg ht, List.map_nil]
  rw [faults_eq, faultsOf_eq, SettingName.flatMap_checked hother, complaintsOf_only, if_pos rfl]
  rintro rfl
  rfl

/-- Whether the value of a setting is one that a gateway can work by. -/
def IsSound (c : Config) : SettingName → Prop
  | .bindAddress => SocketAddress.ofText? c.listener.bindAddress ≠ none
  | .base who => ∃ url, Url.ofText (c.bases.get who) = .ok url ∧ url.scheme = "http" ∧
      url.host ≠ none ∧ url.isBare
  | .allowedOrigins => c.cors.allowedOrigins ≠ [] ∧ ∀ origin ∈ c.cors.allowedOrigins,
      origin ≠ "*" ∧ trimBlank origin.toList ≠ [] ∧ origin.toList.getLast? ≠ some '/'
  | .connectSecs => 0 < c.timeouts.connectSecs
  | .forwardSecs => 0 < c.timeouts.forwardSecs
  | .requestSecs => 0 < c.timeouts.requestSecs
  | .maxBodyBytes => 0 < c.limits.maxBodyBytes
  | .logFilter => True
  | .metrics => c.observability.metricsEnabled = false ∨
      SocketAddress.ofText? c.observability.metricsAddress ≠ none

theorem checkAddress_eq_nil_iff {value : String} :
    checkAddress value = [] ↔ SocketAddress.ofText? value ≠ none := by
  unfold checkAddress
  cases SocketAddress.ofText? value <;> simp

theorem checkPositive_eq_nil_iff {n : Nat} : checkPositive n = [] ↔ 0 < n := by
  unfold checkPositive
  split <;> simp <;> omega

theorem checkOrigin_eq_nil_iff {origin : String} : checkOrigin origin = [] ↔
    origin ≠ "*" ∧ trimBlank origin.toList ≠ [] ∧ origin.toList.getLast? ≠ some '/' := by
  unfold checkOrigin
  split
  next h => simp [h]
  next h =>
    have hsplit : (trimBlank origin.toList).isEmpty || origin.toList.getLast? = some '/' ↔
        ¬(trimBlank origin.toList ≠ [] ∧ origin.toList.getLast? ≠ some '/') := by
      simp only [Bool.or_eq_true, List.isEmpty_iff, decide_eq_true_eq]
      tauto
    split <;> simp_all

theorem complaintsOf_eq_nil_iff (c : Config) (s : SettingName) :
    c.complaintsOf s = [] ↔ c.IsSound s := by
  cases s with
  | bindAddress => exact checkAddress_eq_nil_iff
  | base who => exact checkBase_eq_nil_iff
  | allowedOrigins =>
    have hnone : (if c.cors.allowedOrigins.isEmpty then [Complaint.noOrigin] else []) = [] ↔
        c.cors.allowedOrigins ≠ [] := by simp
    rw [complaintsOf, checkOrigins, List.append_eq_nil_iff, hnone, List.flatMap_eq_nil_iff]
    simp only [checkOrigin_eq_nil_iff]
    rfl
  | logFilter => exact iff_of_true rfl trivial
  | metrics =>
    unfold complaintsOf IsSound checkMetrics
    cases c.observability.metricsEnabled with
    | false => simp
    | true => simp [checkAddress_eq_nil_iff]
  | _ => exact checkPositive_eq_nil_iff

/-- An origin alone in the list has the faults that it has among others. -/
theorem faults_origin (origin : String) : ({ cors := ⟨[origin]⟩ } : Config).faults =
    (checkOrigin origin).map (⟨"cors.allowed_origins", ·⟩) := by
  have honly : ({ cors := ⟨[origin]⟩ } : Config) =
      ({ cors := ⟨[origin]⟩ } : Config).only .allowedOrigins := rfl
  rw [honly, faults_only, faultsOf_eq, complaintsOf, checkOrigins, List.flatMap_singleton]
  rfl

theorem faults_eq_flatMap (c : Config) : c.faults = SettingName.checked.flatMap c.faultsOf := by
  rw [faults_eq]
  exact congrArg (SettingName.checked.flatMap ·) (funext fun s => (faultsOf_eq c s).symm)

/--
The faults of settings are those of each one alone, one after the other. There is nothing to the
settings but the values of these; what is reported for one is what is reported of settings that have
its value and the default for all others, and nothing exactly if it is sound; a list of origins has
the faults of each origin in its place, and one if it is empty; and settings are accepted exactly if
nothing is reported for any.
-/
theorem faults_separate (c : Config) :
    (∀ d, (.logFilter :: SettingName.checked).foldr (·.put c) d = c) ∧
    (∀ s, (c.only s).faultsOf s = c.faultsOf s ∧ (c.only s).faults = c.faultsOf s ∧
      (c.faultsOf s = [] ↔ c.IsSound s)) ∧
    c.faults = SettingName.checked.flatMap c.faultsOf ∧
    c.faultsOf .allowedOrigins =
      (if c.cors.allowedOrigins = [] then [⟨"cors.allowed_origins", .noOrigin⟩] else []) ++
        c.cors.allowedOrigins.flatMap (fun origin => ({ cors := ⟨[origin]⟩ } : Config).faults) ∧
    (c.validate = .ok c ↔ ∀ s, c.faultsOf s = []) ∧
    (c.validate = .ok c ∨ c.validate = .error (.validation c.faults)) := by
  refine ⟨SettingName.put_all c, fun s => ⟨?_, faults_only c s, ?_⟩, faults_eq_flatMap c,
    ?_, ?_, ?_⟩
  · rw [faultsOf_eq, faultsOf_eq, complaintsOf_only, if_pos rfl]
  · rw [faultsOf_eq, List.map_eq_nil_iff, complaintsOf_eq_nil_iff]
  · rw [faultsOf_eq, complaintsOf, checkOrigins, List.map_append, List.map_flatMap]
    congr 1
    · cases c.cors.allowedOrigins <;> rfl
    · exact congrArg (c.cors.allowedOrigins.flatMap ·) (funext fun o => (faults_origin o).symm)
  · rw [validate_eq_ok_iff, and_iff_left rfl]
    constructor
    · intro h s
      rw [faultsOf, h, List.filter_nil]
    · intro h
      rw [faults_eq_flatMap, List.flatMap_eq_nil_iff]
      exact fun s _ => h s
  · unfold validate
    split <;> simp

example :
    ({ bases := { node := "https://nodes.internal" }
       cors := ⟨["*", "a/", "b"]⟩
       timeouts := { forwardSecs := 0 }
       observability := { metricsAddress := "nowhere" } } : Config).faults =
      [⟨"upstreams.node", .badScheme "https"⟩, ⟨"cors.allowed_origins", .wildcardOrigin⟩,
       ⟨"cors.allowed_origins", .notOrigin "a/"⟩, ⟨"timeouts.forward_secs", .notPositive⟩] := by
  decide +kernel

end Config

end Gatehouse
