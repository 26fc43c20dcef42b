import Mathlib.Algebra.BigOperators.Finprod
import Gatehouse.Proofs.Cutting
import Gatehouse.Proofs.Digits
import Gatehouse.Proofs.Series

namespace Gatehouse

namespace Event

/-- A character of a label's value, as it is shown. -/
def escape (c : Char) : List Char :=
  if c = '"' then ['\\', '"'] else if c = '\\' then ['\\', '\\']
  else if c = '\n' then ['\\', 'n'] else [c]

theorem toList_quoteLabel (value : String) :
    (quoteLabel value).toList = '"' :: (value.toList.flatMap escape ++ ['"']) :=
  String.toList_ofList

theorem escape_append_ne (c : Char) (xs ys : List Char) : escape c ++ xs ≠ '"' :: ys := by
  unfold escape
  grind

theorem escape_append_inj {c d : Char} {xs ys : List Char}
    (h : escape c ++ xs = escape d ++ ys) : c = d ∧ xs = ys := by
  unfold escape at h
  grind

/-- A value that is followed by a quote is read back with what is behind it. -/
theorem flatMap_escape_inj {cs ds xs ys : List Char}
    (h : cs.flatMap escape ++ '"' :: xs = ds.flatMap escape ++ '"' :: ys) : cs = ds ∧ xs = ys := by
  induction cs generalizing ds with
  | nil =>
    cases ds with
    | nil => exact ⟨rfl, (List.cons.inj h).2⟩
    | cons d ds =>
      rw [List.flatMap_cons, List.append_assoc] at h
      exact absurd h.symm (escape_append_ne d _ _)
  | cons c cs ih =>
    cases ds with
    | nil =>
      rw [List.flatMap_cons, List.append_assoc] at h
      exact absurd h (escape_append_ne c _ _)
    | cons d ds =>
      rw [List.flatMap_cons, List.flatMap_cons, List.append_assoc, List.append_assoc] at h
      obtain ⟨rfl, hrest⟩ := escape_append_inj h
      obtain ⟨rfl, hxs⟩ := ih hrest
      exact ⟨rfl, hxs⟩

theorem quoteLabel_append_inj {a b : String} {xs ys : List Char}
    (h : (quoteLabel a).toList ++ xs = (quoteLabel b).toList ++ ys) : a = b ∧ xs = ys := by
  rw [toList_quoteLabel, toList_quoteLabel, List.cons_append, List.cons_append,
    List.append_assoc, List.append_assoc] at h
  obtain ⟨htext, hrest⟩ := flatMap_escape_inj (List.cons.inj h).2
  exact ⟨String.toList_injective htext, hrest⟩

/-- A label with its value, as it is shown. -/
def labelText (label : String × String) : List Char :=
  label.1.toList ++ '=' :: (quoteLabel label.2).toList

theorem labelText_append_inj {key a b : String} {xs ys : List Char}
    (h : labelText (key, a) ++ xs = labelText (key, b) ++ ys) : a = b ∧ xs = ys := by
  unfold labelText at h
  rw [List.append_assoc, List.append_assoc] at h
  exact quoteLabel_append_inj (List.cons.inj (List.append_cancel_left h)).2

theorem joinWith_labelText_cons (label : String × String) {labels : List (String × String)}
    (h : labels ≠ []) (ending : List Char) :
    joinWith [','] ((label :: labels).map labelText) ++ ending =
      labelText label ++ ([','] ++ (joinWith [','] (labels.map labelText) ++ ending)) := by
  rw [List.map_cons, joinWith_cons_of_ne_nil _ _ (by simpa using h), List.append_assoc,
    List.append_assoc]

theorem joinWith_labelText_inj {labels others : List (String × String)} {ending : List Char}
    (hkeys : labels.map Prod.fst = others.map Prod.fst)
    (h : joinWith [','] (labels.map labelText) ++ ending =
      joinWith [','] (others.map labelText) ++ ending) : labels = others := by
  induction labels generalizing others with
  | nil => exact (List.map_eq_nil_iff.mp hkeys.symm).symm
  | cons label labels ih =>
    obtain ⟨⟨key', value'⟩, rest, rfl, hkey, hrest⟩ := List.map_eq_cons_iff.mp hkeys.symm
    obtain ⟨key, value⟩ := label
    obtain rfl : key' = key := hkey
    cases labels with
    | nil =>
      obtain rfl : rest = [] := List.map_eq_nil_iff.mp hrest
      rw [(labelText_append_inj h).1]
    | cons next labels =>
      have hsome : rest ≠ [] := by
        rintro rfl
        cases hrest
      rw [joinWith_labelText_cons _ (List.cons_ne_nil next labels),
        joinWith_labelText_cons _ hsome] at h
      obtain ⟨rfl, hbehind⟩ := labelText_append_inj h
      rw [ih hrest.symm (List.append_cancel_left hbehind)]

theorem toList_seriesText (name : String) (labels : List (String × String)) :
    (seriesText name labels).toList =
      name.toList ++ '{' :: (joinWith [','] (labels.map labelText) ++ ['}']) := by
  have hlabels (label : String × String) :
      (label.1 ++ "=" ++ quoteLabel label.2).toList = labelText label := by
    simp [labelText]
  simp only [seriesText, String.toList_append, String.toList_intercalate, List.map_map,
    intercalate_eq_joinWith, Function.comp_def, hlabels, List.append_assoc]
  rfl

/-- What has the same name and the same labels, and is shown alike, has the same values. -/
theorem seriesText_inj {name : String} {labels others : List (String × String)}
    (hkeys : labels.map Prod.fst = others.map Prod.fst)
    (h : seriesText name labels = seriesText name others) : labels = others := by
  have htext := congrArg String.toList h
  rw [toList_seriesText, toList_seriesText] at htext
  exact joinWith_labelText_inj hkeys (List.cons.inj (List.append_cancel_left htext)).2

/-- Names that differ in their first characters are enough to tell what is shown apart. -/
theorem seriesText_ne {name other : String} (n : Nat) (hname : n ≤ name.toList.length)
    (hother : n ≤ other.toList.length) (h : name.toList.take n ≠ other.toList.take n)
    (labels others : List (String × String)) :
    seriesText name labels ≠ seriesText other others := by
  have htake {name : String} (hname : n ≤ name.toList.length) (labels : List (String × String)) :
      (seriesText name labels).toList.take n = name.toList.take n := by
    rw [toList_seriesText, List.take_append_of_le_length hname]
  intro heq
  refine h ?_
  rw [← htake hname labels, ← htake hother others, heq]

end Event

/-- The text of the series that requests with these labels are counted in. -/
def requestSeries (labels : Labels) : String :=
  Event.seriesText "gateway_requests_total"
    [("method", labels.1.token), ("status", decimalText labels.2.1.code), ("route", labels.2.2)]

/-- The text of the series that counts how often the time for a route was taken. -/
def durationSeries (route : String) : String :=
  Event.seriesText "gateway_request_duration_seconds_count" [("route", route)]

/-- The text of the series that session checks with this outcome are counted in. -/
def checkSeries (outcome : SessionOutcome) : String :=
  Event.seriesText "gateway_session_checks_total" [("outcome", outcome.label)]

theorem decimalText_injective : Function.Injective decimalText := by
  intro n m h
  have hdigits : decimal n = decimal m := by
    rw [← String.toList_ofList (l := decimal n), ← String.toList_ofList (l := decimal m)]
    exact congrArg String.toList h
  have hn : numberIn? 10 (decimal n) = some n := numberIn?_digitsIn (by omega) (by omega) n
  have hm : numberIn? 10 (decimal m) = some m := numberIn?_digitsIn (by omega) (by omega) m
  rw [hdigits] at hn
  exact Option.some.inj (hn.symm.trans hm)

theorem SessionOutcome.label_injective : Function.Injective label := by
  intro a b h
  cases a <;> cases b <;> first | rfl | exact absurd h (by decide)

@[simp] theorem requestSeries_inj {labels others : Labels} :
    requestSeries labels = requestSeries others ↔ labels = others := by
  refine ⟨fun h => ?_, congrArg requestSeries⟩
  obtain ⟨⟨_⟩, ⟨_⟩, _⟩ := labels
  obtain ⟨⟨_⟩, ⟨_⟩, _⟩ := others
  unfold requestSeries at h
  have hlabels := Event.seriesText_inj (by rfl) h
  simp only [List.cons.injEq, Prod.mk.injEq, true_and, and_true] at hlabels
  obtain ⟨rfl, hcode, rfl⟩ := hlabels
  obtain rfl := decimalText_injective hcode
  rfl

@[simp] theorem durationSeries_inj {route other : String} :
    durationSeries route = durationSeries other ↔ route = other := by
  refine ⟨fun h => ?_, congrArg durationSeries⟩
  unfold durationSeries at h
  simpa using Event.seriesText_inj (by rfl) h

@[simp] theorem checkSeries_inj {outcome other : SessionOutcome} :
    checkSeries outcome = checkSeries other ↔ outcome = other := by
  refine ⟨fun h => SessionOutcome.label_injective ?_, congrArg checkSeries⟩
  unfold checkSeries at h
  simpa using Event.seriesText_inj (by rfl) h

@[simp] theorem requestSeries_ne_durationSeries (labels : Labels) (route : String) :
    requestSeries labels ≠ durationSeries route :=
  Event.seriesText_ne 16 (by decide) (by decide) (by decide) _ _

@[simp] theorem requestSeries_ne_checkSeries (labels : Labels) (outcome : SessionOutcome) :
    requestSeries labels ≠ checkSeries outcome :=
  Event.seriesText_ne 16 (by decide) (by decide) (by decide) _ _

@[simp] theorem durationSeries_ne_checkSeries (route : String) (outcome : SessionOutcome) :
    durationSeries route ≠ checkSeries outcome :=
  Event.seriesText_ne 16 (by decide) (by decide) (by decide) _ _

/-- The number that a series is shown with after these events. -/
def total (events : List Event) (text : String) : Nat := (events.flatMap Event.series).count text

/-- What is shown is each series that was counted at all, with its number. -/
theorem mem_metricLines_iff {events : List Event} {line : String} :
    line ∈ metricLines events ↔
      ∃ text, 0 < total events text ∧ line = text ++ " " ++ decimalText (total events text) := by
  unfold metricLines
  rw [List.mem_mergeSort, List.mem_map]
  refine exists_congr fun text => and_congr ?_ eq_comm
  rw [List.mem_eraseDups, total, List.count_pos_iff]

namespace Event

/-- The route that a request is counted for. -/
def route? (e : Event) : Option String := e.labels?.map fun labels => labels.2.2

/-- How a session check that is counted ended. -/
def outcome? : Event → Option SessionOutcome
  | .request .. => none
  | .sessionCheck outcome => some outcome

/-- A request that is counted under these labels. -/
def ofLabels (labels : Labels) : Event := .request labels.1 labels.2.1 labels.2.2

theorem series_request (m : Method) (s : Status) (route : String) :
    (request m s route).series = [requestSeries (m, s, route), durationSeries route] := rfl

theorem series_sessionCheck (outcome : SessionOutcome) :
    (sessionCheck outcome).series = [checkSeries outcome] := rfl

theorem count_requestSeries (e : Event) (labels : Labels) :
    e.series.count (requestSeries labels) = e.labels?.toList.count labels := by
  cases e with
  | request m s route =>
    rw [series_request]
    simp [List.count_cons, labels?, Ne.symm]
  | sessionCheck outcome =>
    rw [series_sessionCheck]
    simp [labels?, Ne.symm]

theorem count_durationSeries (e : Event) (route : String) :
    e.series.count (durationSeries route) = e.route?.toList.count route := by
  cases e with
  | request m s route =>
    rw [series_request]
    simp [List.count_cons, route?, labels?]
  | sessionCheck outcome =>
    rw [series_sessionCheck]
    simp [route?, labels?, Ne.symm]

theorem count_checkSeries (e : Event) (outcome : SessionOutcome) :
    e.series.count (checkSeries outcome) = e.outcome?.toList.count outcome := by
  cases e with
  | request m s route =>
    rw [series_request]
    simp [outcome?]
  | sessionCheck outcome =>
    rw [series_sessionCheck]
    simp [List.count_cons, outcome?]

end Event

/-- Where each event is counted once under its key, the number of a key is how often it came. -/
theorem total_eq_count {α : Type} [BEq α] {key? : Event → Option α} {text : α → String}
    (h : ∀ e x, e.series.count (text x) = (key? e).toList.count x) (events : List Event) (x : α) :
    total events (text x) = (events.filterMap key?).count x := by
  unfold total
  induction events with
  | nil => rfl
  | cons e events ih =>
    rw [List.flatMap_cons, List.count_append, ih, h, ← List.count_append]
    cases hk : key? e <;> simp [hk]

theorem total_durationSeries (events : List Event) (route : String) :
    total events (durationSeries route) =
      (events.filterMap Event.labels?).countP (·.2.2 = route) := by
  have hroutes : events.filterMap Event.route? =
      (events.filterMap Event.labels?).map (·.2.2) := List.map_filterMap.symm
  rw [total_eq_count Event.count_durationSeries, hroutes, List.count_eq_countP, List.countP_map]
  exact List.countP_congr fun labels _ => by simp

/-- There are no series but those of the three kinds. -/
theorem exists_of_total_pos {events : List Event} {text : String} (h : 0 < total events text) :
    (∃ labels ∈ events.filterMap Event.labels?,
        text = requestSeries labels ∨ text = durationSeries labels.2.2) ∨
      ∃ outcome ∈ events.filterMap Event.outcome?, text = checkSeries outcome := by
  obtain ⟨e, he, htext⟩ := List.mem_flatMap.mp (List.count_pos_iff.mp h)
  cases e with
  | request m s route =>
    refine Or.inl ⟨(m, s, route), List.mem_filterMap.mpr ⟨_, he, rfl⟩, ?_⟩
    simpa [Event.series_request] using htext
  | sessionCheck outcome =>
    refine Or.inr ⟨outcome, List.mem_filterMap.mpr ⟨_, he, rfl⟩, ?_⟩
    simpa [Event.series_sessionCheck] using htext

theorem finsum_count {α : Type} [BEq α] [LawfulBEq α] (xs : List α) :
    ∑ᶠ x, xs.count x = xs.length := by
  classical
  have hcount (x : α) : xs.count x = xs.countP (· = x) :=
    List.countP_congr fun y _ => by simp
  have hsum : ∑ x ∈ xs.toFinset, xs.countP (· = x) = xs.length :=
    List.sum_toFinset_count_eq_length xs
  simp only [hcount]
  rw [finsum_eq_sum_of_support_subset (s := xs.toFinset), hsum]
  intro x hx
  rw [Function.mem_support, ← hcount] at hx
  exact List.mem_toFinset.mpr (List.count_pos_iff.mp (Nat.pos_of_ne_zero hx))

/-- What is counted for a route is the sum over methods and statuses. -/
theorem finsum_count_route (counted : List Labels) (route : String) :
    ∑ᶠ x : Method × Status, counted.count (x.1, x.2, route) =
      counted.countP (·.2.2 = route) := by
  have hcount (x : Method × Status) : counted.count (x.1, x.2, route) =
      ((counted.filter (·.2.2 = route)).map fun labels => (labels.1, labels.2.1)).count x := by
    rw [List.count_eq_countP, List.count_eq_countP, List.countP_map, List.countP_filter]
    refine List.countP_congr fun labels _ => ?_
    simp [Prod.ext_iff, and_assoc]
  simp only [hcount]
  rw [finsum_count, List.length_map, List.countP_eq_length_filter]

end Gatehouse
