import Gatehouse.Proofs.Entries
import Gatehouse.Proofs.Fields
import Gatehouse.Proofs.Hosts
import Gatehouse.Proofs.Serve
import Gatehouse.Proofs.Visible

namespace Gatehouse

/-- The addresses that there are: four octets, or eight groups of sixteen bits. -/
def IpAddress.IsLegal : IpAddress → Prop
  | v4 a b c d => a < 256 ∧ b < 256 ∧ c < 256 ∧ d < 256
  | v6 groups => groups.length = 8 ∧ ∀ g ∈ groups, g < 65536

instance : DecidablePred IpAddress.IsLegal := fun ip => by
  cases ip <;> unfold IpAddress.IsLegal <;> infer_instance

/-- The characters that an address is written with. -/
def isAddressChar (c : Char) : Bool := c == '.' || c == ':' || c.isAlphanum

theorem isAddressChar_lt {c : Char} (h : isAddressChar c) : c.toNat < 128 := by
  simp only [isAddressChar, Bool.or_eq_true, beq_iff_eq] at h
  rcases h with (rfl | rfl) | h
  · decide
  · decide
  · exact isAlphanum_lt h

theorem isAddressChar_spec {c : Char} (h : isAddressChar c) :
    isVisibleChar c ∧ isBlank c = false ∧ c ≠ ',' :=
  forall_ascii (P := fun c => isAddressChar c → isVisibleChar c ∧ isBlank c = false ∧ c ≠ ',')
    (by decide +kernel) (isAddressChar_lt h) h

theorem compressedText_ne_nil {groups : List Nat} (h : groups.length = 8) :
    (compressedText groups).toList ≠ [] := by
  unfold compressedText
  dsimp only
  split
  · have hcolons := count_groupsText groups
    rw [h] at hcolons
    intro he
    rw [he] at hcolons
    cases hcolons
  · simp

namespace IpAddress

variable {ip : IpAddress}

theorem IsLegal.text_chars (h : ip.IsLegal) : ∀ c ∈ ip.text.toList, isAddressChar c := by
  have hdotted {a b c d : Nat} : ∀ x ∈ (dottedText a b c d).toList, isAddressChar x := by
    intro x hx
    rcases dottedText_chars a b c d x hx with rfl | hx
    · decide
    · simp [isAddressChar, hx]
  unfold text
  split
  · exact hdotted
  · intro c hc
    rw [String.toList_append] at hc
    rcases List.mem_append.mp hc with hc | hc
    · exact List.all_eq_true.mp (by decide : "::ffff:".toList.all isAddressChar) c hc
    · exact hdotted c hc
  · intro c hc
    rcases (compressedText_chars (Nat.le_of_eq h.1)).1 c hc with rfl | hc
    · decide
    · simp [isAddressChar, hc]

theorem IsLegal.text_ne_nil (h : ip.IsLegal) : ip.text.toList ≠ [] := by
  unfold text
  split
  · exact dottedText_ne_nil _ _ _ _
  · simp
  · exact compressedText_ne_nil h.1

theorem IsLegal.isVisible_text (h : ip.IsLegal) : IsVisible ip.text.toList := fun c hc =>
  (isAddressChar_spec (h.text_chars c hc)).1

/-- An address is one entry of a list of addresses. -/
theorem IsLegal.entries_text (h : ip.IsLegal) : entries ',' ip.text.toList = [ip.text.toList] :=
  entries_singleton (fun hm => (isAddressChar_spec (h.text_chars _ hm)).2.2 rfl) h.text_ne_nil
    fun c hc => (isAddressChar_spec (h.text_chars c hc)).2.1

end IpAddress

namespace Headers

/-- The addresses listed in the fields of this kind that can be read, in order. -/
def forwardedFor (h : Headers) : List (List Char) :=
  ((h.all .forwardedFor).filterMap HeaderValue.chars?).flatMap (entries ',')

/-- The addresses listed in the first field of this kind, if that can be read. -/
def firstForwardedFor (h : Headers) : List (List Char) :=
  ((h.first? .forwardedFor).bind HeaderValue.chars?).elim [] (entries ',')

/-- The addresses listed in the fields of this kind behind the first. -/
def laterForwardedFor (h : Headers) : List (List Char) :=
  ((h.all .forwardedFor).tail.filterMap HeaderValue.chars?).flatMap (entries ',')

theorem forwardedFor_eq (h : Headers) :
    h.forwardedFor = h.firstForwardedFor ++ h.laterForwardedFor := by
  unfold forwardedFor firstForwardedFor laterForwardedFor first?
  cases h.all .forwardedFor with
  | nil => rfl
  | cons v rest => cases hv : v.chars? <;> simp [hv]

theorem forwardedForText_spec (h : Headers) {ip : IpAddress} (hip : ip.IsLegal) :
    let text := forwardedForText (h.text? .forwardedFor) ip
    IsVisible text.toList ∧
      entries ',' text.toList = h.firstForwardedFor ++ [ip.text.toList] := by
  have halone : IsVisible ip.text.toList ∧ entries ',' ip.text.toList = [ip.text.toList] :=
    ⟨hip.isVisible_text, hip.entries_text⟩
  unfold forwardedForText firstForwardedFor text?
  cases hv : h.first? .forwardedFor with
  | none => exact halone
  | some v =>
    cases hc : v.chars? with
    | none => simpa [HeaderValue.text?, hc] using halone
    | some cs =>
      have htext : (some v).bind HeaderValue.text? = some (String.ofList cs) := by
        simp [HeaderValue.text?, hc]
      rw [htext, Option.bind_some, hc, Option.elim_some]
      dsimp only
      split
      next he =>
        have hnil : cs = [] := by simpa using he
        rw [hnil]
        exact halone
      next =>
        have hglue : ", ".toList = [',', ' '] := rfl
        rw [String.toList_append, String.toList_append, String.toList_ofList, hglue]
        refine ⟨?_, ?_⟩
        · exact ((HeaderValue.chars?_isVisible hc).append (by decide)).append hip.isVisible_text
        · rw [entries_append (by decide), hip.entries_text]

/-- The fields of this kind become one, with the client behind the addresses of the first. -/
theorem all_withForwardedFor (h : Headers) {ip : IpAddress} (hip : ip.IsLegal) :
    ∃ v listed, (h.withForwardedFor (some ip)).all .forwardedFor = [v] ∧ v.chars? = some listed ∧
      entries ',' listed = h.firstForwardedFor ++ [ip.text.toList] := by
  obtain ⟨hvisible, hentries⟩ := h.forwardedForText_spec hip
  obtain ⟨v, hv⟩ := HeaderValue.ofText?_of_isVisible hvisible
  have hchars := HeaderValue.chars?_of_octets (HeaderValue.octets_of_ofText? hv) hvisible
  refine ⟨v, _, ?_, hchars, hentries⟩
  unfold withForwardedFor
  dsimp only
  rw [hv]
  dsimp only
  rw [set, all_add_self, all_remove_self, List.nil_append]

theorem firstForwardedFor_remove_host (h : Headers) :
    (h.remove .host).firstForwardedFor = h.firstForwardedFor := by
  rw [firstForwardedFor, first?, all_remove_of_ne h (by decide), firstForwardedFor, first?]

/-- One field with the addresses that the request came by as far as its first field tells. -/
theorem forwardedFor_sentOn (h : Headers) {ip : IpAddress} (hip : ip.IsLegal) :
    (∃ v, (h.sentOn (some ip)).all .forwardedFor = [v]) ∧
      (h.sentOn (some ip)).forwardedFor =
        h.stripHopByHop.firstForwardedFor ++ [ip.text.toList] := by
  obtain ⟨v, listed, hall, hchars, hentries⟩ :=
    (h.stripHopByHop.remove .host).all_withForwardedFor hip
  rw [firstForwardedFor_remove_host] at hentries
  rw [sentOn, forwardedFor, hall, ← hentries]
  exact ⟨⟨v, rfl⟩, by simp [hchars]⟩

end Headers

namespace Forwarder

/--
A request that is sent on for a client has one field for the addresses that it has come by: those of
the first such field that is not for one connection only, and the client's behind them. They are all
addresses of the request, with the client's behind them, exactly if the fields behind the first have
none.
-/
theorem forward_forwardedFor {σ : Type} (fw : Forwarder) (target : Collaborator) (r : Request)
    {ip : IpAddress} (hip : ip.IsLegal) (answer : σ → Call → Outcome × σ) (s : σ) :
    let kept := r.headers.stripHopByHop
    ∃ c o, ((fw.forward target r (some ip)).run answer s).asked = [(c, o)] ∧
      (∃ v, c.headers.all .forwardedFor = [v]) ∧
      c.headers.forwardedFor = kept.firstForwardedFor ++ [ip.text.toList] ∧
      (c.headers.forwardedFor = kept.forwardedFor ++ [ip.text.toList] ↔
        kept.laterForwardedFor = []) := by
  intro kept
  have hheaders : (fw.call target r.target.forwarded r (some ip)).headers =
      r.headers.sentOn (some ip) := by
    dsimp only [call]
  obtain ⟨hone, hlisted⟩ := r.headers.forwardedFor_sentOn hip
  rw [← hheaders] at hone hlisted
  refine ⟨fw.call target r.target.forwarded r (some ip), _, rfl, hone, hlisted, ?_⟩
  rw [hlisted, kept.forwardedFor_eq, List.append_left_inj, List.self_eq_append_right]

/-- A request that came by the addresses of these fields. -/
def passedOn (fields : List HeaderValue) : Request where
  method := .get
  target := .resource ⟨"/p", none⟩
  headers := fields.foldl (·.add .forwardedFor ·) .empty
  body := .empty

/-- The address in the second field is lost. -/
theorem forwardedFor_truncated :
    let r := passedOn [⟨octetsOf "10.0.0.1", by decide⟩, ⟨octetsOf "10.0.0.2", by decide⟩]
    let run := ((Gateway.sample 60000).forwarder.forward .backend r
      (some (.v4 10 0 0 9))).run Outcome.scripted []
    r.headers.stripHopByHop.forwardedFor = ["10.0.0.1".toList, "10.0.0.2".toList] ∧
      run.asked.map (·.1.headers.forwardedFor) = [["10.0.0.1".toList, "10.0.0.9".toList]] := by
  decide +kernel

/-- The field behind the first has no address in it, so none is lost. -/
theorem forward_forwardedFor_blank :
    let r := passedOn [⟨octetsOf " 10.0.0.1,,10.0.0.2 ,", by decide⟩, ⟨octetsOf " ,", by decide⟩]
    let run := ((Gateway.sample 60000).forwarder.forward .backend r
      (some (.v6 [0, 0, 0, 0, 0, 0, 0, 1]))).run Outcome.scripted []
    run.asked.map (·.1.headers.forwardedFor) =
      [r.headers.stripHopByHop.forwardedFor ++ ["::1".toList]] := by
  intro r run
  have hlegal : IpAddress.IsLegal (.v6 [0, 0, 0, 0, 0, 0, 0, 1]) := by decide
  obtain ⟨c, o, hasked, -, -, hall⟩ :=
    (Gateway.sample 60000).forwarder.forward_forwardedFor .backend r hlegal Outcome.scripted []
  have hlater : r.headers.stripHopByHop.laterForwardedFor = [] := by decide +kernel
  have htext : (IpAddress.v6 [0, 0, 0, 0, 0, 0, 0, 1]).text.toList = "::1".toList := by
    decide +kernel
  rw [hasked, List.map_singleton, hall.mpr hlater, htext]

end Forwarder

end Gatehouse
