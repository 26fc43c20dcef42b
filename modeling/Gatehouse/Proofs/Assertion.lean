import Gatehouse.Proofs.Json.Writing
import Gatehouse.Proofs.OctetOrder
import Gatehouse.Proofs.Transform

namespace Gatehouse

/-- The members of an object with the identity under the name of its field. -/
def Members.asserted (field : String) (owner : Identity) (bindings : List (String × Json)) :
    Members :=
  (Members.ofList bindings).insert field (.string owner.text)

namespace Members

variable {field : String} {owner : Identity} {bindings : List (String × Json)}

theorem asserted_isSorted : (asserted field owner bindings).IsSorted :=
  (ofList_isSorted bindings).insert field _

/-- What the client has bound the field to makes no difference. -/
theorem asserted_congr {other : List (String × Json)}
    (h : ∀ name, name ≠ field → lastBound name other = lastBound name bindings) :
    asserted field owner other = asserted field owner bindings := by
  refine asserted_isSorted.ext asserted_isSorted fun name => ?_
  unfold asserted
  by_cases hname : name = field
  · subst hname
    rw [get?_insert_self, get?_insert_self]
  · rw [get?_insert_of_ne hname, get?_insert_of_ne hname, get?_ofList, get?_ofList, h name hname]

theorem IsSorted.octets_lt {members : Members} (h : members.IsSorted) :
    members.Pairwise fun x y => octetsOf x.1 < octetsOf y.1 :=
  List.Pairwise.imp octetsOf_lt h

end Members

namespace Json

variable {field : String} {owner : Identity} {bindings : List (String × Json)} {body : ByteArray}

theorem objectOfBytes?_of_isObject (h : IsObject bindings body) :
    objectOfBytes? body = some (Members.ofList bindings) := by
  rw [objectOfBytes?_eq, bindingsOfBytes?_eq_some_iff.mpr h, Option.map_some]

theorem objectOfBytes?_eq_none_iff :
    objectOfBytes? body = none ↔ ∀ bindings, ¬IsObject bindings body := by
  rw [objectOfBytes?_eq, Option.map_eq_none_iff, Option.eq_none_iff_forall_ne_some]
  exact forall_congr' fun bindings => not_congr bindingsOfBytes?_eq_some_iff

/-- The members with the identity are written as the text of an object with them. -/
theorem isObjectText_asserted {style : Style}
    (hwhole : ∀ x n, ofNumeral? x = some (.whole n) → style.numeral x (.whole n))
    (h : IsObject bindings body)
    (hfloat : (Json.object (Members.asserted field owner bindings)).HasFloat →
      ∀ x f, style.numeral x (.float f)) :
    style.IsObjectText (Members.asserted field owner bindings)
      (Json.object (Members.asserted field owner bindings)).text.toList := by
  obtain ⟨text, -, htext⟩ := h
  rw [Json.text, String.toList_ofList]
  refine isObjectText_written fun x hx => ?_
  rcases Members.mem_insert hx with rfl | hmem
  · exact writes_string _
  · exact writes_of_isObjectText hwhole htext (Members.mem_ofList hmem) fun hf =>
      hfloat (.object hx hf)

theorem objectOfBytes?_asserted (h : IsObject bindings body)
    (hfloat : ¬(Json.object (Members.asserted field owner bindings)).HasFloat) :
    objectOfBytes? (Json.object (Members.asserted field owner bindings)).bytes =
      some (Members.asserted field owner bindings) := by
  have hobject : IsObject (Members.asserted field owner bindings)
      (Json.object (Members.asserted field owner bindings)).bytes :=
    ⟨_, rfl, isObjectText_asserted (fun _ _ hx => hx) h fun hf => absurd hf hfloat⟩
  rw [objectOfBytes?_of_isObject hobject, Members.ofList_of_isSorted Members.asserted_isSorted]

end Json

section

variable {field : String} {owner : Identity} {bindings : List (String × Json)} {body : ByteArray}

theorem assertIdentity_of_not_isObject (h : ∀ bindings, ¬Json.IsObject bindings body)
    (id : Option Identity) : assertIdentity field id body = .error .invalidPayload := by
  unfold assertIdentity
  rw [Json.objectOfBytes?_eq_none_iff.mpr h]

theorem assertIdentity_none_of_isObject (h : Json.IsObject bindings body) :
    assertIdentity field none body = .error .identityUnavailable := by
  unfold assertIdentity
  rw [Json.objectOfBytes?_of_isObject h]

theorem assertIdentity_of_isObject (h : Json.IsObject bindings body) :
    assertIdentity field (some owner) body =
      .ok (Json.object (Members.asserted field owner bindings)).text.toUTF8 := by
  unfold assertIdentity
  rw [Json.objectOfBytes?_of_isObject h]
  rfl

variable {id : Option Identity}

theorem assertIdentity_invalidPayload_iff :
    assertIdentity field id body = .error .invalidPayload ↔
      ∀ bindings, ¬Json.IsObject bindings body := by
  refine ⟨fun h bindings hb => ?_, fun h => assertIdentity_of_not_isObject h id⟩
  cases id with
  | none =>
    rw [assertIdentity_none_of_isObject hb] at h
    cases h
  | some owner =>
    rw [assertIdentity_of_isObject hb] at h
    cases h

theorem assertIdentity_identityUnavailable_iff :
    assertIdentity field id body = .error .identityUnavailable ↔
      id = none ∧ ∃ bindings, Json.IsObject bindings body := by
  constructor
  · intro h
    have hobject : ∃ bindings, Json.IsObject bindings body := by
      refine Classical.byContradiction fun hn => ?_
      rw [assertIdentity_of_not_isObject (not_exists.mp hn)] at h
      cases h
    obtain ⟨bindings, hb⟩ := hobject
    cases id with
    | none => exact ⟨rfl, bindings, hb⟩
    | some owner =>
      rw [assertIdentity_of_isObject hb] at h
      cases h
  · rintro ⟨rfl, bindings, hb⟩
    exact assertIdentity_none_of_isObject hb

end

/--
The identity is asserted in every text of an object and in nothing else. What comes of it is the
text of one object without blanks, whose names are in the order of their octets: the field stands
for the identity, and every other name for what the client has bound it to last. It is read as that
object again, floats aside. So what the client has written for the field is lost.
-/
theorem assertIdentity_prevails (field : String) (id : Option Identity) (body : ByteArray) :
    (assertIdentity field id body = .error .invalidPayload ↔
      ∀ bindings, ¬Json.IsObject bindings body) ∧
    (assertIdentity field id body = .error .identityUnavailable ↔
      id = none ∧ ∃ bindings, Json.IsObject bindings body) ∧
    ∀ owner bindings, id = some owner → Json.IsObject bindings body →
      let held := Members.ofList bindings
      let members := held.insert field (.string owner.text)
      Json.objectOfBytes? body = some held ∧
        ∃ text : String, assertIdentity field id body = .ok text.toUTF8 ∧
          Json.Style.compact.IsObjectText members text.toList ∧
          members.Pairwise (fun x y => octetsOf x.1 < octetsOf y.1) ∧
          (∀ v, (field, v) ∈ members ↔ v = .string owner.text) ∧
          (∀ name v, name ≠ field → ((name, v) ∈ members ↔ lastBound name bindings = some v)) ∧
          (¬(Json.object members).HasFloat → Json.objectOfBytes? text.toUTF8 = some members) ∧
          ∀ other body', Json.IsObject other body' →
            (∀ name, name ≠ field → lastBound name other = lastBound name bindings) →
            assertIdentity field id body' = .ok text.toUTF8 := by
  refine ⟨assertIdentity_invalidPayload_iff, assertIdentity_identityUnavailable_iff, ?_⟩
  rintro owner bindings rfl hb held members
  have hsorted : members.IsSorted := Members.asserted_isSorted
  refine ⟨Json.objectOfBytes?_of_isObject hb, (Json.object members).text,
    assertIdentity_of_isObject hb, Json.isObjectText_asserted (fun _ _ hx => Or.inl hx) hb
      (fun _ _ f => Or.inr ⟨f, rfl⟩), hsorted.octets_lt, fun v => ?_, fun name v hname => ?_,
    Json.objectOfBytes?_asserted hb, fun other body' hb' hagree => ?_⟩
  · have hget : members.get? field = some (.string owner.text) := Members.get?_insert_self _ _ _
    rw [hsorted.mem_iff, hget, Option.some_inj, eq_comm]
  · have hget : members.get? name = lastBound name bindings :=
      (Members.get?_insert_of_ne hname _ _).trans (Members.get?_ofList _ _)
    rw [hsorted.mem_iff, hget]
  · rw [assertIdentity_of_isObject hb', Members.asserted_congr hagree]
    rfl

/-- A text that binds the field twice, once by an escape, and once more further down. -/
def disguised : String :=
  "\x7b\"\\u0075\":1, \"n\":\x7b\"u\":\"x\"\x7d, \"u\":\"victim\"\x7d"

theorem isObject_disguised : Json.IsObject [("u", .whole 1), ("n", .object [("u", .string "x")]),
    ("u", .string "victim")] disguised.toUTF8 := by
  refine ⟨disguised, rfl, Json.bindings?_eq_some_iff.mp ?_⟩
  simp only [disguised, String.reduceToList]
  rfl

theorem isObject_plain : Json.IsObject [("n", .object [("u", .string "x")])]
    "\x7b\"n\":\x7b\"u\":\"x\"\x7d\x7d".toUTF8 := by
  refine ⟨_, rfl, Json.bindings?_eq_some_iff.mp ?_⟩
  simp only [String.reduceToList]
  rfl

theorem assertIdentity_prevails_disguised :
    ∃ text : String, assertIdentity "u" (some ⟨"u1"⟩) disguised.toUTF8 = .ok text.toUTF8 ∧
      Json.objectOfBytes? text.toUTF8 =
        some [("n", .object [("u", .string "x")]), ("u", .string "u1")] ∧
      assertIdentity "u" (some ⟨"u1"⟩) "\x7b\"n\":\x7b\"u\":\"x\"\x7d\x7d".toUTF8 =
        .ok text.toUTF8 := by
  obtain ⟨-, text, hout, -, -, -, -, hread, hsame⟩ :=
    (assertIdentity_prevails "u" (some ⟨"u1"⟩) disguised.toUTF8).2.2 _ _ rfl isObject_disguised
  refine ⟨text, hout, hread ?_, hsame _ _ isObject_plain fun name hname => ?_⟩
  · change ¬(Json.object [("n", .object [("u", .string "x")]), ("u", .string "u1")]).HasFloat
    simp
  · simp [lastBound, Ne.symm hname]

end Gatehouse
