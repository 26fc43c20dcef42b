import Gatehouse.Program

namespace Gatehouse

namespace Program

variable {ε κ α β γ : Type}

/--
One way through a program: the events it notes, the questions it asks with the answers it gets, the
time it lets pass, and its result, or nothing where the program is left before its end.
-/
inductive Trace : Program ε κ α β → List ε → List (κ × α) → Nat → Option β → Prop where
  | left (p : Program ε κ α β) : Trace p [] [] 0 none
  | done (b : β) : Trace (.done b) [] [] 0 (some b)
  | note {e : ε} {next : Program ε κ α β} {es : List ε} {qs : List (κ × α)} {d : Nat}
      {b : Option β} (rest : Trace next es qs d b) : Trace (.note e next) (e :: es) qs d b
  | pause {ms : Nat} {next : Program ε κ α β} {es : List ε} {qs : List (κ × α)} {d : Nat}
      {b : Option β} (rest : Trace next es qs d b) : Trace (.pause ms next) es qs (ms + d) b
  | ask {q : κ} {next : α → Program ε κ α β} {a : α} {es : List ε} {qs : List (κ × α)} {d : Nat}
      {b : Option β} (rest : Trace (next a) es qs d b) : Trace (.ask q next) es ((q, a) :: qs) d b

theorem trace_run {σ : Type} (answer : σ → κ → α × σ) (p : Program ε κ α β) (s : σ) :
    ∃ d, Trace p (p.run answer s).events (p.run answer s).asked d
      (some (p.run answer s).result) := by
  induction p generalizing s with
  | done b => exact ⟨0, .done b⟩
  | note e next ih =>
    obtain ⟨d, h⟩ := ih s
    exact ⟨d, .note h⟩
  | pause ms next ih =>
    obtain ⟨d, h⟩ := ih s
    exact ⟨ms + d, .pause h⟩
  | ask q next ih =>
    obtain ⟨d, h⟩ := ih (answer s q).1 (answer s q).2
    exact ⟨d, .ask h⟩

/-- A chain is run part by part, the second where the first has left the one who answers. -/
theorem run_bind {σ : Type} (answer : σ → κ → α × σ) (p : Program ε κ α β)
    (f : β → Program ε κ α γ) (s : σ) :
    (p.bind f).run answer s =
      let first := p.run answer s
      let rest := (f first.result).run answer first.peer
      ⟨rest.result, rest.peer, first.events ++ rest.events, first.asked ++ rest.asked⟩ := by
  induction p generalizing s with
  | done b => rfl
  | note e next ih =>
    rw [Program.bind, run, ih]
    rfl
  | pause ms next ih => exact ih s
  | ask q next ih =>
    rw [Program.bind, run]
    dsimp only
    rw [ih]
    rfl

theorem bind_done (p : Program ε κ α β) : p.bind done = p := by
  induction p with
  | done b => rfl
  | note e next ih => exact congrArg (note e) ih
  | pause ms next ih => exact congrArg (pause ms) ih
  | ask q next ih => exact congrArg (ask q) (funext ih)

theorem bind_assoc {δ : Type} (p : Program ε κ α β) (f : β → Program ε κ α γ)
    (k : γ → Program ε κ α δ) : (p.bind f).bind k = p.bind fun b => (f b).bind k := by
  induction p with
  | done b => rfl
  | note e next ih => exact congrArg (note e) ih
  | pause ms next ih => exact congrArg (pause ms) ih
  | ask q next ih => exact congrArg (ask q) (funext ih)

/-- Whoever answers, the answers in a run are those given to its questions. -/
theorem answer_of_mem_asked {σ : Type} {answer : σ → κ → α × σ} {p : Program ε κ α β} {s : σ}
    {x : κ × α} (hx : x ∈ (p.run answer s).asked) : ∃ s', (answer s' x.1).1 = x.2 := by
  induction p generalizing s with
  | done b => cases hx
  | note e next ih | pause ms next ih => exact ih hx
  | ask q next ih =>
    rcases List.mem_cons.mp hx with rfl | hx
    · exact ⟨s, rfl⟩
    · exact ih _ hx

/-- Whether every event that a program can note is one of these. -/
def NotesOnly (P : ε → Prop) : Program ε κ α β → Prop
  | done _ => True
  | note e next => P e ∧ NotesOnly P next
  | pause _ next => NotesOnly P next
  | ask _ next => ∀ a, NotesOnly P (next a)

theorem NotesOnly.bind {P : ε → Prop} {p : Program ε κ α β} {f : β → Program ε κ α γ}
    (hp : NotesOnly P p) (hf : ∀ b, NotesOnly P (f b)) : NotesOnly P (p.bind f) := by
  induction p with
  | done b => exact hf b
  | note e next ih => exact ⟨hp.1, ih hp.2⟩
  | pause ms next ih => exact ih hp
  | ask q next ih => exact fun a => ih a (hp a)

theorem NotesOnly.via {κ' α' : Type} {P : ε → Prop} {answer : κ → Program ε κ' α' α}
    {p : Program ε κ α β} (hp : NotesOnly P p) (hanswer : ∀ q, NotesOnly P (answer q)) :
    NotesOnly P (p.via answer) := by
  induction p with
  | done b => trivial
  | note e next ih => exact ⟨hp.1, ih hp.2⟩
  | pause ms next ih => exact ih hp
  | ask q next ih => exact (hanswer q).bind fun a => ih a (hp a)

/-- Whether every question that a program can ask is one of these. -/
def AsksOnly (P : κ → Prop) : Program ε κ α β → Prop
  | done _ => True
  | note _ next => AsksOnly P next
  | pause _ next => AsksOnly P next
  | ask q next => P q ∧ ∀ a, AsksOnly P (next a)

theorem AsksOnly.bind {P : κ → Prop} {p : Program ε κ α β} {f : β → Program ε κ α γ}
    (hp : AsksOnly P p) (hf : ∀ b, AsksOnly P (f b)) : AsksOnly P (p.bind f) := by
  induction p with
  | done b => exact hf b
  | note e next ih => exact ih hp
  | pause ms next ih => exact ih hp
  | ask q next ih => exact ⟨hp.1, fun a => ih a (hp.2 a)⟩

theorem AsksOnly.via {κ' α' : Type} {P : κ' → Prop} {answer : κ → Program ε κ' α' α}
    (hanswer : ∀ q, AsksOnly P (answer q)) (p : Program ε κ α β) : AsksOnly P (p.via answer) := by
  induction p with
  | done b => trivial
  | note e next ih => exact ih
  | pause ms next ih => exact ih
  | ask q next ih => exact (hanswer q).bind ih

/-- Whether all that is left of a program is to note something. -/
def Rests : Program ε κ α β → Prop
  | done _ => True
  | note _ next => Rests next
  | pause _ _ => False
  | ask _ _ => False

/-- Whether a program rests after every answer to one of these questions. -/
def RestsAfter (P : κ → Prop) : Program ε κ α β → Prop
  | done _ => True
  | note _ next => RestsAfter P next
  | pause _ next => RestsAfter P next
  | ask q next => (P q → ∀ a, Rests (next a)) ∧ ∀ a, RestsAfter P (next a)

theorem Rests.restsAfter {p : Program ε κ α β} (hp : Rests p) (P : κ → Prop) :
    RestsAfter P p := by
  induction p with
  | done b => trivial
  | note e next ih => exact ih hp
  | pause | ask => cases hp

theorem Rests.bind {p : Program ε κ α β} {f : β → Program ε κ α γ} (hp : Rests p)
    (hf : ∀ b, Rests (f b)) : Rests (p.bind f) := by
  induction p with
  | done b => exact hf b
  | note e next ih => exact ih hp
  | pause | ask => cases hp

theorem RestsAfter.bind {P : κ → Prop} {p : Program ε κ α β} {f : β → Program ε κ α γ}
    (hp : RestsAfter P p) (hf : ∀ b, Rests (f b)) : RestsAfter P (p.bind f) := by
  induction p with
  | done b => exact (hf b).restsAfter P
  | note e next ih => exact ih hp
  | pause ms next ih => exact ih hp
  | ask q next ih => exact ⟨fun hq a => (hp.1 hq a).bind hf, fun a => ih a (hp.2 a)⟩

/-- What asks none of these questions goes on to what rests after them. -/
theorem AsksOnly.bind_restsAfter {P : κ → Prop} {p : Program ε κ α β}
    {f : β → Program ε κ α γ} (hp : AsksOnly (¬P ·) p) (hf : ∀ b, RestsAfter P (f b)) :
    RestsAfter P (p.bind f) := by
  induction p with
  | done b => exact hf b
  | note e next ih => exact ih hp
  | pause ms next ih => exact ih hp
  | ask q next ih => exact ⟨fun hq => absurd hq hp.1, fun a => ih a (hp.2 a)⟩

namespace Trace

variable {p : Program ε κ α β} {es : List ε} {qs : List (κ × α)} {d : Nat}

theorem done_inv {b : β} {c : Option β} (h : Trace (.done b : Program ε κ α β) es qs d c) :
    es = [] ∧ qs = [] ∧ d = 0 ∧ (c = none ∨ c = some b) := by
  cases h with
  | left => exact ⟨rfl, rfl, rfl, Or.inl rfl⟩
  | done => exact ⟨rfl, rfl, rfl, Or.inr rfl⟩

/-- A way through a chain is left in its first part or goes on from the result of that. -/
theorem bind_inv {f : β → Program ε κ α γ} {c : Option γ} (h : Trace (p.bind f) es qs d c) :
    (c = none ∧ Trace p es qs d none) ∨
      ∃ b es₁ es₂ qs₁ qs₂ d₁ d₂, Trace p es₁ qs₁ d₁ (some b) ∧ Trace (f b) es₂ qs₂ d₂ c ∧
        es = es₁ ++ es₂ ∧ qs = qs₁ ++ qs₂ ∧ d = d₁ + d₂ := by
  induction p generalizing es qs d with
  | done b => exact Or.inr ⟨b, [], es, [], qs, 0, d, .done b, h, rfl, rfl, by omega⟩
  | note e next ih =>
    cases h with
    | left => exact Or.inl ⟨rfl, .left _⟩
    | note rest =>
      rcases ih rest with ⟨hc, h⟩ | ⟨b, es₁, es₂, qs₁, qs₂, d₁, d₂, h₁, h₂, rfl, rfl, rfl⟩
      · exact Or.inl ⟨hc, .note h⟩
      · exact Or.inr ⟨b, e :: es₁, es₂, qs₁, qs₂, d₁, d₂, .note h₁, h₂, rfl, rfl, rfl⟩
  | pause ms next ih =>
    cases h with
    | left => exact Or.inl ⟨rfl, .left _⟩
    | pause rest =>
      rcases ih rest with ⟨hc, h⟩ | ⟨b, es₁, es₂, qs₁, qs₂, d₁, d₂, h₁, h₂, rfl, rfl, rfl⟩
      · exact Or.inl ⟨hc, .pause h⟩
      · exact Or.inr ⟨b, es₁, es₂, qs₁, qs₂, ms + d₁, d₂, .pause h₁, h₂, rfl, rfl, by omega⟩
  | ask q next ih =>
    cases h with
    | left => exact Or.inl ⟨rfl, .left _⟩
    | ask rest =>
      rcases ih _ rest with ⟨hc, h⟩ | ⟨b, es₁, es₂, qs₁, qs₂, d₁, d₂, h₁, h₂, rfl, rfl, rfl⟩
      · exact Or.inl ⟨hc, .ask h⟩
      · exact Or.inr ⟨b, es₁, es₂, (q, _) :: qs₁, qs₂, d₁, d₂, .ask h₁, h₂, rfl, rfl, rfl⟩

/-- A way to the end of a chain goes to the end of the first part, then on from its result. -/
theorem bind_some_inv {f : β → Program ε κ α γ} {c : γ}
    (h : Trace (p.bind f) es qs d (some c)) :
    ∃ b es₁ es₂ qs₁ qs₂ d₁ d₂, Trace p es₁ qs₁ d₁ (some b) ∧ Trace (f b) es₂ qs₂ d₂ (some c) ∧
      es = es₁ ++ es₂ ∧ qs = qs₁ ++ qs₂ ∧ d = d₁ + d₂ := by
  rcases h.bind_inv with ⟨hnone, _⟩ | hrest
  · cases hnone
  · exact hrest

theorem events {P : ε → Prop} {c : Option β} (h : Trace p es qs d c) (hp : NotesOnly P p) :
    ∀ e ∈ es, P e := by
  induction h with
  | left | done => simp
  | note _ ih => exact List.forall_mem_cons.mpr ⟨hp.1, ih hp.2⟩
  | pause _ ih => exact ih hp
  | @ask _ _ a _ _ _ _ _ ih => exact ih (hp a)

/-- Every way can be gone on with to the end, as long as some answer can be given. -/
theorem extend [Inhabited α] {c : Option β} (h : Trace p es qs d c) :
    ∃ es' qs' d' b, Trace p (es ++ es') (qs ++ qs') (d + d') (some b) := by
  induction h with
  | left p =>
    obtain ⟨d, h⟩ := trace_run (fun (s : Unit) _ => (default, s)) p ()
    exact ⟨_, _, d, _, by simpa using h⟩
  | done b => exact ⟨[], [], 0, b, .done b⟩
  | note _ ih =>
    obtain ⟨es', qs', d', b, h⟩ := ih
    exact ⟨es', qs', d', b, .note h⟩
  | pause _ ih =>
    obtain ⟨es', qs', d', b, h⟩ := ih
    exact ⟨es', qs', d', b, by simpa [Nat.add_assoc] using Trace.pause h⟩
  | ask _ ih =>
    obtain ⟨es', qs', d', b, h⟩ := ih
    exact ⟨es', qs', d', b, .ask h⟩

/-- A way to the end is settled by the answers. -/
theorem unique {es' : List ε} {qs' : List (κ × α)} {d' : Nat} {b b' : β}
    (h : Trace p es qs d (some b)) (h' : Trace p es' qs' d' (some b'))
    (hq : qs.map Prod.snd = qs'.map Prod.snd) : es = es' ∧ qs = qs' ∧ d = d' ∧ b = b' := by
  induction p generalizing es qs d es' qs' d' with
  | done c =>
    cases h
    cases h'
    exact ⟨rfl, rfl, rfl, rfl⟩
  | note e next ih =>
    cases h with
    | note rest =>
      cases h' with
      | note rest' =>
        obtain ⟨rfl, rfl, rfl, rfl⟩ := ih rest rest' hq
        exact ⟨rfl, rfl, rfl, rfl⟩
  | pause ms next ih =>
    cases h with
    | pause rest =>
      cases h' with
      | pause rest' =>
        obtain ⟨rfl, rfl, rfl, rfl⟩ := ih rest rest' hq
        exact ⟨rfl, rfl, rfl, rfl⟩
  | ask q next ih =>
    cases h with
    | ask rest =>
      cases h' with
      | ask rest' =>
        obtain ⟨rfl, hrest⟩ := List.cons.inj hq
        obtain ⟨rfl, rfl, rfl, rfl⟩ := ih _ rest rest' hrest
        exact ⟨rfl, rfl, rfl, rfl⟩

theorem bind {es₂ : List ε} {qs₂ : List (κ × α)} {d₂ : Nat} {b : β}
    {f : β → Program ε κ α γ} {c : Option γ} (h : Trace p es qs d (some b))
    (h₂ : Trace (f b) es₂ qs₂ d₂ c) :
    Trace (p.bind f) (es ++ es₂) (qs ++ qs₂) (d + d₂) c := by
  induction p generalizing es qs d with
  | done b =>
    cases h
    rw [Nat.zero_add]
    exact h₂
  | note e next ih =>
    cases h with
    | note rest => exact .note (ih rest)
  | pause ms next ih =>
    cases h with
    | pause rest =>
      rw [Nat.add_assoc]
      exact .pause (ih rest)
  | ask q next ih =>
    cases h with
    | ask rest => exact .ask (ih _ rest)

end Trace

end Program

end Gatehouse
