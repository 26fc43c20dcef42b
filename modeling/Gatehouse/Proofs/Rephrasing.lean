import Gatehouse.Exchange

namespace Gatehouse

namespace Program

variable {ε κ κ' κ'' α α' β γ σ τ : Type}

/-- The same program with each question put in other words. -/
def rephrase (f : κ → κ') : Program ε κ α β → Program ε κ' α β
  | done b => done b
  | note e next => note e (rephrase f next)
  | pause ms next => pause ms (rephrase f next)
  | ask q next => ask (f q) fun a => rephrase f (next a)

theorem rephrase_bind (f : κ → κ') (p : Program ε κ α β) (next : β → Program ε κ α γ) :
    (p.bind next).rephrase f = (p.rephrase f).bind fun b => (next b).rephrase f := by
  induction p with
  | done b => rfl
  | note e rest ih => exact congrArg (note e) ih
  | pause ms rest ih => exact congrArg (pause ms) ih
  | ask q rest ih => exact congrArg (ask (f q)) (funext ih)

theorem rephrase_via (f : κ' → κ'') (answer : κ → Program ε κ' α' α) (p : Program ε κ α β) :
    (p.via answer).rephrase f = p.via fun q => (answer q).rephrase f := by
  induction p with
  | done b => rfl
  | note e rest ih => exact congrArg (note e) ih
  | pause ms rest ih => exact congrArg (pause ms) ih
  | ask q rest ih =>
    rw [via, rephrase_bind, via]
    exact congrArg _ (funext ih)

/--
Whether two courses of questions are answered alike: as long as the questions are the same in other
words, so are the answers.
-/
def AnsweredAlike (f : κ → κ') : List (κ × α) → List (κ × α) → Prop
  | (q, a) :: rest, (q', a') :: rest' => f q = f q' → a = a' ∧ AnsweredAlike f rest rest'
  | _, _ => True

theorem run_of_rephrase_eq {f : κ → κ'} {answer : σ → κ → α × σ} {answer' : τ → κ → α × τ}
    {p q : Program ε κ α β} (hpq : p.rephrase f = q.rephrase f) {s : σ} {t : τ}
    (ha : AnsweredAlike f (p.run answer s).asked (q.run answer' t).asked) :
    (p.run answer s).result = (q.run answer' t).result ∧
      (p.run answer s).events = (q.run answer' t).events ∧
      (p.run answer s).asked.map (Prod.map f id) =
        (q.run answer' t).asked.map (Prod.map f id) := by
  induction p generalizing q s t with
  | done b =>
    cases q <;> cases hpq
    exact ⟨rfl, rfl, rfl⟩
  | note e rest ih =>
    cases q with
    | note e' rest' =>
      obtain ⟨rfl, hrest⟩ := note.inj hpq
      obtain ⟨hresult, hevents, hasked⟩ := ih hrest ha
      exact ⟨hresult, congrArg (e :: ·) hevents, hasked⟩
    | _ => cases hpq
  | pause ms rest ih =>
    cases q with
    | pause ms' rest' => exact ih (pause.inj hpq).2 ha
    | _ => cases hpq
  | ask c rest ih =>
    cases q with
    | ask c' rest' =>
      obtain ⟨hc, hrest⟩ := ask.inj hpq
      simp only [run] at ha ⊢
      obtain ⟨hanswer, ha⟩ := ha hc
      rw [← hanswer] at ha ⊢
      obtain ⟨hresult, hevents, hasked⟩ := ih (answer s c).1 (congrFun hrest _) ha
      refine ⟨hresult, hevents, ?_⟩
      rw [List.map_cons, List.map_cons, hasked, Prod.map_apply, Prod.map_apply, hc]
    | _ => cases hpq

/-- Whether who answers takes no notice of the words, now or later, as long as all is alike. -/
structure AnswersAlike (f : κ → κ') (answer : σ → κ → α × σ) (alike : σ → σ → Prop) : Prop where
  reply : ∀ {s t q q'}, alike s t → f q = f q' → (answer s q).1 = (answer t q').1
  peer : ∀ {s t q q'}, alike s t → f q = f q' → alike (answer s q).2 (answer t q').2

theorem AnswersAlike.run {f : κ → κ'} {answer : σ → κ → α × σ} {alike : σ → σ → Prop}
    (h : AnswersAlike f answer alike) (p q : Program ε κ α β) {s t : σ} (hs : alike s t) :
    AnsweredAlike f (p.run answer s).asked (q.run answer t).asked := by
  induction p generalizing q s t with
  | done b => trivial
  | note e rest ih | pause ms rest ih => exact ih q hs
  | ask c rest ih =>
    induction q with
    | done b => trivial
    | note e rest' ihq | pause ms rest' ihq => exact ihq
    | ask c' rest' => exact fun hc => ⟨h.reply hs hc, ih _ (rest' _) (h.peer hs hc)⟩

end Program

end Gatehouse
