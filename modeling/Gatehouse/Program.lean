namespace Gatehouse

/-- A program that notes events `ε`, asks questions `κ` answered by `α`, and ends with a result. -/
inductive Program (ε κ α β : Type) where
  | done (result : β)
  | note (event : ε) (next : Program ε κ α β)
  /-- Lets so many milliseconds pass. -/
  | pause (duration : Nat) (next : Program ε κ α β)
  | ask (question : κ) (next : α → Program ε κ α β)

namespace Program

variable {ε κ α β γ : Type}

/-- Goes on with what a continuation makes of the result. -/
def bind (p : Program ε κ α β) (f : β → Program ε κ α γ) : Program ε κ α γ :=
  match p with
  | done b => f b
  | note e next => note e (next.bind f)
  | pause ms next => pause ms (next.bind f)
  | ask q next => ask q fun a => (next a).bind f

instance : Monad (Program ε κ α) where
  pure := done
  bind := bind

/-- Does a program by another kind of question: each question becomes a program of its own. -/
def via {κ' α' : Type} (answer : κ → Program ε κ' α' α) :
    Program ε κ α β → Program ε κ' α' β
  | done b => done b
  | note e next => note e (via answer next)
  | pause ms next => pause ms (via answer next)
  | ask q next => (answer q).bind fun a => via answer (next a)

/-- What a run leaves behind: the result, the one who answered, and all that happened. -/
structure Run (σ ε κ α β : Type) where
  result : β
  peer : σ
  events : List ε
  asked : List (κ × α)

def run {σ : Type} (answer : σ → κ → α × σ) (peer : σ) : Program ε κ α β → Run σ ε κ α β
  | done b => ⟨b, peer, [], []⟩
  | note e next =>
    let rest := next.run answer peer
    { rest with events := e :: rest.events }
  | pause _ next => next.run answer peer
  | ask q next =>
    let (a, peer) := answer peer q
    let rest := (next a).run answer peer
    { rest with asked := (q, a) :: rest.asked }

end Program

end Gatehouse
