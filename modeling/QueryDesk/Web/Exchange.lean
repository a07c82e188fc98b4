import QueryDesk.Web.Message

/-!
# Exchanges

A finite conversation with a service as a value: each request is followed by what is done with
its reply.  The same exchange can be played against a list of replies or carried out by any
sender, and both see the same requests.
-/

namespace QueryDesk.Web

/-- A conversation that ends with a result. -/
inductive Exchange (α : Type) where
  | done (result : α)
  | ask (request : Request) (next : Reply → Exchange α)

namespace Exchange

def bind {α β : Type} : Exchange α → (α → Exchange β) → Exchange β
  | done a, f => f a
  | ask request next, f => ask request fun reply => (next reply).bind f

instance : Monad Exchange where
  pure := done
  bind := bind

def send (request : Request) : Exchange Reply := ask request done

def perform {m : Type → Type} [Monad m] {α : Type} (sender : Request → m Reply) :
    Exchange α → m α
  | done a => pure a
  | ask request next => do
    let reply ← sender request
    (next reply).perform sender

/-- A conversation in which the replies come in turn: the requests made, and the result unless
the replies run out before it. -/
def play {α : Type} : Exchange α → List Reply → List Request × Option α
  | done a, _ => ([], some a)
  | ask request _, [] => ([request], none)
  | ask request next, reply :: rest =>
    let (requests, result) := (next reply).play rest
    (request :: requests, result)

/-! ## Laws -/

theorem bind_done {α : Type} (e : Exchange α) : e.bind done = e := by
  induction e with
  | done a => rfl
  | ask request next ih => simp only [bind, ih]

theorem bind_assoc {α β γ : Type} (e : Exchange α) (f : α → Exchange β) (g : β → Exchange γ) :
    (e.bind f).bind g = e.bind fun a => (f a).bind g := by
  induction e with
  | done a => rfl
  | ask request next ih => simp only [bind, ih]

instance : LawfulMonad Exchange := LawfulMonad.mk' Exchange
  (fun e => bind_done e) (fun _ _ => rfl) bind_assoc

end Exchange

end QueryDesk.Web
