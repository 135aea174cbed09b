import Tutoring.Call

/-!
# Programs

A program is a tree of calls: it is done with a result, or it makes a call and goes on according to
the reply. What the calls do is not fixed here. The same program runs on stores in memory, on a
database and among other programs, and its calls can be counted.

A `Task` is a program that may end with an error.
-/

namespace Tutoring

/-- A computation that makes calls. -/
inductive Program (α : Type) where
  /-- The result, without a further call. -/
  | done (a : α)
  /-- A call, and what is done with its reply. -/
  | call (c : Call) (next : c.Reply → Program α)

namespace Program

variable {α β : Type}

/-- Goes on with the result of a program. -/
def bind (p : Program α) (f : α → Program β) : Program β :=
  match p with
  | done a => f a
  | call c next => call c fun r => (next r).bind f

instance : Monad Program where
  pure := done
  bind := bind

/-- One call. -/
def ask (c : Call) : Program c.Reply := call c done

/-- Runs a program where each call has an effect. -/
def interpret {m : Type → Type} [Monad m] (reply : (c : Call) → m c.Reply) : Program α → m α
  | done a => pure a
  | call c next => do interpret reply (next (← reply c))

@[simp] theorem pure_eq (a : α) : (pure a : Program α) = done a := rfl

@[simp] theorem done_bind (a : α) (f : α → Program β) : done a >>= f = f a := rfl

@[simp] theorem call_bind (c : Call) (next : c.Reply → Program α) (f : α → Program β) :
    call c next >>= f = call c fun r => next r >>= f := rfl

instance : LawfulMonad Program := LawfulMonad.mk' Program
  (fun p => by
    show p.bind _ = p
    induction p with
    | done a => rfl
    | call c next ih => exact congrArg (call c) (funext ih))
  (fun _ _ => rfl)
  (fun p f g => by
    show (p.bind f).bind g = p.bind fun a => (f a).bind g
    induction p with
    | done a => rfl
    | call c next ih => exact congrArg (call c) (funext ih))

end Program

/-- A program that may end with an error. -/
abbrev Task (ε α : Type) : Type := ExceptT ε Program α

namespace Task

variable {ε α : Type}

/-- One call, whose failure ends the task. -/
def ask (c : Call) (wrap : c.Error → ε) : Task ε c.Answer :=
  ExceptT.mk (.call c fun r => .done (r.mapError wrap))

/-- The value, or an error if there is none. -/
def demand (error : ε) : Option α → Task ε α
  | some a => pure a
  | none => throw error

/-- Ends the task if a check fails. -/
def check (r : Except ε α) : Task ε α := ExceptT.mk (pure r)

end Task

end Tutoring
