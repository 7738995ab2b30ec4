/-!
# Programs

A program is a tree of requests: it is done with a result, or it asks something and goes on with
the answer. A program does nothing by itself, so that one program can be run against any outside,
and what it may do can be read off its paths.
-/

namespace PageScript

/-- A program over requests, each with its type of answers. -/
inductive Program (Request : Type) (Answer : Request → Type) (α : Type) : Type where
  | done (a : α)
  | ask (r : Request) (next : Answer r → Program Request Answer α)

namespace Program

variable {Request : Type} {Answer : Request → Type} {α β γ : Type}

/-- Goes on with the result of a program. -/
def bind : Program Request Answer α → (α → Program Request Answer β) →
    Program Request Answer β
  | done a, f => f a
  | ask r next, f => ask r fun x => (next x).bind f

/-- Asks one request. -/
def request (r : Request) : Program Request Answer (Answer r) :=
  ask r done

instance : Monad (Program Request Answer) where
  pure := done
  bind := bind

@[simp] theorem pure_eq (a : α) : (pure a : Program Request Answer α) = done a := rfl

@[simp] theorem done_bind (a : α) (f : α → Program Request Answer β) :
    (done a >>= f) = f a := rfl

@[simp] theorem ask_bind (r : Request) (next : Answer r → Program Request Answer α)
    (f : α → Program Request Answer β) :
    (ask r next >>= f) = ask r fun x => next x >>= f := rfl

theorem bind_done (p : Program Request Answer α) : (p >>= done) = p := by
  induction p with
  | done a => rfl
  | ask r next ih => simp [ih]

theorem bind_assoc (p : Program Request Answer α) (f : α → Program Request Answer β)
    (g : β → Program Request Answer γ) :
    (p >>= f >>= g) = (p >>= fun a => f a >>= g) := by
  induction p with
  | done a => rfl
  | ask r next ih => simp [ih]

instance : LawfulMonad (Program Request Answer) :=
  LawfulMonad.mk' _ bind_done (fun _ _ => rfl) bind_assoc

def handle {m : Type → Type} [Monad m] (h : (r : Request) → m (Answer r)) :
    Program Request Answer α → m α
  | done a => pure a
  | ask r next => do
    let x ← h r
    (next x).handle h

theorem handle_bind {m : Type → Type} [Monad m] [LawfulMonad m]
    (h : (r : Request) → m (Answer r)) (p : Program Request Answer α)
    (f : α → Program Request Answer β) :
    (p >>= f).handle h = p.handle h >>= fun a => (f a).handle h := by
  induction p with
  | done a => simp [handle]
  | ask r next ih => simp [handle, ih]

end Program
end PageScript
