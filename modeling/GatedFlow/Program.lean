/-! # Programs

A program asks one call after the other and decides from each answer how to go on. What the calls mean is
given from outside: `Program.run` answers every call and threads a state through, `Program.runWhile` may also
break off. The calls of a program stay visible as data, so that the same program can be run alone or
interleaved with others. -/

namespace GatedFlow

universe v

/-- A result, or a call with a program for each of its answers. -/
inductive Program (Call : Type → Type v) (α : Type) : Type (max 1 v) where
  | done (result : α)
  | ask {β : Type} (call : Call β) (next : β → Program Call α)

namespace Program

variable {Call : Type → Type v} {α β σ : Type}

/-- Goes on with a second program that knows the result of the first. -/
def andThen : Program Call α → (α → Program Call β) → Program Call β
  | done a, f => f a
  | ask call next, f => ask call fun b => (next b).andThen f

instance : Monad (Program Call) where
  pure := done
  bind := andThen

def call (c : Call α) : Program Call α := ask c done

/-- The result of a program and the state it leaves, where every call is answered. -/
def run (answer : {β : Type} → Call β → σ → β × σ) : Program Call α → σ → α × σ
  | done a, s => (a, s)
  | ask call next, s =>
    let (b, s) := answer call s
    (next b).run answer s

/-- The result of a program and the state it leaves, where an answer may fail to come. -/
def runWhile (answer : {β : Type} → Call β → σ → Option β × σ) : Program Call α → σ → Option α × σ
  | done a, s => (some a, s)
  | ask call next, s =>
    match answer call s with
    | (some b, s) => (next b).runWhile answer s
    | (none, s) => (none, s)

@[simp] theorem pure_eq_done (a : α) : (pure a : Program Call α) = done a := rfl

@[simp] theorem done_bind (a : α) (f : α → Program Call β) : (done a >>= f) = f a := rfl

@[simp] theorem ask_bind {γ : Type} (c : Call γ) (next : γ → Program Call α) (f : α → Program Call β) :
    (ask c next >>= f) = ask c fun b => next b >>= f := rfl

theorem bind_done (p : Program Call α) : (p >>= done) = p := by
  induction p with
  | done a => rfl
  | ask c next ih => simp [ih]

theorem bind_assoc {γ : Type} (p : Program Call α) (f : α → Program Call β) (g : β → Program Call γ) :
    (p >>= f >>= g) = (p >>= fun a => f a >>= g) := by
  induction p with
  | done a => rfl
  | ask c next ih => simp [ih]

instance : LawfulMonad (Program Call) := LawfulMonad.mk' _ bind_done (fun _ _ => rfl) bind_assoc

variable {answer : {β : Type} → Call β → σ → β × σ}

@[simp] theorem run_done (a : α) (s : σ) : (done a : Program Call α).run answer s = (a, s) := rfl

@[simp] theorem run_ask {γ : Type} (c : Call γ) (next : γ → Program Call α) (s : σ) :
    (ask c next).run answer s = (next (answer c s).1).run answer (answer c s).2 := rfl

@[simp] theorem run_call (c : Call α) (s : σ) : (call c).run answer s = answer c s := rfl

/-- A program runs up to its result and then as the one that takes it. -/
@[simp] theorem run_bind (p : Program Call α) (f : α → Program Call β) (s : σ) :
    (p >>= f).run answer s = (f (p.run answer s).1).run answer (p.run answer s).2 := by
  induction p generalizing s with
  | done a => rfl
  | ask c next ih => simp [ih]

variable {answer? : {β : Type} → Call β → σ → Option β × σ}

/-- A program that may break off runs up to its result and then as the one that takes it. -/
theorem runWhile_bind (p : Program Call α) (f : α → Program Call β) (s : σ) :
    (p >>= f).runWhile answer? s = match p.runWhile answer? s with
      | (some a, s) => (f a).runWhile answer? s
      | (none, s) => (none, s) := by
  induction p generalizing s with
  | done a => rfl
  | ask c next ih =>
    simp only [ask_bind, runWhile]
    rcases answer? c s with ⟨b | b, s⟩
    · rfl
    · exact ih b s

end Program
end GatedFlow
