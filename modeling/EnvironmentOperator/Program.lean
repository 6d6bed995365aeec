import EnvironmentOperator.Metrics
import EnvironmentOperator.Store.Call
/-!
Programs that work on a store. A program is a tree of calls, each with a continuation for its answer; it knows
nothing of the store that answers. `run` walks the tree with a given answerer, and `run_bind` says that a
sequence runs its parts one after the other.
-/
namespace EnvironmentOperator

inductive Program (ε α : Type) where
  | done (a : α)
  | fail (e : ε)
  | measure (m : Measurement) (rest : Program ε α)
  | call (c : Call) (next : Except StoreError c.Answer → Program ε α)

/-- Something that answers calls and takes note of measurements, changing its state on the way. -/
structure Answerer (σ : Type) where
  answer : (c : Call) → σ → Except StoreError c.Answer × σ
  note : Measurement → σ → σ

namespace Program

variable {ε ε' α β σ : Type}

def bind (p : Program ε α) (f : α → Program ε β) : Program ε β :=
  match p with
  | .done a => f a
  | .fail e => .fail e
  | .measure m rest => .measure m (bind rest f)
  | .call c next => .call c (fun r => bind (next r) f)

instance : Monad (Program ε) where
  pure := .done
  bind := bind

def mapError (f : ε → ε') : Program ε α → Program ε' α
  | .done a => .done a
  | .fail e => .fail (f e)
  | .measure m rest => .measure m (mapError f rest)
  | .call c next => .call c (fun r => mapError f (next r))

def result : Program ε α → Program ε' (Except ε α)
  | .done a => .done (.ok a)
  | .fail e => .done (.error e)
  | .measure m rest => .measure m (result rest)
  | .call c next => .call c (fun r => result (next r))

def ofExcept : Except ε α → Program ε α
  | .ok a => .done a
  | .error e => .fail e

def attempt (c : Call) : Program ε (Except StoreError c.Answer) := .call c .done

def request (c : Call) : Program StoreError c.Answer := .call c ofExcept

def count (m : Measurement) : Program ε Unit := .measure m (.done ())

def run (w : Answerer σ) : Program ε α → σ → Except ε α × σ
  | .done a, s => (.ok a, s)
  | .fail e, s => (.error e, s)
  | .measure m rest, s => run w rest (w.note m s)
  | .call c next, s =>
      let (r, s) := w.answer c s
      run w (next r) s

@[simp] theorem pure_eq (a : α) : (pure a : Program ε α) = .done a := rfl

@[simp] theorem bind_eq (p : Program ε α) (f : α → Program ε β) : (p >>= f) = bind p f := rfl

theorem run_bind (w : Answerer σ) (p : Program ε α) (f : α → Program ε β) (s : σ) :
    run w (bind p f) s =
      match run w p s with
      | (.ok a, s) => run w (f a) s
      | (.error e, s) => (.error e, s) := by
  induction p generalizing s with
  | done a => rfl
  | fail e => rfl
  | measure m rest ih => exact ih (w.note m s)
  | call c next ih => exact ih (w.answer c s).1 (w.answer c s).2

theorem run_mapError (w : Answerer σ) (g : ε → ε') (p : Program ε α) (s : σ) :
    run w (mapError g p) s = ((run w p s).1.mapError g, (run w p s).2) := by
  induction p generalizing s with
  | done a => rfl
  | fail e => rfl
  | measure m rest ih => exact ih (w.note m s)
  | call c next ih => exact ih (w.answer c s).1 (w.answer c s).2

theorem run_result (w : Answerer σ) (p : Program ε α) (s : σ) :
    run w (result p : Program ε' _) s = (.ok (run w p s).1, (run w p s).2) := by
  induction p generalizing s with
  | done a => rfl
  | fail e => rfl
  | measure m rest ih => exact ih (w.note m s)
  | call c next ih => exact ih (w.answer c s).1 (w.answer c s).2

theorem run_attempt (w : Answerer σ) (c : Call) (s : σ) :
    run w (attempt c : Program ε _) s = (.ok (w.answer c s).1, (w.answer c s).2) := rfl

end Program

end EnvironmentOperator
