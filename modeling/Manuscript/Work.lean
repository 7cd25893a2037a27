import Manuscript.Log

/-!
# Work

An activity that uses a state, gives notices on its way and ends with a value or a
fault. The state and the notices are kept when it ends with a fault.

* `Work.andThen`: one activity after another, which a fault of the first leaves out;
  the notices stand in the order they are given in.
* `Work.onFault`: lets a fault pass or puts another activity in its place.
-/

namespace Manuscript

open Manuscript.Log

/-- What an activity comes to. -/
structure Outcome (σ ε α : Type) where
  /-- The value it ends with, or the fault. -/
  result : Except ε α
  /-- The notices it gives. -/
  notices : List Notice
  /-- The state it leaves. -/
  state : σ

/-- An activity on a state. -/
def Work (σ ε α : Type) : Type := σ → Outcome σ ε α

namespace Work

variable {σ ε α β : Type}

/-- Ends with a value at once. -/
def done (a : α) : Work σ ε α := fun s => ⟨.ok a, [], s⟩

/-- Ends with a fault at once. -/
def fail (e : ε) : Work σ ε α := fun s => ⟨.error e, [], s⟩

/-- One activity, then another that gets its value. -/
def andThen (w : Work σ ε α) (next : α → Work σ ε β) : Work σ ε β := fun s =>
  match w s with
  | ⟨.ok a, said, s'⟩ =>
    let o := next a s'
    ⟨o.result, said ++ o.notices, o.state⟩
  | ⟨.error e, said, s'⟩ => ⟨.error e, said, s'⟩

instance : Monad (Work σ ε) where
  pure := done
  bind := andThen

/-- Gives a notice. -/
def tell (n : Notice) : Work σ ε Unit := fun s => ⟨.ok (), [n], s⟩

/-- Reads the state. -/
def state : Work σ ε σ := fun s => ⟨.ok s, [], s⟩

/-- Replaces the state. -/
def put (s : σ) : Work σ ε Unit := fun _ => ⟨.ok (), [], s⟩

/-- Ends with a result at once. -/
def ofExcept (r : Except ε α) : Work σ ε α := fun s => ⟨r, [], s⟩

/-- Puts an activity in the place of a fault. -/
def onFault (w : Work σ ε α) (rescue : ε → Work σ ε α) : Work σ ε α := fun s =>
  match w s with
  | ⟨.ok a, said, s'⟩ => ⟨.ok a, said, s'⟩
  | ⟨.error e, said, s'⟩ =>
    let o := rescue e s'
    ⟨o.result, said ++ o.notices, o.state⟩

/-- The same activity with its faults under other names. -/
def mapFault {δ : Type} (f : ε → δ) (w : Work σ ε α) : Work σ δ α := fun s =>
  let o := w s
  ⟨o.result.mapError f, o.notices, o.state⟩

/-- The activity for each member of a list, from the first to the last. -/
def forEach (f : α → Work σ ε β) : List α → Work σ ε (List β)
  | [] => done []
  | a :: rest => do
    let b ← f a
    let bs ← forEach f rest
    return b :: bs

@[simp] theorem pure_apply (a : α) (s : σ) : (pure a : Work σ ε α) s = ⟨.ok a, [], s⟩ := rfl

@[simp] theorem tell_apply (n : Notice) (s : σ) :
    (tell n : Work σ ε Unit) s = ⟨.ok (), [n], s⟩ := rfl

/-- A value is handed on, with the notices before those of what follows. -/
theorem bind_ok {w : Work σ ε α} {next : α → Work σ ε β} {s s' : σ} {a : α} {said : List Notice}
    (h : w s = ⟨.ok a, said, s'⟩) :
    (w >>= next) s
      = ⟨(next a s').result, said ++ (next a s').notices, (next a s').state⟩ := by
  simp only [bind, andThen, h]

/-- A fault leaves out what follows. -/
theorem bind_error {w : Work σ ε α} {next : α → Work σ ε β} {s s' : σ} {e : ε}
    {said : List Notice} (h : w s = ⟨.error e, said, s'⟩) :
    (w >>= next) s = ⟨.error e, said, s'⟩ := by
  simp only [bind, andThen, h]

end Work

end Manuscript
