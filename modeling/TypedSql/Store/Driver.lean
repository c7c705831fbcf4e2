import TypedSql.Store.Call

namespace TypedSql

/-! Drivers answer calls.  Nothing is assumed of the state that they keep, so what holds for every
driver holds for every store and every way in which its calls can fail. -/

/-- A run over a state: it ends with a result or an error, and leaves a state in both cases. -/
abbrev Run (σ α : Type) := ExceptT Error (StateM σ) α

namespace Run

variable {σ τ α β : Type}

def ofExcept : Except Error α → Run σ α
  | .ok a => pure a
  | .error e => throw e

def attempt (x : Run σ α) : Run σ (Except Error α) :=
  fun s =>
    let (outcome, s) := x s
    (.ok outcome, s)

def within (get : τ → σ) (set : σ → τ → τ) (x : Run σ α) : Run τ α :=
  fun t =>
    let (outcome, s) := x (get t)
    (outcome, set s t)

theorem bind_apply (x : Run σ α) (f : α → Run σ β) (s : σ) :
    (x >>= f) s =
      match x s with
      | (.ok a, s') => f a s'
      | (.error e, s') => (.error e, s') := by
  simp only [bind, ExceptT.bind, ExceptT.mk, StateT.bind, ExceptT.bindCont]
  rcases x s with ⟨_ | _, _⟩ <;> rfl

theorem bind_ok {x : Run σ α} {f : α → Run σ β} {s s' : σ} {a : α} (h : x s = (.ok a, s')) :
    (x >>= f) s = f a s' := by
  rw [bind_apply, h]

theorem bind_error {x : Run σ α} {f : α → Run σ β} {s s' : σ} {e : Error}
    (h : x s = (.error e, s')) : (x >>= f) s = (.error e, s') := by
  rw [bind_apply, h]

@[simp] theorem pure_apply (a : α) (s : σ) : (pure a : Run σ α) s = (.ok a, s) := rfl

@[simp] theorem throw_apply (e : Error) (s : σ) : (throw e : Run σ α) s = (.error e, s) := rfl

@[simp] theorem get_apply (s : σ) : (get : Run σ σ) s = (.ok s, s) := rfl

@[simp] theorem set_apply (s s' : σ) : (set s' : Run σ PUnit) s = (.ok ⟨⟩, s') := rfl

@[simp] theorem modify_apply (f : σ → σ) (s : σ) :
    (modify f : Run σ PUnit) s = (.ok ⟨⟩, f s) := rfl

@[simp] theorem ofExcept_ok (a : α) : (ofExcept (.ok a) : Run σ α) = pure a := rfl

@[simp] theorem ofExcept_error (e : Error) : (ofExcept (.error e) : Run σ α) = throw e := rfl

@[simp] theorem ofExcept_apply (x : Except Error α) (s : σ) : ofExcept x s = (x, s) := by
  cases x <;> rfl

@[simp] theorem attempt_apply (x : Run σ α) (s : σ) :
    x.attempt s = (.ok (x s).1, (x s).2) := rfl

@[simp] theorem within_apply (get : τ → σ) (set : σ → τ → τ) (x : Run σ α) (t : τ) :
    x.within get set t = ((x (get t)).1, set (x (get t)).2 t) := rfl

end Run

structure Driver (σ : Type) where
  name : String
  wireTypes : List WireType
  run : (call : Call) → Run σ call.Answer

structure Exchange where
  call : Call
  outcome : Except Error call.Answer

namespace Driver

variable {σ τ : Type}

def within (d : Driver σ) (get : τ → σ) (set : σ → τ → τ) : Driver τ where
  name := d.name
  wireTypes := d.wireTypes
  run := fun call => (d.run call).within get set

/-- The driver with a trace of its calls beside the state. -/
def traced (d : Driver σ) : Driver (σ × List Exchange) where
  name := d.name
  wireTypes := d.wireTypes
  run := fun call (s, trace) =>
    let (outcome, s) := d.run call s
    (outcome, s, trace ++ [⟨call, outcome⟩])

/-- A trace changes nothing about what a store answers and becomes. -/
theorem traced_run (d : Driver σ) (call : Call) (s : σ) (trace : List Exchange) :
    d.traced.run call (s, trace) =
      ((d.run call s).1, (d.run call s).2, trace ++ [⟨call, (d.run call s).1⟩]) := rfl

end Driver

end TypedSql
