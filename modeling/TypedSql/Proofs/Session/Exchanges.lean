import TypedSql.Proofs.Session.World
import TypedSql.Session.Manager

namespace TypedSql

/-! What a session says to its store.  Code that leaves the scopes of the threads alone is described
by the exchanges that it makes, for each of its outcomes. -/

namespace Exchange

def succeeded (x : Exchange) : Bool :=
  x.outcome.isOk

def error? (x : Exchange) : Option Error :=
  match x.outcome with
  | .ok _ => none
  | .error e => some e

end Exchange

variable {σ : Type}

namespace World

def trace (w : World (σ × List Exchange)) : List Exchange :=
  w.store.2

theorem trace_unbind (w : World (σ × List Exchange)) (t : Transaction) :
    (w.unbind t).trace = w.trace := by
  rw [unbind]
  split
  · rfl
  · rfl

/-- Between two moments some exchanges have taken place, and the scopes have stayed as they were. -/
structure Exchanged (w : World (σ × List Exchange)) (es : List Exchange)
    (w' : World (σ × List Exchange)) : Prop where
  trace : w'.trace = w.trace ++ es
  thread : w'.thread = w.thread
  bound : w'.bound = w.bound
  transactions : w'.transactions = w.transactions

namespace Exchanged

variable {w w' w'' : World (σ × List Exchange)} {es es' : List Exchange}

theorem refl (w : World (σ × List Exchange)) : w.Exchanged [] w :=
  ⟨(List.append_nil _).symm, rfl, rfl, rfl⟩

theorem trans (hfirst : w.Exchanged es w') (hsecond : w'.Exchanged es' w'') :
    w.Exchanged (es ++ es') w'' where
  trace := by rw [hsecond.trace, hfirst.trace, List.append_assoc]
  thread := hsecond.thread.trans hfirst.thread
  bound := hsecond.bound.trans hfirst.bound
  transactions := hsecond.transactions.trans hfirst.transactions

theorem current? (h : w.Exchanged es w') (manager : Nat) :
    w'.current? manager = w.current? manager :=
  current?_congr h.thread h.bound manager

theorem state (h : w.Exchanged es w') (t : Transaction) : w'.state t = w.state t :=
  state_congr h.transactions

theorem setState (h : w.Exchanged es w') (t : Transaction) (s : TransactionState) :
    (w.setState t s).Exchanged es (w'.setState t s) where
  trace := h.trace
  thread := h.thread
  bound := h.bound
  transactions := by rw [World.setState, World.setState, h.transactions]

end Exchanged

end World

namespace Session

variable {α β : Type}

/-- Whatever the world, the code makes exchanges and has an outcome that fit together, and leaves
the scopes as they are. -/
def Makes (x : Session (σ × List Exchange) α) (Q : Except Error α → List Exchange → Prop) : Prop :=
  ∀ w, ∃ es, w.Exchanged es (x w).2 ∧ Q (x w).1 es

variable {x : Session (σ × List Exchange) α} {f : α → Session (σ × List Exchange) β}
  {P : Except Error α → List Exchange → Prop} {Q : Except Error β → List Exchange → Prop}

theorem Makes.mono {P' : Except Error α → List Exchange → Prop} (h : Makes x P)
    (himp : ∀ outcome es, P outcome es → P' outcome es) : Makes x P' := by
  intro w
  obtain ⟨es, hexchanged, houtcome⟩ := h w
  exact ⟨es, hexchanged, himp _ _ houtcome⟩

theorem makes_pure {a : α} (h : P (.ok a) []) : Makes (σ := σ) (pure a) P :=
  fun w => ⟨[], .refl w, h⟩

theorem makes_throw {e : Error} (h : P (.error e) []) : Makes (σ := σ) (throw e) P :=
  fun w => ⟨[], .refl w, h⟩

theorem makes_call (d : Driver σ) (c : Call) {P : Except Error c.Answer → List Exchange → Prop}
    (h : ∀ outcome, P outcome [⟨c, outcome⟩]) : Makes (call d.traced c) P :=
  fun w => ⟨[⟨c, (d.run c w.store.1).1⟩], ⟨rfl, rfl, rfl, rfl⟩, h _⟩

theorem makes_log (level : LogLevel) (source : LogSource) (message : String)
    {P : Except Error Unit → List Exchange → Prop} (h : P (.ok ()) []) :
    Makes (σ := σ) (log level source message) P :=
  fun _ => ⟨[], ⟨(List.append_nil _).symm, rfl, rfl, rfl⟩, h⟩

theorem Makes.bind (hx : Makes x P)
    (hok : ∀ a es, P (.ok a) es → Makes (f a) fun outcome es' => Q outcome (es ++ es'))
    (herror : ∀ e es, P (.error e) es → Q (.error e) es) : Makes (x >>= f) Q := by
  intro w
  obtain ⟨es, hexchanged, houtcome⟩ := hx w
  rw [Run.bind_apply]
  cases hrun : x w with
  | mk result w' =>
      rw [hrun] at hexchanged houtcome
      cases result with
      | error e => exact ⟨es, hexchanged, herror e es houtcome⟩
      | ok a =>
          obtain ⟨es', hexchanged', houtcome'⟩ := hok a es houtcome w'
          exact ⟨es ++ es', hexchanged.trans hexchanged', houtcome'⟩

theorem Makes.attempt (hx : Makes x P) :
    Makes x.attempt fun outcome es => ∃ result, outcome = .ok result ∧ P result es := by
  intro w
  obtain ⟨es, hexchanged, houtcome⟩ := hx w
  exact ⟨es, hexchanged, (x w).1, rfl, houtcome⟩

theorem Makes.attempt_bind {f : Except Error α → Session (σ × List Exchange) β} (hx : Makes x P)
    (h : ∀ result es, P result es → Makes (f result) fun outcome es' => Q outcome (es ++ es')) :
    Makes (x.attempt >>= f) Q := by
  apply hx.attempt.bind
  · intro result es hmade
    obtain ⟨result', hsame, hfits⟩ := hmade
    cases hsame
    exact h result es hfits
  · intro e es hmade
    obtain ⟨result', hsame, -⟩ := hmade
    cases hsame

theorem reporting_apply (level : LogLevel) (source : LogSource) (what : String)
    (x : Session (σ × List Exchange) Unit) (w : World (σ × List Exchange)) :
    ∃ w', reporting level source what x w = (.ok (), w') ∧ (x w).2.Exchanged [] w' := by
  rw [reporting, Run.bind_apply, Run.attempt_apply]
  cases (x w).1 with
  | ok _ => exact ⟨_, rfl, .refl _⟩
  | error e => exact ⟨_, rfl, ⟨(List.append_nil _).symm, rfl, rfl, rfl⟩⟩

theorem Makes.reporting {x : Session (σ × List Exchange) Unit}
    {P : Except Error Unit → List Exchange → Prop} (hx : Makes x P) (level : LogLevel)
    (source : LogSource) (what : String) :
    Makes (reporting level source what x) fun outcome es =>
      outcome = .ok () ∧ ∃ result, P result es := by
  apply hx.attempt_bind
  intro result es hfits
  cases result with
  | ok _ => exact makes_pure ⟨rfl, _, by simpa using hfits⟩
  | error e => exact makes_log _ _ _ ⟨rfl, _, by simpa using hfits⟩

end Session

end TypedSql
