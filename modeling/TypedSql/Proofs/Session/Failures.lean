import TypedSql.Proofs.Session.Lending
import TypedSql.Proofs.Session.Scope

namespace TypedSql

variable {σ α β : Type} {P : Error → Prop}

namespace Session

/-- The code fails only in one way or not at all. -/
def FailsWith (P : Error → Prop) (x : Session σ α) : Prop :=
  ∀ w e, (x w).1 = .error e → P e

theorem failsWith_pure (a : α) : FailsWith P (pure a : Session σ α) := by
  intro w e h
  cases h

theorem failsWith_throw {e : Error} (h : P e) : FailsWith P (throw e : Session σ α) := by
  intro w e' hfailed
  cases hfailed
  exact h

theorem failsWith_attempt (x : Session σ α) : FailsWith P x.attempt := by
  intro w e h
  cases h

/-- What a handler sees has come of the code that it is for. -/
theorem FailsWith.of_attempt {x : Session σ α} (h : FailsWith P x) {outcome : Except Error α}
    (hattempted : x.attempt.Gives outcome) {e : Error} (hfailed : outcome = .error e) : P e := by
  obtain ⟨w, w', hrun⟩ := hattempted
  rw [Run.attempt_apply] at hrun
  exact h w e ((Except.ok.inj (congrArg Prod.fst hrun)).trans hfailed)

theorem failsWith_get : FailsWith P (get : Session σ (World σ)) := by
  intro w e h
  cases h

theorem failsWith_modify (f : World σ → World σ) : FailsWith P (modify f : Session σ PUnit) := by
  intro w e h
  cases h

theorem failsWith_log (level : LogLevel) (source : LogSource) (message : String) :
    FailsWith P (log level source message : Session σ Unit) :=
  failsWith_modify _

theorem failsWith_conclude {outcome : Except Error α} (h : ∀ e, outcome = .error e → P e) :
    FailsWith P (conclude outcome : Session σ α) := by
  intro w e hfailed
  rw [conclude, Run.ofExcept_apply] at hfailed
  exact h e hfailed

theorem failsWith_reporting (level : LogLevel) (source : LogSource) (what : String)
    (x : Session σ Unit) : FailsWith P (reporting level source what x) := by
  intro w e hfailed
  rw [reporting_fst] at hfailed
  cases hfailed

theorem FailsWith.bind {x : Session σ α} {f : α → Session σ β} (hx : FailsWith P x)
    (hf : ∀ a, x.Gives a → FailsWith P (f a)) : FailsWith P (x >>= f) := by
  intro w e hfailed
  rw [Run.bind_apply] at hfailed
  cases hrun : x w with
  | mk result w' =>
      rw [hrun] at hfailed
      cases result with
      | ok a => exact hf a ⟨w, w', hrun⟩ w' e hfailed
      | error e' =>
          cases hfailed
          exact hx w e (congrArg Prod.fst hrun)

end Session

open Session

/-- The calls of a driver fail only in one way or not at all. -/
def Driver.FailsWith (P : Error → Prop) (d : Driver σ) : Prop :=
  ∀ c s e, (d.run c s).1 = .error e → P e

theorem Driver.FailsWith.call {d : Driver σ} (h : d.FailsWith P) (c : Call) :
    Session.FailsWith P (Session.call d c) :=
  fun w e hfailed => h c w.store e hfailed

namespace Transaction

variable {d : Driver σ}

theorem failsWith_setUp (hd : d.FailsWith P) (t : Transaction) (connection : Nat) :
    FailsWith P (t.setUp d connection) := by
  have hautocommitting (isolation : Option Isolation) : FailsWith P (do
      let autocommit ← call d (.autocommit connection)
      if autocommit then call d (.setAutocommit connection false)
      return (⟨connection, isolation, autocommit⟩ : OpenConnection)) := by
    refine (hd.call _).bind fun autocommit _ => ?_
    cases autocommit with
    | false => exact failsWith_pure _
    | true => exact (hd.call (.setAutocommit connection false)).bind fun _ _ => failsWith_pure _
  refine (hd.call _).bind fun isolation _ => ?_
  cases t.isolation with
  | none => exact hautocommitting isolation
  | some wanted =>
      by_cases hchange : isolation ≠ some wanted
      · simp only [if_pos hchange]
        exact (hd.call _).bind fun _ _ => hautocommitting isolation
      · simp only [if_neg hchange]
        exact hautocommitting isolation

theorem failsWith_connect (hd : d.FailsWith P) (t : Transaction) :
    FailsWith P (t.connect d) := by
  refine (hd.call _).bind fun connection _ => ?_
  refine (failsWith_attempt _).bind fun outcome hattempted => ?_
  cases outcome with
  | ok opened => exact failsWith_pure opened
  | error e =>
      exact (failsWith_reporting _ _ _ _).bind fun _ _ =>
        failsWith_throw ((failsWith_setUp hd t connection).of_attempt hattempted rfl)

theorem failsWith_idle (t : Transaction) (hbusy : P (.usage .connectionInUse)) :
    FailsWith P (t.idle : Session σ TransactionState) := by
  intro w e hfailed
  simp only [idle, Run.bind_apply, Run.get_apply] at hfailed
  split at hfailed
  · cases hfailed
    exact hbusy
  · cases hfailed

theorem failsWith_lend (t : Transaction) (hd : d.FailsWith P)
    (hbusy : P (.usage .connectionInUse)) : FailsWith P (t.lend d) := by
  have hmarking (o : OpenConnection) : FailsWith P (do
      modify (·.setState t ⟨some o, true⟩)
      return t.loan o : Session σ (Loan σ)) :=
    (failsWith_modify _).bind fun _ _ => failsWith_pure _
  refine (failsWith_idle t hbusy).bind fun s _ => ?_
  cases s.opened with
  | some o => exact hmarking o
  | none => exact (failsWith_connect hd t).bind fun o _ => hmarking o

theorem failsWith_withConnection (hd : d.FailsWith P) (hbusy : P (.usage .connectionInUse))
    (t : Transaction) {f : Nat → Session σ α} (hf : ∀ n, FailsWith P (f n)) :
    FailsWith P (t.withConnection d f) := by
  rw [withConnection_eq]
  exact (t.failsWith_lend hd hbusy).bind fun loan _ w e hfailed => hf loan.connection w e hfailed

theorem failsWith_commit (hd : d.FailsWith P) (hbusy : P (.usage .connectionInUse))
    (t : Transaction) : FailsWith P (t.commit d) := by
  refine (failsWith_idle t hbusy).bind fun s _ => ?_
  cases s.opened with
  | none => exact failsWith_pure _
  | some o => exact (failsWith_log _ _ _).bind fun _ _ => hd.call (.commit o.connection)

/-- What goes wrong while a connection is given back is reported and no failure. -/
theorem failsWith_release (d : Driver σ) (t : Transaction) (o : OpenConnection) :
    FailsWith P (t.release d o) := by
  have hclosing : FailsWith P (do
      if o.autocommit then
        reporting .warn .transaction "Could not restore autocommit"
          (call d (.setAutocommit o.connection true))
      reporting .warn .transaction "Could not close the transaction connection"
        (call d (.close o.connection))) := by
    cases o.autocommit with
    | false => exact failsWith_reporting _ _ _ _
    | true => exact (failsWith_reporting _ _ _ _).bind fun _ _ => failsWith_reporting _ _ _ _
  unfold release
  cases o.isolation with
  | none => exact hclosing
  | some captured =>
      cases hchanged : t.isolation.any (· ≠ captured) with
      | false =>
          simp only [hchanged, Bool.false_eq_true, if_false]
          exact hclosing
      | true =>
          simp only [hchanged, if_true]
          exact (failsWith_reporting _ _ _ _).bind fun _ _ => hclosing

theorem failsWith_close (d : Driver σ) (t : Transaction) : FailsWith P (t.close d) := by
  refine failsWith_get.bind fun w _ => ?_
  extract_lets s leave
  split
  · exact (failsWith_log _ _ _).bind fun _ _ => failsWith_modify _
  · refine (failsWith_modify _).bind fun _ _ => ?_
    cases s.opened with
    | none => exact failsWith_modify _
    | some o => exact (failsWith_release d t o).bind fun _ _ => failsWith_modify _

end Transaction

namespace Manager

variable {m : Manager σ}

theorem failsWith_current? (m : Manager σ) : FailsWith P m.current? := by
  cases m with
  | threaded _ _ _ => exact failsWith_get.bind fun _ _ => failsWith_pure _
  | external _ => exact failsWith_pure _

theorem failsWith_lend (hd : m.driver.FailsWith P) (hbusy : P (.usage .connectionInUse)) :
    FailsWith P m.lend := by
  refine m.failsWith_current?.bind fun bound _ => ?_
  cases bound with
  | some t => exact t.failsWith_lend hd hbusy
  | none => exact (hd.call _).bind fun _ _ => failsWith_pure _

theorem failsWith_useConnection (hd : m.driver.FailsWith P) (hbusy : P (.usage .connectionInUse))
    {f : Nat → Session σ α} (hf : ∀ n, FailsWith P (f n)) : FailsWith P (m.useConnection f) := by
  rw [useConnection_eq]
  exact (failsWith_lend hd hbusy).bind fun loan _ w e hfailed => hf loan.connection w e hfailed

theorem failsWith_begin (husage : ∀ fault, P (.usage fault)) (m : Manager σ)
    (isolation : Option Isolation) : FailsWith P (m.begin isolation) := by
  cases m with
  | external _ => exact failsWith_throw (husage _)
  | threaded id d default =>
      intro w e hfailed
      cases hcurrent : w.current? id with
      | some t =>
          have hrefused : (threaded id d default).begin isolation w =
              (.error (.usage .transactionActive), w) := by
            simp [begin, Run.bind_apply, hcurrent]
          rw [hrefused] at hfailed
          cases hfailed
          exact husage _
      | none =>
          simp only [begin, Run.bind_apply, Run.get_apply, hcurrent, log] at hfailed
          cases hfailed

/-- The failure of the scope itself counts, and without one that of the commit. -/
theorem failsWith_finish (hd : m.driver.FailsWith P) (hbusy : P (.usage .connectionInUse))
    (t : Transaction) (rollsBack : Error → Bool) {outcome : Except Error α}
    (h : ∀ e, outcome = .error e → P e) : FailsWith P (m.finish t rollsBack outcome) := by
  cases outcome with
  | ok a =>
      refine (failsWith_attempt _).bind fun ended hattempted => ?_
      refine (t.failsWith_close m.driver).bind fun _ _ => ?_
      have hcommitted : FailsWith P (conclude ended : Session σ Unit) :=
        failsWith_conclude fun e hfailed =>
          (t.failsWith_commit hd hbusy).of_attempt hattempted hfailed
      exact hcommitted.bind fun _ _ => failsWith_pure a
  | error e =>
      unfold finish
      simp only
      split
      · refine (failsWith_reporting _ _ _ _).bind fun _ _ => ?_
        exact (t.failsWith_close m.driver).bind fun _ _ => failsWith_throw (h e rfl)
      · refine (failsWith_attempt _).bind fun ended _ => ?_
        refine (t.failsWith_close m.driver).bind fun _ _ => ?_
        exact (failsWith_reporting _ _ _ _).bind fun _ _ => failsWith_throw (h e rfl)

/-- A scope fails as its body does, as its commit does, or because it cannot begin. -/
theorem failsWith_useTransaction (hd : m.driver.FailsWith P) (husage : ∀ fault, P (.usage fault))
    (isolation : Option Isolation) (rollsBack : Error → Bool) {body : Transaction → Session σ α}
    (hbody : ∀ t, FailsWith P (body t)) :
    FailsWith P (m.useTransaction isolation rollsBack body) := by
  refine m.failsWith_current?.bind fun bound _ => ?_
  cases bound with
  | some t => exact hbody t
  | none =>
      refine (failsWith_begin husage m _).bind fun t _ => ?_
      refine (failsWith_attempt _).bind fun outcome hattempted => ?_
      exact failsWith_finish hd (husage _) t rollsBack fun e hfailed =>
        (hbody t).of_attempt hattempted hfailed

end Manager

end TypedSql
