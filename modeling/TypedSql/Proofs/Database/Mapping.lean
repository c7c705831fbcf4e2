import TypedSql.Proofs.Database.Delivery
import TypedSql.Proofs.Database.Failures

namespace TypedSql

/-! What becomes of failures.  Those of the store are shown to the failure map with the statement
that met them; those of the code that reads the rows are not, nor are those of a connection that
cannot be had. -/

open Session

variable {σ α β : Type}

/-- A failure map that may do something itself, so that it shows when it is asked. -/
abbrev FailureAsk (σ : Type) :=
  (sql : String) → (source : Error) → World σ → Option Error × World σ

theorem Session.bind_pure_apply (x : Session σ α) (g : α → β) (w : World σ) :
    (x >>= fun a => pure (g a)) w = ((x w).1.map g, (x w).2) := by
  rw [Run.bind_apply]
  cases x w with
  | mk result v => cases result <;> rfl

namespace FailureAsk

/-- What the map puts in the place of a failure that it is shown, or else the failure with its
statement.  A panic is not shown. -/
def handed (ask : FailureAsk σ) (sql : String) (e : Error) (w : World σ) : Error × World σ :=
  if e.isPanic then (e, w) else ((ask sql e w).1.getD (.driver sql e), (ask sql e w).2)

def mapping (ask : FailureAsk σ) (sql : String) (x : Session σ α) : Session σ α := fun w =>
  match x w with
  | (.ok a, v) => (.ok a, v)
  | (.error e, v) => (.error (ask.handed sql e v).1, (ask.handed sql e v).2)

section

variable {ask : FailureAsk σ} {sql : String} {x : Session σ α} {w v : World σ}

theorem mapping_ok {a : α} (h : x w = (.ok a, v)) : ask.mapping sql x w = (.ok a, v) := by
  rw [mapping, h]

theorem mapping_error {e : Error} (h : x w = (.error e, v)) :
    ask.mapping sql x w = (.error (ask.handed sql e v).1, (ask.handed sql e v).2) := by
  rw [mapping, h]

end

end FailureAsk

namespace DatabaseSettings

def ask (s : DatabaseSettings) : FailureAsk σ :=
  fun sql e w => (s.failureMap.bind fun map => map sql e, w)

theorem handed_ask (s : DatabaseSettings) (sql : String) (e : Error) (w : World σ) :
    s.ask.handed sql e w = (s.mapFailure sql e, w) := by
  unfold FailureAsk.handed mapFailure
  cases e.isPanic with
  | true => rfl
  | false => rfl

theorem mapping_ask (db : Database σ) (sql : String) (x : Session σ α) :
    db.settings.ask.mapping sql x = db.mappingFailure sql x := by
  funext w
  rw [FailureAsk.mapping, Database.mappingFailure, Run.bind_apply, Run.attempt_apply]
  cases x w with
  | mk result v =>
      cases result with
      | ok a => rfl
      | error e =>
          simp only [handed_ask]
          rfl

end DatabaseSettings

/-- Calls that all succeed. -/
inductive Followed (d : Driver σ) : World σ → List Call → World σ → Prop
  | none {w : World σ} : Followed d w [] w
  | call {c : Call} {a : c.Answer} {calls : List Call} {w v w' : World σ}
      (hfirst : Session.call d c w = (.ok a, v)) (hrest : Followed d v calls w') :
      Followed d w (c :: calls) w'

theorem Followed.append {d : Driver σ} {w v w' : World σ} {calls calls' : List Call}
    (hfirst : Followed d w calls v) (hrest : Followed d v calls' w') :
    Followed d w (calls ++ calls') w' := by
  induction hfirst with
  | none => exact hrest
  | call hanswered _ ih => exact .call hanswered (ih hrest)

def Refused (d : Driver σ) (w : World σ) (calls : List Call) (e : Error) (v : World σ) : Prop :=
  ∃ done failing left u, calls = done ++ failing :: left ∧ Followed d w done u ∧
    Session.call d failing u = (.error e, v)

namespace Refused

variable {d : Driver σ} {w v w' : World σ} {calls calls' : List Call} {e : Error}

theorem first {c : Call} (h : Session.call d c w = (.error e, v)) (left : List Call) :
    Refused d w (c :: left) e v :=
  ⟨[], c, left, w, rfl, .none, h⟩

theorem after (hfirst : Followed d w calls v) (h : Refused d v calls' e w') :
    Refused d w (calls ++ calls') e w' := by
  obtain ⟨done, failing, left, u, rfl, hfollowed, hfailed⟩ := h
  exact ⟨calls ++ done, failing, left, u, (List.append_assoc _ _ _).symm, hfirst.append hfollowed,
    hfailed⟩

theorem append (h : Refused d w calls e v) (calls' : List Call) :
    Refused d w (calls ++ calls') e v := by
  obtain ⟨done, failing, left, u, rfl, hfollowed, hfailed⟩ := h
  exact ⟨done, failing, left ++ calls', u, by simp, hfollowed, hfailed⟩

end Refused

theorem sendBindings_cases (d : Driver σ) (p : Prepared) (bound : List BindCall) (w : World σ) :
    (∃ v, Followed d w (bound.map (.bind p)) v ∧
      bound.forM (fun b => call d (.bind p b)) w = (.ok (), v)) ∨
    ∃ e v, Refused d w (bound.map (.bind p)) e v ∧
      bound.forM (fun b => call d (.bind p b)) w = (.error e, v) := by
  induction bound generalizing w with
  | nil => exact .inl ⟨w, .none, rfl⟩
  | cons b bound ih =>
      have hstep : (b :: bound).forM (fun b => call d (.bind p b)) =
          call d (.bind p b) >>= fun _ => bound.forM fun b => call d (.bind p b) := rfl
      rw [hstep, List.map_cons]
      cases hanswered : call d (.bind p b) w with
      | mk result v =>
          cases result with
          | error e => exact .inr ⟨e, v, .first hanswered _, Run.bind_error hanswered⟩
          | ok _ =>
              rw [Run.bind_ok hanswered]
              have hsent : Followed d w [.bind p b] v := .call hanswered .none
              obtain ⟨v', hfollowed, hrun⟩ | ⟨e, v', hrefused, hrun⟩ := ih v
              · exact .inl ⟨v', hsent.append hfollowed, hrun⟩
              · exact .inr ⟨e, v', hrefused.after hsent, hrun⟩

namespace CompiledSql

def preparation (c : CompiledSql) (p : Prepared) : List Call :=
  .prepare p :: c.bindings.map (.bind p)

end CompiledSql

/-- How a statement comes out on a connection: it is executed, or the first call that fails is shown
to the failure map, and the run ends with what comes of that. -/
inductive Executes (d : Driver σ) (ask : FailureAsk σ) (c : CompiledSql) (p : Prepared)
    (execution : Call) (w : World σ) : Except Error execution.Answer → World σ → Prop
  | refused {e : Error} {v : World σ} (h : Refused d w (c.preparation p ++ [execution]) e v) :
      Executes d ask c p execution w (.error (ask.handed c.sql e v).1) (ask.handed c.sql e v).2
  | executed {v v' : World σ} {answer : execution.Answer} (h : Followed d w (c.preparation p) v)
      (hanswered : call d execution v = (.ok answer, v')) :
      Executes d ask c p execution w (.ok answer) v'

def FailureAsk.execute (ask : FailureAsk σ) (d : Driver σ) (c : CompiledSql) (p : Prepared)
    (execution : Call) : Session σ execution.Answer := do
  ask.mapping c.sql (call d (.prepare p))
  ask.mapping c.sql do
    c.bindings.forM fun b => call d (.bind p b)
    call d execution

theorem FailureAsk.executes (ask : FailureAsk σ) (d : Driver σ) (c : CompiledSql) (p : Prepared)
    (execution : Call) (w : World σ) :
    Executes d ask c p execution w (ask.execute d c p execution w).1
      (ask.execute d c p execution w).2 := by
  rw [execute]
  cases hprepared : call d (.prepare p) w with
  | mk result v =>
      cases result with
      | error e =>
          rw [Run.bind_error (mapping_error hprepared)]
          exact .refused (.first hprepared _)
      | ok _ =>
          rw [Run.bind_ok (mapping_ok hprepared)]
          have hfirst : Followed d w [.prepare p] v := .call hprepared .none
          obtain ⟨v', hfollowed, hsent⟩ | ⟨e, v', hrefused, hsent⟩ :=
            sendBindings_cases d p c.bindings v
          · have hbefore : Followed d w (c.preparation p) v' := hfirst.append hfollowed
            cases hexecuted : call d execution v' with
            | mk answer u =>
                have hrun : (do
                    c.bindings.forM fun b => call d (.bind p b)
                    call d execution : Session σ execution.Answer) v = (answer, u) :=
                  (Run.bind_ok hsent).trans hexecuted
                cases answer with
                | ok a =>
                    rw [mapping_ok hrun]
                    exact .executed hbefore hexecuted
                | error e =>
                    rw [mapping_error hrun]
                    exact .refused (.after hbefore (.first hexecuted []))
          · rw [mapping_error (Run.bind_error hsent)]
            exact .refused (.append (.after hfirst hrefused) [execution])

/-- How reading comes out.  When the callback has failed, its failure ends the run as it is, and
nothing is shown to the failure map, whatever the driver reports.  A driver that stops has handed
over no row since. -/
inductive Reads (ask : FailureAsk σ) (sql : String) (f : β → Row → Session σ β) (d : Delivery)
    (init : β) (w : World σ) : Except Error β → World σ → Prop
  | panicked {e : Error} {b : β} {row : Row} {v v' : World σ} (hpanic : e.isPanic)
      (h : f b row v = (.error e, v')) : Reads ask sql f d init w (.error e) v'
  | failed {handed : List (Row × Option Error)} {report : Except Error Unit} {b : β} {v : World σ}
      {e : Error} (h : d.Hands f init w handed report b v)
      (hlast : Delivery.lastFailure? handed = some e)
      (hstopped : d.Stops → ∃ before row, handed = before ++ [(row, some e)] ∧
        ∀ x ∈ before, x.2 = none) : Reads ask sql f d init w (.error e) v
  | broken {handed : List (Row × Option Error)} {b : β} {v : World σ} {e : Error}
      (h : d.Hands f init w handed (.error e) b v) (hread : Delivery.lastFailure? handed = none) :
      Reads ask sql f d init w (.error (ask.handed sql e v).1) (ask.handed sql e v).2
  | finished {handed : List (Row × Option Error)} {b : β} {v : World σ}
      (h : d.Hands f init w handed (.ok ()) b v) (hread : Delivery.lastFailure? handed = none) :
      Reads ask sql f d init w (.ok b) v

/-- Reads what a driver delivers.  The failure of the callback comes before that of the driver. -/
def FailureAsk.read (ask : FailureAsk σ) (sql : String) (f : β → Row → Session σ β) (d : Delivery)
    (init : β) : Session σ (β × Nat) := do
  let (r, report) ← d.read f { gathered := init }
  match r.failed with
  | some e => throw e
  | none => ask.mapping sql do
    conclude report
    return (r.gathered, r.count)

theorem FailureAsk.reads (ask : FailureAsk σ) (sql : String) (f : β → Row → Session σ β)
    (d : Delivery) (init : β) (w : World σ) :
    Reads ask sql f d init w ((ask.read sql f d init w).1.map Prod.fst)
      (ask.read sql f d init w).2 := by
  rw [read]
  obtain ⟨e, b, row, v, v', hpanic, h, hrun⟩ | ⟨handed, report, b, v, hhands, hrun⟩ :=
    d.read_cases f { gathered := init } w
  · rw [Run.bind_error hrun]
    exact .panicked hpanic h
  · rw [Run.bind_ok hrun]
    cases hlast : Delivery.lastFailure? handed with
    | some e => exact .failed hhands hlast (hhands.stopped hlast)
    | none =>
        cases report with
        | error e => exact .broken hhands hlast
        | ok _ => exact .finished hhands hlast

inductive Queries (d : Driver σ) (ask : FailureAsk σ) (deliver : RowStream → Delivery)
    (f : β → Row → Session σ β) (init : β) (c : CompiledSql) (p : Prepared) (w : World σ) :
    Except Error β → World σ → Prop
  | refused {e : Error} {v : World σ} (h : Executes d ask c p (.executeQuery p) w (.error e) v) :
      Queries d ask deliver f init c p w (.error e) v
  | answered {stream : RowStream} {outcome : Except Error β} {v v' : World σ}
      (h : Executes d ask c p (.executeQuery p) w (.ok stream) v)
      (hread : Reads ask c.sql f (deliver stream) init v outcome v') :
      Queries d ask deliver f init c p w outcome v'

def FailureAsk.query (ask : FailureAsk σ) (d : Driver σ) (deliver : RowStream → Delivery)
    (f : β → Row → Session σ β) (init : β) (c : CompiledSql) (p : Prepared) :
    Session σ (β × Nat) := do
  let stream ← ask.execute d c p (.executeQuery p)
  ask.read c.sql f (deliver stream) init

theorem FailureAsk.queries (ask : FailureAsk σ) (d : Driver σ) (deliver : RowStream → Delivery)
    (f : β → Row → Session σ β) (init : β) (c : CompiledSql) (p : Prepared) (w : World σ) :
    Queries d ask deliver f init c p w ((ask.query d deliver f init c p w).1.map Prod.fst)
      (ask.query d deliver f init c p w).2 := by
  have hexecutes := ask.executes d c p (.executeQuery p) w
  rw [query]
  cases hrun : ask.execute d c p (.executeQuery p) w with
  | mk result v =>
      rw [hrun] at hexecutes
      cases result with
      | error e =>
          rw [Run.bind_error hrun]
          exact .refused hexecutes
      | ok stream =>
          rw [Run.bind_ok hrun]
          exact .answered hexecutes (ask.reads c.sql f (deliver stream) init v)

/-- How an operation comes out.  It ends ahead of its statement when that has no form or there is no
connection to be had, and with what comes of the statement otherwise. -/
inductive Operates (db : Database σ) (statement : Statement)
    (code : CompiledSql → Nat → World σ → Except Error α → World σ → Prop) (w : World σ) :
    Except Error α → World σ → Prop
  | unwritten {e : Error} (h : db.settings.compile statement = .error e) :
      Operates db statement code w (.error e) w
  | unlent {c : CompiledSql} {v v' : World σ} {e : Error}
      (hcompiled : db.settings.compile statement = .ok c)
      (hlogged : Database.logStatement c w = (.ok (), v))
      (h : db.manager.lend v = (.error e, v')) : Operates db statement code w (.error e) v'
  | ran {c : CompiledSql} {v u u' : World σ} {loan : Loan σ} {outcome : Except Error α}
      {logging : Logging} (hcompiled : db.settings.compile statement = .ok c)
      (hlogged : Database.logStatement c w = (.ok (), v))
      (hlent : db.manager.lend v = (.ok loan, u)) (h : code c loan.connection u outcome u') :
      Operates db statement code w outcome { loan.giveBack u' with logging }

theorem Operates.map {db : Database σ} {statement : Statement}
    {code : CompiledSql → Nat → World σ → Except Error α → World σ → Prop}
    {code' : CompiledSql → Nat → World σ → Except Error β → World σ → Prop} {g : α → β}
    (himp : ∀ c n u outcome v, code c n u outcome v → code' c n u (outcome.map g) v)
    {w v : World σ} {outcome : Except Error α} (h : Operates db statement code w outcome v) :
    Operates db statement code' w (outcome.map g) v := by
  cases h with
  | unwritten hrefused => exact .unwritten hrefused
  | unlent hcompiled hlogged hrefused => exact .unlent hcompiled hlogged hrefused
  | ran hcompiled hlogged hlent hran => exact .ran hcompiled hlogged hlent (himp _ _ _ _ _ hran)

namespace Database

theorem logStatement_fst (c : CompiledSql) (w : World σ) : (logStatement c w).1 = .ok () := by
  cases hrun : (logStatement c w).1 with
  | ok _ => rfl
  | error e => exact (failsWith_logStatement (P := fun _ => False) c w e hrun).elim

def operate (db : Database σ) (statement : Statement) (code : CompiledSql → Nat → Session σ α)
    (reported : α → String) : Session σ α := do
  let c ← db.compile statement
  logStatement c
  let result ← db.useConnection (code c)
  log .debug .database (reported result)
  return result

theorem operates (db : Database σ) (statement : Statement)
    (code : CompiledSql → Nat → Session σ α) (reported : α → String)
    {outcomes : CompiledSql → Nat → World σ → Except Error α → World σ → Prop}
    (h : ∀ c n u, outcomes c n u (code c n u).1 (code c n u).2) (w : World σ) :
    Operates db statement outcomes w (db.operate statement code reported w).1
      (db.operate statement code reported w).2 := by
  rw [operate, compile]
  cases hcompiled : db.settings.compile statement with
  | error e => exact .unwritten hcompiled
  | ok c =>
      cases hlogged : logStatement c w with
      | mk result v =>
          obtain rfl : result = .ok () :=
            (congrArg Prod.fst hlogged).symm.trans (logStatement_fst c w)
          rw [conclude, Run.ofExcept_ok, pure_bind, Run.bind_ok hlogged, useConnection,
            Manager.useConnection_eq, bind_assoc]
          cases hlent : db.manager.lend v with
          | mk result u =>
              cases result with
              | error e =>
                  rw [Run.bind_error hlent]
                  exact .unlent hcompiled hlogged hlent
              | ok loan =>
                  rw [Run.bind_ok hlent]
                  have hended := h c loan.connection u
                  cases hrun : code c loan.connection u with
                  | mk outcome u' =>
                      rw [hrun] at hended
                      have hused : loan.use (code c) u = (outcome, loan.giveBack u') := by
                        rw [Loan.use, hrun]
                      cases outcome with
                      | error e =>
                          rw [Run.bind_error hused]
                          exact .ran hcompiled hlogged hlent hended
                      | ok a =>
                          rw [Run.bind_ok hused]
                          exact .ran hcompiled hlogged hlent hended

def executeUpdateAsking (db : Database σ) (ask : FailureAsk σ) (statement : Statement) :
    Session σ RowsAffected :=
  db.operate statement (fun c n =>
    let p : Prepared := ⟨n, c.sql, false⟩
    ask.execute db.manager.driver c p (.executeUpdate p)) fun result =>
      s!"Rows affected: {result.rows}"

theorem executeUpdateAsking_operates (db : Database σ) (ask : FailureAsk σ) (statement : Statement)
    (w : World σ) :
    Operates db statement
      (fun c n => Executes db.manager.driver ask c ⟨n, c.sql, false⟩
        (.executeUpdate ⟨n, c.sql, false⟩))
      w (db.executeUpdateAsking ask statement w).1 (db.executeUpdateAsking ask statement w).2 := by
  refine db.operates statement _ _ (fun c n u => ?_) w
  exact ask.executes db.manager.driver c ⟨n, c.sql, false⟩ _ u

theorem executeUpdateAsking_ask (db : Database σ) (statement : Statement) :
    db.executeUpdateAsking db.settings.ask statement = db.executeUpdate statement := by
  simp only [executeUpdateAsking, operate, FailureAsk.execute, executeUpdate, update, prepare,
    sendBindings, DatabaseSettings.mapping_ask, bind_assoc, pure_bind]

def foldRowsAsking (db : Database σ) (ask : FailureAsk σ) (deliver : RowStream → Delivery)
    (statement : Statement) (init : β) (f : β → Row → Session σ β) : Session σ β := do
  let r ← db.operate statement (fun c n =>
    ask.query db.manager.driver deliver f init c ⟨n, c.sql, false⟩) fun r =>
      s!"Rows returned: {r.2}"
  return r.1

theorem foldRowsAsking_operates (db : Database σ) (ask : FailureAsk σ)
    (deliver : RowStream → Delivery) (statement : Statement) (init : β)
    (f : β → Row → Session σ β) (w : World σ) :
    Operates db statement
      (fun c n => Queries db.manager.driver ask deliver f init c ⟨n, c.sql, false⟩)
      w (db.foldRowsAsking ask deliver statement init f w).1
      (db.foldRowsAsking ask deliver statement init f w).2 := by
  rw [foldRowsAsking, Session.bind_pure_apply]
  refine Operates.map (fun _ _ _ _ _ h => h) (db.operates statement _ _ (fun c n u => ?_) w)
  exact ask.queries db.manager.driver deliver f init c ⟨n, c.sql, false⟩ u

/-- A map that only answers reads the rows of a driver that stops as a fold does. -/
theorem read_ask (s : DatabaseSettings) (sql : String) (f : β → Row → Session σ β)
    {stream : RowStream} {d : Delivery} (hdelivers : stream.Delivers d) (init : β) :
    s.ask.read sql f d init = (do
      let gathered ← stream.rows.foldlM f init
      stream.failure.elim (pure (gathered, stream.rows.length)) fun e =>
        throw (s.mapFailure sql e)) := by
  funext w
  rw [FailureAsk.read]
  obtain ⟨b, v, hfold, hrun⟩ | ⟨e, v, -, hfold, hrun⟩ | ⟨e, v, r, report, -, hfold, hrun⟩ :=
    Delivery.read_of_stops hdelivers.stops hdelivers.follows (w := w) { gathered := init }
  · rw [Run.bind_ok hrun, Run.bind_ok hfold, RowStream.report]
    cases stream.failure with
    | none => simp [FailureAsk.mapping, conclude]
    | some e => simp [FailureAsk.mapping, conclude, DatabaseSettings.handed_ask, Run.bind_apply]
  · rw [Run.bind_error hrun, Run.bind_error hfold]
  · rw [Run.bind_ok hrun, Run.bind_error hfold]
    rfl

/-- However a driver delivers the rows of its answers, if it stops at the first that could not be
read, they come in as in a fold. -/
theorem foldRowsAsking_ask (db : Database σ) {deliver : RowStream → Delivery}
    (hdelivers : ∀ stream : RowStream, stream.Delivers (deliver stream)) (statement : Statement)
    (init : β) (f : β → Row → Session σ β) :
    db.foldRowsAsking db.settings.ask deliver statement init f = db.foldRows statement init f := by
  simp only [foldRowsAsking, operate, FailureAsk.query, FailureAsk.execute, foldRows, prepare,
    sendBindings, DatabaseSettings.mapping_ask, bind_assoc, pure_bind]
  refine bind_congr fun c => bind_congr fun _ => congrArg (· >>= _)
    (congrArg db.useConnection (funext fun n => bind_congr fun _ => bind_congr fun stream => ?_))
  rw [read_ask db.settings c.sql f (hdelivers stream)]
  refine bind_congr fun gathered => ?_
  cases stream.failure with
  | none => rfl
  | some e => rfl

end Database

end TypedSql
