import TypedSql.Proofs.Database.Mapping
import TypedSql.Proofs.Database.Refusals
import TypedSql.Proofs.Session.Ending
import TypedSql.Proofs.Session.Lending

namespace TypedSql

/-! What an operation that changes rows tells the store about its statement: it is prepared once,
its parameters are bound in their order, and it is executed, up to the first call that fails. -/

open Session

variable {σ α : Type}

namespace World

/-- Between two moments these exchanges about statements have taken place.  What else is said has
to do with connections. -/
def Stated (w : World (σ × List Exchange)) (xs : List Exchange) (w' : World (σ × List Exchange)) :
    Prop :=
  ∃ es, w'.trace = w.trace ++ es ∧ es.filter (·.call.isStatement) = xs

namespace Stated

variable {w w' w'' : World (σ × List Exchange)} {xs ys : List Exchange}

theorem of_trace (h : w'.trace = w.trace) : w.Stated [] w' :=
  ⟨[], by rw [h, List.append_nil], rfl⟩

theorem trans (hfirst : w.Stated xs w') (hsecond : w'.Stated ys w'') : w.Stated (xs ++ ys) w'' := by
  obtain ⟨es, htrace, rfl⟩ := hfirst
  obtain ⟨es', htrace', rfl⟩ := hsecond
  exact ⟨es ++ es', by rw [htrace', htrace, List.append_assoc], List.filter_append ..⟩

theorem after (hquiet : w.Stated [] w') (h : w'.Stated xs w'') : w.Stated xs w'' :=
  hquiet.trans h

theorem before (h : w.Stated xs w') (hquiet : w'.Stated [] w'') : w.Stated xs w'' := by
  have hboth := h.trans hquiet
  rwa [List.append_nil] at hboth

theorem of_exchanged {es : List Exchange} (hmade : w.Exchanged es w')
    (hupkeep : ∀ x ∈ es, x.call.isUpkeep) : w.Stated [] w' := by
  refine ⟨es, hmade.trace, List.filter_eq_nil_iff.mpr fun x hx => ?_⟩
  rw [Call.isStatement_of_isUpkeep (hupkeep x hx)]
  exact Bool.false_ne_true

theorem of_call (d : Driver σ) {c : Call} (hstatement : c.isStatement) :
    w.Stated [⟨c, (call d.traced c w).1⟩] (call d.traced c w).2 :=
  ⟨[_], rfl, List.filter_cons_of_pos hstatement⟩

end Stated

end World

section

variable {d : Driver σ} {m : Manager (σ × List Exchange)} {w u : World (σ × List Exchange)}

theorem Transaction.stated_connect (d : Driver σ) (t : Transaction)
    (w : World (σ × List Exchange)) : w.Stated [] (t.connect d.traced w).2 := by
  obtain ⟨es, hmade, houtcome⟩ := t.makes_connect d w
  refine .of_exchanged hmade ?_
  cases hopened : (t.connect d.traced w).1 with
  | ok o =>
      rw [hopened] at houtcome
      rw [show es = t.opening o from houtcome]
      exact isUpkeep_of_opening
  | error e =>
      rw [hopened] at houtcome
      exact isUpkeep_of_failed (BrokenOpening.failed houtcome)

theorem Transaction.lend_stated (d : Driver σ) (t : Transaction) (w : World (σ × List Exchange)) :
    ∃ v, w.Stated [] v ∧ ((∃ e, t.lend d.traced w = (.error e, v)) ∨
      ∃ o, t.lend d.traced w = (.ok (t.loan o), v)) := by
  cases hstate : w.state t with
  | mk opened inUse =>
      cases inUse with
      | true =>
          refine ⟨w, .of_trace rfl, .inl ⟨.usage .connectionInUse, ?_⟩⟩
          simp [lend, idle, Run.bind_apply, hstate]
      | false =>
          cases opened with
          | some o =>
              refine ⟨w.setState t ⟨some o, true⟩, .of_trace rfl, .inr ⟨o, ?_⟩⟩
              simp only [lend, idle, Run.bind_apply, Run.get_apply, hstate]
              rfl
          | none =>
              have hconnecting := t.stated_connect d w
              cases hconnect : t.connect d.traced w with
              | mk result v =>
                  rw [hconnect] at hconnecting
                  cases result with
                  | error e =>
                      refine ⟨v, hconnecting, .inl ⟨e, ?_⟩⟩
                      simp [lend, idle, Run.bind_apply, hstate, hconnect]
                  | ok o =>
                      refine ⟨v.setState t ⟨some o, true⟩, hconnecting.before (.of_trace rfl),
                        .inr ⟨o, ?_⟩⟩
                      simp only [lend, idle, Run.bind_apply, Run.get_apply, hstate]
                      exact Run.bind_ok hconnect

namespace Manager

theorem lend_of_bound {m : Manager σ} {w : World σ} {t : Transaction} (h : m.bound? w = some t) :
    m.lend w = t.lend m.driver w := by
  refine (Run.bind_ok (m.current?_apply w)).trans ?_
  rw [h]

theorem lend_of_free {m : Manager σ} {w : World σ} (h : m.bound? w = none) :
    m.lend w = (do
      let connection ← call m.driver .connect
      let closing := reporting .warn .transaction "Could not close the connection"
        (call m.driver (.close connection))
      return (⟨connection, fun w => (closing w).2⟩ : Loan σ)) w := by
  refine (Run.bind_ok (m.current?_apply w)).trans ?_
  rw [h]

theorem lend_stated (hdriver : m.driver = d.traced) (w : World (σ × List Exchange)) :
    ∃ v, w.Stated [] v ∧ ((∃ e, m.lend w = (.error e, v)) ∨
      ∃ loan, m.lend w = (.ok loan, v) ∧
        ∀ u : World (σ × List Exchange), u.Stated [] (loan.giveBack u)) := by
  cases hbound : m.bound? w with
  | some t =>
      rw [lend_of_bound hbound, hdriver]
      obtain ⟨v, hstated, hrefused | ⟨o, hlent⟩⟩ := t.lend_stated d w
      · exact ⟨v, hstated, .inl hrefused⟩
      · exact ⟨v, hstated, .inr ⟨t.loan o, hlent, fun u => .of_trace rfl⟩⟩
  | none =>
      rw [lend_of_free hbound, hdriver]
      obtain ⟨es, hmade, hupkeep⟩ := makes_call (σ := σ) d .connect
        (P := fun _ es => ∀ x ∈ es, x.call.isUpkeep) (fun _ => by simp [Call.isUpkeep]) w
      cases hconnect : call d.traced .connect w with
      | mk result v =>
          rw [hconnect] at hmade
          refine ⟨v, .of_exchanged hmade hupkeep, ?_⟩
          cases result with
          | error e => exact .inl ⟨e, Run.bind_error hconnect⟩
          | ok connection =>
              refine .inr ⟨_, Run.bind_ok hconnect, fun u => ?_⟩
              obtain ⟨es, hclosed, -, result, hclosing⟩ :=
                (makes_call (σ := σ) d (.close connection)
                  (P := fun _ es => ∀ x ∈ es, x.call.isUpkeep)
                  (fun _ => by simp [Call.isUpkeep])).reporting
                  .warn .transaction "Could not close the connection" u
              exact .of_exchanged hclosed hclosing

end Manager

theorem Followed.stated {calls : List Call} (h : Followed d.traced w calls u)
    (hstatements : ∀ c ∈ calls, c.isStatement) :
    ∃ xs, w.Stated xs u ∧ xs.map Exchange.call = calls := by
  induction h with
  | none => exact ⟨[], .of_trace rfl, rfl⟩
  | @call c a calls w v u hfirst _ ih =>
      obtain ⟨hhere, hlater⟩ := List.forall_mem_cons.mp hstatements
      obtain ⟨xs, hstated, hsaid⟩ := ih hlater
      have htold := World.Stated.of_call (w := w) d hhere
      rw [hfirst] at htold
      exact ⟨_, htold.trans hstated, congrArg (c :: ·) hsaid⟩

theorem Refused.stated {calls : List Call} {e : Error} (h : Refused d.traced w calls e u)
    (hstatements : ∀ c ∈ calls, c.isStatement) :
    ∃ xs, w.Stated xs u ∧ xs ≠ [] ∧ xs.map Exchange.call <+: calls := by
  obtain ⟨done, failing, left, v, rfl, hfollowed, hfailed⟩ := h
  obtain ⟨hbefore, hhere, -⟩ := by
    simpa only [List.forall_mem_append, List.forall_mem_cons] using hstatements
  obtain ⟨xs, hstated, hsaid⟩ := hfollowed.stated hbefore
  have htold := World.Stated.of_call (w := v) d hhere
  rw [hfailed] at htold
  refine ⟨_, hstated.trans htold, ?_, left, ?_⟩
  · exact List.append_ne_nil_of_right_ne_nil _ (List.cons_ne_nil _ _)
  · simp [hsaid]

namespace CompiledSql

def updating (c : CompiledSql) (p : Prepared) : List Call :=
  c.preparation p ++ [.executeUpdate p]

theorem isStatement_of_mem_preparation (c : CompiledSql) (p : Prepared) :
    ∀ x ∈ c.preparation p, x.isStatement := by
  refine List.forall_mem_cons.mpr ⟨rfl, fun x hx => ?_⟩
  obtain ⟨b, -, rfl⟩ := List.mem_map.mp hx
  rfl

theorem isStatement_of_mem_updating (c : CompiledSql) (p : Prepared) :
    ∀ x ∈ c.updating p, x.isStatement :=
  List.forall_mem_append.mpr ⟨c.isStatement_of_mem_preparation p, List.forall_mem_singleton.mpr rfl⟩

theorem filter_isPrepare_of_prefix (c : CompiledSql) (p : Prepared) {calls : List Call}
    (hstarted : calls ≠ []) (hpart : calls <+: c.updating p) :
    calls.filter Call.isPrepare = [.prepare p] := by
  obtain ⟨first, rest, rfl⟩ := List.exists_cons_of_ne_nil hstarted
  obtain ⟨left, hwhole⟩ := hpart
  have hwhole : first :: (rest ++ left) =
      .prepare p :: (c.bindings.map (.bind p) ++ [.executeUpdate p]) := hwhole
  obtain ⟨rfl, hothers⟩ := List.cons.inj hwhole
  have hnone : ∀ x ∈ rest, x.isPrepare = false := by
    intro x hx
    have hmem := List.mem_append_left left hx
    rw [hothers] at hmem
    rcases List.mem_append.mp hmem with hmem | hmem
    · obtain ⟨b, -, rfl⟩ := List.mem_map.mp hmem
      rfl
    · rw [List.mem_singleton.mp hmem]
      rfl
  rw [List.filter_cons_of_pos rfl, List.filter_eq_nil_iff.mpr fun x hx => by simp [hnone x hx]]

end CompiledSql

/-- On a connection the statement is prepared in any case, and when it has been executed, everything
ahead of that has been said. -/
theorem Executes.stated {s : DatabaseSettings} {c : CompiledSql} {p : Prepared}
    {outcome : Except Error (Call.executeUpdate p).Answer}
    (h : Executes d.traced s.ask c p (Call.executeUpdate p) w outcome u) :
    ∃ xs, w.Stated xs u ∧ xs ≠ [] ∧ xs.map Exchange.call <+: c.updating p ∧
      ∀ result, outcome = .ok result → ∃ before, before.map Exchange.call = c.preparation p ∧
        xs = before ++ [⟨.executeUpdate p, .ok result⟩] := by
  cases h with
  | @refused e v hrefused =>
      obtain ⟨xs, hstated, hstarted, hpart⟩ := hrefused.stated (c.isStatement_of_mem_updating p)
      rw [s.handed_ask c.sql e v]
      exact ⟨xs, hstated, hstarted, hpart, fun _ himpossible => nomatch himpossible⟩
  | @executed v u answer hfollowed hanswered =>
      obtain ⟨before, hstated, hsaid⟩ := hfollowed.stated (c.isStatement_of_mem_preparation p)
      have htold := World.Stated.of_call (w := v) d (c := .executeUpdate p) rfl
      rw [hanswered] at htold
      refine ⟨_, hstated.trans htold, ?_, ?_, ?_⟩
      · exact List.append_ne_nil_of_right_ne_nil _ (List.cons_ne_nil _ _)
      · rw [List.map_append, hsaid]
        exact List.prefix_rfl
      · rintro result ⟨⟩
        exact ⟨before, hsaid, rfl⟩

end

/-- How an operation that changes rows comes out, with what has been said about its statement. -/
inductive Updates (s : DatabaseSettings) (statement : Statement) (keys : Bool) :
    Except Error RowsAffected → List Exchange → Prop
  | unprepared {e : Error} : Updates s statement keys (.error e) []
  | refused {c : CompiledSql} {n : Nat} {xs : List Exchange} {e : Error}
      (hcompiled : s.compile statement = .ok c) (hstarted : xs ≠ [])
      (hpart : xs.map Exchange.call <+: c.updating ⟨n, c.sql, keys⟩) :
      Updates s statement keys (.error e) xs
  | changed {c : CompiledSql} {n : Nat} {before : List Exchange} {result : RowsAffected}
      (hcompiled : s.compile statement = .ok c)
      (hsaid : before.map Exchange.call = c.preparation ⟨n, c.sql, keys⟩) :
      Updates s statement keys (.ok result)
        (before ++ [⟨.executeUpdate ⟨n, c.sql, keys⟩, .ok result⟩])

namespace Updates

variable {s : DatabaseSettings} {statement : Statement} {keys : Bool}
  {outcome : Except Error RowsAffected} {xs : List Exchange}

/-- What has been said is where carrying out the statement begins. -/
theorem part (h : Updates s statement keys outcome xs) (hstarted : xs ≠ []) :
    ∃ c n, s.compile statement = .ok c ∧ xs.map Exchange.call <+: c.updating ⟨n, c.sql, keys⟩ := by
  cases h with
  | unprepared => exact absurd rfl hstarted
  | refused hcompiled _ hpart => exact ⟨_, _, hcompiled, hpart⟩
  | @changed c n before result hcompiled hsaid =>
      refine ⟨c, n, hcompiled, ?_⟩
      rw [List.map_append, hsaid]
      exact List.prefix_rfl

end Updates

/-- Whatever has been reported, a connection can be had. -/
def Manager.HandsOut (m : Manager σ) (w : World σ) : Prop :=
  ∀ logging, ∃ loan v, m.lend { w with logging } = (.ok loan, v)

theorem forM_logs {f : α → Session σ Unit}
    (heach : ∀ a w, ∃ logging, f a w = (.ok (), { w with logging })) (as : List α) (w : World σ) :
    ∃ logging, (as.forM f w).2 = { w with logging } := by
  induction as generalizing w with
  | nil => exact ⟨w.logging, rfl⟩
  | cons a as ih =>
      obtain ⟨logging, hfirst⟩ := heach a w
      obtain ⟨logging', hrest⟩ := ih { w with logging }
      exact ⟨logging', (congrArg Prod.snd (Run.bind_ok hfirst)).trans hrest⟩

namespace Database

theorem logStatement_snd (c : CompiledSql) (w : World σ) :
    ∃ logging, (logStatement c w).2 = { w with logging } :=
  forM_logs (fun _ _ => ⟨_, rfl⟩) _ { w with logging := _ }

theorem stated_logStatement {c : CompiledSql} {w v : World (σ × List Exchange)}
    {result : Except Error Unit} (h : logStatement c w = (result, v)) : w.Stated [] v := by
  obtain ⟨logging, hlogged⟩ := logStatement_snd c w
  rw [h] at hlogged
  rw [show v = { w with logging } from hlogged]
  exact .of_trace rfl

def updating (db : Database σ) (statement : Statement) (generatedKeys : Bool) :
    Session σ RowsAffected := do
  db.update (← db.compile statement) generatedKeys

theorem updating_eq_operate (db : Database σ) (statement : Statement) (generatedKeys : Bool) :
    db.updating statement generatedKeys = db.operate statement (fun c n =>
      let p : Prepared := ⟨n, c.sql, generatedKeys⟩
      db.settings.ask.execute db.manager.driver c p (.executeUpdate p)) fun result =>
        s!"Rows affected: {result.rows}" := by
  simp only [updating, operate, FailureAsk.execute, update, prepare,
    sendBindings, DatabaseSettings.mapping_ask, bind_assoc, pure_bind]

variable {d : Driver σ} {db : Database (σ × List Exchange)}

theorem updating_operates (db : Database σ) (statement : Statement) (keys : Bool) (w : World σ) :
    Operates db statement
      (fun c n => Executes db.manager.driver db.settings.ask c ⟨n, c.sql, keys⟩
        (.executeUpdate ⟨n, c.sql, keys⟩))
      w (db.updating statement keys w).1 (db.updating statement keys w).2 := by
  rw [updating_eq_operate]
  refine db.operates statement _ _ (fun c n u => ?_) w
  exact db.settings.ask.executes db.manager.driver c ⟨n, c.sql, keys⟩ _ u

variable (hdriver : db.manager.driver = d.traced)
include hdriver

/-- Apart from its run on a connection, an operation tells the store nothing about statements.  It
ends without such a run if its statement has no form, or there is no connection to be had. -/
theorem stated_of_operates {statement : Statement}
    {code : CompiledSql → Nat → World (σ × List Exchange) → Except Error α →
      World (σ × List Exchange) → Prop} {w after : World (σ × List Exchange)}
    {outcome : Except Error α} (h : Operates db statement code w outcome after) :
    (w.Stated [] after ∧ (∃ e, outcome = .error e) ∧
      (db.manager.HandsOut w → ∃ e, db.settings.compile statement = .error e)) ∨
    ∃ c n u v, db.settings.compile statement = .ok c ∧ code c n u outcome v ∧
      w.Stated [] u ∧ v.Stated [] after := by
  cases h with
  | unwritten hrefused => exact .inl ⟨.of_trace rfl, ⟨_, rfl⟩, fun _ => ⟨_, hrefused⟩⟩
  | @unlent c v v' e hcompiled hlogged hrefused =>
      obtain ⟨logging, hsame⟩ := logStatement_snd c w
      rw [hlogged] at hsame
      obtain ⟨u, hstated, ⟨e', hlent⟩ | ⟨loan, hlent, -⟩⟩ := Manager.lend_stated hdriver v
      · cases hrefused.symm.trans hlent
        refine .inl ⟨(stated_logStatement hlogged).after hstated, ⟨_, rfl⟩, fun hhandsOut => ?_⟩
        obtain ⟨loan, u, hlent⟩ := hhandsOut logging
        rw [← hsame] at hlent
        cases hrefused.symm.trans hlent
      · cases hrefused.symm.trans hlent
  | @ran c v u u' loan outcome logging hcompiled hlogged hlent hran =>
      obtain ⟨v', hstated, ⟨e', hrefused⟩ | ⟨loan', hlent', hgivenBack⟩⟩ :=
        Manager.lend_stated hdriver v
      · cases hlent.symm.trans hrefused
      cases hlent.symm.trans hlent'
      refine .inr ⟨c, loan.connection, u, u', hcompiled, hran, ?_, ?_⟩
      · exact (stated_logStatement hlogged).after hstated
      · exact (hgivenBack u').before (.of_trace rfl)

/-- A statement that has a form is prepared, if there is a connection to prepare it on. -/
theorem updating_stated (statement : Statement) (keys : Bool) (w : World (σ × List Exchange)) :
    ∃ xs, w.Stated xs (db.updating statement keys w).2 ∧
      Updates db.settings statement keys (db.updating statement keys w).1 xs ∧
      (xs = [] → db.manager.HandsOut w → ∃ e, db.settings.compile statement = .error e) := by
  have hoperates := db.updating_operates statement keys w
  generalize (db.updating statement keys w).1 = outcome at hoperates ⊢
  generalize (db.updating statement keys w).2 = after at hoperates ⊢
  obtain ⟨hstated, ⟨e, rfl⟩, hunwritten⟩ | ⟨c, n, u, v, hcompiled, hran, hbefore, hbehind⟩ :=
    stated_of_operates hdriver hoperates
  · exact ⟨[], hstated, .unprepared, fun _ => hunwritten⟩
  · rw [hdriver] at hran
    obtain ⟨xs, hexecuted, hstarted, hpart, hfinished⟩ := hran.stated
    refine ⟨xs, (hbefore.after hexecuted).before hbehind, ?_, fun hnone => absurd hnone hstarted⟩
    cases outcome with
    | error e => exact .refused hcompiled hstarted hpart
    | ok result =>
        obtain ⟨before, hsaid, rfl⟩ := hfinished result rfl
        exact .changed hcompiled hsaid

end Database

end TypedSql
