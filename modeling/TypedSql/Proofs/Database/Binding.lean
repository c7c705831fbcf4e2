import TypedSql.Proofs.Database.Insertion
import TypedSql.Proofs.Writer.Outside

namespace TypedSql

/-! What a store is told of a statement when all its calls succeed: the statement is prepared, each
placeholder of its text gets its value, and the statement is executed. -/

open Session

variable {σ α β E : Type}

def Driver.Succeeds (d : Driver σ) : Prop :=
  ∀ c s, ∃ a, (d.run c s).1 = .ok a

section

variable {d : Driver σ} {w u : World (σ × List Exchange)}

theorem Refused.of_succeeds {calls : List Call} {e : Error} (hsucceeds : d.Succeeds) :
    ¬Refused d.traced w calls e u := by
  rintro ⟨done, failing, left, v, -, -, hfailed⟩
  obtain ⟨a, hanswered⟩ := hsucceeds failing v.store.1
  have htold : (d.run failing v.store.1).1 = .error e := congrArg Prod.fst hfailed
  rw [hanswered] at htold
  cases htold

theorem Executes.said (hsucceeds : d.Succeeds) {ask : FailureAsk (σ × List Exchange)}
    {c : CompiledSql} {p : Prepared} {execution : Call} {answer : Except Error execution.Answer}
    (hstatement : execution.isStatement)
    (h : Executes d.traced ask c p execution w answer u) :
    ∃ xs, w.Stated xs u ∧ xs.map Exchange.call = c.preparation p ++ [execution] := by
  cases h with
  | refused hrefused => exact absurd hrefused (Refused.of_succeeds hsucceeds)
  | @executed v u answer hfollowed hanswered =>
      obtain ⟨xs, hstated, hsaid⟩ := hfollowed.stated (c.isStatement_of_mem_preparation p)
      have htold := World.Stated.of_call (w := v) d hstatement
      rw [hanswered] at htold
      exact ⟨_, hstated.trans htold, by rw [List.map_append, hsaid]; rfl⟩

end

/-- The calls that carry out a statement: between its preparation and its execution there is a
binding for each of its parameters in their order, and so for each placeholder of its text. -/
inductive Sends (s : DatabaseSettings) (statement : Statement) (execution : Prepared → Call) :
    List Call → Prop
  | bound {c : CompiledSql} {p : Prepared} {bound : List BindCall}
      (hcompiled : s.compile statement = .ok c) (htext : p.sql = c.sql)
      (hcount : bound.length = c.parameters.length)
      (heach : ∀ (i : Nat) (q : Parameter), c.parameters[i]? = some q → bound[i]? = some
        (if q.value.isNull then BindCall.bindNull i q.codec.type else BindCall.bind i q.value))
      (hpresent : ∀ i v, BindCall.bind i v ∈ bound → v.isNull = false)
      (hplaceholders : statement.IsUnmarked s.writer →
        Sql.outside s.writer.dialect.marker p.sql.toList = bound.length) :
      Sends s statement execution (.prepare p :: bound.map (.bind p) ++ [execution p])

theorem BindCall.isNull_of_ofValue {i j : Nat} {type : WireType} {v v' : Value}
    (h : ofValue i type v = .bind j v') : v'.isNull = false := by
  unfold ofValue at h
  split at h
  next => cases h
  next hpresent =>
    cases h
    simpa using hpresent

theorem Sends.of_compile {s : DatabaseSettings} {statement : Statement} {c : CompiledSql}
    (hcompiled : s.compile statement = .ok c) {p : Prepared} (htext : p.sql = c.sql)
    (execution : Prepared → Call) :
    Sends s statement execution (c.preparation p ++ [execution p]) := by
  have hlength : c.bindings.length = c.parameters.length := List.length_mapIdx
  refine .bound hcompiled htext hlength ?_ ?_ ?_
  · intro i q h
    rw [CompiledSql.bindings, List.getElem?_mapIdx, h]
    rfl
  · intro i v h
    obtain ⟨j, hinside, hsame⟩ := List.mem_mapIdx.mp h
    exact BindCall.isNull_of_ofValue hsame
  · intro hunmarked
    rw [htext, hlength]
    exact Statement.outside_of_compile hunmarked hcompiled

namespace Database

/-- What a run tells the store of a statement.  If it tells nothing, it has failed, because the
statement has no form or no connection is to be had. -/
def Tells (db : Database (σ × List Exchange)) (statement : Statement) (execution : Prepared → Call)
    (w : World (σ × List Exchange)) (run : Except Error α × World (σ × List Exchange)) : Prop :=
  ∃ xs, w.Stated xs run.2 ∧
    (Sends db.settings statement execution (xs.map Exchange.call) ∨
      xs = [] ∧ (∃ e, run.1 = .error e) ∧
        (db.manager.HandsOut w → ∃ e, db.settings.compile statement = .error e))

theorem foldRows_eq_operate (db : Database σ) (statement : Statement) (g : β → Row → Except Error β)
    (init : β) :
    db.foldRows statement init (fun b row => conclude (g b row)) =
      (db.operate statement (fun c n => do
          let stream ← db.settings.ask.execute db.manager.driver c ⟨n, c.sql, false⟩
            (.executeQuery ⟨n, c.sql, false⟩)
          conclude ((db.gathered g init (c, stream)).map fun found => (found, stream.rows.length)))
        fun r => s!"Rows returned: {r.2}") >>= fun r => pure r.1 := by
  simp only [foldRows, operate, FailureAsk.execute, prepare, sendBindings,
    DatabaseSettings.mapping_ask, bind_assoc, pure_bind]
  refine bind_congr fun c => bind_congr fun _ => congrArg (· >>= _)
    (congrArg db.useConnection (funext fun n => bind_congr fun _ => bind_congr fun stream => ?_))
  rw [foldlM_conclude, gathered]
  cases stream.rows.foldlM g init with
  | error e => rfl
  | ok found =>
      cases stream.failure with
      | some e => rfl
      | none => rfl

theorem foldRows_operates (db : Database σ) (statement : Statement) (g : β → Row → Except Error β)
    (init : β) (w : World σ) :
    Operates db statement
      (fun c n u (_ : Except Error β) v => ∃ answer, Executes db.manager.driver db.settings.ask c
        ⟨n, c.sql, false⟩ (.executeQuery ⟨n, c.sql, false⟩) u answer v)
      w (db.foldRows statement init (fun b row => conclude (g b row)) w).1
      (db.foldRows statement init (fun b row => conclude (g b row)) w).2 := by
  rw [foldRows_eq_operate, Session.bind_pure_apply]
  refine Operates.map (fun _ _ _ _ _ h => h) (db.operates statement _ _ (fun c n u => ?_) w)
  rw [bind_conclude_apply]
  exact ⟨_, db.settings.ask.executes db.manager.driver c ⟨n, c.sql, false⟩ _ u⟩

variable {d : Driver σ} {db : Database (σ × List Exchange)}
variable (hdriver : db.manager.driver = d.traced) (hsucceeds : d.Succeeds)
include hdriver hsucceeds

theorem tells_of_operates {statement : Statement} {execution : Prepared → Call}
    (hisStatement : ∀ p, (execution p).isStatement)
    {code : CompiledSql → Nat → World (σ × List Exchange) → Except Error α →
      World (σ × List Exchange) → Prop} {w : World (σ × List Exchange)}
    {run : Except Error α × World (σ × List Exchange)}
    (h : Operates db statement code w run.1 run.2)
    (hexecutes : ∀ c n u outcome v, code c n u outcome v → ∃ keys answer,
      Executes db.manager.driver db.settings.ask c ⟨n, c.sql, keys⟩
        (execution ⟨n, c.sql, keys⟩) u answer v) :
    db.Tells statement execution w run := by
  obtain ⟨hstated, hrefused⟩ | ⟨c, n, u, v, hcompiled, hran, hbefore, hbehind⟩ :=
    stated_of_operates hdriver h
  · exact ⟨[], hstated, .inr ⟨rfl, hrefused⟩⟩
  · obtain ⟨keys, answer, hexecuted⟩ := hexecutes c n u _ v hran
    rw [hdriver] at hexecuted
    obtain ⟨xs, hstated, hsaid⟩ := hexecuted.said hsucceeds (hisStatement _)
    refine ⟨xs, (hbefore.after hstated).before hbehind, .inl ?_⟩
    rw [hsaid]
    exact .of_compile hcompiled rfl execution

theorem updating_tells (statement : Statement) (keys : Bool) (w : World (σ × List Exchange)) :
    db.Tells statement .executeUpdate w (db.updating statement keys w) :=
  tells_of_operates hdriver hsucceeds (fun _ => rfl) (db.updating_operates statement keys w)
    fun _ _ _ _ _ hexecuted => ⟨keys, _, hexecuted⟩

theorem executeUpdate_tells (statement : Statement) (w : World (σ × List Exchange)) :
    db.Tells statement .executeUpdate w (db.executeUpdate statement w) :=
  updating_tells hdriver hsucceeds statement false w

theorem foldRows_tells (statement : Statement) (g : β → Row → Except Error β) (init : β)
    (w : World (σ × List Exchange)) :
    db.Tells statement .executeQuery w
      (db.foldRows statement init (fun b row => conclude (g b row)) w) :=
  tells_of_operates hdriver hsucceeds (fun _ => rfl) (db.foldRows_operates statement g init w)
    fun _ _ _ _ _ ⟨_, hexecuted⟩ => ⟨false, _, hexecuted⟩

theorem insertEntity_tells {t : Table E} {e : E} {i : Insert} (h : t.insertOf e = .ok i)
    (w : World (σ × List Exchange)) :
    db.Tells (.insert i) .executeUpdate w (db.insertEntity t e w) := by
  rw [insertEntity_of_insertOf h, bind_conclude_apply, Table.insertOf_eq h]
  obtain ⟨xs, hstated, htold⟩ := updating_tells hdriver hsucceeds
    (.insert (.ofCells t.ref (t.givenCells e))) (!(t.missingKeys e).isEmpty) w
  refine ⟨xs, hstated, htold.imp_right ?_⟩
  rintro ⟨hnone, ⟨err, hfailed⟩, hunwritten⟩
  exact ⟨hnone, ⟨err, by rw [hfailed]; rfl⟩, hunwritten⟩

/-- An entity has been inserted by one statement, or it has failed, with its statement or without
it. -/
theorem insertEntity_sends (t : Table E) (e : E) (w : World (σ × List Exchange)) :
    ∃ xs, w.Stated xs (db.insertEntity t e w).2 ∧
      ((∃ i, t.insertOf e = .ok i ∧
          Sends db.settings (.insert i) .executeUpdate (xs.map Exchange.call)) ∨
        xs = [] ∧ ∃ err, (db.insertEntity t e w).1 = .error err) := by
  cases hbuilt : t.insertOf e with
  | error fault =>
      rw [insertEntity_of_error hbuilt]
      exact ⟨[], .of_trace rfl, .inr ⟨rfl, _, rfl⟩⟩
  | ok i =>
      obtain ⟨xs, hstated, hsends | ⟨hnone, hfailed, -⟩⟩ :=
        insertEntity_tells hdriver hsucceeds hbuilt w
      · exact ⟨xs, hstated, .inl ⟨i, rfl, hsends⟩⟩
      · exact ⟨xs, hstated, .inr ⟨hnone, hfailed⟩⟩

/-- The statements of the entities that are reached come in the order of the entities.  No entity is
left out if all goes well. -/
theorem insertAll_sends (t : Table E) (total : RowsAffected) (entities : List E)
    (w : World (σ × List Exchange)) :
    ∃ asked parts, asked <+: entities ∧ w.Stated parts.flatten (db.insertAll t total entities w).2 ∧
      List.Forall₂ (fun e xs => ∃ i, t.insertOf e = .ok i ∧
        Sends db.settings (.insert i) .executeUpdate (xs.map Exchange.call)) asked parts ∧
      ∀ left sum, (db.insertAll t total entities w).1 = .ok ⟨left, .ok sum⟩ → asked = entities := by
  induction entities generalizing total w with
  | nil => exact ⟨[], [], List.nil_prefix, .of_trace rfl, .nil, fun _ _ _ => rfl⟩
  | cons e entities ih =>
      obtain ⟨xs, hstated, hfirst⟩ := insertEntity_sends hdriver hsucceeds t e w
      cases hrun : db.insertEntity t e w with
      | mk outcome v =>
          rw [hrun] at hstated hfirst
          cases outcome with
          | error err =>
              have hfailed : ∀ left sum,
                  (db.insertAll t total (e :: entities) w).1 ≠ .ok ⟨left, .ok sum⟩ := by
                rw [insertAll_of_error hrun]
                dsimp only
                split <;> exact fun _ _ => nofun
              rw [insertAll_of_error hrun] at hfailed ⊢
              rcases hfirst with hsends | ⟨rfl, -⟩
              · exact ⟨[e], [xs], List.prefix_append [e] entities, by simpa using hstated,
                  .cons hsends .nil, fun left sum h => absurd h (hfailed left sum)⟩
              · exact ⟨[], [], List.nil_prefix, hstated, .nil,
                  fun left sum h => absurd h (hfailed left sum)⟩
          | ok inserted =>
              obtain ⟨left, result⟩ := inserted
              have hsends := hfirst.resolve_right fun ⟨_, _, hfailed⟩ => nomatch hfailed
              obtain ⟨asked, parts, hpart, hlater, heach, hwhole⟩ := ih (total.add result) v
              rw [insertAll_cons hrun]
              refine ⟨e :: asked, xs :: parts, (List.cons_prefix_cons ..).mpr ⟨rfl, hpart⟩,
                hstated.trans hlater, .cons hsends heach, ?_⟩
              intro all sum h
              cases hrest : (db.insertAll t (total.add result) entities v).1 with
              | error err =>
                  rw [hrest] at h
                  cases h
              | ok inserted =>
                  rw [hrest] at h
                  obtain ⟨left', counted⟩ := inserted
                  cases h
                  rw [hwhole left' sum hrest]

/-- Every operation that runs statements carries each of them out as `Sends` says.  Those of several
entities come one after the other. -/
theorem operations_bind_each (w : World (σ × List Exchange)) :
    (∀ statement, db.Tells statement .executeUpdate w (db.executeUpdate statement w)) ∧
    (∀ statement, db.Tells statement .executeQuery w (db.query statement w)) ∧
    ∀ {E : Type} (t : Table E),
      (∀ initial select,
        db.Tells (.select select) .executeQuery w (db.queryAs t initial select w)) ∧
      (∀ entities, ∃ asked parts, asked <+: entities ∧
        w.Stated parts.flatten (db.insertEntities t entities w).2 ∧
        List.Forall₂ (fun e xs => ∃ i, t.insertOf e = .ok i ∧
          Sends db.settings (.insert i) .executeUpdate (xs.map Exchange.call)) asked parts ∧
        ∀ left sum, (db.insertEntities t entities w).1 = .ok ⟨left, .ok sum⟩ → asked = entities) ∧
      (∀ e, match t.updateOf e with
        | .ok u => db.Tells (.update u) .executeUpdate w (db.updateEntity t e w)
        | .error err => db.updateEntity t e w = (.error err, w)) ∧
      ∀ e, match t.deleteOf e with
        | .ok u => db.Tells (.delete u) .executeUpdate w (db.deleteEntity t e w)
        | .error err => db.deleteEntity t e w = (.error err, w) := by
  refine ⟨fun statement => executeUpdate_tells hdriver hsucceeds statement w, fun statement => ?_,
    fun t => ⟨fun initial select => ?_, fun entities => ?_, fun e => ?_, fun e => ?_⟩⟩
  · rw [query_eq]
    exact foldRows_tells hdriver hsucceeds statement _ [] w
  · rw [queryAs_eq]
    exact foldRows_tells hdriver hsucceeds _ _ [] w
  · exact insertAll_sends hdriver hsucceeds t {} entities w
  · split
    next u hbuilt =>
      rw [updateEntity_of_ok hbuilt]
      exact executeUpdate_tells hdriver hsucceeds _ w
    next err hrefused => exact updateEntity_of_error hrefused w
  · split
    next u hbuilt =>
      rw [deleteEntity_of_ok hbuilt]
      exact executeUpdate_tells hdriver hsucceeds _ w
    next err hrefused => exact deleteEntity_of_error hrefused w

end Database

def obligingDriver : Driver Unit where
  name := "obliging"
  wireTypes := []
  run
    | .connect => pure 1
    | .metadata _ => pure {}
    | .executeUpdate _ => pure {}
    | .executeQuery _ => pure {}
    | .isolation _ => pure none
    | .autocommit _ => pure true
    | .prepare _ | .bind _ _ | .commit _ | .rollback _ | .setIsolation _ _ | .setAutocommit _ _
    | .close _ => pure ()

theorem obligingDriver_succeeds : obligingDriver.Succeeds := by
  intro c s
  cases c <;> exact ⟨_, rfl⟩

def obligingDatabase (dialect : Dialect) : Database (Unit × List Exchange) where
  settings :=
    { metadata := {}, codecs := ⟨[], []⟩, dialect, config := {}, writer := ⟨dialect, {}⟩ }
  driver := obligingDriver.traced
  manager := .threaded 0 obligingDriver.traced none

def silence : World (Unit × List Exchange) := { store := ((), []) }

/-- A mark between quotes, and two outside them, of which the first takes a null. -/
def halfNull : Statement :=
  .raw ⟨"SELECT '?', ?, ?", [⟨.nullOf .int32, .ofType .int32⟩, .ofRowCount 7]⟩

theorem operations_bind_halfNull :
    halfNull.IsUnmarked ⟨.postgres, {}⟩ ∧
      (obligingDatabase .postgres).Tells halfNull .executeQuery silence
        ((obligingDatabase .postgres).query halfNull silence) := by
  have hdriver : (obligingDatabase .postgres).manager.driver = obligingDriver.traced := rfl
  obtain ⟨-, hquery, -⟩ := Database.operations_bind_each hdriver obligingDriver_succeeds silence
  exact ⟨fun _ => (Sql.outside_of_lex rfl).trans rfl, hquery halfNull⟩

def selectOf (e : Expr) (label : Option String) : Statement :=
  .select {
    items := [⟨e, label⟩], source := none, filter := none, distinct := false, groupBy := [],
    having := none, orderBy := [], limit := none, offset := none }

def aText : Operand := ⟨.literal (.some (.varchar "a")), false⟩

/-- A parameter between two operators that open a region and close it. -/
def quotedPlaceholder : Statement :=
  selectOf (.ternary aText ⟨["= '"]⟩ ⟨.parameter (.ofRowCount 7), false⟩ ⟨["' ="]⟩ aText none) none

/-- A placeholder in a region gets its value all the same.  No value is there for an operator, a
name in unusual quotes or a piece of hand-written SQL that are taken for a placeholder. -/
theorem quotedPlaceholder_bound :
    (∃ xs, silence.Stated xs ((obligingDatabase .generic).query quotedPlaceholder silence).2 ∧
      let p : Prepared := ⟨1, "SELECT 'a' = ' ? ' = 'a'", false⟩
      xs.map Exchange.call =
        [.prepare p, .bind p (.bind 0 (Parameter.ofRowCount 7).value), .executeQuery p] ∧
      Sql.outside '?' p.sql.toList = 0) ∧
    ((Writer.mk .generic {}).compile (selectOf (.binary aText ⟨["?"]⟩ aText none) none) =
        .ok ⟨"SELECT 'a' ? 'a'", []⟩ ∧
      Sql.outside '?' "SELECT 'a' ? 'a'".toList = 1) ∧
    ((Writer.mk .generic { quote := "|" }).compile (selectOf aText.expression (some "a?b")) =
        .ok ⟨"SELECT 'a' AS |a?b|", []⟩ ∧
      Sql.outside '?' "SELECT 'a' AS |a?b|".toList = 1) ∧
    ((Writer.mk .postgres {}).compile (.ofText "SELECT $1") = .ok ⟨"SELECT $1", []⟩ ∧
      Sql.outside '$' "SELECT $1".toList = 1) :=
  ⟨⟨_, ⟨_, rfl, rfl⟩, rfl, (Sql.outside_of_lex rfl).trans rfl⟩,
    ⟨rfl, (Sql.outside_of_lex rfl).trans rfl⟩, ⟨rfl, (Sql.outside_of_lex rfl).trans rfl⟩,
    ⟨rfl, (Sql.outside_of_lex rfl).trans rfl⟩⟩

end TypedSql
