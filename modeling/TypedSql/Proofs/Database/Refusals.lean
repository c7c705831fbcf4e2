import TypedSql.Database.Entity
import TypedSql.Proofs.Database.Failures

namespace TypedSql

/-! Refusals: what makes no statement, or has no form in a dialect, is refused before the store is
asked to prepare anything. -/

/-- A failure in making a statement, however much has been told about it since. -/
def Error.isRefusal : Error → Bool
  | failure (.construction _) | failure (.unsupported _ _) => true
  | context _ source => source.isRefusal
  | _ => false

theorem Error.isRefusal_of_isPanic {e : Error} (h : e.isPanic) : e.isRefusal = false := by
  cases e with
  | failure f => cases h
  | context _ _ => cases h
  | _ => rfl

def Call.isPrepare : Call → Bool
  | prepare _ => true
  | _ => false

theorem Call.isPrepare_of_isSetting {connection : Nat} {c : Call} (h : c.isSetting connection) :
    c.isPrepare = false := by
  cases c with
  | prepare p => cases h
  | _ => rfl

variable {σ α β E : Type}

namespace World

/-- Nothing has been prepared between two moments. -/
def Unprepared (w w' : World (σ × List Exchange)) : Prop :=
  ∃ es, w'.trace = w.trace ++ es ∧ ∀ x ∈ es, x.call.isPrepare = false

variable {w w' w'' : World (σ × List Exchange)} {es : List Exchange}

theorem Unprepared.refl (w : World (σ × List Exchange)) : w.Unprepared w :=
  ⟨[], (List.append_nil _).symm, fun _ hx => absurd hx List.not_mem_nil⟩

theorem Unprepared.trans (hfirst : w.Unprepared w') (hsecond : w'.Unprepared w'') :
    w.Unprepared w'' := by
  obtain ⟨es, htrace, hes⟩ := hfirst
  obtain ⟨es', htrace', hes'⟩ := hsecond
  refine ⟨es ++ es', by rw [htrace', htrace, List.append_assoc], ?_⟩
  exact List.forall_mem_append.mpr ⟨hes, hes'⟩

theorem Exchanged.unprepared (hmade : w.Exchanged es w') (h : ∀ x ∈ es, x.call.isPrepare = false) :
    w.Unprepared w' :=
  ⟨es, hmade.trace, h⟩

end World

theorem isPrepare_of_failedOpening {es : List Exchange} (h : FailedOpening es) :
    ∀ x ∈ es, x.call.isPrepare = false := by
  rcases h with ⟨e, rfl⟩ | ⟨connection, setup, closing, rfl, hinterrupted, hclosing⟩
  · intro x hx
    rw [List.mem_singleton.mp hx]
    rfl
  · intro x hx
    rcases List.mem_cons.mp hx with rfl | hx
    · rfl
    · rcases List.mem_append.mp hx with hx | hx
      · exact Call.isPrepare_of_isSetting (Exchange.isSetting_of_interruptedSetup hinterrupted x hx)
      · rw [List.mem_singleton.mp hx, hclosing]
        rfl

open Session

namespace Session

/-- No run of the code ends with a refusal. -/
def NeverRefuses (x : Session σ α) : Prop :=
  ∀ w e, (x w).1 = .error e → e.isRefusal = false

theorem neverRefuses_pure (a : α) : NeverRefuses (pure a : Session σ α) :=
  failsWith_pure a

theorem neverRefuses_attempt (x : Session σ α) : NeverRefuses x.attempt :=
  failsWith_attempt x

theorem neverRefuses_log (level : LogLevel) (source : LogSource) (message : String) :
    NeverRefuses (log level source message : Session σ Unit) :=
  failsWith_log level source message

theorem neverRefuses_conclude {outcome : Except Error α}
    (h : ∀ e, outcome = .error e → e.isRefusal = false) :
    NeverRefuses (conclude outcome : Session σ α) :=
  failsWith_conclude h

theorem NeverRefuses.bind {x : Session σ α} {f : α → Session σ β} (hx : NeverRefuses x)
    (hf : ∀ a, x.Gives a → NeverRefuses (f a)) : NeverRefuses (x >>= f) :=
  FailsWith.bind hx hf

/-- A refusal comes before anything has been prepared. -/
def RefusesAhead (x : Session (σ × List Exchange) α) : Prop :=
  ∀ w e, (x w).1 = .error e → e.isRefusal → w.Unprepared (x w).2

variable {x : Session (σ × List Exchange) α} {f : α → Session (σ × List Exchange) β}

theorem RefusesAhead.bind (hx : RefusesAhead x) (hf : ∀ a, x.Gives a → NeverRefuses (f a)) :
    RefusesAhead (x >>= f) := by
  intro w e hfailed hrefusal
  rw [Run.bind_apply] at hfailed ⊢
  cases hrun : x w with
  | mk result w' =>
      rw [hrun] at hfailed
      cases result with
      | ok a =>
          rw [hf a ⟨w, w', hrun⟩ w' e hfailed] at hrefusal
          cases hrefusal
      | error e' =>
          have hahead := hx w e' (congrArg Prod.fst hrun)
          rw [hrun] at hahead
          cases hfailed
          exact hahead hrefusal

/-- However the code ends, it has prepared nothing. -/
def PreparesNothing (x : Session (σ × List Exchange) α) : Prop :=
  ∀ w : World (σ × List Exchange), w.Unprepared (x w).2

theorem RefusesAhead.after (hbefore : PreparesNothing x) (hf : ∀ a, RefusesAhead (f a)) :
    RefusesAhead (x >>= f) := by
  intro w e hfailed hrefusal
  rw [Run.bind_apply] at hfailed ⊢
  have hbefore := hbefore w
  cases hrun : x w with
  | mk result w' =>
      rw [hrun] at hfailed hbefore
      cases result with
      | ok a => exact hbefore.trans (hf a w' e hfailed hrefusal)
      | error e' => exact hbefore

theorem PreparesNothing.bind (hx : PreparesNothing x) (hf : ∀ a, PreparesNothing (f a)) :
    PreparesNothing (x >>= f) := by
  intro w
  rw [Run.bind_apply]
  have hbefore := hx w
  cases hrun : x w with
  | mk result w' =>
      rw [hrun] at hbefore
      cases result with
      | ok a => exact hbefore.trans (hf a w')
      | error e => exact hbefore

theorem preparesNothing_conclude (outcome : Except Error α) :
    PreparesNothing (conclude outcome : Session (σ × List Exchange) α) := by
  intro w
  rw [conclude, Run.ofExcept_apply]
  exact .refl w

theorem preparesNothing_log (level : LogLevel) (source : LogSource) (message : String) :
    PreparesNothing (log level source message : Session (σ × List Exchange) Unit) :=
  fun _ => ⟨[], (List.append_nil _).symm, fun _ hx => absurd hx List.not_mem_nil⟩

theorem preparesNothing_forM {g : β → Session (σ × List Exchange) PUnit}
    (hg : ∀ b, PreparesNothing (g b)) (bs : List β) : PreparesNothing (bs.forM g) := by
  induction bs with
  | nil => exact fun w => .refl w
  | cons b bs ih => exact (hg b).bind fun _ => ih

end Session

namespace Manager

variable {m : Manager (σ × List Exchange)} {d : Driver σ}
  {f : Nat → Session (σ × List Exchange) α}

/-- A use of a connection that is refused has not come to the connection. -/
theorem useConnection_refusesAhead (hdriver : m.driver = d.traced)
    (hf : ∀ n, NeverRefuses (f n)) : RefusesAhead (m.useConnection f) := by
  intro w e hfailed hrefusal
  have hentered {n : Nat} {v : World (σ × List Exchange)} (h : (f n v).1 = .error e) :
      w.Unprepared (m.useConnection f w).2 := by
    rw [hf n v e h] at hrefusal
    cases hrefusal
  cases hbound : m.bound? w with
  | none =>
      have hrun := useConnection_of_free hbound f
      rw [hdriver] at hrun
      rw [hrun] at hfailed hentered ⊢
      rcases onStandalone_cases d .transaction "Could not close the connection" f w with
        ⟨e', w', hmade, houtcome⟩ | ⟨connection, v, closing, w', -, -, -, houtcome⟩
      · rw [houtcome]
        refine hmade.unprepared fun x hx => ?_
        rw [List.mem_singleton.mp hx]
        rfl
      · rw [houtcome] at hfailed
        exact hentered hfailed
  | some t =>
      have hcurrent : m.current? w = (.ok (some t), w) := by rw [m.current?_apply, hbound]
      have hrun := useConnection_of_current hcurrent f
      rw [hdriver] at hrun
      rw [hrun] at hfailed hentered ⊢
      rcases t.withConnection_cases d f w with
        ⟨-, houtcome⟩ | ⟨e', es, w', -, hmade, hopening, houtcome⟩ | ⟨o, -, houtcome⟩ |
        ⟨o, w', -, -, houtcome⟩
      · rw [houtcome]
        exact .refl w
      · rw [houtcome]
        exact hmade.unprepared (isPrepare_of_failedOpening hopening.failed)
      · rw [houtcome] at hfailed
        exact hentered hfailed
      · rw [houtcome] at hfailed
        exact hentered hfailed

end Manager

/-! What is assumed of the parts that programs bring: they report no refusals of their own. -/

/-- The failure map replaces no failure of the store by a refusal. -/
def DatabaseSettings.NeverRefuses (s : DatabaseSettings) : Prop :=
  ∀ map, s.failureMap = some map → ∀ sql e e', map sql e = some e' → e'.isRefusal = false

def Row.NeverRefuses (row : Row) : Prop :=
  ∀ i e, row.value i = .error e → e.isRefusal = false

def Driver.RowsNeverRefuse (d : Driver σ) : Prop :=
  ∀ p stream, (d.run (.executeQuery p)).Gives stream → ∀ row ∈ stream.rows, row.NeverRefuses

/-- The setters refuse no row that does not itself refuse. -/
def Table.NeverRefuses (t : Table E) : Prop :=
  ∀ bound ∈ t.bound, ∀ set, bound.setter = some set →
    ∀ e row i err, row.NeverRefuses → set e row i = .error err → err.isRefusal = false

theorem DatabaseSettings.NeverRefuses.mapFailure {s : DatabaseSettings} (h : s.NeverRefuses)
    (sql : String) (e : Error) : (s.mapFailure sql e).isRefusal = false := by
  unfold DatabaseSettings.mapFailure
  split
  next hpanic => exact Error.isRefusal_of_isPanic hpanic
  next =>
    cases hmap : s.failureMap with
    | none => rfl
    | some map =>
        rw [Option.bind_some]
        cases hreplaced : map sql e with
        | none => rfl
        | some e' => exact h map hmap sql e e' hreplaced

namespace Database

section

variable {db : Database σ} (hmaps : db.settings.NeverRefuses)
include hmaps

theorem neverRefuses_mappingFailure (sql : String) (x : Session σ α) :
    NeverRefuses (db.mappingFailure sql x) :=
  failsWith_mappingFailure (Q := fun _ => True) (fun e _ => hmaps.mapFailure sql e)
    fun _ _ _ => trivial

theorem neverRefuses_prepare (connection : Nat) (c : CompiledSql) (generatedKeys : Bool) :
    NeverRefuses (db.prepare connection c generatedKeys) :=
  (neverRefuses_mappingFailure hmaps _ _).bind fun _ _ => neverRefuses_pure _

theorem neverRefuses_gathered {c : CompiledSql} {stream : RowStream}
    {g : β → Row → Except Error β}
    (hg : ∀ b, ∀ row ∈ stream.rows, ∀ e, g b row = .error e → e.isRefusal = false) (init : β)
    {e : Error} (hfailed : db.gathered g init (c, stream) = .error e) : e.isRefusal = false := by
  cases stream with
  | mk rows failure =>
      induction rows generalizing init with
      | nil =>
          cases failure with
          | none => cases hfailed
          | some e' =>
              cases hfailed
              exact hmaps.mapFailure c.sql e'
      | cons row rows ih =>
          unfold gathered at hfailed ih
          rw [List.foldlM_cons] at hfailed
          cases hfirst : g init row with
          | error e' =>
              rw [hfirst] at hfailed
              cases hfailed
              exact hg init row List.mem_cons_self e hfirst
          | ok b =>
              rw [hfirst] at hfailed
              exact ih b (fun b' row' h => hg b' row' (List.mem_cons_of_mem row h)) hfailed

end

variable {d : Driver σ} {db : Database (σ × List Exchange)}

/-- Only a panic leaves the insertion of several entities; a refusal is part of its answer. -/
theorem neverRefuses_insertAll (db : Database σ) (t : Table E) (total : RowsAffected)
    (entities : List E) : NeverRefuses (db.insertAll t total entities) := by
  induction entities generalizing total with
  | nil => exact neverRefuses_pure _
  | cons entity entities ih =>
      rw [insertAll]
      refine (neverRefuses_attempt _).bind fun outcome _ => ?_
      cases outcome with
      | error e =>
          intro w e' hfailed
          by_cases hpanic : e.isPanic
          · simp only [hpanic, if_true] at hfailed
            cases hfailed
            exact Error.isRefusal_of_isPanic hpanic
          · simp only [hpanic] at hfailed
            cases hfailed
      | ok inserted => exact (ih _).bind fun rest _ => neverRefuses_pure _

theorem preparesNothing_logStatement (c : CompiledSql) :
    PreparesNothing (logStatement c : Session (σ × List Exchange) Unit) :=
  (preparesNothing_log _ _ _).bind fun _ =>
    preparesNothing_forM (fun _ => preparesNothing_log _ _ _) _

theorem preparesNothing_compile (statement : Statement) :
    PreparesNothing (db.compile statement) :=
  preparesNothing_conclude _

variable (hdriver : db.manager.driver = d.traced) (hmaps : db.settings.NeverRefuses)
include hdriver hmaps

theorem update_refusesAhead (c : CompiledSql) (generatedKeys : Bool) :
    RefusesAhead (db.update c generatedKeys) := by
  refine .after (preparesNothing_logStatement c) fun _ => ?_
  refine (Manager.useConnection_refusesAhead hdriver fun n => ?_).bind fun result _ =>
    (neverRefuses_log _ _ _).bind fun _ _ => neverRefuses_pure result
  exact (neverRefuses_prepare hmaps n c generatedKeys).bind fun p _ =>
    neverRefuses_mappingFailure hmaps _ _

theorem executeUpdate_refusesAhead (statement : Statement) :
    RefusesAhead (db.executeUpdate statement) :=
  .after (preparesNothing_compile statement) fun c => update_refusesAhead hdriver hmaps c false

theorem answer_refusesAhead (statement : Statement) : RefusesAhead (db.answer statement) := by
  refine .after (preparesNothing_compile statement) fun c =>
    .after (preparesNothing_logStatement c) fun _ => ?_
  refine (Manager.useConnection_refusesAhead hdriver fun n => ?_).bind fun _ _ =>
    neverRefuses_pure _
  exact (neverRefuses_prepare hmaps n c false).bind fun p _ =>
    neverRefuses_mappingFailure hmaps _ _

/-- Gathering rows is refused ahead of the statement, if what is gathered from a row that does not
refuse is no refusal. -/
theorem foldRows_refusesAhead (hrows : d.RowsNeverRefuse) (statement : Statement)
    {g : β → Row → Except Error β}
    (hg : ∀ b row e, row.NeverRefuses → g b row = .error e → e.isRefusal = false) (init : β) :
    RefusesAhead (db.foldRows statement init fun b row => conclude (g b row)) := by
  rw [foldRows_conclude]
  refine (answer_refusesAhead hdriver hmaps statement).bind fun (c, stream) hanswered => ?_
  refine (neverRefuses_conclude fun e hfailed => ?_).bind fun _ _ =>
    (neverRefuses_log _ _ _).bind fun _ _ => neverRefuses_pure _
  have hplain : ∀ row ∈ stream.rows, row.NeverRefuses := by
    obtain ⟨p, w, w', hran⟩ := gives_of_answer hanswered
    rw [hdriver] at hran
    have hsaid : (d.run (.executeQuery p) w.store.1).1 = .ok stream := congrArg Prod.fst hran
    exact hrows p stream ⟨w.store.1, _, Prod.ext hsaid rfl⟩
  exact neverRefuses_gathered hmaps (fun b row hrow e => hg b row e (hplain row hrow)) init hfailed

theorem query_refusesAhead (hrows : d.RowsNeverRefuse) (statement : Statement) :
    RefusesAhead (db.query statement) := by
  rw [query_eq]
  exact foldRows_refusesAhead hdriver hmaps hrows statement
    (fun read row e hrow => Row.FailsWith.readNext hrow _ read) []

theorem queryAs_refusesAhead (hrows : d.RowsNeverRefuse) {t : Table E} (hsetters : t.NeverRefuses)
    (initial : E) (select : Select) : RefusesAhead (db.queryAs t initial select) := by
  rw [queryAs_eq]
  exact foldRows_refusesAhead hdriver hmaps hrows _
    (fun read row e hrow => Table.FailsWith.decodeNext hsetters hrow initial _ read) []

theorem updateEntity_refusesAhead (t : Table E) (entity : E) :
    RefusesAhead (db.updateEntity t entity) :=
  .after (preparesNothing_conclude _) fun _ => executeUpdate_refusesAhead hdriver hmaps _

theorem deleteEntity_refusesAhead (t : Table E) (entity : E) :
    RefusesAhead (db.deleteEntity t entity) :=
  .after (preparesNothing_conclude _) fun _ => executeUpdate_refusesAhead hdriver hmaps _

theorem insertEntity_refusesAhead {t : Table E} (hsetters : t.NeverRefuses) (entity : E) :
    RefusesAhead (db.insertEntity t entity) := by
  refine .after (preparesNothing_conclude _) fun insert =>
    .after (preparesNothing_compile _) fun c => ?_
  refine (update_refusesAhead hdriver hmaps c _).bind fun result _ => ?_
  split
  next column key rest _ _ =>
    refine (neverRefuses_conclude fun e hfailed => ?_).bind fun _ _ => neverRefuses_pure _
    have hplain : (Row.single key key.isNull).NeverRefuses := by
      intro i e' himpossible
      cases himpossible
    exact Table.FailsWith.set hsetters (fun _ => rfl) hplain entity column 0 hfailed
  next => exact neverRefuses_pure _

/-- The entities before the one that is refused are inserted, and the others are left alone: the
refusal comes ahead of its own statement only. -/
theorem insertAll_refused {t : Table E} (hsetters : t.NeverRefuses) {total : RowsAffected}
    {entities left : List E} {w w' : World (σ × List Exchange)} {e : Error}
    (hrun : db.insertAll t total entities w = (.ok ⟨left, .error e⟩, w'))
    (hrefusal : e.isRefusal) :
    ∃ before entity after done sum v, entities = before ++ entity :: after ∧
      left = done ++ entity :: after ∧
      db.insertAll t total before w = (.ok ⟨done, .ok sum⟩, v) ∧ v.Unprepared w' := by
  induction entities generalizing total left w with
  | nil => cases hrun
  | cons entity entities ih =>
      rw [insertAll, Run.bind_apply, Run.attempt_apply] at hrun
      have hahead := insertEntity_refusesAhead hdriver hmaps hsetters entity w
      cases hfirst : db.insertEntity t entity w with
      | mk result v =>
          rw [hfirst] at hrun hahead
          cases result with
          | error e' =>
              simp only at hrun
              split at hrun
              · cases hrun
              · cases hrun
                exact ⟨[], entity, entities, [], total, w, rfl, rfl, rfl, hahead e rfl hrefusal⟩
          | ok inserted =>
              obtain ⟨entity', result⟩ := inserted
              simp only [Run.bind_apply] at hrun
              cases hrest : db.insertAll t (total.add result) entities v with
              | mk outcome v' =>
                  rw [hrest] at hrun
                  cases outcome with
                  | error e' => cases hrun
                  | ok inserted =>
                      obtain ⟨remaining, outcome⟩ := inserted
                      cases hrun
                      obtain ⟨before, refused, after, done, sum, v'', rfl, rfl, hinserted,
                        hunprepared⟩ := ih hrest
                      refine ⟨entity :: before, refused, after, entity' :: done, sum, v'', rfl, rfl,
                        ?_, hunprepared⟩
                      rw [insertAll, Run.bind_apply, Run.attempt_apply, hfirst]
                      simp only [Run.bind_apply, hinserted]
                      rfl

/-- An operation that is refused has prepared nothing.  The refusal of one of several entities to
insert is part of the answer: those before the refused one have been inserted, the refused one and
those behind it are as they were, and nothing has been prepared for them. -/
theorem refused_before_prepared (hrows : d.RowsNeverRefuse) {t : Table E}
    (hsetters : t.NeverRefuses) :
    (∀ statement, RefusesAhead (db.executeUpdate statement)) ∧
    (∀ statement, RefusesAhead (db.query statement)) ∧
    (∀ initial select, RefusesAhead (db.queryAs t initial select)) ∧
    (∀ entity, RefusesAhead (db.updateEntity t entity)) ∧
    (∀ entity, RefusesAhead (db.deleteEntity t entity)) ∧
    (∀ entities, NeverRefuses (db.insertEntities t entities)) ∧
    ∀ (w : World (σ × List Exchange)) (entities left : List E) (e : Error), e.isRefusal →
      (db.insertEntities t entities w).1 = .ok ⟨left, .error e⟩ →
      ∃ before entity after done sum v, entities = before ++ entity :: after ∧
        left = done ++ entity :: after ∧
        db.insertEntities t before w = (.ok ⟨done, .ok sum⟩, v) ∧
        v.Unprepared (db.insertEntities t entities w).2 :=
  ⟨executeUpdate_refusesAhead hdriver hmaps, query_refusesAhead hdriver hmaps hrows,
    queryAs_refusesAhead hdriver hmaps hrows hsetters, updateEntity_refusesAhead hdriver hmaps t,
    deleteEntity_refusesAhead hdriver hmaps t, neverRefuses_insertAll db t {},
    fun _ _ _ _ hrefusal hfailed =>
      insertAll_refused hdriver hmaps hsetters (Prod.ext hfailed rfl) hrefusal⟩

end Database

theorem Codec.ofType_plain (type : WireType) (v : Value) (e : Error)
    (h : (Codec.ofType type).decode v = .error e) : e.isRefusal = false := by
  have hconverted : (v.convert type).mapError Error.conversion = .error e := h
  cases hresult : v.convert type with
  | ok n =>
      rw [hresult] at hconverted
      cases hconverted
  | error fault =>
      rw [hresult] at hconverted
      cases hconverted
      rfl

def diary : Table Record :=
  let keyed := ((Table.ofName "diary").declare "id" (Codec.ofType .int64) true false
    (Record.nullable "id" .int64)).1
  (keyed.declare "body" (Codec.ofType .varchar) false true (Record.nullable "body" .varchar)).1

theorem diary_neverRefuses : diary.NeverRefuses :=
  have hkeyed := (Table.failsWith_ofName "diary").declare (Codec.ofType_plain .int64) "id" true
    false (Record.nullable "id" .int64)
  hkeyed.declare (Codec.ofType_plain .varchar) "body" false true (Record.nullable "body" .varchar)

theorem ScriptedStore.rowsNeverRefuse (wireTypes : List WireType) :
    (driver wireTypes).RowsNeverRefuse := by
  intro p stream h row hrow i e hfailed
  obtain ⟨labels, values, rfl⟩ := rows_of_executeQuery h row hrow
  simp only [Row.ofValues, Row.ofLists] at hfailed
  split at hfailed
  · cases hfailed
  · cases hfailed
    rfl

def written : Record := ⟨[("body", .some (.varchar "first"))]⟩

def blank : Record := ⟨[("body", .nullOf .varchar)]⟩

def blanked : Record := ⟨[("id", seven), ("body", .nullOf .varchar)]⟩

def quietWorld : World (ScriptedStore × List Exchange) :=
  { store := ({}, []) }

def missingBody : Error := .construction (.nullAssignment "diary" "body")

/-- An entry without a body is refused, whether it is to replace one or to follow one. -/
theorem blank_refused_before_prepared :
    (scriptedDatabase.updateEntity diary blanked quietWorld).1 = .error missingBody ∧
    quietWorld.Unprepared (scriptedDatabase.updateEntity diary blanked quietWorld).2 ∧
    ∃ left, (scriptedDatabase.insertEntities diary [written, blank] quietWorld).1 =
        .ok ⟨left, .error missingBody⟩ ∧
      ∃ before entity after done sum v, [written, blank] = before ++ entity :: after ∧
        left = done ++ entity :: after ∧
        scriptedDatabase.insertEntities diary before quietWorld = (.ok ⟨done, .ok sum⟩, v) ∧
        v.Unprepared (scriptedDatabase.insertEntities diary [written, blank] quietWorld).2 := by
  have hmaps : scriptedDatabase.settings.NeverRefuses := fun _ h => nomatch h
  have hrefused := Database.refused_before_prepared (d := ScriptedStore.driver []) rfl hmaps
    (ScriptedStore.rowsNeverRefuse []) diary_neverRefuses
  obtain ⟨-, -, -, hupdate, -, -, hinsert⟩ := hrefused
  refine ⟨rfl, hupdate blanked quietWorld missingBody rfl rfl, _, rfl, ?_⟩
  exact hinsert quietWorld [written, blank] _ missingBody rfl rfl

/-- The entry before it has been inserted and has its key, though the call was refused. -/
theorem written_prepared_before_blank :
    let one : Value := .some (.integer .int64 ⟨1, by decide, by decide⟩)
    let insertion : Prepared := ⟨1, "INSERT INTO diary (body) VALUES (?)", true⟩
    (scriptedDatabase.insertEntities diary [written, blank] quietWorld).1 =
      .ok ⟨[⟨written.fields ++ [("id", one)]⟩, blank], .error missingBody⟩ ∧
    (scriptedDatabase.insertEntities diary [written, blank] quietWorld).2.trace.map
        Exchange.call =
      [.connect, .prepare insertion, .bind insertion (.bind 0 (.some (.varchar "first"))),
        .executeUpdate insertion, .close 1] :=
  ⟨rfl, rfl⟩

end TypedSql
