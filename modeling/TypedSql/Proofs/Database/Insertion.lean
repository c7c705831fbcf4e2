import TypedSql.Proofs.Database.Keys

namespace TypedSql

/-! Entities that are inserted one after the other.  Each has a statement of its own, and the key
that the store assigns comes back to the entity that it was assigned to. -/

open Session

variable {σ E : Type}

theorem Insert.eq_of_rows {table : TableRef} {columns : List ColumnRef} {rows : List (List Expr)}
    {i : Insert} (h : Insert.of table columns (some rows) none = .ok i) :
    i = ⟨table, columns, .rows rows⟩ := by
  simp only [Insert.of] at h
  split at h
  · cases h
  split at h
  · cases h
  cases hchecked : rows.forM (checkRow table columns) with
  | error fault =>
      rw [hchecked] at h
      cases h
  | ok _ =>
      rw [hchecked] at h
      cases h
      rfl

namespace Table

/-- What an insertion of the entity gives values for: all that can be read of it, but for the keys
that it leaves null. -/
def givenCells (t : Table E) (e : E) : List Cell :=
  (t.values e).filter fun f => !(f.1.primaryKey && f.2.isNull)

/-- What becomes of an entity when the store has answered with keys.  The column of a single missing
key is looked for by its name, so that it is the key's own column if no other has the name. -/
inductive WritesBack (t : Table E) (e : E) : List Value → E → Prop
  | decoded {column : ColumnRef} {key : Value} {keys : List Value} {b : BoundColumn E}
      {setter : E → Row → Nat → Except Error E} {left : E} (hmissing : t.missingKeys e = [column])
      (hfound : t.bound.find? (fun b => b.column.name == column.name) = some b)
      (hown : (t.columns.map ColumnRef.name).Nodup → b.column = column)
      (hsettable : b.setter = some setter)
      (hdecoded : setter e (.single key key.isNull) 0 = .ok left) :
      WritesBack t e (key :: keys) left
  | unchanged {keys : List Value} (h : (t.missingKeys e).length ≠ 1 ∨ keys = []) :
      WritesBack t e keys e

variable {t : Table E} {e : E}

theorem insertOf_eq {i : Insert} (h : t.insertOf e = .ok i) :
    i = .ofCells t.ref (t.givenCells e) := by
  rw [insertOf] at h
  by_cases hfilled : ∀ f ∈ t.givenCells e, (f.1.notNull && f.2.isNull) = false
  · have hassigned : t.assignments e (fun c v => !(c.primaryKey && v.isNull)) =
        .ok ((t.givenCells e).map Cell.assignment) := assignments_of_filled _ rfl hfilled
    rw [hassigned, ok_bind, Insert.ofAssignments] at h
    rw [Insert.eq_of_rows h, Insert.ofCells]
    simp [Cell.assignment, Function.comp_def]
  · obtain ⟨f, hf, hempty⟩ : ∃ f ∈ t.givenCells e, (f.1.notNull && f.2.isNull) = true := by
      simpa using hfilled
    obtain ⟨fault, hrefused⟩ :=
      assignments_of_unfilled (fun c v => !(c.primaryKey && v.isNull)) rfl hf hempty
    rw [hrefused] at h
    cases h

theorem mem_columns_of_mem_missingKeys {column : ColumnRef} (h : column ∈ t.missingKeys e) :
    ∃ b ∈ t.bound, b.column = column := by
  obtain ⟨f, hf, rfl⟩ := List.mem_map.mp h
  obtain ⟨b, hb, getter, -, rfl⟩ := mem_values.mp (List.mem_of_mem_filter hf)
  exact ⟨b, hb, rfl⟩

theorem writesBack_of_set {column : ColumnRef} {key : Value} {keys : List Value} {left : E}
    (hmissing : t.missingKeys e = [column])
    (h : t.set e column (.single key key.isNull) 0 = .ok left) :
    t.WritesBack e (key :: keys) left := by
  unfold set find at h
  cases hfound : t.bound.find? fun b => b.column.name == column.name with
  | none =>
      rw [hfound] at h
      cases h
  | some b =>
      rw [hfound] at h
      cases hset : b.setter with
      | none =>
          simp only [hset] at h
          cases h
      | some setter =>
          simp only [hset] at h
          refine .decoded hmissing hfound (fun hdistinct => ?_) hset h
          have hmem : column ∈ t.missingKeys e := hmissing ▸ List.mem_singleton_self column
          obtain ⟨b', hb', rfl⟩ := mem_columns_of_mem_missingKeys hmem
          have hown := find_of_mem hdistinct hb'
          rw [find, hfound] at hown
          cases hown
          rfl

/-- The first of the keys that come back goes to the key that is missing, if it is the only one. -/
def writeBack (t : Table E) (e : E) (keys : List Value) : Except Error E :=
  match t.missingKeys e, keys with
  | [column], key :: _ => t.set e column (.single key key.isNull) 0
  | _, _ => .ok e

theorem writesBack_of_writeBack {keys : List Value} {left : E}
    (h : t.writeBack e keys = .ok left) : t.WritesBack e keys left := by
  unfold writeBack at h
  split at h
  next column key keys hmissing => exact writesBack_of_set hmissing h
  next hother =>
    cases h
    refine .unchanged ?_
    by_contra hsingle
    obtain ⟨hone, hsome⟩ := not_or.mp hsingle
    obtain ⟨column, hmissing⟩ := List.length_eq_one_iff.mp (not_not.mp hone)
    obtain ⟨key, rest, rfl⟩ := List.exists_cons_of_ne_nil hsome
    exact hother column key rest hmissing rfl

end Table

structure Inserts (s : DatabaseSettings) (t : Table E) (e : E) (c : CompiledSql) : Prop where
  compiled : s.compile (.insert (.ofCells t.ref (t.givenCells e))) = .ok c
  parameters : c.parameters = (t.givenCells e).map Cell.parameter
  text : s.writer.config.quote ≠ "" → c.sql = String.ofList (s.writer.print 0
    (Cell.insertPieces t.ref
      (Piece.commaSeparated ((t.givenCells e).map fun f => [.name f.1.name])) (t.givenCells e)))

theorem Inserts.of_compile {s : DatabaseSettings} {t : Table E} {e : E} {c : CompiledSql}
    (h : s.compile (.insert (.ofCells t.ref (t.givenCells e))) = .ok c) : Inserts s t e c := by
  obtain ⟨c', hcompiled, hparameters, htext⟩ :=
    s.writer.compile_insertOfCells t.ref (t.givenCells e)
  cases h.symm.trans hcompiled
  exact ⟨h, hparameters, htext⟩

def Table.insertion (t : Table E) (e : E) (c : CompiledSql) (connection : Nat) : Prepared :=
  ⟨connection, c.sql, !(t.missingKeys e).isEmpty⟩

/-- What is said about an insertion that need not come to its end. -/
inductive AttemptsInsert (s : DatabaseSettings) (t : Table E) (e : E) : List Exchange → Prop
  | unprepared : AttemptsInsert s t e []
  | prepared {c : CompiledSql} {n : Nat} {xs : List Exchange} (hinserts : Inserts s t e c)
      (honce : (xs.map Exchange.call).filter Call.isPrepare = [.prepare (t.insertion e c n)])
      (hpart : xs.map Exchange.call <+: c.updating (t.insertion e c n)) : AttemptsInsert s t e xs

/-- An entity that has been inserted: what has been said, what the store has answered, and what the
entity has become. -/
structure Insertion (E : Type) where
  entity : E
  said : List Exchange
  result : RowsAffected
  left : E

structure Insertion.IsDone (s : DatabaseSettings) (t : Table E) (i : Insertion E) : Prop where
  said : ∃ c n before, Inserts s t i.entity c ∧
    before.map Exchange.call = c.preparation (t.insertion i.entity c n) ∧
    i.said = before ++ [⟨.executeUpdate (t.insertion i.entity c n), .ok i.result⟩]
  writesBack : t.WritesBack i.entity i.result.keys i.left

def RowsAffected.sum (results : List RowsAffected) : RowsAffected :=
  ⟨(results.map RowsAffected.rows).foldr (· + ·) 0, results.flatMap RowsAffected.keys⟩

/-- How the insertion of several entities comes out.  The entities are taken in their order until
one fails, which is left as it is with all that come after it. -/
inductive InsertionCourse (s : DatabaseSettings) (t : Table E) :
    List E → List Exchange → Except Error (Inserted E) → Prop
  | finished {done : List (Insertion E)} (heach : ∀ i ∈ done, i.IsDone s t) :
      InsertionCourse s t (done.map Insertion.entity) (done.flatMap Insertion.said)
        (.ok ⟨done.map Insertion.left, .ok (.sum (done.map Insertion.result))⟩)
  | failed {done : List (Insertion E)} {e : E} {after : List E} {xs : List Exchange} {err : Error}
      (heach : ∀ i ∈ done, i.IsDone s t) (hattempts : AttemptsInsert s t e xs) :
      InsertionCourse s t (done.map Insertion.entity ++ e :: after)
        (done.flatMap Insertion.said ++ xs)
        (.ok ⟨done.map Insertion.left ++ e :: after, .error err⟩)
  | panicked {done : List (Insertion E)} {e : E} {after : List E} {xs : List Exchange} {err : Error}
      (heach : ∀ i ∈ done, i.IsDone s t) (hattempts : AttemptsInsert s t e xs)
      (hpanic : err.isPanic) :
      InsertionCourse s t (done.map Insertion.entity ++ e :: after)
        (done.flatMap Insertion.said ++ xs) (.error err)

def Prepares (s : DatabaseSettings) (t : Table E) (e : E) (call : Call) : Prop :=
  ∃ c n, Inserts s t e c ∧ call = .prepare (t.insertion e c n)

/-- At most one statement has been prepared for each entity, in the order of the entities. -/
def PreparesInOrder (s : DatabaseSettings) (t : Table E) (entities : List E) (xs : List Exchange) :
    Prop :=
  ∃ asked, asked <+: entities ∧
    List.Forall₂ (Prepares s t) asked ((xs.map Exchange.call).filter Call.isPrepare)

def Insertion.ahead (i : Insertion E) (r : Inserted E) : Inserted E :=
  ⟨i.left :: r.entities, r.outcome.map i.result.add⟩

section

variable {s : DatabaseSettings} {t : Table E} {e : E} {entities : List E} {xs : List Exchange}
  {i : Insertion E} {done : List (Insertion E)}

theorem AttemptsInsert.of_updates {outcome : Except Error RowsAffected}
    (h : Updates s (.insert (.ofCells t.ref (t.givenCells e))) (!(t.missingKeys e).isEmpty)
      outcome xs) : AttemptsInsert s t e xs := by
  by_cases hstarted : xs = []
  · rw [hstarted]
    exact .unprepared
  · obtain ⟨c, n, hcompiled, hpart⟩ := h.part hstarted
    have honce := c.filter_isPrepare_of_prefix _ (by simpa using hstarted) hpart
    exact .prepared (.of_compile hcompiled) honce hpart

theorem Insertion.IsDone.prepares (h : i.IsDone s t) :
    ∃ call, (i.said.map Exchange.call).filter Call.isPrepare = [call] ∧
      Prepares s t i.entity call := by
  obtain ⟨c, n, before, hinserts, hpreparation, hsaid⟩ := h.said
  have hcalls : i.said.map Exchange.call = c.updating (t.insertion i.entity c n) := by
    rw [hsaid, List.map_append, hpreparation]
    rfl
  refine ⟨_, ?_, c, n, hinserts, rfl⟩
  rw [hcalls]
  exact c.filter_isPrepare_of_prefix _ (List.cons_ne_nil _ _) List.prefix_rfl

theorem Insertion.prepares_each (heach : ∀ i ∈ done, i.IsDone s t) :
    List.Forall₂ (Prepares s t) (done.map entity)
      (((done.flatMap said).map Exchange.call).filter Call.isPrepare) := by
  induction done with
  | nil => exact .nil
  | cons i done ih =>
      obtain ⟨hfirst, hlater⟩ := List.forall_mem_cons.mp heach
      obtain ⟨call, hsaid, hprepares⟩ := hfirst.prepares
      rw [List.flatMap_cons, List.map_append, List.filter_append, hsaid]
      exact .cons hprepares (ih hlater)

theorem AttemptsInsert.preparesInOrder (h : AttemptsInsert s t e xs) :
    PreparesInOrder s t [e] xs := by
  cases h with
  | unprepared => exact ⟨[], List.nil_prefix, .nil⟩
  | prepared hinserts honce _ =>
      refine ⟨[e], List.prefix_rfl, ?_⟩
      rw [honce]
      exact .cons ⟨_, _, hinserts, rfl⟩ .nil

theorem AttemptsInsert.preparesInOrder_behind (heach : ∀ i ∈ done, i.IsDone s t)
    (h : AttemptsInsert s t e xs) (after : List E) :
    PreparesInOrder s t (done.map Insertion.entity ++ e :: after)
      (done.flatMap Insertion.said ++ xs) := by
  obtain ⟨asked, hpart, hprepares⟩ := h.preparesInOrder
  have hall : asked <+: e :: after := hpart.trans (List.prefix_append [e] after)
  refine ⟨done.map Insertion.entity ++ asked, (List.prefix_append_right_inj _).mpr hall, ?_⟩
  rw [List.map_append, List.filter_append]
  exact List.rel_append (Insertion.prepares_each heach) hprepares

theorem InsertionCourse.preparesInOrder {outcome : Except Error (Inserted E)}
    (h : InsertionCourse s t entities xs outcome) : PreparesInOrder s t entities xs := by
  cases h with
  | finished heach => exact ⟨_, List.prefix_rfl, Insertion.prepares_each heach⟩
  | failed heach hattempts => exact hattempts.preparesInOrder_behind heach _
  | panicked heach hattempts _ => exact hattempts.preparesInOrder_behind heach _

theorem InsertionCourse.cons (hfirst : i.IsDone s t) {outcome : Except Error (Inserted E)}
    (h : InsertionCourse s t entities xs outcome) :
    InsertionCourse s t (i.entity :: entities) (i.said ++ xs) (outcome.map i.ahead) := by
  cases h with
  | @finished done heach =>
      exact .finished (List.forall_mem_cons.mpr ⟨hfirst, heach⟩)
  | @failed done e after xs err heach hattempts =>
      have hcourse : InsertionCourse s t _ _ (.ok ⟨_ ++ e :: after, .error err⟩) :=
        .failed (List.forall_mem_cons.mpr ⟨hfirst, heach⟩) hattempts
      rw [List.flatMap_cons, List.append_assoc] at hcourse
      exact hcourse
  | @panicked done e after xs err heach hattempts hpanic =>
      have hcourse : InsertionCourse s t (_ ++ e :: after) _ _ :=
        .panicked (List.forall_mem_cons.mpr ⟨hfirst, heach⟩) hattempts hpanic
      rw [List.flatMap_cons, List.append_assoc] at hcourse
      exact hcourse

end

/-- The rows that have been affected so far are counted in. -/
def Inserted.addTo (total : RowsAffected) (r : Inserted E) : Inserted E :=
  { r with outcome := r.outcome.map total.add }

theorem RowsAffected.add_assoc (a b c : RowsAffected) : (a.add b).add c = a.add (b.add c) := by
  simp only [add, Nat.add_assoc, List.append_assoc]

theorem RowsAffected.empty_add (a : RowsAffected) : ({} : RowsAffected).add a = a := by
  simp only [add, Nat.zero_add, List.nil_append]

theorem RowsAffected.add_empty (a : RowsAffected) : a.add {} = a := by
  simp only [add, Nat.add_zero, List.append_nil]

theorem Inserted.addTo_empty (r : Inserted E) : Inserted.addTo {} r = r := by
  obtain ⟨entities, err | result⟩ := r
  · rfl
  · simp only [addTo, Except.map, RowsAffected.empty_add]

theorem Insertion.addTo_ahead (i : Insertion E) (total : RowsAffected) (r : Inserted E) :
    Inserted.addTo total (i.ahead r) =
      ⟨i.left :: r.entities, (r.addTo (total.add i.result)).outcome⟩ := by
  cases h : r.outcome with
  | error err => simp only [Inserted.addTo, ahead, h, Except.map]
  | ok result => simp only [Inserted.addTo, ahead, h, Except.map, RowsAffected.add_assoc]

namespace Database

variable {d : Driver σ} {db : Database (σ × List Exchange)}

theorem insertEntity_of_insertOf {db : Database σ} {t : Table E} {e : E} {i : Insert}
    (h : t.insertOf e = .ok i) :
    db.insertEntity t e =
      db.updating (.insert (.ofCells t.ref (t.givenCells e))) (!(t.missingKeys e).isEmpty) >>=
        fun result => conclude ((t.writeBack e result.keys).map fun left => (left, result)) := by
  rw [insertEntity, h, Table.insertOf_eq h, updating, bind_assoc]
  show (db.compile _ >>= fun c => _) = _
  refine bind_congr fun c => bind_congr fun result => ?_
  unfold Table.writeBack
  generalize t.missingKeys e = missing
  generalize result.keys = keys
  cases missing with
  | nil => rfl
  | cons column others =>
      cases others with
      | cons => rfl
      | nil =>
          cases keys with
          | nil => rfl
          | cons key keys =>
              dsimp only
              cases t.set e column (.single key key.isNull) 0 <;> rfl

theorem insertEntity_of_error {db : Database σ} {t : Table E} {e : E} {fault : ConstructionFault}
    (h : t.insertOf e = .error fault) (w : World σ) :
    db.insertEntity t e w = (.error (.construction fault), w) := by
  rw [insertEntity, h]
  rfl

theorem insertAll_cons {db : Database σ} {t : Table E} {e left : E} {result : RowsAffected}
    {w v : World σ} (h : db.insertEntity t e w = (.ok (left, result), v)) (total : RowsAffected)
    (entities : List E) :
    db.insertAll t total (e :: entities) w =
      ((db.insertAll t (total.add result) entities v).1.map fun rest =>
        { rest with entities := left :: rest.entities },
      (db.insertAll t (total.add result) entities v).2) := by
  rw [insertAll, Run.bind_apply, Run.attempt_apply, h]
  dsimp only
  rw [Run.bind_apply]
  cases db.insertAll t (total.add result) entities v with
  | mk outcome u => cases outcome <;> rfl

theorem insertAll_of_error {db : Database σ} {t : Table E} {e : E} {err : Error} {w v : World σ}
    (h : db.insertEntity t e w = (.error err, v)) (total : RowsAffected) (entities : List E) :
    db.insertAll t total (e :: entities) w =
      (if err.isPanic then .error err else .ok ⟨e :: entities, .error err⟩, v) := by
  rw [insertAll, Run.bind_apply, Run.attempt_apply, h]
  dsimp only
  split <;> rfl

variable (hdriver : db.manager.driver = d.traced)
include hdriver

theorem insertEntity_stated (t : Table E) (e : E) (w : World (σ × List Exchange)) :
    ∃ xs, w.Stated xs (db.insertEntity t e w).2 ∧
      match (db.insertEntity t e w).1 with
      | .ok (left, result) => Insertion.IsDone db.settings t ⟨e, xs, result, left⟩
      | .error _ => AttemptsInsert db.settings t e xs := by
  cases hbuilt : t.insertOf e with
  | error fault =>
      rw [insertEntity_of_error hbuilt]
      exact ⟨[], .of_trace rfl, .unprepared⟩
  | ok i =>
      rw [insertEntity_of_insertOf hbuilt]
      obtain ⟨xs, hstated, hupdates, -⟩ := updating_stated hdriver
        (.insert (.ofCells t.ref (t.givenCells e))) (!(t.missingKeys e).isEmpty) w
      refine ⟨xs, ?_⟩
      generalize db.updating _ _ = update at hstated hupdates ⊢
      cases hrun : update w with
      | mk outcome v =>
          rw [hrun] at hstated hupdates
          cases outcome with
          | error err =>
              rw [Run.bind_error hrun]
              exact ⟨hstated, .of_updates hupdates⟩
          | ok result =>
              rw [Run.bind_ok hrun, conclude, Run.ofExcept_apply]
              refine ⟨hstated, ?_⟩
              cases hback : t.writeBack e result.keys with
              | error err => exact .of_updates hupdates
              | ok left =>
                  refine ⟨?_, Table.writesBack_of_writeBack hback⟩
                  cases hupdates with
                  | changed hcompiled hsaid => exact ⟨_, _, _, .of_compile hcompiled, hsaid, rfl⟩

theorem insertAll_course (t : Table E) (total : RowsAffected) (entities : List E)
    (w : World (σ × List Exchange)) :
    ∃ xs outcome, w.Stated xs (db.insertAll t total entities w).2 ∧
      InsertionCourse db.settings t entities xs outcome ∧
      (db.insertAll t total entities w).1 = outcome.map (Inserted.addTo total) := by
  induction entities generalizing total w with
  | nil =>
      refine ⟨[], _, .of_trace rfl, .finished (List.forall_mem_nil _), ?_⟩
      show Except.ok (Inserted.mk [] (.ok total)) = .ok ⟨[], .ok (total.add {})⟩
      rw [RowsAffected.add_empty]
  | cons e entities ih =>
      obtain ⟨xs, hstated, hfirst⟩ := insertEntity_stated hdriver t e w
      cases hrun : db.insertEntity t e w with
      | mk outcome v =>
          rw [hrun] at hstated hfirst
          cases outcome with
          | error err =>
              rw [insertAll_of_error hrun]
              split
              next hpanic =>
                exact ⟨xs, .error err, hstated, .panicked (List.forall_mem_nil _) hfirst hpanic,
                  rfl⟩
              next => exact ⟨xs, _, hstated, .failed (List.forall_mem_nil _) hfirst, rfl⟩
          | ok inserted =>
              obtain ⟨left, result⟩ := inserted
              obtain ⟨ys, outcome, hlater, hcourse, hrest⟩ := ih (total.add result) v
              rw [insertAll_cons hrun]
              refine ⟨xs ++ ys, _, hstated.trans hlater, .cons hfirst hcourse, ?_⟩
              rw [hrest]
              cases outcome with
              | error err => rfl
              | ok r =>
                  exact congrArg Except.ok
                    (Insertion.addTo_ahead ⟨e, xs, result, left⟩ total r).symm

/-- Entities are inserted in their order, each with a statement of its own, until one fails. -/
theorem insertEntities_course (t : Table E) (entities : List E) (w : World (σ × List Exchange)) :
    ∃ xs, w.Stated xs (db.insertEntities t entities w).2 ∧
      PreparesInOrder db.settings t entities xs ∧
      InsertionCourse db.settings t entities xs (db.insertEntities t entities w).1 := by
  obtain ⟨xs, outcome, hstated, hcourse, hcame⟩ := insertAll_course hdriver t {} entities w
  have hsame : outcome.map (Inserted.addTo {}) = outcome := by
    cases outcome with
    | error err => rfl
    | ok r => exact congrArg Except.ok r.addTo_empty
  rw [insertEntities, hcame, hsame]
  exact ⟨xs, hstated, hcourse.preparesInOrder, hcourse⟩

end Database

/-- The second entry has no body, so the third is not reached. -/
theorem written_inserted_until_blank :
    let one : Value := .some (.integer .int64 ⟨1, by decide, by decide⟩)
    let inserted := scriptedDatabase.insertEntities diary [written, blank, written] quietWorld
    inserted.1 =
        .ok ⟨[⟨written.fields ++ [("id", one)]⟩, blank, written], .error missingBody⟩ ∧
      ∃ xs, quietWorld.Stated xs inserted.2 ∧
        PreparesInOrder scriptedDatabase.settings diary [written, blank, written] xs ∧
        InsertionCourse scriptedDatabase.settings diary [written, blank, written] xs inserted.1 :=
  ⟨rfl, Database.insertEntities_course (d := ScriptedStore.driver []) rfl diary _ quietWorld⟩

/-- A table with two columns of one name, of which the second is its key. -/
def twins : Table Record :=
  let plain := ((Table.ofName "twins").declare "id" (Codec.ofType .int32) false false
    (Record.nullable "id" .int32)).1
  (plain.declare "id" (Codec.ofType .int64) true false (Record.nullable "id" .int64)).1

/-- The key that comes back is not taken by the column whose key is missing: the other column has
its name. -/
theorem twins_key_misplaced :
    let key : Value := .some (.integer .int64 ⟨1, by decide, by decide⟩)
    let narrow : Value := .some (.integer .int32 ⟨1, by decide, by decide⟩)
    ∃ b ∈ twins.bound, ∃ setter, b.setter = some setter ∧ twins.missingKeys ⟨[]⟩ = [b.column] ∧
      setter ⟨[]⟩ (.single key false) 0 = .ok ⟨[("id", key)]⟩ ∧
      (scriptedDatabase.insertEntities twins [⟨[]⟩] quietWorld).1 =
        .ok ⟨[⟨[("id", narrow)]⟩], .ok ⟨1, [key]⟩⟩ ∧ narrow ≠ key :=
  ⟨twins.bound.get ⟨1, by decide⟩, List.get_mem .., _, rfl, rfl, rfl, rfl, by decide⟩

end TypedSql
