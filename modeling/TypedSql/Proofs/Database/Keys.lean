import Mathlib.Data.List.Nodup
import TypedSql.Database.Entity
import TypedSql.Proofs.Database.Preparing
import TypedSql.Proofs.Writer.Entities

namespace TypedSql

/-! Rows that are changed or deleted for an entity are found by the whole primary key, and by
nothing else. -/

open Session

variable {σ α β ε E : Type}

theorem ok_bind (a : α) (f : α → Except ε β) : (Except.ok a >>= f) = f a := rfl

theorem mapM_error_of_mem {f : α → Except ε β} {as : List α} {a : α} {err : ε} (h : a ∈ as)
    (hfailed : f a = .error err) : ∃ err', as.mapM f = .error err' := by
  induction as with
  | nil => cases h
  | cons a' as ih =>
      rw [List.mapM_cons]
      cases hfirst : f a' with
      | error err' => exact ⟨err', rfl⟩
      | ok b =>
          rcases List.mem_cons.mp h with rfl | h
          · rw [hfailed] at hfirst
            cases hfirst
          · obtain ⟨err', hlater⟩ := ih h
            rw [hlater]
            exact ⟨err', rfl⟩

theorem mapM_eq_map {f : α → Except ε β} {g : α → β} {as : List α}
    (h : ∀ a ∈ as, f a = .ok (g a)) : as.mapM f = .ok (as.map g) := by
  induction as with
  | nil => rfl
  | cons a as ih =>
      obtain ⟨hhere, hlater⟩ := List.forall_mem_cons.mp h
      rw [List.mapM_cons, hhere, ih hlater]
      rfl

theorem Cell.assignment_of (f : Cell) :
    Assignment.of f.1 (.parameter f.parameter) =
      if f.1.notNull && f.2.isNull then .error (.nullAssignment f.1.table.name f.1.name)
      else .ok f.assignment := by
  have hnull : (Expr.parameter f.parameter).isNull = f.2.isNull := rfl
  rw [Assignment.of, Assignment.check, hnull]
  cases f.1.notNull && f.2.isNull <;> rfl

namespace Table

variable (t : Table E) (e : E)

def keyColumns : List ColumnRef :=
  t.columns.filter (·.primaryKey)

/-- The table has a primary key, and every column of it can be read from an entity. -/
def HasKey : Prop :=
  t.keyColumns ≠ [] ∧ ∀ b ∈ t.bound, b.column.primaryKey → b.getter.isSome

instance : Decidable t.HasKey :=
  inferInstanceAs (Decidable (_ ∧ _))

/-- What the entity has in the columns of the primary key. -/
def keyCells : List Cell :=
  (t.values e).filter fun f => f.1.primaryKey

def otherCells : List Cell :=
  (t.values e).filter fun f => !f.1.primaryKey

variable {t e}

theorem find_of_mem (hdistinct : (t.columns.map ColumnRef.name).Nodup) {b : BoundColumn E}
    (h : b ∈ t.bound) : t.find b.column = .ok b := by
  rw [find]
  cases hfound : t.bound.find? fun b' => b'.column.name == b.column.name with
  | none =>
      have habsent := List.find?_eq_none.mp hfound b h
      simp at habsent
  | some b' =>
      have hsame : b'.column.name = b.column.name := by simpa using List.find?_some hfound
      have hdistinct : (t.bound.map fun b => b.column.name).Nodup := by
        simpa [columns, Function.comp_def] using hdistinct
      obtain rfl := List.inj_on_of_nodup_map hdistinct (List.mem_of_find?_eq_some hfound) h hsame
      rfl

theorem get_of_mem (hdistinct : (t.columns.map ColumnRef.name).Nodup) {b : BoundColumn E}
    (h : b ∈ t.bound) :
    t.get e b.column = match b.getter with
      | some getter => .ok (getter e)
      | none => .error (.noGetter t.ref.name b.column.name) := by
  rw [get, find_of_mem hdistinct h]
  rfl

theorem mem_values {f : Cell} :
    f ∈ t.values e ↔
      ∃ b ∈ t.bound, ∃ getter, b.getter = some getter ∧ (b.column, getter e) = f := by
  simp only [values, List.mem_filterMap, Option.map_eq_some_iff]

theorem get_of_mem_values (hdistinct : (t.columns.map ColumnRef.name).Nodup) {f : Cell}
    (h : f ∈ t.values e) : t.get e f.1 = .ok f.2 := by
  obtain ⟨b, hb, getter, hgetter, rfl⟩ := mem_values.mp h
  rw [get_of_mem hdistinct hb, hgetter]

/-- The columns of the key are those that the cells of the key are for. -/
theorem HasKey.map_keyCells (h : t.HasKey) (e : E) :
    (t.keyCells e).map Prod.fst = t.keyColumns := by
  have hreadable := h.2
  unfold keyCells keyColumns values columns
  generalize t.bound = bound at hreadable ⊢
  induction bound with
  | nil => rfl
  | cons b bound ih =>
      obtain ⟨hhere, hlater⟩ := List.forall_mem_cons.mp hreadable
      have hrest := ih hlater
      cases hkey : b.column.primaryKey with
      | true =>
          obtain ⟨getter, hgetter⟩ := Option.isSome_iff_exists.mp (hhere hkey)
          simp [hgetter, hkey, hrest]
      | false =>
          cases hgetter : b.getter with
          | none => simpa [hgetter, hkey] using hrest
          | some getter => simpa [hgetter, hkey] using hrest

theorem HasKey.keyCells_ne_nil (h : t.HasKey) (e : E) : t.keyCells e ≠ [] := by
  intro hnone
  have hcolumns := h.map_keyCells e
  rw [hnone] at hcolumns
  exact h.1 hcolumns.symm

theorem primaryKeys_of_ne_nil (h : t.keyColumns ≠ []) : t.primaryKeys = .ok t.keyColumns := by
  unfold primaryKeys
  split
  next hnone => exact absurd hnone h
  next => rfl

theorem keyFilter_of_hasKey (hdistinct : (t.columns.map ColumnRef.name).Nodup) (hkeyed : t.HasKey)
    (e : E) : ∃ filter, t.keyFilter e = .ok filter ∧
      Cell.conjunction (t.keyCells e) = some filter := by
  have hconditions : t.keyColumns.mapM (fun c => do
      return (Expr.column c).eq (.parameter ⟨← t.get e c, c.codec⟩)) =
      (.ok ((t.keyCells e).map Cell.condition) : Except UsageFault (List Expr)) := by
    rw [← hkeyed.map_keyCells e, List.mapM_map]
    refine mapM_eq_map fun f hf => ?_
    simp only [Function.comp_apply, get_of_mem_values hdistinct (List.mem_of_mem_filter hf)]
    rfl
  obtain ⟨f, fs, hcells⟩ := List.exists_cons_of_ne_nil (hkeyed.keyCells_ne_nil e)
  rw [hcells] at hconditions ⊢
  refine ⟨_, ?_, rfl⟩
  simp only [keyFilter, primaryKeys_of_ne_nil hkeyed.1, ok_bind, hconditions]
  rfl

theorem keyFilter_of_not_hasKey (hdistinct : (t.columns.map ColumnRef.name).Nodup)
    (hkeyless : ¬t.HasKey) (e : E) : ∃ fault, t.keyFilter e = .error fault := by
  by_cases hnone : t.keyColumns = []
  · refine ⟨.noPrimaryKey t.ref.name, ?_⟩
    have hkeys : t.primaryKeys = .error (.noPrimaryKey t.ref.name) := by
      unfold primaryKeys
      rw [show t.columns.filter (·.primaryKey) = [] from hnone]
    rw [keyFilter, hkeys]
    rfl
  · obtain ⟨b, hb, hkey, hunreadable⟩ : ∃ b ∈ t.bound, b.column.primaryKey ∧ ¬b.getter.isSome := by
      simpa [HasKey, hnone] using hkeyless
    have hmem : b.column ∈ t.keyColumns := List.mem_filter.mpr ⟨List.mem_map_of_mem hb, hkey⟩
    have hunread : t.get e b.column = .error (.noGetter t.ref.name b.column.name) := by
      rw [get_of_mem hdistinct hb]
      cases hgetter : b.getter with
      | none => rfl
      | some getter => simp [hgetter] at hunreadable
    have hrefused : (do
        return (Expr.column b.column).eq (.parameter ⟨← t.get e b.column, b.column.codec⟩)) =
        (.error (.noGetter t.ref.name b.column.name) : Except UsageFault Expr) := by
      rw [hunread]
      rfl
    obtain ⟨fault, hfailed⟩ := mapM_error_of_mem hmem (f := fun c => do
      return (Expr.column c).eq (.parameter ⟨← t.get e c, c.codec⟩)) hrefused
    refine ⟨fault, ?_⟩
    simp only [keyFilter, primaryKeys_of_ne_nil hnone, ok_bind, hfailed]
    rfl

theorem assignments_of_filled (wanted : ColumnRef → Value → Bool) {cells : List Cell}
    (h : ((t.values e).filter fun (c, v) => wanted c v) = cells)
    (hfilled : ∀ f ∈ cells, (f.1.notNull && f.2.isNull) = false) :
    t.assignments e wanted = .ok (cells.map Cell.assignment) := by
  rw [assignments, h]
  refine mapM_eq_map fun f hf => ?_
  exact (Cell.assignment_of f).trans (if_neg (by simp [hfilled f hf]))

theorem assignments_of_unfilled (wanted : ColumnRef → Value → Bool) {cells : List Cell}
    (h : ((t.values e).filter fun (c, v) => wanted c v) = cells) {f : Cell} (hf : f ∈ cells)
    (hempty : f.1.notNull && f.2.isNull) : ∃ fault, t.assignments e wanted = .error fault := by
  rw [assignments, h]
  exact mapM_error_of_mem hf ((Cell.assignment_of f).trans (if_pos hempty))

/-- Whether the entity has something to write: a column besides the key, and no null where there is
to be none. -/
def IsWritable (t : Table E) (e : E) : Prop :=
  t.otherCells e ≠ [] ∧ ∀ f ∈ t.otherCells e, (f.1.notNull && f.2.isNull) = false

instance (t : Table E) (e : E) : Decidable (t.IsWritable e) :=
  inferInstanceAs (Decidable (_ ∧ _))

theorem updateOf_of_keyless (hdistinct : (t.columns.map ColumnRef.name).Nodup)
    (hkeyless : ¬t.HasKey) (e : E) : ∃ fault, t.updateOf e = .error (.usage fault) := by
  obtain ⟨fault, hrefused⟩ := keyFilter_of_not_hasKey hdistinct hkeyless e
  exact ⟨fault, by rw [updateOf, hrefused]; rfl⟩

theorem deleteOf_of_keyless (hdistinct : (t.columns.map ColumnRef.name).Nodup)
    (hkeyless : ¬t.HasKey) (e : E) : ∃ fault, t.deleteOf e = .error (.usage fault) := by
  obtain ⟨fault, hrefused⟩ := keyFilter_of_not_hasKey hdistinct hkeyless e
  exact ⟨fault, by rw [deleteOf, hrefused]; rfl⟩

theorem deleteOf_of_hasKey (hdistinct : (t.columns.map ColumnRef.name).Nodup) (hkeyed : t.HasKey)
    (e : E) : t.deleteOf e = .ok (.ofCells t.ref (t.keyCells e)) := by
  obtain ⟨filter, haccepted, hconjunction⟩ := keyFilter_of_hasKey hdistinct hkeyed e
  rw [deleteOf, haccepted, Delete.ofCells, hconjunction]
  rfl

theorem updateOf_of_writable (hdistinct : (t.columns.map ColumnRef.name).Nodup) (hkeyed : t.HasKey)
    (hwritable : t.IsWritable e) :
    t.updateOf e = .ok (.ofCells t.ref (t.otherCells e) (t.keyCells e)) := by
  obtain ⟨filter, haccepted, hconjunction⟩ := keyFilter_of_hasKey hdistinct hkeyed e
  have hassigned : t.assignments e (fun c _ => !c.primaryKey) =
      .ok ((t.otherCells e).map Cell.assignment) := assignments_of_filled _ rfl hwritable.2
  have hnonempty : ((t.otherCells e).map Cell.assignment).isEmpty = false := by
    simpa using hwritable.1
  rw [updateOf, haccepted, hassigned, Update.ofCells, hconjunction]
  simp only [Except.mapError, ok_bind, Update.of, hnonempty]
  rfl

theorem updateOf_of_unwritable (hdistinct : (t.columns.map ColumnRef.name).Nodup)
    (hkeyed : t.HasKey) (hunwritable : ¬t.IsWritable e) :
    ∃ fault, t.updateOf e = .error (.construction fault) := by
  obtain ⟨filter, haccepted, -⟩ := keyFilter_of_hasKey hdistinct hkeyed e
  by_cases hfilled : ∀ f ∈ t.otherCells e, (f.1.notNull && f.2.isNull) = false
  · have hnone : t.otherCells e = [] := by
      by_contra hsome
      exact hunwritable ⟨hsome, hfilled⟩
    have hassigned : t.assignments e (fun c _ => !c.primaryKey) = .ok [] :=
      assignments_of_filled (fun c _ => !c.primaryKey) hnone (List.forall_mem_nil _)
    refine ⟨.updateWithoutAssignment, ?_⟩
    rw [updateOf, haccepted, hassigned]
    rfl
  · obtain ⟨f, hf, hempty⟩ : ∃ f ∈ t.otherCells e, (f.1.notNull && f.2.isNull) = true := by
      simpa using hfilled
    obtain ⟨fault, hrefused⟩ := assignments_of_unfilled (fun c _ => !c.primaryKey) rfl hf hempty
    exact ⟨fault, by rw [updateOf, haccepted, hrefused]; rfl⟩

end Table

/-- One statement is prepared, without asking for keys, and the calls behind that bind its
parameters and execute it, up to the first that fails. -/
def Session.PreparesOnly (x : Session (σ × List Exchange) α) (c : CompiledSql)
    (w : World (σ × List Exchange)) : Prop :=
  ∃ n xs, w.Stated xs (x w).2 ∧
    (xs.map Exchange.call).filter Call.isPrepare = [.prepare ⟨n, c.sql, false⟩] ∧
    xs.map Exchange.call <+: c.updating ⟨n, c.sql, false⟩

namespace Database

variable {d : Driver σ} {db : Database (σ × List Exchange)} {w : World (σ × List Exchange)}

theorem executeUpdate_preparesOnly (hdriver : db.manager.driver = d.traced)
    (hhandsOut : db.manager.HandsOut w) {statement : Statement} {c : CompiledSql}
    (hcompiled : db.settings.compile statement = .ok c) :
    PreparesOnly (db.executeUpdate statement) c w := by
  obtain ⟨xs, hstated, hupdates, hunprepared⟩ := updating_stated hdriver statement false w
  have hstarted : xs ≠ [] := by
    intro hnone
    obtain ⟨e, hrefused⟩ := hunprepared hnone hhandsOut
    cases hcompiled.symm.trans hrefused
  obtain ⟨c', n, hcompiled', hpart⟩ := hupdates.part hstarted
  cases hcompiled.symm.trans hcompiled'
  have hcalls : xs.map Exchange.call ≠ [] := by simpa using hstarted
  exact ⟨n, xs, hstated, c.filter_isPrepare_of_prefix _ hcalls hpart, hpart⟩

theorem updateEntity_of_error {db : Database σ} {t : Table E} {e : E} {err : Error}
    (h : t.updateOf e = .error err) (w : World σ) : db.updateEntity t e w = (.error err, w) := by
  rw [updateEntity, h]
  rfl

theorem deleteEntity_of_error {db : Database σ} {t : Table E} {e : E} {err : Error}
    (h : t.deleteOf e = .error err) (w : World σ) : db.deleteEntity t e w = (.error err, w) := by
  rw [deleteEntity, h]
  rfl

theorem updateEntity_of_ok {db : Database σ} {t : Table E} {e : E} {u : Update}
    (h : t.updateOf e = .ok u) : db.updateEntity t e = db.executeUpdate (.update u) := by
  rw [updateEntity, h]
  rfl

theorem deleteEntity_of_ok {db : Database σ} {t : Table E} {e : E} {u : Delete}
    (h : t.deleteOf e = .ok u) : db.deleteEntity t e = db.executeUpdate (.delete u) := by
  rw [deleteEntity, h]
  rfl

/-- An entity is updated or deleted by one statement, and its row is found by every column of the
primary key in the order of the table.  Without a key that can be read, or without anything that
could be written, nothing is said to the store. -/
theorem entity_matched_by_key (hdriver : db.manager.driver = d.traced)
    (hhandsOut : db.manager.HandsOut w) {t : Table E}
    (hdistinct : (t.columns.map ColumnRef.name).Nodup) (e : E) :
    (¬t.HasKey → (∃ fault, db.updateEntity t e w = (.error (.usage fault), w)) ∧
      ∃ fault, db.deleteEntity t e w = (.error (.usage fault), w)) ∧
    (t.HasKey → (t.keyCells e).map Prod.fst = t.keyColumns ∧ t.keyColumns ≠ [] ∧
      (¬t.IsWritable e → ∃ fault, db.updateEntity t e w = (.error (.construction fault), w)) ∧
      (t.IsWritable e → PreparesOnly (db.updateEntity t e)
        ⟨String.ofList (db.settings.writer.print 0
            (Cell.updatePieces t.ref (t.otherCells e) (t.keyCells e))),
          (t.otherCells e ++ t.keyCells e).map Cell.parameter⟩ w) ∧
      PreparesOnly (db.deleteEntity t e)
        ⟨String.ofList (db.settings.writer.print 0 (Cell.deletePieces t.ref (t.keyCells e))),
          (t.keyCells e).map Cell.parameter⟩ w) := by
  refine ⟨fun hkeyless => ?_, fun hkeyed => ⟨hkeyed.map_keyCells e, hkeyed.1, ?_, ?_, ?_⟩⟩
  · obtain ⟨fault, hupdate⟩ := Table.updateOf_of_keyless hdistinct hkeyless e
    obtain ⟨fault', hdelete⟩ := Table.deleteOf_of_keyless hdistinct hkeyless e
    exact ⟨⟨fault, updateEntity_of_error hupdate w⟩, fault', deleteEntity_of_error hdelete w⟩
  · intro hunwritable
    obtain ⟨fault, hrefused⟩ := Table.updateOf_of_unwritable hdistinct hkeyed hunwritable
    exact ⟨fault, updateEntity_of_error hrefused w⟩
  · intro hwritable
    rw [updateEntity_of_ok (Table.updateOf_of_writable hdistinct hkeyed hwritable)]
    exact executeUpdate_preparesOnly hdriver hhandsOut
      (db.settings.writer.compile_updateOfCells t.ref _ (hkeyed.keyCells_ne_nil e))
  · rw [deleteEntity_of_ok (Table.deleteOf_of_hasKey hdistinct hkeyed e)]
    exact executeUpdate_preparesOnly hdriver hhandsOut
      (db.settings.writer.compile_deleteOfCells t.ref (hkeyed.keyCells_ne_nil e))

end Database

def bookings : Table Record :=
  let keyed := ((Table.ofName "bookings").declare "room" (Codec.ofType .int64) true false
    (Record.nullable "room" .int64)).1
  let dated := (keyed.declare "night" (Codec.ofType .int64) true false
    (Record.nullable "night" .int64)).1
  (dated.declare "guest" (Codec.ofType .varchar) false true (Record.nullable "guest" .varchar)).1

def booking : Record :=
  ⟨[("room", seven), ("night", seven), ("guest", .some (.varchar "Ada"))]⟩

/-- Both columns of the key find the booking. -/
theorem booking_matched_by_key :
    PreparesOnly (scriptedDatabase.updateEntity bookings booking)
        ⟨"UPDATE bookings SET guest = ? WHERE (room = ?) AND (night = ?)",
          [.ofType .varchar (.some (.varchar "Ada")), .ofType .int64 seven, .ofType .int64 seven]⟩
        quietWorld ∧
      PreparesOnly (scriptedDatabase.deleteEntity bookings booking)
        ⟨"DELETE FROM bookings WHERE (room = ?) AND (night = ?)",
          [.ofType .int64 seven, .ofType .int64 seven]⟩ quietWorld := by
  have hkeyed : bookings.HasKey := by decide
  have hwritable : bookings.IsWritable booking := by decide
  have hhandsOut : scriptedDatabase.manager.HandsOut quietWorld := fun _ => ⟨_, _, rfl⟩
  have hmatched := Database.entity_matched_by_key (d := ScriptedStore.driver []) rfl hhandsOut
    (t := bookings) (by decide) booking
  obtain ⟨-, -, -, -, hupdate, hdelete⟩ := hmatched.imp_right fun h => h hkeyed
  exact ⟨hupdate hwritable, hdelete⟩

end TypedSql
