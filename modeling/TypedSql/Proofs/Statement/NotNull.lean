import TypedSql.Proofs.Writer.Nulls

namespace TypedSql

/-! Columns that are not null.  Assignments and inserts refuse a null literal and a parameter of
null for them, and rows that do not fit their columns; the check does not look inside of a tuple,
at the name of a call or at that of a column. -/

theorem eq_ok_of_forM {ε α : Type} {f : α → Except ε PUnit} {xs : List α}
    (h : xs.forM f = .ok ⟨⟩) : ∀ x ∈ xs, f x = .ok ⟨⟩ := by
  induction xs with
  | nil => exact nofun
  | cons x xs ih =>
      cases hfirst : f x with
      | error e =>
          rw [List.forM_eq_forM, List.forM_cons, hfirst] at h
          cases h
      | ok u =>
          rw [List.forM_eq_forM, List.forM_cons, hfirst] at h
          exact List.forall_mem_cons.mpr ⟨hfirst, ih h⟩

namespace Expr

variable {w : Writer} {s : Scope} {e : Expr}

/-- An expression that is written as a null by itself, though it is neither a null literal nor a
parameter of null: such a value alone in a tuple, a call, or a column. -/
inductive HidesNull (w : Writer) (s : Scope) (e : Expr) : Prop
  | wrapped {elements : List Expr} (htuple : e = .tuple elements) (hnull : e.unwrapped.isNull)
  | call {name : String} {type : Option WireType}
      (hwritten : e.unwrapped = .function name [] false type)
      (hkeyword : Sql.IsNullKeyword name.toList)
  | column {c : ColumnRef} (hwritten : e.unwrapped = .column c)
      (hunqualified : c.qualifierPieces s = [])
      (hkeyword : Sql.IsNullKeyword (w.config.nameText c.name))

theorem writesNull_unwrapped_iff (hvalue : e.isNull = false) :
    e.unwrapped.WritesNull w s ↔ e.HidesNull w s := by
  constructor
  · intro hwrites
    generalize hwritten : e.unwrapped = f at hwrites
    cases hwrites with
    | value hnull =>
        subst hwritten
        cases e with
        | tuple elements => exact .wrapped rfl hnull
        | _ => exact absurd (hnull.symm.trans hvalue) (by decide)
    | call hkeyword => exact .call hwritten hkeyword
    | column hunqualified hkeyword => exact .column hwritten hunqualified hkeyword
  · intro hhides
    cases hhides with
    | wrapped htuple hnull => exact .value hnull
    | call hwritten hkeyword =>
        rw [hwritten]
        exact .call hkeyword
    | column hwritten hunqualified hkeyword =>
        rw [hwritten]
        exact .column hunqualified hkeyword

end Expr

/-- What may stand for the value of a column: for one that is not null, nothing is written as a
null by itself but what hides it from the check. -/
def ColumnRef.Admits (c : ColumnRef) (e : Expr) : Prop :=
  c.notNull → e.isNull = false ∧ ((∀ op ∈ e.collect .operators, op.IsMade) →
    ∀ w s count, (e.render w s).IsBareNull w count ↔ e.HidesNull w s)

namespace Assignment

variable {column : ColumnRef} {value : Expr}

theorem check_eq_ok_iff :
    check column value = .ok () ↔ (column.notNull → value.isNull = false) := by
  unfold check
  cases column.notNull <;> cases value.isNull <;> simp

theorem admits_of_check (hchecked : check column value = .ok ()) : column.Admits value := by
  intro hnotNull
  have hpresent := check_eq_ok_iff.mp hchecked hnotNull
  refine ⟨hpresent, fun hmade w s count => ?_⟩
  rw [Expr.isBareNull_render_iff hmade, Expr.writesNull_unwrapped_iff hpresent]

theorem admits_of_of {a : Assignment} (hmade : Assignment.of column value = .ok a) :
    a.column.Admits a.value := by
  cases hchecked : check column value with
  | error fault =>
      rw [Assignment.of, hchecked] at hmade
      cases hmade
  | ok u =>
      rw [Assignment.of, hchecked] at hmade
      cases hmade
      exact admits_of_check hchecked

end Assignment

namespace Insert

variable {table : TableRef} {columns : List ColumnRef} {i : Insert}

/-- Every row has a value for each column, and one that its column admits. -/
def IsFilled (i : Insert) : Prop :=
  ∀ rows, i.source = .rows rows → ∀ row ∈ rows,
    row.length = i.columns.length ∧ ∀ cell ∈ i.columns.zip row, cell.1.Admits cell.2

theorem filled_of_checkRow {row : List Expr} (hchecked : checkRow table columns row = .ok ()) :
    row.length = columns.length ∧ ∀ cell ∈ columns.zip row, cell.1.Admits cell.2 := by
  unfold checkRow at hchecked
  split at hchecked
  next => cases hchecked
  next hfits =>
    refine ⟨not_not.mp hfits, fun cell hmem => ?_⟩
    exact Assignment.admits_of_check (eq_ok_of_forM hchecked cell hmem)

theorem isFilled_of_of {rows : Option (List (List Expr))} {query : Option Select}
    (hmade : Insert.of table columns rows query = .ok i) : i.IsFilled := by
  simp only [Insert.of] at hmade
  split at hmade
  · cases hmade
  cases rows with
  | none =>
      cases query with
      | none => cases hmade
      | some query =>
          suffices hqueried : i.source = .query query by
            intro rows hvalues
            rw [hqueried] at hvalues
            cases hvalues
          simp only at hmade
          cases hvalid : query.validate with
          | error fault =>
              rw [hvalid] at hmade
              cases hmade
          | ok u =>
              rw [hvalid] at hmade
              change (if query.resultColumns.length ≠ columns.length then _ else _) = _ at hmade
              split at hmade
              · cases hmade
              · cases hmade
                rfl
  | some values =>
      cases query with
      | some query => cases hmade
      | none =>
          simp only at hmade
          split at hmade
          · cases hmade
          cases hchecked : values.forM (checkRow table columns) with
          | error fault =>
              rw [hchecked] at hmade
              cases hmade
          | ok u =>
              rw [hchecked] at hmade
              cases hmade
              intro rows hsame
              cases hsame
              exact fun row hmem => filled_of_checkRow (eq_ok_of_forM hchecked row hmem)

/-- Assignments and inserts, however they are made, have no value for a column that is not null
that would be written as a null by itself, unless the null is hidden from the check; and an insert
of rows has in each as many values as columns. -/
theorem admit_hidden_nulls (column : ColumnRef) (value : Expr) (table : TableRef)
    (columns : List ColumnRef) (rows : Option (List (List Expr))) (query : Option Select)
    (assignments : List Assignment) :
    (∀ a, Assignment.of column value = .ok a → a.column.Admits a.value) ∧
      (∀ i, Insert.of table columns rows query = .ok i → i.IsFilled) ∧
        ∀ i, Insert.ofAssignments table assignments = .ok i → i.IsFilled :=
  ⟨fun _ => Assignment.admits_of_of, fun _ => isFilled_of_of, fun _ => isFilled_of_of⟩

end Insert

/-- The text of a note, which is never null. -/
def noteBody : ColumnRef where
  table := { name := "notes" }
  name := "body"
  codec := .ofType .varchar
  notNull := true

def wrappedNull : Expr := .tuple [.literal .null]

theorem wrappedNull_hides : ∃ i,
    Insert.of noteBody.table [noteBody] (some [[wrappedNull]]) none = .ok i ∧ noteBody.notNull ∧
      (wrappedNull.render plainWriter ⟨.insertIntoValues, false⟩).IsBareNull plainWriter 0 := by
  refine ⟨⟨noteBody.table, [noteBody], .rows [[wrappedNull]]⟩, rfl, rfl, rfl, .inl ?_⟩
  decide +kernel

theorem wrappedNull_admitted :
    Insert.of noteBody.table [noteBody] (some [[wrappedNull]]) none =
        .ok ⟨noteBody.table, [noteBody], .rows [[wrappedNull]]⟩ ∧
      ∀ w s count, (wrappedNull.render w s).IsBareNull w count ↔ wrappedNull.HidesNull w s := by
  have hmade : Insert.of noteBody.table [noteBody] (some [[wrappedNull]]) none =
      .ok ⟨noteBody.table, [noteBody], .rows [[wrappedNull]]⟩ := rfl
  obtain ⟨-, hfilled, -⟩ := Insert.admit_hidden_nulls noteBody wrappedNull noteBody.table
    [noteBody] (some [[wrappedNull]]) none []
  obtain ⟨-, hadmitted⟩ := hfilled _ hmade _ rfl [wrappedNull] (List.mem_singleton_self _)
  obtain ⟨-, hhides⟩ := hadmitted (noteBody, wrappedNull) (List.mem_singleton_self _) rfl
  exact ⟨hmade, hhides nofun⟩

end TypedSql
