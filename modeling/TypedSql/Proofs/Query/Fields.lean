import TypedSql.Proofs.Query.Meaning
import TypedSql.Table.Result

namespace TypedSql

namespace ResultColumn

def name? (r : ResultColumn) : Option String :=
  r.label.or (r.column.map ColumnRef.name)

/-- Whether the field is one of the columns of a derived source. -/
def isNameable (r : ResultColumn) : Bool :=
  r.column.isSome || (r.label.isSome && r.type.isSome)

theorem underAlias?_of_isNameable {r : ResultColumn} (h : r.isNameable) (table : TableRef) :
    ∃ c, r.underAlias? table = some c ∧ Field.ofColumn c = ⟨some table, r.name?⟩ := by
  obtain ⟨column, label, type⟩ := r
  cases column with
  | some c => cases label <;> exact ⟨_, rfl, rfl⟩
  | none =>
      cases label with
      | none => contradiction
      | some label =>
          cases type with
          | none => contradiction
          | some type => exact ⟨_, rfl, rfl⟩

theorem map_underAlias? {rs : List ResultColumn} (h : rs.all isNameable) (table : TableRef) :
    (rs.filterMap (underAlias? table)).map Field.ofColumn =
      (rs.map name?).map fun name => ⟨some table, name⟩ := by
  induction rs with
  | nil => rfl
  | cons r rs ih =>
      rw [List.all_cons, Bool.and_eq_true] at h
      obtain ⟨c, hc, hfield⟩ := underAlias?_of_isNameable h.1 table
      rw [List.filterMap_cons_some hc, List.map_cons, List.map_cons, List.map_cons, hfield, ih h.2]

end ResultColumn

theorem SelectItem.name?_resultColumn (item : SelectItem) :
    item.resultColumn.name? = item.name? := by
  obtain ⟨e, label⟩ := item
  cases e <;> rfl

section

variable {V : Type}

theorem Field.isNamedBy_ofColumn (own c : ColumnRef) :
    (Field.ofColumn own).isNamedBy c = own.same c := by
  simp [Field.isNamedBy, Field.ofColumn, ColumnRef.same]

theorem SelectItem.column_of_carries {item : SelectItem} {c : ColumnRef}
    (h : item.resultColumn.carries c) : ∃ own, item.expression = .column own ∧ own.same c := by
  obtain ⟨e, label⟩ := item
  cases e with
  | column own => exact ⟨own, rfl, h⟩
  | _ => contradiction

theorem Moment.cell_of_same {own c : ColumnRef} (h : own.same c) (mo : Moment V) :
    mo.cell own = mo.cell c := by
  obtain ⟨hname, htable⟩ : own.name = c.name ∧ own.table = c.table := by
    simpa [ColumnRef.same] using h
  simp [Moment.cell, Field.isNamedBy, hname, htable]

/-- The first field of a row that a column refers to holds the cell that it reads there. -/
theorem Moment.getElem?_cells {mo : Moment V} {own : Fields V} {outer : Sight V}
    (hsight : mo.sight = own :: outer) {c : ColumnRef} {i : Nat}
    (hi : (own.map Prod.fst).findIdx? (·.isNamedBy c) = some i) :
    mo.cells[i]? = some (mo.cell c) := by
  have hindex : own.findIdx? (fun f => f.1.isNamedBy c) = some i := by
    rw [List.findIdx?_map] at hi
    exact hi
  obtain ⟨hlt, -, -⟩ := List.findIdx?_eq_some_iff_getElem.mp hindex
  have hfound : own.find? (fun f => f.1.isNamedBy c) = some own[i] := by
    rw [List.find?_eq_bind_findIdx?_getElem?, hindex, Option.bind_some,
      List.getElem?_eq_getElem hlt]
  rw [Moment.cells, Moment.cell, hsight, List.headD_cons, List.findSome?_cons, hfound]
  simp [hlt]

end

mutual

/-- Whether one condition holds of the queries of derived sources, and another one of the sides of
unions, wherever the fields of a source come from. -/
def Source.along (derived : Query → Bool) (union : Query → Query → Bool) : Source → Bool
  | .table _ _ => true
  | .join _ left right _ => left.along derived union && right.along derived union
  | .derived query _ => query.along derived union && derived query

def Source.optionAlong (derived : Query → Bool) (union : Query → Query → Bool) :
    Option Source → Bool
  | none => true
  | some source => source.along derived union

def Select.along (derived : Query → Bool) (union : Query → Query → Bool) : Select → Bool
  | ⟨items, source, _, _, _, _, _, _, _⟩ =>
      !items.isEmpty || Source.optionAlong derived union source

def Query.along (derived : Query → Bool) (union : Query → Query → Bool) : Query → Bool
  | .select query => query.along derived union
  | .union query => query.along derived union

def Union.along (derived : Query → Bool) (union : Query → Query → Bool) : Union → Bool
  | ⟨left, right, _, _, _, _, _⟩ =>
      left.along derived union && right.along derived union && union left right

end

namespace Query

/-- Whether each field of the query has a name, by which it is a column of a derived source. -/
def isNameable (query : Query) : Bool :=
  query.resultColumns.all ResultColumn.isNameable

/-- What `Union.of` asks of its sides. -/
def agrees (left right : Query) : Bool :=
  left.resultColumns.length == right.resultColumns.length

end Query

mutual

theorem Source.map_columns (source : Source)
    (h : source.along Query.isNameable Query.agrees) :
    source.columns.map Field.ofColumn = source.fields := by
  cases source with
  | table t cs => simp only [Source.columns, Source.fields]
  | join kind left right on =>
      simp only [Source.along, Bool.and_eq_true] at h
      simp only [Source.columns, Source.fields, List.map_append]
      rw [Source.map_columns left h.1, Source.map_columns right h.2]
  | derived query aliasName =>
      simp only [Source.along, Bool.and_eq_true] at h
      simp only [Source.columns, Source.fields]
      rw [← Query.map_resultColumns query h.1, ResultColumn.map_underAlias? h.2]
      rfl

theorem Source.map_optionColumns (source : Option Source)
    (h : Source.optionAlong Query.isNameable Query.agrees source) :
    (Source.optionColumns source).map Field.ofColumn = Source.optionFields source := by
  cases source with
  | none => simp only [Source.optionColumns, Source.optionFields, List.map_nil]
  | some source =>
      simp only [Source.optionAlong] at h
      simp only [Source.optionColumns, Source.optionFields]
      exact Source.map_columns source h

theorem Select.map_resultColumns (query : Select)
    (h : query.along Query.isNameable Query.agrees) :
    query.resultColumns.map ResultColumn.name? = query.names := by
  cases query with
  | mk items source filter distinct groupBy having orderBy limit offset =>
      simp only [Select.along, Bool.or_eq_true, Bool.not_eq_true'] at h
      simp only [Select.resultColumns, Select.names]
      split
      · rename_i hitems
        have hsource := h.resolve_left (by simp [hitems])
        rw [← Source.map_optionColumns source hsource, List.map_map, List.map_map]
        rfl
      · rw [List.map_map]
        exact List.map_congr_left fun item _ => item.name?_resultColumn

theorem Query.map_resultColumns (query : Query)
    (h : query.along Query.isNameable Query.agrees) :
    query.resultColumns.map ResultColumn.name? = query.names := by
  cases query with
  | select query =>
      simp only [Query.along] at h
      simp only [Query.resultColumns, Query.names]
      exact Select.map_resultColumns query h
  | union query =>
      simp only [Query.along] at h
      simp only [Query.resultColumns, Query.names]
      exact Union.map_resultColumns query h

theorem Union.map_resultColumns (query : Union)
    (h : query.along Query.isNameable Query.agrees) :
    query.resultColumns.map ResultColumn.name? = query.names := by
  cases query with
  | mk left right all parens orderBy limit offset =>
      simp only [Union.along, Bool.and_eq_true] at h
      simp only [Union.resultColumns, Union.names]
      exact Query.map_resultColumns left h.1.1

end

section

variable {α β V : Type}

theorem mem_of_mem_firstsBy [DecidableEq β] {f : α → β} {a : α} {as : List α}
    (h : a ∈ firstsBy f as) : a ∈ as := by
  induction as with
  | nil => cases h
  | cons b bs ih =>
      rcases List.mem_cons.mp h with rfl | hrest
      · exact List.mem_cons_self
      · exact List.mem_cons_of_mem b (ih (List.mem_filter.mp hrest).1)

theorem mem_of_mem_page {limit offset : Option Nat} {a : α} {rows : List α}
    (h : a ∈ page limit offset rows) : a ∈ rows := by
  cases limit with
  | none => exact List.mem_of_mem_drop h
  | some n => exact List.mem_of_mem_drop (List.mem_of_mem_take h)

theorem JoinKind.mem_rows {kind : JoinKind} {on : List α → Bool} {nullsLeft nullsRight : List α}
    {left right : List (List α)} {row : List α}
    (h : row ∈ kind.rows on nullsLeft nullsRight left right) :
    ∃ l r, row = l ++ r ∧ (l ∈ left ∨ l = nullsLeft) ∧ (r ∈ right ∨ r = nullsRight) := by
  have hparts : row ∈ left.flatMap (fun l => (right.map (l ++ ·)).filter on) ∨
      row ∈ (left.filter fun l => right.all fun r => !on (l ++ r)).map (· ++ nullsRight) ∨
      row ∈ (right.filter fun r => left.all fun l => !on (l ++ r)).map (nullsLeft ++ ·) := by
    cases kind <;> simp only [JoinKind.rows, List.mem_append] at h <;> tauto
  rcases hparts with hpair | hleft | hright
  · obtain ⟨l, hl, hpair⟩ := List.mem_flatMap.mp hpair
    obtain ⟨r, hr, rfl⟩ := List.mem_map.mp (List.mem_filter.mp hpair).1
    exact ⟨l, r, rfl, .inl hl, .inl hr⟩
  · obtain ⟨l, hl, rfl⟩ := List.mem_map.mp hleft
    exact ⟨l, nullsRight, rfl, .inl (List.mem_filter.mp hl).1, .inr rfl⟩
  · obtain ⟨r, hr, rfl⟩ := List.mem_map.mp hright
    exact ⟨nullsLeft, r, rfl, .inr rfl, .inl (List.mem_filter.mp hr).1⟩

namespace Selection

variable [DecidableEq V] {p : Selection V}

theorem exists_moment {row : List (Option V)} (h : row ∈ p.rows) :
    ∃ mo ∈ p.moments, p.project mo = row := by
  obtain ⟨mo, hmo, hrow⟩ := List.mem_map.mp (mem_of_mem_page h)
  rw [List.mem_insertionSort] at hmo
  refine ⟨mo, ?_, hrow⟩
  split at hmo
  · exact mem_of_mem_firstsBy hmo
  · exact hmo

theorem sight_of_mem_moments {mo : Moment V} (h : mo ∈ p.moments) :
    mo.sight ∈ p.sights ∨ mo.sight = p.nulls := by
  have hsights {sight : Sight V} (hsight : sight ∈ p.kept) : sight ∈ p.sights :=
    (List.mem_filter.mp hsight).1
  have hgroup := (List.mem_filter.mp h).1
  split at hgroup
  · obtain ⟨first, hfirst, rfl⟩ := List.mem_map.mp hgroup
    exact .inl (hsights (mem_of_mem_firstsBy hfirst))
  · split at hgroup
    · obtain rfl := List.mem_singleton.mp hgroup
      cases hkept : p.kept with
      | nil => exact .inr (by simp)
      | cons first rest => exact .inl (hsights (by simp [hkept]))
    · obtain ⟨sight, hsight, rfl⟩ := List.mem_map.mp hgroup
      exact .inl (hsights hsight)

end Selection

variable [DecidableEq V] {m : Meaning V} {outer : Sight V}

theorem SelectItem.values_eq_map (items : List SelectItem) (mo : Moment V) :
    SelectItem.values m items mo = items.map fun item => item.expression.value m mo := by
  induction items with
  | nil => rfl
  | cons item rest ih =>
      obtain ⟨e, label⟩ := item
      rw [SelectItem.values, List.map_cons, ih]

namespace Select

/-- The innermost row at a moment of a select has the fields of its source. -/
theorem exists_own {s : Select} (hrows : ∀ row ∈ Source.optionRows m s.source outer,
      row.length = (Source.optionFields s.source).length)
    {mo : Moment V} (hmo : mo ∈ (s.selection m outer).moments) :
    ∃ own, mo.sight = own :: outer ∧ own.map Prod.fst = Source.optionFields s.source := by
  rcases Selection.sight_of_mem_moments hmo with hsight | hsight
  · obtain ⟨row, hrow, hsight⟩ := List.mem_map.mp hsight
    exact ⟨_, hsight.symm, List.map_fst_zip (hrows row hrow).ge⟩
  · refine ⟨_, hsight, ?_⟩
    rw [List.map_map]
    exact List.map_id _

theorem length_project {s : Select} (hrows : s.items.isEmpty = true →
      ∀ row ∈ Source.optionRows m s.source outer,
        row.length = (Source.optionFields s.source).length)
    {mo : Moment V} (hmo : mo ∈ (s.selection m outer).moments) :
    ((s.selection m outer).project mo).length = s.names.length := by
  have hnames : s.names = if s.items.isEmpty then (Source.optionFields s.source).map Field.name
      else s.items.map SelectItem.name? := by
    cases s
    simp only [Select.names]
  cases hitems : s.items.isEmpty with
  | true =>
      obtain ⟨own, hsight, hfields⟩ := exists_own (hrows hitems) hmo
      rw [hnames, if_pos hitems, project_of_star hitems, Moment.cells, hsight, List.headD_cons,
        List.length_map, List.length_map, ← hfields, List.length_map]
  | false =>
      rw [hnames, if_neg (by simp [hitems]), project_of_items hitems, SelectItem.values_eq_map,
        List.length_map, List.length_map]

end Select

mutual

theorem Source.length_of_mem_rows (source : Source)
    (h : source.along Query.isNameable Query.agrees) {row : List (Option V)}
    (hrow : row ∈ source.rows m outer) : row.length = source.fields.length := by
  cases source with
  | table t cs =>
      simp only [Source.rows] at hrow
      obtain ⟨cells, -, rfl⟩ := List.mem_map.mp hrow
      simp only [Source.fields, List.length_map]
  | join kind left right on =>
      simp only [Source.along, Bool.and_eq_true] at h
      simp only [Source.rows] at hrow
      obtain ⟨l, r, rfl, hl, hr⟩ := JoinKind.mem_rows hrow
      have hlengthLeft : l.length = left.fields.length := by
        rcases hl with hl | rfl
        · exact Source.length_of_mem_rows left h.1 hl
        · exact List.length_map _
      have hlengthRight : r.length = right.fields.length := by
        rcases hr with hr | rfl
        · exact Source.length_of_mem_rows right h.2 hr
        · exact List.length_map _
      simp only [Source.fields, List.length_append, hlengthLeft, hlengthRight]
  | derived query aliasName =>
      simp only [Source.along, Bool.and_eq_true] at h
      simp only [Source.rows] at hrow
      simp only [Source.fields, List.length_map]
      exact Query.length_of_mem_rows query h.1 hrow

theorem Source.length_of_mem_optionRows (source : Option Source)
    (h : Source.optionAlong Query.isNameable Query.agrees source) {row : List (Option V)}
    (hrow : row ∈ Source.optionRows m source outer) :
    row.length = (Source.optionFields source).length := by
  cases source with
  | none =>
      simp only [Source.optionRows, List.mem_singleton] at hrow
      rw [hrow, Source.optionFields]
      rfl
  | some source =>
      simp only [Source.optionAlong] at h
      simp only [Source.optionRows] at hrow
      simp only [Source.optionFields]
      exact Source.length_of_mem_rows source h hrow

theorem Select.length_of_mem_rows (query : Select)
    (h : query.along Query.isNameable Query.agrees) {row : List (Option V)}
    (hrow : row ∈ query.rows m outer) : row.length = query.names.length := by
  cases query with
  | mk items source filter distinct groupBy having orderBy limit offset =>
      simp only [Select.along, Bool.or_eq_true, Bool.not_eq_true'] at h
      rw [Select.rows_eq] at hrow
      obtain ⟨mo, hmo, rfl⟩ := Selection.exists_moment hrow
      refine Select.length_project ?_ hmo
      intro hitems row hrow
      exact Source.length_of_mem_optionRows source (h.resolve_left (by simp [hitems])) hrow

theorem Query.length_of_mem_rows (query : Query)
    (h : query.along Query.isNameable Query.agrees) {row : List (Option V)}
    (hrow : row ∈ query.rows m outer) : row.length = query.names.length := by
  cases query with
  | select query =>
      simp only [Query.along] at h
      simp only [Query.rows] at hrow
      simp only [Query.names]
      exact Select.length_of_mem_rows query h hrow
  | union query =>
      simp only [Query.along] at h
      simp only [Query.rows] at hrow
      simp only [Query.names]
      exact Union.length_of_mem_rows query h hrow

theorem Union.length_of_mem_rows (query : Union)
    (h : query.along Query.isNameable Query.agrees) {row : List (Option V)}
    (hrow : row ∈ query.rows m outer) : row.length = query.names.length := by
  cases query with
  | mk left right all parens orderBy limit offset =>
      simp only [Union.along, Bool.and_eq_true, Query.agrees, beq_iff_eq] at h
      obtain ⟨⟨hleft, hright⟩, hsides⟩ := h
      have hsides : left.names.length = right.names.length := by
        rw [← Query.map_resultColumns left hleft, ← Query.map_resultColumns right hright,
          List.length_map, List.length_map, hsides]
      have hboth : row ∈ left.rows m outer ++ right.rows m outer := by
        have hfound := mem_of_mem_page hrow
        rw [List.mem_insertionSort] at hfound
        split at hfound
        · exact hfound
        · exact mem_of_mem_firstsBy hfound
      simp only [Union.names]
      rcases List.mem_append.mp hboth with hrow | hrow
      · exact Query.length_of_mem_rows left hleft hrow
      · rw [hsides]
        exact Query.length_of_mem_rows right hright hrow

end

theorem Select.getElem?_resultColumns {s : Select} {i : Nat} {item : SelectItem}
    (h : s.items[i]? = some item) : s.resultColumns[i]? = some item.resultColumn := by
  cases s with
  | mk items source filter distinct groupBy having orderBy limit offset =>
      have hitems : items.isEmpty = false := by
        cases items with
        | nil => cases h
        | cons first rest => rfl
      rw [Select.resultColumns, if_neg (by simp [hitems]), List.getElem?_map, h, Option.map_some]

theorem Select.getElem?_project {s : Select} {i : Nat} {item : SelectItem}
    (h : s.items[i]? = some item) (mo : Moment V) :
    ((s.selection m outer).project mo)[i]? = some (item.expression.value m mo) := by
  have hitems : s.items.isEmpty = false := by
    cases hs : s.items with
    | nil => simp [hs] at h
    | cons first rest => rfl
  rw [Select.project_of_items hitems, SelectItem.values_eq_map, List.getElem?_map, h,
    Option.map_some]

theorem Select.getElem?_project_of_carries {s : Select}
    (h : s.along Query.isNameable Query.agrees) {mo : Moment V}
    (hmo : mo ∈ (s.selection m outer).moments) {c : ColumnRef} {i : Nat}
    (hi : s.resultColumns.findIdx? (·.carries c) = some i) :
    ((s.selection m outer).project mo)[i]? = some (mo.cell c) := by
  cases s with
  | mk items source filter distinct groupBy having orderBy limit offset =>
      simp only [Select.along, Bool.or_eq_true, Bool.not_eq_true'] at h
      simp only [Select.resultColumns] at hi
      split at hi
      · rename_i hitems
        have hsource := h.resolve_left (by simp [hitems])
        obtain ⟨own, hsight, hfields⟩ := Select.exists_own
          (fun row hrow => Source.length_of_mem_optionRows source hsource hrow) hmo
        have hindex : (Source.optionFields source).findIdx? (·.isNamedBy c) = some i := by
          rw [← Source.map_optionColumns source hsource, List.findIdx?_map, ← hi, List.findIdx?_map]
          exact congrArg (List.findIdx? · _) (funext fun own => Field.isNamedBy_ofColumn own c)
        rw [Select.project_of_star hitems]
        exact Moment.getElem?_cells hsight (hfields ▸ hindex)
      · rename_i hitems
        rw [List.findIdx?_map] at hi
        obtain ⟨hlt, hcarries, -⟩ := List.findIdx?_eq_some_iff_getElem.mp hi
        obtain ⟨own, hown, hsame⟩ := SelectItem.column_of_carries hcarries
        rw [Select.getElem?_project (List.getElem?_eq_getElem hlt), hown, Expr.value,
          Moment.cell_of_same hsame]

end

theorem LabelledRow.get_of_carries {α : Type} {r : LabelledRow} {column : Column α} {i : Nat}
    (h : r.columns.findIdx? (·.carries column.ref) = some i) :
    r.get column = column.codec.extract r.toRow i := by
  simp [get, indexOf?, h]

theorem Union.exists_of_iff {left right : Query} {all : Bool} :
    (∃ u, Union.of left right all = .ok u) ↔
      left.resultColumns.length = right.resultColumns.length := by
  simp only [Union.of]
  split
  · rename_i hne
    simp [hne]
  · rename_i heq
    simpa using heq

theorem Insert.exists_of_query_iff {table : TableRef} {columns : List ColumnRef} {s : Select} :
    (∃ i, Insert.of table columns none (some s) = .ok i) ↔
      columns ≠ [] ∧ s.validate = .ok () ∧ s.resultColumns.length = columns.length := by
  cases columns with
  | nil => simp [Insert.of, bind, Except.bind, throw, throwThe, MonadExceptOf.throw]
  | cons c cs =>
      cases hvalid : s.validate with
      | error fault => simp [Insert.of, hvalid, bind, Except.bind]
      | ok =>
          by_cases hlength : s.resultColumns.length = cs.length + 1 <;>
            simp [Insert.of, hvalid, hlength, bind, Except.bind, pure, Except.pure, throw,
              throwThe, MonadExceptOf.throw]

/-- The declared columns of a source and of a query are those of the fields that their rows have,
in this order, if the fields of derived sources have names.  So it is the numbers of fields that
decide whether a union and an insertion of a select are accepted, and a column is read from a
field that holds it. -/
theorem columns_describe_fields {source : Source} {query other : Query} {s : Select}
    (hsource : source.along Query.isNameable Query.agrees)
    (hquery : query.along Query.isNameable Query.agrees)
    (hother : other.along Query.isNameable Query.agrees)
    (hs : s.along Query.isNameable Query.agrees)
    {V : Type} [DecidableEq V] (m : Meaning V) (outer : Sight V) :
    (source.columns.map Field.ofColumn = source.fields ∧
      ∀ row ∈ source.rows m outer, row.length = source.columns.length) ∧
    (query.resultColumns.map ResultColumn.name? = query.names ∧
      ∀ row ∈ query.rows m outer, row.length = query.resultColumns.length) ∧
    (∀ all, (∃ u, Union.of query other all = .ok u) ↔
      query.names.length = other.names.length) ∧
    (∀ table columns, (∃ i, Insert.of table columns none (some s) = .ok i) ↔
      columns ≠ [] ∧ s.validate = .ok () ∧ s.names.length = columns.length) ∧
    ∀ row ∈ s.rows m outer, ∃ mo ∈ (s.selection m outer).moments,
      (∀ (i : Nat) (item : SelectItem), s.items[i]? = some item →
        s.resultColumns[i]? = some item.resultColumn ∧
          row[i]? = some (item.expression.value m mo)) ∧
      ∀ (α : Type) (column : Column α) (i : Nat),
        s.resultColumns.findIdx? (·.carries column.ref) = some i →
          row[i]? = some (mo.cell column.ref) ∧
            ∀ r : LabelledRow, r.columns = s.resultColumns →
              r.get column = column.codec.extract r.toRow i := by
  have hfields := Source.map_columns source hsource
  have hnames := Query.map_resultColumns query hquery
  refine ⟨⟨hfields, ?_⟩, ⟨hnames, ?_⟩, ?_, ?_, ?_⟩
  · intro row hrow
    rw [Source.length_of_mem_rows source hsource hrow, ← hfields, List.length_map]
  · intro row hrow
    rw [Query.length_of_mem_rows query hquery hrow, ← hnames, List.length_map]
  · intro all
    rw [Union.exists_of_iff, ← hnames, ← Query.map_resultColumns other hother, List.length_map,
      List.length_map]
  · intro table columns
    rw [Insert.exists_of_query_iff, ← Select.map_resultColumns s hs, List.length_map]
  · intro row hrow
    rw [Select.rows_eq] at hrow
    obtain ⟨mo, hmo, rfl⟩ := Selection.exists_moment hrow
    refine ⟨mo, hmo, ?_, ?_⟩
    · intro i item hitem
      exact ⟨Select.getElem?_resultColumns hitem, Select.getElem?_project hitem mo⟩
    · intro α column i hi
      refine ⟨Select.getElem?_project_of_carries hs hmo hi, ?_⟩
      intro r hr
      exact LabelledRow.get_of_carries (hr ▸ hi)

def guests : Select :=
  { Select.ofSource (some (.table guest.table [guest])) with items := [⟨.column guest, none⟩] }

/-- All fields of a derived source: a count, and a guest. -/
def listedCount (label : Option String) : Select :=
  .ofSource (some (.derived (.select { guests with items := ⟨.countAll, label⟩ :: guests.items })
    "listed"))

/-- With a label, the count is a column of the derived source. -/
theorem labelledCount_described :
    (listedCount (some "stays")).along Query.isNameable Query.agrees ∧
      (∀ row ∈ (listedCount (some "stays")).rows threeStays [], row.length = 2) ∧
      ¬∃ u, Union.of (.select (listedCount (some "stays"))) (.select guests) false = .ok u := by
  have htable : (Source.table guest.table [guest]).along Query.isNameable Query.agrees := rfl
  have hlisted : (Query.select (listedCount (some "stays"))).along Query.isNameable Query.agrees :=
    rfl
  have hsingle : (Query.select guests).along Query.isNameable Query.agrees := rfl
  have hselect : guests.along Query.isNameable Query.agrees := rfl
  obtain ⟨-, ⟨-, hlengths⟩, hunions, -⟩ :=
    columns_describe_fields htable hlisted hsingle hselect threeStays []
  refine ⟨hlisted, hlengths, ?_⟩
  intro haccepted
  exact absurd ((hunions false).mp haccepted) (by decide)

/-- Without one it is a field that no column stands for: a union with a select of one field is
accepted, and the guest is read from the count. -/
theorem unlabelledCount_shifted :
    (∃ u, Union.of (.select (listedCount none)) (.select guests) false = .ok u) ∧
      (listedCount none).rows threeStays [] = [[some 3, some 1]] ∧
      guests.rows threeStays [] = [[some 1], [some 1], [some 2]] ∧
      (listedCount none).resultColumns.findIdx?
        (·.carries (guest.withTable (.ofAlias "listed"))) = some 0 :=
  ⟨⟨_, rfl⟩, rfl, rfl, rfl⟩

end TypedSql
