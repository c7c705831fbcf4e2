import TypedSql.Proofs.Database.Rows

namespace TypedSql

/-! Columns and labels looked up in a row that has been read into memory.  Labels, declared columns
and values are three lists, which agree in their lengths only as far as the store does. -/

variable {σ α : Type}

namespace Select

/-- The fields of the select are these columns, without labels: either its items name them, or it
has no items and they are the columns of its source. -/
def GivesColumns (s : Select) (cs : List ColumnRef) : Prop :=
  (s.items ≠ [] ∧ s.items = cs.map fun own => ⟨.column own, none⟩) ∨
    (s.items = [] ∧ Source.optionColumns s.source = cs)

theorem GivesColumns.resultColumns {s : Select} {cs : List ColumnRef} (h : s.GivesColumns cs) :
    s.resultColumns = cs.map .ofColumn := by
  cases s with
  | mk items source filter distinct groupBy having orderBy limit offset =>
      rcases h with ⟨hexplicit, rfl⟩ | ⟨rfl, rfl⟩
      · rw [Select.resultColumns, if_neg (by simpa using hexplicit), List.map_map]
        rfl
      · rfl

end Select

namespace LabelledRow

variable {r : LabelledRow} {cs : List ColumnRef} {c : ColumnRef}

theorem indexOf?_of_columns (hcolumns : r.columns = cs.map .ofColumn) :
    r.indexOf? c = (cs.findIdx? (·.same c)).or (r.indexOfLabel? c.name) := by
  have hunlabelled : r.columns.findIdx? (fun own => own.label == some c.name) = none := by
    rw [hcolumns, List.findIdx?_eq_none_iff]
    intro own h
    obtain ⟨_, -, rfl⟩ := List.mem_map.mp h
    rfl
  have hcarried : r.columns.findIdx? (·.carries c) = cs.findIdx? (·.same c) := by
    rw [hcolumns, List.findIdx?_map]
    rfl
  rw [indexOf?, hunlabelled, hcarried]
  cases cs.findIdx? (·.same c) <;> rfl

theorem get_of_index {column : Column α} {i : Nat} (h : r.indexOf? column.ref = some i) :
    r.get column = column.codec.extract r.toRow i := by
  rw [get, h]

theorem get_of_absent {column : Column α} (h : r.indexOf? column.ref = none) :
    r.get column = .error (.usage (.notInResult column.ref.name)) := by
  rw [get, h]

/-- A column that a select gives is read from the first field that is it.  Any other one is not part
of the result, unless the store labels a field with its name, whatever column that field is: then it
is read from there. -/
theorem get_of_columns {s : Select} (hgives : s.GivesColumns cs)
    (hcolumns : r.columns = s.resultColumns) (hlabels : r.labels.length = r.values.length)
    (column : Column α) :
    (∀ a, r.get column = .ok a → (∃ own ∈ cs, own.same column.ref) ∨
      ∃ label ∈ r.labels, sameLabel label column.ref.name) ∧
    ((∃ own ∈ cs, own.same column.ref) → ∃ i own, cs[i]? = some own ∧ own.same column.ref ∧
      r.get column = column.codec.extract r.toRow i) ∧
    ((∀ own ∈ cs, ¬own.same column.ref) →
      ((∃ label ∈ r.labels, sameLabel label column.ref.name) → ∃ i < r.values.length,
        r.indexOfLabel? column.ref.name = some i ∧
          r.get column = column.codec.extract r.toRow i) ∧
      ((∀ label ∈ r.labels, ¬sameLabel label column.ref.name) →
        r.get column = .error (.usage (.notInResult column.ref.name)))) := by
  have hfound := indexOf?_of_columns (c := column.ref) (hcolumns.trans hgives.resultColumns)
  have hmissing (hother : ∀ own ∈ cs, ¬own.same column.ref) :
      r.indexOf? column.ref = r.indexOfLabel? column.ref.name := by
    rw [hfound, List.findIdx?_eq_none_iff.mpr fun own h => by simpa using hother own h,
      Option.none_or]
  have hrefused (hother : ∀ own ∈ cs, ¬own.same column.ref)
      (hunknown : ∀ label ∈ r.labels, ¬sameLabel label column.ref.name) :
      r.get column = .error (.usage (.notInResult column.ref.name)) := by
    refine get_of_absent ((hmissing hother).trans (List.findIdx?_eq_none_iff.mpr ?_))
    exact fun label h => by simpa using hunknown label h
  refine ⟨?_, ?_, fun hother => ⟨?_, hrefused hother⟩⟩
  · intro a hread
    by_contra hnowhere
    obtain ⟨hother, hunknown⟩ := not_or.mp hnowhere
    rw [hrefused (fun own h hsame => hother ⟨own, h, hsame⟩)
      fun label h hsame => hunknown ⟨label, h, hsame⟩] at hread
    cases hread
  · intro hgiven
    obtain ⟨i, hi⟩ := Option.isSome_iff_exists.mp
      (List.findIdx?_isSome.trans (List.any_eq_true.mpr hgiven))
    obtain ⟨hinside, hsame, -⟩ := List.findIdx?_eq_some_iff_getElem.mp hi
    refine ⟨i, cs[i], List.getElem?_eq_getElem hinside, hsame, get_of_index ?_⟩
    rw [hfound, hi, Option.some_or]
  · intro hlabelled
    obtain ⟨i, hi⟩ := Option.isSome_iff_exists.mp
      (List.findIdx?_isSome.trans (List.any_eq_true.mpr hlabelled))
    obtain ⟨hinside, -⟩ := List.findIdx?_eq_some_iff_getElem.mp hi
    exact ⟨i, hlabels ▸ hinside, hi, get_of_index ((hmissing hother).trans hi)⟩

end LabelledRow

namespace Purchases

def columnOf (table name : String) : Column (Native .int64) :=
  ⟨{ table := { name := table }, name, codec := .ofType .int64 }, .ofType .int64⟩

def userId : Column (Native .int64) := columnOf "users" "id"

def orderId : Column (Native .int64) := columnOf "orders" "id"

def orderUser : Column (Native .int64) := columnOf "orders" "user_id"

def joined : Select :=
  { Select.ofSource (some (.join .inner (.table { name := "users" } [userId.ref])
      (.table { name := "orders" } [orderId.ref, orderUser.ref])
      (some (orderUser.eq (.expression userId.expression))))) with
    items := [⟨.column userId.ref, none⟩, ⟨.column orderUser.ref, none⟩] }

def row : LabelledRow := ⟨["id", "user_id"], joined.resultColumns, [seven, seven], [false, false]⟩

end Purchases

open Purchases in
theorem LabelledRow.get_of_columns_joined :
    (∃ i, row.get orderUser = orderUser.codec.extract row.toRow i) ∧
      row.get (columnOf "users" "user") = .error (.usage (.notInResult "user")) := by
  have hgives : joined.GivesColumns [userId.ref, orderUser.ref] := .inl ⟨by simp [joined], rfl⟩
  obtain ⟨-, hgiven, -⟩ := LabelledRow.get_of_columns hgives (r := row) rfl rfl orderUser
  obtain ⟨i, -, -, -, hread⟩ := hgiven ⟨orderUser.ref, by simp, by decide⟩
  obtain ⟨-, -, hother⟩ :=
    LabelledRow.get_of_columns hgives (r := row) rfl rfl (columnOf "users" "user")
  obtain ⟨-, hunlabelled⟩ := hother (by decide)
  exact ⟨⟨i, hread⟩, hunlabelled (by decide)⟩

open Purchases in
/-- No field is the number of an order, and yet one is read: that of the user. -/
theorem LabelledRow.get_otherTable :
    (∀ item ∈ joined.items, ¬item.resultColumn.carries orderId.ref) ∧
      row.get orderId = row.get userId ∧ ∃ a, row.get orderId = .ok (some a) :=
  ⟨by decide, rfl, _, rfl⟩

theorem length_of_mapM_ok {β γ : Type} {f : β → Except Error γ} {as : List β} {bs : List γ}
    (h : as.mapM f = .ok bs) : bs.length = as.length := by
  induction as generalizing bs with
  | nil =>
      cases h
      rfl
  | cons a as ih =>
      rw [List.mapM_cons] at h
      cases hfirst : f a with
      | error e =>
          rw [hfirst] at h
          cases h
      | ok b =>
          rw [hfirst] at h
          cases hrest : as.mapM f with
          | error e =>
              rw [hrest] at h
              cases h
          | ok bs' =>
              rw [hrest] at h
              cases h
              exact congrArg (· + 1) (ih hrest)

namespace LabelledRow

/-- What reading a field with a codec can give: what the codec makes of a value of the row, nothing
for a field that the store reports as null, or a refusal to look beyond the row. -/
inductive Answers (r : LabelledRow) (codec : Codec α) : Except Error (Option α) → Prop
  | value {i : Nat} {v : Value} (hheld : r.values[i]? = some v) :
      Answers r codec ((codec.decode v).map some)
  | null {i : Nat} (hinside : i < r.values.length) : Answers r codec (.ok none)
  | refused (fault : UsageFault) : Answers r codec (.error (.usage fault))

variable {r : LabelledRow}

theorem answers_extract (codec : Codec α) (i : Nat) :
    r.Answers codec (codec.extract r.toRow i) := by
  cases hheld : r.values[i]? with
  | none =>
      have hrefused : codec.extract r.toRow i =
          .error (.usage (.fieldOutOfBounds i r.values.length)) := by
        simp only [Codec.extract, toRow, hheld]
      exact hrefused ▸ .refused _
  | some v =>
      cases hnull : r.toRow.wasNull i with
      | true =>
          have hmissing : codec.extract r.toRow i = .ok none := by
            rw [Codec.extract]
            simp only [hnull, if_true]
            simp only [toRow, hheld]
          exact hmissing ▸ .null (List.getElem?_eq_some_iff.mp hheld).1
      | false =>
          have hdecoded : codec.extract r.toRow i = (codec.decode v).map some := by
            rw [Codec.extract]
            simp only [hnull]
            simp only [toRow, hheld]
            rfl
          exact hdecoded ▸ .value hheld

/-- Every lookup stays within the values of the row; only a value by its label may be one that the
row does not have. -/
structure Guarded (r : LabelledRow) : Prop where
  get : ∀ {α : Type} (column : Column α), r.Answers column.codec (r.get column)
  getIndex : ∀ {α : Type} (codec : Codec α) (i : Nat), r.Answers codec (r.getIndex codec i)
  getLabel : ∀ {α : Type} (codec : Codec α) (label : String),
    r.Answers codec (r.getLabel codec label)
  value : ∀ i, (∃ v, r.values[i]? = some v ∧ r.toRow.value i = .ok v) ∨
    r.values.length ≤ i ∧ r.toRow.value i = .error (.usage (.fieldOutOfBounds i r.values.length))
  label : ∀ i, r.toRow.label i ∈ r.labels ∨ r.labels.length ≤ i ∧ r.toRow.label i = ""
  wasNull : ∀ i, r.values.length ≤ i → r.toRow.wasNull i = true
  absent : ∀ label, r.lookup label = .absent ↔ r.indexOfLabel? label = none
  found : ∀ label v, r.lookup label = .found v ↔
    ∃ i, r.indexOfLabel? label = some i ∧ r.values[i]? = some v
  beyond : ∀ label i n, r.lookup label = .beyond i n ↔
    r.indexOfLabel? label = some i ∧ r.values.length ≤ i ∧ n = r.values.length

theorem lookup_of_index {label : String} {i : Nat} (h : r.indexOfLabel? label = some i) :
    r.lookup label = match r.values[i]? with
      | some v => .found v
      | none => .beyond i r.values.length := by
  cases hheld : r.values[i]? <;> simp only [lookup, h, hheld]

theorem lookup_eq_absent_iff {label : String} :
    r.lookup label = .absent ↔ r.indexOfLabel? label = none := by
  cases hindex : r.indexOfLabel? label with
  | none => simp [lookup, hindex]
  | some i =>
      rw [lookup_of_index hindex]
      cases r.values[i]? <;> simp

theorem lookup_eq_found_iff {label : String} {v : Value} :
    r.lookup label = .found v ↔ ∃ i, r.indexOfLabel? label = some i ∧ r.values[i]? = some v := by
  cases hindex : r.indexOfLabel? label with
  | none => simp [lookup, hindex]
  | some i =>
      rw [lookup_of_index hindex]
      cases hheld : r.values[i]? <;> simp [hheld]

theorem lookup_eq_beyond_iff {label : String} {i n : Nat} :
    r.lookup label = .beyond i n ↔
      r.indexOfLabel? label = some i ∧ r.values.length ≤ i ∧ n = r.values.length := by
  cases hindex : r.indexOfLabel? label with
  | none => simp [lookup, hindex]
  | some j =>
      rw [lookup_of_index hindex]
      cases hheld : r.values[j]? with
      | none =>
          have houtside := List.getElem?_eq_none_iff.mp hheld
          simp only [Lookup.beyond.injEq, Option.some.injEq]
          constructor
          · rintro ⟨rfl, rfl⟩
            exact ⟨rfl, houtside, rfl⟩
          · rintro ⟨rfl, -, rfl⟩
            exact ⟨rfl, rfl⟩
      | some v =>
          have hinside := (List.getElem?_eq_some_iff.mp hheld).1
          simp only [reduceCtorEq, Option.some.injEq, false_iff]
          rintro ⟨rfl, houtside, -⟩
          omega

theorem guarded_of_nulls (hnulls : r.nulls.length = r.values.length) : r.Guarded where
  get column := by
    rw [LabelledRow.get]
    cases r.indexOf? column.ref with
    | some i => exact answers_extract column.codec i
    | none => exact .refused _
  getIndex codec i := by
    rw [LabelledRow.getIndex]
    split
    · exact .refused _
    · exact answers_extract codec i
  getLabel codec label := by
    rw [LabelledRow.getLabel]
    cases r.indexOfLabel? label with
    | some i => exact answers_extract codec i
    | none => exact .refused _
  value i := by
    cases hheld : r.values[i]? with
    | some v => exact .inl ⟨v, rfl, by simp only [toRow, hheld]⟩
    | none => exact .inr ⟨List.getElem?_eq_none_iff.mp hheld, by simp only [toRow, hheld]⟩
  label i := by
    rcases Nat.lt_or_ge i r.labels.length with hinside | houtside
    · exact .inl (by simp [toRow, hinside])
    · exact .inr ⟨houtside, by simp [toRow, houtside]⟩
  wasNull i houtside := by simp [toRow, hnulls, houtside]
  absent _ := lookup_eq_absent_iff
  found _ _ := lookup_eq_found_iff
  beyond _ _ _ := lookup_eq_beyond_iff

theorem index_lt_labels {label : String} {i : Nat} (h : r.indexOfLabel? label = some i) :
    i < r.labels.length :=
  (List.findIdx?_eq_some_iff_getElem.mp h).1

variable {row : Row} {labels : List String} {columns : List ResultColumn}

theorem of_read (h : read row labels columns = .ok r) :
    r.labels = labels ∧ r.values.length = row.size ∧ r.nulls = row.nulls := by
  cases hvalues : row.values with
  | error e =>
      rw [read, hvalues] at h
      cases h
  | ok vs =>
      rw [read, hvalues] at h
      cases h
      refine ⟨rfl, ?_, rfl⟩
      exact (length_of_mapM_ok hvalues).trans (List.length_range)

theorem guarded_of_read (h : read row labels columns = .ok r) : r.Guarded := by
  obtain ⟨-, hvalues, hnulls⟩ := of_read h
  refine guarded_of_nulls ?_
  rw [hnulls, hvalues, Row.nulls, List.length_map, List.length_range]

/-- Rows of one result have the labels of the first, one for each value of it. -/
def Uniform (rows : List LabelledRow) : Prop :=
  ∀ r ∈ rows, r.Guarded ∧ ∃ first, rows.head? = some first ∧
    r.labels = first.labels ∧ first.labels.length = first.values.length

theorem uniform_of_readNext {before after : List LabelledRow} (huniform : Uniform before)
    (h : readNext columns before row = .ok after) : Uniform after := by
  rw [readNext] at h
  cases hread : LabelledRow.read row ((before.head?.map LabelledRow.labels).getD row.labels)
      columns with
  | error e =>
      rw [hread] at h
      cases h
  | ok new =>
      rw [hread] at h
      cases h
      obtain ⟨hlabels, hvalues, -⟩ := of_read hread
      intro r hr
      cases before with
      | nil =>
          obtain rfl := List.mem_singleton.mp hr
          refine ⟨guarded_of_read hread, r, rfl, rfl, ?_⟩
          rw [hlabels, hvalues]
          simp [Row.labels]
      | cons first rest =>
          rcases List.mem_append.mp hr with hold | hlast
          · exact huniform r hold
          · obtain rfl := List.mem_singleton.mp hlast
            obtain ⟨-, first', hsame, -, hwhole⟩ := huniform first List.mem_cons_self
            obtain rfl := Option.some.inj hsame
            exact ⟨guarded_of_read hread, first, rfl, hlabels, hwhole⟩

theorem uniform_of_foldlM {stream : List Row} {before after : List LabelledRow}
    (huniform : Uniform before) (h : stream.foldlM (readNext columns) before = .ok after) :
    Uniform after := by
  induction stream generalizing before with
  | nil =>
      cases h
      exact huniform
  | cons row stream ih =>
      rw [List.foldlM_cons] at h
      cases hnext : readNext columns before row with
      | error e =>
          rw [hnext] at h
          cases h
      | ok between =>
          rw [hnext] at h
          exact ih (uniform_of_readNext huniform hnext) h

end LabelledRow

theorem Database.uniform_of_query {db : Database σ} {statement : Statement} {w : World σ}
    {rows : List LabelledRow} (h : (db.query statement w).1 = .ok rows) :
    LabelledRow.Uniform rows := by
  rw [query_fst] at h
  cases hanswered : (db.answer statement w).1 with
  | error e =>
      rw [hanswered] at h
      cases h
  | ok answer =>
      obtain ⟨c, stream⟩ := answer
      rw [hanswered] at h
      change db.gathered _ [] (c, stream) = .ok rows at h
      cases hfailure : stream.failure with
      | some e =>
          rw [gathered_of_broken hfailure] at h
          cases hread : stream.rows.foldlM
            (LabelledRow.readNext (statement.resultColumns?.getD [])) [] <;>
            rw [hread] at h <;> cases h
      | none =>
          rw [gathered_of_whole hfailure] at h
          exact LabelledRow.uniform_of_foldlM (fun r hr => absurd hr List.not_mem_nil) h

/-- Lookups in a row stay within its values, unless it is shorter than its labels: then the value of
a label may lie beyond them.  In a row of a query this takes a first row that is longer. -/
theorem LabelledRow.lookups_guarded (row : Row) (labels : List String)
    (columns : List ResultColumn) (db : Database σ) (statement : Statement) (w : World σ) :
    (∀ r, read row labels columns = .ok r →
      r.Guarded ∧ (labels.length ≤ row.size → ∀ label i n, r.lookup label ≠ .beyond i n)) ∧
    ∀ rows, (db.query statement w).1 = .ok rows → ∀ r ∈ rows,
      r.Guarded ∧ ∀ label i n, r.lookup label = .beyond i n →
        ∃ first, rows.head? = some first ∧ r.values.length ≤ i ∧ i < first.values.length := by
  constructor
  · intro r hread
    have hguarded := guarded_of_read hread
    refine ⟨hguarded, fun hlong label i n hbeyond => ?_⟩
    obtain ⟨hindex, houtside, -⟩ := (hguarded.beyond label i n).mp hbeyond
    obtain ⟨hsame, hsize, -⟩ := of_read hread
    have hinside := index_lt_labels hindex
    rw [hsame] at hinside
    omega
  · intro rows hqueried r hr
    obtain ⟨hguarded, first, hhead, hlabels, hwhole⟩ := Database.uniform_of_query hqueried r hr
    refine ⟨hguarded, fun label i n hbeyond => ⟨first, hhead, ?_⟩⟩
    obtain ⟨hindex, houtside, -⟩ := (hguarded.beyond label i n).mp hbeyond
    exact ⟨houtside, hwhole ▸ hlabels ▸ index_lt_labels hindex⟩

/-- Two fields in the first row, and one in the second. -/
def narrowing : World (ScriptedStore × List Exchange) :=
  { store := ({ queued := [⟨["a", "b"], [[seven, seven], [seven]]⟩] }, []) }

theorem LabelledRow.lookups_guarded_narrowing :
    (∃ r, read (.ofValues ["a"] [seven, seven]) ["a", "b"] [] = .ok r ∧
      r.Guarded ∧ ∀ label i n, r.lookup label ≠ .beyond i n) ∧
    ∃ rows, (scriptedDatabase.query (.select notes.select) narrowing).1 = .ok rows ∧
      ∀ r ∈ rows, r.Guarded := by
  obtain ⟨hofRead, hofQuery⟩ := LabelledRow.lookups_guarded (.ofValues ["a"] [seven, seven])
    ["a", "b"] [] scriptedDatabase (.select notes.select) narrowing
  refine ⟨⟨_, rfl, ?_⟩, _, rfl, ?_⟩
  · obtain ⟨hguarded, hwithin⟩ := hofRead _ rfl
    exact ⟨hguarded, hwithin (by decide)⟩
  · intro r hr
    exact (hofQuery _ rfl r hr).1

/-- The label that the second row has no value for is looked for all the same. -/
theorem LabelledRow.lookup_beyond_narrowing :
    ∃ first second,
      (scriptedDatabase.query (.select notes.select) narrowing).1 = .ok [first, second] ∧
        first.lookup "b" = .found seven ∧ second.lookup "b" = .beyond 1 1 :=
  ⟨_, _, rfl, rfl, rfl⟩

end TypedSql
