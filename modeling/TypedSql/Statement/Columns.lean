import TypedSql.Statement.Syntax

namespace TypedSql

mutual

def Expr.type? : Expr → Option WireType
  | .column c => some c.codec.type
  | .parameter p => some p.codec.type
  | .literal v => v.type?
  | .unary _ _ _ t => t
  | .binary _ _ _ t => t
  | .ternary _ _ _ _ _ t => t
  | .function _ _ _ t => t
  | .case _ _ _ t => t
  | .inList _ _ _ => some .boolean
  | .inQuery _ _ _ => some .boolean
  | .tuple es => Expr.typeOfOne? es
  | .select s => s.type?

def Expr.typeOfOne? : List Expr → Option WireType
  | [e] => e.type?
  | _ => none

def Select.type? : Select → Option WireType
  | ⟨items, _, _, _, _, _, _, _, _⟩ => SelectItem.firstType? items

def SelectItem.firstType? : List SelectItem → Option WireType
  | [] => none
  | ⟨e, _⟩ :: _ => e.type?

end

namespace Expr

/-- Leaves are written as one token or enclose themselves. -/
def isLeaf : Expr → Bool
  | .unary .. | .binary .. | .ternary .. | .inList .. | .inQuery .. => false
  | _ => true

def isNull : Expr → Bool
  | .literal v => v.isNull
  | .parameter p => p.value.isNull
  | _ => false

end Expr

def SelectItem.resultColumn (item : SelectItem) : ResultColumn where
  column :=
    match item.expression with
    | .column c => some c
    | _ => none
  label := item.label
  type := item.expression.type?

/-- A field of a derived source seen as a column of the alias; a field without a name has none. -/
def ResultColumn.underAlias? (table : TableRef) (r : ResultColumn) : Option ColumnRef :=
  match r.column, r.label with
  | some c, none => some (c.withTable table)
  | some c, some label => some { c.withTable table with name := label }
  | none, some label =>
      r.type.map fun type => { table := table, name := label, codec := ⟨type, .expression⟩ }
  | none, none => none

mutual

def Source.columns : Source → List ColumnRef
  | .table _ cs => cs
  | .join _ l r _ => l.columns ++ r.columns
  | .derived q aliasName =>
      q.resultColumns.filterMap
        (ResultColumn.underAlias? ((TableRef.mk aliasName none none).aliased aliasName))

def Select.resultColumns : Select → List ResultColumn
  | ⟨items, source, _, _, _, _, _, _, _⟩ =>
      if items.isEmpty then (Source.optionColumns source).map .ofColumn
      else items.map SelectItem.resultColumn

def Source.optionColumns : Option Source → List ColumnRef
  | none => []
  | some s => s.columns

def Query.resultColumns : Query → List ResultColumn
  | .select s => s.resultColumns
  | .union u => u.resultColumns

def Union.resultColumns : Union → List ResultColumn
  | ⟨left, _, _, _, _, _, _⟩ => left.resultColumns

end

def Statement.resultColumns? : Statement → Option (List ResultColumn)
  | .select s => some s.resultColumns
  | .union u => some u.resultColumns
  | _ => none

end TypedSql
