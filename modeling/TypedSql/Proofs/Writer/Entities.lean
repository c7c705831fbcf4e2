import Mathlib.Data.List.Forall2
import TypedSql.Proofs.Writer.Parameters
import TypedSql.Writer.Render

namespace TypedSql

/-! The text of statements about one row: a column or a condition is written with one placeholder,
and nothing in them can fail to have a form. -/

namespace Rendering

theorem ofPieces_append (a b : List Piece) : ofPieces a ++ ofPieces b = ofPieces (a ++ b) := by
  rw [append_of_none rfl]
  rfl

end Rendering

namespace Piece

def commaSeparated (parts : List (List Piece)) : List Piece :=
  List.intercalate [.symbol ", "] parts

def inParens (ps : List Piece) : List Piece :=
  .symbol "(" :: (ps ++ [.symbol ")"])

/-- Conditions that have to hold together, each in parentheses, from the left. -/
def conjunction : List (List Piece) → List Piece
  | [] => []
  | first :: rest =>
      rest.foldl (fun before ps =>
        inParens before ++ [.symbol " ", .word "and", .symbol " "] ++ inParens ps) first

theorem parameters_intercalate {separator : List Piece} (hplain : parameters separator = [])
    (parts : List (List Piece)) :
    parameters (List.intercalate separator parts) = parts.flatMap parameters := by
  induction parts with
  | nil => rfl
  | cons ps parts ih =>
      cases parts with
      | nil => simp
      | cons ps' parts =>
          rw [List.intercalate_cons_cons, parameters_append, parameters_append, hplain,
            List.append_nil, ih]
          rfl

@[simp] theorem parameters_inParens (ps : List Piece) :
    parameters (inParens ps) = parameters ps := by
  rw [inParens, parameters_cons, parameters_append]
  exact List.append_nil _

theorem parameters_conjunction (parts : List (List Piece)) :
    parameters (conjunction parts) = parts.flatMap parameters := by
  cases parts with
  | nil => rfl
  | cons first rest =>
      rw [conjunction, List.flatMap_cons]
      induction rest generalizing first with
      | nil => simp
      | cons ps rest ih =>
          have hboth : parameters (inParens first ++ [.symbol " ", .word "and", .symbol " "] ++
              inParens ps) = parameters first ++ parameters ps := by
            simp only [parameters_append, parameters_inParens]
            exact congrArg (· ++ _) (List.append_nil _)
          rw [List.foldl_cons, ih, hboth, List.flatMap_cons, List.append_assoc]

end Piece

/-- A column with the value that it is to have. -/
abbrev Cell := ColumnRef × Value

namespace Cell

def parameter (f : Cell) : Parameter := ⟨f.2, f.1.codec⟩

def assignment (f : Cell) : Assignment := ⟨f.1, .parameter f.parameter⟩

def condition (f : Cell) : Expr := (Expr.column f.1).eq (.parameter f.parameter)

def assignmentPieces (f : Cell) : List Piece :=
  [.name f.1.name, .symbol " = ", .placeholder f.parameter]

def conditionPieces (f : Cell) : List Piece :=
  [.name f.1.name, .symbol " ", .word "=", .symbol " ", .placeholder f.parameter]

end Cell

namespace Rendering

theorem separate_ofPieces {quote : String} {parts : List (List Piece)}
    (hvisible : ∀ ps ∈ parts, (ofPieces ps).isVisible quote) :
    separate quote (parts.map ofPieces) = ofPieces (Piece.commaSeparated parts) := by
  induction parts with
  | nil => rfl
  | cons ps parts ih =>
      obtain ⟨hhere, hlater⟩ := List.forall_mem_cons.mp hvisible
      cases parts with
      | nil => simp [separate, Piece.commaSeparated]
      | cons ps' parts =>
          have hrest := ih hlater
          simp only [List.map_cons] at hrest ⊢
          rw [separate, if_pos hhere, hrest, symbol, ofPieces_append, ofPieces_append]
          · simp [Piece.commaSeparated]
          · simp

end Rendering

variable {w : Writer} {s : Scope}

theorem Cell.render_condition (hplain : s.allowsQualifiedColumns = false) (f : Cell) :
    f.condition.render w s = .ofPieces f.conditionPieces := by
  have hcolumn : f.1.pieces s = [.name f.1.name] := by
    simp [ColumnRef.pieces, ColumnRef.qualifierPieces, hplain]
  simp only [condition, Expr.eq, Expr.compare, Expr.render, Operand.render, Operand.of,
    Expr.isLeaf, hcolumn]
  rfl

/-- A conjunction of conditions that are no leaves stands as it was put together. -/
theorem Expr.render_foldl_and {first : Expr} {rest : List Expr} {before : List Piece}
    {parts : List (List Piece)} (hcompound : ∀ e ∈ first :: rest, e.isLeaf = false)
    (hfirst : first.render w s = .ofPieces before)
    (hrest : List.Forall₂ (fun e ps => e.render w s = .ofPieces ps) rest parts) :
    (rest.foldl Expr.and first).render w s = .ofPieces (Piece.conjunction (before :: parts)) := by
  induction hrest generalizing first before with
  | nil => exact hfirst
  | @cons e ps rest parts he _ ih =>
      obtain ⟨hleafless, he', hlater⟩ := by
        simpa only [List.forall_mem_cons] using hcompound
      refine ih (List.forall_mem_cons.mpr ⟨rfl, hlater⟩) ?_
      simp only [Expr.and, Expr.compare, Expr.render, Operand.render, Operand.of, hleafless, he',
        hfirst, he]
      simp only [Bool.not_false, Rendering.enclose, if_true, Rendering.symbol,
        Rendering.ofPieces_append]
      simp [Piece.inParens, Operator.pieces]

/-- The condition that every one of the cells has its value. -/
def Cell.conjunction : List Cell → Option Expr
  | [] => none
  | f :: fs => some ((fs.map condition).foldl Expr.and f.condition)

theorem Cell.renderClause_conjunction (hplain : s.allowsQualifiedColumns = false)
    {cells : List Cell} (hpresent : cells ≠ []) :
    Expr.renderClause w s "where" (Cell.conjunction cells) =
      .ofPieces ([.symbol " ", .word "where", .symbol " "] ++
        Piece.conjunction (cells.map conditionPieces)) := by
  obtain ⟨f, fs, rfl⟩ := List.exists_cons_of_ne_nil hpresent
  have hrendered : ((fs.map condition).foldl Expr.and f.condition).render w s =
      .ofPieces (Piece.conjunction ((f :: fs).map conditionPieces)) := by
    refine Expr.render_foldl_and ?_ (render_condition hplain f) ?_
    · rw [← List.map_cons, List.forall_mem_map]
      exact fun _ _ => rfl
    · rw [List.forall₂_map_left_iff, List.forall₂_map_right_iff, List.forall₂_same]
      exact fun f _ => render_condition hplain f
  rw [conjunction, Expr.renderClause, hrendered, Rendering.clause, Rendering.symbol, Rendering.word,
    Rendering.ofPieces_append, Rendering.ofPieces_append, Rendering.ofPieces_append]
  rfl

def Update.ofCells (table : TableRef) (cells keys : List Cell) : Update :=
  ⟨table, cells.map Cell.assignment, Cell.conjunction keys⟩

def Delete.ofCells (table : TableRef) (keys : List Cell) : Delete :=
  ⟨table, Cell.conjunction keys⟩

def Insert.ofCells (table : TableRef) (cells : List Cell) : Insert :=
  ⟨table, cells.map Prod.fst, .rows [cells.map fun f => .parameter f.parameter]⟩

namespace Cell

def wherePieces (keys : List Cell) : List Piece :=
  [.symbol " ", .word "where", .symbol " "] ++ Piece.conjunction (keys.map conditionPieces)

def updatePieces (table : TableRef) (cells keys : List Cell) : List Piece :=
  [.word "update", .symbol " "] ++ table.pieces ⟨.update, false⟩ ++
    [.symbol " ", .word "set", .symbol " "] ++ Piece.commaSeparated (cells.map assignmentPieces) ++
    wherePieces keys

def deletePieces (table : TableRef) (keys : List Cell) : List Piece :=
  [.word "delete from", .symbol " "] ++ table.pieces ⟨.deleteFrom, false⟩ ++ wherePieces keys

def insertPieces (table : TableRef) (names : List Piece) (cells : List Cell) : List Piece :=
  [.word "insert into", .symbol " "] ++ table.pieces ⟨.insertInto, false⟩ ++ [.symbol " ("] ++
    names ++ [.symbol ") ", .word "values", .symbol " "] ++
    Piece.inParens (Piece.commaSeparated (cells.map fun f => [.placeholder f.parameter]))

end Cell

theorem Update.render_ofCells (w : Writer) (table : TableRef) (cells : List Cell)
    {keys : List Cell} (hpresent : keys ≠ []) :
    (Update.ofCells table cells keys).render w {} =
      .ofPieces (Cell.updatePieces table cells keys) := by
  have hassigned : (cells.map Cell.assignment).map (fun a =>
      Rendering.name a.column.name ++ .symbol " = " ++ a.value.render w ⟨.updateSet, false⟩) =
      (cells.map Cell.assignmentPieces).map .ofPieces := by
    simp [Cell.assignment, Cell.assignmentPieces, Rendering.name, Rendering.symbol, Expr.render,
      Rendering.ofPieces_append]
  have hvisible : ∀ ps ∈ cells.map Cell.assignmentPieces,
      (Rendering.ofPieces ps).isVisible w.config.quote :=
    List.forall_mem_map.mpr fun f _ => by
      simp [Cell.assignmentPieces, Rendering.isVisible, Rendering.ofPieces, Piece.isVisible]
  have hseparated := Rendering.separate_ofPieces hvisible
  have hfiltered := Cell.renderClause_conjunction (w := w) (s := ⟨.updateWhere, false⟩) rfl hpresent
  simp only [Update.render, Update.ofCells, Scope.enter, hassigned, hseparated, hfiltered]
  simp only [Rendering.clause, Rendering.word, Rendering.symbol, Rendering.ofPieces_append]
  simp only [Cell.updatePieces, Cell.wherePieces, List.append_assoc, List.cons_append,
    List.nil_append]

theorem Delete.render_ofCells (w : Writer) (table : TableRef) {keys : List Cell}
    (hpresent : keys ≠ []) :
    (Delete.ofCells table keys).render w {} = .ofPieces (Cell.deletePieces table keys) := by
  have hfiltered :=
    Cell.renderClause_conjunction (w := w) (s := ⟨.deleteFromWhere, false⟩) rfl hpresent
  simp only [Delete.render, Delete.ofCells, Scope.enter, hfiltered]
  simp only [Rendering.word, Rendering.symbol, Rendering.ofPieces_append]
  simp only [Cell.deletePieces, Cell.wherePieces, List.cons_append, List.nil_append]

theorem Cell.separate_parameters (w : Writer) (cells : List Cell) :
    Rendering.separate w.config.quote
        (Expr.renderAll w s (cells.map fun f => .parameter f.parameter)) =
      .ofPieces (Piece.commaSeparated (cells.map fun f => [.placeholder f.parameter])) := by
  have hrendered : Expr.renderAll w s (cells.map fun f => .parameter f.parameter) =
      (cells.map fun f => [Piece.placeholder f.parameter]).map .ofPieces := by
    induction cells with
    | nil => rfl
    | cons f cells ih =>
        simp only [List.map_cons, Expr.renderAll, ih]
        rfl
  rw [hrendered]
  exact Rendering.separate_ofPieces (List.forall_mem_map.mpr fun f _ => rfl)

/-- Names in a row.  A name that is printed as nothing has no comma behind it. -/
theorem Rendering.separate_names (quote : String) (names : List String) :
    ∃ ps, separate quote (names.map name) = ofPieces ps ∧ Piece.parameters ps = [] ∧
      (quote ≠ "" → ps = Piece.commaSeparated (names.map fun n => [.name n])) := by
  induction names with
  | nil => exact ⟨[], rfl, rfl, fun _ => rfl⟩
  | cons n names ih =>
      obtain ⟨ps, hseparated, hplain, hshown⟩ := ih
      cases names with
      | nil => exact ⟨[.name n], rfl, rfl, fun _ => rfl⟩
      | cons n' names =>
          simp only [List.map_cons] at hseparated ⊢
          rw [separate, hseparated]
          · cases hvisible : (name n).isVisible quote with
            | true =>
                refine ⟨[.name n] ++ ([.symbol ", "] ++ ps), ?_, hplain, fun h => ?_⟩
                · simp only [if_true, name, symbol, ofPieces_append]
                · rw [hshown h]
                  simp [Piece.commaSeparated]
            | false =>
                refine ⟨[.name n] ++ ps, ?_, hplain, fun h => ?_⟩
                · simp only [Bool.false_eq_true, if_false, name, empty_append, ofPieces_append]
                · have hquoted : (name n).isVisible quote := by
                    simp [isVisible, name, ofPieces, Piece.isVisible, h]
                  rw [hvisible] at hquoted
                  cases hquoted
          · exact List.cons_ne_nil _ _

theorem Insert.render_ofCells (w : Writer) (table : TableRef) (cells : List Cell) :
    ∃ names, (Insert.ofCells table cells).render w {} =
        .ofPieces (Cell.insertPieces table names cells) ∧
      Piece.parameters names = [] ∧
      (w.config.quote ≠ "" →
        names = Piece.commaSeparated (cells.map fun f => [.name f.1.name])) := by
  obtain ⟨names, hseparated, hplain, hshown⟩ :=
    Rendering.separate_names w.config.quote (cells.map fun f => f.1.name)
  refine ⟨names, ?_, hplain, fun h => (hshown h).trans (by rw [List.map_map]; rfl)⟩
  have hlisted : (cells.map Prod.fst).map (fun c => Rendering.name c.name) =
      (cells.map fun f => f.1.name).map Rendering.name := by
    simp
  have hsingle (r : Rendering) : Rendering.separate w.config.quote [r] = r := rfl
  simp only [Insert.render, Insert.ofCells, Scope.enter, hlisted, hseparated, List.map_cons,
    List.map_nil, hsingle, Cell.separate_parameters, Rendering.enclose, if_true]
  simp only [Rendering.word, Rendering.symbol, Rendering.ofPieces_append]
  simp [Cell.insertPieces, Piece.inParens]

namespace Cell

section

variable {f : Cell → List Piece}
  (heach : ∀ cell, Piece.parameters (f cell) = [cell.parameter]) (cells : List Cell)

include heach

theorem flatMap_parameters : (cells.map f).flatMap Piece.parameters = cells.map parameter := by
  rw [List.flatMap_map, List.map_eq_flatMap]
  simp only [heach]

theorem parameters_commaSeparated :
    Piece.parameters (Piece.commaSeparated (cells.map f)) = cells.map parameter := by
  rw [Piece.commaSeparated, Piece.parameters_intercalate rfl, flatMap_parameters heach]

end

theorem parameters_wherePieces (keys : List Cell) :
    Piece.parameters (wherePieces keys) = keys.map parameter := by
  rw [wherePieces, Piece.parameters_append, Piece.parameters_conjunction,
    flatMap_parameters fun _ => rfl]
  rfl

end Cell

namespace Writer

variable (w : Writer) (table : TableRef) (cells : List Cell)

theorem compile_updateOfCells {keys : List Cell} (hpresent : keys ≠ []) :
    w.compile (.update (.ofCells table cells keys)) =
      .ok ⟨String.ofList (w.print 0 (Cell.updatePieces table cells keys)),
        (cells ++ keys).map Cell.parameter⟩ := by
  have hrendered : (Statement.update (.ofCells table cells keys)).render w {} = _ :=
    Update.render_ofCells w table cells hpresent
  have hplain : Piece.parameters (table.pieces ⟨.update, false⟩) = [] := table.carries_pieces _ rfl
  have hcarried : Piece.parameters (Cell.updatePieces table cells keys) =
      (cells ++ keys).map Cell.parameter := by
    simp only [Cell.updatePieces, Piece.parameters_append, hplain,
      Cell.parameters_commaSeparated (f := Cell.assignmentPieces) fun _ => rfl,
      Cell.parameters_wherePieces, List.map_append]
    rfl
  rw [compile_of_pieces hrendered, hcarried]

theorem compile_deleteOfCells {keys : List Cell} (hpresent : keys ≠ []) :
    w.compile (.delete (.ofCells table keys)) =
      .ok ⟨String.ofList (w.print 0 (Cell.deletePieces table keys)),
        keys.map Cell.parameter⟩ := by
  have hrendered : (Statement.delete (.ofCells table keys)).render w {} = _ :=
    Delete.render_ofCells w table hpresent
  have hplain : Piece.parameters (table.pieces ⟨.deleteFrom, false⟩) = [] :=
    table.carries_pieces _ rfl
  have hcarried : Piece.parameters (Cell.deletePieces table keys) = keys.map Cell.parameter := by
    simp only [Cell.deletePieces, Piece.parameters_append, hplain, Cell.parameters_wherePieces]
    rfl
  rw [compile_of_pieces hrendered, hcarried]

theorem compile_insertOfCells :
    ∃ c, w.compile (.insert (.ofCells table cells)) = .ok c ∧
      c.parameters = cells.map Cell.parameter ∧
      (w.config.quote ≠ "" → c.sql = String.ofList (w.print 0 (Cell.insertPieces table
        (Piece.commaSeparated (cells.map fun f => [.name f.1.name])) cells))) := by
  obtain ⟨names, hrendered, hunfilled, hshown⟩ := Insert.render_ofCells w table cells
  have hplain : Piece.parameters (table.pieces ⟨.insertInto, false⟩) = [] :=
    table.carries_pieces _ rfl
  refine ⟨_, compile_of_pieces hrendered, ?_, fun h => by rw [hshown h]⟩
  simp only [Cell.insertPieces, Piece.parameters_append, hplain, hunfilled,
    Piece.parameters_inParens,
    Cell.parameters_commaSeparated (f := fun f => [.placeholder f.parameter]) fun _ => rfl]
  rfl

end Writer

end TypedSql
