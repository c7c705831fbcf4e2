import TypedSql.Sqlite.Connection

namespace TypedSql.Sqlite

/-! The least engine that shows what connections do: it keeps one table `t` with a column `x`,
and understands inserting into it, counting its rows and giving parameters back. -/

structure Notebook where
  rows : List Storage := []
  saved : Option (List Storage) := none
  readsUncommitted : Bool := false

namespace Notebook

private def insertWords : List String := ["INSERT", "INTO", "t", "(x)", "VALUES", "(?)"]

private def countWords : List String := ["SELECT", "COUNT(*)", "FROM", "t"]

inductive Meaning where
  | insert (returnsKey : Bool)
  | count
  | echo (parameters : Nat)
deriving DecidableEq, Repr

private def words (sql : String) : List String :=
  let ends (c : Char) : Bool := c.isWhitespace || c == ';'
  let trimmed := (sql.toList.reverse.dropWhile ends).reverse
  ((trimmed.splitBy fun a b => a.isWhitespace == b.isWhitespace).filter fun w =>
    !w.any Char.isWhitespace).map String.ofList

def meaning? (sql : String) : Option Meaning :=
  let ws := words sql
  if ws = insertWords then some (.insert false)
  else if ws = insertWords ++ ["RETURNING", "rowid"] then some (.insert true)
  else if ws = countWords then some .count
  else
    match ws with
    | "SELECT" :: items =>
        let n := items.length
        if n ≠ 0 ∧ items = List.replicate (n - 1) "?," ++ ["?"] then some (.echo n) else none
    | _ => none

private def control : Control → Run Notebook Unit
  | .begin => modify fun s => { s with saved := some s.rows }
  | .commit => modify ({ · with saved := none })
  | .rollback => modify fun s => { s with rows := s.saved.getD s.rows, saved := none }
  | .setReadUncommitted on => modify ({ · with readsUncommitted := on })

private def whole (n : Nat) : Storage := .integer (.clamp .int64 n)

private def understood (sql : String) : Run Notebook Meaning :=
  match meaning? sql with
  | some m => return m
  | none => throw (.engine (.failure 1 ("syntax error in " ++ sql)))

private def execute (sql : String) (parameters : Nat → Storage) : Run Notebook Outcome := do
  let s ← get
  match ← understood sql with
  | .insert returnsKey =>
      set { s with rows := s.rows ++ [parameters 0] }
      return { labels := if returnsKey then ["rowid"] else []
               rows := if returnsKey then [[whole (s.rows.length + 1)]] else []
               changes := 1 }
  | .count => return { labels := ["COUNT(*)"], rows := [[whole s.rows.length]] }
  | .echo n =>
      return { labels := List.replicate n "?", rows := [(List.range n).map parameters] }

def engine : Engine Notebook where
  version := "3"
  inTransaction := fun s => s.saved.isSome
  readsUncommitted := Notebook.readsUncommitted
  control := control
  prepare := fun sql => do
    let _ ← understood sql
  execute := execute

/-- Only controls save rows and let go of them. -/
theorem prepare_snd (sql : String) (s : Notebook) : (engine.prepare sql s).2 = s := by
  simp only [engine, Run.bind_apply, understood]
  cases meaning? sql with
  | some m => rfl
  | none => rfl

theorem saved_execute (sql : String) (parameters : Nat → Storage) (s : Notebook) :
    (engine.execute sql parameters s).2.saved = s.saved := by
  simp only [engine, execute, Run.bind_apply, understood]
  cases meaning? sql with
  | none => rfl
  | some m =>
      cases m with
      | insert _ | count | echo _ => rfl

theorem readsUncommitted_execute (sql : String) (parameters : Nat → Storage) (s : Notebook) :
    (engine.execute sql parameters s).2.readsUncommitted = s.readsUncommitted := by
  simp only [engine, execute, Run.bind_apply, understood]
  cases meaning? sql with
  | none => rfl
  | some m =>
      cases m with
      | insert _ | count | echo _ => rfl

end Notebook

end TypedSql.Sqlite
