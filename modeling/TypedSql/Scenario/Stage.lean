import TypedSql.Database.Entity
import TypedSql.Scenario.Step

namespace TypedSql.Scenario

/-- What came of a step, with what has happened since the step that was recorded before it. -/
structure Entry where
  path : String
  result : Except Error Data
  events : List StoreEvent
  logs : List LogRecord
  external : Option (List StoreEvent)

structure Stage where
  own : ScriptedStore := {}
  external : Option ScriptedStore := none
  databases : List (String × DatabaseSettings) := []
  transactions : List (String × Transaction) := []
  seen : List Data := []
  entries : List Entry := []

namespace Stage

def store (s : Stage) : Side → ScriptedStore
  | .own => s.own
  | .external => s.external.getD {}

def withStore (s : Stage) (side : Side) (f : ScriptedStore → ScriptedStore) : Stage :=
  match side with
  | .own => { s with own := f s.own }
  | .external => { s with external := s.external.map f }

def driver (side : Side) (wireTypes : List WireType) : Driver Stage :=
  (ScriptedStore.driver wireTypes).within (·.store side) fun store s =>
    s.withStore side fun _ => store

end Stage

open Session

def look {α : Type} (f : Stage → α) : Session Stage α := return f (← get).store

def arrange (f : Stage → Stage) : Session Stage Unit :=
  modify fun w => { w with store := f w.store }

/-- Records what came of a step.  Reports that are kept go along; those for the console stay. -/
def record (path : String) (result : Except Error Data) : Session Stage Unit :=
  modify fun w =>
    let s := w.store
    let kept := w.logging.sink = some .collecting
    let entry : Entry :=
      { path, result, events := s.own.events, logs := if kept then w.logging.records else []
        external := s.external.map ScriptedStore.events }
    { w with
      store :=
        { s with
          own := { s.own with events := [] }
          external := s.external.map fun e => { e with events := [] }
          entries := s.entries ++ [entry] }
      logging := if kept then { w.logging with records := [] } else w.logging }

end TypedSql.Scenario
