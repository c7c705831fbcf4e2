import TypedSql.Database.Settings
import TypedSql.Session.Manager

namespace TypedSql

/-! Databases: settings with a driver, and a manager of the transactions that their statements run
in. -/

structure Database (σ : Type) where
  settings : DatabaseSettings
  driver : Driver σ
  manager : Manager σ

namespace Database

open Session

variable {σ α : Type}

def withSettings (db : Database σ) (settings : DatabaseSettings) : Database σ :=
  { db with settings }

def accept {β : Type} (accepted : Except ConfigurationFault β) : Session σ β := do
  match accepted with
  | .ok b => return b
  | .error fault =>
      let e : Error := .failure (.configuration fault)
      log .error .codec e.message
      throw e

def withCodecs (db : Database σ) (ids : List CodecId) : Session σ DatabaseSettings :=
  accept (db.settings.withCodecs ids)

def withTable {E : Type} (db : Database σ) (t : Table E) : Session σ DatabaseSettings :=
  db.withCodecs (t.columns.map ColumnRef.codec)

def readMetadata (d : Driver σ) : Session σ StoreMetadata := do
  let connection ← call d .connect
  let outcome ← (call d (.metadata connection)).attempt
  reporting .warn .database "Could not close the metadata connection" (call d (.close connection))
  conclude outcome

def detect (registry : DialectRegistry) (m : StoreMetadata) : Session σ Dialect := do
  match registry.detect m with
  | .error fault => throw (.usage fault)
  | .ok dialect =>
      if dialect = .generic then log .debug .dialect (DialectRegistry.fallbackMessage m)
      return dialect

/-- Makes a database.  With a provider, someone else owns the transactions, and connections come
from there. -/
def build (o : DatabaseOptions) (d : Driver σ) (provider : Option (Driver σ)) :
    Session σ (Database σ) := do
  if o.fallbackLogger then modify fun w => { w with logging := w.logging.ensure.2 }
  let metadata ← readMetadata (provider.getD d)
  let dialect ←
    match o.dialect with
    | some dialect => pure dialect
    | none => detect o.registry metadata
  let config := o.config metadata
  let codecs ← accept (CodecRegistry.registerAll ⟨d.wireTypes, []⟩ o.codecs)
  let manager ←
    match provider with
    | some provider => pure (Manager.external provider)
    | none => do
        let w ← get
        set { w with managers := w.managers + 1 }
        pure (Manager.threaded w.managers d o.isolation)
  log .debug .database
    (s!"Database on {metadata.product} {metadata.version} through {d.name}, " ++
      s!"{dialect.name} dialect")
  return { settings := { metadata, codecs, dialect, config, writer := .of dialect config,
                         failureMap := o.failureMap }
           driver := d
           manager }

def useTransaction (db : Database σ) (body : Transaction → Session σ α) : Session σ α :=
  db.manager.useTransaction none (fun _ => true) body

def useTransactionWith (db : Database σ) (isolation : Option Isolation)
    (rollsBack : Error → Bool) (body : Transaction → Session σ α) : Session σ α :=
  db.manager.useTransaction isolation rollsBack body

def useConnection (db : Database σ) (f : Nat → Session σ α) : Session σ α :=
  db.manager.useConnection f

def compile (db : Database σ) (statement : Statement) : Session σ CompiledSql :=
  conclude (db.settings.compile statement)

end Database

end TypedSql
