import TypedSql.Database.Entity
import TypedSql.Proofs.Session.Scope

namespace TypedSql

/-! What a database offers to a program.  Its operations are put together from uses of connections,
so every kind of code that has those has the operations. -/

namespace Call

def isStatement : Call → Bool
  | prepare _ | bind _ _ | executeUpdate _ | executeQuery _ => true
  | _ => false

theorem isUse_of_isStatement {c : Call} {connection : Nat} (h : c.isStatement)
    (hc : c.connection? = some connection) : c.isUse connection := by
  cases c with
  | prepare _ | bind _ _ | executeUpdate _ | executeQuery _ => simpa [isUse] using hc
  | _ => cases h

end Call

/-- A kind of code that may do what a database does on the connections of a manager, with a list of
the connections that the code has at hand. -/
structure Manager.Hosts {σ : Type} (m : Manager σ)
    (P : (α : Type) → List Nat → Session σ α → Prop) : Prop where
  pure {α : Type} {held : List Nat} (a : α) : P α held (pure a)
  throw {α : Type} {held : List Nat} (e : Error) : P α held (throw e)
  bind {α β : Type} {held : List Nat} {x : Session σ α} {f : α → Session σ β} :
    P α held x → (∀ a, x.Gives a → P β held (f a)) → P β held (x >>= f)
  attempt {α : Type} {held : List Nat} {x : Session σ α} :
    P α held x → P (Except Error α) held x.attempt
  report {held : List Nat} (f : Logging → Logging) :
    P PUnit held (modify fun w => { w with logging := f w.logging })
  call {held : List Nat} {connection : Nat} (c : Call) :
    connection ∈ held → c.connection? = some connection → c.isStatement →
      P c.Answer held (Session.call m.driver c)
  useConnection {α : Type} {held : List Nat} {f : Nat → Session σ α} :
    (∀ connection, P α (connection :: held) (f connection)) → P α held (m.useConnection f)
  mono {α : Type} {held held' : List Nat} {x : Session σ α} :
    P α held x → held ⊆ held' → P α held' x

variable {σ α β : Type}

namespace Manager.Hosts

open Database

variable {P : (α : Type) → List Nat → Session σ α → Prop} {held : List Nat}

section

variable {m : Manager σ} (h : m.Hosts P)
include h

theorem log (level : LogLevel) (source : LogSource) (message : String) :
    P Unit held (Session.log level source message) :=
  h.report (·.add ⟨level, source, message⟩)

theorem conclude (outcome : Except Error α) : P α held (Session.conclude outcome) := by
  cases outcome with
  | ok a => exact h.pure a
  | error e => exact h.throw e

theorem forM {f : α → Session σ PUnit} (hf : ∀ a, P PUnit held (f a)) (as : List α) :
    P PUnit held (as.forM f) := by
  induction as with
  | nil => exact h.pure _
  | cons a as ih => exact h.bind (hf a) fun _ _ => ih

theorem foldlM {f : β → α → Session σ β} (hf : ∀ b a, P β held (f b a)) (b : β) (as : List α) :
    P β held (as.foldlM f b) := by
  induction as generalizing b with
  | nil => exact h.pure b
  | cons a as ih =>
      rw [List.foldlM_cons]
      exact h.bind (hf b a) fun b' _ => ih b'

theorem logStatement (c : CompiledSql) : P Unit held (logStatement c) :=
  h.bind (h.log _ _ _) fun _ _ => h.forM (fun _ => h.log _ _ _) _

end

variable {db : Database σ} (h : db.manager.Hosts P)
include h

theorem compile (statement : Statement) : P CompiledSql held (db.compile statement) :=
  h.conclude _

theorem mappingFailure (sql : String) {x : Session σ α} (hx : P α held x) :
    P α held (db.mappingFailure sql x) := by
  refine h.bind (h.attempt hx) fun outcome _ => ?_
  cases outcome with
  | ok a => exact h.pure a
  | error e => exact h.throw _

omit h in
theorem prepare_gives {connection : Nat} {c : CompiledSql} {generatedKeys : Bool} {p : Prepared}
    (h : (db.prepare connection c generatedKeys).Gives p) : p.connection = connection := by
  obtain ⟨_, -, h⟩ := h.of_bind
  rw [← h.of_pure]

section

variable {connection : Nat} (hheld : connection ∈ held)
include hheld

theorem prepare (c : CompiledSql) (generatedKeys : Bool) :
    P Prepared held (db.prepare connection c generatedKeys) := by
  refine h.bind (h.mappingFailure _ ?_) fun _ _ => h.pure _
  exact h.call (.prepare ⟨connection, c.sql, generatedKeys⟩) hheld rfl rfl

theorem execute {p : Prepared} (hp : p.connection = connection) (c : CompiledSql)
    {execute : Call} (hexecute : execute.connection? = some connection)
    (hisStatement : execute.isStatement) :
    P execute.Answer held (db.mappingFailure c.sql do
      db.sendBindings p c
      Session.call db.manager.driver execute) := by
  refine h.mappingFailure _ (h.bind (h.forM (fun b => ?_) _) fun _ _ => ?_)
  · exact h.call (.bind p b) hheld (congrArg some hp) rfl
  · exact h.call execute hheld hexecute hisStatement

end

theorem update (c : CompiledSql) (generatedKeys : Bool) :
    P RowsAffected held (db.update c generatedKeys) := by
  refine h.bind (h.logStatement c) fun _ _ => h.bind (h.useConnection fun connection => ?_)
    fun _ _ => h.bind (h.log _ _ _) fun _ _ => h.pure _
  have hheld : connection ∈ connection :: held := List.mem_cons_self
  refine h.bind (h.prepare hheld c generatedKeys) fun p hp => ?_
  have hexecute : (Call.executeUpdate p).connection? = some connection :=
    congrArg some (prepare_gives hp)
  exact h.execute hheld (prepare_gives hp) c hexecute rfl

theorem executeUpdate (statement : Statement) :
    P RowsAffected held (db.executeUpdate statement) :=
  h.bind (h.compile statement) fun c _ => h.update c false

/-- The rows are read while the connection is at hand. -/
theorem foldRows_reading (statement : Statement) (init : β) {f : β → Row → Session σ β}
    (hf : ∀ connection b row, P β (connection :: held) (f b row)) :
    P β held (db.foldRows statement init f) := by
  refine h.bind (h.compile statement) fun c _ => h.bind (h.logStatement c) fun _ _ =>
    h.bind (h.useConnection fun connection => ?_) fun _ _ =>
      h.bind (h.log _ _ _) fun _ _ => h.pure _
  have hheld : connection ∈ connection :: held := List.mem_cons_self
  refine h.bind (h.prepare hheld c false) fun p hp => ?_
  have hexecute : (Call.executeQuery p).connection? = some connection :=
    congrArg some (prepare_gives hp)
  refine h.bind (h.execute hheld (prepare_gives hp) c hexecute rfl) fun stream _ => ?_
  refine h.bind (h.foldlM (hf connection) init _) fun _ _ => ?_
  cases stream.failure with
  | some e => exact h.throw _
  | none => exact h.pure _

theorem foldRows (statement : Statement) (init : β) {f : β → Row → Session σ β}
    (hf : ∀ b row, P β held (f b row)) : P β held (db.foldRows statement init f) :=
  h.foldRows_reading statement init fun connection b row =>
    h.mono (hf b row) (List.subset_cons_self connection held)

theorem queryWith_reading (statement : Statement) {f : Row → Session σ Unit}
    (hf : ∀ connection row, P Unit (connection :: held) (f row)) :
    P Nat held (db.queryWith statement f) :=
  h.foldRows_reading statement 0 fun connection _ row =>
    h.bind (hf connection row) fun _ _ => h.pure _

theorem queryWith (statement : Statement) {f : Row → Session σ Unit}
    (hf : ∀ row, P Unit held (f row)) : P Nat held (db.queryWith statement f) :=
  h.queryWith_reading statement fun connection row =>
    h.mono (hf row) (List.subset_cons_self connection held)

theorem query (statement : Statement) : P (List LabelledRow) held (db.query statement) :=
  h.foldRows statement [] fun _ _ => h.bind (h.conclude _) fun _ _ => h.pure _

section

variable {E : Type} (table : Table E)

theorem queryAs (initial : E) (select : Select) :
    P (List E) held (db.queryAs table initial select) :=
  h.foldRows _ [] fun _ _ => h.bind (h.conclude _) fun _ _ => h.pure _

theorem insertEntity (e : E) : P (E × RowsAffected) held (db.insertEntity table e) := by
  refine h.bind (h.conclude _) fun insert _ => h.bind (h.compile _) fun c _ =>
    h.bind (h.update c _) fun result _ => ?_
  split
  · exact h.bind (h.conclude _) fun _ _ => h.pure _
  · exact h.pure _

theorem insertAll (total : RowsAffected) (entities : List E) :
    P (Inserted E) held (db.insertAll table total entities) := by
  induction entities generalizing total with
  | nil => exact h.pure _
  | cons e es ih =>
      refine h.bind (h.attempt (h.insertEntity table e)) fun outcome _ => ?_
      cases outcome with
      | error err =>
          simp only
          split
          · exact h.throw err
          · exact h.pure _
      | ok inserted => exact h.bind (ih _) fun _ _ => h.pure _

theorem insertEntities (entities : List E) :
    P (Inserted E) held (db.insertEntities table entities) :=
  h.insertAll table {} entities

theorem updateEntity (e : E) : P RowsAffected held (db.updateEntity table e) :=
  h.bind (h.conclude _) fun _ _ => h.executeUpdate _

theorem deleteEntity (e : E) : P RowsAffected held (db.deleteEntity table e) :=
  h.bind (h.conclude _) fun _ _ => h.executeUpdate _

end

end Manager.Hosts

variable {m : Manager σ} {t : Transaction} {held : List Nat}

namespace InScope

theorem mono {held' : List Nat} {x : Session σ α} (h : InScope m t held x)
    (hsubset : held ⊆ held') : InScope m t held' x := by
  induction h generalizing held' with
  | pure a => exact .pure a
  | throw e => exact .throw e
  | bind hfirst hrest ihFirst ihRest =>
      exact .bind (ihFirst hsubset) fun a ha => ihRest a ha hsubset
  | attempt hinner ih => exact .attempt (ih hsubset)
  | look f => exact .look f
  | report f => exact .report f
  | call c hisHeld hisUse => exact .call c (hsubset hisHeld) hisUse
  | useConnection hinner ih =>
      exact .useConnection fun connection =>
        ih connection (List.cons_subset_cons connection hsubset)
  | withConnection hinner ih =>
      exact .withConnection fun connection =>
        ih connection (List.cons_subset_cons connection hsubset)
  | useTransaction isolation rollsBack hinner ih =>
      exact .useTransaction isolation rollsBack (ih hsubset)

/-- Every operation of a database stays inside the scope. -/
theorem hosts : m.Hosts fun _ held x => InScope m t held x where
  pure := .pure
  throw := .throw
  bind := .bind
  attempt := .attempt
  report := .report
  call c hisHeld hc hisStatement := .call c hisHeld (Call.isUse_of_isStatement hisStatement hc)
  useConnection := .useConnection
  mono := mono

end InScope

namespace Database

variable {db : Database σ}

/-- So does every inner scope whose body does. -/
theorem useTransaction_inScope {body : Transaction → Session σ α}
    (h : InScope db.manager t held (body t)) :
    InScope db.manager t held (db.useTransaction body) :=
  .useTransaction none _ h

theorem executeUpdate_inScope (statement : Statement) :
    InScope db.manager t held (db.executeUpdate statement) :=
  InScope.hosts.executeUpdate statement

end Database

end TypedSql
