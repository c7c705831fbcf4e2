import TypedSql.Proofs.Database.Mapping
import TypedSql.Proofs.Writer.Hurdles

namespace TypedSql

/-! Failures on their way up.  A failure gets its statement from the operation that has met it, and
no other operation that it passes through adds one of its own. -/

open Session

variable {σ α β E : Type}

namespace Error

/-- An error that holds no statement. -/
def IsPlain (e : Error) : Prop :=
  e.driverDepth = 0

/-- An error that holds one statement at most. -/
def IsShallow (e : Error) : Prop :=
  e.driverDepth ≤ 1

/-- An error that tells no more of the cause than one that is known. -/
inductive Retells (known : Error → Prop) : Error → Prop
  | same {e : Error} (h : known e) : Retells known e
  | told {message : String} {e : Error} (h : Retells known e) : Retells known (.context message e)

theorem Retells.isShallow {known : Error → Prop} {e : Error} (h : e.Retells known)
    (hshallow : ∀ e, known e → e.IsShallow) : e.IsShallow := by
  induction h with
  | same h => exact hshallow _ h
  | told _ ih => exact ih

theorem IsPlain.isShallow {e : Error} (h : e.IsPlain) : e.IsShallow := by
  rw [IsShallow, h]
  exact Nat.zero_le 1

end Error

theorem Raw.isPlain_of_scan {total : Nat} {quote : Option Char} {parameters : List Parameter}
    {cs : List Char} {e : Error} (h : (scan total quote parameters cs).failure = some e) :
    e.IsPlain := by
  fun_induction scan total quote parameters cs with
  | case1 => cases h
  | case2 =>
      cases h
      rfl
  | case3 parameters c cs here quote ih => exact ih (by rwa [Rendering.append_of_none rfl] at h)
  | case4 parameters c cs here hopens ih => exact ih (by rwa [Rendering.append_of_none rfl] at h)
  | case5 =>
      cases h
      rfl
  | case6 cs p parameters hopens ih =>
      exact ih (by rwa [Rendering.append_of_none rfl] at h)
  | case7 parameters c cs here hopens hplaceholder ih =>
      exact ih (by rwa [Rendering.append_of_none rfl] at h)

theorem Hurdle.isPlain_of_failure? {d : Dialect} {hurdle : Hurdle} {e : Error}
    (h : hurdle.failure? d = some e) : e.IsPlain := by
  unfold failure? at h
  split at h
  · split at h
    · cases h
      rfl
    · cases h
  · split at h
    · cases h
      rfl
    · cases h
  · split at h
    · cases h
    · cases h
      rfl

theorem Statement.isPlain_of_compile {w : Writer} {s : Statement} {e : Error}
    (h : w.compile s = .error e) : e.IsPlain := by
  cases hraw : s.isRaw with
  | false =>
      obtain ⟨_, hurdle, _, -, -, hfailed⟩ := ((s.refused_iff_hurdle hraw w).1 e).mp h
      exact Hurdle.isPlain_of_failure? hfailed
  | true =>
      cases s with
      | raw r => exact Raw.isPlain_of_scan (Writer.failure_of_compile h)
      | _ => cases hraw

section

variable {e : Error}

theorem isPlain_of_bind {x : Except Error α} {f : α → Except Error β}
    (hx : ∀ e, x = .error e → e.IsPlain) (hf : ∀ a e, f a = .error e → e.IsPlain)
    (h : (x >>= f) = .error e) : e.IsPlain := by
  cases x with
  | error e' =>
      cases h
      exact hx e rfl
  | ok a => exact hf a e h

theorem isPlain_of_mapError {ε : Type} {x : Except ε α} {g : ε → Error}
    (hg : ∀ fault, (g fault).IsPlain) (h : x.mapError g = .error e) : e.IsPlain := by
  cases x with
  | error fault =>
      cases h
      exact hg fault
  | ok a => cases h

end

namespace Table

variable {t : Table E} {entity : E} {e : Error}

theorem isPlain_of_insertOf (h : (t.insertOf entity).mapError Error.construction = .error e) :
    e.IsPlain :=
  isPlain_of_mapError (g := Error.construction) (fun _ => rfl) h

theorem isPlain_of_keyFilter (e : Error)
    (h : (t.keyFilter entity).mapError Error.usage = .error e) : e.IsPlain :=
  isPlain_of_mapError (g := Error.usage) (fun _ => rfl) h

theorem isPlain_of_updateOf (h : t.updateOf entity = .error e) : e.IsPlain := by
  refine isPlain_of_bind isPlain_of_keyFilter (fun _ _ h => ?_) h
  have hconstruction {ε : Type} {x : Except ConstructionFault ε} (e : Error)
      (h : x.mapError Error.construction = .error e) : e.IsPlain :=
    isPlain_of_mapError (g := Error.construction) (fun _ => rfl) h
  refine isPlain_of_bind hconstruction (fun _ _ h => ?_) h
  refine isPlain_of_bind hconstruction (fun _ _ h => ?_) h
  cases h

theorem isPlain_of_deleteOf (h : t.deleteOf entity = .error e) : e.IsPlain := by
  refine isPlain_of_bind isPlain_of_keyFilter (fun _ _ h => ?_) h
  cases h

end Table

/-- A database that puts nothing in the place of failures, with a driver that has no statements in
its own. -/
structure Database.IsPlain (db : Database σ) : Prop where
  unmapped : db.settings.failureMap = none
  reports : db.manager.driver.Reports Error.IsPlain

/-- Code that has no statements in the failures that it makes up itself.  What it learns from its
own operations it may pass on. -/
inductive Forwards : (Error → Prop) → {α : Type} → Session σ α → Prop
  | own {α : Type} {known : Error → Prop} {x : Session σ α} (h : FailsWith Error.IsPlain x) :
      Forwards known x
  | forward {α : Type} {known : Error → Prop} {e : Error} (h : e.Retells known) :
      Forwards known (throw e : Session σ α)
  | bind {α β : Type} {known : Error → Prop} {x : Session σ α} {f : α → Session σ β}
      (hfirst : Forwards known x) (hrest : ∀ a, x.Gives a → Forwards known (f a)) :
      Forwards known (x >>= f)
  /-- A handler knows the failure that it handles. -/
  | handle {α β : Type} {known : Error → Prop} {x : Session σ α}
      {f : Except Error α → Session σ β} (hinner : Forwards known x)
      (hsucceeded : ∀ a, Forwards known (f (.ok a)))
      (hfailed : ∀ e, Forwards (fun e' => known e' ∨ e' = e) (f (.error e))) :
      Forwards known (x.attempt >>= f)
  | update {known : Error → Prop} {db : Database σ} (hdb : db.IsPlain) (c : CompiledSql)
      (generatedKeys : Bool) : Forwards known (db.update c generatedKeys)
  | foldRows {β : Type} {known : Error → Prop} {db : Database σ} (hdb : db.IsPlain)
      (statement : Statement) (init : β) {f : β → Row → Session σ β}
      (hinner : ∀ b row, row.FailsWith Error.IsPlain → Forwards known (f b row)) :
      Forwards known (db.foldRows statement init f)
  | useConnection {α : Type} {known : Error → Prop} {m : Manager σ}
      (hm : m.driver.FailsWith Error.IsPlain) {f : Nat → Session σ α}
      (hinner : ∀ n, Forwards known (f n)) : Forwards known (m.useConnection f)
  | withConnection {α : Type} {known : Error → Prop} {d : Driver σ}
      (hd : d.FailsWith Error.IsPlain) (t : Transaction) {f : Nat → Session σ α}
      (hinner : ∀ n, Forwards known (f n)) : Forwards known (t.withConnection d f)
  | useTransaction {α : Type} {known : Error → Prop} {m : Manager σ}
      (hm : m.driver.FailsWith Error.IsPlain) (isolation : Option Isolation)
      (rollsBack : Error → Bool) {body : Transaction → Session σ α}
      (hinner : ∀ t, Forwards known (body t)) :
      Forwards known (m.useTransaction isolation rollsBack body)

namespace Database

variable {db : Database σ} (hdb : db.IsPlain)
include hdb

theorem IsPlain.isShallow_mapFailure (sql : String) {e : Error} (h : e.IsPlain) :
    (db.settings.mapFailure sql e).IsShallow := by
  rw [DatabaseSettings.mapFailure, hdb.unmapped]
  split
  · exact h.isShallow
  · exact Nat.succ_le_succ (Nat.le_of_eq h)

theorem IsPlain.shallow_update (c : CompiledSql) (generatedKeys : Bool) :
    FailsWith Error.IsShallow (db.update c generatedKeys) :=
  failsWith_update hdb.reports (fun sql _ => hdb.isShallow_mapFailure sql)
    (fun _ h => h.isShallow) (Nat.zero_le 1) c generatedKeys

theorem IsPlain.shallow_foldRows (statement : Statement) (init : β)
    {f : β → Row → Session σ β}
    (hf : ∀ b row, row.FailsWith Error.IsPlain → FailsWith Error.IsShallow (f b row)) :
    FailsWith Error.IsShallow (db.foldRows statement init f) :=
  failsWith_foldRows hdb.reports (fun sql _ => hdb.isShallow_mapFailure sql)
    (fun _ h => h.isShallow) (Nat.zero_le 1)
    (fun _ hrefused => (Statement.isPlain_of_compile hrefused).isShallow) init hf

end Database

namespace Forwards

variable {known : Error → Prop}

theorem compile (db : Database σ) (statement : Statement) :
    Forwards known (db.compile statement) :=
  .own (failsWith_conclude fun _ => Statement.isPlain_of_compile)

section

variable {db : Database σ} (hdb : db.IsPlain)
include hdb

theorem executeUpdate (statement : Statement) : Forwards known (db.executeUpdate statement) :=
  .bind (compile db statement) fun c _ => .update hdb c false

theorem queryWith (statement : Statement) {f : Row → Session σ Unit}
    (hinner : ∀ row, row.FailsWith Error.IsPlain → Forwards known (f row)) :
    Forwards known (db.queryWith statement f) :=
  .foldRows hdb statement 0 fun _ row hrow =>
    .bind (hinner row hrow) fun _ _ => .own (failsWith_pure _)

theorem query (statement : Statement) : Forwards known (db.query statement) := by
  rw [Database.query_eq]
  exact .foldRows hdb statement [] fun rows row hrow =>
    .own (failsWith_conclude fun _ => hrow.readNext _ rows)

theorem queryAs {t : Table E} (ht : t.FailsWith Error.IsPlain) (initial : E) (select : Select) :
    Forwards known (db.queryAs t initial select) := by
  rw [Database.queryAs_eq]
  exact .foldRows hdb _ [] fun entities row hrow =>
    .own (failsWith_conclude fun _ => ht.decodeNext hrow initial _ entities)

theorem updateEntity (t : Table E) (entity : E) : Forwards known (db.updateEntity t entity) :=
  .bind (.own (failsWith_conclude fun _ => Table.isPlain_of_updateOf)) fun _ _ =>
    executeUpdate hdb _

theorem deleteEntity (t : Table E) (entity : E) : Forwards known (db.deleteEntity t entity) :=
  .bind (.own (failsWith_conclude fun _ => Table.isPlain_of_deleteOf)) fun _ _ =>
    executeUpdate hdb _

theorem insertEntity {t : Table E} (ht : t.FailsWith Error.IsPlain) (entity : E) :
    Forwards known (db.insertEntity t entity) := by
  refine .bind (.own (failsWith_conclude fun _ => Table.isPlain_of_insertOf)) fun insert _ =>
    .bind (compile db _) fun c _ => .bind (.update hdb c _) fun result _ => ?_
  split
  next column key rest _ _ =>
    have hsingle : (Row.single key key.isNull).FailsWith Error.IsPlain := by
      intro i e himpossible
      cases himpossible
    exact .bind (.own (failsWith_conclude fun _ => ht.set (fun _ => rfl) hsingle entity column 0))
      fun _ _ => .own (failsWith_pure _)
  next => exact .own (failsWith_pure _)

/-- The failure that the insertion of several entities has ended with is known to what follows. -/
theorem insertAll {t : Table E} (ht : t.FailsWith Error.IsPlain) (total : RowsAffected)
    (entities : List E) {f : Inserted E → Session σ β}
    (hsucceeded : ∀ left sum, Forwards known (f ⟨left, .ok sum⟩))
    (hfailed : ∀ left e, Forwards (fun e' => known e' ∨ e' = e) (f ⟨left, .error e⟩)) :
    Forwards known (db.insertAll t total entities >>= f) := by
  induction entities generalizing total f with
  | nil =>
      rw [Database.insertAll, pure_bind]
      exact hsucceeded [] total
  | cons entity entities ih =>
      rw [Database.insertAll, bind_assoc]
      refine .handle (insertEntity hdb ht entity) (fun inserted => ?_) fun e => ?_
      · simp only [bind_assoc, pure_bind]
        exact ih _ (fun left sum => hsucceeded _ sum) fun left e => hfailed _ e
      · cases hpanic : e.isPanic with
        | true =>
            have hthrown : (do
                if e.isPanic then throw e
                return (⟨entity :: entities, .error e⟩ : Inserted E)) >>= f = throw e := by
              rw [hpanic]
              rfl
            exact hthrown ▸ .forward (.same (.inr rfl))
        | false =>
            simp only [hpanic, Bool.false_eq_true, if_false, pure_bind]
            exact hfailed _ e

theorem insertEntities {t : Table E} (ht : t.FailsWith Error.IsPlain) (entities : List E)
    {f : Inserted E → Session σ β} (hsucceeded : ∀ left sum, Forwards known (f ⟨left, .ok sum⟩))
    (hfailed : ∀ left e, Forwards (fun e' => known e' ∨ e' = e) (f ⟨left, .error e⟩)) :
    Forwards known (db.insertEntities t entities >>= f) :=
  insertAll hdb ht {} entities hsucceeded hfailed

end

/-- A failure that has come up has its statement at most once, if that holds of those that the code
has been told of. -/
theorem shallow {x : Session σ α} (h : Forwards known x) (htold : ∀ e, known e → e.IsShallow) :
    FailsWith Error.IsShallow x := by
  induction h with
  | own h => exact fun w e hfailed => (h w e hfailed).isShallow
  | forward h => exact failsWith_throw (h.isShallow htold)
  | bind _ _ ihFirst ihRest => exact (ihFirst htold).bind fun a hgiven => ihRest a hgiven htold
  | handle _ _ _ ihInner ihSucceeded ihFailed =>
      refine (failsWith_attempt _).bind fun outcome hattempted => ?_
      cases outcome with
      | ok a => exact ihSucceeded a htold
      | error e =>
          have hmet := (ihInner htold).of_attempt hattempted rfl
          refine ihFailed e fun e' hknown' => ?_
          obtain hbefore | rfl := hknown'
          · exact htold e' hbefore
          · exact hmet
  | update hdb c generatedKeys => exact hdb.shallow_update c generatedKeys
  | foldRows hdb statement init _ ih =>
      exact hdb.shallow_foldRows statement init fun b row hrow => ih b row hrow htold
  | useConnection hm _ ih =>
      exact Manager.failsWith_useConnection (fun c s e hfailed => (hm c s e hfailed).isShallow)
        (Nat.zero_le 1) fun n => ih n htold
  | withConnection hd t _ ih =>
      exact t.failsWith_withConnection (fun c s e hfailed => (hd c s e hfailed).isShallow)
        (Nat.zero_le 1) fun n => ih n htold
  | useTransaction hm isolation rollsBack _ ih =>
      exact Manager.failsWith_useTransaction (fun c s e hfailed => (hm c s e hfailed).isShallow)
        (fun _ => Nat.zero_le 1) isolation rollsBack fun t => ih t htold

end Forwards

/-- A failure of a call that belongs to a statement is shown to the failure map once, with the
statement, and what comes of it is the failure of the operation.  One of the callback and one of the
connection pass as they are, and the map is not asked.  The ways to query are folds.  So without a
map, a failure that leaves an operation holds one statement at most, whatever the callback runs, as
long as neither the driver nor the callback puts statements into failures of their own. -/
theorem Database.failures_mapped_once (db : Database σ) :
    (∀ (ask : FailureAsk σ) statement w,
      Operates db statement
        (fun c n => Executes db.manager.driver ask c ⟨n, c.sql, false⟩
          (.executeUpdate ⟨n, c.sql, false⟩))
        w (db.executeUpdateAsking ask statement w).1 (db.executeUpdateAsking ask statement w).2) ∧
    (∀ statement, db.executeUpdateAsking db.settings.ask statement = db.executeUpdate statement) ∧
    (∀ {β : Type} (ask : FailureAsk σ) (deliver : RowStream → Delivery) statement (init : β) f w,
      Operates db statement
        (fun c n => Queries db.manager.driver ask deliver f init c ⟨n, c.sql, false⟩)
        w (db.foldRowsAsking ask deliver statement init f w).1
        (db.foldRowsAsking ask deliver statement init f w).2) ∧
    (∀ {β : Type} (deliver : RowStream → Delivery),
      (∀ stream : RowStream, stream.Delivers (deliver stream)) → ∀ statement (init : β) f,
        db.foldRowsAsking db.settings.ask deliver statement init f =
          db.foldRows statement init f) ∧
    ((∀ statement f, db.queryWith statement f = db.foldRows statement 0 fun count row => do
        f row
        return count + 1) ∧
      (∀ statement, db.query statement = db.foldRows statement [] fun rows row =>
        conclude (LabelledRow.readNext (statement.resultColumns?.getD []) rows row)) ∧
      ∀ {E : Type} (t : Table E) initial select,
        db.queryAs t initial select = db.foldRows (.select select) [] fun entities row =>
          conclude (t.decodeNext initial select.resultColumns entities row)) ∧
    (db.IsPlain →
      (∀ statement, FailsWith Error.IsShallow (db.executeUpdate statement)) ∧
      (∀ statement f,
        (∀ row, row.FailsWith Error.IsPlain → Forwards (fun _ => False) (f row)) →
          FailsWith Error.IsShallow (db.queryWith statement f)) ∧
      (∀ statement, FailsWith Error.IsShallow (db.query statement)) ∧
      ∀ {E : Type} (t : Table E), t.FailsWith Error.IsPlain → ∀ initial select,
        FailsWith Error.IsShallow (db.queryAs t initial select)) := by
  refine ⟨db.executeUpdateAsking_operates, db.executeUpdateAsking_ask, db.foldRowsAsking_operates,
    fun _ hdelivers => db.foldRowsAsking_ask hdelivers,
    ⟨fun _ _ => rfl, db.query_eq, fun t => db.queryAs_eq t⟩, fun hdb => ⟨?_, ?_, ?_, ?_⟩⟩
  · exact fun statement => (Forwards.executeUpdate hdb statement).shallow fun _ => False.elim
  · exact fun statement f hinner =>
      (Forwards.queryWith hdb statement hinner).shallow fun _ => False.elim
  · exact fun statement => (Forwards.query hdb statement).shallow fun _ => False.elim
  · exact fun t ht initial select =>
      (Forwards.queryAs hdb ht initial select).shallow fun _ => False.elim

theorem Row.failsWith_ofValues (labels : List String) (values : List Value) :
    (ofValues labels values).FailsWith Error.IsPlain := by
  intro i e hfailed
  simp only [ofValues, ofLists] at hfailed
  split at hfailed
  · cases hfailed
  · cases hfailed
    rfl

theorem fickleDatabase_isPlain : fickleDatabase.IsPlain where
  unmapped := rfl
  reports :=
    { calls := fun c _ e hfailed => by cases c <;> cases hfailed
      broken := by
        rintro p stream ⟨_, _, hgiven⟩ e hbroken
        cases hgiven
        cases hbroken
        rfl
      rows := by
        rintro p stream ⟨_, _, hgiven⟩ row hrow
        cases hgiven
        cases List.mem_singleton.mp hrow
        exact Row.failsWith_ofValues _ _ }

def recount (_ : Row) : Session Unit Unit := do
  let _ ← fickleDatabase.useTransaction fun _ =>
    fickleDatabase.query (.ofText "SELECT id FROM notes")

theorem forwards_recount (row : Row) : Forwards (fun _ => False) (recount row) :=
  .bind (.useTransaction fickleDatabase_isPlain.reports.calls none _ fun _ =>
    .query fickleDatabase_isPlain _) fun _ _ => .own (failsWith_pure _)

/-- The failure of the query inside leaves the one around it as it is. -/
theorem recounted_failure_shallow :
    fickleDatabase.IsPlain ∧ (∀ stream : RowStream, stream.Delivers stream.delivery) ∧
      (fickleDatabase.foldRowsAsking fickleDatabase.settings.ask RowStream.delivery
          (.ofText "SELECT 1") 0 fun count row => do
            recount row
            return count + 1) = fickleDatabase.queryWith (.ofText "SELECT 1") recount ∧
      (fickleDatabase.queryWith (.ofText "SELECT 1") recount { store := () }).1 =
        .error (.driver "SELECT id FROM notes" (.plain "gone")) ∧
      (Error.driver "SELECT id FROM notes" (.plain "gone")).IsShallow := by
  obtain ⟨-, -, -, hfolds, -, hshallow⟩ := fickleDatabase.failures_mapped_once
  have hfailed : (fickleDatabase.queryWith (.ofText "SELECT 1") recount { store := () }).1 =
      .error (.driver "SELECT id FROM notes" (.plain "gone")) := rfl
  obtain ⟨-, hqueries, -⟩ := hshallow fickleDatabase_isPlain
  exact ⟨fickleDatabase_isPlain, RowStream.delivers_delivery,
    hfolds _ RowStream.delivers_delivery _ _ _, hfailed,
    hqueries _ recount (fun row _ => forwards_recount row) _ _ hfailed⟩

end TypedSql
