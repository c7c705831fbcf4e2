import TypedSql.Database.Entity
import TypedSql.Proofs.Database.Rows
import TypedSql.Proofs.Session.Failures

namespace TypedSql

/-! The failures of databases, by those of what programs bring with them: drivers with their rows,
and tables with their codecs. -/

open Session

variable {σ α β E : Type} {P Q : Error → Prop}

def Row.FailsWith (P : Error → Prop) (row : Row) : Prop :=
  ∀ i e, row.value i = .error e → P e

/-- The setters fail at no row in another way than the row itself. -/
def Table.FailsWith (P : Error → Prop) (t : Table E) : Prop :=
  ∀ bound ∈ t.bound, ∀ set, bound.setter = some set →
    ∀ e row i err, row.FailsWith P → set e row i = .error err → P err

section

variable {codec : Codec α} (hdecoding : ∀ v e, codec.decode v = .error e → P e) {row : Row}
include hdecoding

theorem Codec.extract_failsWith (hrow : row.FailsWith P) {i : Nat} {e : Error}
    (hfailed : codec.extract row i = .error e) : P e := by
  unfold Codec.extract at hfailed
  cases hfield : row.value i with
  | error e' =>
      rw [hfield] at hfailed
      cases hfailed
      exact hrow i e hfield
  | ok raw =>
      simp only [hfield] at hfailed
      split at hfailed
      · cases hfailed
      · cases hdecoded : codec.decode raw with
        | ok a =>
            rw [hdecoded] at hfailed
            cases hfailed
        | error e' =>
            rw [hdecoded] at hfailed
            cases hfailed
            exact hdecoding raw e hdecoded

theorem Binding.setter_failsWith {binding : Binding E α} {set : E → Row → Nat → Except Error E}
    (hset : binding.setter codec = some set) (entity : E) (hrow : row.FailsWith P) {i : Nat}
    {e : Error} (hfailed : set entity row i = .error e) : P e := by
  cases hfound : codec.extract row i with
  | error e' =>
      have hextracting := Codec.extract_failsWith hdecoding hrow hfound
      cases binding with
      | unbound => cases hset
      | accessor _ _ =>
          cases hset
          simp only [hfound] at hfailed
          cases hfailed
          exact hextracting
      | nullable _ _ =>
          cases hset
          simp only [hfound] at hfailed
          cases hfailed
          exact hextracting
  | ok value =>
      cases binding with
      | unbound => cases hset
      | accessor _ _ =>
          cases hset
          simp only [hfound] at hfailed
          cases value <;> cases hfailed
      | nullable _ _ =>
          cases hset
          simp only [hfound] at hfailed
          cases hfailed

end

namespace Table

variable {t : Table E} {row : Row}

theorem failsWith_ofName (name : String) : (ofName name : Table E).FailsWith P :=
  fun _ hb => absurd hb List.not_mem_nil

theorem FailsWith.declare (h : t.FailsWith P) {codec : Codec α}
    (hdecoding : ∀ v e, codec.decode v = .error e → P e) (name : String)
    (primaryKey notNull : Bool) (binding : Binding E α) :
    (t.declare name codec primaryKey notNull binding).1.FailsWith P := by
  intro b hb set hset entity row i e hrow hfailed
  rcases List.mem_append.mp hb with hbefore | hnew
  · exact h b hbefore set hset entity row i e hrow hfailed
  · obtain rfl := List.mem_singleton.mp hnew
    exact Binding.setter_failsWith hdecoding hset entity hrow hfailed

theorem FailsWith.decode (h : t.FailsWith P) (hrow : row.FailsWith P)
    (columns : List ResultColumn) (initial : E) {e : Error}
    (hfailed : t.decode initial row columns = .error e) : P e := by
  unfold FailsWith at h
  unfold Table.decode at hfailed
  generalize t.bound = bound at h hfailed
  induction bound generalizing initial with
  | nil => cases hfailed
  | cons b bound ih =>
      rw [List.foldlM_cons] at hfailed
      cases hfirst : decodeColumn row columns initial b with
      | ok initial' =>
          rw [hfirst] at hfailed
          exact ih initial' (fun b' hb => h b' (List.mem_cons_of_mem b hb)) hfailed
      | error e' =>
          rw [hfirst] at hfailed
          cases hfailed
          unfold decodeColumn at hfirst
          split at hfirst
          next set i hset hi => exact h b List.mem_cons_self set hset initial row i e hrow hfirst
          next => cases hfirst

theorem FailsWith.set (h : t.FailsWith P) (husage : ∀ fault, P (.usage fault))
    (hrow : row.FailsWith P) (entity : E) (column : ColumnRef) (i : Nat) {e : Error}
    (hfailed : t.set entity column row i = .error e) : P e := by
  unfold Table.set find at hfailed
  cases hfound : t.bound.find? fun b => b.column.name == column.name with
  | none =>
      rw [hfound] at hfailed
      cases hfailed
      exact husage _
  | some b =>
      rw [hfound] at hfailed
      cases hset : b.setter with
      | none =>
          simp only [hset] at hfailed
          cases hfailed
          exact husage _
      | some set =>
          simp only [hset] at hfailed
          exact h b (List.mem_of_find?_eq_some hfound) set hset entity row i e hrow hfailed

/-- A row becomes an entity behind others, or the failure is one of its own. -/
theorem FailsWith.decodeNext (h : t.FailsWith P) (hrow : row.FailsWith P) (initial : E)
    (columns : List ResultColumn) (entities : List E) {e : Error}
    (hfailed : t.decodeNext initial columns entities row = .error e) : P e := by
  unfold Table.decodeNext at hfailed
  cases hdecoded : t.decode initial row columns with
  | ok entity =>
      rw [hdecoded] at hfailed
      cases hfailed
  | error e' =>
      rw [hdecoded] at hfailed
      cases hfailed
      exact h.decode hrow columns initial hdecoded

end Table

theorem Row.FailsWith.readNext {row : Row} (h : row.FailsWith P) (columns : List ResultColumn)
    (rows : List LabelledRow) {e : Error}
    (hfailed : LabelledRow.readNext columns rows row = .error e) : P e := by
  unfold LabelledRow.readNext LabelledRow.read at hfailed
  cases hvalues : row.values with
  | ok vs =>
      rw [hvalues] at hfailed
      cases hfailed
  | error e' =>
      rw [hvalues] at hfailed
      cases hfailed
      obtain ⟨i, -, hfield⟩ := exists_of_mapM_error hvalues
      exact h i e hfield

/-- All that a driver says of failures, in its answers, at the end of its rows and in them. -/
structure Driver.Reports (Q : Error → Prop) (d : Driver σ) : Prop where
  calls : d.FailsWith Q
  broken : ∀ p stream, (d.run (.executeQuery p)).Gives stream →
    ∀ e, stream.failure = some e → Q e
  rows : ∀ p stream, (d.run (.executeQuery p)).Gives stream → ∀ row ∈ stream.rows, row.FailsWith Q

theorem Session.failsWith_foldlM {f : β → Row → Session σ β} {rows : List Row}
    (hf : ∀ b, ∀ row ∈ rows, FailsWith P (f b row)) (init : β) :
    FailsWith P (rows.foldlM f init) := by
  induction rows generalizing init with
  | nil => exact failsWith_pure init
  | cons row rows ih =>
      rw [List.foldlM_cons]
      exact (hf init row List.mem_cons_self).bind fun b _ =>
        ih (fun b' row' h => hf b' row' (List.mem_cons_of_mem row h)) b

theorem Session.failsWith_forM {f : α → Session σ PUnit} (hf : ∀ a, FailsWith P (f a))
    (as : List α) : FailsWith P (as.forM f) := by
  induction as with
  | nil => exact failsWith_pure _
  | cons a as ih => exact (hf a).bind fun _ _ => ih

namespace Database

variable {db : Database σ}

theorem failsWith_logStatement (c : CompiledSql) :
    FailsWith P (logStatement c : Session σ Unit) :=
  (failsWith_log _ _ _).bind fun _ _ => failsWith_forM (fun _ => failsWith_log _ _ _) _

theorem failsWith_mappingFailure {sql : String}
    (hmapped : ∀ e, Q e → P (db.settings.mapFailure sql e)) {x : Session σ α}
    (hx : FailsWith Q x) : FailsWith P (db.mappingFailure sql x) := by
  refine (failsWith_attempt x).bind fun outcome hattempted => ?_
  cases outcome with
  | ok a => exact failsWith_pure a
  | error e => exact failsWith_throw (hmapped e (hx.of_attempt hattempted rfl))

section

variable (hreports : db.manager.driver.Reports Q)
  (hmapped : ∀ sql e, Q e → P (db.settings.mapFailure sql e)) (hacquiring : ∀ e, Q e → P e)
  (hbusy : P (.usage .connectionInUse))
include hreports hmapped

theorem failsWith_prepare (connection : Nat) (c : CompiledSql) (generatedKeys : Bool) :
    FailsWith P (db.prepare connection c generatedKeys) :=
  (failsWith_mappingFailure (hmapped c.sql) (hreports.calls.call _)).bind fun _ _ =>
    failsWith_pure _

include hacquiring hbusy

/-- An operation fails as its connection cannot be had, or as the map puts what the driver says. -/
theorem failsWith_update (c : CompiledSql) (generatedKeys : Bool) :
    FailsWith P (db.update c generatedKeys) := by
  have hacquired : db.manager.driver.FailsWith P :=
    fun c s e hfailed => hacquiring e (hreports.calls c s e hfailed)
  refine (failsWith_logStatement c).bind fun _ _ => ?_
  refine (Manager.failsWith_useConnection hacquired hbusy fun n => ?_).bind fun result _ =>
    (failsWith_log _ _ _).bind fun _ _ => failsWith_pure result
  refine (failsWith_prepare hreports hmapped n c generatedKeys).bind fun p _ => ?_
  refine failsWith_mappingFailure (hmapped c.sql) ?_
  exact (failsWith_forM (fun b => hreports.calls.call (.bind p b)) _).bind fun _ _ =>
    hreports.calls.call (.executeUpdate p)

theorem failsWith_foldRows {statement : Statement}
    (hcompiling : ∀ e, db.settings.compile statement = .error e → P e) (init : β)
    {f : β → Row → Session σ β} (hf : ∀ b row, row.FailsWith Q → FailsWith P (f b row)) :
    FailsWith P (db.foldRows statement init f) := by
  have hacquired : db.manager.driver.FailsWith P :=
    fun c s e hfailed => hacquiring e (hreports.calls c s e hfailed)
  refine (failsWith_conclude hcompiling).bind fun c _ => ?_
  refine (failsWith_logStatement c).bind fun _ _ => ?_
  refine (Manager.failsWith_useConnection hacquired hbusy fun n => ?_).bind fun result _ =>
    (failsWith_log _ _ _).bind fun _ _ => failsWith_pure result.1
  refine (failsWith_prepare hreports hmapped n c false).bind fun p _ => ?_
  have hexecuting : FailsWith Q (do
      db.sendBindings p c
      call db.manager.driver (.executeQuery p)) :=
    (failsWith_forM (fun b => hreports.calls.call (.bind p b)) _).bind fun _ _ =>
      hreports.calls.call (.executeQuery p)
  refine (failsWith_mappingFailure (hmapped c.sql) hexecuting).bind fun stream hgiven => ?_
  obtain ⟨_, -, w, w', hanswered⟩ := (gives_of_mappingFailure hgiven).of_bind
  have hanswer : (db.manager.driver.run (.executeQuery p)).Gives stream := by
    have hsame : (db.manager.driver.run (.executeQuery p) w.store).1 = .ok stream :=
      congrArg Prod.fst hanswered
    exact ⟨w.store, _, Prod.ext hsame rfl⟩
  refine (failsWith_foldlM (fun b row hrow => hf b row
    (hreports.rows p stream hanswer row hrow)) init).bind fun gathered _ => ?_
  cases hbroken : stream.failure with
  | none => exact failsWith_pure _
  | some e => exact failsWith_throw (hmapped c.sql e (hreports.broken p stream hanswer e hbroken))

end

end Database

end TypedSql
