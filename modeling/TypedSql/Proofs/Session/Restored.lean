import TypedSql.Proofs.Sqlite.Settings
import TypedSql.Store.Scripted

namespace TypedSql

/-! Transactions leave the settings of their connections as they have found them, whatever fails,
but for one set-up: when the isolation has been changed and autocommit cannot be read or switched
off, the connection is closed with the isolation that the transaction has asked for. -/

open Exchange Session World

variable {σ α : Type}

/-- One of the calls that restore the settings of a connection has failed. -/
def Unrestored (n : Nat) (es : List Exchange) : Prop :=
  ∃ (t : Transaction) (o : OpenConnection) (uses restoring : List Exchange),
    o.connection = n ∧ es = t.settings o ++ (uses ++ restoring) ∧
      restoring.map Exchange.call = t.restoringCalls o ∧ ∃ x ∈ restoring, x.succeeded = false

/-- A set-up has changed the isolation of a connection before it has failed. -/
def Isolated (n : Nat) (es : List Exchange) (wanted : Isolation) : Prop :=
  ∃ t : Transaction, t.isolation = some wanted ∧ t.BrokenSetup n es ∧
    ⟨.setIsolation n wanted, .ok ()⟩ ∈ es

theorem Driver.KeepsSettings.course {d : Driver σ} {settings? : σ → Nat → Option Settings}
    {granted : Isolation → Isolation} (hlaw : d.KeepsSettings settings? granted) {s s' : σ}
    {n : Nat}
    {es : List Exchange} (h : Course (d.LeavesSettings settings?) n (about n es))
    (hran : d.Ran s es s') {v : Settings} (hv : settings? s n = some v) :
    settings? s' n = some v ∨ Unrestored n (about n es) ∨
      ∃ wanted, Isolated n (about n es) wanted ∧
        settings? s' n = some { v with isolation := granted wanted } := by
  generalize hcourse : about n es = course at h
  cases h with
  | alone hused =>
      subst hcourse
      exact .inl (hlaw.unchanged_of_ran hran hv fun x hx => (hused x hx).2)
  | @broken t setup hbroken =>
      subst hcourse
      have hsetting := isSetting_of_interruptedSetup hbroken.interrupted
      rw [hlaw.afterAll_of_ran hran hv hsetting]
      obtain hsame | ⟨wanted, hwanted, hmem, hchanged⟩ := Transaction.afterAll_broken hbroken
      · exact .inl (by rw [hsame])
      · exact .inr (.inr ⟨wanted, ⟨t, hwanted, hbroken, hmem⟩, by rw [hchanged]⟩)
  | @served t o uses restoring hsame hused hrestored =>
      subst hsame
      by_cases hsucceeded : ∀ x ∈ restoring, x.succeeded
      · exact .inl (hlaw.restored_of_ran hran hv hcourse (fun x hx => (hused x hx).2) hrestored
          hsucceeded)
      · simp only [not_forall, Bool.not_eq_true] at hsucceeded
        obtain ⟨x, hx, hfailed⟩ := hsucceeded
        exact .inr (.inl ⟨t, o, uses, restoring, rfl, rfl, hrestored, x, hx, hfailed⟩)

/-- Whatever a program does that changes no settings itself, and whatever fails meanwhile, a
connection is closed with the settings that it has been opened with.  There are two exceptions: a
call that restores a setting fails, or the set-up fails when it has changed the isolation, which is
not changed back. -/
theorem Program.restores_settings {d : Driver σ} {settings? : σ → Nat → Option Settings}
    {granted : Isolation → Isolation} (hlaw : d.KeepsSettings settings? granted)
    {x : Session (σ × List Exchange) α}
    (h : Program (d.LeavesSettings settings?) d.traced [] [] x) {w : World (σ × List Exchange)}
    (hatRest : w.AtRest) :
    ∃ es, (x w).2.trace = w.trace ++ es ∧ d.Ran w.store.1 es (x w).2.store.1 ∧
      ∀ before n after, es = before ++ ⟨.connect, .ok n⟩ :: after →
        (∀ y ∈ before ++ after, y.opened? ≠ some n) →
        ∃ between closing rest opened closed, after = between ++ closing :: rest ∧
          closing.call = .close n ∧
          d.Ran w.store.1 (before ++ [⟨.connect, .ok n⟩]) opened ∧
          d.Ran opened between closed ∧
          ∀ v, settings? opened n = some v →
            settings? closed n = some v ∨ Unrestored n (about n between) ∨
              ∃ wanted, Isolated n (about n between) wanted ∧
                settings? closed n = some { v with isolation := granted wanted } := by
  obtain ⟨es, htrace, hran⟩ := (Client.of_program h).ran w
  refine ⟨es, htrace, hran, fun before n after hes honce => ?_⟩
  subst hes
  obtain ⟨between, closing, rest, rfl, hclosing, hcourse⟩ :=
    h.course hlaw.leaves_metadata hlaw.leaves_ending hatRest htrace honce
  rw [List.append_cons] at hran
  obtain ⟨opened, hopened, hran⟩ := Driver.ran_append.mp hran
  obtain ⟨closed, hclosed, -⟩ := Driver.ran_append.mp hran
  exact ⟨between, closing, rest, opened, closed, rfl, hclosing, hopened, hclosed,
    fun v hv => hlaw.course hcourse hclosed hv⟩

abbrev Guestbook := Sqlite.Store (Sqlite.Notebook × List Sqlite.Control)

namespace Guestbook

def driver : Driver Guestbook := Sqlite.Store.driver Sqlite.Notebook.engine.refusing

def settings? : Guestbook → Nat → Option Settings :=
  Sqlite.Store.settings? Sqlite.Notebook.engine.refusing

def database : Database (Guestbook × List Exchange) where
  settings := { metadata := Sqlite.metadata "3", codecs := ⟨[], []⟩, dialect := .sqlite,
                config := {}, writer := ⟨.sqlite, {}⟩ }
  driver := driver.traced
  manager := .threaded 0 driver.traced none

def world : World (Guestbook × List Exchange) :=
  { store := ({ fresh := ({}, [.commit]) }, []) }

/-- A guest signs in a transaction that may read everything, and the commit is refused. -/
def signed : Session (Guestbook × List Exchange) RowsAffected :=
  database.manager.useTransaction (some .readUncommitted) (fun _ => true) fun _ =>
    database.executeUpdate
      (.raw ⟨"INSERT INTO t (x) VALUES (?)", [.ofType .varchar (.some (.varchar "a"))]⟩)

theorem keepsSettings : driver.KeepsSettings settings? Sqlite.Connection.granted :=
  Sqlite.Store.keepsSettings Sqlite.Notebook.keepsReading.refusing

theorem signed_program :
    Program (driver.LeavesSettings settings?) driver.traced [] [] signed := by
  refine Program.ofManager (m := database.manager) rfl _ _ fun t => ?_
  refine Manager.Hosts.executeUpdate (Program.hosts rfl fun c hisStatement => ?_) _
  exact Sqlite.Store.leaves_statement Sqlite.Notebook.keepsReading.refusing hisStatement
    fun sql => (Sqlite.Notebook.leavesReading sql).refusing

/-- Nothing fails but the commit, so the settings are restored. -/
theorem signed_restores_settings :
    ∃ between opened closed,
      driver.Ran world.store.1 [⟨.connect, .ok 0⟩] opened ∧ driver.Ran opened between closed ∧
      settings? opened 0 = some ⟨true, .serializable⟩ ∧
      settings? closed 0 = some ⟨true, .serializable⟩ := by
  have hatRest : world.AtRest := ⟨fun _ => rfl, fun _ => rfl⟩
  obtain ⟨es, htrace, -, hcloses⟩ := Program.restores_settings keepsSettings signed_program hatRest
  have hsame : es = (signed world).2.trace := htrace.symm
  have hes : es = [] ++ ⟨.connect, .ok 0⟩ :: (signed world).2.trace.tail := by
    rw [hsame]
    rfl
  obtain ⟨between, closing, rest, opened, closed, hafter, hclosing, hopened, hclosed, hsettled⟩ :=
    hcloses [] 0 _ hes (by decide +kernel)
  have hfound : settings? opened 0 = some ⟨true, .serializable⟩ := by
    rw [hopened.2]
    rfl
  have hrefused (y : Exchange) (hy : y ∈ between) (hfailed : y.succeeded = false) :
      y.call = .commit 0 := by
    have honly : ∀ y ∈ (signed world).2.trace, y.succeeded = false → y.call = .commit 0 := by
      decide +kernel
    refine honly y ?_ hfailed
    rw [← hsame, hes, hafter]
    simp [hy]
  have hserved (y : Exchange) (hy : y ∈ about 0 between) (hsetting : y.call.isSetting 0) :
      y.succeeded := by
    by_contra hfailed
    rw [hrefused y (List.mem_of_mem_filter hy) (by simpa using hfailed)] at hsetting
    cases hsetting
  refine ⟨between, opened, closed, hopened, hclosed, hfound, ?_⟩
  obtain hrestored | hunrestored | ⟨wanted, ⟨t, -, hbroken, -⟩, -⟩ := hsettled _ hfound
  · exact hrestored
  · obtain ⟨t, o, uses, restoring, hconnection, hbetween, hcalls, x, hx, hfailed⟩ := hunrestored
    have hsetting : x.call.isSetting 0 := by
      rw [← hconnection]
      exact t.isSetting_of_restoringCalls (hcalls ▸ List.mem_map_of_mem hx)
    have hsucceeded := hserved x (by simp [hbetween, hx]) hsetting
    rw [hfailed] at hsucceeded
    cases hsucceeded
  · obtain ⟨done, failing, hbetween, -, hsetting, hfailed⟩ := hbroken.interrupted
    have hsucceeded := hserved failing (by simp [hbetween]) hsetting
    rw [hfailed] at hsucceeded
    cases hsucceeded

end Guestbook

/-- A session that is closed by its store when it is asked for a transaction has the isolation by
then that was wanted for it, though no call has failed that was to restore anything. -/
theorem ScriptedStore.isolation_left_behind :
    let m : Manager (ScriptedStore × List Exchange) := .threaded 0 (driver []).traced none
    let left := (m.useTransaction (some .serializable) (fun _ => true) (fun _ =>
      m.useConnection fun n => call m.driver (.commit n))
      { store := ({ losesSession := true }, []) }).2
    left.trace.map Exchange.call =
      [.connect, .isolation 1, .setIsolation 1 .serializable, .autocommit 1,
        .setAutocommit 1 false, .close 1] ∧
    (left.trace.filter fun x => !x.succeeded).map Exchange.call = [.setAutocommit 1 false] ∧
    left.trace[1]? = some ⟨.isolation 1, .ok (some .readCommitted)⟩ ∧
    left.store.1.settings 1 = { autocommit := true, isolation := some .serializable } :=
  ⟨rfl, rfl, rfl, rfl⟩

end TypedSql
