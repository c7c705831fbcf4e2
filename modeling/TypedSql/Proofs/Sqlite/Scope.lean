import TypedSql.Proofs.Sqlite.Controls

namespace TypedSql.Sqlite

/-! What the engine of a scope's connection is told while the scope runs, and when it ends. -/

namespace Store

variable {ε : Type} {g : Engine ε} {s s' : Store (ε × List Told)} {n : Nat} {es : List Exchange}

theorem told_of_ran (hran : (driver g.recorded).Ran s es s')
    (hcalls : ∀ x ∈ es, x.call.connection? = some n) (hn : n < s.connections.length) :
    n < s'.connections.length ∧
      ∃ new, (s'.connection n).told = (s.connection n).told ++ new ∧
        ∀ i ∈ new, i.control = .commit →
          ∃ x ∈ es, x.call = .commit n ∨ x.call = .setAutocommit n true := by
  induction es generalizing s with
  | nil =>
      cases hran
      exact ⟨hn, [], (List.append_nil _).symm, fun _ hi => absurd hi List.not_mem_nil⟩
  | cons x es ih =>
      obtain ⟨hx, hcalls⟩ := List.forall_mem_cons.mp hcalls
      obtain ⟨hlength, new, htold, hnew⟩ := told_run g hx hn
      obtain ⟨hn', new', htold', hnew'⟩ := ih hran.2 hcalls (by rw [hlength]; exact hn)
      refine ⟨hn', new ++ new', by rw [htold', htold, List.append_assoc], ?_⟩
      intro i hi hsame
      cases List.mem_append.mp hi with
      | inl hi => exact ⟨x, List.mem_cons_self, hnew i hi hsame⟩
      | inr hi =>
          obtain ⟨y, hy, hcall⟩ := hnew' i hi hsame
          exact ⟨y, List.mem_cons_of_mem _ hy, hcall⟩

theorem stays_of_ran (hlawful : g.Transactional) (hran : (driver g.recorded).Ran s es s')
    (hcalls : ∀ x ∈ es, ∃ level, x.call = .setIsolation n level) (hn : n < s.connections.length) :
    n < s'.connections.length ∧
      (s'.connection n).inTransaction g = (s.connection n).inTransaction g ∧
      (s'.connection n).autocommit = (s.connection n).autocommit ∧
      ∃ new, (s'.connection n).told = (s.connection n).told ++ new ∧
        ∀ i ∈ new, i.control.isEnding = false := by
  induction es generalizing s with
  | nil =>
      cases hran
      exact ⟨hn, rfl, rfl, [], (List.append_nil _).symm, fun _ hi => absurd hi List.not_mem_nil⟩
  | cons x es ih =>
      obtain ⟨⟨level, hx⟩, hrest⟩ := List.forall_mem_cons.mp hcalls
      obtain ⟨call, outcome⟩ := x
      cases hx
      have hrest' := hran.2
      have hsetting : (driver g.recorded).run (.setIsolation n level) =
          onConnection n (Connection.setIsolation g.recorded level) := rfl
      rw [hsetting] at hrest'
      obtain ⟨hn', hopen, hauto, new, htold, hnew⟩ :=
        ih hrest' hrest (by rw [length_onConnection]; exact hn)
      rw [connection_onConnection hn] at hopen hauto htold
      obtain ⟨i, hset, hi⟩ := Connection.told_setIsolation g level (s.connection n)
      refine ⟨hn', hopen.trans (hlawful.stays _ _), hauto, [i] ++ new, ?_, ?_⟩
      · rw [htold, hset, List.append_assoc]
      · exact List.forall_mem_append.mpr ⟨List.forall_mem_singleton.mpr hi, hnew⟩

theorem ends_of_ran (hlawful : g.Transactional) {x : Exchange} {rolledBack : Bool}
    (hran : (driver g.recorded).Ran s [x] s') (hcall : x.call = .ending rolledBack n)
    (hn : n < s.connections.length) :
    n < s'.connections.length ∧
      Connection.Ends g (.ending rolledBack) (s.connection n) x.succeeded (s'.connection n) := by
  obtain ⟨call, outcome⟩ := x
  obtain ⟨houtcome, rfl⟩ := hran
  cases rolledBack with
  | true =>
      cases hcall
      cases houtcome
      exact ends_onConnection hn (x := Connection.rollback g.recorded)
        (Connection.finish_ends hlawful (show Control.rollback.isEnding from rfl))
  | false =>
      cases hcall
      cases houtcome
      exact ends_onConnection hn (x := Connection.commit g.recorded)
        (Connection.finish_ends hlawful (show Control.commit.isEnding from rfl))

theorem ends_of_setAutocommit (hlawful : g.Transactional) {x : Exchange}
    (hran : (driver g.recorded).Ran s [x] s') (hcall : x.call = .setAutocommit n true)
    (hn : n < s.connections.length) :
    Connection.Ends g .commit (s.connection n) x.succeeded (s'.connection n) := by
  obtain ⟨call, outcome⟩ := x
  cases hcall
  obtain ⟨houtcome, rfl⟩ := hran
  cases houtcome
  exact (ends_onConnection hn (x := Connection.setAutocommit g.recorded true)
    (Connection.setAutocommit_ends hlawful)).2

theorem fresh_of_ran (hran : (driver g.recorded).Ran s es s') : s'.fresh = s.fresh := by
  refine hran.keeps (P := fun now => now.fresh = s.fresh) (fun c now h => ?_) rfl
  cases c <;> exact h

variable {t : Transaction} {o : OpenConnection}

theorem connection_of_connect (hran : (driver g.recorded).Ran s [⟨.connect, .ok n⟩] s') :
    n < s'.connections.length ∧ s'.connection n = { engine := s.fresh } := by
  obtain ⟨houtcome, rfl⟩ := hran
  have hn : s.connections.length = n := Except.ok.inj houtcome
  have hconnected : ((driver g.recorded).run .connect s).2 =
      { s with connections := s.connections ++ [{ engine := s.fresh }] } := rfl
  rw [← hn, hconnected]
  simp [connection]

theorem call_of_settings {x : Exchange} (hx : x ∈ t.settings o) :
    x.call.connection? = some o.connection ∧ x.call ≠ .commit o.connection ∧
      x.call ≠ .setAutocommit o.connection true := by
  simp only [Transaction.settings, List.mem_cons, List.mem_append] at hx
  obtain rfl | hx | rfl | hx := hx
  · exact ⟨rfl, by simp, by simp⟩
  · split at hx
    · split at hx
      · rw [List.mem_singleton.mp hx]
        exact ⟨rfl, by simp, by simp⟩
      · cases hx
    · cases hx
  · exact ⟨rfl, by simp, by simp⟩
  · split at hx
    · rw [List.mem_singleton.mp hx]
      exact ⟨rfl, by simp, by simp⟩
    · cases hx

/-- A transaction finds its connection new, and autocommit on. -/
theorem opened_of_ran (hlawful : g.Transactional)
    (hran : (driver g.recorded).Ran s (t.opening o) s') (hfresh : s.fresh.2 = []) :
    o.connection < s'.connections.length ∧ o.autocommit ∧
      ∀ i ∈ (s'.connection o.connection).told, i.control ≠ .commit := by
  obtain ⟨s₁, hran₁, hran₂⟩ := Driver.ran_append.mp
    (show (driver g.recorded).Ran s ([⟨.connect, .ok o.connection⟩] ++ t.settings o) s' from hran)
  obtain ⟨hn, hnew⟩ := connection_of_connect hran₁
  obtain ⟨hn', new, htold, hcommit⟩ := told_of_ran hran₂ (fun x hx => (call_of_settings hx).1) hn
  refine ⟨hn', ?_, ?_⟩
  · obtain ⟨-, hran₂⟩ := hran₂
    obtain ⟨s₂, hran₃, hran₄⟩ := Driver.ran_append.mp hran₂
    have hread : (s₂.connection o.connection).autocommit = o.autocommit := Except.ok.inj hran₄.1
    have hreading : (driver g.recorded).run (.isolation o.connection) =
        onConnection o.connection (Connection.isolation g.recorded) := rfl
    rw [hreading] at hran₃
    obtain ⟨-, -, hauto, -⟩ := stays_of_ran hlawful hran₃ (n := o.connection) (fun x hx => by
      split at hx
      · split at hx
        · exact ⟨_, by rw [List.mem_singleton.mp hx]⟩
        · cases hx
      · cases hx) (by rw [length_onConnection]; exact hn)
    rw [← hread, hauto, connection_onConnection hn]
    exact congrArg Connection.autocommit hnew
  · intro i hi hsame
    have hstart : (s₁.connection o.connection).told = [] := by
      rw [hnew]
      exact hfresh
    rw [htold, hstart, List.nil_append] at hi
    obtain ⟨x, hx, hcall⟩ := hcommit i hi hsame
    obtain ⟨-, hnotCommit, hnotOn⟩ := call_of_settings hx
    exact hcall.elim hnotCommit hnotOn

/-- What is told while the connection is given back.  A transaction that is still open is committed
there. -/
theorem told_of_release (hlawful : g.Transactional) {release : List Exchange}
    (hran : (driver g.recorded).Ran s release s')
    (hcalls : release.map Exchange.call = t.releaseCalls o) (hauto : o.autocommit)
    (hn : o.connection < s.connections.length) :
    ∃ restored followed,
      (s'.connection o.connection).told = (s.connection o.connection).told ++ (restored ++
        if (s.connection o.connection).inTransaction g then [⟨.commit, followed⟩] else []) ∧
      ∀ i ∈ restored, i.control.isEnding = false := by
  have hsplit : ∃ first, t.releaseCalls o =
      first ++ [.setAutocommit o.connection true, .close o.connection] ∧
      ∀ c ∈ first, ∃ level, c = .setIsolation o.connection level := by
    refine ⟨_, by rw [Transaction.releaseCalls, if_pos hauto]; rfl, ?_⟩
    intro c hc
    split at hc
    · split at hc
      · exact ⟨_, List.mem_singleton.mp hc⟩
      · cases hc
    · cases hc
  obtain ⟨first, hsplit, hfirst⟩ := hsplit
  rw [hsplit] at hcalls
  obtain ⟨restoring, rest, rfl, hrestoring, hrest⟩ := List.map_eq_append_iff.mp hcalls
  obtain ⟨x, rest, rfl, hx, hrest⟩ := List.map_eq_cons_iff.mp hrest
  obtain ⟨y, rfl, hy⟩ := List.map_eq_singleton_iff.mp hrest
  obtain ⟨mid, hran₁, hran₂⟩ := Driver.ran_append.mp hran
  obtain ⟨hn', hopen, -, restored, htold, hrestored⟩ := stays_of_ran hlawful hran₁
    (fun x hx => hfirst x.call (by rw [← hrestoring]; exact List.mem_map_of_mem hx)) hn
  obtain ⟨after, hran₃, hran₄⟩ := Driver.ran_append.mp
    (show (driver g.recorded).Ran mid ([x] ++ [y]) s' from hran₂)
  have hends := ends_of_setAutocommit hlawful hran₃ hx hn'
  have hclosed : s' = after := by
    obtain ⟨call, outcome⟩ := y
    cases hy
    exact hran₄.2
  rw [hclosed]
  exact ⟨restored, x.succeeded, by rw [hends.told, htold, hopen, List.append_assoc], hrestored⟩

/-- Before the end of a transaction, only code that switches autocommit on has the engine commit. -/
theorem told_of_history (hlawful : g.Transactional) (hran : (driver g.recorded).Ran s es s')
    (hhistory : t.History (some o) es) (hfresh : s.fresh.2 = []) :
    o.connection < s'.connections.length ∧ o.autocommit ∧
      ∀ i ∈ (s'.connection o.connection).told, i.control = .commit →
        ∃ x ∈ es, x.call = .setAutocommit o.connection true := by
  obtain ⟨failures, -, uses, hareUses, rfl⟩ := hhistory.shape
  rw [List.append_assoc] at hran
  obtain ⟨s₁, hran₁, hran₂⟩ := Driver.ran_append.mp hran
  obtain ⟨s₂, hran₂, hran₃⟩ := Driver.ran_append.mp hran₂
  obtain ⟨hn, hauto, hopening⟩ := opened_of_ran hlawful hran₂ (by rw [fresh_of_ran hran₁, hfresh])
  have honIt (x : Exchange) (hx : x ∈ uses) : x.call.connection? = some o.connection := by
    have hisUse := hareUses x hx
    simp only [Call.isUse, Bool.and_eq_true, decide_eq_true_eq] at hisUse
    exact hisUse.1
  obtain ⟨hn', new, htold, hnew⟩ := told_of_ran hran₃ honIt hn
  refine ⟨hn', hauto, fun i hi hsame => ?_⟩
  rw [htold] at hi
  cases List.mem_append.mp hi with
  | inl hi => exact absurd hsame (hopening i hi)
  | inr hi =>
      obtain ⟨x, hx, hcall⟩ := hnew i hi hsame
      refine ⟨x, List.mem_append_right _ hx, hcall.resolve_left fun hcommit => ?_⟩
      have hnotEnding := Call.isEnding_of_isUse (hareUses x hx)
      rw [hcommit] at hnotEnding
      cases hnotEnding

/-- A transaction whose end succeeds is not ended again.  One whose end fails is committed while its
connection is given back. -/
theorem told_of_end (hlawful : g.Transactional) {rolledBack : Bool} {ending : Exchange}
    {release : List Exchange} (hran : (driver g.recorded).Ran s ([ending] ++ release) s')
    (hcall : ending.call = .ending rolledBack o.connection)
    (hcalls : release.map Exchange.call = t.releaseCalls o) (hauto : o.autocommit)
    (hn : o.connection < s.connections.length) :
    ∃ restored followed,
      (s'.connection o.connection).told = (s.connection o.connection).told ++
        ((if (s.connection o.connection).inTransaction g then
            [⟨.ending rolledBack, ending.succeeded⟩] else []) ++
          (restored ++ if ending.succeeded then [] else [⟨.commit, followed⟩])) ∧
      ∀ i ∈ restored, i.control.isEnding = false := by
  obtain ⟨mid, hran₁, hran₂⟩ := Driver.ran_append.mp hran
  obtain ⟨hn', hends⟩ := ends_of_ran hlawful hran₁ hcall hn
  obtain ⟨restored, followed, htold, hrestored⟩ := told_of_release hlawful hran₂ hcalls hauto hn'
  refine ⟨restored, followed, ?_, hrestored⟩
  rw [htold, hends.told, hends.inTransaction, List.append_assoc]
  cases ending.succeeded with
  | true => rfl
  | false => rfl

end Store

variable {ε α : Type} {g : Engine ε} {m : Manager (Store (ε × List Told) × List Exchange)}
  {w : World (Store (ε × List Told) × List Exchange)}

def connectionOf (o : OpenConnection) (w : World (Store (ε × List Told) × List Exchange)) :
    Connection (ε × List Told) :=
  w.store.1.connection o.connection

/-- What the engine of its connection is told because of a scope.  While the body runs, only code
that switches autocommit on makes it commit.  Then the open transaction is ended as the scope has
chosen; if that succeeds, the engine is never told to commit again.  If it fails, giving back the
connection has the engine commit what is left open, whatever the scope has chosen. -/
theorem useTransaction_tells {id : Nat} {isolation : Option Isolation}
    {body : Transaction → Session (Store (ε × List Told) × List Exchange) α}
    (hlawful : g.Transactional) (hm : m = .threaded id (Store.driver g.recorded).traced isolation)
    (hbody : ∀ t, InScope m t [] (body t)) (hfree : w.current? id = none)
    (hfresh : w.store.1.fresh.2 = []) (wanted : Option Isolation) (rollsBack : Error → Bool) :
    ∃ t begun said ended release,
      m.Outermost wanted rollsBack body w t begun said ended release ∧
      ∀ o, ((body t begun).2.state t).opened = some o →
        ∃ ending restored followed, ended = some ending ∧
          (∀ i ∈ (connectionOf o (body t begun).2).told, i.control = .commit →
            ∃ x ∈ said, x.call = .setAutocommit o.connection true) ∧
          (connectionOf o (m.useTransaction wanted rollsBack body w).2).told =
            (connectionOf o (body t begun).2).told ++
              ((if (connectionOf o (body t begun).2).inTransaction g then
                  [⟨.ending (rolledBackBy rollsBack (body t begun).1), ending.succeeded⟩]
                else []) ++
              (restored ++ if ending.succeeded then [] else [⟨.commit, followed⟩])) ∧
          ∀ i ∈ restored, i.control.isEnding = false := by
  obtain ⟨t, begun, said, ended, release, hmanager, hscope⟩ :=
    Manager.outermost hm hbody hfree wanted rollsBack
  refine ⟨t, begun, said, ended, release, hscope, fun o hopened => ?_⟩
  obtain ⟨hsaid, hended⟩ := hscope.ran (by rw [hm, hmanager]) (hbody t)
  have hhistory := hscope.history
  have hcall := hscope.ended_call
  have hcalls := hscope.release_calls
  rw [hopened] at hcall hcalls hhistory
  obtain ⟨ending, rfl, hending⟩ := Option.map_eq_some_iff.mp hcall
  obtain ⟨hn, hauto, hbefore⟩ := Store.told_of_history hlawful hsaid hhistory hfresh
  obtain ⟨restored, followed, htold, hrestored⟩ :=
    Store.told_of_end hlawful hended hending hcalls hauto hn
  exact ⟨ending, restored, followed, rfl, hbefore, htold, hrestored⟩

abbrev NotebookStore :=
  Store ((Notebook × List Control) × List Told) × List Exchange

def notebookDatabase : Database NotebookStore where
  settings := { metadata := metadata "3", codecs := ⟨[], []⟩, dialect := .sqlite, config := {},
                writer := ⟨.sqlite, {}⟩ }
  driver := (Store.driver Notebook.engine.refusing.recorded).traced
  manager := .threaded 0 (Store.driver Notebook.engine.refusing.recorded).traced none

def notebookWorld (refused : List Control) : World NotebookStore :=
  { store := ({ fresh := (({}, refused), []) }, []) }

def noted (_ : Transaction) : Session NotebookStore RowsAffected :=
  notebookDatabase.executeUpdate
    (.raw ⟨"INSERT INTO t (x) VALUES (?)", [.ofType .varchar (.some (.varchar "a"))]⟩)

def abandoned (t : Transaction) : Session NotebookStore RowsAffected := do
  let _ ← noted t
  throw (.plain "given up")

/-- A row is noted, and the commit is refused once. -/
def lockedRun : Except Error RowsAffected × World NotebookStore :=
  notebookDatabase.useTransaction noted (notebookWorld [.commit])

/-- A row is noted and given up, and the rollback is refused. -/
def abandonedRun : Except Error RowsAffected × World NotebookStore :=
  notebookDatabase.useTransaction abandoned (notebookWorld [.rollback])

theorem noted_inScope (t : Transaction) : InScope notebookDatabase.manager t [] (noted t) :=
  Database.executeUpdate_inScope _

theorem lockedRun_tells :
    ∃ before restored followed,
      (lockedRun.2.store.1.connection 0).told =
        before ++ ([⟨.commit, false⟩] ++ (restored ++ [⟨.commit, followed⟩])) ∧
      ∀ i ∈ restored, i.control.isEnding = false := by
  obtain ⟨t, begun, said, ended, release, hscope, htells⟩ :=
    useTransaction_tells (m := notebookDatabase.manager) (w := notebookWorld [.commit])
      Notebook.transactional.refusing rfl noted_inScope rfl rfl none (fun _ => true)
  have houtcome := hscope.outcome
  cases hscope.begins
  obtain ⟨ending, restored, followed, rfl, -, htold, hrestored⟩ :=
    htells ⟨0, some .serializable, true⟩ rfl
  have hfailed : ending.succeeded = false := by
    cases hending : ending.outcome with
    | error e => rw [Exchange.succeeded, hending]; rfl
    | ok _ =>
        have hsilent : (some ending).bind Exchange.error? = none := by
          rw [Option.bind_some, Exchange.error?, hending]
        rw [hsilent] at houtcome
        have hrefused : lockedRun.1 = .error (.plain "database is locked") := rfl
        have hsettled : lockedRun.1 = .ok ⟨1, []⟩ := houtcome
        cases hrefused.symm.trans hsettled
  rw [if_pos ?opened, hfailed] at htold
  case opened => rfl
  exact ⟨_, restored, followed, htold, hrestored⟩

/-- A scope whose end is refused leaves its rows behind for good, while it reports the failure of
the commit, or has chosen to roll back. -/
theorem refused_end_commits :
    (lockedRun.1 = .error (.plain "database is locked") ∧
      (lockedRun.2.store.1.connection 0).told =
        [⟨.begin, true⟩, ⟨.commit, false⟩, ⟨.commit, true⟩] ∧
      (lockedRun.2.store.1.connection 0).engine.1.1.rows = [.text "a"]) ∧
    abandonedRun.1 = .error (.plain "given up") ∧
      (abandonedRun.2.store.1.connection 0).told =
        [⟨.begin, true⟩, ⟨.rollback, false⟩, ⟨.commit, true⟩] ∧
      (abandonedRun.2.store.1.connection 0).engine.1.1.rows = [.text "a"] := by
  refine ⟨⟨rfl, ?_, ?_⟩, rfl, ?_, ?_⟩
  · decide +kernel
  · decide +kernel
  · decide +kernel
  · decide +kernel

end TypedSql.Sqlite
