import TypedSql.Proofs.Database.Preparing

namespace TypedSql

/-! Using a transaction again while its connection is in use.  Whatever is tried is refused before
it reaches the store, and neither the transaction nor its thread notices. -/

open Session

variable {σ α β : Type}

/-- Attempts to use a transaction: whatever takes its connection or ends it, by itself, in a
statement or a query that can be written, or in an inner scope; and anything behind it. -/
inductive Transaction.Attempt (m : Manager σ) (t : Transaction) : {α : Type} → Session σ α → Prop
  | useConnection {α : Type} (f : Nat → Session σ α) : Attempt m t (m.useConnection f)
  | withConnection {α : Type} (f : Nat → Session σ α) : Attempt m t (t.withConnection m.driver f)
  | commit : Attempt m t (t.commit m.driver)
  | rollback : Attempt m t (t.rollback m.driver)
  | update {db : Database σ} (hsource : db.manager = m) (c : CompiledSql) (generatedKeys : Bool) :
      Attempt m t (db.update c generatedKeys)
  | foldRows {α : Type} {db : Database σ} (hsource : db.manager = m) {statement : Statement}
      {c : CompiledSql} (hcompiled : db.settings.compile statement = .ok c) (init : α)
      (f : α → Row → Session σ α) : Attempt m t (db.foldRows statement init f)
  | useTransaction {α : Type} (isolation : Option Isolation) (rollsBack : Error → Bool)
      {body : Transaction → Session σ α} (hinner : Attempt m t (body t)) :
      Attempt m t (m.useTransaction isolation rollsBack body)
  | behind {α β : Type} {x : Session σ α} (hfirst : Attempt m t x) (f : α → Session σ β) :
      Attempt m t (x >>= f)

theorem Transaction.Attempt.executeUpdate {m : Manager σ} {t : Transaction} {db : Database σ}
    (hsource : db.manager = m) {statement : Statement} {c : CompiledSql}
    (hcompiled : db.settings.compile statement = .ok c) :
    t.Attempt m (db.executeUpdate statement) := by
  rw [Database.executeUpdate, Database.compile, hcompiled, conclude, Run.ofExcept_ok, pure_bind]
  exact .update hsource c false

/-- Code fails because the connection is in use, without a change but to the reports. -/
def Session.Refused (x : Session σ α) (w : World σ) : Prop :=
  ∃ logging, x w = (.error (.usage .connectionInUse), { w with logging })

theorem Session.Refused.bind {x : Session σ α} {w : World σ} (h : Session.Refused x w)
    (f : α → Session σ β) : Session.Refused (x >>= f) w := by
  obtain ⟨logging, hrun⟩ := h
  exact ⟨logging, Run.bind_error hrun⟩

theorem Database.refused_logStatement {c : CompiledSql} {x : Session σ α} {w : World σ}
    (h : ∀ logging, Session.Refused x { w with logging }) :
    Session.Refused (logStatement c >>= fun _ => x) w := by
  obtain ⟨logging, hlogged⟩ := logStatement_snd c w
  obtain ⟨logging', hrun⟩ := h logging
  have hran : logStatement c w = (.ok (), { w with logging }) :=
    Prod.ext (logStatement_fst c w) hlogged
  exact ⟨logging', (Run.bind_ok hran).trans hrun⟩

namespace Transaction

variable {m : Manager σ} {t : Transaction} {w : World σ}

theorem refused_useConnection (hbound : m.bound? w = some t) (hbusy : (w.state t).inUse)
    (f : Nat → Session σ α) (logging : Logging) :
    Session.Refused (m.useConnection f) { w with logging } := by
  have hcurrent : m.current? { w with logging } = (.ok (some t), { w with logging }) := by
    rw [m.current?_apply, ← hbound]
    cases m <;> rfl
  exact ⟨logging, (Manager.useConnection_of_current hcurrent f).trans
    (withConnection_of_inUse m.driver f hbusy)⟩

theorem Attempt.refused {x : Session σ α} (h : t.Attempt m x) (hbound : m.bound? w = some t)
    (hbusy : (w.state t).inUse) : Session.Refused x w := by
  have hcurrent : m.current? w = (.ok (some t), w) := by rw [m.current?_apply, hbound]
  induction h with
  | useConnection f => exact refused_useConnection hbound hbusy f w.logging
  | withConnection f => exact ⟨w.logging, withConnection_of_inUse m.driver f hbusy⟩
  | commit => exact ⟨w.logging, settle_of_inUse m.driver hbusy false⟩
  | rollback => exact ⟨w.logging, settle_of_inUse m.driver hbusy true⟩
  | update hsource c generatedKeys =>
      subst hsource
      exact Database.refused_logStatement fun logging =>
        (refused_useConnection hbound hbusy _ logging).bind _
  | foldRows hsource hcompiled init f =>
      subst hsource
      rw [Database.foldRows, Database.compile, hcompiled, conclude, Run.ofExcept_ok, pure_bind]
      exact Database.refused_logStatement fun logging =>
        (refused_useConnection hbound hbusy _ logging).bind _
  | useTransaction isolation rollsBack hinner ih =>
      rw [Session.Refused, Manager.useTransaction_of_current hcurrent]
      exact ih
  | behind hfirst f ih => exact ih.bind f

/-- However many attempts there are, each is refused, and all that they leave are reports. -/
theorem refused_attempts {xs : List (Session σ α)} (h : ∀ x ∈ xs, t.Attempt m x)
    (hbound : m.bound? w = some t) (hbusy : (w.state t).inUse) :
    ∃ logging, xs.mapM Run.attempt w =
      (.ok (xs.map fun _ => .error (.usage .connectionInUse)), { w with logging }) := by
  induction xs generalizing w with
  | nil => exact ⟨w.logging, rfl⟩
  | cons x xs ih =>
      obtain ⟨hfirst, hrest⟩ := List.forall_mem_cons.mp h
      obtain ⟨logging, hrun⟩ := hfirst.refused hbound hbusy
      have hbound' : m.bound? { w with logging } = some t := by
        rw [← hbound]
        cases m <;> rfl
      obtain ⟨logging', hran⟩ := ih hrest hbound' hbusy
      refine ⟨logging', ?_⟩
      rw [List.mapM_cons, Run.bind_ok (Run.attempt_apply x w), hrun]
      simp only [Run.bind_ok hran, List.map_cons, Run.pure_apply]

end Transaction

namespace Transaction

/-- Code inside of a scope that may try anything with the transaction again wherever it has a
connection at hand, and may go on when it has been refused.  What else it does is its own
business. -/
inductive Reenters (m : Manager (σ × List Exchange)) (t : Transaction) :
    {α : Type} → List Nat → Session (σ × List Exchange) α → Prop
  | aside {α : Type} {held : List Nat} {x : Session (σ × List Exchange) α}
      (hspares : ∀ w, t.id < w.transactions.length → t.Spared [] w (x w).2) : Reenters m t held x
  | call {held : List Nat} {connection : Nat} (c : Call) (hisHeld : connection ∈ held)
      (hisUse : c.isUse connection) : Reenters m t held (Session.call m.driver c)
  | again {α : Type} {connection : Nat} {held : List Nat} {x : Session (σ × List Exchange) α}
      (hattempt : t.Attempt m x) (hisHeld : connection ∈ held) : Reenters m t held x
  | bind {α β : Type} {held : List Nat} {x : Session (σ × List Exchange) α}
      {f : α → Session (σ × List Exchange) β} (hfirst : Reenters m t held x)
      (hrest : ∀ a, x.Gives a → Reenters m t held (f a)) : Reenters m t held (x >>= f)
  | attempt {α : Type} {held : List Nat} {x : Session (σ × List Exchange) α}
      (hinner : Reenters m t held x) : Reenters m t held x.attempt
  | useConnection {α : Type} {held : List Nat} {f : Nat → Session (σ × List Exchange) α}
      (hinner : ∀ connection, Reenters m t (connection :: held) (f connection)) :
      Reenters m t held (m.useConnection f)
  | withConnection {α : Type} {held : List Nat} {f : Nat → Session (σ × List Exchange) α}
      (hinner : ∀ connection, Reenters m t (connection :: held) (f connection)) :
      Reenters m t held (t.withConnection m.driver f)
  | useTransaction {α : Type} {held : List Nat} (isolation : Option Isolation)
      (rollsBack : Error → Bool) {body : Transaction → Session (σ × List Exchange) α}
      (hinner : Reenters m t held (body t)) :
      Reenters m t held (m.useTransaction isolation rollsBack body)

variable {m : Manager (σ × List Exchange)} {t : Transaction} {held : List Nat}
  {w w' w'' : World (σ × List Exchange)} {o : OpenConnection}

namespace Spared

theorem refl (w : World (σ × List Exchange)) : t.Spared [] w w :=
  .of_exchanged (.refl w)

theorem trans {es es' : List Exchange} (hfirst : t.Spared es w w') (hsecond : t.Spared es' w' w'') :
    t.Spared (es ++ es') w w'' where
  trace := by rw [hsecond.trace, hfirst.trace, List.append_assoc]
  thread := hsecond.thread.trans hfirst.thread
  bound := hsecond.bound.trans hfirst.bound
  state := hsecond.state.trans hfirst.state
  inRange := Nat.le_trans hfirst.inRange hsecond.inRange

theorem reported (w : World (σ × List Exchange)) (logging : Logging) :
    t.Spared [] w { w with logging } :=
  ⟨(List.append_nil _).symm, rfl, rfl, rfl, Nat.le_refl _⟩

end Spared

namespace Reenters

theorem mono {held' : List Nat} {x : Session (σ × List Exchange) α} (h : t.Reenters m held x)
    (hsubset : held ⊆ held') : t.Reenters m held' x := by
  induction h generalizing held' with
  | aside hspares => exact .aside hspares
  | call c hisHeld hisUse => exact .call c (hsubset hisHeld) hisUse
  | again hattempt hisHeld => exact .again hattempt (hsubset hisHeld)
  | bind hfirst hrest ihFirst ihRest =>
      exact .bind (ihFirst hsubset) fun a ha => ihRest a ha hsubset
  | attempt hinner ih => exact .attempt (ih hsubset)
  | useConnection hinner ih =>
      exact .useConnection fun connection =>
        ih connection (List.cons_subset_cons connection hsubset)
  | withConnection hinner ih =>
      exact .withConnection fun connection =>
        ih connection (List.cons_subset_cons connection hsubset)
  | useTransaction isolation rollsBack hinner ih =>
      exact .useTransaction isolation rollsBack (ih hsubset)

theorem hosts : m.Hosts fun _ held x => t.Reenters m held x where
  pure _ := .aside fun w _ => .refl w
  throw _ := .aside fun w _ => .refl w
  bind := .bind
  attempt := .attempt
  report _ := .aside fun w _ => .reported w _
  call c hisHeld hc hisStatement := .call c hisHeld (Call.isUse_of_isStatement hisStatement hc)
  useConnection := .useConnection
  mono := mono

end Reenters

/-- All that has been said is said to one connection, and the transaction is as it was. -/
def Used (t : Transaction) (connection : Nat) (w w' : World (σ × List Exchange)) : Prop :=
  ∃ uses, t.Spared uses w w' ∧ ∀ x ∈ uses, x.call.isUse connection

theorem Spared.used (h : t.Spared [] w w') (connection : Nat) : t.Used connection w w' :=
  ⟨[], h, List.forall_mem_nil _⟩

theorem Used.trans {connection : Nat} (hfirst : t.Used connection w w')
    (hsecond : t.Used connection w' w'') : t.Used connection w w'' := by
  obtain ⟨uses, hspared, hareUses⟩ := hfirst
  obtain ⟨uses', hspared', hareUses'⟩ := hsecond
  exact ⟨uses ++ uses', hspared.trans hspared', List.forall_mem_append.mpr ⟨hareUses, hareUses'⟩⟩

/-- The transaction of the thread has its connection open, and what code has at hand is that
connection, which is in use then. -/
structure HasOpen {τ : Type} (t : Transaction) (o : OpenConnection) (held : List Nat)
    (w : World τ) : Prop where
  bound : w.current? t.manager = some t
  inRange : t.id < w.transactions.length
  opened : (w.state t).opened = some o
  lent : ∀ connection ∈ held, connection = o.connection ∧ (w.state t).inUse

namespace HasOpen

theorem used (h : t.HasOpen o held w) (hused : t.Used o.connection w w') : t.HasOpen o held w' := by
  obtain ⟨uses, hspared, -⟩ := hused
  refine ⟨?_, Nat.lt_of_lt_of_le h.inRange hspared.inRange, ?_, ?_⟩
  · rw [hspared.bound, h.bound]
  · rw [hspared.state, h.opened]
  · rw [hspared.state]
    exact h.lent

theorem entered (h : t.HasOpen o held w) (hidle : (w.state t).inUse = false) :
    t.HasOpen o (o.connection :: held) (w.setState t ⟨some o, true⟩) := by
  have hstate : (w.setState t ⟨some o, true⟩).state t = ⟨some o, true⟩ :=
    World.state_setState h.inRange
  refine ⟨h.bound, ?_, ?_, ?_⟩
  · rw [World.length_setState]
    exact h.inRange
  · rw [hstate]
  · rw [hstate]
    refine List.forall_mem_cons.mpr ⟨⟨rfl, rfl⟩, fun connection hisHeld => ?_⟩
    have hbusy := (h.lent connection hisHeld).2
    rw [hidle] at hbusy
    cases hbusy

theorem withConnection (h : t.HasOpen o held w) (d : Driver σ)
    {f : Nat → Session (σ × List Exchange) α}
    (hinner : ∀ v, t.HasOpen o (o.connection :: held) v →
      t.Used o.connection v (f o.connection v).2) :
    t.Used o.connection w (t.withConnection d.traced f w).2 := by
  cases hbusy : (w.state t).inUse with
  | true =>
      rw [withConnection_of_inUse _ _ hbusy]
      exact (Spared.refl w).used _
  | false =>
      have hidle : w.state t = ⟨some o, false⟩ := by rw [← h.opened, ← hbusy]
      have hentered := h.entered hbusy
      obtain ⟨uses, hspared, hareUses⟩ := hinner _ hentered
      have hkept := hspared.state
      rw [World.state_setState h.inRange] at hkept
      have hinRange := Nat.lt_of_lt_of_le hentered.inRange hspared.inRange
      rw [withConnection_of_opened _ _ hidle]
      simp only [onConnection, hkept]
      refine ⟨uses, ⟨hspared.trace, hspared.thread, hspared.bound, ?_, ?_⟩, hareUses⟩
      · rw [World.state_setState hinRange, hidle]
      · rw [World.length_setState]
        simpa using hspared.inRange

end HasOpen

/-- While a connection is open for the transaction, such code says everything to that connection,
and leaves the transaction and the thread as they are. -/
theorem Reenters.used {d : Driver σ} {isolation : Option Isolation}
    (hm : m = .threaded t.manager d.traced isolation) {x : Session (σ × List Exchange) α}
    (h : t.Reenters m held x) (hhasOpen : t.HasOpen o held w) :
    t.Used o.connection w (x w).2 := by
  have hdriver : m.driver = d.traced := by rw [hm, Manager.driver]
  have hcurrent {held : List Nat} {w : World (σ × List Exchange)} (hhasOpen : t.HasOpen o held w) :
      m.current? w = (.ok (some t), w) := by
    rw [hm, Manager.threaded_current?, hhasOpen.bound]
  induction h generalizing w with
  | aside hspares => exact (hspares w hhasOpen.inRange).used _
  | @call _ connection c hisHeld hisUse =>
      obtain ⟨es, hmade, rfl⟩ := Session.makes_call d c
        (P := fun outcome es => es = [⟨c, outcome⟩]) (fun _ => rfl) w
      rw [hdriver, ← (hhasOpen.lent connection hisHeld).1]
      exact ⟨_, .of_exchanged hmade, by simpa using hisUse⟩
  | @again _ connection _ x hattempt hisHeld =>
      have hbound : m.bound? w = some t := by rw [hm]; exact hhasOpen.bound
      obtain ⟨logging, hrun⟩ := hattempt.refused hbound (hhasOpen.lent connection hisHeld).2
      rw [hrun]
      exact (Spared.reported w logging).used _
  | @bind _ _ _ x f hfirst hrest ihFirst ihRest =>
      have hused := ihFirst hhasOpen
      rw [Run.bind_apply]
      cases hrun : x w with
      | mk result v =>
          rw [hrun] at hused
          cases result with
          | error e => exact hused
          | ok a => exact hused.trans (ihRest a ⟨w, v, hrun⟩ (hhasOpen.used hused))
  | attempt hinner ih => exact ih hhasOpen
  | useConnection hinner ih =>
      rw [Manager.useConnection_of_current (hcurrent hhasOpen), hdriver]
      exact hhasOpen.withConnection d fun v hentered => ih o.connection hentered
  | withConnection hinner ih =>
      rw [hdriver]
      exact hhasOpen.withConnection d fun v hentered => ih o.connection hentered
  | useTransaction isolation rollsBack hinner ih =>
      rw [Manager.useTransaction_of_current (hcurrent hhasOpen)]
      exact ih hhasOpen

theorem Running.advances_of_spared {past : List Exchange} (hrunning : t.Running past w)
    (hspared : t.Spared [] w w') : t.Advances past w w' where
  running := hrunning.spared hspared fun before hhistory => by rwa [List.append_nil]
  thread := hspared.thread
  inUse := by rw [hspared.state]
  kept _ := hspared.state

/-- The scope goes on, whatever such code does and whatever it is refused. -/
theorem Reenters.advances {d : Driver σ} {isolation : Option Isolation}
    (hm : m = .threaded t.manager d.traced isolation) {x : Session (σ × List Exchange) α}
    (h : t.Reenters m held x) {past : List Exchange} (hrunning : t.Running past w)
    (hheld : t.Holds held w) : t.Advances past w (x w).2 := by
  have hdriver : m.driver = d.traced := by rw [hm, Manager.driver]
  have hcurrent {w : World (σ × List Exchange)} (hrunning : t.Running past w) :
      m.current? w = (.ok (some t), w) := by
    rw [hm, Manager.threaded_current?, hrunning.bound]
  induction h generalizing w with
  | aside hspares => exact hrunning.advances_of_spared (hspares w hrunning.inRange)
  | call c hisHeld hisUse =>
      rw [hdriver]
      exact advances_call d hrunning hheld hisHeld hisUse
  | @again _ connection _ x hattempt hisHeld =>
      obtain ⟨o, -, hbusy⟩ := hheld connection hisHeld
      have hbound : m.bound? w = some t := by rw [hm]; exact hrunning.bound
      obtain ⟨logging, hrun⟩ := hattempt.refused hbound (by rw [hbusy])
      rw [hrun]
      exact hrunning.advances_of_spared (.reported w logging)
  | bind hfirst hrest ihFirst ihRest =>
      exact advances_bind (ihFirst hrunning hheld) fun a hgives _ hadvances =>
        ihRest a hgives hadvances.running (hheld.advances hadvances)
  | attempt hinner ih => exact ih hrunning hheld
  | useConnection hinner ih =>
      rw [Manager.useConnection_of_current (hcurrent hrunning), hdriver]
      exact advances_withConnection d hrunning fun hidle o v hrunning' hstate =>
        ih o.connection hrunning' (hheld.entered hidle hstate)
  | withConnection hinner ih =>
      rw [hdriver]
      exact advances_withConnection d hrunning fun hidle o v hrunning' hstate =>
        ih o.connection hrunning' (hheld.entered hidle hstate)
  | useTransaction isolation rollsBack hinner ih =>
      rw [Manager.useTransaction_of_current (hcurrent hrunning)]
      exact ih hrunning hheld

end Transaction

namespace Manager

open Transaction

variable {m : Manager (σ × List Exchange)} {d : Driver σ} {id : Nat} {isolation : Option Isolation}

/-- A transaction is used by one thing at a time.  While its connection is in use, each of any
number of attempts to use it again is refused, and nothing is left of them but reports.  Code that
makes such attempts says everything to the connection that is open and leaves the transaction and
its thread as they were, so that the next use finds the same connection; and the scope of the
transaction ends it once, as if nothing had been tried. -/
theorem refuses_reentry (hm : m = .threaded id d.traced isolation) :
    (∀ {α : Type} {t : Transaction} {w : World (σ × List Exchange)}
        {xs : List (Session (σ × List Exchange) α)},
      w.current? id = some t → (w.state t).inUse → (∀ x ∈ xs, t.Attempt m x) →
        ∃ logging, xs.mapM Run.attempt w =
          (.ok (xs.map fun _ => .error (.usage .connectionInUse)), { w with logging })) ∧
    (∀ {α : Type} {t : Transaction} {o : OpenConnection} {held : List Nat}
        {w : World (σ × List Exchange)} {x : Session (σ × List Exchange) α},
      t.manager = id → t.HasOpen o held w → t.Reenters m held x →
        t.Used o.connection w (x w).2) ∧
    ∀ {α : Type} {w : World (σ × List Exchange)}
        {body : Transaction → Session (σ × List Exchange) α},
      w.current? id = none → (∀ t : Transaction, t.Reenters m [] (body t)) →
        ∀ (wanted : Option Isolation) (rollsBack : Error → Bool), ∃ t begun opened ending es,
          m.begin (wanted.or isolation) w = (.ok t, begun) ∧
          t.Lifetime (rolledBackBy rollsBack (body t begun).1) opened ending es ∧
          es.filter (fun x => x.call.isEnding) = ending.toList ∧
          (m.useTransaction wanted rollsBack body w).2.trace = w.trace ++ es ∧
          (m.useTransaction wanted rollsBack body w).2.current? id = none := by
  refine ⟨fun hbound hbusy hattempts => ?_, fun hmanager hhasOpen hreenters => ?_,
    fun {α w body} hfree hbody wanted rollsBack => ?_⟩
  · exact refused_attempts hattempts (by rw [hm]; exact hbound) hbusy
  · exact hreenters.used (by rw [hm, hmanager]) hhasOpen
  · obtain ⟨t, begun, said, ended, release, hmanager, hscope⟩ :=
      outermost_of_advances hm (fun t _ hmanager hrunning =>
        (hbody t).advances (by rw [hm, hmanager]) hrunning
          (fun _ hisHeld => absurd hisHeld List.not_mem_nil)) hfree wanted rollsBack
    have hlifetime := hscope.history.lifetime hscope.ended_call hscope.release_calls
    refine ⟨t, begun, _, ended, _, ?_, hlifetime, hlifetime.filter_isEnding, hscope.trace, ?_⟩
    · rw [← hscope.begins, hm, defaultIsolation]
    · rw [← hmanager]
      exact hscope.freed

end Manager

def emptying : Statement := .raw ⟨"DELETE FROM a", []⟩

/-- A query that tries to end the transaction and to change something while it reads, and a change
behind it. -/
def insistentQuery (t : Transaction) : Session (ScriptedStore × List Exchange) RowsAffected := do
  let _ ← scriptedDatabase.queryWith (.raw ⟨"SELECT id FROM a", []⟩) fun _ => do
    let _ ← (t.commit scriptedDatabase.manager.driver).attempt
    let _ ← (scriptedDatabase.executeUpdate emptying).attempt
  scriptedDatabase.executeUpdate emptying

theorem reenters_insistentQuery (t : Transaction) :
    t.Reenters scriptedDatabase.manager [] (insistentQuery t) := by
  have hhosts := Transaction.Reenters.hosts (m := scriptedDatabase.manager) (t := t)
  refine .bind (hhosts.queryWith_reading _ fun connection row => ?_) fun _ _ =>
    hhosts.executeUpdate emptying
  have hisHeld : connection ∈ [connection] := List.mem_singleton_self connection
  exact .bind (.attempt (.again .commit hisHeld)) fun _ _ =>
    .bind (.attempt (.again (.executeUpdate rfl rfl) hisHeld)) fun _ _ => hhosts.pure _

def nestedEmptying : Session (ScriptedStore × List Exchange) Unit :=
  scriptedDatabase.useTransaction fun _ => do
    let _ ← scriptedDatabase.executeUpdate emptying

def insistentRun : Except Error RowsAffected × World (ScriptedStore × List Exchange) :=
  scriptedDatabase.useTransaction insistentQuery (answering [[seven]])

/-- A transaction of which the connection is in use. -/
def lentTransaction : Transaction := ⟨0, 0, none⟩

def lendingWorld : World (ScriptedStore × List Exchange) :=
  { store := ({}, [])
    bound := [((0, 0), lentTransaction)]
    transactions := [⟨some ⟨1, none, true⟩, true⟩] }

theorem insistentRun_ends_once :
    (∃ logging,
      [lentTransaction.rollback scriptedDatabase.manager.driver, nestedEmptying].mapM Run.attempt
          lendingWorld =
        (.ok [.error (.usage .connectionInUse), .error (.usage .connectionInUse)],
          { lendingWorld with logging })) ∧
    insistentRun.1 = .ok ⟨1, []⟩ ∧ insistentRun.2.current? 0 = none ∧
      ∃ (t : Transaction) (opened : Option OpenConnection) (ending : Exchange),
        t.Lifetime false opened (some ending) insistentRun.2.trace ∧ ending.call = .commit 1 := by
  obtain ⟨hrefuses, -, hends⟩ := Manager.refuses_reentry (m := scriptedDatabase.manager)
    (d := ScriptedStore.driver []) rfl
  refine ⟨?_, rfl, rfl, ?_⟩
  · refine hrefuses (t := lentTransaction) rfl rfl ?_
    have hnested : lentTransaction.Attempt scriptedDatabase.manager nestedEmptying :=
      .useTransaction none _ (.behind (.executeUpdate rfl rfl) _)
    simp only [List.forall_mem_cons, List.not_mem_nil, false_implies, implies_true, and_true]
    exact ⟨.rollback, hnested⟩
  · obtain ⟨t, begun, opened, ending, es, hbegin, hlifetime, hending, htrace, -⟩ :=
      hends (w := answering [[seven]]) rfl reenters_insistentQuery none fun _ => true
    cases hbegin
    have hall : insistentRun.2.trace = es := htrace
    rw [← hall] at hending hlifetime
    have hcalls : (insistentRun.2.trace.filter fun x => x.call.isEnding).map Exchange.call =
        [.commit 1] := rfl
    rw [hending] at hcalls
    cases ending with
    | none => cases hcalls
    | some ending => exact ⟨_, opened, ending, hlifetime, List.singleton_inj.mp hcalls⟩

end TypedSql
