import TypedSql.Proofs.Session.Closing

namespace TypedSql

/-! How far statements reach.  While a transaction is bound they stay on its connection, else on
connections that are opened for them, and neither touches any other transaction. -/

variable {σ α : Type}

/-- Code that runs statements over the connections of a manager.  The connections that the code has
at hand are listed; it does not end anything on them itself. -/
inductive Uses (m : Manager σ) : {α : Type} → List Nat → Session σ α → Prop
  | pure {α : Type} {held : List Nat} (a : α) : Uses m held (pure a)
  | throw {α : Type} {held : List Nat} (e : Error) : Uses m held (throw e : Session σ α)
  | bind {α β : Type} {held : List Nat} {x : Session σ α} {f : α → Session σ β}
      (hfirst : Uses m held x) (hrest : ∀ a, x.Gives a → Uses m held (f a)) : Uses m held (x >>= f)
  | attempt {α : Type} {held : List Nat} {x : Session σ α} (hinner : Uses m held x) :
      Uses m held x.attempt
  | report {held : List Nat} (f : Logging → Logging) :
      Uses m held (modify fun w => { w with logging := f w.logging })
  | call {held : List Nat} {connection : Nat} (c : Call) (hisHeld : connection ∈ held)
      (hisUse : c.isUse connection) : Uses m held (Session.call m.driver c)
  | useConnection {α : Type} {held : List Nat} {f : Nat → Session σ α}
      (hinner : ∀ connection, Uses m (connection :: held) (f connection)) :
      Uses m held (m.useConnection f)

namespace Uses

variable {m : Manager σ} {held : List Nat}

theorem mono {held' : List Nat} {x : Session σ α} (h : Uses m held x) (hsubset : held ⊆ held') :
    Uses m held' x := by
  induction h generalizing held' with
  | pure a => exact .pure a
  | throw e => exact .throw e
  | bind hfirst hrest ihFirst ihRest =>
      exact .bind (ihFirst hsubset) fun a ha => ihRest a ha hsubset
  | attempt hinner ih => exact .attempt (ih hsubset)
  | report f => exact .report f
  | call c hisHeld hisUse => exact .call c (hsubset hisHeld) hisUse
  | useConnection hinner ih =>
      exact .useConnection fun connection =>
        ih connection (List.cons_subset_cons connection hsubset)

/-- Every operation of a database is such code. -/
theorem hosts : m.Hosts fun _ held x => Uses m held x where
  pure := .pure
  throw := .throw
  bind := .bind
  attempt := .attempt
  report := .report
  call c hisHeld hc hisStatement := .call c hisHeld (Call.isUse_of_isStatement hisStatement hc)
  useConnection := .useConnection
  mono := mono

end Uses

namespace Call

theorem connection?_of_isUse {c : Call} {connection : Nat} (h : c.isUse connection) :
    c.connection? = some connection := by
  simp only [isUse, Bool.and_eq_true, decide_eq_true_eq] at h
  exact h.1

theorem connection?_of_isSetting {c : Call} {connection : Nat} (h : c.isSetting connection) :
    c.connection? = some connection := by
  have hborrowed := isBorrowed_of_isSetting h
  simp only [isBorrowed, Bool.and_eq_true, decide_eq_true_eq] at hborrowed
  exact hborrowed.1

theorem connection?_ending (rolledBack : Bool) (connection : Nat) :
    (ending rolledBack connection).connection? = some connection := by
  cases rolledBack with
  | true => rfl
  | false => rfl

end Call

namespace Exchange

/-- Apart from connections that are opened on the way, no other connections than these are
reached. -/
def Confined (own : List Nat) (es : List Exchange) : Prop :=
  ∀ x ∈ es, ∀ connection, x.call.connection? = some connection →
    connection ∈ own ∨ connection ∈ es.filterMap opened?

variable {own own' : List Nat} {es es' : List Exchange} {connection : Nat}

theorem confined_nil (own : List Nat) : Confined own [] := by
  simp [Confined]

theorem confined_of_reaches
    (h : ∀ x ∈ es, ∃ connection ∈ own, x.call.connection? = some connection) :
    Confined own es := by
  intro x hx k hk
  obtain ⟨connection, hown, hcall⟩ := h x hx
  rw [hcall] at hk
  obtain rfl := Option.some.inj hk
  exact .inl hown

theorem confined_of_connection? (hown : connection ∈ own)
    (h : ∀ x ∈ es, x.call.connection? = some connection) : Confined own es :=
  confined_of_reaches fun x hx => ⟨connection, hown, h x hx⟩

theorem Confined.append (h : Confined own es) (h' : Confined own' es')
    (hown : ∀ k ∈ own', k ∈ own ∨ k ∈ es.filterMap opened?) : Confined own (es ++ es') := by
  intro x hx k hk
  rw [List.filterMap_append, List.mem_append]
  rcases List.mem_append.mp hx with hx | hx
  · exact (h x hx k hk).imp_right .inl
  · rcases h' x hx k hk with hmem | hmem
    · exact (hown k hmem).imp_right .inl
    · exact .inr (.inr hmem)

theorem Confined.opened (h : Confined (connection :: own) es) :
    Confined own (⟨.connect, .ok connection⟩ :: es) := by
  intro x hx k hk
  rcases List.mem_cons.mp hx with rfl | hx
  · cases hk
  · rcases h x hx k hk with hmem | hmem
    · rcases List.mem_cons.mp hmem with rfl | hmem
      · exact .inr List.mem_cons_self
      · exact .inl hmem
    · exact .inr (List.mem_cons_of_mem _ hmem)

theorem confined_refused (own : List Nat) (e : Error) : Confined own [⟨.connect, .error e⟩] := by
  intro x hx k hk
  rw [List.mem_singleton.mp hx] at hk
  cases hk

theorem confined_of_failedOpening (own : List Nat) (h : FailedOpening es) : Confined own es := by
  rcases h with ⟨e, rfl⟩ | ⟨connection, setup, closing, rfl, hsetup, hclosing⟩
  · exact confined_refused own e
  · refine Confined.opened (confined_of_connection? List.mem_cons_self fun x hx => ?_)
    rcases List.mem_append.mp hx with hx | hx
    · exact Call.connection?_of_isSetting (isSetting_of_interruptedSetup hsetup x hx)
    · rw [List.mem_singleton.mp hx, hclosing]
      rfl

theorem confined_opening (own : List Nat) (t : Transaction) (o : OpenConnection) :
    Confined own (t.opening o) :=
  Confined.opened (confined_of_connection? List.mem_cons_self fun x hx =>
    Call.connection?_of_isSetting (isSetting_of_settings x hx))

end Exchange

open Exchange Session World

theorem Manager.bound?_of_exchanged {m : Manager (σ × List Exchange)} {es : List Exchange}
    {w w' : World (σ × List Exchange)} (hmade : w.Exchanged es w') : m.bound? w' = m.bound? w := by
  cases m with
  | threaded id d isolation => exact hmade.current? id
  | external d => rfl

theorem Uses.confined {m : Manager (σ × List Exchange)} {d : Driver σ} {held : List Nat}
    {x : Session (σ × List Exchange) α} (hdriver : m.driver = d.traced) (h : Uses m held x)
    {w : World (σ × List Exchange)} (hfree : m.bound? w = none) :
    ∃ es, w.Exchanged es (x w).2 ∧ Confined held es := by
  induction h generalizing w with
  | pure a => exact ⟨[], .refl w, confined_nil _⟩
  | throw e => exact ⟨[], .refl w, confined_nil _⟩
  | report f => exact ⟨[], ⟨(List.append_nil _).symm, rfl, rfl, rfl⟩, confined_nil _⟩
  | attempt hinner ih => exact ih hfree
  | @bind _ _ _ x f hfirst hrest ihFirst ihRest =>
      obtain ⟨es, hmade, hconfined⟩ := ihFirst hfree
      rw [Run.bind_apply]
      cases hrun : x w with
      | mk result w' =>
          rw [hrun] at hmade
          cases result with
          | error e => exact ⟨es, hmade, hconfined⟩
          | ok a =>
              obtain ⟨es', hmade', hconfined'⟩ := ihRest a ⟨w, w', hrun⟩
                ((Manager.bound?_of_exchanged hmade).trans hfree)
              exact ⟨es ++ es', hmade.trans hmade', hconfined.append hconfined' fun k hk => .inl hk⟩
  | @call _ connection c hisHeld hisUse =>
      obtain ⟨es, hmade, rfl⟩ := makes_call d c (P := fun outcome es => es = [⟨c, outcome⟩])
        (fun _ => rfl) w
      rw [hdriver]
      refine ⟨_, hmade, confined_of_connection? hisHeld fun x hx => ?_⟩
      rw [List.mem_singleton.mp hx]
      exact Call.connection?_of_isUse hisUse
  | @useConnection _ held f hinner ih =>
      rw [Manager.useConnection_of_free hfree, hdriver]
      obtain ⟨e, w', hmade, hrun⟩ | ⟨connection, v, closing, w', hopening, hmade, hclosing, hrun⟩ :=
        onStandalone_cases d .transaction "Could not close the connection" f w
      · rw [hrun]
        exact ⟨_, hmade, confined_refused _ e⟩
      · rw [hrun]
        obtain ⟨es, hused, hconfined⟩ := ih connection
          ((Manager.bound?_of_exchanged hopening).trans hfree)
        have hcloses : Confined (connection :: held) [closing] :=
          confined_of_connection? List.mem_cons_self fun x hx => by
            rw [List.mem_singleton.mp hx, hclosing]
            rfl
        exact ⟨_, hopening.trans (hused.trans hmade),
          (hconfined.append hcloses fun k hk => .inl hk).opened⟩

namespace Transaction

def connections (t : Transaction) (w : World σ) : List Nat :=
  ((w.state t).opened.map OpenConnection.connection).toList

theorem mem_connections {t : Transaction} {w : World σ} {o : OpenConnection}
    (h : (w.state t).opened = some o) : o.connection ∈ t.connections w := by
  simp [connections, h]

/-- What statements make of the world that run while the transaction is bound.  Nothing changes but
that the transaction may have got its connection, and the statements are all said to that one. -/
structure Serves (t : Transaction) (w : World (σ × List Exchange)) (es : List Exchange)
    (w' : World (σ × List Exchange)) : Prop where
  trace : w'.trace = w.trace ++ es
  thread : w'.thread = w.thread
  bound : w'.bound = w.bound
  length : w'.transactions.length = w.transactions.length
  others : ∀ t' : Transaction, t.id ≠ t'.id → w'.state t' = w.state t'
  inUse : (w'.state t).inUse = (w.state t).inUse
  kept : (w.state t).inUse → w'.state t = w.state t
  stays : ∀ o, (w.state t).opened = some o → (w'.state t).opened = some o
  opens : ∀ k ∈ t.connections w', k ∈ t.connections w ∨ k ∈ es.filterMap opened?
  confined : Confined (t.connections w) es
  statements : ∀ x ∈ es, x.call.isStatement →
    ∃ k ∈ t.connections w', x.call.connection? = some k

namespace Serves

variable {t : Transaction} {w w' w'' : World (σ × List Exchange)} {es es' : List Exchange}

theorem of_exchanged (hmade : w.Exchanged es w') (hconfined : Confined (t.connections w) es)
    (hstatements : ∀ x ∈ es, x.call.isStatement →
      ∃ k ∈ t.connections w, x.call.connection? = some k) : t.Serves w es w' := by
  have hsame := hmade.state t
  refine ⟨hmade.trace, hmade.thread, hmade.bound, by rw [hmade.transactions],
    fun t' _ => hmade.state t', by rw [hsame], fun _ => hsame,
    fun o h => by rw [hsame, h], ?_, hconfined, ?_⟩
  · intro k hk
    rw [connections, hsame] at hk
    exact .inl hk
  · rw [connections, hsame]
    exact hstatements

theorem refl (t : Transaction) (w : World (σ × List Exchange)) : t.Serves w [] w :=
  of_exchanged (.refl w) (confined_nil _) (by simp)

theorem subset (h : t.Serves w es w') : t.connections w ⊆ t.connections w' := by
  intro k hk
  simp only [connections, Option.mem_toList, Option.map_eq_some_iff] at hk
  obtain ⟨o, hopened, rfl⟩ := hk
  exact mem_connections (h.stays o hopened)

theorem trans (hfirst : t.Serves w es w') (hsecond : t.Serves w' es' w'') :
    t.Serves w (es ++ es') w'' where
  trace := by rw [hsecond.trace, hfirst.trace, List.append_assoc]
  thread := hsecond.thread.trans hfirst.thread
  bound := hsecond.bound.trans hfirst.bound
  length := hsecond.length.trans hfirst.length
  others t' hother := (hsecond.others t' hother).trans (hfirst.others t' hother)
  inUse := hsecond.inUse.trans hfirst.inUse
  kept h := by rw [hsecond.kept (by rw [hfirst.inUse]; exact h), hfirst.kept h]
  stays o h := hsecond.stays o (hfirst.stays o h)
  opens k hk := by
    rw [List.filterMap_append, List.mem_append]
    rcases hsecond.opens k hk with hk | hk
    · exact (hfirst.opens k hk).imp_right .inl
    · exact .inr (.inr hk)
  confined := hfirst.confined.append hsecond.confined hfirst.opens
  statements x hx hstatement := by
    rcases List.mem_append.mp hx with hx | hx
    · obtain ⟨k, hk, hcall⟩ := hfirst.statements x hx hstatement
      exact ⟨k, hsecond.subset hk, hcall⟩
    · exact hsecond.statements x hx hstatement

end Serves

theorem not_isStatement_of_isUpkeep {es : List Exchange} (h : ∀ x ∈ es, x.call.isUpkeep)
    {x : Exchange} (hx : x ∈ es) : ¬x.call.isStatement := by
  rw [Call.isStatement_of_isUpkeep (h x hx)]
  exact Bool.false_ne_true

section

variable {t : Transaction} {w w' : World (σ × List Exchange)}

/-- The connection is entered and left again, once it is there. -/
theorem serves_onConnection {o : OpenConnection} {f : Nat → Session (σ × List Exchange) α}
    (hinRange : t.id < w.transactions.length) (hstate : w.state t = ⟨some o, false⟩)
    (hinner : ∀ v : World (σ × List Exchange), v.bound = w.bound → v.thread = w.thread →
      t.id < v.transactions.length → v.state t = ⟨some o, true⟩ →
      ∃ es, t.Serves v es (f o.connection v).2) :
    ∃ es, t.Serves w es (t.onConnection o f w).2 := by
  have hentered := state_setState (s := ⟨some o, true⟩) hinRange
  obtain ⟨es, hinside⟩ := hinner (w.setState t ⟨some o, true⟩) rfl rfl
    (by rw [length_setState]; exact hinRange) hentered
  have hkept := hinside.kept (by rw [hentered])
  rw [hentered] at hkept
  have hleft : (t.onConnection o f w).2.state t = ⟨some o, false⟩ := by
    simp only [onConnection, hkept]
    exact state_setState (by rw [hinside.length, length_setState]; exact hinRange)
  have hsame : t.connections (t.onConnection o f w).2 = [o.connection] := by
    rw [connections, hleft]
    rfl
  have hbefore : t.connections w = [o.connection] := by
    rw [connections, hstate]
    rfl
  have hduring : t.connections (w.setState t ⟨some o, true⟩) = [o.connection] := by
    rw [connections, hentered]
    rfl
  have hafter :
      t.connections (f o.connection (w.setState t ⟨some o, true⟩)).2 = [o.connection] := by
    rw [connections, hkept]
    rfl
  refine ⟨es, hinside.trace, hinside.thread, hinside.bound, ?_, ?_,
    by rw [hleft, hstate], ?_, ?_, ?_, ?_, ?_⟩
  · rw [onConnection, length_setState, hinside.length, length_setState]
  · intro t' hother
    rw [onConnection, state_setState_of_ne hother, hinside.others t' hother,
      state_setState_of_ne hother]
  · rw [hstate]
    exact fun hbusy => absurd hbusy Bool.false_ne_true
  · rw [hleft, hstate]
    exact fun o h => h
  · rw [hsame, hbefore]
    exact fun k hk => .inl hk
  · rw [hbefore, ← hduring]
    exact hinside.confined
  · rw [hsame, ← hafter]
    exact hinside.statements

theorem onConnection_setState (o : OpenConnection) (f : Nat → Session (σ × List Exchange) α)
    (s : TransactionState) : t.onConnection o f (w.setState t s) = t.onConnection o f w := by
  have hoverwritten : (w.setState t s).setState t ⟨some o, true⟩ = w.setState t ⟨some o, true⟩ := by
    simp [setState]
  rw [onConnection, onConnection, hoverwritten]

theorem serves_opening {o : OpenConnection} (hinRange : t.id < w.transactions.length)
    (hstate : w.state t = ⟨none, false⟩) (hmade : w.Exchanged (t.opening o) w') :
    t.Serves w (t.opening o) (w'.setState t ⟨some o, false⟩) := by
  have hopened : (w'.setState t ⟨some o, false⟩).state t = ⟨some o, false⟩ :=
    state_setState (by rw [hmade.transactions]; exact hinRange)
  refine ⟨hmade.trace, hmade.thread, hmade.bound, by rw [length_setState, hmade.transactions], ?_,
    by rw [hopened, hstate], ?_, ?_, ?_, confined_opening _ t o, ?_⟩
  · intro t' hother
    rw [state_setState_of_ne hother, hmade.state]
  · rw [hstate]
    exact fun hbusy => absurd hbusy Bool.false_ne_true
  · rw [hstate]
    intro o' himpossible
    cases himpossible
  · rw [connections, hopened]
    intro k hk
    obtain rfl := List.mem_singleton.mp hk
    exact .inr List.mem_cons_self
  · intro x hx hstatement
    exact absurd hstatement (not_isStatement_of_isUpkeep isUpkeep_of_opening hx)

theorem serves_withConnection (d : Driver σ) {f : Nat → Session (σ × List Exchange) α}
    (hinRange : t.id < w.transactions.length)
    (hinner : ∀ (o : OpenConnection) (v : World (σ × List Exchange)), (w.state t).inUse = false →
      v.bound = w.bound → v.thread = w.thread → t.id < v.transactions.length →
      v.state t = ⟨some o, true⟩ → ∃ es, t.Serves v es (f o.connection v).2) :
    ∃ es, t.Serves w es (t.withConnection d.traced f w).2 := by
  obtain ⟨-, hrun⟩ | ⟨e, es, w', hstate, hmade, hbroken, hrun⟩ | ⟨o, hstate, hrun⟩ |
    ⟨o, w', hstate, hmade, hrun⟩ := withConnection_cases d f t w
  · rw [hrun]
    exact ⟨[], .refl t w⟩
  · rw [hrun]
    have hfailed := hbroken.failed
    refine ⟨es, .of_exchanged hmade (confined_of_failedOpening _ hfailed) fun x hx hstatement => ?_⟩
    exact absurd hstatement (not_isStatement_of_isUpkeep (isUpkeep_of_failed hfailed) hx)
  · rw [hrun]
    exact serves_onConnection hinRange hstate fun v => hinner o v (by rw [hstate])
  · rw [hrun, ← onConnection_setState o f ⟨some o, false⟩]
    have hopening := serves_opening hinRange hstate hmade
    have hopened : (w'.setState t ⟨some o, false⟩).state t = ⟨some o, false⟩ :=
      state_setState (by rw [hmade.transactions]; exact hinRange)
    obtain ⟨es, hinside⟩ := serves_onConnection (f := f)
      (by rw [length_setState, hmade.transactions]; exact hinRange) hopened
      fun v hbound hthread => hinner o v (by rw [hstate]) (hbound.trans hmade.bound)
        (hthread.trans hmade.thread)
    exact ⟨_, hopening.trans hinside⟩

end

end Transaction

theorem Uses.serves {d : Driver σ} {isolation : Option Isolation}
    {m : Manager (σ × List Exchange)} {t : Transaction}
    (hm : m = .threaded t.manager d.traced isolation) {held : List Nat}
    {x : Session (σ × List Exchange) α} (h : Uses m held x)
    {w : World (σ × List Exchange)} (hbound : w.current? t.manager = some t)
    (hinRange : t.id < w.transactions.length) (hheld : t.Holds held w) :
    ∃ es, t.Serves w es (x w).2 := by
  have hdriver : m.driver = d.traced := by rw [hm, Manager.driver]
  induction h generalizing w with
  | pure a => exact ⟨[], .refl t w⟩
  | throw e => exact ⟨[], .refl t w⟩
  | report f =>
      exact ⟨[], .of_exchanged ⟨(List.append_nil _).symm, rfl, rfl, rfl⟩ (confined_nil _) (by simp)⟩
  | attempt hinner ih => exact ih hbound hinRange hheld
  | @bind _ _ held x f hfirst hrest ihFirst ihRest =>
      obtain ⟨es, hserves⟩ := ihFirst hbound hinRange hheld
      rw [Run.bind_apply]
      cases hrun : x w with
      | mk result w' =>
          rw [hrun] at hserves
          cases result with
          | error e => exact ⟨es, hserves⟩
          | ok a =>
              have hheld' : t.Holds held w' := by
                intro connection hmem
                obtain ⟨o, hsame, hstate⟩ := hheld connection hmem
                exact ⟨o, hsame, by rw [hserves.kept (by rw [hstate]), hstate]⟩
              obtain ⟨es', hserves'⟩ := ihRest a ⟨w, w', hrun⟩
                ((current?_congr hserves.thread hserves.bound _).trans hbound)
                (by rw [hserves.length]; exact hinRange) hheld'
              exact ⟨es ++ es', hserves.trans hserves'⟩
  | @call _ connection c hisHeld hisUse =>
      obtain ⟨o, rfl, hstate⟩ := hheld connection hisHeld
      have hown : o.connection ∈ t.connections w := Transaction.mem_connections (by rw [hstate])
      obtain ⟨es, hmade, rfl⟩ := makes_call d c (P := fun outcome es => es = [⟨c, outcome⟩])
        (fun _ => rfl) w
      rw [hdriver]
      have hreaches : ∀ x ∈ [(⟨c, (Session.call d.traced c w).1⟩ : Exchange)],
          x.call.connection? = some o.connection := by
        intro x hx
        rw [List.mem_singleton.mp hx]
        exact Call.connection?_of_isUse hisUse
      exact ⟨_, .of_exchanged hmade (confined_of_connection? hown hreaches)
        fun x hx _ => ⟨_, hown, hreaches x hx⟩⟩
  | @useConnection _ held f hinner ih =>
      have hcurrent : m.current? w = (.ok (some t), w) := by
        rw [hm, Manager.threaded_current?, hbound]
      rw [Manager.useConnection_of_current hcurrent, hdriver]
      refine Transaction.serves_withConnection d hinRange ?_
      intro o v hidle hbound' hthread hinRange' hstate
      exact ih o.connection ((current?_congr hthread hbound' _).trans hbound) hinRange'
        (hheld.entered hidle hstate)

end TypedSql
