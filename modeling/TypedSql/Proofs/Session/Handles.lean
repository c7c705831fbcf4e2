import TypedSql.Proofs.Session.Ending

namespace TypedSql

/-! Handles of a transaction that are used beyond its scope.  The state of a transaction that has
been closed is the one of a transaction that has not been used, so what is done with a handle then
begins anew. -/

open Session

variable {σ : Type}

namespace Transaction

/-- What is done with a transaction through its handles, and what else goes on in the meantime. -/
inductive HandleCall (σ : Type) : Type 1
  | use {α : Type} (f : Nat → Session (σ × List Exchange) α)
  | settle (rolledBack : Bool)
  | close
  | aside {α : Type} (x : Session (σ × List Exchange) α)

/-- Some exchanges have taken place, and the transaction is as it was. -/
def Untouched (t : Transaction) (w w' : World (σ × List Exchange)) : Prop :=
  ∃ es, w'.trace = w.trace ++ es ∧ w'.state t = w.state t ∧
    w.transactions.length ≤ w'.transactions.length

namespace HandleCall

def isUse : HandleCall σ → Bool
  | use _ => true
  | _ => false

def isClose : HandleCall σ → Bool
  | close => true
  | _ => false

def isAside : HandleCall σ → Bool
  | aside _ => true
  | _ => false

def after (d : Driver σ) (t : Transaction) :
    HandleCall σ → World (σ × List Exchange) → World (σ × List Exchange)
  | use f, w => (t.withConnection d.traced f w).2
  | settle rolledBack, w => (t.settle d.traced rolledBack w).2
  | close, w => (t.close d.traced w).2
  | aside x, w => (x w).2

def afterAll (d : Driver σ) (t : Transaction) (calls : List (HandleCall σ))
    (w : World (σ × List Exchange)) : World (σ × List Exchange) :=
  calls.foldl (fun w c => c.after d t w) w

/-- Whoever has the connection at hand cannot change the transaction, and what goes on otherwise
does not. -/
def Spares (t : Transaction) : HandleCall σ → Prop
  | use f => ∀ (o : OpenConnection) (w : World (σ × List Exchange)),
      t.id < w.transactions.length → w.state t = ⟨some o, true⟩ →
      t.Untouched w (f o.connection w).2
  | aside x => ∀ w : World (σ × List Exchange),
      t.id < w.transactions.length → (w.state t).inUse = false → t.Untouched w (x w).2
  | _ => True

end HandleCall

/-- What a call says, and which connection the transaction has before and after it. -/
inductive Step (t : Transaction) :
    HandleCall σ → Option OpenConnection → List Exchange → Option OpenConnection → Prop
  | refused {α : Type} (f : Nat → Session (σ × List Exchange) α) {es : List Exchange}
      (hbroken : t.BrokenOpening es) : Step t (.use f) none es none
  | opens {α : Type} (f : Nat → Session (σ × List Exchange) α) (o : OpenConnection)
      (es : List Exchange) : Step t (.use f) none (t.opening o ++ es) (some o)
  | uses {α : Type} (f : Nat → Session (σ × List Exchange) α) (o : OpenConnection)
      (es : List Exchange) : Step t (.use f) (some o) es (some o)
  | settlesNothing (rolledBack : Bool) : Step t (.settle rolledBack) none [] none
  | settles (rolledBack : Bool) (o : OpenConnection) {x : Exchange}
      (hends : x.call = .ending rolledBack o.connection) :
      Step t (.settle rolledBack) (some o) [x] (some o)
  | closesNothing : Step t .close none [] none
  | closes (o : OpenConnection) {es : List Exchange}
      (hreleases : es.map Exchange.call = t.releaseCalls o) : Step t .close (some o) es none
  | aside {α : Type} (x : Session (σ × List Exchange) α) (opened : Option OpenConnection)
      (es : List Exchange) : Step t (.aside x) opened es opened

/-- What each of some calls says, and which connection the transaction has before and after them. -/
inductive Handled (t : Transaction) :
    List (HandleCall σ) → Option OpenConnection → List (List Exchange) → Option OpenConnection →
      Prop
  | done (opened : Option OpenConnection) : Handled t [] opened [] opened
  | step {c : HandleCall σ} {calls : List (HandleCall σ)} {es : List Exchange}
      {said : List (List Exchange)} {before between after : Option OpenConnection}
      (hfirst : t.Step c before es between) (hrest : t.Handled calls between said after) :
      Handled t (c :: calls) before (es :: said) after

variable {d : Driver σ} {t : Transaction} {w w' : World (σ × List Exchange)}

/-- The transaction is not in use, and has the connection. -/
structure Holding (t : Transaction) (opened : Option OpenConnection)
    (w : World (σ × List Exchange)) : Prop where
  inRange : t.id < w.transactions.length
  state : w.state t = ⟨opened, false⟩

namespace Holding

variable {opened : Option OpenConnection}

theorem exchanged {es : List Exchange} (h : t.Holding opened w) (hmade : w.Exchanged es w') :
    t.Holding opened w' where
  inRange := by
    rw [hmade.transactions]
    exact h.inRange
  state := by rw [hmade.state, h.state]

theorem onConnection {α : Type} {f : Nat → Session (σ × List Exchange) α}
    (h : t.Holding opened w) (hspares : (HandleCall.use f).Spares t) (o : OpenConnection) :
    ∃ es, (t.onConnection o f w).2.trace = w.trace ++ es ∧
      t.Holding (some o) (t.onConnection o f w).2 := by
  have hentered : (w.setState t ⟨some o, true⟩).state t = ⟨some o, true⟩ :=
    World.state_setState h.inRange
  have hinside : t.id < (w.setState t ⟨some o, true⟩).transactions.length := by
    rw [World.length_setState]
    exact h.inRange
  obtain ⟨es, htrace, hsame, hgrown⟩ := hspares o _ hinside hentered
  rw [hentered] at hsame
  have hstays := Nat.lt_of_lt_of_le hinside hgrown
  simp only [Transaction.onConnection, hsame]
  exact ⟨es, htrace, by rwa [World.length_setState], World.state_setState hstays⟩

end Holding

def Steps (d : Driver σ) (t : Transaction) (c : HandleCall σ) (opened : Option OpenConnection)
    (w : World (σ × List Exchange)) : Prop :=
  ∃ es opened', t.Step c opened es opened' ∧ (c.after d t w).trace = w.trace ++ es ∧
    t.Holding opened' (c.after d t w)

section

variable {opened : Option OpenConnection} (h : t.Holding opened w)

include h

theorem steps_use {α : Type} {f : Nat → Session (σ × List Exchange) α}
    (hspares : (HandleCall.use f).Spares t) : t.Steps d (.use f) opened w := by
  rw [Steps, HandleCall.after]
  obtain ⟨hbusy, -⟩ | ⟨e, es, w', hfree, hmade, hbroken, hrun⟩ | ⟨o, hheld, hrun⟩ |
    ⟨o, w', hfree, hmade, hrun⟩ := withConnection_cases d f t w
  · rw [h.state] at hbusy
    cases hbusy
  · cases h.state.symm.trans hfree
    rw [hrun]
    exact ⟨es, none, .refused f hbroken, hmade.trace, h.exchanged hmade⟩
  · cases h.state.symm.trans hheld
    obtain ⟨es, htrace, hholding⟩ := h.onConnection hspares o
    rw [hrun]
    exact ⟨es, some o, .uses f o es, htrace, hholding⟩
  · cases h.state.symm.trans hfree
    obtain ⟨es, htrace, hholding⟩ := (h.exchanged hmade).onConnection hspares o
    rw [hrun]
    refine ⟨_, some o, .opens f o es, ?_, hholding⟩
    rw [htrace, hmade.trace, List.append_assoc]

theorem steps_settle (rolledBack : Bool) : t.Steps d (.settle rolledBack) opened w := by
  rw [Steps, HandleCall.after]
  cases opened with
  | none =>
      rw [settle_of_unopened d.traced h.state]
      exact ⟨[], none, .settlesNothing rolledBack, (List.append_nil _).symm, h⟩
  | some o =>
      obtain ⟨x, w', hrun, hends, hmade⟩ := settle_of_opened d h.state rolledBack
      rw [hrun]
      exact ⟨[x], some o, .settles rolledBack o hends, hmade.trace, h.exchanged hmade⟩

theorem steps_close : t.Steps d .close opened w := by
  obtain ⟨release, v, hrun, hcalls, hmade⟩ := close_leaves d (by rw [h.state])
  have hleft : t.Holding none (v.unbind t) := by
    refine ⟨?_, ?_⟩
    · rw [World.transactions_unbind, hmade.transactions, World.length_setState]
      exact h.inRange
    · rw [World.state_unbind, hmade.state, World.state_setState h.inRange]
  have htrace : (v.unbind t).trace = w.trace ++ release := by
    rw [World.trace_unbind, hmade.trace]
    rfl
  rw [h.state] at hcalls
  rw [Steps, HandleCall.after, hrun]
  cases opened with
  | none =>
      obtain rfl := List.map_eq_nil_iff.mp hcalls
      exact ⟨[], none, .closesNothing, htrace, hleft⟩
  | some o => exact ⟨release, none, .closes o hcalls, htrace, hleft⟩

theorem steps_of_spares {c : HandleCall σ} (hspares : c.Spares t) : t.Steps d c opened w := by
  cases c with
  | use f => exact steps_use h hspares
  | settle rolledBack => exact steps_settle h rolledBack
  | close => exact steps_close h
  | aside x =>
      obtain ⟨es, htrace, hsame, hgrown⟩ := hspares w h.inRange (by rw [h.state])
      have hinRange := Nat.lt_of_lt_of_le h.inRange hgrown
      exact ⟨es, opened, .aside x opened es, htrace, hinRange, hsame.trans h.state⟩

end

theorem handled_afterAll {calls : List (HandleCall σ)} {opened : Option OpenConnection}
    (h : t.Holding opened w) (hspares : ∀ c ∈ calls, c.Spares t) :
    ∃ said opened', t.Handled calls opened said opened' ∧
      (HandleCall.afterAll d t calls w).trace = w.trace ++ said.flatten ∧
      t.Holding opened' (HandleCall.afterAll d t calls w) := by
  induction calls generalizing w opened with
  | nil => exact ⟨[], opened, .done opened, (List.append_nil _).symm, h⟩
  | cons c calls ih =>
      obtain ⟨hfirst, hrest⟩ := List.forall_mem_cons.mp hspares
      obtain ⟨es, between, hstep, htrace, hholding⟩ := steps_of_spares (d := d) h hfirst
      obtain ⟨said, opened', hhandled, htrace', hholding'⟩ := ih hholding hrest
      refine ⟨es :: said, opened', .step hstep hhandled, ?_, hholding'⟩
      rw [HandleCall.afterAll, List.foldl_cons, ← HandleCall.afterAll, htrace', htrace,
        List.append_assoc, List.flatten_cons]

/-- A use opened the connection, and no close has come behind it. -/
def OpenedIn (t : Transaction) (o : OpenConnection) (calls : List (HandleCall σ))
    (said : List (List Exchange)) : Prop :=
  ∃ (first : List (HandleCall σ)) (α : Type) (f : Nat → Session (σ × List Exchange) α)
    (rest : List (HandleCall σ)) (earlier : List (List Exchange)) (es : List Exchange)
    (later : List (List Exchange)),
    calls = first ++ .use f :: rest ∧ said = earlier ++ (t.opening o ++ es) :: later ∧
      earlier.length = first.length ∧ ∀ c ∈ rest, c.isClose = false

theorem OpenedIn.behind {o : OpenConnection} {calls : List (HandleCall σ)}
    {said : List (List Exchange)} (h : t.OpenedIn o calls said) (c : HandleCall σ)
    (es : List Exchange) : t.OpenedIn o (c :: calls) (es :: said) := by
  obtain ⟨first, α, f, rest, earlier, es', later, rfl, rfl, hlength, hkept⟩ := h
  exact ⟨c :: first, α, f, rest, es :: earlier, es', later, rfl, rfl, congrArg (· + 1) hlength,
    hkept⟩

namespace Handled

variable {calls : List (HandleCall σ)} {said : List (List Exchange)}
  {before after : Option OpenConnection}

/-- A connection that is there was there all the time, or has been opened by the last use that
found none. -/
theorem openedIn (h : t.Handled calls before said after) {o : OpenConnection}
    (hheld : after = some o) :
    (before = some o ∧ ∀ c ∈ calls, c.isClose = false) ∨ t.OpenedIn o calls said := by
  induction h with
  | done opened => exact .inl ⟨hheld, List.forall_mem_nil _⟩
  | @step c calls es said before between after hfirst hrest ih =>
      obtain ⟨hstays, hopen'⟩ | hopened := ih hheld
      · cases hfirst with
        | refused f hbroken => cases hstays
        | opens f o' es' =>
            cases hstays
            exact .inr ⟨[], _, f, calls, [], es', said, rfl, rfl, rfl, hopen'⟩
        | uses f o' es' => exact .inl ⟨hstays, List.forall_mem_cons.mpr ⟨rfl, hopen'⟩⟩
        | settlesNothing rolledBack => cases hstays
        | settles rolledBack o' hends => exact .inl ⟨hstays, List.forall_mem_cons.mpr ⟨rfl, hopen'⟩⟩
        | closesNothing => cases hstays
        | closes o' hreleases => cases hstays
        | aside x opened es' => exact .inl ⟨hstays, List.forall_mem_cons.mpr ⟨rfl, hopen'⟩⟩
      · exact .inr (hopened.behind c es)

/-- Without a use nothing is said for a transaction that has no connection. -/
theorem silent (h : t.Handled calls before said after) (hfree : before = none)
    (hunused : ∀ c ∈ calls, c.isUse = false) :
    after = none ∧ ∀ p ∈ calls.zip said, p.1.isAside = false → p.2 = [] := by
  induction h with
  | done opened => exact ⟨hfree, List.forall_mem_nil _⟩
  | @step c calls es said before between after hfirst hrest ih =>
      subst hfree
      obtain ⟨hnotUse, hothers⟩ := List.forall_mem_cons.mp hunused
      have hquiet : between = none ∧ (c.isAside = false → es = []) := by
        cases hfirst with
        | refused f hbroken => cases hnotUse
        | opens f o es' => cases hnotUse
        | settlesNothing rolledBack => exact ⟨rfl, fun _ => rfl⟩
        | closesNothing => exact ⟨rfl, fun _ => rfl⟩
        | aside x opened es' => exact ⟨rfl, fun h => nomatch h⟩
      obtain ⟨hleft, hall⟩ := ih hquiet.1 hothers
      exact ⟨hleft, List.forall_mem_cons.mpr ⟨hquiet.2, hall⟩⟩

end Handled

/-- A transaction that has been closed is as one that has not been used yet, whatever was done with
it before.  Committing and rolling back say nothing then and change nothing, as often as they are
tried.  A use, however, opens a connection anew if the store gives one: the transaction has it from
there on, and only another close gives it back. -/
theorem closed_handles (d : Driver σ) {opened : Option OpenConnection} (h : t.Holding opened w)
    {before after : List (HandleCall σ)} (hsparesBefore : ∀ c ∈ before, c.Spares t)
    (hsparesAfter : ∀ c ∈ after, c.Spares t) :
    let closed := HandleCall.afterAll d t (before ++ [.close]) w
    let later := HandleCall.afterAll d t after closed
    closed.state t = {} ∧
    ∃ said opened', t.Handled after none said opened' ∧
      later.trace = closed.trace ++ said.flatten ∧ later.state t = ⟨opened', false⟩ ∧
      (∀ o, opened' = some o → t.OpenedIn o after said) ∧
      ((∀ c ∈ after, c.isUse = false) →
        opened' = none ∧ ∀ p ∈ after.zip said, p.1.isAside = false → p.2 = []) ∧
      (opened' = none →
        (∀ rolledBack, t.settle d.traced rolledBack later = (.ok (), later)) ∧
        ∀ {α : Type} (f : Nat → Session (σ × List Exchange) α) (o : OpenConnection)
          (w' : World (σ × List Exchange)), (HandleCall.use f).Spares t →
          t.connect d.traced later = (.ok o, w') →
          ((HandleCall.use f).after d t later).state t = ⟨some o, false⟩) := by
  intro closed later
  -- Wherever the calls before have led, the close is one step more, and it ends without connection.
  obtain ⟨-, held, -, -, hholding⟩ := handled_afterAll (d := d) h hsparesBefore
  obtain ⟨es, left, hstep, -, hreleased⟩ := steps_close (d := d) hholding
  have hfree : left = none := by
    cases hstep with
    | closesNothing => rfl
    | closes o hreleases => rfl
  subst hfree
  have hsame : closed = HandleCall.close.after d t (HandleCall.afterAll d t before w) := by
    simp only [closed, HandleCall.afterAll, List.foldl_append, List.foldl_cons, List.foldl_nil]
  rw [← hsame] at hreleased
  obtain ⟨said, opened', hhandled, htrace, hended⟩ :=
    handled_afterAll (d := d) hreleased hsparesAfter
  refine ⟨hreleased.state, said, opened', hhandled, htrace, hended.state, ?_, hhandled.silent rfl,
    ?_⟩
  · intro o hhas
    obtain ⟨halready, -⟩ | hopened := hhandled.openedIn hhas
    · cases halready
    · exact hopened
  · rintro rfl
    refine ⟨settle_of_unopened d.traced hended.state, fun f o w' hspares hconnected => ?_⟩
    have hmade := t.makes_connect d later
    rw [hconnected] at hmade
    obtain ⟨es, hmade, -⟩ := hmade
    obtain ⟨-, -, hholding⟩ := (hended.exchanged hmade).onConnection hspares o
    have hrun := withConnection_of_connect d.traced f hended.state hconnected
    exact (congrArg (fun r => World.state r.2 t) hrun).trans hholding.state

def lateHandle : Transaction := ⟨0, 0, none⟩

def lateBegun : World (ScriptedStore × List Exchange) :=
  World.begun { store := ({}, []) } lateHandle

def emptyingUse : HandleCall ScriptedStore :=
  .use fun connection =>
    call (ScriptedStore.driver []).traced (.executeUpdate ⟨connection, "DELETE FROM a", false⟩)

theorem spares_emptyingUse : emptyingUse.Spares lateHandle := by
  intro o w hinRange hentered
  obtain ⟨es, hmade, -⟩ := makes_call (ScriptedStore.driver [])
    (.executeUpdate ⟨o.connection, "DELETE FROM a", false⟩) (P := fun _ _ => True)
    (fun _ => trivial) w
  have hlength := congrArg List.length hmade.transactions
  exact ⟨es, hmade.trace, hmade.state lateHandle, Nat.le_of_eq hlength.symm⟩

def lateClosed : World (ScriptedStore × List Exchange) :=
  HandleCall.afterAll (ScriptedStore.driver []) lateHandle [emptyingUse, .settle false, .close]
    lateBegun

theorem lateHandle_settles_nothing :
    lateHandle.Holding none lateBegun ∧ emptyingUse.Spares lateHandle ∧
    lateClosed.state lateHandle = {} ∧
    (∀ rolledBack, lateHandle.settle (ScriptedStore.driver []).traced rolledBack lateClosed =
      (.ok (), lateClosed)) ∧
    (emptyingUse.after (ScriptedStore.driver []) lateHandle lateClosed).state lateHandle =
      ⟨some ⟨2, some .readCommitted, true⟩, false⟩ := by
  have hholding : lateHandle.Holding none lateBegun := ⟨by decide, rfl⟩
  have hspares : ∀ c ∈ [emptyingUse, .settle false], c.Spares lateHandle :=
    List.forall_mem_cons.mpr ⟨spares_emptyingUse, List.forall_mem_singleton.mpr trivial⟩
  have hnothing : ∀ c ∈ ([] : List (HandleCall ScriptedStore)), c.Spares lateHandle :=
    List.forall_mem_nil _
  obtain ⟨hleft, said, opened', hhandled, -, hended, -, hunused, hagain⟩ :=
    closed_handles (ScriptedStore.driver []) hholding hspares hnothing
  obtain ⟨hsettles, hopens⟩ := hagain (hunused (List.forall_mem_nil _)).1
  exact ⟨hholding, spares_emptyingUse, hleft, hsettles, hopens _ _ _ spares_emptyingUse rfl⟩

/-- The connection has been given back, and the use of a handle opens another one, which nothing
closes. -/
theorem lateHandle_opens_again :
    lateClosed.store.1.events.getLast? = some (.closed 1) ∧
    ((emptyingUse.after (ScriptedStore.driver []) lateHandle lateClosed).store.1.events.drop
      lateClosed.store.1.events.length) =
        [.opened 2, .autocommitSet 2 false, .executed "DELETE FROM a"] ∧
    ((emptyingUse.after (ScriptedStore.driver []) lateHandle lateClosed).state lateHandle).opened =
      some ⟨2, some .readCommitted, true⟩ := by
  refine ⟨?_, ?_, ?_⟩
  · rfl
  · rfl
  · rfl

end Transaction

end TypedSql
