import TypedSql.Proofs.Session.Orderly

namespace TypedSql

/-! Invariants of programs.  What every single step keeps, of the scopes that have not ended and the
connections that belong to no transaction, is kept by whole programs. -/

variable {σ α : Type}

namespace World

/-- A statement about worlds that outlives each step of a program whose calls are of some kind.
Besides the world it is about the transactions whose scopes have not ended, and about the
connections that stand alone. -/
structure Invariant (allowed : Call → Prop)
    (I : List Transaction → List Nat → World (σ × List Exchange) → Prop) : Prop where
  metadata (connection : Nat) : allowed (.metadata connection)
  ending (rolledBack : Bool) (connection : Nat) : allowed (.ending rolledBack connection)
  inRange {scopes alone w} (h : I scopes alone w) : ∀ t ∈ scopes, t.id < w.transactions.length
  bound {scopes alone w manager t} (h : I scopes alone w) (hcurrent : w.current? manager = some t) :
    t ∈ scopes
  silent {scopes alone w w'} (h : I scopes alone w) (hmade : w.Exchanged [] w') : I scopes alone w'
  /-- A call on a connection that is open and stays open. -/
  used {scopes alone w w' connection x} (h : I scopes alone w)
    (hopen : connection ∈ alone ++ w.connections) (hx : x.call.isBorrowed connection)
    (hallowed : allowed x.call) (hmade : w.Exchanged [x] w') : I scopes alone w'
  refused {scopes alone w w' e} (h : I scopes alone w)
    (hmade : w.Exchanged [⟨.connect, .error e⟩] w') : I scopes alone w'
  opened {scopes alone w w' connection} (h : I scopes alone w)
    (hmade : w.Exchanged [⟨.connect, .ok connection⟩] w') : I scopes (connection :: alone) w'
  closed {scopes alone w w' connection x} (h : I scopes (connection :: alone) w)
    (hx : x.call = .close connection) (hmade : w.Exchanged [x] w') : I scopes alone w'
  broken {scopes alone w w' es} {t : Transaction} (h : I scopes alone w) (ht : t ∈ scopes)
    (hes : t.BrokenOpening es) (hmade : w.Exchanged es w') : I scopes alone w'
  /-- The connection of a transaction is opened, and handed out at once. -/
  entered {scopes alone w w' o} {t : Transaction} (h : I scopes alone w) (ht : t ∈ scopes)
    (hstate : w.state t = ⟨none, false⟩) (hmade : w.Exchanged (t.opening o) w') :
    I scopes alone (w'.setState t ⟨some o, true⟩)
  same {scopes alone w s} {t : Transaction} (h : I scopes alone w) (ht : t ∈ scopes)
    (hs : s.opened = (w.state t).opened) : I scopes alone (w.setState t s)
  /-- The connection of a transaction is given back, perhaps after an end. -/
  returned {scopes alone w w' o ended release} {t : Transaction} (h : I scopes alone w)
    (ht : t ∈ scopes) (hopened : (w.state t).opened = some o)
    (hended : ∀ x ∈ ended, x.call.isBorrowed o.connection ∧ allowed x.call)
    (hrelease : release.map Exchange.call = t.releaseCalls o)
    (hmade : (w.setState t {}).Exchanged (ended ++ release) w') : I scopes alone w'
  unbind {scopes alone w} (h : I scopes alone w) (t : Transaction) : I scopes alone (w.unbind t)
  begun {scopes alone w} {t : Transaction} (h : I scopes alone w)
    (hid : t.id = w.transactions.length) :
    I (t :: scopes) alone (w.begun t)
  leave {scopes alone w} {t : Transaction} (h : I (t :: scopes) alone w)
    (hstate : w.state t = {}) :
    I scopes alone (w.unbind t)

structure Preserves (I : List Transaction → List Nat → World (σ × List Exchange) → Prop)
    (scopes : List Transaction) (alone : List Nat) (w w' : World (σ × List Exchange)) : Prop where
  holds : I scopes alone w'
  follows : w.Follows w'

namespace Preserves

variable {allowed : Call → Prop}
  {I : List Transaction → List Nat → World (σ × List Exchange) → Prop}
  {w w' w'' : World (σ × List Exchange)} {scopes : List Transaction} {alone : List Nat}

theorem refl (h : I scopes alone w) : w.Preserves I scopes alone w :=
  ⟨h, .refl w⟩

theorem trans (hfirst : w.Preserves I scopes alone w')
    (hsecond : w'.Preserves I scopes alone w'') : w.Preserves I scopes alone w'' :=
  ⟨hsecond.holds, hfirst.follows.trans hsecond.follows⟩

theorem silent (hinv : Invariant allowed I) (h : I scopes alone w) (hmade : w.Exchanged [] w') :
    w.Preserves I scopes alone w' :=
  ⟨hinv.silent h hmade, hmade.follows⟩

end Preserves

end World

theorem Call.isBorrowed_ending {connection : Nat} (rolledBack : Bool) :
    (ending rolledBack connection).isBorrowed connection := by
  cases rolledBack with
  | true => simp [ending, isBorrowed, connection?]
  | false => simp [ending, isBorrowed, connection?]

open World Exchange Session

namespace Session

variable {allowed : Call → Prop}
  {I : List Transaction → List Nat → World (σ × List Exchange) → Prop}
  {d : Driver σ} {w : World (σ × List Exchange)} {scopes : List Transaction} {alone : List Nat}

def onStandalone {τ : Type} (d : Driver τ) (source : LogSource) (what : String)
    (f : Nat → Session τ α) : Session τ α := do
  let connection ← call d .connect
  let outcome ← (f connection).attempt
  reporting .warn source what (call d (.close connection))
  conclude outcome

/-- No connection is there, or it is closed after its use, which decides the outcome. -/
theorem onStandalone_cases (d : Driver σ) (source : LogSource) (what : String)
    (f : Nat → Session (σ × List Exchange) α) (w : World (σ × List Exchange)) :
    (∃ e w', w.Exchanged [⟨.connect, .error e⟩] w' ∧
      onStandalone d.traced source what f w = (.error e, w')) ∨
    ∃ connection v closing w', w.Exchanged [⟨.connect, .ok connection⟩] v ∧
      (f connection v).2.Exchanged [closing] w' ∧ closing.call = .close connection ∧
      onStandalone d.traced source what f w = ((f connection v).1, w') := by
  obtain ⟨es, hopening, hes⟩ := makes_call d .connect
    (P := fun outcome es => es = [⟨.connect, outcome⟩]) (fun _ => rfl) w
  rw [onStandalone, Run.bind_apply]
  cases hconnect : call d.traced .connect w with
  | mk result v =>
      rw [hconnect] at hopening hes
      subst hes
      cases result with
      | error e => exact .inl ⟨e, v, hopening, rfl⟩
      | ok connection =>
          have hcloses := Transaction.tells_reporting (makes_call d (.close connection)
            (P := fun _ es => es.map Exchange.call = [.close connection]) fun _ => rfl)
            .warn source what
          obtain ⟨es, hmade, houtcome, hes⟩ := hcloses (f connection v).2
          obtain ⟨closing, rfl, hclosing⟩ := List.map_eq_singleton_iff.mp hes
          cases hreport : reporting .warn source what (call d.traced (.close connection))
              (f connection v).2 with
          | mk result w' =>
              rw [hreport] at hmade houtcome
              subst houtcome
              refine .inr ⟨connection, v, closing, w', hopening, hmade, hclosing, ?_⟩
              simp only [Run.bind_apply, Run.attempt_apply, hreport, conclude,
                Run.ofExcept_apply]

theorem call_preserves (hinv : Invariant allowed I) (h : I scopes alone w) {c : Call}
    {connection : Nat} (hopen : connection ∈ alone ++ w.connections)
    (hc : c.isBorrowed connection) (hallowed : allowed c) :
    w.Preserves I scopes alone (call d.traced c w).2 := by
  obtain ⟨es, hmade, rfl⟩ := makes_call d c (P := fun outcome es => es = [⟨c, outcome⟩])
    (fun _ => rfl) w
  exact ⟨hinv.used h hopen hc hallowed hmade, hmade.follows⟩

theorem onStandalone_preserves (hinv : Invariant allowed I) (h : I scopes alone w)
    (source : LogSource) (what : String) {f : Nat → Session (σ × List Exchange) α}
    (hinner : ∀ connection v, w.Follows v → I scopes (connection :: alone) v →
      v.Preserves I scopes (connection :: alone) (f connection v).2) :
    w.Preserves I scopes alone (onStandalone d.traced source what f w).2 := by
  obtain ⟨e, w', hmade, hrun⟩ | ⟨connection, v, closing, w', hopening, hmade, hclosing, hrun⟩ :=
    onStandalone_cases d source what f w
  · rw [hrun]
    exact ⟨hinv.refused h hmade, hmade.follows⟩
  · rw [hrun]
    have hkept := hinner connection v hopening.follows (hinv.opened h hopening)
    exact ⟨hinv.closed hkept.holds hclosing hmade,
      hopening.follows.trans (hkept.follows.trans hmade.follows)⟩

end Session

theorem Database.readMetadata_eq {τ : Type} (d : Driver τ) :
    Database.readMetadata d = onStandalone d .database "Could not close the metadata connection"
      fun connection => call d (.metadata connection) := rfl

namespace Transaction

variable {allowed : Call → Prop}
  {I : List Transaction → List Nat → World (σ × List Exchange) → Prop}
  {w w' : World (σ × List Exchange)} {scopes : List Transaction} {alone : List Nat}
  {t : Transaction}

theorem onConnection_preserves (hinv : Invariant allowed I) {o : OpenConnection}
    {f : Nat → Session (σ × List Exchange) α} (ht : t ∈ scopes)
    (hidle : (w.state t).inUse = false) (hfollows : w.Follows w')
    (hentered : I scopes alone (w'.setState t ⟨some o, true⟩))
    (hinner : ∀ v : World (σ × List Exchange),
      (∀ t', (w.state t').inUse → v.state t' = w.state t') → v.state t = ⟨some o, true⟩ →
      I scopes alone v →
      v.Preserves I scopes alone (f o.connection v).2) :
    w.Preserves I scopes alone (t.onConnection o f w').2 := by
  have hinRange := hinv.inRange hentered t ht
  rw [length_setState] at hinRange
  have hstate : (w'.setState t ⟨some o, true⟩).state t = ⟨some o, true⟩ :=
    state_setState hinRange
  have hinside := hinner _ (fun t' hbusy => by
    rw [state_setState_of_ne, hfollows.kept t' hbusy]
    intro hsame
    rw [← state_of_id_eq hsame, hidle] at hbusy
    cases hbusy) hstate hentered
  have hkept := hinside.follows.kept t (by rw [hstate])
  rw [hstate] at hkept
  simp only [onConnection, hkept]
  have hleft := state_setState (s := ⟨some o, false⟩) (hinv.inRange hinside.holds t ht)
  refine ⟨hinv.same hinside.holds ht (by rw [hkept]), ?_⟩
  refine .of_idle (hinside.follows.thread.trans hfollows.thread) hidle (by rw [hleft]) ?_ ?_
  · intro t' hother
    rw [state_setState_of_ne hother, hinside.follows.inUse t', state_setState_of_ne hother,
      hfollows.inUse t']
  · intro t' hother hbusy
    have hsame : (w'.setState t ⟨some o, true⟩).state t' = w.state t' := by
      rw [state_setState_of_ne hother, hfollows.kept t' hbusy]
    rw [state_setState_of_ne hother, hinside.follows.kept t' (by rw [hsame]; exact hbusy), hsame]

theorem withConnection_preserves (hinv : Invariant allowed I) (d : Driver σ)
    {f : Nat → Session (σ × List Exchange) α} (h : I scopes alone w) (ht : t ∈ scopes)
    (hinner : ∀ (o : OpenConnection) (v : World (σ × List Exchange)),
      (∀ t', (w.state t').inUse → v.state t' = w.state t') → v.state t = ⟨some o, true⟩ →
      I scopes alone v →
      v.Preserves I scopes alone (f o.connection v).2) :
    w.Preserves I scopes alone (t.withConnection d.traced f w).2 := by
  obtain ⟨-, hrun⟩ | ⟨e, es, w', -, hmade, hbroken, hrun⟩ | ⟨o, hstate, hrun⟩ |
    ⟨o, w', hstate, hmade, hrun⟩ := withConnection_cases d f t w
  · rw [hrun]
    exact .refl h
  · rw [hrun]
    exact ⟨hinv.broken h ht hbroken hmade, hmade.follows⟩
  · rw [hrun]
    have hentered : I scopes alone (w.setState t ⟨some o, true⟩) := hinv.same h ht (by rw [hstate])
    exact onConnection_preserves hinv ht (by rw [hstate]) (.refl w) hentered (hinner o)
  · rw [hrun]
    exact onConnection_preserves hinv ht (by rw [hstate]) hmade.follows
      (hinv.entered h ht hstate hmade) (hinner o)

/-- The connection is there when it is told to end, and afterwards it is given back. -/
theorem holds_of_returned (hinv : Invariant allowed I) {ended : Option Exchange}
    {release : List Exchange} (h : I scopes alone w) (ht : t ∈ scopes)
    (hended : ∀ x ∈ ended, ∃ (o : OpenConnection) (rolledBack : Bool),
      (w.state t).opened = some o ∧ x.call = .ending rolledBack o.connection)
    (hrelease : release.map Exchange.call = (w.state t).opened.elim [] t.releaseCalls)
    (hmade : (w.setState t {}).Exchanged (ended.toList ++ release) w') :
    I scopes alone w' := by
  cases hopened : (w.state t).opened with
  | none =>
      rw [hopened] at hrelease
      obtain rfl := List.map_eq_nil_iff.mp hrelease
      cases ended with
      | none => exact hinv.silent (hinv.same h ht hopened.symm) hmade
      | some x =>
          obtain ⟨o, -, himpossible, -⟩ := hended x rfl
          rw [hopened] at himpossible
          cases himpossible
  | some o =>
      rw [hopened] at hrelease
      refine hinv.returned h ht hopened (fun x hx => ?_) hrelease hmade
      obtain ⟨o', rolledBack, hsame, hcall⟩ := hended x (Option.mem_toList.mp hx)
      rw [hopened] at hsame
      obtain rfl := Option.some.inj hsame
      rw [hcall]
      exact ⟨Call.isBorrowed_ending rolledBack, hinv.ending rolledBack _⟩

theorem settle_preserves (hinv : Invariant allowed I) (d : Driver σ) (h : I scopes alone w)
    (rolledBack : Bool) :
    w.Preserves I scopes alone (t.settle d.traced rolledBack w).2 := by
  cases hidle : (w.state t).inUse with
  | true =>
      rw [settle_of_inUse d.traced hidle rolledBack]
      exact .refl h
  | false =>
      obtain ⟨ended, w', hrun, hended, hmade⟩ := settle_spec d hidle rolledBack
      rw [hrun]
      cases ended with
      | none => exact .silent hinv h hmade
      | some x =>
          obtain ⟨o, hopened, hcall⟩ := Option.map_eq_some_iff.mp hended.symm
          refine ⟨hinv.used h (List.mem_append_right _ (connection_mem hopened)) ?_ ?_ hmade,
            hmade.follows⟩
          · rw [← hcall]
            exact Call.isBorrowed_ending rolledBack
          · rw [← hcall]
            exact hinv.ending rolledBack o.connection

theorem close_of_inUse {τ : Type} (d : Driver τ) {v : World τ} (h : (v.state t).inUse) :
    ∃ logging, t.close d v = (.ok (), { v with logging }.unbind t) := by
  refine ⟨v.logging.add ⟨.error, .transaction,
    "Could not close the transaction, its connection is in use"⟩, ?_⟩
  simp [close, Run.bind_apply, h, log]

theorem close_preserves (hinv : Invariant allowed I) (d : Driver σ) (h : I scopes alone w)
    (ht : t ∈ scopes) :
    w.Preserves I scopes alone (t.close d.traced w).2 := by
  cases hidle : (w.state t).inUse with
  | true =>
      obtain ⟨logging, hrun⟩ := close_of_inUse d.traced hidle
      rw [hrun]
      have hreported : w.Exchanged [] { w with logging } :=
        ⟨(List.append_nil _).symm, rfl, rfl, rfl⟩
      exact ⟨hinv.unbind (hinv.silent h hreported) t,
        .of_states (thread_unbind t) (state_unbind t)⟩
  | false =>
      obtain ⟨release, v, hrun, hrelease, hmade⟩ := close_leaves d hidle
      rw [hrun]
      have hreturned : (w.setState t {}).Exchanged ((none : Option Exchange).toList ++ release) v :=
        hmade
      have hholds := holds_of_returned hinv h ht (fun _ hnone => by cases hnone) hrelease hreturned
      have hfreed := Follows.setState (hinv.inRange h t ht) hidle (s := {}) rfl
      exact ⟨hinv.unbind hholds t, hfreed.trans (hmade.follows.trans
        (.of_states (thread_unbind t) (state_unbind t)))⟩

end Transaction

namespace Manager

variable {allowed : Call → Prop}
  {I : List Transaction → List Nat → World (σ × List Exchange) → Prop}
  {m : Manager (σ × List Exchange)} {d : Driver σ} {w : World (σ × List Exchange)}
  {scopes : List Transaction} {alone : List Nat} {t : Transaction}

def bound? {τ : Type} (m : Manager τ) (w : World τ) : Option Transaction :=
  match m with
  | threaded id _ _ => w.current? id
  | external _ => none

theorem current?_apply {τ : Type} (m : Manager τ) (w : World τ) :
    m.current? w = (.ok (m.bound? w), w) := by
  cases m with
  | threaded id d isolation => rfl
  | external d => rfl

theorem mem_of_bound? (hinv : Invariant allowed I) (h : I scopes alone w)
    (hbound : m.bound? w = some t) : t ∈ scopes := by
  cases m with
  | threaded id d isolation => exact hinv.bound h hbound
  | external d => cases hbound

theorem useConnection_of_free {τ : Type} {n : Manager τ} {v : World τ} (h : n.bound? v = none)
    (f : Nat → Session τ α) :
    n.useConnection f v =
      onStandalone n.driver .transaction "Could not close the connection" f v := by
  rw [useConnection, Run.bind_ok (n.current?_apply v), h]
  rfl

/-- A scope that began a transaction leaves a world without it. -/
theorem finish_preserves (hinv : Invariant allowed I) (hdriver : m.driver = d.traced)
    (h : I (t :: scopes) alone w) (hidle : (w.state t).inUse = false)
    (rollsBack : Error → Bool) (outcome : Except Error α) :
    w.Preserves I scopes alone (m.finish t rollsBack outcome w).2 := by
  obtain ⟨ended, release, v, w', hrun, hended, hrelease, hmade, hsilent⟩ :=
    finish_leaves hdriver hidle rollsBack outcome
  rw [hrun]
  have hinRange := hinv.inRange h t List.mem_cons_self
  have hholds : I (t :: scopes) alone v := by
    refine Transaction.holds_of_returned hinv h List.mem_cons_self (fun x hx => ?_) hrelease hmade
    obtain rfl := Option.mem_def.mp hx
    obtain ⟨o, hopened, hcall⟩ := Option.map_eq_some_iff.mp hended.symm
    exact ⟨o, _, hopened, hcall.symm⟩
  have hstate : v.state t = {} := by
    rw [hmade.state, state_setState hinRange]
  have hfreed := Follows.setState hinRange hidle (s := {}) rfl
  refine ⟨hinv.silent (hinv.leave hholds hstate) hsilent, hfreed.trans (hmade.follows.trans ?_)⟩
  exact .trans (.of_states (thread_unbind t) (state_unbind t)) hsilent.follows

theorem finishAsking_preserves (hinv : Invariant allowed I) (hdriver : m.driver = d.traced)
    (h : I (t :: scopes) alone w) (hidle : (w.state t).inUse = false)
    {rule : Error → Session (σ × List Exchange) Bool}
    (hasked : ∀ e, w.Preserves I (t :: scopes) alone (rule e w).2)
    (outcome : Except Error α) :
    w.Preserves I scopes alone (m.finishAsking t rule outcome w).2 := by
  cases outcome with
  | ok a => exact finish_preserves hinv hdriver h hidle _ _
  | error e =>
      cases hpanic : e.isPanic with
      | true =>
          simp only [finishAsking, hpanic, if_true]
          exact finish_preserves hinv hdriver h hidle _ _
      | false =>
          have hkept := hasked e
          have hunused := hkept.follows.inUse t
          rw [hidle] at hunused
          simp only [finishAsking, hpanic, Bool.false_eq_true, if_false, Run.bind_apply,
            Run.attempt_apply]
          cases (rule e w).1 with
          | ok rollsBack =>
              have hfinished :=
                finish_preserves hinv hdriver hkept.holds hunused (fun _ => rollsBack)
                (.error e : Except Error α)
              exact ⟨hfinished.holds, hkept.follows.trans hfinished.follows⟩
          | error panic =>
              have hfinished := finish_preserves hinv hdriver hkept.holds hunused (fun _ => true)
                (.error panic : Except Error α)
              exact ⟨hfinished.holds, hkept.follows.trans hfinished.follows⟩

theorem useTransactionAsking_of_bound {τ : Type} {n : Manager τ} {v : World τ}
    (h : n.bound? v = some t) (isolation : Option Isolation) (rule : Error → Session τ Bool)
    (body : Transaction → Session τ α) :
    n.useTransactionAsking isolation rule body v = body t v := by
  rw [useTransactionAsking, Run.bind_ok (n.current?_apply v), h]

theorem useTransactionAsking_of_free {τ : Type} {n : Manager τ} {v begun v' : World τ}
    {isolation : Option Isolation} {rule : Error → Session τ Bool}
    {body : Transaction → Session τ α} {outcome : Except Error α} (hfree : n.bound? v = none)
    (hbegin : n.begin (isolation.or n.defaultIsolation) v = (.ok t, begun))
    (hrun : body t begun = (outcome, v')) :
    n.useTransactionAsking isolation rule body v = n.finishAsking t rule outcome v' := by
  rw [useTransactionAsking, Run.bind_ok (n.current?_apply v), hfree]
  simp only [Run.bind_ok hbegin, Run.bind_apply, Run.attempt_apply, hrun]

theorem useTransactionAsking_of_external {τ : Type} (provider : Driver τ)
    (isolation : Option Isolation) (rule : Error → Session τ Bool)
    (body : Transaction → Session τ α) (v : World τ) :
    (external provider).useTransactionAsking isolation rule body v =
      (.error (.usage .transactionsExternal), v) := rfl

/-- A scope that begins a transaction runs its body with it, and then it ends the transaction. -/
theorem useTransactionAsking_preserves (hinv : Invariant allowed I) (hdriver : m.driver = d.traced)
    (h : I scopes alone w) (hfree : m.bound? w = none)
    (isolation : Option Isolation) {rule : Error → Session (σ × List Exchange) Bool}
    {body : Transaction → Session (σ × List Exchange) α}
    (hinner : ∀ t v, w.Follows v → I (t :: scopes) alone v →
      v.Preserves I (t :: scopes) alone (body t v).2)
    (hasked : ∀ t e v, w.Follows v → I (t :: scopes) alone v →
      v.Preserves I (t :: scopes) alone (rule e v).2) :
    w.Preserves I scopes alone (m.useTransactionAsking isolation rule body w).2 := by
  cases m with
  | external provider =>
      rw [useTransactionAsking_of_external]
      exact .refl h
  | threaded id n default =>
      obtain ⟨logging, hbegin⟩ := begin_of_free n default hfree (isolation.or default)
      generalize ht : (⟨w.transactions.length, id, isolation.or default⟩ : Transaction) = t
        at hbegin
      have hid : t.id = w.transactions.length := by rw [← ht]
      have hreported : (w.begun t).Exchanged [] { w.begun t with logging } :=
        ⟨(List.append_nil _).symm, rfl, rfl, rfl⟩
      have hbegun := hinv.silent (hinv.begun h hid) hreported
      have hstates (t' : Transaction) : ({ w.begun t with logging } : World _).state t' =
          w.state t' := by
        rw [hreported.state, state_begun_eq]
      have hbegins : w.Follows { w.begun t with logging } := .of_states rfl hstates
      cases hrun : body t { w.begun t with logging } with
      | mk outcome v =>
          rw [useTransactionAsking_of_free hfree hbegin hrun]
          have hran := hinner t _ hbegins hbegun
          rw [hrun] at hran
          have hfollows := hbegins.trans hran.follows
          have hidle : (v.state t).inUse = false := by
            rw [hran.follows.inUse t, hreported.state, state_begun hid]
          have hfinished := finishAsking_preserves hinv hdriver hran.holds hidle
            (fun e => hasked t e v hfollows hran.holds) outcome
          exact ⟨hfinished.holds, hfollows.trans hfinished.follows⟩

end Manager

namespace Program

variable {allowed : Call → Prop}
  {I : List Transaction → List Nat → World (σ × List Exchange) → Prop}
  {d : Driver σ} {held : List Nat} {scopes : List Transaction}

/-- Whatever a program does, it preserves what each of its steps preserves. -/
theorem preserves (hinv : Invariant allowed I)
    {x : Session (σ × List Exchange) α} (h : Program allowed d.traced held scopes x)
    {scopes' : List Transaction} {alone : List Nat}
    {w : World (σ × List Exchange)} (hscopes : scopes ⊆ scopes')
    (hholds : I scopes' alone w) (hlends : w.Lends alone held) :
    w.Preserves I scopes' alone (x w).2 := by
  induction h generalizing scopes' alone w with
  | pure a => exact .refl hholds
  | throw e => exact .refl hholds
  | look f => exact .refl hholds
  | report f =>
      exact .silent hinv hholds ⟨(List.append_nil _).symm, rfl, rfl, rfl⟩
  | enrol f =>
      exact .silent hinv hholds ⟨(List.append_nil _).symm, rfl, rfl, rfl⟩
  | attempt hinner ih => exact ih hscopes hholds hlends
  | @bind _ _ _ _ x f hfirst hrest ihFirst ihRest =>
      have hkept := ihFirst hscopes hholds hlends
      rw [Run.bind_apply]
      cases hrun : x w with
      | mk result w' =>
          rw [hrun] at hkept
          cases result with
          | error e => exact hkept
          | ok a =>
              exact hkept.trans (ihRest a ⟨w, w', hrun⟩ hscopes hkept.holds
                (hlends.kept hkept.follows.kept))
  | readMetadata =>
      rw [Database.readMetadata_eq]
      refine onStandalone_preserves hinv hholds _ _ fun connection v _ hholds' => ?_
      exact call_preserves hinv hholds' (List.mem_append_left _ List.mem_cons_self)
        (by simp [Call.isBorrowed, Call.connection?]) (hinv.metadata connection)
  | call c hisHeld hisBorrowed hisAllowed =>
      exact call_preserves hinv hholds (hlends.mem hisHeld) hisBorrowed hisAllowed
  | @useConnection _ _ _ m hsource f hinner ih =>
      cases hbound : m.bound? w with
      | some t =>
          rw [Manager.useConnection_of_current (by rw [m.current?_apply, hbound]), hsource]
          refine Transaction.withConnection_preserves hinv d hholds
            (Manager.mem_of_bound? hinv hholds hbound) fun o v hkept hstate hholds' => ?_
          exact ih o.connection hscopes hholds' ((hlends.kept hkept).entered hstate)
      | none =>
          rw [Manager.useConnection_of_free hbound, hsource]
          refine onStandalone_preserves hinv hholds _ _ fun connection v hfollows hholds' => ?_
          exact ih connection hscopes hholds' ((hlends.kept hfollows.kept).alone connection)
  | @useTransaction _ _ _ m hsource isolation rule body hasked hinner ihAsked ih =>
      cases hbound : m.bound? w with
      | some t =>
          rw [Manager.useTransactionAsking_of_bound hbound]
          have hmem := Manager.mem_of_bound? hinv hholds hbound
          exact ih t (List.cons_subset.mpr ⟨hmem, hscopes⟩) hholds hlends
      | none =>
          refine Manager.useTransactionAsking_preserves hinv hsource hholds hbound isolation
            (fun t v hfollows hholds' => ?_) (fun t e v hfollows hholds' => ?_)
          · exact ih t (List.cons_subset_cons t hscopes) hholds' (hlends.kept hfollows.kept)
          · exact ihAsked e (List.Subset.trans hscopes (List.subset_cons_self t scopes')) hholds'
              (hlends.kept hfollows.kept)
  | @current _ _ _ m hsource f hbound hfree ihBound ihFree =>
      rw [Run.bind_ok (m.current?_apply w)]
      cases hbound : m.bound? w with
      | some t =>
          have hmem := Manager.mem_of_bound? hinv hholds hbound
          exact ihBound t (List.cons_subset.mpr ⟨hmem, hscopes⟩) hholds hlends
      | none => exact ihFree hscopes hholds hlends
  | withConnection hisLent hinner ih =>
      refine Transaction.withConnection_preserves hinv d hholds (hscopes hisLent)
        fun o v hkept hstate hholds' => ?_
      exact ih o.connection hscopes hholds' ((hlends.kept hkept).entered hstate)
  | commit hisLent => exact Transaction.settle_preserves hinv d hholds false
  | rollback hisLent => exact Transaction.settle_preserves hinv d hholds true
  | close hisLent => exact Transaction.close_preserves hinv d hholds (hscopes hisLent)

end Program

theorem Client.preserves {I : List Transaction → List Nat → World (σ × List Exchange) → Prop}
    (hinv : Invariant (fun _ => True) I) {d : Driver σ} {held : List Nat}
    {scopes scopes' : List Transaction} {x : Session (σ × List Exchange) α}
    (h : Client d.traced held scopes x) {alone : List Nat} {w : World (σ × List Exchange)}
    (hscopes : scopes ⊆ scopes') (hholds : I scopes' alone w) (hlends : w.Lends alone held) :
    w.Preserves I scopes' alone (x w).2 :=
  h.program.preserves hinv hscopes hholds hlends

end TypedSql
