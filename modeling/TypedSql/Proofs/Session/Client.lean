import TypedSql.Proofs.Session.Account
import TypedSql.Proofs.Session.Statements

namespace TypedSql

/-! Programs that use databases over one driver.  A program has the connections and transactions
that the library has lent to its callbacks, and does with them whatever the library offers. -/

variable {σ α : Type}

namespace Manager

/-- The end of a scope whose rule is code of the program.  It is asked about a failure, may use the
database for its answer, and rolls back when it panics. -/
def finishAsking (m : Manager σ) (t : Transaction) (rule : Error → Session σ Bool)
    (outcome : Except Error α) : Session σ α := do
  match outcome with
  | .ok a => m.finish t (fun _ => true) (.ok a)
  | .error e =>
      if e.isPanic then m.finish t (fun _ => true) (.error e)
      else
        match ← (rule e).attempt with
        | .ok rollsBack => m.finish t (fun _ => rollsBack) (.error e)
        | .error panic => m.finish t (fun _ => true) (.error panic)

def useTransactionAsking (m : Manager σ) (isolation : Option Isolation)
    (rule : Error → Session σ Bool) (body : Transaction → Session σ α) : Session σ α := do
  match ← m.current? with
  | some t => body t
  | none =>
      let t ← m.begin (isolation.or m.defaultIsolation)
      m.finishAsking t rule (← (body t).attempt)

theorem finishAsking_pure (m : Manager σ) (t : Transaction) (rollsBack : Error → Bool)
    (outcome : Except Error α) :
    m.finishAsking t (fun e => pure (rollsBack e)) outcome = m.finish t rollsBack outcome := by
  cases outcome with
  | ok a => rfl
  | error e =>
      cases hpanic : e.isPanic with
      | true => simp [finishAsking, finish, hpanic]
      | false =>
          funext w
          simp [finishAsking, finish, hpanic, Run.bind_apply]

/-- A rule that only looks at the failure is one that does nothing else. -/
theorem useTransactionAsking_pure (m : Manager σ) (isolation : Option Isolation)
    (rollsBack : Error → Bool) (body : Transaction → Session σ α) :
    m.useTransactionAsking isolation (fun e => pure (rollsBack e)) body =
      m.useTransaction isolation rollsBack body := by
  simp only [useTransactionAsking, finishAsking_pure]
  rfl

end Manager

/-- What a program puts together from the operations of databases whose connections come from a
driver, when the calls that it makes itself are of some kind.  Connections and transactions are lent
for the time of a callback: while it has them, it may do everything of that kind with a connection
but close it, and everything with a transaction. -/
inductive Program (allowed : Call → Prop) (d : Driver σ) :
    {α : Type} → List Nat → List Transaction → Session σ α → Prop
  | pure {α : Type} {held : List Nat} {scopes : List Transaction} (a : α) :
      Program allowed d held scopes (pure a)
  | throw {α : Type} {held : List Nat} {scopes : List Transaction} (e : Error) :
      Program allowed d held scopes (throw e : Session σ α)
  | bind {α β : Type} {held : List Nat} {scopes : List Transaction} {x : Session σ α}
      {f : α → Session σ β} (hfirst : Program allowed d held scopes x)
      (hrest : ∀ a, x.Gives a → Program allowed d held scopes (f a)) :
      Program allowed d held scopes (x >>= f)
  | attempt {α : Type} {held : List Nat} {scopes : List Transaction} {x : Session σ α}
      (hinner : Program allowed d held scopes x) : Program allowed d held scopes x.attempt
  | look {α : Type} {held : List Nat} {scopes : List Transaction} (f : World σ → α) :
      Program allowed d held scopes (do return f (← get))
  | report {held : List Nat} {scopes : List Transaction} (f : Logging → Logging) :
      Program allowed d held scopes (modify fun w => { w with logging := f w.logging })
  | enrol {held : List Nat} {scopes : List Transaction} (f : Nat → Nat) :
      Program allowed d held scopes (modify fun w => { w with managers := f w.managers })
  | readMetadata {held : List Nat} {scopes : List Transaction} :
      Program allowed d held scopes (Database.readMetadata d)
  | call {held : List Nat} {scopes : List Transaction} {connection : Nat} (c : Call)
      (hisHeld : connection ∈ held) (hisBorrowed : c.isBorrowed connection)
      (hisAllowed : allowed c) : Program allowed d held scopes (Session.call d c)
  | useConnection {α : Type} {held : List Nat} {scopes : List Transaction} {m : Manager σ}
      (hsource : m.driver = d) {f : Nat → Session σ α}
      (hinner : ∀ connection, Program allowed d (connection :: held) scopes (f connection)) :
      Program allowed d held scopes (m.useConnection f)
  | useTransaction {α : Type} {held : List Nat} {scopes : List Transaction} {m : Manager σ}
      (hsource : m.driver = d) (isolation : Option Isolation) {rule : Error → Session σ Bool}
      {body : Transaction → Session σ α} (hasked : ∀ e, Program allowed d held scopes (rule e))
      (hinner : ∀ t, Program allowed d held (t :: scopes) (body t)) :
      Program allowed d held scopes (m.useTransactionAsking isolation rule body)
  | current {α : Type} {held : List Nat} {scopes : List Transaction} {m : Manager σ}
      (hsource : m.driver = d) {f : Option Transaction → Session σ α}
      (hbound : ∀ t, Program allowed d held (t :: scopes) (f (some t)))
      (hfree : Program allowed d held scopes (f none)) :
      Program allowed d held scopes (m.current? >>= f)
  | withConnection {α : Type} {held : List Nat} {scopes : List Transaction} {t : Transaction}
      (hisLent : t ∈ scopes) {f : Nat → Session σ α}
      (hinner : ∀ connection, Program allowed d (connection :: held) scopes (f connection)) :
      Program allowed d held scopes (t.withConnection d f)
  | commit {held : List Nat} {scopes : List Transaction} {t : Transaction}
      (hisLent : t ∈ scopes) : Program allowed d held scopes (t.commit d)
  | rollback {held : List Nat} {scopes : List Transaction} {t : Transaction}
      (hisLent : t ∈ scopes) : Program allowed d held scopes (t.rollback d)
  | close {held : List Nat} {scopes : List Transaction} {t : Transaction}
      (hisLent : t ∈ scopes) : Program allowed d held scopes (t.close d)

namespace Program

variable {allowed : Call → Prop} {d : Driver σ} {held : List Nat} {scopes : List Transaction}

theorem mono {held' : List Nat} {x : Session σ α} (h : Program allowed d held scopes x)
    (hsubset : held ⊆ held') : Program allowed d held' scopes x := by
  induction h generalizing held' with
  | pure a => exact .pure a
  | throw e => exact .throw e
  | bind hfirst hrest ihFirst ihRest =>
      exact .bind (ihFirst hsubset) fun a ha => ihRest a ha hsubset
  | attempt hinner ih => exact .attempt (ih hsubset)
  | look f => exact .look f
  | report f => exact .report f
  | enrol f => exact .enrol f
  | readMetadata => exact .readMetadata
  | call c hisHeld hisBorrowed hisAllowed => exact .call c (hsubset hisHeld) hisBorrowed hisAllowed
  | useConnection hsource hinner ih =>
      exact .useConnection hsource fun connection =>
        ih connection (List.cons_subset_cons connection hsubset)
  | useTransaction hsource isolation hasked hinner ihAsked ih =>
      exact .useTransaction hsource isolation (fun e => ihAsked e hsubset) fun t => ih t hsubset
  | current hsource hbound hfree ihBound ihFree =>
      exact .current hsource (fun t => ihBound t hsubset) (ihFree hsubset)
  | withConnection hisLent hinner ih =>
      exact .withConnection hisLent fun connection =>
        ih connection (List.cons_subset_cons connection hsubset)
  | commit hisLent => exact .commit hisLent
  | rollback hisLent => exact .rollback hisLent
  | close hisLent => exact .close hisLent

/-- A program that may run statements has every operation of its databases. -/
theorem hosts {m : Manager σ} (hsource : m.driver = d)
    (hstatements : ∀ c : Call, c.isStatement → allowed c) :
    m.Hosts fun _ held x => Program allowed d held scopes x where
  pure := .pure
  throw := .throw
  bind := .bind
  attempt := .attempt
  report := .report
  call c hisHeld hc hisStatement := by
    rw [hsource]
    exact .call c hisHeld
      (Call.isBorrowed_of_isUse (Call.isUse_of_isStatement hisStatement hc))
      (hstatements c hisStatement)
  useConnection := .useConnection hsource
  mono := mono

theorem ofManager {m : Manager σ} (hsource : m.driver = d) (isolation : Option Isolation)
    (rollsBack : Error → Bool) {body : Transaction → Session σ α}
    (hinner : ∀ t, Program allowed d held (t :: scopes) (body t)) :
    Program allowed d held scopes (m.useTransaction isolation rollsBack body) := by
  rw [← m.useTransactionAsking_pure isolation rollsBack body]
  exact .useTransaction hsource isolation (fun e => .pure (rollsBack e)) hinner

theorem log (level : LogLevel) (source : LogSource) (message : String) :
    Program allowed d held scopes (Session.log level source message) :=
  .report (·.add ⟨level, source, message⟩)

theorem accept (accepted : Except ConfigurationFault α) :
    Program allowed d held scopes (Database.accept accepted) := by
  cases accepted with
  | ok a => exact .pure a
  | error fault => exact .bind (.log _ _ _) fun _ _ => .throw _

theorem detect (registry : DialectRegistry) (m : StoreMetadata) :
    Program allowed d held scopes (Database.detect registry m) := by
  unfold Database.detect
  cases registry.detect m with
  | error fault => exact .throw _
  | ok dialect =>
      simp only
      split
      · exact .bind (.log _ _ _) fun _ _ => .pure _
      · exact .pure _

private theorem enrolled {f : Nat → Session σ α}
    (h : ∀ id, Program allowed d held scopes (f id)) :
    Program allowed d held scopes (do
      let w ← get
      set { w with managers := w.managers + 1 }
      f w.managers) :=
  .bind (x := do return World.managers (← get)) (.look _) fun id _ =>
    .bind (.enrol (· + 1)) fun _ _ => h id

/-- Building a database is part of a program, whoever owns the transactions. -/
theorem build (o : DatabaseOptions) (named : Driver σ) {provider : Option (Driver σ)}
    (hsource : provider.getD named = d) :
    Program allowed d held scopes (Database.build o named provider) := by
  unfold Database.build
  rw [hsource]
  extract_lets assemble
  have hassembled (r : PUnit) : Program allowed d held scopes (assemble r) := by
    refine .bind .readMetadata fun metadata _ => ?_
    extract_lets config withDialect
    have hdialected (dialect : Dialect) : Program allowed d held scopes (withDialect dialect) := by
      refine .bind (.accept _) fun codecs _ => ?_
      extract_lets withManager
      have hmanaged (manager : Manager σ) : Program allowed d held scopes (withManager manager) :=
        .bind (.log _ _ _) fun _ _ => .pure _
      cases provider with
      | some provider => exact hmanaged (.external provider)
      | none => exact enrolled fun id => hmanaged (.threaded id named o.isolation)
    cases o.dialect with
    | some dialect => exact hdialected dialect
    | none => exact .bind (.detect _ _) fun dialect _ => hdialected dialect
  split
  · exact .bind (.report fun l => l.ensure.2) fun r _ => hassembled r
  · exact hassembled ()

end Program

/-- A program that may make every call itself. -/
inductive Client (d : Driver σ) : {α : Type} → List Nat → List Transaction → Session σ α → Prop
  | pure {α : Type} {held : List Nat} {scopes : List Transaction} (a : α) :
      Client d held scopes (pure a)
  | throw {α : Type} {held : List Nat} {scopes : List Transaction} (e : Error) :
      Client d held scopes (throw e : Session σ α)
  | bind {α β : Type} {held : List Nat} {scopes : List Transaction} {x : Session σ α}
      {f : α → Session σ β} (hfirst : Client d held scopes x)
      (hrest : ∀ a, x.Gives a → Client d held scopes (f a)) : Client d held scopes (x >>= f)
  | attempt {α : Type} {held : List Nat} {scopes : List Transaction} {x : Session σ α}
      (hinner : Client d held scopes x) : Client d held scopes x.attempt
  | look {α : Type} {held : List Nat} {scopes : List Transaction} (f : World σ → α) :
      Client d held scopes (do return f (← get))
  | report {held : List Nat} {scopes : List Transaction} (f : Logging → Logging) :
      Client d held scopes (modify fun w => { w with logging := f w.logging })
  | enrol {held : List Nat} {scopes : List Transaction} (f : Nat → Nat) :
      Client d held scopes (modify fun w => { w with managers := f w.managers })
  | readMetadata {held : List Nat} {scopes : List Transaction} :
      Client d held scopes (Database.readMetadata d)
  | call {held : List Nat} {scopes : List Transaction} {connection : Nat} (c : Call)
      (hisHeld : connection ∈ held) (hisBorrowed : c.isBorrowed connection) :
      Client d held scopes (Session.call d c)
  | useConnection {α : Type} {held : List Nat} {scopes : List Transaction} {m : Manager σ}
      (hsource : m.driver = d) {f : Nat → Session σ α}
      (hinner : ∀ connection, Client d (connection :: held) scopes (f connection)) :
      Client d held scopes (m.useConnection f)
  | useTransaction {α : Type} {held : List Nat} {scopes : List Transaction} {m : Manager σ}
      (hsource : m.driver = d) (isolation : Option Isolation) {rule : Error → Session σ Bool}
      {body : Transaction → Session σ α} (hasked : ∀ e, Client d held scopes (rule e))
      (hinner : ∀ t, Client d held (t :: scopes) (body t)) :
      Client d held scopes (m.useTransactionAsking isolation rule body)
  | current {α : Type} {held : List Nat} {scopes : List Transaction} {m : Manager σ}
      (hsource : m.driver = d) {f : Option Transaction → Session σ α}
      (hbound : ∀ t, Client d held (t :: scopes) (f (some t)))
      (hfree : Client d held scopes (f none)) : Client d held scopes (m.current? >>= f)
  | withConnection {α : Type} {held : List Nat} {scopes : List Transaction} {t : Transaction}
      (hisLent : t ∈ scopes) {f : Nat → Session σ α}
      (hinner : ∀ connection, Client d (connection :: held) scopes (f connection)) :
      Client d held scopes (t.withConnection d f)
  | commit {held : List Nat} {scopes : List Transaction} {t : Transaction}
      (hisLent : t ∈ scopes) : Client d held scopes (t.commit d)
  | rollback {held : List Nat} {scopes : List Transaction} {t : Transaction}
      (hisLent : t ∈ scopes) : Client d held scopes (t.rollback d)
  | close {held : List Nat} {scopes : List Transaction} {t : Transaction}
      (hisLent : t ∈ scopes) : Client d held scopes (t.close d)

namespace Client

variable {d : Driver σ} {held : List Nat} {scopes : List Transaction}

theorem program {x : Session σ α} (h : Client d held scopes x) :
    Program (fun _ => True) d held scopes x := by
  induction h with
  | pure a => exact .pure a
  | throw e => exact .throw e
  | bind hfirst hrest ihFirst ihRest => exact .bind ihFirst ihRest
  | attempt hinner ih => exact .attempt ih
  | look f => exact .look f
  | report f => exact .report f
  | enrol f => exact .enrol f
  | readMetadata => exact .readMetadata
  | call c hisHeld hisBorrowed => exact .call c hisHeld hisBorrowed trivial
  | useConnection hsource hinner ih => exact .useConnection hsource ih
  | useTransaction hsource isolation hasked hinner ihAsked ih =>
      exact .useTransaction hsource isolation ihAsked ih
  | current hsource hbound hfree ihBound ihFree => exact .current hsource ihBound ihFree
  | withConnection hisLent hinner ih => exact .withConnection hisLent ih
  | commit hisLent => exact .commit hisLent
  | rollback hisLent => exact .rollback hisLent
  | close hisLent => exact .close hisLent

theorem of_program {allowed : Call → Prop} {x : Session σ α}
    (h : Program allowed d held scopes x) : Client d held scopes x := by
  induction h with
  | pure a => exact .pure a
  | throw e => exact .throw e
  | bind hfirst hrest ihFirst ihRest => exact .bind ihFirst ihRest
  | attempt hinner ih => exact .attempt ih
  | look f => exact .look f
  | report f => exact .report f
  | enrol f => exact .enrol f
  | readMetadata => exact .readMetadata
  | call c hisHeld hisBorrowed hisAllowed => exact .call c hisHeld hisBorrowed
  | useConnection hsource hinner ih => exact .useConnection hsource ih
  | useTransaction hsource isolation hasked hinner ihAsked ih =>
      exact .useTransaction hsource isolation ihAsked ih
  | current hsource hbound hfree ihBound ihFree => exact .current hsource ihBound ihFree
  | withConnection hisLent hinner ih => exact .withConnection hisLent ih
  | commit hisLent => exact .commit hisLent
  | rollback hisLent => exact .rollback hisLent
  | close hisLent => exact .close hisLent

theorem iff_program {x : Session σ α} :
    Client d held scopes x ↔ Program (fun _ => True) d held scopes x :=
  ⟨program, of_program⟩

theorem hosts {m : Manager σ} (hsource : m.driver = d) :
    m.Hosts fun _ held x => Client d held scopes x := by
  simpa only [iff_program] using Program.hosts hsource fun _ _ => trivial

theorem ofManager {m : Manager σ} (hsource : m.driver = d) (isolation : Option Isolation)
    (rollsBack : Error → Bool) {body : Transaction → Session σ α}
    (hinner : ∀ t, Client d held (t :: scopes) (body t)) :
    Client d held scopes (m.useTransaction isolation rollsBack body) :=
  of_program (.ofManager hsource isolation rollsBack fun t => (hinner t).program)

theorem build (o : DatabaseOptions) (named : Driver σ) {provider : Option (Driver σ)}
    (hsource : provider.getD named = d) :
    Client d held scopes (Database.build o named provider) :=
  iff_program.mpr (.build o named hsource)

end Client

namespace Database

theorem of_detect {registry : DialectRegistry} {m : StoreMetadata} {dialect : Dialect}
    (h : (detect registry m : Session σ Dialect).Gives dialect) :
    registry.detect m = .ok dialect := by
  unfold detect at h
  cases hfound : registry.detect m with
  | error fault =>
      rw [hfound] at h
      obtain ⟨w, w', hrefused⟩ := h
      cases hrefused
  | ok d =>
      rw [hfound] at h
      simp only at h
      split at h
      · obtain ⟨_, -, h⟩ := h.of_bind
        rw [h.of_pure]
      · rw [h.of_pure]

theorem of_accept {β : Type} {accepted : Except ConfigurationFault β} {b : β}
    (h : (accept accepted : Session σ β).Gives b) : accepted = .ok b := by
  cases accepted with
  | ok b' => rw [h.of_pure]
  | error fault =>
      obtain ⟨w, w', hrefused⟩ := h
      cases hrefused

/-- What a database is built of: the store's description of itself, the dialect asked for or else
the one that recognizes the store, and connections from whoever gave the description. -/
structure IsBuilt (o : DatabaseOptions) (named : Driver σ) (provider : Option (Driver σ))
    (db : Database σ) : Prop where
  driver : db.driver = named
  source : db.manager.driver = provider.getD named
  dialect : o.dialect.elim (o.registry.detect db.settings.metadata) Except.ok =
    .ok db.settings.dialect
  config : db.settings.config = o.config db.settings.metadata
  writer : db.settings.writer = .of db.settings.dialect db.settings.config
  codecs : CodecRegistry.registerAll ⟨named.wireTypes, []⟩ o.codecs = .ok db.settings.codecs

theorem isBuilt_of_build {o : DatabaseOptions} {named : Driver σ} {provider : Option (Driver σ)}
    {db : Database σ} (h : (build o named provider).Gives db) : db.IsBuilt o named provider := by
  unfold build at h
  extract_lets assemble at h
  have hassembled (r : PUnit) (h : (assemble r).Gives db) : db.IsBuilt o named provider := by
    obtain ⟨metadata, -, h⟩ := h.of_bind
    extract_lets config withDialect at h
    have hdialected (dialect : Dialect)
        (hfound : o.dialect.elim (o.registry.detect metadata) Except.ok = .ok dialect)
        (h : (withDialect dialect).Gives db) : db.IsBuilt o named provider := by
      obtain ⟨codecs, haccepted, h⟩ := h.of_bind
      extract_lets withManager at h
      have hmanaged (manager : Manager σ) (hsource : manager.driver = provider.getD named)
          (h : (withManager manager).Gives db) : db.IsBuilt o named provider := by
        obtain ⟨_, -, h⟩ := h.of_bind
        rw [← h.of_pure]
        exact ⟨rfl, hsource, hfound, rfl, rfl, of_accept haccepted⟩
      cases provider with
      | some provider => exact hmanaged (.external provider) rfl h
      | none =>
          obtain ⟨w, -, h⟩ := h.of_bind
          obtain ⟨_, -, h⟩ := h.of_bind
          exact hmanaged (.threaded w.managers named o.isolation) rfl h
    cases hdialect : o.dialect with
    | some dialect =>
        rw [hdialect] at h hdialected
        exact hdialected dialect rfl h
    | none =>
        rw [hdialect] at h hdialected
        obtain ⟨dialect, hfound, h⟩ := h.of_bind
        exact hdialected dialect (of_detect hfound) h
  split at h
  · obtain ⟨r, -, h⟩ := h.of_bind
    exact hassembled r h
  · exact hassembled () h

end Database

namespace Client

theorem driver_of_build {o : DatabaseOptions} {named : Driver σ} {provider : Option (Driver σ)}
    {db : Database σ} (h : (Database.build o named provider).Gives db) :
    db.manager.driver = provider.getD named :=
  (Database.isBuilt_of_build h).source

end Client

end TypedSql
