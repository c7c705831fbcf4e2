import Mathlib.Logic.Function.Basic
import TypedSql.Proofs.Session.Acts

namespace TypedSql

/-! Threads that use managers at the same time.  Each of them is inside some scopes, and one after
the other they enter scopes, run statements and leave scopes, in any order. -/

variable {σ α : Type}

open Exchange Session Transaction

/-- A scope of a thread that has not ended.  Its owner is the scope that has begun the
transaction. -/
structure OpenScope where
  transaction : Transaction
  isOwner : Bool
  rollsBack : Error → Bool

namespace Manager

def enter (m : Manager σ) (wanted : Option Isolation) (rollsBack : Error → Bool) :
    Session σ OpenScope := do
  match ← m.current? with
  | some t => return ⟨t, false, rollsBack⟩
  | none =>
      let t ← m.begin (wanted.or m.defaultIsolation)
      return ⟨t, true, rollsBack⟩

def leave (m : Manager σ) (scope : OpenScope) (outcome : Except Error α) : Session σ α :=
  if scope.isOwner then m.finish scope.transaction scope.rollsBack outcome else conclude outcome

section

variable {m : Manager σ} {wanted : Option Isolation} {rollsBack : Error → Bool} {w : World σ}
  {t : Transaction}

theorem begin_of_bound {id : Nat} (n : Driver σ) (isolation : Option Isolation)
    (h : w.current? id = some t) :
    (threaded id n isolation).begin wanted w = (.error (.usage .transactionActive), w) := by
  simp [begin, Run.bind_apply, h]

theorem enter_of_bound (h : m.bound? w = some t) :
    m.enter wanted rollsBack w = (.ok ⟨t, false, rollsBack⟩, w) := by
  rw [enter, Run.bind_ok (m.current?_apply w), h]
  rfl

theorem enter_of_free (h : m.bound? w = none) :
    m.enter wanted rollsBack w =
      ((m.begin (wanted.or m.defaultIsolation) w).1.map fun t => ⟨t, true, rollsBack⟩,
        (m.begin (wanted.or m.defaultIsolation) w).2) := by
  rw [enter, Run.bind_ok (m.current?_apply w), h]
  simp only [Run.bind_apply]
  cases m.begin (wanted.or m.defaultIsolation) w with
  | mk result w' => cases result <;> rfl

/-- A thread that runs a scope enters it, runs its body, and leaves it with the body's outcome. -/
theorem useTransaction_eq (m : Manager σ) (wanted : Option Isolation) (rollsBack : Error → Bool)
    (body : Transaction → Session σ α) :
    m.useTransaction wanted rollsBack body = (do
      let scope ← m.enter wanted rollsBack
      m.leave scope (← (body scope.transaction).attempt)) := by
  funext w
  have hcurrent := m.current?_apply w
  cases hbound : m.bound? w with
  | some t =>
      rw [hbound] at hcurrent
      rw [Run.bind_ok (enter_of_bound hbound), useTransaction_of_current hcurrent]
      simp only [leave, conclude, Run.bind_apply, Run.attempt_apply, Run.ofExcept_apply,
        Bool.false_eq_true, if_false]
      rfl
  | none =>
      rw [hbound] at hcurrent
      rw [useTransaction, Run.bind_ok hcurrent]
      simp only [Run.bind_apply, enter_of_free hbound]
      cases m.begin (wanted.or m.defaultIsolation) w with
      | mk result w' =>
          cases result with
          | ok t => simp [leave, Except.map]
          | error e => rfl

end

end Manager

/-- All threads of a program: the world that they share, the scopes that each of them is inside of,
the innermost first, and the transactions that it has been handed so far. -/
structure Threads (σ : Type) where
  world : World (σ × List Exchange)
  scopes : Nat → List OpenScope
  handles : Nat → List Transaction

structure Managers (σ : Type) where
  driver : Nat → Driver σ
  isolation : Nat → Option Isolation

namespace Managers

def manager (ms : Managers σ) (id : Nat) : Manager (σ × List Exchange) :=
  .threaded id (ms.driver id).traced (ms.isolation id)

end Managers

/-- What a thread does next.  A scope that is left has an outcome of its body, which is a panic
while the thread unwinds.  A transaction that was handed out may be ended or closed at any time,
also when its scope is over. -/
inductive Action (ms : Managers σ) where
  | begin (manager : Nat) (isolation : Option Isolation)
  | enter (manager : Nat) (wanted : Option Isolation) (rollsBack : Error → Bool)
  | run (manager : Nat) (code : Session (σ × List Exchange) Unit)
      (huses : Uses (ms.manager manager) [] code)
  | settle (handle : Nat) (rolledBack : Bool)
  | close (handle : Nat)
  | leave (outcome : Except Error Unit)

namespace Threads

variable {ms : Managers σ}

def manager? (S : Threads σ) (thread : Nat) : Action ms → Option Nat
  | .begin manager _ | .enter manager _ _ | .run manager _ _ => some manager
  | .settle handle _ | .close handle => (S.handles thread)[handle]?.map Transaction.manager
  | .leave _ => (S.scopes thread).head?.map fun scope => scope.transaction.manager

def hand (S : Threads σ) (thread : Nat) (t : Transaction) : Threads σ :=
  { S with handles := Function.update S.handles thread (t :: S.handles thread) }

def step (S : Threads σ) (thread : Nat) (action : Action ms) : Threads σ :=
  let w := S.world.on thread
  match action with
  | .begin manager isolation =>
      match (ms.manager manager).begin isolation w with
      | (.ok t, world) => { S with world }.hand thread t
      | (.error _, world) => { S with world }
  | .enter manager wanted rollsBack =>
      match (ms.manager manager).enter wanted rollsBack w with
      | (.ok scope, world) =>
          let scopes := Function.update S.scopes thread (scope :: S.scopes thread)
          { S with world, scopes }.hand thread scope.transaction
      | (.error _, world) => { S with world }
  | .run _ code _ => { S with world := (code w).2 }
  | .settle handle rolledBack =>
      match (S.handles thread)[handle]? with
      | some t => { S with world := (t.settle (ms.driver t.manager).traced rolledBack w).2 }
      | none => { S with world := w }
  | .close handle =>
      match (S.handles thread)[handle]? with
      | some t => { S with world := (t.close (ms.driver t.manager).traced w).2 }
      | none => { S with world := w }
  | .leave outcome =>
      match S.scopes thread with
      | scope :: rest =>
          { S with
            world := ((ms.manager scope.transaction.manager).leave scope outcome w).2
            scopes := Function.update S.scopes thread rest }
      | [] => { S with world := w }

def start (store : σ) : Threads σ :=
  ⟨{ store := (store, []) }, fun _ => [], fun _ => []⟩

def run (S : Threads σ) (events : List (Nat × Action ms)) : Threads σ :=
  events.foldl (fun S event => S.step event.1 event.2) S

/-- The transactions that belong to a thread and a manager: what is bound there, and what the thread
has been handed. -/
def Has (S : Threads σ) (key : Nat × Nat) (t : Transaction) : Prop :=
  (key, t) ∈ S.world.bound ∨ t ∈ S.handles key.1 ∧ t.manager = key.2

/-- The transactions of all scopes have been handed to their threads. -/
def Lent (S : Threads σ) : Prop :=
  ∀ thread, ∀ scope ∈ S.scopes thread, scope.transaction ∈ S.handles thread

/-- What holds between the actions of the threads. -/
structure Sound (S : Threads σ) : Prop where
  quiet : S.world.Quiet
  keys : (S.world.bound.map Prod.fst).Nodup
  manager : ∀ key t, S.Has key t → t.manager = key.2
  inRange : ∀ key t, S.Has key t → t.id < S.world.transactions.length
  apart : ∀ key key' t t', S.Has key t → S.Has key' t' → t.id = t'.id → key = key'
  lent : S.Lent

section

variable {S S' : Threads σ} {i : Nat} {key : Option (Nat × Nat)} {own : Option Transaction}
  {es : List Exchange} {t : Transaction}

theorem Lent.hand (h : S.Lent) (i : Nat) (t : Transaction) : (S.hand i t).Lent := by
  intro thread scope hmem
  have hbefore := h thread scope hmem
  by_cases hthread : thread = i
  · subst hthread
    simp only [Threads.hand, Function.update_self]
    exact List.mem_cons_of_mem _ hbefore
  · simp only [Threads.hand, Function.update_of_ne hthread]
    exact hbefore

theorem Lent.enter (h : S.Lent) (i : Nat) (scope : OpenScope) :
    ({ S with scopes := Function.update S.scopes i (scope :: S.scopes i) }.hand i
      scope.transaction).Lent := by
  intro thread scope' hmem
  by_cases hthread : thread = i
  · subst hthread
    simp only [Threads.hand, Function.update_self, List.mem_cons] at hmem ⊢
    rcases hmem with rfl | hmem
    · exact .inl rfl
    · exact .inr (h thread scope' hmem)
  · simp only [Threads.hand, Function.update_of_ne hthread] at hmem ⊢
    exact h thread scope' hmem

theorem Lent.leave (h : S.Lent) {scope : OpenScope} {rest : List OpenScope}
    (hscopes : S.scopes i = scope :: rest) :
    Lent { S with scopes := Function.update S.scopes i rest } := by
  intro thread scope' hmem
  by_cases hthread : thread = i
  · subst hthread
    simp only [Function.update_self] at hmem
    exact h thread scope' (by rw [hscopes]; exact List.mem_cons_of_mem _ hmem)
  · simp only [Function.update_of_ne hthread] at hmem
    exact h thread scope' hmem

theorem Lent.step (h : S.Lent) (i : Nat) (action : Action ms) : (S.step i action).Lent := by
  cases action with
  | begin manager isolation =>
      simp only [Threads.step]
      split
      · exact h.hand i _
      · exact h
  | enter manager wanted rollsBack =>
      simp only [Threads.step]
      split
      · exact h.enter i _
      · exact h
  | run manager code huses => exact h
  | settle handle rolledBack =>
      simp only [Threads.step]
      split
      · exact h
      · exact h
  | close handle =>
      simp only [Threads.step]
      split
      · exact h
      · exact h
  | leave outcome =>
      simp only [Threads.step]
      split
      case _ hscopes => exact h.leave hscopes
      case _ => exact h

theorem Has.of_handle (h : t ∈ S.handles i) : S.Has (i, t.manager) t :=
  .inr ⟨h, rfl⟩

theorem mem_handles_of_hand {thread : Nat} {t' : Transaction}
    (h : t' ∈ (S.hand i t).handles thread) : t' ∈ S.handles thread ∨ thread = i ∧ t' = t := by
  by_cases hthread : thread = i
  · subst hthread
    simp only [hand, Function.update_self, List.mem_cons] at h
    exact h.symm.imp_right fun hsame => ⟨rfl, hsame⟩
  · simp only [hand, Function.update_of_ne hthread] at h
    exact .inl h

theorem Has.of_unhanded (hbound : S'.world.bound ⊆ S.world.bound)
    (hhandles : S'.handles = S.handles) (key : Nat × Nat) (t : Transaction) (h : S'.Has key t) :
    S.Has key t := by
  rcases h with h | h
  · exact .inl (hbound h)
  · exact .inr (hhandles ▸ h)

/-- An action that does something with one transaction at most, which its thread has. -/
structure Does (S : Threads σ) (i : Nat) (manager : Option Nat) (own : Option Transaction)
    (es : List Exchange) (S' : Threads σ) : Prop where
  acts : World.Acts (manager.map (i, ·)) own (S.world.on i) es S'.world
  own : ∀ t ∈ own, ∃ k ∈ manager, S.Has (i, k) t
  has : ∀ key t, S'.Has key t → S.Has key t

/-- An action that begins a transaction, where there is none. -/
structure Begins (S : Threads σ) (i : Nat) (manager : Option Nat) (t : Transaction)
    (S' : Threads σ) : Prop where
  id : t.id = S.world.transactions.length
  manager : manager = some t.manager
  free : (S.world.on i).current? t.manager = none
  world : ∃ logging, S'.world = { (S.world.on i).begun t with logging }
  handles : S'.handles = (S.hand i t).handles

inductive Steps (S : Threads σ) (i : Nat) (manager : Option Nat) (S' : Threads σ) : Prop
  | does (own : Option Transaction) (es : List Exchange) (hdoes : S.Does i manager own es S')
  | begins (t : Transaction) (hbegins : S.Begins i manager t S')

theorem Steps.silent {manager : Option Nat} (h : S'.world = S.world.on i)
    (hhas : ∀ key t, S'.Has key t → S.Has key t) : S.Steps i manager S' := by
  refine .does none [] ⟨?_, by simp, hhas⟩
  rw [h]
  exact .of_exchanged (.refl _) (by simp) (confined_nil _)

theorem Steps.of_exchanged {manager : Option Nat} (hmade : (S.world.on i).Exchanged es S'.world)
    (hconfined : Confined [] es) (hhandles : S'.handles = S.handles) : S.Steps i manager S' := by
  refine .does none es ⟨.of_exchanged hmade (by simp) hconfined, by simp, ?_⟩
  exact Has.of_unhanded (by rw [hmade.bound]; exact List.Subset.refl S.world.bound) hhandles

theorem Steps.of_acts {manager : Nat} (hhas : S.Has (i, manager) t)
    (hacts : World.Acts (some (i, manager)) (some t) (S.world.on i) es S'.world)
    (hhandles : S'.handles = S.handles) : S.Steps i (some manager) S' := by
  refine .does (some t) es ⟨hacts, ?_, Has.of_unhanded hacts.bound.subset hhandles⟩
  rintro t' ⟨⟩
  exact ⟨manager, rfl, hhas⟩

theorem Sound.does (h : S.Sound) {manager : Option Nat} (hdoes : S.Does i manager own es S')
    (hlent : S'.Lent) : S'.Sound where
  quiet := (h.quiet.on i).acts hdoes.acts
  keys := (hdoes.acts.bound.map Prod.fst).nodup h.keys
  manager key t ht := h.manager key t (hdoes.has key t ht)
  inRange key t ht := by
    rw [hdoes.acts.length]
    exact h.inRange key t (hdoes.has key t ht)
  apart key key' t t' ht ht' := h.apart key key' t t' (hdoes.has key t ht) (hdoes.has key' t' ht')
  lent := hlent

namespace Begins

variable {manager : Option Nat}

theorem bound (h : S.Begins i manager t S') :
    S'.world.bound = ((i, t.manager), t) :: S.world.bound := by
  obtain ⟨logging, hworld⟩ := h.world
  rw [hworld]
  rfl

theorem trace (h : S.Begins i manager t S') : S'.world.trace = S.world.trace := by
  obtain ⟨logging, hworld⟩ := h.world
  rw [hworld]
  rfl

theorem length (h : S.Begins i manager t S') :
    S'.world.transactions.length = S.world.transactions.length + 1 := by
  obtain ⟨logging, hworld⟩ := h.world
  rw [hworld]
  exact List.length_append

theorem state (h : S.Begins i manager t S') (t' : Transaction) :
    S'.world.state t' = S.world.state t' := by
  obtain ⟨logging, hworld⟩ := h.world
  rw [hworld]
  exact World.state_begun_eq t t'

theorem has (h : S.Begins i manager t S') {key : Nat × Nat} {t' : Transaction}
    (ht' : S'.Has key t') : S.Has key t' ∨ key = (i, t.manager) ∧ t' = t := by
  rcases ht' with hbound | ⟨hmem, hmanager⟩
  · rw [h.bound, List.mem_cons] at hbound
    rcases hbound with hsame | hbound
    · exact .inr (Prod.mk.inj hsame)
    · exact .inl (.inl hbound)
  · rw [h.handles] at hmem
    rcases mem_handles_of_hand hmem with hmem | ⟨hthread, rfl⟩
    · exact .inl (.inr ⟨hmem, hmanager⟩)
    · exact .inr ⟨Prod.ext hthread hmanager.symm, rfl⟩

end Begins

/-- A transaction that begins is a new one, and the only one that is bound to its thread and
manager. -/
theorem Sound.begun (h : S.Sound) {manager : Option Nat} (hbegins : S.Begins i manager t S')
    (hlent : S'.Lent) : S'.Sound := by
  refine ⟨⟨?_, ?_, ?_⟩, ?_, ?_, ?_, ?_, hlent⟩
  · intro t'
    rw [hbegins.state, h.quiet.idle]
  · intro t' k hk
    rw [connections, hbegins.state] at hk
    rw [hbegins.trace]
    exact h.quiet.opened t' k hk
  · intro hfresh t₁ t₂ hother k hk hk'
    rw [connections, hbegins.state] at hk hk'
    rw [hbegins.trace] at hfresh
    exact h.quiet.disjoint hfresh t₁ t₂ hother k hk hk'
  · rw [hbegins.bound, List.map_cons, List.nodup_cons]
    refine ⟨?_, h.keys⟩
    intro hmem
    obtain ⟨⟨key, t'⟩, hbound, rfl⟩ := List.mem_map.mp hmem
    have hcurrent := World.current?_of_mem (w := S.world.on i) h.keys hbound
    rw [hbegins.free] at hcurrent
    cases hcurrent
  · intro key t' ht'
    rcases hbegins.has ht' with ht' | ⟨rfl, rfl⟩
    · exact h.manager key t' ht'
    · rfl
  · intro key t' ht'
    rw [hbegins.length]
    rcases hbegins.has ht' with ht' | ⟨-, rfl⟩
    · exact Nat.lt_succ_of_lt (h.inRange key t' ht')
    · rw [hbegins.id]
      exact Nat.lt_succ_self _
  · intro key key' t₁ t₂ h₁ h₂ hsame
    rcases hbegins.has h₁ with h₁ | ⟨rfl, rfl⟩
    · rcases hbegins.has h₂ with h₂ | ⟨rfl, rfl⟩
      · exact h.apart key key' t₁ t₂ h₁ h₂ hsame
      · have hbefore := h.inRange key t₁ h₁
        rw [hsame, hbegins.id] at hbefore
        exact absurd hbefore (Nat.lt_irrefl _)
    · rcases hbegins.has h₂ with h₂ | ⟨rfl, rfl⟩
      · have hbefore := h.inRange key' t₂ h₂
        rw [← hsame, hbegins.id] at hbefore
        exact absurd hbefore (Nat.lt_irrefl _)
      · rfl

theorem begin_steps (S : Threads σ) (i manager : Nat) (isolation : Option Isolation) :
    S.Steps i (some manager) (S.step i (.begin manager isolation : Action ms)) := by
  cases hcurrent : (S.world.on i).current? manager with
  | some t =>
      have hrefused : (ms.manager manager).begin isolation (S.world.on i) =
          (.error (.usage .transactionActive), S.world.on i) :=
        Manager.begin_of_bound _ _ hcurrent
      simp only [step, hrefused]
      exact .silent rfl fun _ _ h => h
  | none =>
      obtain ⟨logging, hbegin⟩ := Manager.begin_of_free (ms.driver manager).traced
        (ms.isolation manager) hcurrent isolation
      have hbegun : (ms.manager manager).begin isolation (S.world.on i) = _ := hbegin
      simp only [step, hbegun]
      exact .begins _ ⟨rfl, rfl, hcurrent, ⟨logging, rfl⟩, rfl⟩

theorem Sound.enter_steps (h : S.Sound) (i manager : Nat) (wanted : Option Isolation)
    (rollsBack : Error → Bool) :
    S.Steps i (some manager) (S.step i (.enter manager wanted rollsBack : Action ms)) := by
  cases hcurrent : (S.world.on i).current? manager with
  | some t =>
      have hentered : (ms.manager manager).enter wanted rollsBack (S.world.on i) =
          (.ok ⟨t, false, rollsBack⟩, S.world.on i) := Manager.enter_of_bound hcurrent
      simp only [step, hentered]
      refine .silent rfl ?_
      -- A scope that joins is handed the transaction that is bound, so the thread has it already.
      have hbound : S.Has (i, manager) t := .inl (World.mem_of_current? hcurrent)
      rintro key t' (hbound | ⟨hmem, hmanager⟩)
      · exact .inl hbound
      · rcases mem_handles_of_hand hmem with hmem | ⟨hthread, rfl⟩
        · exact .inr ⟨hmem, hmanager⟩
        · have hsame : key = (i, manager) :=
            Prod.ext hthread (hmanager.symm.trans (h.manager _ t' hbound))
          rw [hsame]
          exact hbound
  | none =>
      obtain ⟨logging, hbegin⟩ := Manager.begin_of_free (ms.driver manager).traced
        (ms.isolation manager) hcurrent (wanted.or (ms.isolation manager))
      have hbegun : (ms.manager manager).begin (wanted.or (ms.manager manager).defaultIsolation)
          (S.world.on i) = _ := hbegin
      have hentered : (ms.manager manager).enter wanted rollsBack (S.world.on i) = _ :=
        Manager.enter_of_free hcurrent
      rw [hbegun] at hentered
      simp only [step, hentered, Except.map]
      exact .begins _ ⟨rfl, rfl, hcurrent, ⟨logging, rfl⟩, rfl⟩

theorem Sound.run_steps (h : S.Sound) (i manager : Nat)
    {code : Session (σ × List Exchange) Unit} (huses : Uses (ms.manager manager) [] code) :
    S.Steps i (some manager) (S.step i (.run manager code huses)) := by
  cases hcurrent : (S.world.on i).current? manager with
  | none =>
      obtain ⟨es, hmade, hconfined⟩ := Uses.confined (d := ms.driver manager) rfl huses hcurrent
      exact .of_exchanged hmade hconfined rfl
  | some t =>
      have hbound : S.Has (i, manager) t := .inl (World.mem_of_current? hcurrent)
      obtain rfl : t.manager = manager := h.manager _ t hbound
      obtain ⟨es, hserves⟩ := Uses.serves (t := t) rfl huses hcurrent (h.inRange _ t hbound)
        (fun _ hmem => absurd hmem List.not_mem_nil)
      exact .of_acts hbound (.of_serves hserves (h.quiet.idle t)) rfl

theorem Sound.settle_steps (h : S.Sound) (i handle : Nat) (rolledBack : Bool) :
    S.Steps i ((S.handles i)[handle]?.map Transaction.manager)
      (S.step i (.settle handle rolledBack : Action ms)) := by
  simp only [step]
  cases hhandle : (S.handles i)[handle]? with
  | none => exact .silent rfl fun _ _ h => h
  | some t =>
      obtain ⟨es, hacts⟩ := settle_acts (d := ms.driver t.manager) (w := S.world.on i)
        (h.quiet.idle t) rolledBack
      exact .of_acts (.of_handle (List.mem_of_getElem? hhandle)) hacts rfl

theorem Sound.close_steps (h : S.Sound) (i handle : Nat) :
    S.Steps i ((S.handles i)[handle]?.map Transaction.manager)
      (S.step i (.close handle : Action ms)) := by
  simp only [step]
  cases hhandle : (S.handles i)[handle]? with
  | none => exact .silent rfl fun _ _ h => h
  | some t =>
      have hhas : S.Has (i, t.manager) t := .of_handle (List.mem_of_getElem? hhandle)
      obtain ⟨es, hacts⟩ := close_acts (d := ms.driver t.manager) (w := S.world.on i)
        (h.inRange _ t hhas) (h.quiet.idle t)
      exact .of_acts hhas hacts rfl

theorem Sound.leave_steps (h : S.Sound) (i : Nat) (outcome : Except Error Unit) :
    S.Steps i ((S.scopes i).head?.map fun scope => scope.transaction.manager)
      (S.step i (.leave outcome : Action ms)) := by
  simp only [step]
  cases hscopes : S.scopes i with
  | nil => exact .silent rfl fun _ _ h => h
  | cons scope rest =>
      have hhas : S.Has (i, scope.transaction.manager) scope.transaction :=
        .of_handle (h.lent i scope (by rw [hscopes]; exact List.mem_cons_self))
      cases howner : scope.isOwner with
      | true =>
          obtain ⟨es, hacts⟩ := Manager.finish_acts (m := ms.manager scope.transaction.manager)
            (w := S.world.on i) rfl (h.inRange _ _ hhas) (h.quiet.idle _) scope.rollsBack outcome
          simp only [Manager.leave, howner, if_true]
          exact .of_acts hhas hacts rfl
      | false =>
          simp only [Manager.leave, howner, Bool.false_eq_true, if_false, conclude,
            Run.ofExcept_apply]
          exact .silent rfl fun _ _ h => h

theorem Sound.steps (h : S.Sound) (i : Nat) (action : Action ms) :
    S.Steps i (S.manager? i action) (S.step i action) := by
  cases action with
  | begin manager isolation => exact S.begin_steps i manager isolation
  | enter manager wanted rollsBack => exact h.enter_steps i manager wanted rollsBack
  | run manager code huses => exact h.run_steps i manager huses
  | settle handle rolledBack => exact h.settle_steps i handle rolledBack
  | close handle => exact h.close_steps i handle
  | leave outcome => exact h.leave_steps i outcome

theorem Sound.step (h : S.Sound) (i : Nat) (action : Action ms) : (S.step i action).Sound := by
  cases h.steps i action with
  | does own es hdoes => exact h.does hdoes (h.lent.step i action)
  | begins t hbegins => exact h.begun hbegins (h.lent.step i action)

/-- An action reaches the connection of one transaction at most, which its thread has with the
manager, and changes nothing about the transactions of other threads and other managers. -/
theorem Sound.apart_step (h : S.Sound) (i : Nat) (action : Action ms) :
    ∃ (own : Option Transaction) (es : List Exchange),
      (S.step i action).world.trace = S.world.trace ++ es ∧
      (∀ t ∈ own, ∃ k ∈ S.manager? i action, S.Has (i, k) t) ∧
      Confined (own.elim [] fun t => t.connections S.world) es ∧
      ∀ key t, S.Has key t → (∀ k ∈ S.manager? i action, key ≠ (i, k)) →
        ((key, t) ∈ S.world.bound → (key, t) ∈ (S.step i action).world.bound) ∧
        (S.step i action).world.state t = S.world.state t ∧
        (((S.step i action).world.trace.filterMap opened?).Nodup →
          ∀ x ∈ es, ∀ c ∈ t.connections S.world, x.call.connection? ≠ some c) := by
  cases h.steps i action with
  | does own es hdoes =>
      refine ⟨own, es, hdoes.acts.trace, hdoes.own, hdoes.acts.confined, ?_⟩
      intro key t hhas helsewhere
      have hother : ∀ o ∈ own, o.id ≠ t.id := by
        intro o ho hsame
        obtain ⟨k, hk, hown⟩ := hdoes.own o ho
        exact helsewhere k hk (h.apart _ _ _ _ hhas hown hsame.symm)
      refine ⟨fun hbound => hdoes.acts.elsewhere _ hbound ?_, hdoes.acts.others t hother, ?_⟩
      · intro hsame
        obtain ⟨k, hk, hkey⟩ := Option.map_eq_some_iff.mp hsame.symm
        exact helsewhere k hk hkey.symm
      · exact fun hfresh => (h.quiet.on i).undisturbed hdoes.acts hfresh hother
  | begins t hbegins =>
      refine ⟨none, [], by rw [hbegins.trace, List.append_nil], by simp, confined_nil _, ?_⟩
      intro key t' _ _
      refine ⟨fun hbound => ?_, hbegins.state t', by simp⟩
      rw [hbegins.bound]
      exact List.mem_cons_of_mem _ hbound

/-- While a transaction is bound, no other one can begin there, and statements are said to its
connection. -/
theorem Sound.bound_serves (h : S.Sound) {k : Nat} (hbound : ((i, k), t) ∈ S.world.bound) :
    (∀ isolation, (ms.manager k).begin isolation (S.world.on i) =
      (.error (.usage .transactionActive), S.world.on i)) ∧
    ∀ {β : Type} (code : Session (σ × List Exchange) β), Uses (ms.manager k) [] code →
      ∃ es, (code (S.world.on i)).2.trace = S.world.trace ++ es ∧
        (code (S.world.on i)).2.bound = S.world.bound ∧
        ∀ x ∈ es, x.call.isStatement → ∃ o,
          ((code (S.world.on i)).2.state t).opened = some o ∧
            x.call.connection? = some o.connection := by
  have hcurrent : (S.world.on i).current? k = some t :=
    World.current?_of_mem (w := S.world.on i) h.keys hbound
  have hhas : S.Has (i, k) t := .inl hbound
  refine ⟨fun isolation => Manager.begin_of_bound _ _ hcurrent, ?_⟩
  intro β code huses
  obtain rfl : t.manager = k := h.manager _ t hhas
  obtain ⟨es, hserves⟩ := Uses.serves (t := t) rfl huses hcurrent (h.inRange _ t hhas)
    (fun _ hmem => absurd hmem List.not_mem_nil)
  refine ⟨es, hserves.trace, hserves.bound, ?_⟩
  intro x hx hstatement
  obtain ⟨c, hc, hcall⟩ := hserves.statements x hx hstatement
  simp only [connections, Option.mem_toList, Option.map_eq_some_iff] at hc
  obtain ⟨o, hopened, rfl⟩ := hc
  exact ⟨o, hopened, hcall⟩

end

theorem sound_start (store : σ) : (start store).Sound where
  quiet := ⟨fun _ => rfl, by simp [connections, World.state, start],
    by simp [connections, World.state, start]⟩
  keys := List.nodup_nil
  manager key t h := by simp [Has, start] at h
  inRange key t h := by simp [Has, start] at h
  apart key key' t t' h := by simp [Has, start] at h
  lent thread scope h := by simp [start] at h

theorem Sound.run {S : Threads σ} (h : S.Sound) (events : List (Nat × Action ms)) :
    (S.run events).Sound := by
  induction events generalizing S with
  | nil => exact h
  | cons event events ih => exact ih (h.step event.1 event.2)

/-- In whatever order threads use their managers, each thread has one transaction at most with each
manager.  No other one can begin while it is bound, and statements are said to its connection.
Whatever is done on one thread with one manager reaches only a transaction that the thread has with
that manager: all others stay bound and as they are, and nothing is said to their connections, as
long as no connection is opened twice. -/
theorem transactions_apart (ms : Managers σ) (store : σ) (events : List (Nat × Action ms)) :
    let S := (start store).run events
    (S.world.bound.map Prod.fst).Nodup ∧
    (∀ i k t, ((i, k), t) ∈ S.world.bound →
      (∀ isolation, (ms.manager k).begin isolation (S.world.on i) =
        (.error (.usage .transactionActive), S.world.on i)) ∧
      ∀ {β : Type} (code : Session (σ × List Exchange) β), Uses (ms.manager k) [] code →
        ∃ es, (code (S.world.on i)).2.trace = S.world.trace ++ es ∧
          (code (S.world.on i)).2.bound = S.world.bound ∧
          ∀ x ∈ es, x.call.isStatement → ∃ o,
            ((code (S.world.on i)).2.state t).opened = some o ∧
              x.call.connection? = some o.connection) ∧
    ∀ i (action : Action ms), ∃ (own : Option Transaction) (es : List Exchange),
      (S.step i action).world.trace = S.world.trace ++ es ∧
      (∀ t ∈ own, ∃ k ∈ S.manager? i action, S.Has (i, k) t) ∧
      Confined (own.elim [] fun t => t.connections S.world) es ∧
      ∀ key t, S.Has key t → (∀ k ∈ S.manager? i action, key ≠ (i, k)) →
        ((key, t) ∈ S.world.bound → (key, t) ∈ (S.step i action).world.bound) ∧
        (S.step i action).world.state t = S.world.state t ∧
        (((S.step i action).world.trace.filterMap opened?).Nodup →
          ∀ x ∈ es, ∀ c ∈ t.connections S.world, x.call.connection? ≠ some c) := by
  intro S
  have hsound : S.Sound := (sound_start store).run events
  exact ⟨hsound.keys, fun i k t => hsound.bound_serves, hsound.apart_step⟩

end Threads

/-- Managers whose stores never fail. -/
def readyManagers : Managers ScriptedStore where
  driver _ := ScriptedStore.driver []
  isolation _ := none

def readyDatabase (manager : Nat) : Database (ScriptedStore × List Exchange) :=
  { scriptedDatabase with manager := readyManagers.manager manager }

def deletion (manager : Nat) : Session (ScriptedStore × List Exchange) Unit := do
  let _ ← (readyDatabase manager).executeUpdate (.raw ⟨"DELETE FROM a", []⟩)

theorem deletion_uses (manager : Nat) :
    Uses (readyManagers.manager manager) [] (deletion manager) :=
  .bind ((Uses.hosts (m := (readyDatabase manager).manager)).executeUpdate _) fun _ _ => .pure ()

/-- Two threads with a manager that they share, one of them with another manager besides. -/
def sharing : List (Nat × Action readyManagers) :=
  [(0, .enter 0 none fun _ => true), (1, .enter 0 none fun _ => true),
    (0, .enter 1 none fun _ => true), (0, .run 0 (deletion 0) (deletion_uses 0)),
    (1, .run 0 (deletion 0) (deletion_uses 0)), (0, .run 1 (deletion 1) (deletion_uses 1))]

def shared : Threads ScriptedStore := (Threads.start {}).run sharing

/-- The inner scope of the first thread is left by a panic. -/
def unwound : Threads ScriptedStore :=
  shared.step 0 (.leave (.error (.panic "lost")) : Action readyManagers)

theorem shared_apart :
    (shared.world.bound.map Prod.fst).Nodup ∧
      (readyManagers.manager 0).begin none (shared.world.on 1) =
        (.error (.usage .transactionActive), shared.world.on 1) ∧
      (∃ es, (deletion 0 (shared.world.on 1)).2.trace = shared.world.trace ++ es ∧
        es.map (fun x => x.call.isStatement) = [true, true] ∧
        ∀ x ∈ es, x.call.isStatement → x.call.connection? = some 2) ∧
      ∃ es, unwound.world.trace = shared.world.trace ++ es ∧
        es.map Exchange.call = [.rollback 3, .setAutocommit 3 true, .close 3] ∧
        ((1, 0), ⟨1, 0, none⟩) ∈ unwound.world.bound ∧
        ∀ x ∈ es, x.call.connection? ≠ some 2 := by
  have hbound : ((1, 0), (⟨1, 0, none⟩ : Transaction)) ∈ shared.world.bound := by decide +kernel
  obtain ⟨hkeys, heach, hstep⟩ := Threads.transactions_apart readyManagers {} sharing
  obtain ⟨hrefused, hserves⟩ := heach 1 0 ⟨1, 0, none⟩ hbound
  refine ⟨hkeys, hrefused none, ?_, ?_⟩
  · obtain ⟨es, htrace, -, hstatements⟩ := hserves (deletion 0) (deletion_uses 0)
    have hran : (deletion 0 (shared.world.on 1)).2.trace = shared.world.trace ++ es := htrace
    have hcalls : (deletion 0 (shared.world.on 1)).2.trace.map (fun x => x.call.isStatement) =
        shared.world.trace.map (fun x => x.call.isStatement) ++ [true, true] := by decide +kernel
    rw [hran, List.map_append] at hcalls
    refine ⟨es, hran, List.append_cancel_left hcalls, fun x hx hstatement => ?_⟩
    obtain ⟨o, hopened, hcall⟩ := hstatements x hx hstatement
    have hsecond : ((deletion 0 (shared.world.on 1)).2.state ⟨1, 0, none⟩).opened =
        some ⟨2, some .readCommitted, true⟩ := by decide +kernel
    obtain rfl := Option.some.inj (hsecond.symm.trans hopened)
    exact hcall
  · obtain ⟨own, es, htrace, -, -, hapart⟩ :=
      hstep 0 (.leave (.error (.panic "lost")) : Action readyManagers)
    obtain ⟨hstays, -, hsilent⟩ := hapart (1, 0) ⟨1, 0, none⟩ (.inl hbound) fun k _ hsame => by
      cases hsame
    have hkept : ((1, 0), (⟨1, 0, none⟩ : Transaction)) ∈ unwound.world.bound := by
      rw [unwound, shared]
      exact hstays hbound
    have hleft : unwound.world.trace = shared.world.trace ++ es := htrace
    have hcalls : unwound.world.trace.map Exchange.call = shared.world.trace.map Exchange.call ++
        [.rollback 3, .setAutocommit 3 true, .close 3] := by decide +kernel
    rw [hleft, List.map_append] at hcalls
    have hfresh : (unwound.world.trace.filterMap opened?).Nodup := by decide +kernel
    have hsecond : 2 ∈ connections ⟨1, 0, none⟩ shared.world := by decide +kernel
    exact ⟨es, hleft, List.append_cancel_left hcalls, hkept,
      fun x hx => hsilent hfresh x hx _ hsecond⟩

end TypedSql
