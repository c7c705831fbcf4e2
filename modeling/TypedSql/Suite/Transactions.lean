import TypedSql.Suite.Check

namespace TypedSql.Suite

/-! Suite of the transactions: money is moved between accounts, kept by a commit and returned by a
rollback. -/

structure Account where
  id : Integer .int64 := .zero .int64
  owner : String := ""
  balance : Integer .int64 := .zero .int64
deriving DecidableEq

structure AccountTable where
  table : Table Account
  id : Column (Integer .int64)
  owner : Column String
  balance : Column (Integer .int64)

def accountTable : AccountTable :=
  let (t, id) := (Table.ofName "accounts").declare "id" (.integer .int64) true false
    (.accessor Account.id fun a id => { a with id })
  let (t, owner) := t.declare "owner" .text false true
    (.accessor Account.owner fun a owner => { a with owner })
  let (t, balance) := t.declare "balance" (.integer .int64) false true
    (.accessor Account.balance fun a balance => { a with balance })
  ⟨t, id, owner, balance⟩

private def accounts : List Account :=
  [⟨.clamp .int64 1, "alice", .clamp .int64 100⟩, ⟨.clamp .int64 2, "bob", .clamp .int64 50⟩]

variable {σ : Type}

private def expectBalances (db : Database σ) (expected : List Int) : Session σ Unit := do
  let t := accountTable
  let found ← expect "Failed to read the balances"
    (db.queryAs t.table {} { t.table.select with orderBy := [t.id.ascending] })
  assert (found.map (·.balance.val) = expected)

private def transfer (db : Database σ) (source target amount : Int) : Session σ Unit := do
  let t := accountTable
  [(source, -amount), (target, amount)].forM fun (id, delta) => do
    let moved ← expectBuilt "Failed to build the assignment"
      (t.balance.set (.expression (t.balance.plus (.value (some (.clamp .int64 delta))))))
    let update ← expectBuilt "Failed to build the update" (Update.of t.table.ref [moved])
    let result ← expect "Failed to move the money"
      (db.executeUpdate
        (.update (update.addFilter (t.id.eq (.value (some (.clamp .int64 id)))))))
    assert (result.rows = 1)

private def isOpen (t : Transaction) : Session σ Bool := return (← get).isOpen t

private def openAccounts (db : Database σ) : Session σ Unit := do
  let _ ← expect "Failed to drop the accounts table"
    (runText db "DROP TABLE IF EXISTS accounts")
  let _ ← expect "Failed to create the accounts table" (runText db
    ("CREATE TABLE IF NOT EXISTS accounts (" ++
      "id INTEGER PRIMARY KEY, owner VARCHAR NOT NULL, balance INTEGER NOT NULL)"))
  let inserted ← db.insertEntities accountTable.table accounts
  let _ ← expect "Failed to open the accounts" (Session.conclude inserted.outcome)

private def commitTransfer (db : Database σ) : Session σ Unit := do
  expect "The transfer should commit" (db.useTransaction fun t => do
    assert !(← isOpen t)
    transfer db 1 2 30
    assert (← isOpen t)
    expectBalances db [70, 80])
  expectBalances db [70, 80]
  assert (← db.manager.current?).isNone

private def rollBackTransfer (db : Database σ) : Session σ Unit := do
  let e ← expectFailure "The transfer should fail" (db.useTransaction fun _ => do
    transfer db 2 1 80
    expectBalances db [150, 0]
    (throw (.plain "insufficient funds") : Session σ Unit))
  assert (e.message = "insufficient funds")
  expectBalances db [70, 80]

private def joinTransfer (db : Database σ) : Session σ Unit := do
  let e ← expectFailure "The inner failure should reach the outer scope"
    (db.useTransaction fun outer => do
      transfer db 1 2 10
      db.useTransaction fun inner => do
        assert (outer = inner)
        transfer db 1 2 10
      expectBalances db [50, 100]
      db.useTransaction fun _ =>
        (throw (.usage (.other "inner failure")) : Session σ Unit))
  assert
    (match e with
      | .failure (.usage fault) => fault.message = "inner failure"
      | _ => false)
  expectBalances db [70, 80]

private def keepTransfer (db : Database σ) : Session σ Unit := do
  let rule : Error → Bool
    | .failure _ => true
    | _ => false
  let e ← expectFailure "The failure should be returned"
    (db.useTransactionWith (some .serializable) rule fun t => do
      assert (t.isolation = some .serializable)
      transfer db 2 1 5
      (throw (.plain "reported after the transfer") : Session σ Unit))
  assert (e.message = "reported after the transfer")
  expectBalances db [75, 75]

def transactions (db : Database σ) : Session σ Unit := do
  openAccounts db
  commitTransfer db
  rollBackTransfer db
  joinTransfer db
  keepTransfer db
  let value ← expect "An empty transaction should succeed" (db.useTransaction fun t => do
    assert !(← isOpen t)
    return 42)
  assert (value = 42)

end TypedSql.Suite
