import TypedSql.Suite.Check

namespace TypedSql.Suite

structure User where
  id : Option (Integer .int64) := none
  username : String := ""
  email : Option String := none
  age : Integer .int32 := .zero .int32
  active : Bool := false
  joined : Option Timestamp := none
deriving DecidableEq

structure UserTable where
  table : Table User
  id : Column (Integer .int64)
  username : Column String
  email : Column String
  age : Column (Integer .int32)
  active : Column Bool
  joined : Column Timestamp

def userTable : UserTable :=
  let (t, id) := (Table.ofName "users").declare "id" (.integer .int64) true false
    (.nullable User.id fun u id => { u with id })
  let (t, username) := t.declare "username" .text false true
    (.accessor User.username fun u username => { u with username })
  let (t, email) := t.declare "email" .text false false
    (.nullable User.email fun u email => { u with email })
  let (t, age) := t.declare "age" (.integer .int32) false true
    (.accessor User.age fun u age => { u with age })
  let (t, active) := t.declare "active" .boolean false true
    (.accessor User.active fun u active => { u with active })
  let (t, joined) := t.declare "joined" .timestamp false false
    (.nullable User.joined fun u joined => { u with joined })
  ⟨t, id, username, email, age, active, joined⟩

private def createUsers : String :=
  "CREATE TABLE IF NOT EXISTS users (" ++
    "id INTEGER PRIMARY KEY, " ++
    "username VARCHAR NOT NULL UNIQUE, " ++
    "email VARCHAR, " ++
    "age INTEGER NOT NULL, " ++
    "active BOOLEAN NOT NULL, " ++
    "joined TIMESTAMP)"

private def user (username : String) (email : Option String) (age : Int) (active : Bool) : User :=
  { username, email, age := .clamp .int32 age, active }

private def leapAfternoon : Timestamp :=
  ⟨⟨2024, 2, 29, by decide, by decide, by decide⟩,
    ⟨13, 45, 7, 250000000, by decide, by decide, by decide, by decide⟩⟩

private def newcomers : List User :=
  [user "alice" (some "alice@example.com") 34 true,
    user "bob" none 27 true,
    user "carol" (some "carol@example.com") 51 false,
    user "dave" (some "dave@example.net") 19 true,
    { user "erin" (some "erin@example.com") 42 true with joined := some leapAfternoon }]

private def differ : List (Integer .int64) → Bool
  | a :: b :: rest => a ≠ b && differ (b :: rest)
  | _ => true

private def begins (sql start : String) : Bool :=
  start.toList.isPrefixOf (Text.asciiUppercase sql).toList

variable {σ : Type}

private def findUsers (db : Database σ) (name : String) (s : Select) : Session σ (List User) :=
  expect name (db.queryAs userTable.table {} s)

private def insertUsers (db : Database σ) : Session σ (Database σ × List User) := do
  let _ ← expect "Failed to drop the users table" (runText db "DROP TABLE IF EXISTS users")
  let _ ← expect "Failed to create the users table" (runText db createUsers)
  let settings ← expect "The driver does not handle the users columns"
    (db.withTable userTable.table)
  assert !settings.codecs.registered.isEmpty
  let db := db.withSettings settings
  let inserted ← db.insertEntities userTable.table newcomers
  let created := inserted.entities
  let result ← expect "Failed to insert the users" (Session.conclude inserted.outcome)
  assert (result.rows = 5)
  assert (result.keys.length = 5)
  check (created.all (·.id.isSome)) "Every user should have received its key"
  assert (differ (created.filterMap User.id))
  let found ← findUsers db "Failed to query the users"
    { userTable.table.select with orderBy := [userTable.id.ascending] }
  assert (found = created)
  return (db, created)

private def filterUsers (db : Database σ) : Session σ Unit := do
  let users := userTable
  let all := users.table.select
  let found ← findUsers db "Failed to filter the users"
    { all.addFilter
        ((users.age.gt (.value (some (.clamp .int32 30)))).and
          (users.active.eq (.value (some true)))) with
      orderBy := [users.username.ascending] }
  assert (found.map User.username = ["alice", "erin"])
  let found ← findUsers db "Failed to filter the users by email"
    (all.addFilter (users.email.isNull.or (users.email.like (.value (some "%.net")))))
  assert ((found.map User.username).mergeSort (fun a b => a ≤ b) = ["bob", "dave"])
  let listed ← expectBuilt "Failed to build the in list"
    (users.username.inList (["carol", "dave", "zed"].map fun n => .value (some n)) false)
  let found ← findUsers db "Failed to filter the users by name"
    { all.addFilter listed with orderBy := [users.age.descending] }
  assert (found.map User.username = ["carol", "dave"])
  let found ← findUsers db "Failed to filter the users by age"
    (all.addFilter
      (users.age.between (.value (some (.clamp .int32 20))) (.value (some (.clamp .int32 40)))))
  assert (found.length = 2)
  let found ← findUsers db "Failed to query erin"
    (all.addFilter (users.username.eq (.value (some "erin"))))
  let erin ← expectSome "erin should exist" found.getLast?
  assert (erin.joined = some leapAfternoon)

private def projectUsers (db : Database σ) : Session σ Unit := do
  let users := userTable
  let all := users.table.select
  let rows ← expect "Failed to project bob"
    (db.query (.select
      ({ all with
          items := [⟨users.username.expression, none⟩,
            ⟨users.age.plus (.value (some (.clamp .int32 1))), some "next_age"⟩] }.addFilter
        (users.username.eq (.value (some "bob"))))))
  let row ← expectSome "bob should exist" rows.head?
  assert ((← unwrap (row.get users.username)) = some "bob")
  assert ((← unwrap (row.getLabel (.integer .int64) "next_age")) = some (.clamp .int64 28))
  let counted ← expectBuilt "Failed to build the count"
    { all.addFilter (users.active.eq (.value (some true))) with
      orderBy := [users.id.ascending], limit := some 2 }.countQuery
  let rows ← expect "Failed to count the active users" (db.query (.select counted))
  let row ← unwrapSome rows.head?
  assert ((← unwrap (row.getIndex (.integer .int64) 0)) = some (.clamp .int64 4))
  let found ← findUsers db "Failed to read the second page"
    { all with orderBy := [users.username.ascending], limit := some 2, offset := some 1 }
  assert (found.map User.username = ["bob", "carol"])
  let found ← findUsers db "Failed to skip the first users"
    { all with orderBy := [users.username.ascending], offset := some 3 }
  assert (found.map User.username = ["dave", "erin"])

private def changeUsers (db : Database σ) (created : List User) : Session σ Unit := do
  let users := userTable
  let bob ← unwrapSome created[1]?
  let bob :=
    { bob with email := some "bob@example.org", age := .clamp .int32 (bob.age.val + 1) }
  let result ← expect "Failed to update bob" (db.updateEntity users.table bob)
  assert (result.rows = 1)
  let found ← findUsers db "Failed to query bob"
    (users.table.select.addFilter (users.id.eq (.value bob.id)))
  assert (found = [bob])
  let older ← expectBuilt "unwrap"
    (users.age.set (.expression (users.age.plus (.value (some (.clamp .int32 10))))))
  let update ← expectBuilt "unwrap" (Update.of users.table.ref [older])
  let result ← expect "Failed to age the inactive users"
    (db.executeUpdate (.update (update.addFilter (users.active.eq (.value (some false))))))
  assert (result.rows = 1)
  let result ← expect "Failed to delete bob" (db.deleteEntity users.table bob)
  assert (result.rows = 1)
  let result ← expect "Failed to delete the youngest users"
    (db.executeUpdate (.delete
      (Delete.addFilter { table := users.table.ref }
        (users.age.lt (.value (some (.clamp .int32 20)))))))
  assert (result.rows = 1)
  let counted ← expectBuilt "unwrap" users.table.select.countQuery
  let rows ← expect "Failed to count the users left" (db.query (.select counted))
  let row ← unwrapSome rows.head?
  assert ((← unwrap (row.getIndex (.integer .int64) 0)) = some (.clamp .int64 3))

private def nameDuplicate (sql : String) (source : Error) : Option Error :=
  if begins sql "INSERT" then some (.usage (.other ("duplicate user: " ++ source.message)))
  else none

private def refuseUsers (db : Database σ) : Session σ Unit := do
  let users := userTable
  let refused ← expectFailure "Assigning NULL to username should fail"
    (Session.conclude ((users.username.set (.value none)).mapError .construction))
  assert (match refused with | .failure (.construction _) => true | _ => false)
  let again := [user "alice" none 1 true]
  let inserted ← db.insertEntities users.table again
  let refused ← expectFailure "A second alice should violate the unique constraint"
    (Session.conclude inserted.outcome)
  match refused with
  | .driver sql _ => assert (begins sql "INSERT INTO USERS")
  | _ => throw (.panic "The failure should come from the driver")
  let naming := db.withSettings (db.settings.withFailureMap nameDuplicate)
  let inserted ← naming.insertEntities users.table inserted.entities
  let refused ← expectFailure "A second alice should still fail"
    (Session.conclude inserted.outcome)
  assert
    (match refused with
      | .failure (.usage fault) => "duplicate user".toList.isPrefixOf fault.message.toList
      | _ => false)

private def findOldest (db : Database σ) : Session σ Unit := do
  let users := userTable
  let all := users.table.select
  let oldest : Expr := .select { all with items := [⟨users.age.max, none⟩] }
  let found ← findUsers db "Failed to find the oldest user"
    (all.addFilter (users.age.eq (.expression oldest)))
  assert (found.length = 1)
  assert ((found.map User.username).head? = some "carol")

def users (db : Database σ) : Session σ Unit := do
  let (db, created) ← insertUsers db
  filterUsers db
  projectUsers db
  changeUsers db created
  refuseUsers db
  findOldest db

end TypedSql.Suite
