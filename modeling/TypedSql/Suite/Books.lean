import TypedSql.Suite.Check

namespace TypedSql.Suite

/-! Suite of the books: two tables that are joined, grouped, united and searched. -/

structure Author where
  id : Integer .int64 := .zero .int64
  name : String := ""
  country : Option String := none
deriving DecidableEq

structure Book where
  id : Integer .int64 := .zero .int64
  title : String := ""
  authorId : Integer .int64 := .zero .int64
  year : Integer .int32 := .zero .int32
deriving DecidableEq

structure AuthorTable where
  table : Table Author
  id : Column (Integer .int64)
  name : Column String
  country : Column String

structure BookTable where
  table : Table Book
  id : Column (Integer .int64)
  title : Column String
  authorId : Column (Integer .int64)
  year : Column (Integer .int32)

def authorTable : AuthorTable :=
  let (t, id) := (Table.ofName "authors").declare "id" (.integer .int64) true false
    (.accessor Author.id fun a id => { a with id })
  let (t, name) := t.declare "name" .text false true
    (.accessor Author.name fun a name => { a with name })
  let (t, country) := t.declare "country" .text false false
    (.nullable Author.country fun a country => { a with country })
  ⟨t, id, name, country⟩

def bookTable : BookTable :=
  let (t, id) := (Table.ofName "books").declare "id" (.integer .int64) true false
    (.accessor Book.id fun b id => { b with id })
  let (t, title) := t.declare "title" .text false true
    (.accessor Book.title fun b title => { b with title })
  let (t, authorId) := t.declare "author_id" (.integer .int64) false true
    (.accessor Book.authorId fun b authorId => { b with authorId })
  let (t, year) := t.declare "year" (.integer .int32) false true
    (.accessor Book.year fun b year => { b with year })
  ⟨t, id, title, authorId, year⟩

namespace AuthorTable

def aliased (t : AuthorTable) (aliasName : String) : AuthorTable :=
  let table := t.table.aliased aliasName
  ⟨table, t.id.within table.ref, t.name.within table.ref, t.country.within table.ref⟩

end AuthorTable

namespace BookTable

def aliased (t : BookTable) (aliasName : String) : BookTable :=
  let table := t.table.aliased aliasName
  ⟨table, t.id.within table.ref, t.title.within table.ref, t.authorId.within table.ref,
    t.year.within table.ref⟩

end BookTable

private def setup : List String :=
  ["DROP TABLE IF EXISTS books",
    "DROP TABLE IF EXISTS authors",
    "CREATE TABLE IF NOT EXISTS authors (" ++
      "id INTEGER PRIMARY KEY, name VARCHAR NOT NULL, country VARCHAR)",
    "CREATE TABLE IF NOT EXISTS books (id INTEGER PRIMARY KEY, title VARCHAR NOT NULL, " ++
      "author_id INTEGER NOT NULL REFERENCES authors(id), year INTEGER NOT NULL)"]

private def author (id : Int) (name : String) (country : Option String) : Author :=
  ⟨.clamp .int64 id, name, country⟩

private def knownAuthors : List Author :=
  [author 1 "J.R.R. Tolkien" (some "UK"),
    author 2 "Ursula K. Le Guin" (some "US"),
    author 3 "Italo Calvino" (some "IT"),
    author 4 "Anonymous" none]

private def book (id : Int) (title : String) (authorId year : Int) : Book :=
  ⟨.clamp .int64 id, title, .clamp .int64 authorId, .clamp .int32 year⟩

private def catalogue : List Book :=
  [book 1 "The Hobbit" 1 1937,
    book 2 "The Lord of the Rings" 1 1954,
    book 3 "A Wizard of Earthsea" 2 1968,
    book 4 "The Left Hand of Darkness" 2 1969,
    book 5 "The Dispossessed" 2 1974,
    book 6 "Invisible Cities" 3 1972]

variable {σ : Type}

private def rowsOf (db : Database σ) (name : String) (s : Statement) :
    Session σ (List LabelledRow) :=
  expect name (db.query s)

private def item (e : Expr) : SelectItem := ⟨e, none⟩

private def one : Expr := .literal (.some (.integer .int64 (.clamp .int64 1)))

private def insertBooks (db : Database σ) : Session σ Unit := do
  setup.forM fun sql => do
    let _ ← expect s!"Failed to run `{sql}`" (runText db sql)
  let t := authorTable
  let insert ← expectBuilt "Failed to build the authors insert"
    (Insert.of t.table.ref t.table.columns
      (some (knownAuthors.map fun a =>
        [t.id.parameter (some a.id), t.name.parameter (some a.name),
          t.country.parameter a.country])) none)
  let result ← expect "Failed to insert the authors" (db.executeUpdate (.insert insert))
  assert (result.rows = 4)
  let inserted ← db.insertEntities bookTable.table catalogue
  let result ← expect "Failed to insert the books" (Session.conclude inserted.outcome)
  assert (result.rows = 6)
  assert result.keys.isEmpty
  assert (inserted.entities = catalogue)

private def joinBooks (db : Database σ) (a : AuthorTable) (b : BookTable) :
    Session σ Unit := do
  let written := b.authorId.eq (.expression a.id.expression)
  let source ← expectBuilt "Failed to build the join"
    (Source.joinOf .inner a.table.source b.table.source (some written))
  let rows ← rowsOf db "Failed to query the join" (.select
    { (Select.ofSource (some source)).addFilter (a.country.eq (.value (some "US"))) with
      items := [item a.name.expression, item b.title.expression]
      orderBy := [b.year.ascending] })
  let titles ← rows.mapM fun r => field (r.get b.title)
  assert (titles = ["A Wizard of Earthsea", "The Left Hand of Darkness", "The Dispossessed"])
  assert (← rows.allM fun r => return (← unwrap (r.get a.name)) = some "Ursula K. Le Guin")
  let source ← expectBuilt "Failed to build the left join"
    (Source.joinOf .left a.table.source b.table.source (some written))
  let rows ← rowsOf db "Failed to count the books" (.select
    { Select.ofSource (some source) with
      items := [item a.name.expression, ⟨b.id.count, some "written"⟩]
      groupBy := [a.name.expression]
      orderBy := [a.name.ascending] })
  let counts ← rows.mapM fun r => do
    let name ← field (r.get a.name)
    return (name, ← field (r.getLabel (.integer .int64) "written"))
  assert (counts = [("Anonymous", .clamp .int64 0), ("Italo Calvino", .clamp .int64 1),
    ("J.R.R. Tolkien", .clamp .int64 2), ("Ursula K. Le Guin", .clamp .int64 3)])

private def groupBooks (db : Database σ) : Session σ Unit := do
  let books := bookTable
  let rows ← rowsOf db "Failed to group the books" (.select
    { books.table.select with
      items := [item books.authorId.expression, ⟨.countAll, some "total"⟩]
      groupBy := [books.authorId.expression]
      having := some (Expr.countAll.gt one)
      orderBy := [books.authorId.ascending] })
  let prolific ← rows.mapM fun r => field (r.get books.authorId)
  assert (prolific = [.clamp .int64 1, .clamp .int64 2])
  let text (s : String) : Expr := .literal (.some (.varchar s))
  let before (year : Int) := books.year.lt (.value (some (.clamp .int32 year)))
  let era ← expectBuilt "Failed to build the case"
    (Expr.choice none [(before 1950, text "classic"), (before 1970, text "golden")]
      (some (text "modern")))
  let rows ← rowsOf db "Failed to query the eras" (.select
    { books.table.select with
      items := [item books.title.expression, ⟨era, some "era"⟩]
      orderBy := [books.id.ascending] })
  let eras ← rows.mapM fun r => field (r.getLabel .text "era")
  assert (eras = ["classic", "golden", "golden", "golden", "modern", "modern"])

private def uniteBooks (db : Database σ) : Session σ Unit := do
  let books := bookTable
  let titles (condition : Expr) : Query := .select
    ({ books.table.select with items := [item books.title.expression] }.addFilter condition)
  let old := titles (books.year.lt (.value (some (.clamp .int32 1940))))
  let recent := titles (books.year.gt (.value (some (.clamp .int32 1970))))
  let union ← expectBuilt "Failed to build the union" (Union.of old recent false)
  let rows ← rowsOf db "Failed to count the union" (.select
    { Select.ofSource (some (.derived (.union union) "picked")) with items := [item .countAll] })
  let row ← unwrapSome rows.head?
  assert ((← unwrap (row.getIndex (.integer .int64) 0)) = some (.clamp .int64 3))
  let union ← expectBuilt "Failed to build the union" (Union.of old recent true)
  let rows ← rowsOf db "Failed to query the union" (.union
    { union with orderBy := [books.title.ascending], limit := some 2 })
  let found ← rows.mapM fun r => field (r.getIndex .text 0)
  assert (found = ["Invisible Cities", "The Dispossessed"])

private def searchBooks (db : Database σ) (a : AuthorTable) (b : BookTable) :
    Session σ Unit := do
  let wrote (since : Int) : Select :=
    (({ b.table.select with items := [item one] }.addFilter
      (b.authorId.eq (.expression a.id.expression))).addFilter
      (b.year.gte (.value (some (.clamp .int32 since)))))
  let rows ← rowsOf db "Failed to query exists" (.select
    { a.table.select.addFilter (.existsIn (wrote 1970)) with
      items := [item a.name.expression]
      orderBy := [a.name.ascending] })
  let names ← rows.mapM fun r => field (r.get a.name)
  assert (names = ["Italo Calvino", "Ursula K. Le Guin"])
  let found ← expect "Failed to query not exists"
    (db.queryAs a.table {} (a.table.select.addFilter (.notExistsIn (wrote 0))))
  assert (found = [author 4 "Anonymous" none])
  let authors := authorTable
  let books := bookTable
  let published ← expectBuilt "Failed to build the in subquery"
    (authors.id.inQuery
      { books.table.select with items := [item books.authorId.expression], distinct := true }
      false)
  let rows ← rowsOf db "Failed to query in subquery" (.select
    (({ authors.table.select with items := [item authors.name.expression] }.addFilter
      published).addFilter (authors.country.notEq (.value (some "UK")))))
  let names ← rows.mapM fun r => field (r.get authors.name)
  assert (names.mergeSort (fun a b => a ≤ b) = ["Italo Calvino", "Ursula K. Le Guin"])

def books (db : Database σ) : Session σ Unit := do
  let a := authorTable.aliased "a"
  let b := bookTable.aliased "b"
  insertBooks db
  joinBooks db a b
  groupBooks db
  uniteBooks db
  searchBooks db a b

end TypedSql.Suite
