import TypedSql.Error
import TypedSql.Log

namespace TypedSql.Sqlite

inductive Location where
  | memory
  | path (path : String)
deriving DecidableEq, Repr

inductive UrlFault where
  | notSqlite (url : String)
  | noDatabase
deriving DecidableEq, Repr

namespace UrlFault

def message : UrlFault → String
  | notSqlite url => s!"Expected an url like `sqlite://path`, got `{url}`"
  | noDatabase => "The sqlite url does not name a database"

def reports : UrlFault → List LogRecord
  | notSqlite url => [⟨.error, .driver, (notSqlite url).message⟩]
  | noDatabase => []

end UrlFault

namespace Location

private def scheme : List Char := "sqlite://".toList

def ofUrl (url : String) : Except UrlFault Location :=
  if scheme.isPrefixOf url.toList then
    match String.ofList (url.toList.drop scheme.length) with
    | "" => .error .noDatabase
    | ":memory:" => .ok .memory
    | rest => .ok (.path rest)
  else .error (.notSqlite url)

/-- Whether a database is kept in memory, which never fails to open.  Behind a question mark the
path may ask for that itself. -/
def inMemory : Location → Bool
  | memory => true
  | path p =>
      let file := p.toList.takeWhile fun c => c != '?' && c != '#'
      let asked := (p.toList.drop (file.length + 1)).takeWhile (· != '#')
      file.isEmpty || String.ofList file = ":memory:" ||
        (asked.splitOn '&').contains "mode=memory".toList

end Location

def openUrl (url : String) : Except Error Unit :=
  match Location.ofUrl url with
  | .error fault => .error (.plain fault.message)
  | .ok location =>
      if location.inMemory then .ok ()
      else .error (.context s!"Could not open `{url}`" (.engine (.failure 14 "unable to open")))

end TypedSql.Sqlite
