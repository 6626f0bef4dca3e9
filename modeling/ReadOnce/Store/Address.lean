import ReadOnce.Text.Numeral
import ReadOnce.Text.Percent
import ReadOnce.Text.Word

/-!
Addresses of databases. An address begins with the kind of database, perhaps with a driver after a plus sign; user
and password, server and port, and the name of the database may follow, each behind a mark of its own. Whatever
fits nowhere behind them is ignored, as is all that follows a question mark.
-/
namespace ReadOnce.Store

structure Address where
  kind : String
  driver : Option String
  user : Option String
  password : Option String
  host : Option String
  port : Option Int
  /-- The name of the database as bytes, for escapes in it need not write a text. -/
  database : Option Bytes
deriving DecidableEq, Repr

/-- Why a text is no address. -/
inductive AddressFault where
  | malformed
  | port (fault : Text.NumeralFault)
  /-- A port is announced but not given. -/
  | noPort
  /-- More than one driver is named. -/
  | drivers
deriving DecidableEq, Repr

def AddressFault.message : AddressFault → String
  | malformed => "Not the address of a database"
  | port fault => fault.message
  | noPort => "A port is announced but not given"
  | drivers => "too many values to unpack (expected 2)"

namespace Address

/-- What stands before a last mark, and what stands behind it. -/
def splitLast? (mark : Char) (chars : List Char) : Option (List Char × List Char) :=
  let after := (chars.reverse.takeWhile (· ≠ mark)).reverse
  if after.length < chars.length then some (chars.take (chars.length - after.length - 1), after) else none

/-- The scheme, which two slashes follow, and the rest. -/
def scheme? (chars : List Char) : Option (List Char × List Char) :=
  let name := chars.takeWhile fun char => Text.isWordChar char || char = '+'
  match chars.drop name.length with
  | ':' :: '/' :: '/' :: rest => if name.isEmpty then none else some (name, rest)
  | _ => none

/-- User and password, which an at sign follows, and the rest. A password may hold slashes and colons, but a user
may not. -/
def credentials (chars : List Char) : Option (List Char) × Option (List Char) × List Char :=
  let user := chars.takeWhile fun char => char ≠ ':' && char ≠ '/'
  let rest := chars.drop user.length
  let alone := match splitLast? '@' user with
    | some (name, after) => (some name, none, after ++ rest)
    | none => (none, none, chars)
  match rest with
  | ':' :: more =>
    let password := more.takeWhile (· ≠ '@')
    match more.drop password.length with
    | '@' :: rest => (some user, some password, rest)
    | _ => alone
  | _ => alone

/-- The name of a server, or its number in brackets, and the rest. -/
def server (chars : List Char) : Option (List Char) × List Char :=
  let name := chars.takeWhile fun char => char ≠ '/' && char ≠ ':' && char ≠ '?'
  let named := (if name.isEmpty then none else some name, chars.drop name.length)
  match chars with
  | '[' :: more =>
    let run := more.takeWhile fun char => char ≠ '/' && char ≠ '?'
    match splitLast? ']' run with
    | some ([], _) | none => named
    | some (number, after) => (some number, after ++ more.drop run.length)
  | _ => named

/-- What stands behind a mark, if the mark comes next, up to one of the characters that end it. -/
def part (mark : Char) (ends : List Char) (chars : List Char) : Option (List Char) × List Char :=
  match chars with
  | [] => (none, [])
  | first :: rest =>
    if first = mark then
      let inside := rest.takeWhile (!ends.contains ·)
      (some inside, rest.drop inside.length)
    else (none, chars)

/-- A port in digits. -/
def portOf : Option (List Char) → Except AddressFault (Option Int)
  | none => .ok none
  | some [] => .error .noPort
  | some digits => ((Text.Numeral.parse (String.ofList digits)).map some).mapError .port

/-- The kind of database and the driver of a scheme. -/
def kindOf (scheme : List Char) : Except AddressFault (String × Option String) :=
  match (String.ofList scheme).splitOn "+" with
  | [kind] => .ok (kind, none)
  | [kind, driver] => .ok (kind, some driver)
  | _ => .error .drivers

/-- The address that a text writes. That a port is no number is found before the kind of database is looked at. -/
def read (text : String) : Except AddressFault Address := do
  let some (scheme, rest) := scheme? text.toList | throw .malformed
  let (user, password, rest) := credentials rest
  let (host, rest) := server rest
  let (digits, rest) := part ':' ['/', '?'] rest
  let (database, _) := part '/' ['?'] rest
  let port ← portOf digits
  let (kind, driver) ← kindOf scheme
  return {
    kind, driver, port
    user := user.map String.ofList
    password := password.map String.ofList
    host := host.map String.ofList
    database := database.map fun name => Text.Percent.decode (Bytes.ofText (String.ofList name)) }

/-- Whether an address names a server or someone known to it. A port of zero is none. -/
def hasServer (address : Address) : Bool :=
  let given (part : Option String) : Bool := part.any (!·.isEmpty)
  given address.user || given address.password || given address.host || address.port.any (· ≠ 0)

/-- The drivers that each kind of database may be reached by; the first is the one that is meant where none is
named. -/
def drivers : List (String × List String) :=
  [("sqlite", ["pysqlite", "aiosqlite", "pysqlcipher"]),
    ("postgresql", ["psycopg", "psycopg2", "asyncpg", "pg8000", "psycopg_async"]),
    ("mysql", ["mysqldb", "pymysql", "mysqlconnector", "aiomysql", "asyncmy", "cymysql", "pyodbc",
      "mariadbconnector"]),
    ("mariadb", ["mysqldb", "pymysql", "mysqlconnector", "aiomysql", "asyncmy", "cymysql", "pyodbc",
      "mariadbconnector"]),
    ("oracle", ["oracledb", "cx_oracle", "oracledb_async"]),
    ("mssql", ["pyodbc", "pymssql", "aioodbc"])]

/-- The driver that an address calls for, if it is one that its kind of database has. -/
def driver? (address : Address) : Option String := do
  let known ← drivers.lookup address.kind
  match address.driver with
  | none | some "base" => known.head?
  | some name => if known.contains name then some name else none

end Address
end ReadOnce.Store
