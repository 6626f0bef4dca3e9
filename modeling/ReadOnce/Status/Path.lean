import ReadOnce.Text.Percent

/-!
The paths that the addresses of requests lead to. An address may name a scheme and a server, but the server at hand
is asked all the same. Queries and fragments do not count, and escapes are put back twice: where the address is
read, and where the path is looked up.
-/
namespace ReadOnce.Status

/-- The scheme of an address, which a colon follows and which may be empty, and the rest. -/
def scheme (chars : List Char) : List Char × List Char :=
  let name := chars.takeWhile fun char => char.isAlphanum || char = '+' || char = '.' || char = '-'
  match chars.drop name.length with
  | ':' :: rest => if name.head?.all Char.isAlpha then (name, rest) else ([], chars)
  | _ => ([], chars)

/-- The server of an address, which two slashes announce, and the rest. -/
def server : List Char → List Char × List Char
  | '/' :: '/' :: rest =>
    let name := rest.takeWhile fun char => char ≠ '/' && char ≠ '?' && char ≠ '#'
    (name, rest.drop name.length)
  | chars => ([], chars)

/-- The parts of a path between its slashes. -/
def segments (path : List Char) : List (List Char) :=
  path.foldr (fun char parts =>
    if char = '/' then [] :: parts
    else match parts with
      | [] => [[char]]
      | first :: rest => (char :: first) :: rest) [[]]

/-- A path without the parts that stay in place, and without those that a part upwards takes back. -/
def resolved (path : List Char) : List Char :=
  let taken := (segments path).foldl (fun taken part =>
    if part = ['.'] then taken
    else if part = ['.', '.'] then (if taken = [[]] then taken else taken.dropLast)
    else taken ++ [part]) []
  ['/'].intercalate taken

/-- How many characters an address may have. -/
def addressLimit : Nat := 65536

/-- Whether an address has a character that none may have. -/
def isForbidden (char : Char) : Bool := char.toNat < 0x20 || char.toNat = 0x7f

/-- The path that an address leads to, as bytes. A path alone may begin neither with a colon nor with two slashes. -/
def path? (address : String) : Option Bytes :=
  let chars := address.toList
  let (scheme, rest) := scheme chars
  let (server, rest) := server rest
  let written := rest.takeWhile fun char => char ≠ '?' && char ≠ '#'
  let alone := scheme.isEmpty && server.isEmpty
  if addressLimit < chars.length || chars.any isForbidden then none
  else if alone && (written.head? = some ':' || written.take 2 = ['/', '/']) then none
  else
    let path := if alone then written else resolved written
    let path :=
      if !scheme.isEmpty && !server.isEmpty then path
      else resolved ('/' :: path.dropWhile (· = '/'))
    let path := if path.isEmpty then ['/'] else path
    some (Text.Percent.decode (Text.Percent.decode (Bytes.ofText (String.ofList path))))

end ReadOnce.Status
