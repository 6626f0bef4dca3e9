import ReadOnce.Json.Printer
import ReadOnce.Program
import ReadOnce.Status.Path

/-!
The status of the broker over the web. There is one page to get, which says that the broker is up, and a
description of the pages; there may be other pages, such as those that show the description. The path of a page with
slashes too many or too few is sent on to the page.
-/
namespace ReadOnce.Status

structure Response where
  code : Nat
  contentType : Option String
  body : String
deriving DecidableEq, Repr

/-- A page, and the methods by which it is had. -/
structure Page where
  path : String
  methods : List String
  contentType : String
  body : String
deriving DecidableEq, Repr

/-- The methods of requests. -/
def methods : List String := ["GET", "HEAD", "POST", "PUT", "PATCH", "DELETE", "OPTIONS"]

private def described (members : List (String × Json)) : Json :=
  .obj (members.map fun (name, value) => (.ofString name, value))

/-- The description of the pages that are made for use. -/
def description : Json :=
  let reply := described [("text/plain", described [("schema", described [("type", .text "string")])])]
  let answers := described [("200",
    described [("description", .text "Successful Response"), ("content", reply)])]
  let operation := described [("summary", .text "Status"), ("operationId", .text "status_status_get"),
    ("responses", answers)]
  described [("openapi", .text "3.1.0"),
    ("info", described [("title", .text Program.title), ("description", .text Program.description),
      ("version", .text Program.version)]),
    ("paths", described [("/status", described [("get", operation)])])]

def pages : List Page :=
  [⟨"/openapi.json", ["GET", "HEAD"], "application/json", description.write⟩,
    ⟨"/status", ["GET"], "text/plain; charset=utf-8", "UP AND RUNNING!\n"⟩]

/-- Whether a path leads to a page; a line break after it does not count. -/
def Page.isAt (page : Page) (path : Bytes) : Bool :=
  let exact := Bytes.ofText page.path
  path = exact || path = exact ++ [10]

def page? (others : List Page) (path : Bytes) : Option Page := (pages ++ others).find? (·.isAt path)

/-- An error, told of in a member of its own. -/
private def failure (code : Nat) (detail : String) : Response :=
  ⟨code, some "application/json", (described [("detail", .text detail)]).write⟩

/-- The path with the slashes at its end taken off, or with one put there. -/
private def otherEnd (path : Bytes) : Bytes :=
  if path.getLast? = some 47 then (path.reverse.dropWhile (· = 47)).reverse else path ++ [47]

private def find (others : List Page) (method : String) (path : Bytes) : Response :=
  match page? others path with
  | some page =>
    if page.methods.contains method then ⟨200, some page.contentType, page.body⟩
    else failure 405 "Method Not Allowed"
  | none =>
    if path ≠ [47] ∧ (page? others (otherEnd path)).isSome then ⟨307, none, ""⟩ else failure 404 "Not Found"

/-- The response to a request, whose method may be in letters of either case; none if its address is no address.
A request for the head of a page only is sent no body. -/
def respond (method address : String) (others : List Page := []) : Option Response :=
  (path? address).map fun path =>
    let method := method.toUpper
    let response := find others method path
    if method = "HEAD" then { response with body := "" } else response

end ReadOnce.Status
