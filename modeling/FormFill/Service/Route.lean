import FormFill.Json.Reader
import FormFill.Text.Search

/-!
# Routes

What a service can be asked for, and under which paths. The target of a request leads to a path: a scheme,
an authority, a query and a fragment are left out, segments that lead nowhere or back are resolved, and
percent signs are decoded by the one who sends the target and again by the one who receives it.
-/

namespace FormFill.Service

/-! ## Targets -/

namespace Target

/-- A target without the scheme in front, if it has one. -/
def withoutScheme (target : Text) : Text :=
  let isSchemeLetter (c : Char) : Bool := c.isAlphanum || c == '+' || c == '.' || c == '-'
  let name := target.takeWhile isSchemeLetter
  match target.drop name.length with
  | ':' :: rest => if name.head?.all Char.isAlpha then rest else target
  | _ => target

/-- A character that ends the authority of a target. -/
def endsAuthority (c : Char) : Bool := c == '/' || c == '?' || c == '#'

/-- A target without the authority in front, if it has one. -/
def withoutAuthority : Text → Text
  | '/' :: '/' :: rest => rest.dropWhile (!endsAuthority ·)
  | target => target

/-- Puts a segment behind those before it, which are given from the end. A segment of two points takes the
last one back, but not the empty one at the beginning. -/
def addSegment (before : List Text) (segment : Text) : List Text :=
  if segment = ['.'] then before
  else if segment = ['.', '.'] then
    if before = [[]] then before else before.tail
  else segment :: before

/-- A path in which the segments of one and of two points are resolved. -/
def resolved (path : Text) : Text :=
  Text.joined ['/'] (((Text.splitOn '/' path).foldl addSegment []).reverse)

/-- A path in which percent signs with two hexadecimal digits are decoded. -/
def decoded : Text → Text
  | '%' :: a :: b :: rest =>
    match Json.hexValue? a, Json.hexValue? b with
    | some high, some low => Char.ofNat (high * 16 + low) :: decoded rest
    | _, _ => '%' :: decoded (a :: b :: rest)
  | c :: rest => c :: decoded rest
  | [] => []

/-- The path of a target. -/
def path (target : Text) : Text :=
  let written := (withoutAuthority (withoutScheme target)).takeWhile fun c => c != '?' && c != '#'
  decoded (decoded (resolved ('/' :: written.dropWhile (· == '/'))))

end Target

/-! ## Routes -/

/-- The pages that describe a service to its users. -/
inductive Manual where
  | schema
  | pages
  | authorization
  | reference
  deriving DecidableEq, Repr

/-- The things that a service can be asked for. -/
inductive Route where
  | health
  | description
  | form
  | fill
  | manual (page : Manual)
  deriving DecidableEq, Repr

namespace Route

/-- All routes. -/
def all : List Route :=
  [manual .schema, manual .pages, manual .authorization, manual .reference, health, description,
    form, fill]

/-- The path of a route. -/
def path : Route → Text
  | health => "/healthz"
  | description => "/v1/meta"
  | form => "/v1/structure"
  | fill => "/v1/fill"
  | manual .schema => "/openapi.json"
  | manual .pages => "/docs"
  | manual .authorization => "/docs/oauth2-redirect"
  | manual .reference => "/redoc"

/-- The methods that a route allows. -/
def methods : Route → List Text
  | health | description => ["GET".toList]
  | form | fill => ["POST".toList]
  | manual _ => ["GET".toList, "HEAD".toList]

/-- A path without slashes at its end, or without a line feed there. -/
def trimmed (path : Text) : Text :=
  match path.reverse with
  | '\n' :: rest => rest.reverse
  | rest => (rest.dropWhile (· == '/')).reverse

/-- The route that the target of a request leads to. -/
def ofTarget? (target : Text) : Option Route :=
  all.find? (·.path == trimmed (Target.path target))

/-- The path of a route leads to the route. -/
theorem ofTarget?_path (route : Route) : ofTarget? route.path = some route := by
  cases route with
  | manual page => cases page <;> decide
  | _ => decide

end Route

end FormFill.Service
