import ChainGauge.Json.Printer
import ChainGauge.Metrics.Exposition
import ChainGauge.Net.Ip
import ChainGauge.Text.Split

/-!
# The served pages

The program serves the exposition and a page that says it is alive. Other paths, and other methods
than reading, find nothing. A request names a page by a path or by a whole address.
-/

namespace ChainGauge.Routes

/-- An answer to a request. -/
structure Response where
  status : Nat
  contentType : Option String
  body : String
  deriving DecidableEq, Repr

/-- The version of the program. -/
def version : String := "0.1.0"

/-- The page that says the program is alive. -/
def health : Response :=
  ⟨200, some "application/json",
    (Json.object [("service", .string "neo-exporter"), ("status", .string "ok"),
      ("version", .string version)]).render⟩

/-- The page with the exposition. -/
def metrics (m : Metrics) : Response :=
  ⟨200, some "text/plain; version=0.0.4", Exposition.render m⟩

/-- Nothing is found. -/
def notFound : Response :=
  ⟨404, none, ""⟩

/-- The character of an escape, unless it is one that stays escaped. -/
def unescaped? (x y : Char) : Option Char :=
  match Ip.digit? 16 x, Ip.digit? 16 y with
  | some a, some b =>
    let c := Char.ofNat (16 * a + b)
    if c.toNat < 128 ∧ c ≠ '%' ∧ c ≠ '/' ∧ c ≠ '+' then some c else none
  | _, _ => none

/-- Undoes escapes in a path. -/
def unescape : List Char → List Char
  | '%' :: x :: y :: rest =>
    match unescaped? x y with
    | some c => c :: unescape rest
    | none => '%' :: unescape (x :: y :: rest)
  | c :: rest => c :: unescape rest
  | [] => []

/-- Whether a character ends a path or an authority in front of it. -/
def endsPart (c : Char) : Bool :=
  c == '?' || c == '#'

/-- What stands behind scheme and authority of a target that is a whole address, and the target
itself where it is none. -/
def behindAuthority (target : List Char) : List Char :=
  match Text.splitOnce "://".toList target with
  | some (scheme, rest) =>
    if scheme.any fun c => c == '/' || endsPart c then target
    else rest.dropWhile fun c => !(c == '/' || endsPart c)
  | none => target

/-- The path of a target without its query and fragment. -/
def pathOf (target : String) : String :=
  String.ofList (unescape ((behindAuthority target.toList).takeWhile fun c => !endsPart c))

/-- The answer to a request. -/
def answer (m : Metrics) (method target : String) : Response :=
  if method ≠ "GET" then notFound
  else
    match pathOf target with
    | "/health" => health
    | "/metrics" => metrics m
    | _ => notFound

end ChainGauge.Routes
