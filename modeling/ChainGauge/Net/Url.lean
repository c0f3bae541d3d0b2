import ChainGauge.Net.Idna
import ChainGauge.Net.Ip

/-!
# Uniform resource locators

A URL names a scheme, mostly a host with a port, and a path with an optional query and fragment.
The schemes `http`, `https`, `ws`, `wss`, `ftp` and `file` are *special*: their host is a domain name
or a network address and their path is never empty. The host of another scheme is kept as it is
written, with unusual characters escaped. Blanks around a URL and line breaks and tabs within do
not count.
-/

namespace ChainGauge

/-- The host of a URL. -/
inductive Url.Host where
  /-- A name; empty for a URL that names no host. -/
  | name (text : String)
  | ip4 (ip : Ip4)
  | ip6 (ip : Ip6)
  deriving DecidableEq, Repr

/-- The part of a URL that says where to connect. -/
structure Url.Authority where
  host : Url.Host
  /-- The port, where it is written and is not the one of the scheme. -/
  port : Option Nat
  deriving DecidableEq, Repr

/-- A URL without the name and password of a user. -/
structure Url where
  scheme : String
  authority : Option Url.Authority
  path : String
  query : Option String
  fragment : Option String
  deriving DecidableEq, Repr

namespace Url

open Ip (digit? spanDigits ofDigits)

/-- Why a text is no URL. -/
inductive Fault where
  | emptyHost
  | domain
  | port
  | ip4
  | ip6
  | hostCharacter
  | relative
  deriving DecidableEq, Repr

/-- The wording of a fault. -/
def Fault.message : Fault → String
  | .emptyHost => "empty host"
  | .domain => "invalid international domain name"
  | .port => "invalid port number"
  | .ip4 => "invalid IPv4 address"
  | .ip6 => "invalid IPv6 address"
  | .hostCharacter => "invalid domain character"
  | .relative => "relative URL without a base"

/-! ### Escapes -/

/-- Whether a character is escaped wherever it stands. -/
def isControl (c : Char) : Bool :=
  c.toNat < 32 || 127 ≤ c.toNat

/-- Whether a character of a fragment is escaped. -/
def isFragmentEscaped (c : Char) : Bool :=
  isControl c || " \x22<>\x60".toList.contains c

/-- Whether a character of a path is escaped. -/
def isPathEscaped (c : Char) : Bool :=
  isFragmentEscaped c || "#?\x7b\x7d".toList.contains c

/-- Whether a character of a query is escaped. -/
def isQueryEscaped (special : Bool) (c : Char) : Bool :=
  isControl c || " \x22#<>".toList.contains c || (special && c == '\x27')

/-- The escape of a byte. -/
def escapeByte (b : UInt8) : List Char :=
  '%' :: (Nat.toDigits 16 (256 + b.toNat)).tail.map Char.toUpper

/-- Escapes the bytes of the characters that a test holds for. -/
def escape (test : Char → Bool) (cs : List Char) : String :=
  String.ofList <| cs.flatMap fun c =>
    if test c then (Utf8.encode c.toString).flatMap escapeByte else [c]

/-- Undoes escapes. A percent sign without two digits behind it stands for itself. -/
def unescape : List Char → Bytes
  | '%' :: x :: y :: rest =>
    match digit? 16 x, digit? 16 y with
    | some a, some b => UInt8.ofNat (16 * a + b) :: unescape rest
    | _, _ => 37 :: unescape (x :: y :: rest)
  | c :: rest => Utf8.encode c.toString ++ unescape rest
  | [] => []

/-! ### Hosts -/

/-- The number that a part of a host spells: `none` for no number, `some none` for one of more than
thirty-two bits. A leading `0x` stands for base sixteen, another leading zero for base eight. -/
def ip4Number (part : List Char) : Option (Option Nat) :=
  let (base, digits) : Nat × List Char :=
    match part with
    | '0' :: 'x' :: rest => (16, rest)
    | '0' :: 'X' :: rest => (16, rest)
    | '0' :: c :: rest => (8, c :: rest)
    | cs => (10, cs)
  if part.isEmpty then none
  else
    match spanDigits base digits with
    | (ds, []) => let n := ofDigits base ds; some (if n < 0x100000000 then some n else none)
    | _ => none

/-- The parts of a host between its points, without an empty last one. -/
def hostParts (host : List Char) : List (List Char) :=
  let parts := Text.splitAt '.' host
  if parts.getLast? = some [] then parts.dropLast else parts

/-- Whether a host ends in a number, so that it must be an address. -/
def endsInNumber (host : List Char) : Bool :=
  match (hostParts host).getLast? with
  | none => false
  | some part => (!part.isEmpty && part.all Char.isDigit) || (ip4Number part).isSome

/-- The numbers of an address, the last of which fills all bytes that the others leave. -/
def ip4OfNumbers : List Nat → Option Ip4
  | ns =>
    match ns.getLast? with
    | none => none
    | some last =>
      let front := ns.dropLast
      if 4 < ns.length ∨ Nat.pow 256 (5 - ns.length) ≤ last ∨ front.any (255 < ·) then none
      else some (Ip4.ofNat (ofDigits 256 front * Nat.pow 256 (5 - ns.length) + last))

/-- Reads an address of the older version in any of its written forms. -/
def ip4? (host : List Char) : Option Ip4 := do
  let numbers ← (hostParts host).mapM fun part => (ip4Number part).join
  ip4OfNumbers numbers

/-- Takes the four decimal numbers at the end of an address of the newer version. -/
def ip4Tail? (cs : List Char) : Option (List Nat) :=
  match Ip4.take cs with
  | some (ip, []) => some [256 * ip.a + ip.b, 256 * ip.c + ip.d]
  | _ => none

/-- The groups of an address from group `seen` on, and the place where a run of zero groups is
left out; `fuel` bounds the number of steps. -/
def ip6Groups (seen : Nat) (gap : Option Nat) : Nat → List Char → Option (List Nat × Option Nat)
  | _, [] => some ([], gap)
  | 0, _ :: _ => none
  | fuel + 1, c :: cs =>
    if 8 ≤ seen then none
    else if c = ':' then
      if gap.isSome then none else ip6Groups (seen + 1) (some (seen + 1)) fuel cs
    else
      let (ds, _) := spanDigits 16 ((c :: cs).take 4)
      match (c :: cs).drop ds.length with
      | [] => some ([ofDigits 16 ds], gap)
      | '.' :: _ =>
        if ds.isEmpty ∨ 6 < seen then none
        else (ip4Tail? (c :: cs)).map fun gs => (gs, gap)
      | ':' :: rest =>
        if rest.isEmpty then none
        else
          (ip6Groups (seen + 1) gap fuel rest).map fun r => (ofDigits 16 ds :: r.1, r.2)
      | _ => none

/-- Reads an address of the newer version. -/
def ip6? (cs : List Char) : Option Ip6 := do
  let (groups, gap) ←
    match cs with
    | ':' :: ':' :: rest => ip6Groups 1 (some 1) (rest.length + 1) rest
    | ':' :: _ => none
    | [] => none
    | [_] => none
    | _ => ip6Groups 0 none (cs.length + 1) cs
  match gap with
  | none => if groups.length = 8 then some ⟨groups⟩ else none
  | some place =>
    let front := groups.take (place - 1)
    let back := groups.drop (place - 1)
    if 8 < groups.length + 1 then none
    else some ⟨front ++ List.replicate (8 - groups.length) 0 ++ back⟩

/-- Reads what stands in brackets. -/
def bracketed (cs : List Char) : Except Fault Host :=
  if cs.getLast? ≠ some ']' then .error .ip6
  else
    match ip6? (cs.drop 1).dropLast with
    | some ip => .ok (.ip6 ip)
    | none => .error .ip6

/-- Reads the host of a URL that is not special. -/
def opaqueHost (cs : List Char) : Except Fault Host :=
  if cs.head? = some '[' then bracketed cs
  else if cs.any "\x00\t\n\r #/:<>?@[\\]^|".toList.contains then .error .hostCharacter
  else .ok (.name (escape isControl cs))

/-- Reads the host of a special URL. -/
def specialHost (cs : List Char) : Except Fault Host :=
  if cs.head? = some '[' then bracketed cs
  else
    match Utf8.decode (unescape cs) with
    | .error _ => .error .domain
    | .ok domain =>
      match Idna.toAscii domain.toList with
      | none => .error .domain
      | some [] => .error .emptyHost
      | some ascii =>
        if endsInNumber ascii then
          match ip4? ascii with
          | some ip => .ok (.ip4 ip)
          | none => .error .ip4
        else .ok (.name (String.ofList ascii))

/-- Splits in front of the first character that a test holds for. -/
def splitBefore (test : Char → Bool) (cs : List Char) : List Char × List Char :=
  cs.span fun c => !test c

/-- Whether a character ends the authority of a URL. -/
def endsAuthority (special : Bool) (c : Char) : Bool :=
  c == '/' || c == '?' || c == '#' || (special && c == '\\')

/-- The characters of the host and those behind it. A colon ends a host outside of brackets. -/
def splitHost (special : Bool) (inside : Bool) : List Char → List Char × List Char
  | [] => ([], [])
  | c :: cs =>
    if (c == ':' && !inside) || endsAuthority special c then ([], c :: cs)
    else
      let inside := if c = '[' then true else if c = ']' then false else inside
      let (host, rest) := splitHost special inside cs
      (c :: host, rest)

/-- The port of a scheme. -/
def defaultPort (scheme : String) : Option Nat :=
  match scheme with
  | "http" | "ws" => some 80
  | "https" | "wss" => some 443
  | "ftp" => some 21
  | _ => none

/-- Reads the port behind its colon, up to the end of the authority. -/
def takePort (scheme : String) (cs : List Char) : Except Fault (Option Nat × List Char) :=
  let (ds, rest) := spanDigits 10 cs
  let n := ofDigits 10 ds
  if 0x10000 ≤ n then .error .port
  else if rest.head?.any (fun c => !endsAuthority true c) then .error .port
  else .ok (if ds.isEmpty ∨ some n = defaultPort scheme then none else some n, rest)

/-- The name and password of a user, if any sign stands for them, and the characters behind. -/
def splitUser (special : Bool) (cs : List Char) : Option (List Char) × List Char :=
  let (authority, rest) := splitBefore (endsAuthority special) cs
  match (Text.splitAt '@' authority).reverse with
  | last :: front :: more =>
    (some (List.intercalate ['@'] (front :: more).reverse), last ++ rest)
  | _ => (none, cs)

/-- Reads the authority behind its two slashes. -/
def takeAuthority (scheme : String) (special : Bool) (cs : List Char) :
    Except Fault (Authority × List Char) := do
  let (user, rest) := splitUser special cs
  if user = some [] ∧ rest.head?.any (endsAuthority special) then throw .emptyHost
  let (hostChars, rest) := splitHost special false rest
  -- Only a special URL must name a host; another one may do without user and port.
  if special ∧ hostChars.isEmpty then throw .emptyHost
  let host ← if special then specialHost hostChars else opaqueHost hostChars
  if host = .name "" ∧ rest.head? = some ':' then throw .emptyHost
  let (port, rest) ←
    match rest with
    | ':' :: rest => takePort scheme rest
    | _ => .ok (none, rest)
  if host = .name "" ∧ user.any (fun u => u ≠ [] ∧ u ≠ [':']) then throw .emptyHost
  .ok (⟨host, port⟩, rest)

/-! ### Paths -/

/-- Whether a segment is a letter with a colon or bar, which no step back removes. -/
def isDrive : List Char → Bool
  | [c, d] => (('a' ≤ c && c ≤ 'z') || ('A' ≤ c && c ≤ 'Z')) && (d == ':' || d == '|')
  | _ => false

/-- The segment with its escaped points as points. -/
def pointed : List Char → List Char
  | '%' :: '2' :: 'e' :: rest => '.' :: pointed rest
  | '%' :: '2' :: 'E' :: rest => '.' :: pointed rest
  | c :: rest => c :: pointed rest
  | [] => []

/-- Puts a segment behind others; one point stays, two points step back. -/
def pushSegment (done : List (List Char)) (segment : List Char) (last : Bool) :
    List (List Char) :=
  match pointed segment with
  | ['.'] => if last then done ++ [[]] else done
  | ['.', '.'] =>
    let back := if done.getLast?.any isDrive then done else done.dropLast
    if last then back ++ [[]] else back
  | _ => done ++ [segment]

/-- The segments of a path after steps to the same place and back. -/
def normalized (done : List (List Char)) : List (List Char) → List (List Char)
  | [] => done
  | [segment] => pushSegment done segment true
  | segment :: rest => normalized (pushSegment done segment false) rest

/-- The segments of a path whose characters stand behind the first slash. -/
def segments (special : Bool) (cs : List Char) : List (List Char) :=
  let cs := if special then cs.map fun c => if c = '\\' then '/' else c else cs
  normalized [] ((Text.splitAt '/' cs).map fun s => (escape isPathEscaped s).toList)

/-- The text of a path, whose characters stand behind the first slash. -/
def pathText (special : Bool) (cs : List Char) : String :=
  "/" ++ String.ofList (List.intercalate ['/'] (segments special cs))

/-- Reads the path, which starts behind the authority. -/
def writtenPath (special : Bool) (cs : List Char) : String :=
  match cs with
  | [] => if special then "/" else ""
  | c :: rest => if c = '/' ∨ (special ∧ c = '\\') then pathText special rest else pathText special cs

/-! ### Whole URLs -/

/-- Whether a scheme is special. -/
def isSpecial (scheme : String) : Bool :=
  ["http", "https", "ws", "wss", "ftp", "file"].contains scheme

/-- The scheme in lower case and the characters behind its colon. -/
def splitScheme? (cs : List Char) : Option (String × List Char) :=
  match cs.span fun c => c.isAlphanum || c == '+' || c == '-' || c == '.' with
  | (c :: scheme, ':' :: rest) =>
    if c.isAlpha then some (String.ofList ((c :: scheme).map Char.toLower), rest) else none
  | _ => none

/-- A URL from its front and the characters of path, query and fragment. -/
def withRest (scheme : String) (authority : Option Authority) (readPath : List Char → String)
    (cs : List Char) : Url :=
  let (front, fragment) := splitBefore (· == '#') cs
  let (pathChars, query) := splitBefore (· == '?') front
  { scheme, authority, path := readPath pathChars
    query := if query.isEmpty then none
      else some (escape (isQueryEscaped (isSpecial scheme)) query.tail)
    fragment := if fragment.isEmpty then none
      else some (escape isFragmentEscaped fragment.tail) }

/-- The text of the path of a file. A drive in front is written with a colon, and slashes in front
count as one. -/
def filePath (cs : List Char) : String :=
  let path :=
    match segments true cs with
    | [letter, mark] :: rest =>
      (if isDrive [letter, mark] then [letter, ':'] else [letter, mark]) :: rest
    | path => path
  "/" ++ String.ofList ((List.intercalate ['/'] path).dropWhile (· == '/'))

/-- A URL for files from its host and the characters behind the first slash of the path. A drive is
one of the own machine, whatever host is named. -/
def atHost (host : Host) (cs : List Char) : Url :=
  let (path, _) := splitBefore (fun c => c == '?' || c == '#') cs
  let host := if (segments true path).head?.any isDrive then .name "" else host
  withRest "file" (some ⟨host, none⟩) filePath cs

/-- The characters without a slash in front. -/
def withoutSlash : List Char → List Char
  | c :: cs => if c = '/' ∨ c = '\\' then cs else c :: cs
  | [] => []

/-- Reads a URL for files: the host may be left out, and the name of the own machine is. -/
def ofFile (cs : List Char) : Except Fault Url :=
  let rest := withoutSlash cs
  let behind := withoutSlash rest
  if rest.length + 1 = cs.length ∧ behind.length + 1 = rest.length then
    let (hostChars, path) := splitBefore (endsAuthority true) behind
    -- Without a host, the first slash of the path does not stand for its start.
    if hostChars.isEmpty ∨ isDrive hostChars then .ok (atHost (.name "") behind)
    else
      match specialHost hostChars with
      | .error e => .error e
      | .ok host =>
        if host = .name "localhost" then .ok (atHost (.name "") path)
        else .ok (atHost host (withoutSlash path))
  else .ok (atHost (.name "") rest)

/-- Reads the rest of a URL behind the colon of its scheme. -/
def ofScheme (scheme : String) (cs : List Char) : Except Fault Url := do
  if scheme = "file" then ofFile cs
  else if isSpecial scheme then
    let (authority, rest) ←
      takeAuthority scheme true (cs.dropWhile fun c => c == '/' || c == '\\')
    .ok (withRest scheme (some authority) (writtenPath true) rest)
  else
    match cs with
    | '/' :: '/' :: rest =>
      let (authority, rest) ← takeAuthority scheme false rest
      .ok (withRest scheme (some authority) (writtenPath false) rest)
    | '/' :: _ => .ok (withRest scheme none (writtenPath false) cs)
    | _ => .ok (withRest scheme none (escape isControl) cs)

/-- Whether a character around a URL does not count. -/
def isMargin (c : Char) : Bool :=
  c.toNat ≤ 32

/-- Reads a URL. -/
def parse (s : String) : Except Fault Url :=
  let trimmed := ((s.toList.dropWhile isMargin).reverse.dropWhile isMargin).reverse
  let cs := trimmed.filter fun c => !(c == '\t' || c == '\n' || c == '\r')
  match splitScheme? cs with
  | none => .error .relative
  | some (scheme, rest) => ofScheme scheme rest

/-- The host, if the URL names one. -/
def host? (u : Url) : Option Host :=
  match u.authority with
  | none => none
  | some a => if a.host = .name "" then none else some a.host

/-- The text of a host within a URL. -/
def Host.text : Host → String
  | .name s => s
  | .ip4 ip => ip.text
  | .ip6 ip => "[" ++ ip.groupText ++ "]"

/-- The text of an authority. -/
def Authority.text (a : Authority) : String :=
  "//" ++ a.host.text ++ (match a.port with
    | none => ""
    | some p => ":" ++ toString p)

/-- What stands between the scheme and the path. Without a host, a path with two slashes in front is
marked so that it does not look like one. -/
def front (u : Url) : String :=
  match u.authority with
  | some a => a.text
  | none => if u.path.startsWith "//" then "/." else ""

/-- The text of the URL. -/
def text (u : Url) : String :=
  u.scheme ++ ":" ++ u.front ++ u.path ++
    (u.query.map ("?" ++ ·)).getD "" ++ (u.fragment.map ("#" ++ ·)).getD ""

end Url

end ChainGauge
