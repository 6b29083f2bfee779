import FetchKit.Address.Url

/-!
# Reading addresses

`Url.parse` reads an address that stands on its own, `Url.join` one that may be relative to
another. Controls and spaces around the text are dropped, tabs and ends of lines everywhere.
-/

namespace FetchKit.Address

/-! ## The text -/

def isTrimmed (c : Char) : Bool := c.toNat ≤ 0x20

def isSkipped (c : Char) : Bool := c == '\t' || c == '\n' || c == '\r'

/-- Drops characters at both ends. -/
def trim (p : Char → Bool) (cs : List Char) : List Char :=
  ((cs.dropWhile p).reverse.dropWhile p).reverse

def clean (cs : List Char) : List Char := cs.filter (!isSkipped ·)

/-- The scheme, its letters small, and what follows the colon. -/
def splitScheme (cs : List Char) : Option (List Char × List Char) :=
  let isPart (c : Char) : Bool := c.isAlphanum || c == '+' || c == '-' || c == '.'
  match cs with
  | c :: _ =>
    if c.isAlpha then
      match cs.dropWhile isPart with
      | ':' :: rest => some ((cs.takeWhile isPart).map Char.toLower, rest)
      | _ => none
    else none
  | [] => none

def isSlash (c : Char) : Bool := c == '/' || c == '\\'

/-- Whether this character ends a segment. A backslash does where the scheme is special. -/
def endsSegment (k : SchemeKind) (c : Char) : Bool := c == '/' || (k.isSpecial && c == '\\')

def endsPath (c : Char) : Bool := c == '?' || c == '#'

/-! ## Query and fragment -/

def fragmentOf (cs : List Char) : List Char := percentEncode inFragmentSet cs

def queryOf (k : SchemeKind) (cs : List Char) : List Char :=
  percentEncode (if k.isSpecial then inSpecialQuerySet else inQuerySet) cs

/-- What stands after the path. -/
def withTail (u : Url) (rest : List Char) : Url :=
  match rest with
  | '?' :: more =>
    let query := some (queryOf u.kind (more.takeWhile (· != '#')))
    match more.dropWhile (· != '#') with
    | '#' :: f => { u with query, fragment := some (fragmentOf f) }
    | _ => { u with query, fragment := none }
  | '#' :: f => { u with query := none, fragment := some (fragmentOf f) }
  | _ => { u with query := none, fragment := none }

/-! ## Paths -/

def isDriveLetter (mark : Char → Bool) : List Char → Bool
  | [c, m] => c.isAlpha && mark m
  | _ => false

/-- The name of a drive, as in `C:`. -/
def isDrive (cs : List Char) : Bool := isDriveLetter (· == ':') cs

/-- As `isDrive`; a bar may stand for the colon. -/
def isLooseDrive (cs : List Char) : Bool := isDriveLetter (fun m => m == ':' || m == '|') cs

/-- Whether the text starts with the segment of a drive. -/
def startsDrive (cs : List Char) : Bool :=
  match cs with
  | c :: m :: rest =>
    isLooseDrive [c, m] &&
      match rest with
      | [] => true
      | e :: _ => isSlash e || endsPath e
  | _ => false

/-- A point, written plainly or by its number. -/
def dots : List Char → Option Nat
  | [] => some 0
  | '.' :: rest => (dots rest).map (· + 1)
  | '%' :: '2' :: 'e' :: rest => (dots rest).map (· + 1)
  | '%' :: '2' :: 'E' :: rest => (dots rest).map (· + 1)
  | _ => none

/-- How far a path has come. -/
structure Trail where
  /-- The segments that came, the last first. -/
  behind : List (List Char) := []
  /-- What stands already in the place of the next segment. -/
  stem : List Char := []
  /-- Whether a drive was read at the front. -/
  onDrive : Bool := false
  deriving Repr, DecidableEq, Inhabited

namespace Trail

def ofSegments (path : List (List Char)) : Trail := { behind := path.reverse }

/-- The path with the text in the place of its next segment. -/
def settle (t : Trail) : Trail :=
  if t.stem.isEmpty then t else { t with behind := t.stem :: t.behind, stem := [] }

/-- Where a relative path goes on from: after all but the last segment. The drive of a file stays;
behind other segments it stays in the place of the next. -/
def ofBase (k : SchemeKind) (path : List (List Char)) : Trail :=
  match path.reverse with
  | [] => {}
  | [s] => if k = .file && isDrive s then { behind := [s] } else {}
  | s :: behind => if k = .file && isDrive s then { behind, stem := s } else { behind }

/-- Goes up by one segment, but not from what looks like a drive. -/
def goUp (t : Trail) : Trail :=
  match t.behind with
  | s :: more => if startsDrive s then t else { t with behind := more }
  | [] => t

/-- Goes on by a segment that is no dots. A drive at the front of a file's path gets its colon. -/
def push (k : SchemeKind) (t : Trail) (s : List Char) : Trail :=
  if k = .file && t.behind.isEmpty && t.stem.isEmpty && isLooseDrive s then
    { behind := [s.take 1 ++ [':']], onDrive := true }
  else { t with behind := (t.stem ++ s) :: t.behind, stem := [] }

end Trail

/-- Cuts a segment after a drive that a tab or the end of a line parts from the rest. -/
def cutAfterDrive (raw : List Char) : Option (List Char × List Char) :=
  match raw.dropWhile isSkipped with
  | [] => none
  | c :: more =>
    match more.dropWhile isSkipped with
    | m :: blank :: rest =>
      if isDrive [c, m] && isSkipped blank && !(clean rest).isEmpty then some ([c, m], clean rest)
      else none
    | _ => none

/-- Goes on by one segment: `.` stays, `..` goes up. A drive that is cut off at the front of a file's
path is a segment of its own. -/
def pushSegment (k : SchemeKind) (t : Trail) (raw : List Char) (isLast : Bool) : Trail :=
  let s := percentEncode inPathSet (clean raw)
  match dots s with
  | some 1 => if isLast then t.settle.push k [] else t.settle
  | some 2 =>
    if t.stem.isEmpty then if isLast then t.goUp.push k [] else t.goUp
    else t.settle
  | _ =>
    let front := k = .file && t.behind.isEmpty && t.stem.isEmpty
    match if front then cutAfterDrive raw else none with
    | some (drive, rest) => { t with behind := [percentEncode inPathSet rest, drive] }
    | none => t.push k s

def pushSegments (k : SchemeKind) (t : Trail) : List (List Char) → Trail
  | [] => t
  | [raw] => pushSegment k t raw true
  | raw :: more => pushSegments k (pushSegment k t raw false) more

/-- The path of a file has no empty segments in front. -/
def tidy (k : SchemeKind) (path : List (List Char)) : List (List Char) :=
  if k = .file then
    match path.dropWhile List.isEmpty with
    | [] => [[]]
    | path => path
  else path

/-- The segments of a text, split where they end. -/
def rawSegments (k : SchemeKind) (cs : List Char) : List (List Char) :=
  cs.splitOnP (endsSegment k)

/-- Goes on by a text, up to the query or fragment. -/
def walkOn (k : SchemeKind) (t : Trail) (cs : List Char) : Trail :=
  pushSegments k t (rawSegments k (cs.takeWhile (!endsPath ·)))

def Trail.path (k : SchemeKind) (t : Trail) : List (List Char) := tidy k t.behind.reverse

def walk (k : SchemeKind) (t : Trail) (cs : List Char) : List (List Char) := (walkOn k t cs).path k

def afterPath (cs : List Char) : List Char := cs.dropWhile (!endsPath ·)

/-! ## Authorities -/

/-- Splits the name and password from the rest, at the last `@` before the path. -/
def splitUserinfo (k : SchemeKind) (cs : List Char) : Option (List Char) × List Char :=
  let inside := cs.takeWhile fun c => !(endsSegment k c || endsPath c)
  let after := cs.drop inside.length
  match inside.reverse.dropWhile (· != '@') with
  | _ :: userinfo =>
    (some userinfo.reverse, inside.drop (userinfo.length + 1) ++ after)
  | [] => (none, cs)

/-- The name, and the password unless it is empty. -/
def readUserinfo (cs : List Char) : List Char × Option (List Char) :=
  let name := percentEncode inUserinfoSet (cs.takeWhile (· != ':'))
  match cs.dropWhile (· != ':') with
  | _ :: [] => (name, none)
  | _ :: password => (name, some (percentEncode inUserinfoSet password))
  | [] => (name, none)

/-- Where the host ends: before the path or the port. A colon in brackets belongs to it. -/
def hostLength (k : SchemeKind) : Bool → List Char → Nat
  | _, [] => 0
  | inside, c :: cs =>
    if endsSegment k c || endsPath c || (c == ':' && !inside) then 0
    else hostLength k (if c == '[' then true else if c == ']' then false else inside) cs + 1

def readHost (k : SchemeKind) (cs : List Char) : Except Failure Host :=
  match k with
  | .other => Host.parseUnknown cs
  | _ => if cs.isEmpty then .error .emptyHost else Host.parse cs

/-- A port after its colon; the default port of the scheme is not kept. -/
def readPort (k : SchemeKind) (cs : List Char) : Except Failure (Option Nat × List Char) :=
  let digits := cs.takeWhile isDecimal
  let rest := cs.dropWhile isDecimal
  let port := ofDigits 10 digits
  if port > 65535 then .error .badPort
  else
    match rest with
    | c :: _ =>
      if isSlash c || endsPath c then
        .ok (if digits.isEmpty || k.defaultPort = some port then none else some port, rest)
      else .error .badPort
    | [] => .ok (if digits.isEmpty || k.defaultPort = some port then none else some port, rest)

/-- The host, the port and what follows them. -/
def readHostAndPort (k : SchemeKind) (cs : List Char) :
    Except Failure (Host × Option Nat × List Char) :=
  let length := hostLength k false cs
  let rest := cs.drop length
  match readHost k (cs.take length) with
  | .error f => .error f
  | .ok host =>
    match rest with
    | ':' :: more =>
      if host.isEmpty then .error .emptyHost
      else
        match readPort k more with
        | .ok (port, rest) => .ok (host, port, rest)
        | .error f => .error f
    | rest => .ok (host, none, rest)

/-- The path after an authority. -/
def pathAfterAuthority (k : SchemeKind) (cs : List Char) : List (List Char) :=
  match cs with
  | [] => if k.isSpecial then [[]] else []
  | c :: rest =>
    if endsSegment k c then walk k {} rest
    else if endsPath c && !k.isSpecial then []
    else walk k {} cs

/-- Everything after `//`. -/
def readAuthority (scheme : List Char) (cs : List Char) : Except Failure Url :=
  let k := SchemeKind.ofText scheme
  let (userinfo, rest) := splitUserinfo k cs
  let (username, password) := readUserinfo (userinfo.getD [])
  let cutOff := match rest with
    | c :: _ => endsSegment k c || endsPath c
    | [] => false
  if userinfo == some [] && cutOff then .error .emptyHost
  else
    match readHostAndPort k rest with
    | .error f => .error f
    | .ok (host, port, rest) =>
      if host.isEmpty && (!username.isEmpty || password.isSome) then .error .emptyHost
      else
        .ok (withTail
          { scheme, authority := some { username, password, host, port },
            path := .segments (pathAfterAuthority k rest) } (afterPath rest))

/-! ## Files

Here tabs and ends of lines are still in the text, since they can part a drive from what follows. -/

def noHost : Authority := { host := .domain [] }

/-- The host of a file, if it has one, and what follows. A drive is no host, and this machine is not
named. -/
def readFileHost (cs : List Char) : Except Failure (Option Host × List Char) :=
  let raw := cs.takeWhile fun c => !(isSlash c || endsPath c)
  let name := clean raw
  if name.isEmpty || isLooseDrive name then .ok (none, cs)
  else
    match Host.parse name with
    | .error f => .error f
    | .ok host =>
      let rest := cs.drop raw.length
      if host = .domain "localhost".toList then .ok (none, rest) else .ok (some host, rest)

def fileUrl (authority : Authority) (path : List (List Char)) (rest : List Char) : Url :=
  withTail { scheme := "file".toList, authority := some authority, path := .segments path } (clean rest)

/-- The file after `//`. Without a host, the slash before the path starts an empty segment. A drive at
the front of the path leaves no host. -/
def readFileAuthority (cs : List Char) : Except Failure Url :=
  match readFileHost cs with
  | .error f => .error f
  | .ok (none, rest) => .ok (fileUrl noHost (walk .file {} rest) (afterPath rest))
  | .ok (some host, rest) =>
    let path := match rest with
      | c :: more => if isSlash c then more else rest
      | [] => []
    let t := walkOn .file {} path
    .ok (fileUrl { host := if t.onDrive then .domain [] else host } (t.path .file) (afterPath path))

/-- A file after one slash: on the drive, or else the host, of the base. -/
def readRootedFile (base : Option Url) (cs : List Char) : Url :=
  let plain := fileUrl noHost (walk .file {} cs) (afterPath cs)
  if startsDrive (clean cs) then plain
  else
    match base with
    | none => plain
    | some b =>
      match b.segments with
      | s :: _ =>
        if isDrive s then fileUrl noHost (walk .file (.ofSegments [s]) cs) (afterPath cs)
        else fileUrl { host := b.host?.getD (.domain []) } (walk .file {} cs) (afterPath cs)
      | [] => fileUrl { host := b.host?.getD (.domain []) } (walk .file {} cs) (afterPath cs)

def readFile (base : Option Url) (cs : List Char) : Except Failure Url :=
  match cs.dropWhile isSkipped with
  | c :: rest =>
    if isSlash c then
      match rest.dropWhile isSkipped with
      | d :: more => if isSlash d then readFileAuthority more else .ok (readRootedFile base rest)
      | [] => .ok (readRootedFile base rest)
    else
      match base with
      | none => .ok (fileUrl noHost (walk .file {} cs) (afterPath cs))
      | some b =>
        if c = '?' then .ok (withTail b (clean cs))
        else if c = '#' then .ok { b with fragment := some (fragmentOf (clean rest)) }
        else if startsDrive (clean cs) then .ok (fileUrl noHost (walk .file {} cs) (afterPath cs))
        else
          .ok (withTail { b with path := .segments (walk .file (.ofBase .file b.segments) cs) }
            (clean (afterPath cs)))
  | [] =>
    match base with
    | none => .ok (fileUrl noHost (walk .file {} []) [])
    | some b => .ok { b with fragment := none }

/-! ## Relative addresses -/

/-- A text without a scheme, against a base that is no file. -/
def readRelative (b : Url) (cs : List Char) : Except Failure Url :=
  let k := b.kind
  match cs with
  | [] => .ok { b with fragment := none }
  | c :: rest =>
    if c = '?' then .ok (withTail b cs)
    else if c = '#' then .ok { b with fragment := some (fragmentOf rest) }
    else if isSlash c then
      match rest with
      | d :: more =>
        if isSlash d then
          readAuthority b.scheme (if c = '/' && d = '/' then more else cs.dropWhile isSlash)
        else .ok (withTail { b with path := .segments (walk k {} rest) } (afterPath rest))
      | [] => .ok (withTail { b with path := .segments (walk k {} rest) } (afterPath rest))
    else
      .ok (withTail { b with path := .segments (walk k (.ofBase k b.segments) cs) } (afterPath cs))

/-! ## Any address -/

/-- A scheme that is not special, and what follows it. -/
def readOther (scheme cs : List Char) : Except Failure Url :=
  match cs with
  | '/' :: '/' :: rest => readAuthority scheme rest
  | '/' :: rest =>
    .ok (withTail { scheme, path := .segments (walk .other {} rest) } (afterPath rest))
  | cs =>
    let text := percentEncode inControlSet (cs.takeWhile (!endsPath ·))
    .ok (withTail { scheme, path := .whole text } (afterPath cs))

/-- An address with a scheme, and what follows its colon: as it stands for files, and else without
tabs and ends of lines. -/
def readWithScheme (base : Option Url) (scheme raw : List Char) : Except Failure Url :=
  let cs := clean raw
  match SchemeKind.ofText scheme with
  | .file => readFile (base.filter (·.scheme = scheme)) raw
  | .other => readOther scheme cs
  | .special _ =>
    let slashes := (cs.takeWhile isSlash).length
    match base with
    | some b =>
      if slashes < 2 && b.scheme = scheme then readRelative b cs
      else readAuthority scheme (cs.drop slashes)
    | none => readAuthority scheme (cs.drop slashes)

def read (base : Option Url) (s : String) : Except Failure Url :=
  let raw := trim isTrimmed s.toList
  let cs := clean raw
  match splitScheme cs with
  | some (scheme, _) => readWithScheme base scheme ((raw.dropWhile (· != ':')).drop 1)
  | none =>
    match base with
    | none => .error .noBase
    | some b =>
      match cs with
      | '#' :: f => .ok { b with fragment := some (fragmentOf f) }
      | cs =>
        if b.isWhole then .error .wholeBase
        else if b.kind = .file then readFile (some b) raw
        else readRelative b cs

def Url.parse (s : String) : Except Failure Url := read none s

def Url.join (base : Url) (s : String) : Except Failure Url := read (some base) s

end FetchKit.Address
