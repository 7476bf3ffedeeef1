/-!
# Request targets

The target of a request names a path and may add a query. Most targets begin with a slash; a
target may also be a whole address, which has a scheme and an authority in front of the path, an
authority alone, or a single star. A fragment behind a number sign is dropped. A target is refused
when a character cannot stand where it does or when it is too long.
-/
namespace SalarySurvey.Web

/-- What a request asks for. -/
structure Target where
  /-- The path. -/
  path : String
  /-- The text behind the question mark. -/
  query : Option String
  deriving DecidableEq

namespace Target

/-- Whether a character can stand in a path. -/
def isPathChar (c : Char) : Bool :=
  let n := c.toNat
  n == 0x21 || n == 0x22 || (0x24 ≤ n && n ≤ 0x3B) || n == 0x3D || (0x40 ≤ n && n ≤ 0x5F) ||
    (0x61 ≤ n && n ≤ 0x7E) || 0x80 ≤ n

/-- Whether a character can stand in a query. -/
def isQueryChar (c : Char) : Bool :=
  let n := c.toNat
  n == 0x21 || (0x24 ≤ n && n ≤ 0x3B) || n == 0x3D || (0x3F ≤ n && n ≤ 0x7E) || 0x80 ≤ n

/-- Whether a character can stand in an authority, apart from those with a meaning there. -/
def isAuthorityChar (c : Char) : Bool :=
  c.isAlphanum || "-._~!$&'()*+,;=".toList.contains c

/-- Whether a character can stand in a scheme. -/
def isSchemeChar (c : Char) : Bool :=
  c.isAlphanum || "+-.~".toList.contains c

/-- A path with what follows it. An empty path is the root. -/
def ofPath? (text : List Char) : Option Target :=
  let path := text.takeWhile fun c => c != '?' && c != '#'
  let query :=
    match text.dropWhile fun c => c != '?' && c != '#' with
    | '?' :: rest => some (rest.takeWhile (· != '#'))
    | _ => none
  if path.all isPathChar && (query.getD []).all isQueryChar then
    some ⟨if path.isEmpty then "/" else String.ofList path, query.map String.ofList⟩
  else none

/-- What has been seen of an authority. -/
structure AuthorityScan where
  /-- The colons since the start, the last at sign or the closing bracket. -/
  colons : Nat := 0
  /-- Whether the bracket of an address has opened. -/
  opened : Bool := false
  /-- Whether it has closed. -/
  closed : Bool := false
  /-- Whether there was a percent sign since the start, the last at sign or the bracket. -/
  percent : Bool := false
  /-- Whether the last character was an at sign. -/
  atLast : Bool := false

/-- One more character of an authority. -/
def AuthorityScan.step (scan : AuthorityScan) (c : Char) : Option AuthorityScan :=
  let scan := { scan with atLast := false }
  if c = ':' then if 8 ≤ scan.colons then none else some { scan with colons := scan.colons + 1 }
  else if c = '[' then
    if scan.percent || scan.opened then none else some { scan with opened := true }
  else if c = ']' then
    if !scan.opened || scan.closed then none
    else some { scan with closed := true, colons := 0, percent := false }
  else if c = '@' then some { scan with colons := 0, percent := false, atLast := true }
  else if c = '%' then some { scan with percent := true }
  else if isAuthorityChar c then some scan
  else none

/-- Whether a text can be an authority: a host with at most one colon before its port, and a
percent sign only in the name of a user. -/
def isAuthority (text : List Char) : Bool :=
  match text.foldlM AuthorityScan.step {} with
  | none => false
  | some scan =>
    scan.opened == scan.closed && scan.colons ≤ 1 && !scan.atLast && !scan.percent

/-- The text behind the scheme of a whole address, without the slashes. The scheme has at most 64
characters. -/
def afterScheme? (text : List Char) : Option (List Char) :=
  match text.dropWhile isSchemeChar with
  | ':' :: '/' :: '/' :: rest => some rest
  | _ => none

/-- A whole address, or an authority alone. -/
def ofAddress? (text : List Char) : Option Target :=
  let endsAuthority (c : Char) : Bool := c == '/' || c == '?' || c == '#'
  match afterScheme? text with
  | some rest =>
    let authority := rest.takeWhile fun c => !endsAuthority c
    if 64 < (text.takeWhile isSchemeChar).length then none
    else if authority.isEmpty || !isAuthority authority then none
    else ofPath? (rest.dropWhile fun c => !endsAuthority c)
  | none => if text.any endsAuthority || !isAuthority text then none else some ⟨"", none⟩

/-- The target in the text of a request line. -/
def ofText? (text : String) : Option Target :=
  if 65534 < text.utf8ByteSize then none
  else
    match text.toList with
    | [] => none
    | ['*'] => some ⟨"*", none⟩
    | '/' :: rest => ofPath? ('/' :: rest)
    | chars => ofAddress? chars

end Target

end SalarySurvey.Web
