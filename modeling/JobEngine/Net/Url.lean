import JobEngine.Text.Utf8
import JobEngine.Net.Address
import JobEngine.Codec.Base64

/-!
# URLs

URLs are read into their parts (scheme, user, host, path, query, fragment) and written back
in a normal form. Webhook destinations and remote venues are given as URLs, and what is
accepted, and the text a URL is written back as, are part of the observable behaviour.

## Main Definitions

* `Url` — the parts of a URL; parts that may hold any byte are byte strings.
* `Url.parse` — reads a URL, or says why it is malformed.
* `Url.render` — the normal text of a URL.
* `Url.redacted` — the normal text with the password hidden.
* `Url.basicAuth` — the basic credentials of the user part.

## Design Notes

The reading follows RFC 3986 as commonly implemented for HTTP clients: a scheme is a letter
followed by letters, digits, `+`, `-` or `.` before the first colon; after a scheme, text that
does not start with `/` is opaque; `//` starts an authority `user@host:port`. Percent escapes
are decoded, and kept beside the decoded path when writing the path back would choose other
escapes. In a host, escapes may only stand for non-ASCII bytes (or `%25`), and characters
outside the sub-delimiters are refused.
-/

namespace JobEngine

/-- The part of a URL a piece of text belongs to, which decides what must be escaped. -/
inductive UrlPart where
  | path
  | pathSegment
  | host
  | zone
  | userPassword
  | queryComponent
  | fragment
  deriving DecidableEq

namespace Url

/-- The bytes of a string. -/
def bytesOf (s : String) : List UInt8 := s.toUTF8.toList

/-- The text of bytes that encode it. -/
def textOf (bs : List UInt8) : String := Text.lossyText bs

/-- Whether a byte is an ASCII letter or digit. -/
def isAlnum (c : UInt8) : Bool :=
  ('a'.toUInt8 ≤ c && c ≤ 'z'.toUInt8) || ('A'.toUInt8 ≤ c && c ≤ 'Z'.toUInt8) ||
    ('0'.toUInt8 ≤ c && c ≤ '9'.toUInt8)

/-- Whether a byte is among the given ASCII characters. -/
def isOneOf (c : UInt8) (cs : String) : Bool := cs.toList.any fun x => x.toUInt8 == c

/-- Whether a byte must be percent-escaped in a part of a URL. -/
def shouldEscape (c : UInt8) (part : UrlPart) : Bool :=
  if isAlnum c then false
  else if (part == .host || part == .zone) && isOneOf c "!$&'()*+,;=:[]<>\"" then false
  else if isOneOf c "-_.~" then false
  else if isOneOf c "$&+,/:;=?@" then
    match part with
    | .pathSegment => isOneOf c "/;,?"
    | .userPassword => isOneOf c "@/?:"
    | .queryComponent => true
    | .fragment => false
    | .path => c == '?'.toUInt8
    | _ => true
  else if part == .fragment && isOneOf c "!()*" then false
  else true

/-- Whether a byte is a hexadecimal digit. -/
def isHex (c : UInt8) : Bool :=
  ('0'.toUInt8 ≤ c && c ≤ '9'.toUInt8) || ('a'.toUInt8 ≤ c && c ≤ 'f'.toUInt8) ||
    ('A'.toUInt8 ≤ c && c ≤ 'F'.toUInt8)

/-- The value of a hexadecimal digit. -/
def unhex (c : UInt8) : UInt8 :=
  if c ≤ '9'.toUInt8 then c - '0'.toUInt8
  else if c ≤ 'F'.toUInt8 then c - 'A'.toUInt8 + 10
  else c - 'a'.toUInt8 + 10

/-- The message of a malformed escape: the escape, at most three bytes of it, quoted. -/
def escapeFault (s : List UInt8) : String := "invalid URL escape " ++ Text.quoteBytes (s.take 3)

/-- Decodes the percent escapes of a part, and `+` as a space in a query component. The
text after the bytes read so far is `s`; `acc` holds the decoded bytes in reverse. -/
def unescapeFrom (part : UrlPart) (acc : List UInt8) : List UInt8 → Except String (List UInt8)
  | [] => .ok acc.reverse
  | c :: rest =>
    if c == '%'.toUInt8 then
      match rest with
      | h1 :: h2 :: rest' =>
        if !(isHex h1 && isHex h2) then .error (escapeFault (c :: rest))
        else
          let v := unhex h1 * 16 + unhex h2
          let is25 := h1 == '2'.toUInt8 && h2 == '5'.toUInt8
          if part == .host && unhex h1 < 8 && !is25 then .error (escapeFault [c, h1, h2])
          else if part == .zone && !is25 && v != ' '.toUInt8 && shouldEscape v .host then
            .error (escapeFault [c, h1, h2])
          else unescapeFrom part (v :: acc) rest'
      | _ => .error (escapeFault (c :: rest))
    else if c == '+'.toUInt8 then
      unescapeFrom part ((if part == .queryComponent then ' '.toUInt8 else c) :: acc) rest
    else if (part == .host || part == .zone) && c < 0x80 && shouldEscape c part then
      .error ("invalid character " ++ Text.quoteBytes [c] ++ " in host name")
    else unescapeFrom part (c :: acc) rest

/-- Decodes the escapes of a part of a URL. -/
def unescape (s : List UInt8) (part : UrlPart) : Except String (List UInt8) :=
  unescapeFrom part [] s

/-- The uppercase hexadecimal digit of a value below 16. -/
def upperHex (n : UInt8) : UInt8 :=
  if n < 10 then '0'.toUInt8 + n else 'A'.toUInt8 + n - 10

/-- Escapes the bytes of a part that must be escaped, as `%XX`; a space in a query
component becomes `+`. -/
def escape (s : List UInt8) (part : UrlPart) : List UInt8 :=
  s.flatMap fun c =>
    if shouldEscape c part then
      if c == ' '.toUInt8 && part == .queryComponent then ['+'.toUInt8]
      else ['%'.toUInt8, upperHex (c / 16), upperHex (c % 16)]
    else [c]

/-- Whether already escaped text is a valid written form of a part. -/
def validEncoded (s : List UInt8) (part : UrlPart) : Bool :=
  s.all fun c => isOneOf c "!$&'()*+,;=:@[]%" || !shouldEscape c part

/-- Whether the text after a host is empty or a colon followed by digits. -/
def validOptionalPort : List UInt8 → Bool
  | [] => true
  | c :: digits => c == ':'.toUInt8 && digits.all fun d => '0'.toUInt8 ≤ d && d ≤ '9'.toUInt8

/-- Whether the user part of an authority holds only permitted characters. -/
def validUserinfo (s : List UInt8) : Bool :=
  s.all fun c => isAlnum c || isOneOf c "-._:~!$&'()*+,;=%@"

/-- The position of the first occurrence of a byte. -/
def indexOf? (s : List UInt8) (c : UInt8) : Option Nat := s.findIdx? (· == c)

/-- The position of the last occurrence of a byte. -/
def lastIndexOf? (s : List UInt8) (c : UInt8) : Option Nat :=
  (s.reverse.findIdx? (· == c)).map fun i => s.length - 1 - i

/-- The position of the first occurrence of a byte string. -/
def indexOfSeq? (s pat : List UInt8) : Option Nat :=
  (List.range s.length).find? fun i => (s.drop i).take pat.length == pat

/-- Splits at the first occurrence of a byte, dropping it. -/
def cut (s : List UInt8) (c : UInt8) : List UInt8 × List UInt8 × Bool :=
  match indexOf? s c with
  | some i => (s.take i, s.drop (i + 1), true)
  | none => (s, [], false)

end Url

/-- The parts of a URL. -/
structure Url where
  scheme : String := ""
  /-- The text after the scheme when it does not start with a slash. -/
  rootless : List UInt8 := []
  /-- The user name and, if given, the password. -/
  user : Option (List UInt8 × Option (List UInt8)) := none
  /-- The host, with its port if one was given. -/
  host : List UInt8 := []
  path : List UInt8 := []
  /-- The path as written, kept when it differs from the default escaping of `path`. -/
  rawPath : List UInt8 := []
  /-- The URL had a scheme and an empty authority. -/
  omitHost : Bool := false
  /-- The URL ended in a `?` with nothing after it. -/
  forceQuery : Bool := false
  rawQuery : List UInt8 := []
  fragment : List UInt8 := []
  rawFragment : List UInt8 := []

namespace Url

/-- Reads a host, which may carry a port. A host with `[` must start with it and hold, up to
the last `]`, an IPv6 literal, which may carry a zone after `%25`. -/
def parseHost (host : List UInt8) : Except String (List UInt8) := do
  match host.head?, indexOf? host '['.toUInt8 with
  | some c, some _ =>
    if c != '['.toUInt8 then .error "invalid IP-literal"
    let some closing := lastIndexOf? host ']'.toUInt8 | .error "missing ']' in host"
    let colonPort := host.drop (closing + 1)
    if !validOptionalPort colonPort then
      .error ("invalid port " ++ Text.quoteBytes colonPort ++ " after host")
    let port ← unescape colonPort .host
    let name := (host.take closing).drop 1
    let literal ← match indexOfSeq? name (bytesOf "%25") with
      | some zone => do
        let address ← unescape (name.take zone) .host
        let zoneText ← unescape (name.drop zone) .zone
        pure (address ++ zoneText)
      | none => unescape name .host
    match IpLiteral.parse literal with
    | .error e => .error ("invalid host: " ++ e)
    | .ok .v4 => .error "invalid IP-literal"
    | .ok .v6 => return '['.toUInt8 :: literal ++ ']'.toUInt8 :: port
  | _, _ =>
    match lastIndexOf? host ':'.toUInt8 with
    | some i =>
      let colonPort := host.drop i
      if !validOptionalPort colonPort then
        .error ("invalid port " ++ Text.quoteBytes colonPort ++ " after host")
      unescape host .host
    | none => unescape host .host

/-- Reads an authority `user:password@host:port` into user and host. -/
def parseAuthority (authority : List UInt8) :
    Except String (Option (List UInt8 × Option (List UInt8)) × List UInt8) := do
  match lastIndexOf? authority '@'.toUInt8 with
  | none => return (none, ← parseHost authority)
  | some i =>
    let host ← parseHost (authority.drop (i + 1))
    let userinfo := authority.take i
    if !validUserinfo userinfo then .error "net/url: invalid userinfo"
    let (name, password, hasPassword) := cut userinfo ':'.toUInt8
    let name ← unescape name .userPassword
    if hasPassword then
      let password ← unescape password .userPassword
      return (some (name, some password), host)
    else return (some (name, none), host)

/-- The scheme before the first colon, if the text starts with one, and the rest. -/
def splitScheme (s : List UInt8) : Except String (List UInt8 × List UInt8) :=
  let rec go (i : Nat) : List UInt8 → Except String (List UInt8 × List UInt8)
    | [] => .ok ([], s)
    | c :: rest =>
      if ('a'.toUInt8 ≤ c && c ≤ 'z'.toUInt8) || ('A'.toUInt8 ≤ c && c ≤ 'Z'.toUInt8) then
        go (i + 1) rest
      else if ('0'.toUInt8 ≤ c && c ≤ '9'.toUInt8) || isOneOf c "+-." then
        if i = 0 then .ok ([], s) else go (i + 1) rest
      else if c == ':'.toUInt8 then
        if i = 0 then .error "missing protocol scheme" else .ok (s.take i, rest)
      else .ok ([], s)
  go 0 s

/-- Reads a URL without its fragment. -/
def parseBase (s : List UInt8) : Except String Url := do
  if s.any fun c => c < 0x20 || c == 0x7F then .error "net/url: invalid control character in URL"
  if s == bytesOf "*" then return { path := s }
  let (scheme, rest) ← splitScheme s
  let scheme := (textOf scheme).toLower
  let questions := rest.filter (· == '?'.toUInt8)
  let (rest, rawQuery, forceQuery) :=
    if rest.getLast? == some '?'.toUInt8 && questions.length == 1 then (rest.dropLast, [], true)
    else let (a, b, _) := cut rest '?'.toUInt8; (a, b, false)
  let slash := '/'.toUInt8
  if rest.head? != some slash then
    if !scheme.isEmpty then return { scheme, rootless := rest, rawQuery, forceQuery }
    let (segment, _, _) := cut rest slash
    if segment.contains ':'.toUInt8 then .error "first path segment in URL cannot contain colon"
  let (user, host, omitHost, rest) ←
    if rest.take 2 == [slash, slash] && (!scheme.isEmpty || rest.take 3 != [slash, slash, slash]) then
      let authority := rest.drop 2
      let (authority, rest) := match indexOf? authority slash with
        | some i => (authority.take i, authority.drop i)
        | none => (authority, [])
      let (user, host) ← parseAuthority authority
      pure (user, host, false, rest)
    else pure (none, [], !scheme.isEmpty && rest.head? == some slash, rest)
  let path ← unescape rest .path
  let rawPath := if escape path .path == rest then [] else rest
  return { scheme, user, host, path, rawPath, omitHost, forceQuery, rawQuery }

/-- Reads a URL. A fault is reported as `parse "url": reason`. -/
def parse (raw : String) : Except String Url :=
  let s := bytesOf raw
  let (base, frag, _) := cut s '#'.toUInt8
  let fault (u : List UInt8) (reason : String) : String :=
    "parse " ++ Text.quoteBytes u ++ ": " ++ reason
  match parseBase base with
  | .error r => .error (fault base r)
  | .ok u =>
    if frag.isEmpty then .ok u
    else match unescape frag .fragment with
      | .error r => .error (fault s r)
      | .ok f =>
        let rawFragment := if escape f .fragment == frag then [] else frag
        .ok { u with fragment := f, rawFragment }

/-- The path as written back: the kept form when it is valid and decodes to the path,
otherwise the default escaping. -/
def escapedPath (u : Url) : List UInt8 :=
  let kept := !u.rawPath.isEmpty && validEncoded u.rawPath .path &&
    (match unescape u.rawPath .path with
     | .ok p => p == u.path
     | .error _ => false)
  if kept then u.rawPath
  else if u.path == bytesOf "*" then u.path
  else escape u.path .path

/-- The fragment as written back, chosen like `escapedPath`. -/
def escapedFragment (u : Url) : List UInt8 :=
  let kept := !u.rawFragment.isEmpty && validEncoded u.rawFragment .fragment &&
    (match unescape u.rawFragment .fragment with
     | .ok f => f == u.fragment
     | .error _ => false)
  if kept then u.rawFragment else escape u.fragment .fragment

/-- The user part of an authority as written back: the escaped name and, if given, `:` and
the escaped password. -/
def userText : List UInt8 × Option (List UInt8) → List UInt8
  | (n, some p) => escape n .userPassword ++ [':'.toUInt8] ++ escape p .userPassword
  | (n, none) => escape n .userPassword

/-- The bytes of the normal text of a URL. -/
def renderBytes (u : Url) : List UInt8 :=
  let head : List UInt8 := if u.scheme.isEmpty then [] else bytesOf u.scheme ++ [':'.toUInt8]
  let body : List UInt8 :=
    if !u.rootless.isEmpty then u.rootless
    else
      let authority : List UInt8 :=
        if !u.scheme.isEmpty || !u.host.isEmpty || u.user.isSome then
          if u.omitHost && u.host.isEmpty && u.user.isNone then []
          else
            let slashes := if !u.host.isEmpty || !u.path.isEmpty || u.user.isSome then
              bytesOf "//" else []
            let user := match u.user with
              | some info => userText info ++ ['@'.toUInt8]
              | none => []
            slashes ++ user ++ escape u.host .host
        else []
      let path := u.escapedPath
      let sep := if !path.isEmpty && path.head? != some '/'.toUInt8 && !u.host.isEmpty then
        ['/'.toUInt8] else []
      let soFar := head ++ authority ++ sep
      let dot := if soFar.isEmpty &&
          (cut path '/'.toUInt8).1.contains ':'.toUInt8 then bytesOf "./" else []
      authority ++ sep ++ dot ++ path
  let query := if u.forceQuery || !u.rawQuery.isEmpty then '?'.toUInt8 :: u.rawQuery else []
  let frag := if u.fragment.isEmpty then [] else '#'.toUInt8 :: u.escapedFragment
  head ++ body ++ query ++ frag

/-- The normal text of a URL. -/
def render (u : Url) : String := textOf u.renderBytes

/-- The normal text of a URL with its password, if it has one, hidden: the user part
`name:password@` becomes the unescaped name followed by `:***@`. -/
def redacted (u : Url) : String :=
  match u.user with
  | some (n, some p) =>
    let text := u.renderBytes
    let shown := userText (n, some p) ++ ['@'.toUInt8]
    match indexOfSeq? text shown with
    | some i => textOf (text.take i ++ n ++ bytesOf ":***@" ++ text.drop (i + shown.length))
    | none => textOf text
  | _ => u.render

/-- The basic credentials of a URL's user part, as an `Authorization` header value:
`Basic` and the base-64 text of `name:password`. -/
def basicAuth (u : Url) : Option String :=
  u.user.map fun (n, p) => "Basic " ++ Base64.encode (n ++ ':'.toUInt8 :: p.getD [])

/-- The host as text, with its port. -/
def hostText (u : Url) : String := textOf u.host

end Url

end JobEngine
