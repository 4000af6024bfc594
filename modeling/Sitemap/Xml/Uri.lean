import Sitemap.Text.CharSet

/-!
# References to resources

* `Xml.uriForm?` : whether a text is a reference by the generic syntax of resource identifiers, and
  if so whether it is absolute, that is, begins with a scheme.
-/

namespace Sitemap.Xml

def isUriChar (c : Char) : Bool :=
  (c.toNat < 128 && c.isAlphanum) || "-._~!$&'()*+,;=:@".toList.contains c

/-- All characters are in the class, or percent signs before two hexadecimal digits. -/
def allUriChars (extra : List Char) : List Char → Bool
  | [] => true
  | '%' :: a :: b :: rest => isHexDigit a && isHexDigit b && allUriChars extra rest
  | c :: rest => (isUriChar c || extra.contains c) && allUriChars extra rest

/-- The host and the port of an authority. -/
def isHostAndPort (cs : List Char) : Bool :=
  match cs with
  | '[' :: rest =>
    match rest.span (· ≠ ']') with
    | (_, ']' :: after) => isPort after
    | _ => false
  | cs =>
    let (host, after) := cs.span (· ≠ ':')
    allUriChars [] host && !host.contains '@' && isPort after
where
  isPort : List Char → Bool
    | [] => true
    | ':' :: digits => !digits.isEmpty && digits.all Char.isDigit
    | _ => false

/-- An authority: an optional user before `@`, a host, an optional port. -/
def isAuthority (cs : List Char) : Bool :=
  let (user, rest) := cs.span (· ≠ '@')
  match rest with
  | '@' :: host => (allUriChars [] user && isHostAndPort host) || isHostAndPort cs
  | _ => isHostAndPort cs

/-- The part after a scheme, or a whole relative reference, up to its query. -/
def isHierarchy (relative : Bool) (cs : List Char) : Bool :=
  match cs with
  | '/' :: '/' :: rest =>
    let (authority, path) := rest.span (· ≠ '/')
    isAuthority authority && allUriChars ['/'] path
  | cs =>
    let first := cs.takeWhile (· ≠ '/')
    (!relative || !first.contains ':') && allUriChars ['/'] cs

/-- A reference without its scheme. -/
def isReference (relative : Bool) (cs : List Char) : Bool :=
  let (beforeFragment, fragment) := cs.span (· ≠ '#')
  let (hierarchy, query) := beforeFragment.span (· ≠ '?')
  isHierarchy relative hierarchy && allUriChars ['/', '?'] (query.drop 1) &&
    allUriChars ['/', '?', '[', ']'] (fragment.drop 1)

/-- A scheme: a letter, then letters, digits and three marks. -/
def isScheme : List Char → Bool
  | [] => false
  | c :: rest => c.isAlpha && rest.all fun c => c.isAlphanum || c == '+' || c == '-' || c == '.'

/-- Whether a text is a reference, and then whether it has a scheme. -/
def uriForm? (cs : List Char) : Option Bool :=
  let (scheme, rest) := cs.span (· ≠ ':')
  match rest with
  | ':' :: rest =>
    if isScheme scheme && isReference false rest then some true
    else if isReference true cs then some false
    else none
  | _ => if isReference true cs then some false else none

end Sitemap.Xml
