import Sitemap.Text.CharSet
import Sitemap.Text.Utf8

/-!
# The path of a request

* `percentDecode` : a text with its percent signs and digits decoded;
* `withoutDots` : a path without single and double points;
* `requestPath` : the path that a request asks for;
* `routedPath` : the path that an endpoint has to have to answer a request.
-/

namespace Sitemap

def percentBytes : List Char → List UInt8
  | '%' :: a :: b :: rest =>
    if isHexDigit a && isHexDigit b then (hexNumber [a.toLower, b.toLower]).toUInt8 :: percentBytes rest
    else Utf8.encodeChar '%' ++ percentBytes (a :: b :: rest)
  | c :: rest => Utf8.encodeChar c ++ percentBytes rest
  | [] => []

def percentDecode (s : String) : String := Utf8.decodeLossy '\ufffd' (percentBytes s.toList)

/-- A path without single points, and without double points and the names before them. -/
def withoutDots (path : List Char) : List Char :=
  let kept := (splitChars '/' path).foldl (fun kept part =>
    if part = ['.'] then kept
    else if part = ['.', '.'] then if kept = [[]] then kept else kept.dropLast
    else kept ++ [part]) []
  ['/'].intercalate kept

def withoutHost : List Char → List Char
  | '/' :: '/' :: rest => rest.dropWhile (· ≠ '/')
  | address => address

/-- The path that a request asks for: without fragment, query and host, from the root, and decoded
by the client and by the server. -/
def requestPath (address : String) : String :=
  let path := (withoutHost (address.toList.takeWhile (· ≠ '#'))).takeWhile (· ≠ '?')
  percentDecode (percentDecode (String.ofList (withoutDots ('/' :: path.dropWhile (· = '/')))))

/-- The path that an endpoint has to have to answer for a requested one: a line feed at the end does
not count. -/
def routedPath (path : String) : String :=
  if path.toList.getLast? = some '\n' then String.ofList path.toList.dropLast else path

end Sitemap
