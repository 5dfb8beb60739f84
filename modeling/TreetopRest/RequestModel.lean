import TreetopRest.FetcherModel
import Mathlib.Algebra.Group.Nat.Defs

/-! # Requests as the handlers read them

    A header map keeps names in lower case and values in order of arrival.
    `content_type` is that of the HTTP framework. -/

namespace TreetopRequest

open Text TreetopFetcher

/-- The headers of a request, names in lower case. -/
abbrev HeaderMap := List (String × HeaderValue)

namespace HeaderMap

/-- The first value under a name. -/
def get (headers : HeaderMap) (name : String) : Option HeaderValue :=
  (headers.find? fun h => h.1 == name).map (·.2)

/-- All values under a name. -/
def getAll (headers : HeaderMap) (name : String) : List HeaderValue :=
  (headers.filter fun h => h.1 == name).map (·.2)

/-- The media type of the body, without parameters; empty if there is none. -/
def contentType (headers : HeaderMap) : List Char :=
  match (headers.get "content-type").bind HeaderValue.toStr with
  | some value => trim (value.toList.takeWhile (· != ';'))
  | none => []

end HeaderMap

/-- `usize::from_str`: decimal digits after an optional plus sign, in range. -/
def parseUsize (s : List Char) : Option Nat :=
  let digits := match s with
    | '+' :: rest => rest
    | _ => s
  if digits.isEmpty || !digits.all Char.isDigit then none
  else
    let n := digits.foldl (fun n c => 10 * n + (c.toNat - 48)) 0
    if n < 2 ^ 64 then some n else none

end TreetopRequest
