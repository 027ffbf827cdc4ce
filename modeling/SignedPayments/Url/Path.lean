import SignedPayments.Url.Percent
import SignedPayments.Text.Pieces

/-!
# SignedPayments.Url.Path

Paths. A segment of one dot is left out, and one of two dots takes the segment before
it away, unless that names a drive; a dot may be written as `%2e`. A path that ends in
either ends in a slash. Everything else is kept and encoded.
-/

namespace SignedPayments

namespace Url

/-- A segment with its encoded dots as dots. -/
def plainDots : List Char → List Char
  | '%' :: '2' :: 'e' :: rest | '%' :: '2' :: 'E' :: rest => '.' :: plainDots rest
  | c :: rest => c :: plainDots rest
  | [] => []

/-- Whether a segment stands for its own place. -/
def isSingleDot (segment : List Char) : Bool := plainDots segment = ['.']

/-- Whether a segment stands for the place above. -/
def isDoubleDot (segment : List Char) : Bool := plainDots segment = ['.', '.']

/-- Whether a segment names a drive: a letter, and a colon or a bar. -/
def isDrive : List Char → Bool
  | [c, mark] => c.isAlpha && (mark = ':' || mark = '|')
  | _ => false

/-- Takes the nearest segment away. A drive stays. -/
def ascend : List (List Char) → List (List Char)
  | [] => []
  | segment :: above => if isDrive segment then segment :: above else above

/-- Adds a segment to those above. In a file, a drive directly below the root is
written with a colon. -/
def enter (file : Bool) (above : List (List Char)) (segment : List Char) : List (List Char) :=
  (if file && above.isEmpty && isDrive segment then segment.take 1 ++ [':'] else segment) :: above

/-- Adds segments to those above, of which the nearest is first. -/
def descend (file : Bool) (above : List (List Char)) : List (List Char) → List (List Char)
  | [] => above
  -- A path of dots ends in an empty segment, so that it ends in a slash.
  | [last] =>
    if isDoubleDot last then [] :: ascend above
    else if isSingleDot last then [] :: above
    else enter file above last
  | segment :: rest =>
    if isDoubleDot segment then descend file (ascend above) rest
    else if isSingleDot segment then descend file above rest
    else descend file (enter file above segment) rest

/-- A path of segments as text. -/
def segmentsChars (segments : List (List Char)) : List Char := segments.flatMap ('/' :: ·)

/-- Whether a character ends a segment. Backslashes do so on the web. -/
def isSlash (web : Bool) (c : Char) : Bool := c = '/' || (web && c = '\\')

/-- The path that characters after the first slash stand for. -/
def resolvePath (web : Bool) (cs : List Char) : List Char :=
  let segments := (piecesBy (isSlash web) cs).map (percentEncode pathSpecial)
  segmentsChars (descend false [] segments).reverse

end Url

end SignedPayments
