/-!
# The text of a URL

Blanks and controls around a URL do not count, nor do tabs and line ends in it. A backslash stands for a
slash where the scheme is well known.
-/

set_option autoImplicit false

namespace FramedHttp.Url

def isBlank (c : Char) : Bool := decide (c ≤ ' ')

def isTabOrLineEnd (c : Char) : Bool := c == '\t' || c == '\n' || c == '\r'

def isSlash (c : Char) : Bool := c == '/' || c == '\\'

def trimmed (text : List Char) : List Char :=
  ((text.dropWhile isBlank).reverse.dropWhile isBlank).reverse

/-- The characters that count. -/
def essential (text : List Char) : List Char :=
  text.filter fun c => !isTabOrLineEnd c

/-- What follows the first `n` characters that count. -/
def afterEssential : Nat → List Char → List Char
  | 0, text => text
  | _, [] => []
  | n + 1, c :: rest => afterEssential (if isTabOrLineEnd c then n + 1 else n) rest

end FramedHttp.Url
