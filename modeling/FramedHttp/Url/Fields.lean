/-!
# Separated fields

Text cut at every separator. There is one field more than there are separators.
-/

set_option autoImplicit false

namespace FramedHttp.Url

def fields (separator : Char) : List Char → List (List Char)
  | [] => [[]]
  | c :: rest =>
    if c = separator then [] :: fields separator rest
    else
      match fields separator rest with
      | [] => [[c]]
      | field :: others => (c :: field) :: others

def joinWith (separator : List Char) (parts : List (List Char)) : List Char :=
  (parts.intersperse separator).flatten

end FramedHttp.Url
