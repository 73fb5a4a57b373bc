/-!
# Parts of a text

A text falls into parts at each separator, and parts are joined to a text again.
-/

namespace ChainRpc.Text

/-- The parts of a text between separators of one kind. -/
def splitAt (separator : Char) : List Char → List (List Char)
  | [] => [[]]
  | c :: rest =>
      if c = separator then [] :: splitAt separator rest
      else
        match splitAt separator rest with
        | first :: others => (c :: first) :: others
        | [] => [[c]]

/-- The text of parts with separators between them. -/
def join (separator : List Char) : List (List Char) → List Char
  | [] => []
  | [part] => part
  | part :: rest => part ++ separator ++ join separator rest

end ChainRpc.Text
