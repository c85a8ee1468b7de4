import Scriptlet.Grammar.Basic
import Scriptlet.Text.Utf8

/-! # Grammars without a language -/

namespace Scriptlet

/-- The piece occurs in the text. -/
def Text.hasPiece (piece : List Char) : List Char → Bool
  | [] => piece.isEmpty
  | c :: cs => piece.isPrefixOf (c :: cs) || hasPiece piece cs

namespace Grammar

/-- The grammar that gives the same tree for every text. -/
def fixed (tree : TokenTree) : Grammar where
  name := "fixed"
  parse _ := .ok tree

/-- The grammar that makes a text one token, unless the text has a piece that is refused. -/
def echo (tags : List StyleTag) (refused : Option (List Char)) : Grammar where
  name := "echo"
  parse text :=
    let length := Text.byteLength text
    if refused.any fun piece => Text.hasPiece piece text then .error (.parseFailed "echo" length)
    else .ok (.leaf 0 length tags)

end Grammar

end Scriptlet
