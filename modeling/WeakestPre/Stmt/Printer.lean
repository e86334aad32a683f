import WeakestPre.Expr.Printer
import WeakestPre.Stmt.Basic

/-!
# The text of a statement

**Program text** (`render`) separates the elements of a sequence by semicolons and puts braces
around the branches of a conditional only, so nested sequences read as one. The **outline** is one
unambiguous line in prefix notation.
-/

namespace WeakestPre.Stmt

mutual

def render : Stmt → String
  | .assign x e => x ++ " := " ++ e.text
  | .seq body => "; ".intercalate (renderAll body)
  | .cond b s t =>
    "if (" ++ b.text ++ ") then \x7b " ++ render s ++ " \x7d else \x7b " ++ render t ++ " \x7d"

def renderAll : List Stmt → List String
  | [] => []
  | s :: rest => render s :: renderAll rest

end

mutual

def outline : Stmt → String
  | .assign x e => "(:= " ++ x ++ " " ++ e.outline ++ ")"
  | .seq body => "(" ++ " ".intercalate ("seq" :: outlineAll body) ++ ")"
  | .cond b s t => "(if " ++ b.outline ++ " " ++ outline s ++ " " ++ outline t ++ ")"

def outlineAll : List Stmt → List String
  | [] => []
  | s :: rest => outline s :: outlineAll rest

end

end WeakestPre.Stmt
