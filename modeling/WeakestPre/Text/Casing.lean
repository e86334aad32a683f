import WeakestPre.Text.CaseTable
import WeakestPre.Text.CodePoint

/-!
# Changing case

Full case mapping of text. Upper case may lengthen a text: `ß` becomes `SS`. Lower case depends on
context for one letter: a capital sigma that ends a word becomes `ς`, any other `σ`. Surrogates have
no case, and end a word.
-/

namespace WeakestPre.Text

/-- The code point that the run sends `n` to, if the run holds `n`. -/
def CaseRun.image? (run : CaseRun) (n : Nat) : Option Nat :=
  if run.first ≤ n ∧ n ≤ run.last ∧ (n - run.first) % run.step = 0 then
    some (n + run.shift).toNat
  else none

/-- The image of a character under a mapping; characters outside every run stay. -/
def mapCase (runs : List CaseRun) (c : Char) : Char :=
  ((runs.findSome? (·.image? c.toNat)).map Char.ofNat).getD c

def upperChar (c : Char) : List Char :=
  match upperExpansions.lookup c.toNat with
  | some codes => codes.map Char.ofNat
  | none => [mapCase upperRuns c]

def upperPoint : CodePoint → Wide
  | .char c => (upperChar c).map .char
  | p => [p]

def upper (w : Wide) : Wide := w.flatMap upperPoint

/-- The first code point that is not passed over is a letter with case. -/
def startsCased (w : Wide) : Bool :=
  match w.dropWhile fun p => p.char?.any caseIgnorables.contains with
  | .char c :: _ => casedLetters.contains c
  | _ => false

/-- The lower case of `c` between `before`, nearest code point first, and `after`. -/
def lowerChar (before : Wide) (c : Char) (after : Wide) : List Char :=
  if c = 'Σ' then [if startsCased before && !startsCased after then 'ς' else 'σ']
  else if c = 'İ' then ['i', Char.ofNat 0x307]
  else [mapCase lowerRuns c]

def lowerFrom (before : Wide) : Wide → Wide
  | [] => []
  | .char c :: after => (lowerChar before c after).map .char ++ lowerFrom (.char c :: before) after
  | p :: after => p :: lowerFrom (p :: before) after

def lower (w : Wide) : Wide := lowerFrom [] w

end WeakestPre.Text
