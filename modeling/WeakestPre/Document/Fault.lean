import WeakestPre.Document.Moment
import WeakestPre.Text.Quoted

/-!
# Why a text gives no document

A text may be malformed. It may also be well formed and hold a value that cannot be represented, or
be nested more deeply than a reader goes; these are not problems of its form and have a message of
their own.
-/

namespace WeakestPre

/-- The most decimal digits that an integer is read from or written with. -/
def longestInteger : Nat := 4300

/-- A value that cannot be represented. -/
inductive ValueFault where
  /-- An integer is given by more decimal digits than are read. -/
  | longNumeral (digits : Nat)
  /-- An integer has more decimal digits than are written. -/
  | longInteger
  /-- A text is no integer in a base. -/
  | noInteger (base : Nat) (text : Text.Wide)
  /-- A text is no real. -/
  | noReal (text : Text.Wide)
  /-- A text is no boolean. -/
  | noBoolean (text : Text.Wide)
  /-- A text is no moment. -/
  | noMoment
  /-- A moment is given by a mapping. -/
  | wrongMoment
  /-- A number is given by no characters at all. -/
  | noCharacter
  /-- A power of sixty is beyond the range of reals. -/
  | largePower
  /-- A number is no code point. -/
  | noCodePoint
  /-- A number is far beyond all code points. -/
  | largeCodePoint
  | moment (f : MomentFault)
  /-- A value is nested more deeply than is written. -/
  | deepValue
  deriving DecidableEq, Repr

namespace ValueFault

def lengthMessage (note : String) : String :=
  "Exceeds the limit (" ++ toString longestInteger ++ " digits) for integer string conversion" ++
    note ++ "; use sys.set_int_max_str_digits() to increase the limit"

/-- The first 200 characters of a text. -/
def shortened (s : String) : String := String.ofList (s.toList.take 200)

def message : ValueFault → String
  | .longNumeral digits => lengthMessage (": value has " ++ toString digits ++ " digits")
  | .longInteger => lengthMessage ""
  | .noInteger base text =>
    "invalid literal for int() with base " ++ toString base ++ ": " ++
      shortened (Text.quotedWide text)
  | .noReal text => "could not convert string to float: " ++ Text.quotedWide text
  | .noBoolean text => Text.quotedWide text
  | .noMoment => "'NoneType' object has no attribute 'groupdict'"
  | .wrongMoment => "expected string or bytes-like object, got 'list'"
  | .noCharacter => "string index out of range"
  | .largePower => "int too large to convert to float"
  | .noCodePoint => "chr() arg not in range(0x110000)"
  | .largeCodePoint => "Python int too large to convert to C int"
  | .moment f => f.message
  | .deepValue => "maximum recursion depth exceeded while getting the repr of an object"

end ValueFault

/-- What is nested too deeply. -/
inductive Nesting where
  | node
  | jsonList
  | jsonMap
  deriving DecidableEq, Repr

def Nesting.message (n : Nesting) : String :=
  "maximum recursion depth exceeded" ++ match n with
    | .node => ""
    | .jsonList => " while decoding a JSON array from a unicode string"
    | .jsonMap => " while decoding a JSON object from a unicode string"

inductive ReadFault where
  | malformed
  | unusable (f : ValueFault)
  | tooDeep (n : Nesting)
  deriving DecidableEq, Repr

/-- How deeply collections may be nested in a text. -/
def deepestNesting : Nat := 480

/-- How deeply collections may be nested in a value that is written. -/
def deepestValue : Nat := 985

end WeakestPre
