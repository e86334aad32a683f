import WeakestPre.Settings
import WeakestPre.Stack

/-!
# Platforms

What a run takes as given: the readers of the languages in which settings are written, how deeply
rules may be nested while a text is read, and the stack on which statements are walked.
-/

namespace WeakestPre

structure Platform where
  readers : DocumentReaders
  nestingLimit : Nat
  stack : Stack

end WeakestPre
