import WeakestPre.Document.Yaml.Reader
import WeakestPre.Platform

/-!
# The platform of the program

Settings are read by the readers of this library, which say no more of a malformed text than that it
is one. Rules and calls may be nested almost a thousand levels deep.
-/

namespace WeakestPre.Platform

/-- The stack with the levels that calls take on it. -/
def standardStack : Stack where
  room := 985
  derivation := ⟨16, 1, 1⟩
  writing := ⟨8, 4, 3⟩
  comparison := ⟨8, 4, 3⟩
  copying := ⟨8, 3, 1⟩
  hashing := ⟨8, 2, 2⟩

def standard : Platform where
  readers := ⟨⟨Json.read, fun _ => "not JSON"⟩, ⟨Yaml.read, fun _ => "not YAML"⟩⟩
  nestingLimit := 960
  stack := standardStack

end WeakestPre.Platform
