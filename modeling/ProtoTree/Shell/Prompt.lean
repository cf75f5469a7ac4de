import ProtoTree.Shell.Grammar

/-! # Texts that are worked out when they are shown

What stands in front of a traced command is read like the body of a
here-document each time it is shown.
-/

namespace ProtoTree.Shell

open Text (Octets)

namespace Word

/-- The parts of a text in which parameters and scripts are replaced; a text that cannot be read stands for itself. -/
def ofPrompt (text : Octets) : Word :=
  let around : Surroundings := ⟨Grammar.script Reader.plenty, none, false⟩
  match Token.parts Reader.plenty around .document [] (Reader.ofText 1 text) with
  | .ok (w, _) => w
  | .error _ => [.text text true]

end Word

end ProtoTree.Shell
