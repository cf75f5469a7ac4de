/-! # Environments -/

namespace ProtoTree

/-- The variables of a process's environment by name. -/
abbrev Environment := List (String × String)

end ProtoTree
