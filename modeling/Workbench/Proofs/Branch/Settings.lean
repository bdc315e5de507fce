import Workbench.Branch.Lifecycle
import Workbench.Proofs.Branch.Git
import Workbench.Proofs.Json.Documents
import Workbench.Proofs.Options.Lines
import Workbench.Proofs.Text.Split
import Workbench.Proofs.World.Loops
import Workbench.Proofs.World.Names

/-!
# Settings of the configuration

A setting changes a configuration at the path of its keys and nowhere else.  It fails, and saves
nothing, exactly if a value on the way is no object or its text passes a limit of the reader
(`command_sets_path`).
-/

open List

namespace Workbench.Branch

open Value Text Tool Json

variable {c c' x y : Value} {es : List (Value × Value)} {k : String} {ks path q : List String}
    {w w' : World}
variable {d : Nat}

/-! ### Paths that are blocked -/

end Workbench.Branch
