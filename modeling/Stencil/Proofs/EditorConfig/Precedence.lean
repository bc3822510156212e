import Stencil.Proofs.EditorConfig.Consulted
import Stencil.Proofs.Files.Absolute

/-! Precedence of configuration files. Each layout setting of a file is what the closest definition
that gives it says, whatever the definitions say of the other settings. -/
namespace Stencil.EditorConfig

namespace Definition

end Definition

section
variable (read : Bytes → Option ConfigFile) (fs : FileSystem)

end

variable {read : Bytes → Option ConfigFile} {names : List Bytes}

end Stencil.EditorConfig
