import AccessLayer.Proofs.Artifact.Call

namespace AccessLayer

namespace Blueprint

open Line

variable {l : Language}

/-- A table whose key stands between other columns. -/
def members : Table :=
  ⟨"members", [⟨"name", .text, false, false, none⟩, ⟨"id", .uuid, false, true, none⟩,
    ⟨"email", .text, true, false, none⟩]⟩

end Blueprint

end AccessLayer
