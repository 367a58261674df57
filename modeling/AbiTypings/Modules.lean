import AbiTypings.Bindings.Compilation
import AbiTypings.Companion
import AbiTypings.Document
import AbiTypings.Typings

/-!
# Modules of documents

From the text of a document to the texts of its modules.
-/

namespace AbiTypings

/-- The texts of the two modules that a contract's typings consist of. -/
structure Modules where
  typings : String
  companion : String
  deriving DecidableEq, Repr

/-- The bindings of a document. -/
def Bindings.ofText (document : String) (options : Options) : Except Fault Bindings := do
  let ms ← Member.listOfText document
  Bindings.ofMembers options ms

/-- Both modules of bindings. -/
def Bindings.modules (bindings : Bindings) (style : ModuleStyle) : Modules where
  typings := typingsText bindings style
  companion := companionText bindings.dialect bindings.library style

/-- The typings module of a document. -/
def typingsOfText (document : String) (options : Options) (style : ModuleStyle) :
    Except Fault String := do
  let bindings ← Bindings.ofText document options
  return typingsText bindings style

/-- Both modules of a document. -/
def Modules.ofText (document : String) (options : Options) (style : ModuleStyle) :
    Except Fault Modules := do
  let bindings ← Bindings.ofText document options
  return bindings.modules style

end AbiTypings
