import ComponentBook.Property.InterfaceDeclaration

/-! # The properties of a script

A script is read for an interface first and for a declaration object second; **`scriptProperties`**
merges what the two give. -/

namespace ComponentBook

/-- The properties that a script declares. -/
def scriptProperties (policy : MergePolicy) (script : Text) : List Property :=
  mergeProperties policy
    [InterfaceDeclaration.interfaceProperties script, ObjectDeclaration.objectProperties script]

end ComponentBook
