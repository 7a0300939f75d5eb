/-!
# Limits of a host

How far nested calls may reach is up to the host that the program runs on.  Two of its computations
go as deep as what they are given: reading a document, and making the missing directories of a path.
-/

namespace Diorama

/-- How far nested calls reach, by default with a thousand of them inside each other. -/
structure Limits where
  /-- Lists and objects of a document may be nested this deep. -/
  documentDepth : Nat := 990
  /-- So many missing directories may be made for one path. -/
  newDirectories : Nat := 989

end Diorama
