import InteractiveShell.Editor.Line
import InteractiveShell.SearchPath
import InteractiveShell.Text.Order

/-!
# Candidates for completion

The candidates for a text are the names that begin with it, among given names and the executables on
the search path.  They come in the order of their code points, each once.
-/

namespace InteractiveShell

/-- Names in the order of their code points, each once. -/
def sortedNames (names : List Text) : List Text :=
  (names.mergeSort Text.atMost).eraseReps

/-- The candidates for the beginning of a command's name: given names, and the executables on the
search path. -/
def World.candidates (world : World) (names : List Text) : Completer :=
  fun beginning =>
    sortedNames (names.filter beginning.isPrefixOf ++ world.executablesFrom beginning)

end InteractiveShell
