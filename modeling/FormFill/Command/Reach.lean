import FormFill.Command.Order
import FormFill.Command.Output

/-!
# The reach of a command line

A command line can lead only to the locations that it names, to the output files in them, and to the
folders around all these. Whoever knows what stands there can foretell what the command line does.
-/

namespace FormFill.Command

/-- The texts of a command line that may name locations: its arguments, and what follows the equals
signs in them. -/
def namesIn (line : List Text) : List Text :=
  [] :: line ++ line.filterMap fun argument =>
    match lookOf argument with
    | .option _ value => value
    | _ => none

/-- The locations that a command line may lead to. -/
def reach (line : List Text) : List Location :=
  ((namesIn line).map Location.ofText).flatMap fun location =>
    location :: Artifact.all.map fun artifact => artifact.location location

/-- The locations of the folders around a location, from the outermost, and the location itself. -/
def wayTo (location : Location) : List Location :=
  (List.range (location.parts.length + 1)).map fun count => ⟨location.parts.take count⟩

/-- The path that a location leads to if all on the way to it are folders. -/
def pathOf (location : Location) : List Text :=
  location.origin.2.foldl Disk.enter location.origin.1

end FormFill.Command
