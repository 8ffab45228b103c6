import AddonAtlas.Files.Lookup

/-!
# Resolved paths

`Disk.resolve` gives the path from the top, without links, dots and double dots, that a path stands
for. Names that lead nowhere are kept. `Disk.expand` puts the home folder for a tilde.
-/

namespace AddonAtlas.Files

/-- Why a path cannot be resolved. -/
inductive PathFault
  /-- A path starts with the name of an unknown user. -/
  | noHome
  /-- The links of a path lead back to themselves. -/
  | linkLoop (path : String)
  | system (fault : SystemFault)
  deriving DecidableEq, Repr

/-- The wording of a fault. -/
def PathFault.message : PathFault → String
  | .noHome => "Could not determine home directory."
  | .linkLoop path => "Symlink loop from " ++ Text.quoted path
  | .system fault => fault.message

/-- How far a path has been followed. -/
structure Standing where
  /-- Does the way there start at the top, and not at the current folder? -/
  fromTop : Bool
  location : Location
  deriving DecidableEq, Repr

/-- What is left to do when a path is resolved: a name to follow, or a link to close. -/
inductive Step
  | name (n : String)
  | close (link : Standing)

/-- The names among the steps. -/
def Step.names (steps : List Step) : List String :=
  steps.filterMap fun
    | .name n => some n
    | .close _ => none

/-- Names after a place, where double dots take one off. -/
def plainLocation (location : Location) (names : List String) : Location :=
  names.foldl (fun location name =>
    if name == ".." then location.dropLast
    else if name == "." then location
    else location ++ [name]) location

/-- The place to which steps lead. `known` are the links met so far, with the places to which they
lead once that is known; a link that is met inside itself ends the way. The same link counts anew
when it is first reached from the current folder and then from the top. -/
def resolveFrom (top : Entry) : (fuel : Nat) → Standing →
    (known : List (Standing × Option Standing)) → List Step → Location
  | 0, standing, _, _ => standing.location
  | _ + 1, standing, _, [] => standing.location
  | fuel + 1, standing, known, .close link :: rest =>
    resolveFrom top fuel standing ((link, some standing) :: known) rest
  | fuel + 1, standing, known, .name name :: rest =>
    if name == "." then resolveFrom top fuel standing known rest
    else if name == ".." then
      resolveFrom top fuel { standing with location := standing.location.dropLast } known rest
    else
      let next : Standing := { standing with location := standing.location ++ [name] }
      match top.at? next.location with
      | some (.link target) =>
        match known.lookup next with
        | some (some standing) => resolveFrom top fuel standing known rest
        | some none => plainLocation next.location (Step.names rest)
        | none =>
          resolveFrom top fuel (if target.startsWith "/" then ⟨true, []⟩ else standing)
            ((next, none) :: known)
            ((Path.namesOf target).map .name ++ .close next :: rest)
      | _ => resolveFrom top fuel next known rest

namespace Disk

/-- The place that a path stands for. -/
def resolvedLocation (disk : Disk) (path : Path) : Location :=
  resolveFrom disk.top (path.parts.length + 2 * disk.top.linkWeight + 1)
    (if path.isAbsolute then ⟨true, []⟩ else ⟨false, disk.here⟩) [] (path.parts.map .name)

/-- The path that a path stands for. -/
def resolve (disk : Disk) (path : Path) : Except PathFault Path :=
  if path.parts.any fun name => name.contains (Char.ofNat 0) then
    .error (.system ⟨.nullByte, path.text⟩)
  else
    let resolved : Path := { root := "/", parts := disk.resolvedLocation path }
    match disk.find resolved with
    | .error .tooManyLinks => .error (.linkLoop resolved.text)
    | _ => .ok resolved

/-- The path with the home folder for a tilde at its start. -/
def expand (disk : Disk) (path : Path) : Except PathFault Path :=
  match path.isAbsolute, path.parts with
  | false, first :: rest =>
    if first == "~" then .ok ((Path.ofText disk.home).below rest)
    else if first.startsWith "~" then .error .noHome
    else .ok path
  | _, _ => .ok path

end Disk

end AddonAtlas.Files
