import AddonAtlas.Files.Tree

/-!
# Finding what a path names

A path is followed name by name. Links on the way are followed too, at most forty of them, and the
link at the end if that is asked for.
-/

namespace AddonAtlas.Files

/-- Why the system refuses a path. -/
inductive Refusal
  | notFound
  | alreadyThere
  | notAFolder
  | isAFolder
  | tooManyLinks
  /-- A name holds a character that no name may hold. -/
  | nullByte
  deriving DecidableEq, Repr

/-- A refused path. -/
structure SystemFault where
  refusal : Refusal
  path : String
  deriving DecidableEq, Repr

/-- The number and the wording of a refusal. -/
def Refusal.number : Refusal → Nat × String
  | .notFound => (2, "No such file or directory")
  | .alreadyThere => (17, "File exists")
  | .notAFolder => (20, "Not a directory")
  | .isAFolder => (21, "Is a directory")
  | .tooManyLinks => (40, "Too many levels of symbolic links")
  | .nullByte => (22, "embedded null byte")

/-- The wording of a fault. -/
def SystemFault.message (f : SystemFault) : String :=
  match f.refusal with
  | .nullByte => "embedded null byte"
  | r => "[Errno " ++ toString r.number.1 ++ "] " ++ r.number.2 ++ ": " ++ Text.quoted f.path

/-- What a path leads to: an entry, or a free name in a folder. -/
inductive Spot
  | taken (location : Location) (entry : Entry)
  | free (folder : Location) (name : String)

/-- Follows names from a place on. `links` is the number of links that may still be followed. -/
def follow (top : Entry) (followLast : Bool) (links : Nat) (location : Location) :
    (names : List String) → Except Refusal Spot
  | [] =>
    match top.at? location with
    | some entry => .ok (.taken location entry)
    | none => .error .notFound
  | name :: rest =>
    match top.at? location with
    | some (.folder entries) =>
      if name == "." then follow top followLast links location rest
      else if name == ".." then follow top followLast links location.dropLast rest
      else
        match entries.lookup name with
        | none => if rest.isEmpty then .ok (.free location name) else .error .notFound
        | some (.link target) =>
          if rest.isEmpty && !followLast then .ok (.taken (location ++ [name]) (.link target))
          else
            match links with
            | 0 => .error .tooManyLinks
            | links + 1 =>
              follow top followLast links (if target.startsWith "/" then [] else location)
                (targetNames target ++ rest)
        | some _ => follow top followLast links (location ++ [name]) rest
    | some _ => .error .notAFolder
    | none => .error .notFound
termination_by names => (links, names.length)

/-- The most links that are followed on the way. -/
def linkLimit : Nat := 40

namespace Disk

/-- What a path leads to. -/
def spot (disk : Disk) (path : Path) (followLast : Bool := true) : Except Refusal Spot :=
  if path.parts.any fun name => name.contains (Char.ofNat 0) then .error .nullByte
  else follow disk.top followLast linkLimit (if path.isAbsolute then [] else disk.here) path.parts

/-- The entry that a path leads to, and its place. -/
def find (disk : Disk) (path : Path) : Except Refusal (Location × Entry) :=
  match disk.spot path with
  | .ok (.taken location entry) => .ok (location, entry)
  | .ok (.free _ _) => .error .notFound
  | .error r => .error r

/-- The entry that a path leads to. -/
def find? (disk : Disk) (path : Path) : Option Entry :=
  match disk.find path with
  | .ok (_, entry) => some entry
  | .error _ => none

/-- Does the path lead to an entry? -/
def has (disk : Disk) (path : Path) : Bool :=
  (disk.find? path).isSome

/-- Does the path lead to a folder? -/
def hasFolder (disk : Disk) (path : Path) : Bool :=
  (disk.find? path).any (·.isFolder)

/-- Does the path lead to a file? -/
def hasFile (disk : Disk) (path : Path) : Bool :=
  (disk.find? path).any (·.isFile)

end Disk

end AddonAtlas.Files
