/-!
Paths in normal form: repeated slashes and single dots are dropped, parent steps stay, and exactly
two slashes in front mean a root of their own.
-/

namespace Warden

structure Path where
  root : String
  parts : List String
  deriving DecidableEq, Repr

namespace Path

def rootOf (slashes : Nat) : String :=
  if slashes = 0 then "" else if slashes = 2 then "//" else "/"

def ofText (text : String) : Path :=
  let characters := text.toList
  let pieces := (characters.splitOn '/').map String.ofList
  ⟨rootOf (characters.takeWhile (· == '/')).length,
    pieces.filter fun piece => piece != "" && piece != "."⟩

def join (path : Path) (name : String) : Path :=
  { path with parts := path.parts ++ [name] }

def text (path : Path) : String :=
  if path.root == "" && path.parts.isEmpty then "."
  else path.root ++ "/".intercalate path.parts

/-- The home directory that an environment names: slashes at its end count for nothing, and nothing
at all is the root. One that begins with a tilde cannot be told. -/
def home? (named : String) : Option Path :=
  let kept := (named.toList.reverse.dropWhile (· == '/')).reverse
  if kept.head? == some '~' then none
  else some (ofText (if kept.isEmpty then "/" else String.ofList kept))

end Path

end Warden
