/-!
Flag lists. A token that begins with a dash is a flag; the tokens after it, up to the next flag, are
its values, unless the flag holds an equals sign and so carries its value itself.
-/

namespace Warden.Flags

def isFlag (token : String) : Bool :=
  token.toList.head? == some '-'

def isJoined (token : String) : Bool :=
  token.toList.contains '='

def names (token name : String) : Bool :=
  ('-' :: name.toList).isPrefixOf token.toList

/-- The rest of a list without the flags that meet the condition, given whether values are kept at
this point. Values follow the flag in front of them, but a removed flag that carries its own value
has none to follow it, so what stands there stays. -/
def removeFrom (condition : String → Bool) : Bool → List String → List String
  | _, [] => []
  | keeping, token :: rest =>
      if isFlag token then
        if condition token then removeFrom condition (isJoined token) rest
        else token :: removeFrom condition true rest
      else if keeping then token :: removeFrom condition keeping rest
      else removeFrom condition keeping rest

def remove (condition : String → Bool) (tokens : List String) : List String :=
  removeFrom condition false tokens

end Warden.Flags
