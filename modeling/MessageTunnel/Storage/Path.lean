set_option autoImplicit false

namespace MessageTunnel.Path

def isAbsolute (path : String) : Bool := path.toList.head? == some '/'

def pieces (path : String) : List String := (path.toList.splitOn '/').map String.ofList

def join (dir path : String) : String :=
  if isAbsolute path then path
  else if dir.isEmpty ∨ dir.toList.getLast? = some '/' then dir ++ path
  else dir ++ "/" ++ path

def dropIdle : List Char → List Char
  | '/' :: rest => dropIdle rest
  | '.' :: '/' :: rest => dropIdle ('/' :: rest)
  | reversed => reversed

def parent? (path : String) : Option String :=
  let named := dropIdle path.toList.reverse
  if named.isEmpty then none
  else
    let above := dropIdle (named.dropWhile (· ≠ '/'))
    some (if above.isEmpty ∧ isAbsolute path then "/" else String.ofList above.reverse)

end MessageTunnel.Path
