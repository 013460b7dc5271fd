/-! # Paths, where empty parts and single points say nothing -/

namespace Compositing.Path

def isAbsolute (p : String) : Bool := p.startsWith "/"

def join (base p : String) : String :=
  if isAbsolute p then p
  else if base.isEmpty || base.endsWith "/" then base ++ p
  else base ++ "/" ++ p

def saysNothing (part : String) : Bool := part.isEmpty || part == "."

def partsBack (p : String) : List String := ((p.splitOn "/").drop 1).reverse

def ofPartsBack (parts : List String) : String := "/" ++ "/".intercalate parts.reverse

def parent? (p : String) : Option String :=
  match (partsBack p).dropWhile saysNothing with
  | [] => none
  | _ :: rest => some (ofPartsBack (rest.dropWhile saysNothing))

def name? (p : String) : Option String :=
  match (partsBack p).dropWhile saysNothing with
  | [] => none
  | part :: _ => if part = ".." then none else some part

def upward : List String → List String
  | [] => []
  | part :: rest =>
    if saysNothing part then upward rest else ofPartsBack (part :: rest) :: upward rest

def absolute? (p : String) : Option String := if isAbsolute p then some p else none

end Compositing.Path
