import AssetGraph.Url.Idna.Label
import AssetGraph.Url.Percent
import AssetGraph.Url.Punycode
/-!
# Names of hosts

The name of a host in letters, digits and hyphens.  Characters are mapped (capitals to small letters,
for instance) and composed; a label that still holds others is written with `xn--` in front, and one
that is given so must be what it would be written as.  Some ASCII characters no name may hold.
-/
namespace AssetGraph.Domain

/-- ASCII characters that would end a host, or mean something else. -/
def isForbidden (c : Char) : Bool :=
  Percent.isControl c ||
    [' ', '%', '#', '/', ':', '<', '>', '?', '@', '[', '\\', ']', '^', '|'].contains c

def mark : List Char := ['x', 'n', '-', '-']

def isAscii (c : Char) : Bool := c.toNat < 128

/-- The characters that a label stands for, if it may stand in a name. -/
def readLabel? (label : List Char) : Option (List Char) :=
  if mark.isPrefixOf label then
    match Punycode.decode? (label.drop mark.length) with
    | none => none
    | some cs => if !cs.all isAscii && Idna.isLabel cs then some cs else none
  else if label.all isAscii then some label
  else if Idna.isLabel label then some label
  else none

/-- The written form of the characters of a label. -/
def writeLabel (cs : List Char) : List Char :=
  if cs.all isAscii then cs else mark ++ Punycode.encode cs

/-- Whether the labels keep their directions, where that is asked of them. -/
def directionsFit (labels : List (List Char)) : Bool :=
  !(labels.any (·.any Idna.isRightToLeft)) || labels.all Idna.keepsDirection

/-- The characters of a name, mapped and composed. -/
def mapped? (cs : List Char) : Option (List Char) :=
  (cs.mapM Idna.map?).map fun parts => Idna.normalize parts.flatten

/-- **The name of a host in ASCII**, if it is one. -/
def toAscii? (cs : List Char) : Option (List Char) := do
  let name ← mapped? cs
  let labels ← (Text.parts '.' name).mapM readLabel?
  if name.any isForbidden || !directionsFit labels then none
  else pure (Text.join '.' (labels.map writeLabel))

end AssetGraph.Domain
