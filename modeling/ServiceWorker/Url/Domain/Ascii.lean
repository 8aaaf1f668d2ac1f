import ServiceWorker.Url.Domain.Direction
import ServiceWorker.Url.Domain.Joining
import ServiceWorker.Url.Domain.Mapping
import ServiceWorker.Url.Domain.Punycode

/-!
# Domain names in ASCII

A domain name is written in one way: letters folded, marks composed, and each label that has other
characters than ASCII ones written in ASCII behind `xn--`.

## Main definitions

* `labelsOf`, `nameOf`: a name and its labels
* `Domain.ascii?`: a domain name in ASCII, if it is one
-/

namespace ServiceWorker.Url.Domain

/-- The labels of a name, parted by points. -/
def labelsOf : List Char → List (List Char)
  | [] => [[]]
  | c :: rest =>
    match labelsOf rest with
    | [] => [[c]]
    | label :: labels => if c = '.' then [] :: label :: labels else (c :: label) :: labels

/-- The name that has the given labels. -/
def nameOf (labels : List (List Char)) : List Char :=
  ['.'].intercalate labels

/-- Characters that no domain name holds. -/
def isForbidden (c : Char) : Bool :=
  c ≤ ' ' || c = '\x7f' ||
    ['%', '#', '/', ':', '<', '>', '?', '@', '[', '\\', ']', '^', '|'].contains c

/-- A label as it is read: if it is written in ASCII for others, what it stands for. -/
def unwritten (label : List Char) : Option (List Char) :=
  match label with
  | 'x' :: 'n' :: '-' :: '-' :: text => do
    let decoded ← Punycode.decode? text
    if decoded.all Punycode.isAscii then none
    else if decoded.all (ruleOf · = .keep) ∧ composed decoded = decoded then some decoded
    else none
  | label => some label

/-- Whether a label may stand in a name, its direction apart. -/
def wellFormed (label : List Char) : Bool :=
  label.all (!isForbidden ·) && joinersFit label && !(label.head?.any isMark)

/-- A label in ASCII. -/
def written (label : List Char) : List Char :=
  if label.all Punycode.isAscii then label
  else ['x', 'n', '-', '-'] ++ Punycode.encode label

/-- A domain name in ASCII, if it is one. -/
def ascii? (name : List Char) : Option (List Char) := do
  let name ← mapped name
  let labels ← (labelsOf (composed name)).mapM unwritten
  if !labels.all wellFormed then none
  else if labels.any turns && !labels.all oneWay then none
  else some (nameOf (labels.map written))

end ServiceWorker.Url.Domain
