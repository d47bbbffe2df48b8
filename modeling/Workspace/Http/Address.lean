/-
# Addresses as hosts

The host of a URL is a name or a network address.  An address of version 4 has four octets
between points; one of version 6 has eight groups of hexadecimal digits between colons.

* `::` stands once for groups that are zero, at least one of them.
* The last two groups may be written as an address of version 4.
* A zone may follow behind a percent sign.

`looksLikeVersion4` tells which hosts have to be addresses of version 4, because four runs of digits
are no name.
-/
import Workspace.Text.Hex
namespace Workspace.Http.Address

/-! ## 1. Version 4 -/

/-- An octet: a number up to 255 without needless zeros. -/
def isOctet (s : String) : Bool :=
  let ds := s.toList
  !ds.isEmpty && ds.all Char.isDigit && ds.length ≤ 3 && (s == "0" || ds.head? != some '0') &&
    Nat.ofDigitChars 10 ds 0 ≤ 255

/-- An address of version 4. -/
def isVersion4 (s : String) : Bool :=
  let octets := s.splitOn "."
  octets.length == 4 && octets.all isOctet

/-- A run of digits. -/
def isRun (s : String) : Bool :=
  let ds := s.toList
  !ds.isEmpty && ds.all Char.isDigit

/-- A host in the form of an address of version 4: four runs of digits between points. -/
def looksLikeVersion4 (s : String) : Bool :=
  let runs := s.splitOn "."
  runs.length == 4 && runs.all isRun

/-! ## 2. Version 6 -/

/-- A group: one to four hexadecimal digits. -/
def isGroup (s : String) : Bool :=
  let ds := s.toList
  !ds.isEmpty && ds.length ≤ 4 && ds.all fun c => (Text.Hex.value? c).isSome

/-- The groups on one side of the gap; the gap may touch the edge. -/
def besideGap (groups : List String) : List String := if groups == [""] then [] else groups

/-- Are the parts between the colons an address?  The first empty part between the edges is the
gap. -/
def areGroups (first : String) (middle : List String) (last : String) : Bool :=
  match middle.dropWhile (· != "") with
  | [] => middle.length == 6 && (first :: middle ++ [last]).all isGroup
  | _ :: below =>
    let above := besideGap (first :: middle.takeWhile (· != ""))
    let below := besideGap (below ++ [last])
    above.length + below.length ≤ 7 && (above ++ below).all isGroup

/-- An address of version 6 without its zone. -/
def isVersion6Core (s : String) : Bool :=
  match s.splitOn ":" with
  | first :: second :: rest =>
    let parts := second :: rest
    let last := parts.getLast?.getD ""
    if rest.isEmpty then false
    else if last.contains '.' then
      isVersion4 last && areGroups first (parts.dropLast ++ ["0"]) "0"
    else areGroups first parts.dropLast last
  | _ => false

/-- An address of version 6. -/
def isVersion6 (s : String) : Bool :=
  match s.splitOn "%" with
  | [core] => isVersion6Core core
  | [core, zone] => !zone.isEmpty && isVersion6Core core
  | _ => false

end Workspace.Http.Address
