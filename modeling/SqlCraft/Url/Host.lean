/-
**Hosts.**

A host is a grouped address in square brackets or a name. A *domain name* is percent-decoded and
folded; its labels are checked, and if the last one is a number, the name has to be an address. A
*plain name* is taken as it stands.

* `Host.isDomain` and `Host.isPlainName` — the two kinds of hosts.
-/

import SqlCraft.Url.Address
import SqlCraft.Url.Label
import SqlCraft.Url.Percent

namespace SqlCraft.Url.Host

open Text (splitAll)

/-- Whether a text is a grouped address in square brackets, or else has a property. -/
def isBracketedOr (property : List Char → Bool) (host : List Char) : Bool :=
  match host with
  | '[' :: rest => rest.getLast? = some ']' && isGroupedAddress rest.dropLast
  | host => property host

/-- Whether the labels of a name keep to all rules. -/
def areLabels (labels : List (List Char)) : Bool :=
  labels.all Label.isSound &&
    (!labels.any (·.any Label.isDirected) || labels.all Label.directionsFit)

/-- Whether a text is a domain name. -/
def isDomainName (name : List Char) : Bool :=
  match fold? name with
  | none => false
  | some folded =>
    let parts := splitAll (· = '.') folded
    !folded.isEmpty && !folded.any Label.isDenied &&
      (parts.mapM Label.ofFolded?).any areLabels &&
      (!endsInNumber parts || isPointedAddress parts)

/-- Whether a text is a host whose name is a domain name. -/
def isDomain (host : List Char) : Bool :=
  isBracketedOr (fun host => (Percent.decoded? host).any fun name => isDomainName name.toList) host

/-- Characters that no plain name contains. -/
def isForbidden (c : Char) : Bool :=
  c.toNat = 0 || [' ', '\t', '\n', '\r', '#', '/', ':', '<', '>', '?', '@', '[', '\\', ']', '^',
    '|'].contains c

/-- Whether a text is a host whose name is a plain name, perhaps an empty one. -/
def isPlainName (host : List Char) : Bool :=
  isBracketedOr (fun host => !host.any isForbidden) host

end SqlCraft.Url.Host
