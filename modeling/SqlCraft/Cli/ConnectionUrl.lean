/-
**URLs of databases.**

The URL of a database is only checked here: user, password and path must be text once their percent
escapes are decoded, and the settings in the query that take fixed words or numbers must have such
a value.

* `ConnectionUrl.isAccepted` — whether a text is such a URL.
-/

import SqlCraft.Url.Basic

namespace SqlCraft.Cli.ConnectionUrl

open Text (breakAt splitAll)

/-- The words for how a connection is encrypted. -/
def encryptions : List String :=
  ["disabled", "preferred", "required", "verify_ca", "verify_identity"]

/-- Whether a text is a number of 64 bits, perhaps behind a plus sign. -/
def isCapacity (text : List Char) : Bool :=
  let digits := match text with
    | '+' :: digits => digits
    | digits => digits
  (Numeric.inBase? 10 digits).any (· < UInt64.size)

/-- Whether a setting with the given name takes a value. Text that cannot be decoded is no value. -/
def takes (name : String) (value : Option String) : Bool :=
  if ["sslmode", "ssl-mode"].contains name then
    value.any fun value => encryptions.contains (String.ofList (value.toList.map Char.toLower))
  else if name = "statement-cache-capacity" then value.any fun value => isCapacity value.toList
  else true

/-- Whether a setting is accepted: a name and a value around an equals sign, where a plus sign stands
for a blank. A name that cannot be decoded is no setting's name. -/
def isSetting (setting : List Char) : Bool :=
  let (name, value) := breakAt (· = '=') (setting.map fun c => if c = '+' then ' ' else c)
  (Url.Percent.decoded? name).all fun name => takes name (Url.Percent.decoded? (value.drop 1))

/-- Whether a text is the URL of a database. -/
def isAccepted (text : String) : Bool :=
  (Url.parse? text).any fun url =>
    (url.user :: url.password :: url.path).all (fun part => (Url.Percent.decoded? part).isSome) &&
      (splitAll (· = '&') url.query).all isSetting

end SqlCraft.Cli.ConnectionUrl
