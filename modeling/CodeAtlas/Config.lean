import CodeAtlas.Policy
import CodeAtlas.Toml.Parser

/-!
# Configuration

The settings of a resolver: how tolerant the comparison of code is. They are written as a TOML
document with one table, whose keys may each be left out and then have their default, and in which
other keys do not matter. In place of the table there may be the list of its values in order, of
which those behind the last setting do not matter either.

A document is refused for a number without a value wherever it stands, but for the values behind the
last setting, at which nobody looks.
-/

namespace CodeAtlas

/-- The settings of a resolver. -/
structure Config where
  /-- How tolerant the comparison of code is. -/
  policy : MatchPolicy := {}
  deriving DecidableEq, Repr

/-! ## The settings of a policy -/

namespace MatchPolicy

/-- The names of the settings of a policy, in order. -/
def settings : List String :=
  ["ignore_link_references", "ignore_immutables", "ignore_metadata", "allow_constructor_args",
    "library_address_prefix"]

/-- The values of the settings, in order. -/
def values (policy : MatchPolicy) : List Bool :=
  [policy.ignoreLinkReferences, policy.ignoreImmutables, policy.ignoreMetadata,
    policy.allowConstructorArgs, policy.libraryAddressPrefix]

/-- The policy with the values given for some of the settings, and the default for the others. -/
def ofValues (given : List (Option Bool)) : MatchPolicy :=
  let value := fun i => ((given.getD i none).getD true)
  ⟨value 0, value 1, value 2, value 3, value 4⟩

/-- The values of a policy give it back. -/
theorem ofValues_values (policy : MatchPolicy) : ofValues (policy.values.map some) = policy := rfl

end MatchPolicy

/-! ## Documents -/

namespace Config

open Toml (Value Members)

/-- A setting, which is a truth value. -/
def readSetting : Option Value → Option (Option Bool)
  | none => some none
  | some (.boolean value) => some (some value)
  | some _ => none

/-- A policy: a table, or a list that begins with its values. A date stands for a table without
settings. -/
def readPolicy : Value → Option MatchPolicy
  | .table _ members =>
    if Toml.allMembersReadable members then
      (MatchPolicy.settings.mapM fun name => readSetting (Toml.find? name.toList members)).map
        MatchPolicy.ofValues
    else none
  | .array items =>
    ((items.take MatchPolicy.settings.length).mapM fun item => readSetting (some item)).map
      MatchPolicy.ofValues
  | .dateTime _ => some {}
  | _ => none

/-- The name of the table of a policy. -/
def policyName : String := "match_policy"

/-- Reads the settings from a TOML document. -/
def ofToml (text : String) : Option Config := do
  let document ← Toml.ofText text
  let others := document.filter fun (name, _) => name ≠ policyName.toList
  if Toml.allMembersReadable others then
    match Toml.find? policyName.toList document with
    | none => return {}
    | some value => return { policy := ← readPolicy value }
  else none

/-- Writes the settings as a TOML document. -/
def toToml (config : Config) : String :=
  let line := fun (name, value) => name ++ " = " ++ (if value then "true" else "false") ++ "\n"
  "[" ++ policyName ++ "]\n" ++
    String.join ((MatchPolicy.settings.zip config.policy.values).map line)

end Config

end CodeAtlas
