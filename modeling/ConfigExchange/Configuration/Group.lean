import ConfigExchange.NameMap

/-! A group of members that share files and settings, and the edits that change one. -/
namespace ConfigExchange

/-- A named group: its deployed files, the regions it holds and the settings of its members. -/
structure Group where
  name : String
  jars : NameSet := ∅
  configFiles : NameSet := ∅
  regions : NameSet := ∅
  properties : NameMap String := ∅
  /-- Largest size of a log file, if there is a limit. -/
  logFileSizeLimit : Option UInt64 := none
  deriving DecidableEq

namespace Group

/-- A change of one group. `fail` stands for an edit that breaks off. -/
inductive Edit where
  | addJar (value : String)
  | removeJar (value : String)
  | addConfigFile (value : String)
  | removeConfigFile (value : String)
  | addRegion (value : String)
  | removeRegion (value : String)
  | setProperty (key value : String)
  | setLogFileSizeLimit (limit : Option UInt64)
  | fail

/-- What an edit answers. -/
inductive EditAnswer where
  /-- Whether the set changed. -/
  | changed (value : Bool)
  /-- The value a property had before. -/
  | previous (value : Option String)
  | nothing

/-- The edited group and the edit's answer, or nothing if the edit breaks off. -/
def edit (group : Group) : Edit → Option (EditAnswer × Group)
  | .addJar value =>
    let (new, jars) := group.jars.add value
    some (.changed new, { group with jars })
  | .removeJar value =>
    let (there, jars) := group.jars.remove value
    some (.changed there, { group with jars })
  | .addConfigFile value =>
    let (new, configFiles) := group.configFiles.add value
    some (.changed new, { group with configFiles })
  | .removeConfigFile value =>
    let (there, configFiles) := group.configFiles.remove value
    some (.changed there, { group with configFiles })
  | .addRegion value =>
    let (new, regions) := group.regions.add value
    some (.changed new, { group with regions })
  | .removeRegion value =>
    let (there, regions) := group.regions.remove value
    some (.changed there, { group with regions })
  | .setProperty key value =>
    some (.previous (group.properties.get? key),
      { group with properties := group.properties.insert key value })
  | .setLogFileSizeLimit limit => some (.nothing, { group with logFileSizeLimit := limit })
  | .fail => none

/-- Applies edits in order, up to the first one that breaks off: the answers of those that were
made, the group as they left it, and whether one broke off. -/
def editAll (group : Group) : List Edit → List EditAnswer × Group × Bool
  | [] => ([], group, false)
  | first :: rest =>
    match group.edit first with
    | none => ([], group, true)
    | some (answer, next) =>
      let (answers, final, broken) := next.editAll rest
      (answer :: answers, final, broken)

end Group

end ConfigExchange
