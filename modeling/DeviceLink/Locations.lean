import DeviceLink.Agent
import DeviceLink.Files.Path
/-!
# Locations — where programs and files are looked up

The first of several sources that names a place wins: an environment variable
that is set and not empty, then the configuration, then a file beside the
program, then a fixed place.
-/

namespace DeviceLink

namespace Locations

/-- The environment variable that names the bridge tool. -/
def adbVariable : String := "ADB"

/-- The environment variable that names the agent's artifact. -/
def artifactVariable : String := "DEVTETHER_SERVER_PATH"

/-- Where the agent's artifact is installed. -/
def installedArtifact : String := "/usr/local/share/devtether/scrcpy-server"

/-- A variable that is set and not empty. -/
def nonEmpty (value : Option String) : Option String := value.filter (· ≠ "")

/-- The bridge tool's program. -/
def adbProgram (setting : Option String) (paths : ToolPaths) : String :=
  ((nonEmpty setting).or paths.adbPath).getD "adb"

/-- The agent's artifact on the host. `isFile` tells whether there is a regular
file at a path, and `programDirectory` is where the running program lies. -/
def artifact (setting : Option String) (paths : ToolPaths) (programDirectory : Option String)
    (isFile : String → Bool) : String :=
  let portable :=
    (programDirectory.map fun d => Path.join d Agent.artifactName).filter isFile
  (((nonEmpty setting).or paths.serverPath).or portable).getD installedArtifact

/-- The directory configurations are kept in: the one the desktop names, if it
is an absolute path, else the one in the user's home, which is the one the
environment names or the account's. -/
def configurationDirectory (desktop home account : Option String) : String :=
  let inHome := ((nonEmpty home).or account).map fun h => Path.join h ".config"
  Path.join (((desktop.filter Path.isAbsolute).or inHome).getD ".") "devtether"

/-- The configuration read when none is named. -/
def configurationFile (desktop home account : Option String) : String :=
  Path.join (configurationDirectory desktop home account) "config.toml"

end Locations

end DeviceLink
