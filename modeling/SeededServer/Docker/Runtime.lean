import SeededServer.CommandRunner
import SeededServer.Docker.Format
import SeededServer.Readiness

/-!
# The docker runtime

Starts the container that a blueprint describes, finds out its published ports, waits for it, reads
its logs and removes it, all with the docker command line. A container whose ports cannot be found
is removed at once.
-/
namespace SeededServer

structure NamedPort where
  name : String
  protocol : String
  port : Port
  deriving DecidableEq, Repr

structure Blueprint where
  image : String
  ports : List (String × NamedPort)
  environment : List Docker.EnvironmentItem
  licenseAccepted : Bool := true

structure Docker where
  /-- The address of this machine that ports are published on. -/
  host : String := "127.0.0.1"
  /-- The first rest between two probes. -/
  pollInterval : Number := .real 0.25
  /-- The longest rest between two probes. -/
  pollCeiling : Number := .real 2

namespace Docker

def label : String := "mssqlpreset.run_id"

/-- How often the lookup of a port is tried again: it can lag behind the start. -/
def lookupRetries : Int := 3

def lookupBackoff : Number := .real 0.5

def logsTimeout : Number := .real 15

/-- How a port is given to docker: number and protocol. -/
def portSpec (port : NamedPort) : String := port.port.text ++ "/" ++ port.protocol

def validateEnvironment (commands : CommandRunner) : Run Unit := do
  Run.print "[blue]Validating Docker environment...[/blue]"
  let _ ← commands.run { argv := ["docker", "--version"], capture := true }
  Run.print "[green]Docker is available.[/green]"

def runArguments (docker : Docker) (name runId : String) (blueprint : Blueprint) : List String :=
  ["docker", "run", "-d", "--name", name, "--label", label ++ "=" ++ runId]
    ++ (itemNames blueprint.environment).flatMap (fun item => ["-e", item])
    ++ blueprint.ports.flatMap (fun (_, port) => ["-p", docker.host ++ "::" ++ portSpec port])
    ++ [blueprint.image]

def lookUpPort (commands : CommandRunner) (containerId : String) (port : NamedPort) : Run Int := do
  let result ← commands.run
    { argv := ["docker", "port", containerId, portSpec port], capture := true,
      retries := lookupRetries, backoff := lookupBackoff }
  Run.ofExcept (publishedPort (result.stdout.getD ""))

def lookUpPorts (commands : CommandRunner) (containerId : String) :
    List (String × NamedPort) → Run (List (String × Int))
  | [] => pure []
  | (name, port) :: rest => do
    let number ← lookUpPort commands containerId port
    let numbers ← lookUpPorts commands containerId rest
    pure ((name, number) :: numbers)

def removal (containerId : String) : Request :=
  { argv := ["docker", "rm", "-f", "-v", containerId], check := false, capture := true }

def portsText (ports : List (String × Int)) : String :=
  (Value.mapping (ports.map fun (name, number) => (.text name, .int number))).literal

def warnUnlicensed (blueprint : Blueprint) : Run Unit :=
  unless blueprint.licenseAccepted do
    Run.log .warning
      "EULA not accepted; the SQL Server image will refuse to start. Pass license=True."

def runIdOf (w : World) : String := String.ofList (w.token.toList.take 10)

def containerName (runId : String) : String := "mssqlpreset_" ++ runId

def startLine (image name : String) : String :=
  "[blue]Starting " ++ image ++ " as " ++ name ++ "...[/blue]"

/-- Runs a new container; the answer is its id. -/
def launch (docker : Docker) (commands : CommandRunner) (name runId : String)
    (blueprint : Blueprint) : Run String := do
  warnUnlicensed blueprint
  Run.print (startLine blueprint.image name)
  let result ← commands.run
    { argv := docker.runArguments name runId blueprint, capture := true,
      environment := itemValues blueprint.environment }
  pure (Text.strip (result.stdout.getD ""))

/-- Looks up the ports of a new container. If that fails in any way, the container is removed. -/
def publish (commands : CommandRunner) (name containerId : String)
    (ports : List (String × NamedPort)) : Run (List (String × Int)) :=
  Run.rescue (lookUpPorts commands containerId ports) fun fault => do
    Run.log .warning ("Removing container " ++ name ++ " after failed port lookup")
    let _ ← commands.run (removal containerId)
    Run.raise fault

def start (docker : Docker) (commands : CommandRunner) (blueprint : Blueprint) :
    Run Container := do
  let runId ← Run.ask runIdOf
  let name := containerName runId
  let containerId ← docker.launch commands name runId blueprint
  let ports ← publish commands name containerId blueprint.ports
  Run.log .info ("Container " ++ name ++ " started with ports " ++ portsText ports)
  pure { runId, name, containerId, host := docker.host, ports }

def waitUntilReady (docker : Docker) (container : Container) (probe : Run Unit)
    (timeout : Number) : Run Unit :=
  Readiness.await docker.pollInterval docker.pollCeiling container probe timeout

/-- Joins the outputs that are not empty, each without blanks around it. -/
def joinOutputs (outputs : List String) : String :=
  "\n".intercalate ((outputs.filter (!·.isEmpty)).map Text.strip)

def logs (commands : CommandRunner) (container : Container) (tail : Int64 := 50) : Run String := do
  let result ← commands.run
    { argv := ["docker", "logs", "--tail", Number.intText tail.toInt, container.containerId],
      check := false, capture := true, timeout := some logsTimeout }
  pure (joinOutputs [result.stdout.getD "", result.stderr.getD ""])

def stop (commands : CommandRunner) (container : Container) : Run Unit := do
  Run.print ("[dim]Removing container " ++ container.name ++ "...[/dim]")
  Run.log .info ("Removing container " ++ container.name)
  let _ ← commands.run (removal container.containerId)

end Docker

end SeededServer
