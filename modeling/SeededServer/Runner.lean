import SeededServer.Preset.Config

/-!
# The runner

Runs a preset to completion: starts a container, waits until the server is ready, and seeds it once.
A container that does not get that far is removed. An attached run waits for the user and removes
the container at its end; a detached one leaves it running.
-/
namespace SeededServer

structure Runner where
  config : Config
  detach : Bool := false
  commands : CommandRunner := { defaultTimeout := some (.real 300) }
  docker : Docker := {}
  /-- The fault with which the console refuses a line. It is asked about the lines that show a text
  from outside: the image of the container, or the text of a fault. -/
  console : String → Option Fault := fun _ => none

namespace Runner

def stop (runner : Runner) : Run Unit := do
  match ← Run.ask World.held with
  | none => pure ()
  | some container =>
    Docker.stop runner.commands container
    Run.hold none

def bringUp (runner : Runner) (container : Container) : Run Unit := do
  let endpoint := Endpoint.ofContainer container
  runner.docker.waitUntilReady container (runner.config.probe endpoint)
    (.real runner.config.waitTimeout)
  Run.print "[blue]Initializing database...[/blue]"
  runner.config.seed endpoint

/-- The container's logs, or nothing if they cannot be read. -/
def readLogs (runner : Runner) (container : Container) : Run String :=
  Run.rescue (Docker.logs runner.commands container) fun fault => do
    if fault.isPreset then
      Run.log .debug ("Could not read container logs: " ++ fault.text)
      pure ""
    else Run.raise fault

/-- Logs what the container wrote, and removes it. -/
def cleanUp (runner : Runner) (container : Container) : Run Unit := do
  let logs ← runner.readLogs container
  if !logs.isEmpty then Run.log .debug ("Container logs:\n" ++ logs)
  runner.stop

def startRefusal? (runner : Runner) (w : World) : Option Fault :=
  runner.console <| Docker.startLine runner.config.image (Docker.containerName (Docker.runIdOf w))

/-- Starts a container. There is none if the console refuses the line that tells of it. -/
def startContainer (runner : Runner) : Run Container := do
  match ← Run.ask runner.startRefusal? with
  | none => runner.docker.start runner.commands runner.config.blueprint
  | some refusal =>
    Docker.warnUnlicensed runner.config.blueprint
    Run.raise refusal

/-- Starts a container, once docker is known to be there. -/
def launch (runner : Runner) : Run Container := do
  Docker.validateEnvironment runner.commands
  runner.startContainer

/-- Brings a container up. If that fails in any way, the container is removed. -/
def prepare (runner : Runner) (container : Container) : Run Unit :=
  Run.rescue (runner.bringUp container) fun fault => do
    runner.cleanUp container
    Run.raise fault

def start (runner : Runner) : Run Container := do
  let container ← runner.launch
  Run.hold (some container)
  runner.prepare container
  pure container

def waitForInterrupt : Run Unit := do
  Run.print "[dim]Press Ctrl+C to stop and remove the container.[/dim]"
  Run.restUntilInterrupted

def announce (runner : Runner) (container : Container) : Run Unit := do
  Run.print ("[bold green]Container " ++ container.name ++ " is ready.[/bold green]")
  let address ← Run.ofExcept (container.address Container.defaultPort)
  Run.print ("Address: " ++ address)
  let url ← runner.config.url (Endpoint.ofContainer container)
  Run.print ("Connection URL: " ++ url)

def attend (runner : Runner) (container : Container) : Run Unit :=
  if runner.detach then
    Run.print
      ("[dim]Container left running. Remove it with: docker rm -f " ++ container.name ++ "[/dim]")
  else waitForInterrupt

/-- Starts a container, tells how to reach it, and waits for the user unless detached. -/
def serve (runner : Runner) : Run Int := do
  Run.log .info "Starting SQL Server container..."
  let container ← runner.start
  runner.announce container
  runner.attend container
  pure 0

/-- Shows the text of a fault. The console may take what stands in it for markup of its own. -/
def tellFault (runner : Runner) (line : String) : Run Unit := do
  Run.check (runner.console line)
  Run.print line

/-- Reports a fault: an interrupt is a regular end, everything else a failure. -/
def report (runner : Runner) (fault : Fault) : Run Int := do
  if fault.isInterrupt then
    Run.print "[yellow]Stopping...[/yellow]"
    Run.log .info "Interrupted by user"
    pure 0
  else if fault.isPreset then
    runner.tellFault ("[bold red]Error:[/bold red] " ++ fault.text)
    Run.log .error fault.text
    pure 1
  else
    runner.tellFault ("[bold red]Unexpected error:[/bold red] " ++ fault.text)
    Run.log .error "Unexpected error"
    pure 1

def run (runner : Runner) : Run Int :=
  Run.ensure (Run.rescue runner.serve runner.report)
    (if runner.detach then pure () else runner.stop)

end Runner

end SeededServer
