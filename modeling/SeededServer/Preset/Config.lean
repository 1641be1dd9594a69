import SeededServer.Access
import SeededServer.Docker.Runtime
import SeededServer.Liveness
import SeededServer.Seeding

/-!
# The preset

A preset is a checked configuration together with what the runtime asks of it: the image, the ports
and the environment of the container, how to tell that the server is alive, and how to seed it. It
asks a container for nothing but its address.
-/
namespace SeededServer

structure Config where
  database : String
  password : WideText
  queries : List String
  license : Bool
  port : Port
  version : Option String
  waitTimeout : Float

/-- What a preset asks of a container: the address of a port. -/
structure Endpoint where
  address : String → Run String

namespace Endpoint

def ofContainer (container : Container) : Endpoint :=
  ⟨fun portName => Run.ofExcept (container.address portName)⟩

end Endpoint

namespace Config

def serverImage : String := "mcr.microsoft.com/mssql/server"

/-- The port that the server uses unless told otherwise. -/
def serverPort : Port := ⟨1433, by decide⟩

def passwordVariable : String := "SA_PASSWORD"

def portVariable : String := "MSSQL_TCP_PORT"

def licenseVariable : String := "ACCEPT_EULA"

/-- The image, with a tag if there is one. -/
def image (config : Config) : String :=
  match config.version with
  | some version => if version.isEmpty then serverImage else serverImage ++ ":" ++ version
  | none => serverImage

def ports (config : Config) : List (String × NamedPort) :=
  [(Container.defaultPort, ⟨Container.defaultPort, "tcp", config.port⟩)]

def environment (config : Config) : List Docker.EnvironmentItem :=
  [.assign passwordVariable config.password]
    ++ (if config.port = serverPort then [] else [.assign portVariable config.port.text])
    ++ (if config.license then [.assign licenseVariable "Y"] else [])

def blueprint (config : Config) : Blueprint :=
  { image := config.image, ports := config.ports, environment := config.environment,
    licenseAccepted := config.license }

def access (config : Config) : Access := { password := config.password }

def probe (config : Config) (endpoint : Endpoint) : Run Unit := do
  let address ← endpoint.address Container.defaultPort
  Liveness.probe config.access address

def seed (config : Config) (endpoint : Endpoint) : Run Unit := do
  let address ← endpoint.address Container.defaultPort
  Seeding.prepare config.access address config.database config.queries

def url (config : Config) (endpoint : Endpoint) : Run String := do
  let address ← endpoint.address Container.defaultPort
  Run.ofExcept (config.access.url address config.database)

end Config

end SeededServer
