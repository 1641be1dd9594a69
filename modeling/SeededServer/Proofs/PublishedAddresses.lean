import SeededServer.Proofs.PortLookup
import SeededServer.Proofs.PublishedPorts
import SeededServer.Proofs.Removal
import SeededServer.Proofs.SeedFailures
import SeededServer.Proofs.SplitAddresses

/-!
# From the published port to the driver

A published port is written into an address, and the address is split again before the driver gets
it. Nothing is lost on the way: the digits that docker prints are read as a number that is not
negative, that number is written with plain digits only, and the address is cut at the colon in
front of them. So a container that is started can be connected to at every port that it has a name
for.

## Main definitions

* `Docker.Found` — the number that is found for a port of a started container.
* `Access.Reaches` — what a connection at an address passes to the driver, and how it ends.
-/
namespace SeededServer

/-! ## What is found -/

namespace Docker

open Text

/-- A published port is not negative, and it has at most 4300 digits. -/
theorem of_publishedPort {output : String} {number : Int} (h : publishedPort output = .ok number) :
    ∃ n : Nat, number = n ∧ Number.isWritable number = true := by
  cases hfirst : (lines output.toList).findSome? portDigits? with
  | none =>
    rw [publishedPort_eq, publishedPortWith_none hfirst] at h
    cases h
  | some digits =>
    obtain ⟨line, -, hline⟩ := List.exists_of_findSome?_eq_some hfirst
    obtain ⟨-, -, hdigits⟩ := portDigits?_eq_some_iff.1 hline
    rw [publishedPort_eq, publishedPortWith_some hfirst] at h
    cases hread : Number.readInt digits with
    | error refusal =>
      rw [hread] at h
      cases h
    | ok value =>
      rw [hread] at h
      cases h
      obtain ⟨-, -, hvalue⟩ := (Number.readInt_eq_ok_iff hdigits).1 hread
      exact ⟨_, hvalue, Number.isWritable_of_readInt hread⟩

/-- Among the events docker answers the lookup of a port with that name, and its answer holds the
number. -/
def Found (commands : CommandRunner) (blueprint : Blueprint) (events : List Event)
    (containerId portName : String) (number : Int) : Prop :=
  ∃ (port : NamedPort) (result : Completed), (portName, port) ∈ blueprint.ports ∧
    .command (lookupProcess commands containerId port) (.ok result) ∈ events ∧
    publishedPort (result.stdout.getD "") = .ok number

variable {commands : CommandRunner} {containerId : String}

theorem LookupEnds.exists_answer {port : NamedPort} {row : List Event} {number : Int}
    (h : LookupEnds commands containerId port row (.done number)) :
    ∃ result, .command (lookupProcess commands containerId port) (.ok result) ∈ row ∧
      publishedPort (result.stdout.getD "") = .ok number := by
  cases h with
  | found result _ hanswered hport =>
    obtain ⟨earlier, -, -, rfl, -⟩ := hanswered
    exact ⟨result, List.mem_append_right _ (List.mem_singleton_self _), hport⟩

/-- Behind every port name there is the answer to a lookup. -/
theorem AllFound.exists_answer {ports : List (String × NamedPort)} {rows : List Event}
    {numbers : List (String × Int)} (h : AllFound commands containerId ports rows numbers)
    {portName : String} (hname : portName ∈ numbers.map Prod.fst) :
    ∃ number port result, Entries.get? numbers portName = some number ∧
      (portName, port) ∈ ports ∧
      .command (lookupProcess commands containerId port) (.ok result) ∈ rows ∧
      publishedPort (result.stdout.getD "") = .ok number := by
  induction h with
  | nil => cases hname
  | @cons name port ports row rows number numbers hfound hall ih =>
    rw [Entries.get?_cons]
    by_cases hfirst : name = portName
    · subst hfirst
      obtain ⟨result, hresult, hnumber⟩ := hfound.exists_answer
      exact ⟨number, port, result, if_pos rfl, List.mem_cons_self,
        List.mem_append_left _ hresult, hnumber⟩
    · have hrest : portName ∈ numbers.map Prod.fst :=
        (List.mem_cons.1 hname).resolve_left (Ne.symm hfirst)
      obtain ⟨found, port, result, hget, hport, hresult, hnumber⟩ := ih hrest
      exact ⟨found, port, result, by rw [if_neg hfirst, hget], List.mem_cons_of_mem _ hport,
        List.mem_append_right _ hresult, hnumber⟩

/-- A started container is on the host of the runtime, and all its ports were found. -/
theorem start_found {docker : Docker} {blueprint : Blueprint} {w : World} {container : Container}
    (h : (docker.start commands blueprint w).outcome = .done container) :
    container.host = docker.host ∧ ∀ portName ∈ container.ports.map Prod.fst,
      ∃ number, Entries.get? container.ports portName = some number ∧
        Found commands blueprint (docker.start commands blueprint w).events container.containerId
          portName number := by
  have hcourse := docker.start_course commands blueprint w
  rw [h] at hcourse
  generalize hrow : acts (docker.start commands blueprint w).events = row at hcourse
  cases hcourse with
  | started result hstatus hfound =>
    refine ⟨rfl, fun portName hname => ?_⟩
    obtain ⟨number, port, answer, hget, hport, hanswer, hnumber⟩ := hfound.exists_answer hname
    refine ⟨number, hget, port, answer, hport, ?_, hnumber⟩
    have hacts := List.mem_cons_of_mem
      (.command (docker.launchProcess commands blueprint w) (.ok result)) hanswer
    rw [← hrow] at hacts
    exact List.mem_of_mem_filter hacts

end Docker

/-! ## What the driver gets -/

/-- A connection at an address passes host and port to the driver, in one login, and it ends as the
driver replies. -/
structure Access.Reaches (access : Access) (database address host port : String) (w : World) :
    Prop where
  login : dialogue (access.connect address database w).events =
    [.connect (access.login database host port) (w.connect (access.login database host port)).1]
  outcome : (access.connect address database w).outcome =
    match (w.connect (access.login database host port)).1 with
    | none => .done ()
    | some fault => .raised (fault.reported (Advice.connectionFailed address database))

namespace Container

/-- The address of a port is written unless the number has too many digits. -/
theorem address_eq {container : Container} {portName : String} {n : Int}
    (h : Entries.get? container.ports portName = some n) :
    container.address portName =
      if Number.isWritable n = true then .ok (container.host ++ ":" ++ Number.intText n)
      else .error Number.tooLong := by
  rw [address, h]
  simp only [Number.write]
  split <;> rfl

/-- The default host of the runtime is a host. -/
theorem isHost_default : Address.IsHost ({} : Docker).host := by decide

/-- The address of a port splits into the host and the number that it was written with, with
brackets around the host or without; only a number of too many digits is not written. So a
connection at any port of a started container passes the host of the runtime and the number that
docker printed to the driver. -/
theorem address_reaches_driver :
    (∀ (container : Container) (portName : String) (n : Nat), Address.IsHost container.host →
      Entries.get? container.ports portName = some (n : Int) →
      (Number.isWritable n = true →
        container.address portName = .ok (container.host ++ ":" ++ Number.intText n)) ∧
      (Number.isWritable n = false → container.address portName = .error Number.tooLong) ∧
      Address.split (container.host ++ ":" ++ Number.intText n) =
        .ok (container.host, Number.intText n) ∧
      Address.split ("[" ++ container.host ++ "]" ++ ":" ++ Number.intText n) =
        .ok (container.host, Number.intText n)) ∧
    Address.IsHost ({} : Docker).host ∧
    ∀ (docker : Docker) (commands : CommandRunner) (blueprint : Blueprint) (w : World)
      (container : Container), Address.IsHost docker.host →
      (docker.start commands blueprint w).outcome = .done container →
      ∀ portName ∈ container.ports.map Prod.fst, ∃ (n : Nat) (address : String),
        Docker.Found commands blueprint (docker.start commands blueprint w).events
          container.containerId portName n ∧
        Number.isWritable n = true ∧ container.address portName = .ok address ∧
        ∀ (access : Access) (database : String) (v : World),
          access.Reaches database address docker.host (Number.intText n) v := by
  refine ⟨fun container portName n hhost hport => ?_, isHost_default, ?_⟩
  · have haddress := address_eq hport
    refine ⟨fun hwritable => ?_, fun hwide => ?_, Address.split_written hhost n⟩
    · rwa [if_pos hwritable] at haddress
    · rwa [if_neg (by simp [hwide])] at haddress
  intro docker commands blueprint w container hhost hstart portName hname
  obtain ⟨hsame, hfound⟩ := Docker.start_found hstart
  obtain ⟨number, hport, hanswer⟩ := hfound portName hname
  have ⟨_, _, _, _, hpublished⟩ := hanswer
  obtain ⟨n, rfl, hwritable⟩ := Docker.of_publishedPort hpublished
  have haddress := address_eq hport
  rw [if_pos hwritable] at haddress
  rw [← hsame] at hhost ⊢
  have hsplit := (Address.split_written hhost n).1
  refine ⟨n, _, hanswer, hwritable, haddress, fun access database v => ?_⟩
  obtain ⟨hlogin, houtcome⟩ := access.connect_wellFormed database hsplit v
  exact ⟨hlogin, houtcome⟩

/-- A container with a port number of too many digits. -/
def hugePortContainer : Container :=
  { Runner.shopContainer with ports := [("default", Number.leastTooLong)] }

/-- The number of its port has no address, although the host is one and the number is not
negative. -/
theorem hugePort_has_no_address :
    Address.IsHost hugePortContainer.host ∧
      Entries.get? hugePortContainer.ports "default" = some (Number.leastTooLong : Int) ∧
      hugePortContainer.address "default" = .error Number.tooLong := by
  have hport : Entries.get? hugePortContainer.ports "default" =
      some (Number.leastTooLong : Int) := by
    rw [hugePortContainer, Entries.get?_cons, if_pos rfl]
  refine ⟨by decide, hport, ?_⟩
  rw [address_eq hport, Number.isWritable_leastTooLong]
  rfl

/-- A machine with a docker that prints a warning and pads its port numbers. -/
def paddingMachine : World :=
  { processes := [("docker run", [{ reply := .ok (0, "c1\n", "") }]),
      ("docker port", [{ reply := .ok (0, "no swap\r\n127.0.0.1:٠٠49153 \n[::]:1\n", "") }])] }

/-- The number behind the padding reaches the driver. -/
theorem paddedPort_reaches_driver :
    (Docker.start {} {} Runner.shop.blueprint paddingMachine).outcome = .done Runner.shopContainer ∧
      Address.split "[127.0.0.1]:49153" = .ok ("127.0.0.1", "49153") ∧
      ∃ (n : Nat) (address : String), Runner.shopContainer.address "default" = .ok address ∧
        ∀ (access : Access) (database : String) (v : World),
          access.Reaches database address "127.0.0.1" (Number.intText n) v := by
  have hvalue : Runner.valueOf (Docker.start {} {} Runner.shop.blueprint paddingMachine).outcome =
      some Runner.shopContainer := by decide +kernel
  have hstart := Runner.eq_done_of_valueOf hvalue
  obtain ⟨hwritten, hdefault, hstarted⟩ := address_reaches_driver
  obtain ⟨-, -, -, hbrackets⟩ :=
    hwritten Runner.shopContainer "default" 49153 hdefault (by decide)
  obtain ⟨n, address, -, -, haddress, hreaches⟩ :=
    hstarted {} {} Runner.shop.blueprint paddingMachine Runner.shopContainer hdefault hstart
      "default" (by decide)
  exact ⟨hstart, hbrackets, n, address, haddress, hreaches⟩

end Container

end SeededServer
