import DecisionBench.Program

/-!
# Database drivers

A driver reaches the server, and says in its own words what went wrong there.  The session is there
from the moment it is opened until it is closed, even if it does not close in order; what the driver
says of it becomes a fault of the program here.
-/

namespace DecisionBench

/-- A driver, with the rest of the world around the program. -/
structure Driver (σ : Type) where
  execute : String → σ → Except String Nat × σ
  countRows : String → σ → Except String Nat × σ
  close : σ → Except String Unit × σ
  /-- Attempts to open a session, and whatever does not concern it. -/
  around : Environment σ

namespace Driver

variable {σ : Type}

/-- The server rejected a statement. -/
def rejected (text : String) : Fault :=
  ⟨.query, text⟩

/-- The session did not close in order. -/
def unclosed (text : String) : Fault :=
  ⟨.connection, "Failed to close connection: " ++ text⟩

/-- The environment of a driver, which keeps whether there is a session. -/
def environment (driver : Driver σ) : Environment (σ × Bool) where
  answer
    | .connect address, (world, connected) =>
      let (opened, world) := driver.around.answer (.connect address) world
      (opened, world, connected || Except.isOk opened)
    | .execute statement, (world, true) =>
      let (told, world) := driver.execute statement world
      (told.mapError rejected, world, true)
    | .countRows statement, (world, true) =>
      let (told, world) := driver.countRows statement world
      (told.mapError rejected, world, true)
    | .execute _, (world, false) => (.error .sessionClosed, world, false)
    | .countRows _, (world, false) => (.error .sessionClosed, world, false)
    | .closeSession, (world, true) =>
      let (told, world) := driver.close world
      (told.mapError unclosed, world, false)
    | .closeSession, (world, false) => (.ok (), world, false)
    | effect, (world, connected) =>
      let (reply, world) := driver.around.answer effect world
      (reply, world, connected)

end Driver

end DecisionBench
