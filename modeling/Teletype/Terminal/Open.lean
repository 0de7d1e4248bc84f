import Teletype.Config
import Teletype.Device.Bridge
import Teletype.Device.Console
import Teletype.Device.Stream
import Teletype.Device.System
import Teletype.Terminal.Basic

/-!
# Opening terminals

To open a terminal is to find out its type, look up the description, and put
the device to work. Devices with pumps are resumed unless they are configured
to be paused.
-/

namespace Teletype.Terminal

variable {δ : Type} [Device δ]

/-- **What is known of a type of terminal**: from the descriptions known from the
start, or else from the program that prints them. -/
def describe (programs : Programs) (c : Config) (type : String) : Description :=
  Description.resolve programs type [.builtin, .command c.infocmp]

/-- A terminal opened on a device, as configured. -/
def configured (programs : Programs) (c : Config) (registry : Registry Unit) (name type : String)
    (device : δ) : Terminal δ :=
  onto device name type (describe programs c type) c.strict c.nativeSignals registry

/-- The pumps put to work, unless they are configured to be paused. -/
def started (c : Config) (t : Terminal δ) : Terminal δ :=
  if c.paused then t else t.changeDevice Device.resume

/-- **A terminal on a stream.** Its type is the one given, or else the configured
one. -/
def openStream (programs : Programs) (c : Config) (registry : Registry Unit) (name : String)
    (type : Option String) (sink : Sink) : Terminal StreamDevice :=
  (configured programs c registry name (type.getD c.type)
    (StreamDevice.new ⟨c.columns, c.rows⟩ sink)).started c

/-- **A terminal on a console.** The console tells its type. -/
def openConsole (programs : Programs) (c : Config) (registry : Registry Unit) (name : String)
    (sink : Sink) : Action Console (Terminal ConsoleDevice) := do
  let (type, device) ← ConsoleDevice.prepare (describe programs c) sink
  pure ((configured programs c registry name type device).started c)

/-- **The terminal of the process.** Its settings are the kernel's, or those of the
given tool. -/
def openSystem (programs : Programs) (c : Config) (registry : Registry Unit) (name : String)
    (tool : SttyTool) : Action SystemDevice (Terminal SystemDevice) := do
  SystemDevice.prepare c.prefersStty tool
  pure (configured programs c registry name c.type (← get))

/-- **A terminal between streams**, on a new pseudoterminal. Its type is the one given,
or else the configured one. -/
def openBridge (programs : Programs) (c : Config) (registry : Registry Unit) (name : String)
    (type : Option String) (sink : Sink) : Terminal BridgeDevice :=
  (configured programs c registry name (type.getD c.type) (BridgeDevice.new sink)).started c

end Teletype.Terminal
