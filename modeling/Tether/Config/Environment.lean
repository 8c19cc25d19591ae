import Tether.Config.Basic
import Tether.Json.Numeral

/-!
# `Tether.Config.Environment` — configuration by environment variables

Five variables override single defaults; a variable that does not parse is passed over, and so is an
empty secret. Two more say where the configuration file is looked for.

* `Config.ofEnvironment` — the defaults with the variables on top;
* `Config.defaultPath` — where the file is looked for.
-/

namespace Tether

/-- The values of environment variables. -/
abbrev Environment := String → Option String

namespace Config

/-- A natural number below `bound`: decimal digits, with a plus sign in front or not. -/
def natural? (bound : Nat) (s : String) : Option Nat :=
  let digits := match s.toList with
    | '+' :: cs => cs
    | cs => cs
  if digits.isEmpty || !digits.all Char.isDigit then none
  else
    let n := Json.Numeral.natural digits
    if n < bound then some n else none

/-- Changes a configuration by a value, if there is one. -/
def override {α : Type} (value : Option α) (change : Config → α → Config) (c : Config) : Config :=
  match value with
  | some a => change c a
  | none => c

/-- The default configuration with the environment on top. -/
def ofEnvironment (env : Environment) : Config :=
  ({} : Config)
    |> override (env "LTP_URL") (fun c url => { c with url })
    |> override (env "LTP_CLIENT_ID") (fun c clientId => { c with clientId })
    |> override ((env "LTP_SECRET_KEY").filter (· ≠ ""))
        (fun c s => { c with auth := { c.auth with secretKey := some s } })
    |> override ((env "LTP_HEARTBEAT_TIMEOUT_MS").bind (natural? 0x10000000000000000))
        (fun c n => { c with heartbeat := { c.heartbeat with timeout := UInt64.ofNat n } })
    |> override ((env "LTP_MAX_RETRIES").bind (natural? 0x100000000))
        (fun c n => { c with reconnect := { c.reconnect with maxRetries := UInt32.ofNat n } })

/-- A path with a further component. -/
def join (path component : String) : String :=
  if path.endsWith "/" then path ++ component else path ++ "/" ++ component

/-- The directory of configurations: `XDG_CONFIG_HOME` if it is absolute, otherwise `.config` in the
home directory, which is `HOME` unless that is empty, or the one of the user's account. -/
def directory? (env : Environment) (accountHome : Option String) : Option String :=
  match (env "XDG_CONFIG_HOME").filter (·.startsWith "/") with
  | some path => some path
  | none => (((env "HOME").filter (· ≠ "")).or accountHome).map (join · ".config")

/-- Where the configuration file is looked for. -/
def defaultPath? (env : Environment) (accountHome : Option String) : Option String :=
  (directory? env accountHome).map fun d => join (join d "ltp") "client.toml"

end Config
end Tether
