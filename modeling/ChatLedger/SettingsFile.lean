import ChatLedger.Settings
import ChatLedger.Toml.Document

/-!
# The settings file

Settings are kept in a TOML document. A file that is missing, is no text or does not hold settings
stands for the default settings as a whole, so that a mistake in it never stops the program.
-/

namespace ChatLedger

/-- The name of the settings file in the data directory. -/
def settingsFileName : String := "config.toml"

namespace Settings

/-- The number of fields of each section. -/
def sectionSizes : List (String × Nat) := [
  ("database", DatabaseSettings.fieldNames.length),
  ("pagination", PagingSettings.fieldNames.length),
  ("sessions", SessionSettings.fieldNames.length),
  ("subscriptions", SubscriptionSettings.fieldNames.length),
  ("limits", LimitSettings.fieldNames.length),
  ("telemetry", TelemetrySettings.fieldNames.length)]

/-- A section that is given as an array, without the items behind its last field. -/
def cutSection (member : String × Json) : String × Json :=
  match member.2, sectionSizes.lookup member.1 with
  | .list items, some size => (member.1, .list (items.take size))
  | _, _ => member

/-- The settings that a text holds, if it holds any. -/
def ofText? (source : String) : Option Settings := do
  match ← Toml.read? source with
  | .record members => Wire.decode (.record (members.map cutSection))
  | _ => none

/-- The settings of a file, given by its bytes unless it cannot be read. -/
def ofFile (bytes : Option ByteArray) : Settings :=
  ((bytes.bind String.fromUTF8?).bind ofText?).getD {}

end Settings

end ChatLedger
