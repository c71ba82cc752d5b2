import SearchQuery.Text.Basic

/-!
# The example file

The settings file that a user starts from: it spells out the built-in settings and shows how to override the
selectors.
-/

set_option autoImplicit false

namespace SearchQuery.Settings

def exampleLines : List String :=
  [
    "# mediathek-search configuration",
    "#",
    "# Location: ~/.config/mediathek-search/config.toml",
    "# Create with: mediathek-search init-config",
    "",
    "[search]",
    "# Fields searched by words typed without a selector.",
    "# Valid fields: channel, topic, title, description, duration, timestamp",
    "default_fields = [\"title\", \"description\"]",
    "",
    "[display]",
    "# Use colors in terminal output (also disabled by --no-color or NO_COLOR).",
    "colored_output = true",
    "",
    "# Selector overrides, one table per field.",
    "#",
    "# Any prefix of the built-in name or of an alias selects the field, so",
    "# \"c\", \"ch\" and \"channel\" all select the channel. Symbols are single",
    "# characters matched exactly. Two fields may never share a selector:",
    "# names of different fields must start with different letters.",
    "#",
    "# Built-in selectors:",
    "#   channel      channel, sender          !",
    "#   topic        programme, program       #",
    "#   title        title, titel             +",
    "#   description  info, beschreibung       *",
    "#   duration     duration, dauer",
    "#   timestamp    aired, ausgestrahlt      @",
    "",
    "# [selectors.channel]",
    "# aliases = [\"sender\", \"station\"]",
    "# symbols = [\"!\"]",
    "",
    "# [selectors.duration]",
    "# symbols = [\"~\"]"
  ]

def exampleText : Text :=
  exampleLines.flatMap fun line => line.toList ++ ['\n']

end SearchQuery.Settings
