import ChatBlocks.Text.Lines

/-!
# Help

The texts that the program prints about itself.
-/

namespace ChatBlocks.CommandLine

def versionText : String := "md-blockkit 0.1.0\n"

def helpLines : List String := [
  "Command-line converter from Markdown to chat-platform message blocks",
  "",
  "Usage: md-blockkit [OPTIONS] [FILE]",
  "",
  "Arguments:",
  "  [FILE]  Markdown file to convert. Reads from stdin when omitted",
  "",
  "Options:",
  "      --compact        Print single-line JSON",
  "      --config <PATH>  Use this configuration file instead of the default",
  "      --tokens         Print the intermediate token tree instead of blocks",
  "  -h, --help           Print help",
  "  -V, --version        Print version",
  "",
  "CONFIGURATION:",
  "  Optional TOML file at ~/.config/md-blockkit/config.toml:",
  "",
  "    bullet = \"• \"         # unordered list prefix",
  "    header_emoji = true    # emoji flag on headers",
  "    image_blocks = false   # lone images become image blocks",
  "    pretty = true          # pretty-print JSON",
  "",
  "EXAMPLES:",
  "  md-blockkit README.md",
  "  cat README.md | md-blockkit --compact"]

def helpText : String :=
  Text.joinLines helpLines ++ "\n"

def usageText : String :=
  "Usage: md-blockkit [OPTIONS] [FILE]\n\nFor more information, try '--help'.\n"

end ChatBlocks.CommandLine
