import ConfigLint.Schema
/-!
The schema that is used unless another one is named: the options of the terminal whose
configuration files are checked.
-/
namespace ConfigLint
namespace Bundled

def words (ws : List String) : List CodeText := ws.map fun w => CodeText.ofText w.toList

def types : List (Text × TypeDecl) := [
  ("cursor-style".toList, {
    description := "Shape of the terminal cursor".toList
    values := words ["block", "bar", "underline", "block_hollow"] }),
  ("window-decoration".toList, {
    description := "Window decoration mode".toList
    values := words ["auto", "client", "server", "none", "true", "false"] }),
  ("padding".toList, {
    description := "One value for both sides, or two comma-separated values".toList
    pattern := some "\\d+(\\s*,\\s*\\d+)?".toList
    examples := words ["2", "4,8"] }),
  ("font-feature".toList, {
    description := "OpenType feature tag, optionally prefixed with - or +".toList
    pattern := some "[-+]?[A-Za-z0-9]\x7b4\x7d(=\\d+)?".toList
    examples := words ["-calt", "+ss01", "liga"] }),
  ("env-entry".toList, {
    description := "Environment variable assignment".toList
    pattern := some "[A-Za-z_][A-Za-z0-9_]*=.*".toList
    examples := words ["TERM=xterm-256color"] })]

def options : List (Text × OptionDecl) := [
  ("font-family".toList, {
    type := "font-family".toList
    description := "The font families to use, in fallback order.".toList
    repeatable := true }),
  ("font-family-bold".toList, {
    type := "font-family".toList
    description := "Font family for bold text.".toList
    repeatable := true }),
  ("font-family-italic".toList, {
    type := "font-family".toList
    description := "Font family for italic text.".toList
    repeatable := true }),
  ("font-family-bold-italic".toList, {
    type := "font-family".toList
    description := "Font family for bold italic text.".toList
    repeatable := true }),
  ("font-size".toList, {
    type := "number".toList
    description := "Font size in points.".toList
    default := .int 13
    constraints := { min := some (.ofInt 1), max := some (.ofInt 255) } }),
  ("font-feature".toList, {
    type := "font-feature".toList
    description := "OpenType font features to enable or disable.".toList }),
  ("font-variation".toList, {
    type := "string".toList
    description := "Variable font axis settings, e.g. wght=600.".toList }),
  ("font-codepoint-map".toList, {
    type := "string".toList
    description :=
      "Force a font for a range of codepoints, e.g. U+E000-U+F8FF=Symbols Nerd Font.".toList }),
  ("font-thicken".toList, {
    type := "boolean".toList
    description := "Draw fonts with a thicker stroke.".toList
    default := .bool false
    platforms := words ["macos"] }),
  ("adjust-cell-width".toList, {
    type := "string".toList
    description := "Adjust the cell width by an integer or a percentage.".toList
    constraints := { pattern := some "[+-]?\\d+%?".toList } }),
  ("adjust-cell-height".toList, {
    type := "string".toList
    description := "Adjust the cell height by an integer or a percentage.".toList
    constraints := { pattern := some "[+-]?\\d+%?".toList } }),
  ("theme".toList, {
    type := "string".toList
    description := "A theme name, or light:NAME,dark:NAME.".toList }),
  ("background".toList, {
    type := "color".toList
    description := "Background color for the window.".toList
    default := .str "#282c34".toList }),
  ("foreground".toList, {
    type := "color".toList
    description := "Foreground color for the window.".toList
    default := .str "#ffffff".toList }),
  ("selection-background".toList, {
    type := "color".toList
    description := "Background color of selected text.".toList }),
  ("selection-foreground".toList, {
    type := "color".toList
    description := "Foreground color of selected text.".toList }),
  ("cursor-color".toList, {
    type := "color".toList
    description := "The color of the cursor.".toList }),
  ("cursor-text".toList, {
    type := "color".toList
    description := "Color of the text under the cursor.".toList }),
  ("palette".toList, {
    type := "palette".toList
    description := "Set one of the 256 palette colors as N=COLOR.".toList
    repeatable := true }),
  ("background-opacity".toList, {
    type := "number".toList
    description := "Opacity of the background, 0 to 1.".toList
    default := .int 1
    constraints := { min := some (.ofInt 0), max := some (.ofInt 1) } }),
  ("background-blur-radius".toList, {
    type := "number".toList
    description := "Blur radius behind a transparent background.".toList
    default := .int 0
    constraints := { min := some (.ofInt 0), integer := true } }),
  ("unfocused-split-opacity".toList, {
    type := "number".toList
    description := "Opacity of unfocused splits.".toList
    default := .float (.ofDecimal false 7 (-1))
    constraints := { min := some (.ofDecimal false 15 (-2)), max := some (.ofInt 1) } }),
  ("minimum-contrast".toList, {
    type := "number".toList
    description := "Minimum contrast ratio between foreground and background.".toList
    default := .int 1
    constraints := {
      min := some (.ofInt 1)
      max := some (.ofInt 21)
      severity := some "warning".toList } }),
  ("cursor-style".toList, {
    type := "cursor-style".toList
    description := "The style of the cursor.".toList
    default := .str "block".toList }),
  ("cursor-style-blink".toList, {
    type := "boolean".toList
    description := "Whether the cursor blinks.".toList }),
  ("cursor-opacity".toList, {
    type := "number".toList
    description := "Opacity of the cursor.".toList
    default := .int 1
    constraints := { min := some (.ofInt 0), max := some (.ofInt 1) } }),
  ("mouse-hide-while-typing".toList, {
    type := "boolean".toList
    description := "Hide the mouse cursor while typing.".toList
    default := .bool false }),
  ("mouse-scroll-multiplier".toList, {
    type := "number".toList
    description := "Multiplier for scroll distance.".toList
    default := .int 1
    constraints := { min := some (.ofDecimal false 1 (-2)), max := some (.ofInt 10000) } }),
  ("window-padding-x".toList, {
    type := "padding".toList
    description := "Horizontal window padding in points.".toList
    default := .str "2".toList }),
  ("window-padding-y".toList, {
    type := "padding".toList
    description := "Vertical window padding in points.".toList
    default := .str "2".toList }),
  ("window-padding-balance".toList, {
    type := "boolean".toList
    description := "Balance padding to center the grid.".toList
    default := .bool false }),
  ("window-decoration".toList, {
    type := "window-decoration".toList
    description := "Window decoration mode.".toList
    default := .str "auto".toList }),
  ("window-theme".toList, {
    type := "enum".toList
    description := "Theme of the window chrome.".toList
    default := .str "auto".toList
    values := words ["auto", "system", "light", "dark", "ghostty"] }),
  ("window-width".toList, {
    type := "number".toList
    description := "Initial window width in cells.".toList
    constraints := { min := some (.ofInt 10), integer := true } }),
  ("window-height".toList, {
    type := "number".toList
    description := "Initial window height in cells.".toList
    constraints := { min := some (.ofInt 4), integer := true } }),
  ("window-save-state".toList, {
    type := "enum".toList
    description := "Whether to restore window state on launch.".toList
    default := .str "default".toList
    platforms := words ["macos"]
    values := words ["default", "never", "always"] }),
  ("window-colorspace".toList, {
    type := "enum".toList
    description := "Colorspace used for configured colors.".toList
    default := .str "srgb".toList
    platforms := words ["macos"]
    values := words ["srgb", "display-p3"] }),
  ("macos-option-as-alt".toList, {
    type := "enum".toList
    description := "Treat the Option key as Alt.".toList
    platforms := words ["macos"]
    values := words ["true", "false", "left", "right"] }),
  ("macos-titlebar-style".toList, {
    type := "enum".toList
    description := "Style of the macOS titlebar.".toList
    default := .str "transparent".toList
    platforms := words ["macos"]
    values := words ["native", "transparent", "tabs", "hidden"] }),
  ("macos-non-native-fullscreen".toList, {
    type := "enum".toList
    description := "Use non-native fullscreen.".toList
    default := .str "false".toList
    platforms := words ["macos"]
    values := words ["true", "false", "visible-menu", "padded-notch"] }),
  ("gtk-single-instance".toList, {
    type := "enum".toList
    description := "Run as a single GTK application instance.".toList
    default := .str "desktop".toList
    platforms := words ["linux"]
    values := words ["desktop", "true", "false", "detect"] }),
  ("gtk-titlebar".toList, {
    type := "boolean".toList
    description := "Show the GTK titlebar.".toList
    default := .bool true
    platforms := words ["linux"] }),
  ("gtk-tabs-location".toList, {
    type := "enum".toList
    description := "Location of the GTK tab bar.".toList
    default := .str "top".toList
    platforms := words ["linux"]
    values := words ["top", "bottom", "hidden"] }),
  ("gtk-adwaita".toList, {
    type := "boolean".toList
    description := "Use libadwaita widgets.".toList
    default := .bool true
    deprecated := true
    platforms := words ["linux"] }),
  ("scrollback-limit".toList, {
    type := "number".toList
    description := "Scrollback buffer size in bytes.".toList
    default := .int 10000000
    constraints := { min := some (.ofInt 0), integer := true } }),
  ("shell-integration".toList, {
    type := "enum".toList
    description := "Shell integration to inject.".toList
    default := .str "detect".toList
    values := words ["none", "detect", "bash", "elvish", "fish", "zsh"] }),
  ("shell-integration-features".toList, {
    type := "string".toList
    description := "Comma-separated shell integration features.".toList }),
  ("command".toList, {
    type := "string".toList
    description := "The command to run, usually a shell.".toList }),
  ("working-directory".toList, {
    type := "string".toList
    description := "Initial working directory: home, inherit, or a path.".toList }),
  ("env".toList, {
    type := "env-entry".toList
    description := "Extra environment variables for the child process.".toList
    repeatable := true }),
  ("keybind".toList, {
    type := "keybind".toList
    description := "Bind a key trigger to an action, e.g. ctrl+c=copy_to_clipboard.".toList
    repeatable := true }),
  ("copy-on-select".toList, {
    type := "enum".toList
    description := "Copy selected text to the clipboard.".toList
    default := .str "true".toList
    values := words ["true", "false", "clipboard"] }),
  ("clipboard-read".toList, {
    type := "enum".toList
    description := "Whether programs may read the clipboard.".toList
    default := .str "ask".toList
    values := words ["allow", "deny", "ask"] }),
  ("clipboard-write".toList, {
    type := "enum".toList
    description := "Whether programs may write the clipboard.".toList
    default := .str "allow".toList
    values := words ["allow", "deny", "ask"] }),
  ("confirm-close-surface".toList, {
    type := "enum".toList
    description := "Confirm before closing a surface with a running process.".toList
    default := .str "true".toList
    values := words ["true", "false", "always"] }),
  ("quit-after-last-window-closed".toList, {
    type := "boolean".toList
    description := "Quit when the last window closes.".toList }),
  ("quit-after-last-window-closed-delay".toList, {
    type := "duration".toList
    description := "Delay before quitting after the last window closes.".toList
    platforms := words ["linux"] }),
  ("resize-overlay-duration".toList, {
    type := "duration".toList
    description := "How long the resize overlay stays visible.".toList
    default := .str "750ms".toList }),
  ("auto-update".toList, {
    type := "enum".toList
    description := "Automatic update behavior.".toList
    platforms := words ["macos"]
    values := words ["off", "check", "download"] }),
  ("config-file".toList, {
    type := "path".toList
    description :=
      "Additional configuration file to load; prefix with ? to make it optional.".toList
    repeatable := true }),
  ("custom-shader".toList, {
    type := "path".toList
    description := "Path to a custom GLSL shader.".toList }),
  ("bold-is-bright".toList, {
    type := "boolean".toList
    description := "Draw bold text with bright palette colors.".toList
    default := .bool false }),
  ("term".toList, {
    type := "string".toList
    description := "Value of the TERM environment variable.".toList
    default := .str "xterm-ghostty".toList }),
  ("title".toList, {
    type := "string".toList
    description := "Fixed window title.".toList }),
  ("link-url".toList, {
    type := "boolean".toList
    description := "Detect and open URLs.".toList
    default := .bool true })]

def repeatableKeys : List CodeText :=
  words ["keybind", "palette", "font-family", "font-family-bold", "font-family-italic",
    "font-family-bold-italic", "font-feature", "font-variation", "font-codepoint-map",
    "config-file", "env", "custom-shader"]

def table {α : Type} (entries : List (Text × α)) : Table CodeText α :=
  .ofList (entries.map fun e => (CodeText.ofText e.1, e.2))

end Bundled

/-- The bundled schema. -/
def Schema.bundled : Schema where
  version := "1.1.3".toList
  description := "Ghostty configuration options".toList
  options := Bundled.table Bundled.options
  types := Bundled.table Bundled.types
  repeatableKeys := Bundled.repeatableKeys

end ConfigLint
