import ImportStubs.Console.Style

/-!
# Named styles

Besides a definition, a style can be given by a name: those of this program's theme, and those that
every console knows.
-/

namespace ImportStubs.Console.Theme

def names : List String := [
  "vita.ok", "vita.warn", "vita.fail", "vita.border", "vita.header", "none", "reset", "dim",
  "bright", "bold", "strong", "code", "italic", "emphasize", "underline", "blink", "blink2",
  "reverse", "strike", "black", "red", "green", "yellow", "magenta", "cyan", "white",
  "inspect.attr", "inspect.attr.dunder", "inspect.callable", "inspect.async_def", "inspect.def",
  "inspect.class", "inspect.error", "inspect.equals", "inspect.help", "inspect.doc",
  "inspect.value.border", "live.ellipsis", "layout.tree.row", "layout.tree.column",
  "logging.keyword", "logging.level.notset", "logging.level.debug", "logging.level.info",
  "logging.level.warning", "logging.level.error", "logging.level.critical", "log.level", "log.time",
  "log.message", "log.path", "repr.ellipsis", "repr.indent", "repr.error", "repr.str", "repr.brace",
  "repr.comma", "repr.ipv4", "repr.ipv6", "repr.eui48", "repr.eui64", "repr.tag_start",
  "repr.tag_name", "repr.tag_contents", "repr.tag_end", "repr.attrib_name", "repr.attrib_equal",
  "repr.attrib_value", "repr.number", "repr.number_complex", "repr.bool_true", "repr.bool_false",
  "repr.none", "repr.url", "repr.uuid", "repr.call", "repr.path", "repr.filename", "rule.line",
  "rule.text", "json.brace", "json.bool_true", "json.bool_false", "json.null", "json.number",
  "json.str", "json.key", "prompt", "prompt.choices", "prompt.default", "prompt.invalid",
  "prompt.invalid.choice", "pretty", "scope.border", "scope.key", "scope.key.special",
  "scope.equals", "table.header", "table.footer", "table.cell", "table.title", "table.caption",
  "traceback.error", "traceback.border.syntax_error", "traceback.border", "traceback.text",
  "traceback.title", "traceback.exc_type", "traceback.exc_value", "traceback.offset",
  "traceback.error_range", "traceback.note", "traceback.group.border", "bar.back", "bar.complete",
  "bar.finished", "bar.pulse", "progress.description", "progress.filesize",
  "progress.filesize.total", "progress.download", "progress.elapsed", "progress.percentage",
  "progress.remaining", "progress.data.speed", "progress.spinner", "status.spinner", "tree",
  "tree.line", "markdown.paragraph", "markdown.text", "markdown.em", "markdown.emph",
  "markdown.strong", "markdown.code", "markdown.code_block", "markdown.kbd", "markdown.block_quote",
  "markdown.list", "markdown.item", "markdown.item.bullet", "markdown.item.number", "markdown.hr",
  "markdown.h1.border", "markdown.h1", "markdown.h2", "markdown.h3", "markdown.h4", "markdown.h5",
  "markdown.h6", "markdown.h7", "markdown.link", "markdown.link_url", "markdown.s",
  "markdown.table.border", "markdown.table.header", "iso8601.date", "iso8601.time",
  "iso8601.timezone"]

def defines (name : Text) : Bool := names.any (name.is ·)

/-- A name, or what is wrong with a definition. -/
def check (style : Text) : Except StyleError Unit :=
  if defines style then .ok () else (Style.parse style).map fun _ => ()

/-- Asks for a style that may be unknown. -/
def look (style : Text) : Except UnreadableNumber Unit :=
  match check style with
  | .ok () => .ok ()
  | .error e => match e.unreadable? with
    | some cause => .error cause
    | none => .ok ()

end ImportStubs.Console.Theme
