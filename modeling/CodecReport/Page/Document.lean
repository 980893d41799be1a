import CodecReport.Page.Assets
import CodecReport.Query
import CodecReport.Settings

/-!
# The frame of a page

What all pages share: the head with style and drawing library, the announcement form, which a configured
query may fill in, the body and the script. A page about a load failure is this frame around one sentence.
-/

namespace CodecReport.Page

def defaultTitle : String := "Squash Compression Benchmark"

def settings (config : Value) : Except Fault Value :=
  config.orEmpty.configSection "page"

def title (page : Value) : Except Fault String :=
  page.toldEntry "title" defaultTitle

def prefill (page : Value) : Except Fault (Option String) := do
  let query ← page.entryD "query" (.text "")
  return Query.email? (← if query.truthy then query.told else .ok "")

def libraryMode (page : Value) : Except Fault String :=
  page.toldEntry "plotly_js" "cdn"

def libraryHtml (mode : String) : String :=
  if mode = "inline" then "<script>" ++ libraryText ++ "</script>"
  else "<script src=\"" ++ libraryAddress ++ "\"></script>"

/-- The attribute of the form's field that fills it in; nothing for no address or an empty one. -/
def prefillAttribute : Option String → String
  | some address => if address = "" then "" else " value=\"" ++ Text.escape address ++ "\""
  | none => ""

def formHtml (address : Option String) : String :=
  "<form id=\"announce\" onsubmit=\"return false;\">"
    ++ "<label for=\"announce-email\">Get notified when new results are published:</label> "
    ++ "<input type=\"email\" id=\"announce-email\" name=\"email\"" ++ prefillAttribute address ++ ">"
    ++ "</form>"

def headingHtml (title : String) : String :=
  "<h1>" ++ Text.escape title ++ "</h1>"

def resultsHtml (results : String) : String :=
  "<div id=\"results\">" ++ results ++ "</div>"

/-- A page with the given parts of its body. -/
def document (title : String) (parts : List String) (mode : String) : String :=
  "<!DOCTYPE html>\n<html>\n<head>\n<meta charset=\"utf-8\">\n"
    ++ "<title>" ++ Text.escape title ++ "</title>\n"
    ++ libraryHtml mode ++ "\n"
    ++ "<style>" ++ style ++ "</style>\n</head>\n<body>\n"
    ++ "\n".intercalate parts ++ "\n"
    ++ "<script>" ++ script ++ "</script>\n</body>\n</html>\n"

def failureHtml (text : String) : String :=
  "<p class=\"load-error\">" ++ text ++ "</p>"

def ofFailure (message : String) (config : Value) : Except Fault String := do
  let page ← settings config
  let title ← title page
  let address ← prefill page
  return document title
    [headingHtml title, formHtml address,
     resultsHtml (failureHtml ("Unable to load benchmark results: " ++ Text.escape message))]
    (← libraryMode page)

end CodecReport.Page
