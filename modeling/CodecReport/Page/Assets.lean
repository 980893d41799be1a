/-!
# What every page brings along

The style sheet of a page, the script that relays selections in the browser, and the address of the library
that draws the figures. The script copies a click in one view, by row, to all other views of its panel,
shows the panel that the address names and fills in the announcement form.
-/

namespace CodecReport.Page

def rule (selector declarations : String) : String :=
  selector ++ " \x7b " ++ declarations ++ " \x7d"

def block (lines : List String) : String :=
  "\n" ++ "\n".intercalate lines ++ "\n"

def style : String :=
  block [
    rule "body"
      "font-family: -apple-system, BlinkMacSystemFont, \"Segoe UI\", Roboto, Helvetica, Arial, sans-serif; margin: 0 auto; max-width: 1000px; padding: 20px; color: #222;",
    rule "#datasets-list"
      "list-style: none; padding: 0; display: flex; flex-wrap: wrap; gap: 6px 14px;",
    rule ".results-table"
      "border-collapse: collapse; font-size: 0.85em; width: 100%;",
    rule ".results-table th, .results-table td"
      "border-bottom: 1px solid #ddd; padding: 3px 8px; text-align: left;",
    rule ".results-table tr.selected td"
      "background: #fff3b0;",
    rule ".results-table tbody tr"
      "cursor: pointer;",
    rule ".viz"
      "margin: 18px 0;",
    rule ".render-error, .load-error"
      "color: #b00020;",
    rule ".projection-warnings"
      "color: #8a6d00; font-size: 0.85em;"]

def script : String :=
  block [
    "(function () \x7b",
    "  var broadcasting = false;",
    "",
    "  function charts(panel) \x7b return Array.prototype.slice.call(panel.querySelectorAll('.plotly-graph-div')); \x7d",
    "  function tables(panel) \x7b return Array.prototype.slice.call(panel.querySelectorAll('table.results-table')); \x7d",
    "",
    "  function applyRows(target, rows) \x7b",
    "    if (target.tagName === 'TABLE') \x7b",
    "      target.querySelectorAll('tbody tr').forEach(function (tr) \x7b",
    "        tr.classList.toggle('selected', rows.indexOf(+tr.dataset.row) >= 0);",
    "      \x7d);",
    "    \x7d else \x7b",
    "      var sel = rows.length ? rows : null;",
    "      var traces = (target.data || []).map(function () \x7b return sel; \x7d);",
    "      Plotly.restyle(target, \x7bselectedpoints: traces\x7d);",
    "    \x7d",
    "  \x7d",
    "",
    "  function broadcast(panel, source, rows) \x7b",
    "    if (broadcasting) \x7b return; \x7d",
    "    broadcasting = true;",
    "    try \x7b",
    "      charts(panel).concat(tables(panel)).forEach(function (v) \x7b",
    "        if (v !== source) \x7b applyRows(v, rows); \x7d",
    "      \x7d);",
    "    \x7d finally \x7b",
    "      broadcasting = false;",
    "    \x7d",
    "  \x7d",
    "",
    "  function wire(panel) \x7b",
    "    charts(panel).forEach(function (div) \x7b",
    "      div.on('plotly_click', function (ev) \x7b",
    "        var rows = ev.points.map(function (p) \x7b return p.pointIndex; \x7d);",
    "        broadcast(panel, div, rows);",
    "      \x7d);",
    "      div.on('plotly_deselect', function () \x7b broadcast(panel, div, []); \x7d);",
    "    \x7d);",
    "    tables(panel).forEach(function (tbl) \x7b",
    "      tbl.querySelectorAll('tbody tr').forEach(function (tr) \x7b",
    "        tr.addEventListener('click', function () \x7b",
    "          applyRows(tbl, [+tr.dataset.row]);",
    "          broadcast(panel, tbl, [+tr.dataset.row]);",
    "        \x7d);",
    "      \x7d);",
    "    \x7d);",
    "  \x7d",
    "",
    "  function show(id) \x7b",
    "    document.querySelectorAll('.dataset-panel').forEach(function (panel) \x7b",
    "      var visible = panel.id === id;",
    "      panel.style.display = visible ? '' : 'none';",
    "      if (visible) \x7b charts(panel).forEach(function (div) \x7b Plotly.Plots.resize(div); \x7d); \x7d",
    "    \x7d);",
    "  \x7d",
    "",
    "  document.addEventListener('DOMContentLoaded', function () \x7b",
    "    document.querySelectorAll('.dataset-panel').forEach(wire);",
    "    if (window.location.hash) \x7b show(decodeURIComponent(window.location.hash.substring(1))); \x7d",
    "    window.addEventListener('hashchange', function () \x7b",
    "      show(decodeURIComponent(window.location.hash.substring(1)));",
    "    \x7d);",
    "",
    "    var params = new URLSearchParams(window.location.search);",
    "    if (params.has('email')) \x7b",
    "      document.getElementById('announce-email').value = params.get('email');",
    "    \x7d",
    "  \x7d);",
    "\x7d)();"]

def libraryAddress : String := "https://cdn.plot.ly/plotly-2.35.2.min.js"

/-- What stands for the text of the drawing library in a page that carries it. -/
def libraryText : String := "/*plotly.js*/"

end CodecReport.Page
